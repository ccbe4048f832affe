import SensorBench.Delivery.Hub

/-!
# What collectors count

A batch adds to the flush markers counted for a sensor those that it brings for it
(`Collector.flushCount_deliver`). A session dispatches to the collector registered with it
and to no other, and no dispatch changes who reads a queue.
-/

set_option autoImplicit false

namespace SensorBench

namespace Collector

theorem lookup_adjust {α : Type} (h k : Handle) (missing : α) (f : α → α)
    (entries : List (Handle × α)) :
    (adjust h missing f entries).lookup k =
      if k = h then some (f ((entries.lookup h).getD missing)) else entries.lookup k := by
  induction entries with
  | nil =>
    rw [adjust, List.lookup_cons]
    by_cases hk : k = h
    · simp [hk]
    · simp [hk, beq_false_of_ne hk]
  | cons entry rest ih =>
    obtain ⟨key, a⟩ := entry
    rw [adjust]
    by_cases hkey : key = h
    · subst hkey
      by_cases hk : k = key
      · simp [hk]
      · simp [List.lookup_cons, hk, beq_false_of_ne hk]
    -- the entry to change lies further on
    · rw [if_neg hkey, List.lookup_cons, ih, List.lookup_cons, List.lookup_cons,
        beq_false_of_ne (Ne.symm hkey)]
      by_cases hk : k = h
      · rw [hk, beq_false_of_ne (Ne.symm hkey)]
      · simp [hk]

/-- The flush markers for a sensor among some events. -/
def markersFor (h : Handle) (batch : List Event) : Nat :=
  batch.countP fun e => e.isFlushMarker && e.handle = h

theorem lookup_countMarkers (h : Handle) (batch : List Event) (entries : List (Handle × Nat)) :
    (((batch.filter (·.isFlushMarker)).foldl (fun acc e => adjust e.handle 0 (· + 1) acc)
        entries).lookup h).getD 0 = (entries.lookup h).getD 0 + markersFor h batch := by
  induction batch generalizing entries with
  | nil => rfl
  | cons e rest ih =>
    rw [markersFor, List.countP_cons]
    cases hm : e.isFlushMarker with
    | false =>
      rw [List.filter_cons_of_neg (by simp [hm]), ih]
      simp [markersFor]
    | true =>
      rw [List.filter_cons_of_pos hm, List.foldl_cons, ih, lookup_adjust, markersFor]
      by_cases hh : h = e.handle
      · subst hh
        simp
        omega
      · simp [hh, Ne.symm hh]

/-- A batch adds the flush markers that it brings. -/
theorem flushCount_deliver (c : Collector) (batch : List Event) (h : Handle) :
    (c.deliver batch).flushCount h = c.flushCount h + markersFor h batch :=
  lookup_countMarkers h batch c.markers

end Collector

namespace Hub

/-- The collector registered with a session. -/
def sink? (hub : Hub) (session : Nat) : Option Nat := hub.sessions[session]?.bind (·.sink)

section Sinks

variable (hub : Hub) (n : Nat)

theorem sink?_modify {f : Session → Session} (hf : ∀ s, (f s).sink = s.sink) (k : Nat) :
    { hub with sessions := hub.sessions.modify k f }.sink? n = hub.sink? n := by
  rw [sink?, sink?, Array.getElem?_modify]
  split
  · cases hub.sessions[n]? with
    | none => rfl
    | some s => exact hf s
  · rfl

theorem sink?_newSession : hub.newSession.2.sink? n = hub.sink? n := by
  rw [sink?, sink?, newSession, Array.getElem?_push]
  split
  · next h =>
    rw [h, Array.getElem?_eq_none (Nat.le_refl _)]
    rfl
  · rfl

theorem sink?_unregister : (hub.unregister n).sink? n = none := by
  rw [sink?, unregister, Array.getElem?_modify, if_pos rfl]
  cases hub.sessions[n]? <;> rfl

theorem sink?_register {n : Nat} (hn : n < hub.sessions.size) (collector : Nat) :
    (hub.register n collector).sink? n = some collector := by
  rw [sink?, register, Array.getElem?_modify, if_pos rfl, Array.getElem?_eq_getElem hn]
  rfl

theorem sink?_dispatch (session : Nat) (batch : List Event) :
    (hub.dispatch session batch).sink? n = hub.sink? n := by
  refine sink?_modify hub n ?_ session
  exact fun _ => rfl

theorem sink?_readerStep (session : Nat) : (hub.readerStep session).sink? n = hub.sink? n := by
  rw [readerStep]
  split
  · rfl
  · split
    · exact sink?_dispatch _ n session _
    · rfl

theorem sink?_write (queue : Nat) (batch : List Event) :
    (hub.write queue batch).2.sink? n = hub.sink? n := by
  rw [write]
  split
  · rfl
  · dsimp only
    split
    · exact sink?_readerStep _ n _
    · rfl

theorem sink?_detach (session : Nat) : (hub.detach session).sink? n = hub.sink? n := by
  rw [detach]
  split
  · rfl
  · refine sink?_modify hub n ?_ session
    exact fun _ => rfl

theorem sink?_attach (session queue : Nat) : (hub.attach session queue).sink? n = hub.sink? n := by
  rw [← sink?_detach hub n session]
  refine sink?_modify (hub.detach session) n ?_ session
  exact fun _ => rfl

theorem sink?_arm (session : Nat) : (hub.arm session).sink? n = hub.sink? n := by
  refine sink?_modify hub n ?_ session
  exact fun _ => rfl

theorem sink?_disarm (session : Nat) : (hub.disarm session).2.sink? n = hub.sink? n := by
  refine sink?_modify hub n ?_ session
  exact fun _ => rfl

end Sinks

section Readers

variable (hub : Hub) (queue : Nat)

theorem readerOf?_eq :
    hub.readerOf? queue = (hub.sessions.map (·.reader)).findIdx? (· == some queue) := by
  rw [Array.findIdx?_map]
  rfl

theorem readerOf?_modify {f : Session → Session} (hf : ∀ s, (f s).reader = s.reader) (k : Nat) :
    { hub with sessions := hub.sessions.modify k f }.readerOf? queue = hub.readerOf? queue := by
  have hsame : (hub.sessions.modify k f).map (·.reader) = hub.sessions.map (·.reader) := by
    apply Array.ext_getElem?
    intro i
    rw [Array.getElem?_map, Array.getElem?_map, Array.getElem?_modify]
    split
    · cases hub.sessions[i]? with
      | none => rfl
      | some s => exact congrArg some (hf s)
    · rfl
  rw [readerOf?_eq, hsame, readerOf?_eq]

theorem readerOf?_dispatch (session : Nat) (batch : List Event) :
    (hub.dispatch session batch).readerOf? queue = hub.readerOf? queue := by
  refine readerOf?_modify hub queue ?_ session
  exact fun _ => rfl

theorem lt_of_readerOf? {session : Nat} (h : hub.readerOf? queue = some session) :
    session < hub.sessions.size :=
  (Array.findIdx?_eq_some_iff_getElem.1 h).1

end Readers

section Collectors

variable (hub : Hub)

theorem collector_dispatch {session k : Nat} (hsink : hub.sink? session = some k)
    (hk : k < hub.collectors.size) (batch : List Event) :
    (hub.dispatch session batch).collector k = (hub.collector k).deliver batch := by
  rw [sink?] at hsink
  rw [collector, dispatch, hsink, collector, Array.getD_eq_getD_getElem?,
    Array.getD_eq_getD_getElem?, Array.getElem?_modify, if_pos rfl, Array.getElem?_eq_getElem hk]
  rfl

theorem size_collectors_dispatch (session : Nat) (batch : List Event) :
    (hub.dispatch session batch).collectors.size = hub.collectors.size := by
  rw [dispatch]
  dsimp only
  split
  · exact Array.size_modify
  · rfl

theorem collector_newCollector : hub.newCollector.2.collector hub.newCollector.1 = .empty := by
  rw [collector, newCollector, Array.getD_eq_getD_getElem?, Array.getElem?_push_size]
  rfl

end Collectors

end Hub

end SensorBench
