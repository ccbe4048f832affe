import SensorBench.Proofs.Hal.Holding
import SensorBench.Proofs.Suite.Acts

/-!
# Hosts that serve the reference HAL

A host serves the reference HAL if each of its requests does to the HAL what the request
says, and lets time go by before and after it (`Serves`). Such a host may panic at any
request before the HAL has seen it, but for a release, a request to unregister a channel
and the end of a subscription. A state is in order if all that the HAL holds is noted by
a guard and, where that is asked for, no collector is registered (`View.Kept`). Acts
under a guard and acts with a subscription keep states in order from one end to the
other, on every way out (`Serves.guarded_keeps`, `Serves.subscribed_keeps`).
-/

set_option autoImplicit false

namespace SensorBench

/-- What is seen of the state of a host: the HAL, the collector registered with the
session under test, the notes of a guard, and whether the state is one that the host can
be in. -/
structure View (τ : Type) where
  hal : τ → Hal
  sink : τ → Option Nat
  notes : τ → Guard
  fit : τ → Prop

namespace View

variable {ρ τ : Type}

/-- The view of a state with a value beside it. -/
def beside (v : View τ) : View (ρ × τ) :=
  ⟨fun s => v.hal s.2, fun s => v.sink s.2, fun s => v.notes s.2, fun s => v.fit s.2⟩

/-- The view of a state with a guard beside it. -/
def guarded (v : View τ) : View (Guard × τ) :=
  ⟨fun s => v.hal s.2, fun s => v.sink s.2, Prod.fst, fun s => v.fit s.2⟩

/-- No guard has a note of anything. -/
def Bare (v : View τ) : Prop := ∀ s, v.notes s = .empty

/-- The HAL is idle, and no collector is registered. -/
structure AtRest (v : View τ) (s : τ) : Prop where
  idle : (v.hal s).Idle
  silent : v.sink s = none

/-- A state in order: all that the HAL holds is noted, and no collector is registered if
the state is to be quiet. -/
structure Kept (v : View τ) (quiet : Bool) (s : τ) : Prop where
  fit : v.fit s
  noted : ∀ r, (v.hal s).Holds r → (v.notes s).Notes r
  silent : quiet = true → v.sink s = none

end View

/-- A call has been answered by the reference HAL, some time before and after it. -/
inductive Replied (b : Behaviour) (hal : Hal) (c : Call) : Except Status Int → Hal → Prop
  | accepted (before next after : Hal) (now n : Int) : hal.Passes b before →
      before.performAtFront b now c = .ok (n, next) → next.Passes b after →
      Replied b hal c (.ok n) after
  | rejected (before after : Hal) (now : Int) (status : Status) : hal.Passes b before →
      before.performAtFront b now c = .error status → before.Passes b after →
      Replied b hal c (.error status) after

/-- A client has been connected, some time before and after it, or only time has gone by. -/
def Reached (b : Behaviour) (hal after : Hal) : Prop :=
  hal.Passes b after ∨ ∃ before queue isOpen, hal.Passes b before ∧
    (before.connect b queue isOpen).Passes b after

/-- What a request does to the HAL, given its answer. -/
def HalEffect (b : Behaviour) (hal after : Hal) : (q : Request) → Except String q.Answer → Prop
  | .call c, .ok reply => Replied b hal c reply after
  | .call c, .error _ => (∀ n, c ≠ .unregister n) ∧ hal.Passes b after
  | .release c, .ok reply => Replied b hal c reply after
  | .release c, .error _ => (∀ r : Resource, c ≠ r.release) ∧ hal.Passes b after
  | .connect _, _ => Reached b hal after
  | .reconnect _, _ => Reached b hal after
  | _, _ => hal.Passes b after

/-- What a request does to the registered collector, given its answer. -/
def SinkEffect (sink after : Option Nat) : (q : Request) → Except String q.Answer → Prop
  | .subscribe, .ok _ => True
  | .unsubscribe, .ok _ => after = none
  | .unsubscribe, .error _ => False
  | _, _ => after = sink ∨ after = none

/-- The host serves the reference HAL that is seen in its state. -/
structure Serves {τ : Type} (b : Behaviour) (host : Host τ) (v : View τ) : Prop where
  sound : ∀ s, v.fit s → (v.hal s).Sound
  fit : ∀ q s, v.fit s → v.fit (host q s).2
  notes : ∀ q s, v.notes (host q s).2 = v.notes s
  effect : ∀ q s, v.fit s → HalEffect b (v.hal s) (v.hal (host q s).2) q (host q s).1
  sink : ∀ q s, v.fit s → SinkEffect (v.sink s) (v.sink (host q s).2) q (host q s).1

/-- The requests that are neither calls nor the start of a subscription. -/
def Request.IsPlain : Request → Prop
  | .call _ | .release _ | .subscribe => False
  | _ => True

section Effects

variable {b : Behaviour} {hal after : Hal} {r : Resource}

theorem Reached.sound (h : Reached b hal after) (hsound : hal.Sound) : after.Sound := by
  rcases h with h | ⟨before, queue, isOpen, hbefore, hafter⟩
  · exact h.sound hsound
  · exact hafter.sound ((hbefore.sound hsound).step b ⟨0, .connect queue isOpen⟩)

theorem Reached.holds (h : Reached b hal after) (hsound : hal.Sound) (hr : after.Holds r) :
    hal.Holds r := by
  rcases h with h | ⟨before, queue, isOpen, hbefore, hafter⟩
  · exact hr.of_passes hsound h
  · have hconnected : (before.connect b queue isOpen).Sound :=
      (hbefore.sound hsound).step b ⟨0, .connect queue isOpen⟩
    exact (hr.of_passes hconnected hafter).of_connect.of_passes hsound hbefore

theorem Replied.sound {c : Call} {reply : Except Status Int} (h : Replied b hal c reply after)
    (hsound : hal.Sound) : after.Sound := by
  cases h with
  | accepted before next after now n hbefore hok hafter =>
    have hnext := (hbefore.sound hsound).step b ⟨now, .call c⟩
    exact hafter.sound ((Hal.performAtFront_ok hok).1 ▸ hnext)
  | rejected before after now status hbefore herror hafter =>
    exact hafter.sound (hbefore.sound hsound)

/-- What is held after a call was acquired by it, or was held before and is not what the
call releases. -/
theorem Replied.holds {c : Call} {reply : Except Status Int} (h : Replied b hal c reply after)
    (hsound : hal.Sound) (hr : after.Holds r) :
    r.Acquired (c, reply) ∨ hal.Holds r ∧ c ≠ r.release := by
  cases h with
  | accepted before next after now n hbefore hok hafter =>
    have hfront := hbefore.sound hsound
    have hnext : next.Sound := (Hal.performAtFront_ok hok).1 ▸ hfront.step b ⟨now, .call c⟩
    rcases Hal.holds_front hfront hok (hr.of_passes hnext hafter) with hacquired | ⟨hold, hne⟩
    · exact Or.inl hacquired
    · exact Or.inr ⟨hold.of_passes hsound hbefore, hne⟩
  | rejected before after now status hbefore herror hafter =>
    have hold := hr.of_passes (hbefore.sound hsound) hafter
    refine Or.inr ⟨hold.of_passes hsound hbefore, ?_⟩
    rintro rfl
    exact Hal.not_holds_of_error herror hold

/-- A call treated as a release is treated as a call. -/
theorem HalEffect.of_release {c : Call} {answer : Except String (Except Status Int)}
    (h : HalEffect b hal after (.release c) answer) : HalEffect b hal after (.call c) answer := by
  cases answer with
  | ok reply => exact h
  | error text => exact ⟨fun n => h.1 (.channel n), h.2⟩

theorem HalEffect.sound {q : Request} {answer : Except String q.Answer}
    (h : HalEffect b hal after q answer) (hsound : hal.Sound) : after.Sound := by
  cases q with
  | call c =>
    cases answer with
    | ok => exact Replied.sound h hsound
    | error => exact h.2.sound hsound
  | release c =>
    cases answer with
    | ok => exact Replied.sound h hsound
    | error => exact h.2.sound hsound
  | connect => exact Reached.sound h hsound
  | reconnect => exact Reached.sound h hsound
  | _ => exact Hal.Passes.sound h hsound

/-- What is held after a plain request was held before. -/
theorem HalEffect.holds {q : Request} {answer : Except String q.Answer}
    (h : HalEffect b hal after q answer) (hq : q.IsPlain) (hsound : hal.Sound)
    (hr : after.Holds r) : hal.Holds r := by
  cases q with
  | call => exact hq.elim
  | release => exact hq.elim
  | subscribe => exact hq.elim
  | connect => exact Reached.holds h hsound hr
  | reconnect => exact Reached.holds h hsound hr
  | _ => exact hr.of_passes hsound h

end Effects

section Keeping

variable {τ ρ : Type} {b : Behaviour} {host : Host τ} {v : View τ} {quiet : Bool}

theorem Serves.beside (h : Serves b host v) :
    Serves b (host.beside : Host (ρ × τ)) v.beside :=
  ⟨fun s => h.sound s.2, fun q s => h.fit q s.2, fun q s => h.notes q s.2,
    fun q s => h.effect q s.2, fun q s => h.sink q s.2⟩

theorem Serves.guarded (h : Serves b host v) : Serves b host.beside v.guarded :=
  ⟨fun s => h.sound s.2, fun q s => h.fit q s.2, fun _ _ => rfl,
    fun q s => h.effect q s.2, fun q s => h.sink q s.2⟩

/-- Where no guard notes anything, a quiet state is in order exactly if it is at rest. -/
theorem Serves.kept_iff (h : Serves b host v) (hbare : v.Bare) {s : τ} :
    v.Kept true s ↔ v.fit s ∧ v.AtRest s := by
  constructor
  · rintro ⟨hfit, hnoted, hsilent⟩
    refine ⟨hfit, (Hal.idle_iff (h.sound s hfit)).2 fun r hr => ?_, hsilent rfl⟩
    have hnotes := hnoted r hr
    rw [hbare] at hnotes
    exact Guard.notes_empty r hnotes
  · rintro ⟨hfit, hidle, hsilent⟩
    exact ⟨hfit, fun r hr => absurd hr ((Hal.idle_iff (h.sound s hfit)).1 hidle r),
      fun _ => hsilent⟩

theorem Host.ask_snd (host : Host τ) (q : Request) (s : τ) : (host.ask q s).2 = (host q s).2 := by
  rw [Host.ask]
  split <;> next heq => rw [heq]

/-- Where no collector is registered, only the start of a subscription registers one. -/
theorem SinkEffect.silent {sink after : Option Nat} {q : Request}
    {answer : Except String q.Answer} (h : SinkEffect sink after q answer)
    (hq : q ≠ .subscribe) (hsink : sink = none) : after = none := by
  subst hsink
  cases q with
  | subscribe => exact absurd rfl hq
  | unsubscribe =>
    cases answer with
    | ok => exact h
    | error => exact h.elim
  | _ => exact h.elim id id

/-- A plain request keeps a state in order. -/
theorem Serves.ask_keeps (h : Serves b host v) {q : Request} (hq : q.IsPlain) :
    (host.ask q).Keeps (v.Kept quiet) := by
  intro s hs
  rw [Host.ask_snd]
  refine ⟨h.fit q s hs.fit, fun r hr => ?_, fun hquiet => ?_⟩
  · rw [h.notes]
    exact hs.noted r ((h.effect q s hs.fit).holds hq (h.sound s hs.fit) hr)
  · refine (h.sink q s hs.fit).silent ?_ (hs.silent hquiet)
    rintro rfl
    exact hq

/-- Nothing is acquired by a call. -/
def Call.AcquiresNothing (c : Call) : Prop := ∀ (r : Resource) reply, ¬r.Acquired (c, reply)

/-- What a call that acquires nothing leaves held was held before. -/
theorem Serves.holds_call (h : Serves b host v) {c : Call} (hc : c.AcquiresNothing) {s : τ}
    (hs : v.fit s) {r : Resource} (hr : (v.hal (host (.call c) s).2).Holds r) :
    (v.hal s).Holds r := by
  have heffect := h.effect (.call c) s hs
  generalize (host (.call c) s).1 = answer at heffect
  cases answer with
  | ok reply => exact ((Replied.holds heffect (h.sound s hs) hr).resolve_left (hc r reply)).1
  | error => exact hr.of_passes (h.sound s hs) heffect.2

/-- A call that acquires nothing keeps a state in order. -/
theorem Serves.call_keeps (h : Serves b host v) {c : Call} (hc : c.AcquiresNothing) :
    (host.call c).Keeps (v.Kept quiet) := by
  intro s hs
  rw [Host.call, Host.ask_snd]
  refine ⟨h.fit _ s hs.fit, fun r hr => ?_, fun hquiet => ?_⟩
  · rw [h.notes]
    exact hs.noted r (h.holds_call hc hs.fit hr)
  · exact (h.sink _ s hs.fit).silent Request.noConfusion (hs.silent hquiet)

/-! ## Guards -/

/-- A call through a guard: an exchange is noted, a panic is not. -/
theorem Guard.call_beside (host : Host τ) (c : Call) (g : Guard) (s : τ) :
    Guard.call host.beside c (g, s) = match host (.call c) s with
      | (.ok reply, t) => (.ok reply, (g.note (c, reply), t))
      | (.error text, t) => (.error (.panic text), (g.beforeCall c, t)) := by
  simp only [Guard.call, Host.call, Host.ask, Host.beside]
  rcases host (.call c) s with ⟨_ | reply, t⟩ <;> rfl

/-- What makes a guard drop its note of a resource, reports apart, is the call that
releases it. -/
theorem Resource.eq_release {r : Resource} (hr : ¬r.IsReport) {c : Call}
    {reply : Except Status Int} (h : r.GivenUp (c, reply) ∨ r.Forgotten (c, reply)) :
    c = r.release := by
  cases r with
  | report => exact absurd trivial hr
  | channel n =>
    cases c <;> cases reply <;> simp_all [Resource.GivenUp, Resource.Forgotten, Resource.release]
  | sensor k =>
    cases c with
    | activate k' on =>
      cases on <;> cases reply <;>
        simp_all [Resource.GivenUp, Resource.Forgotten, Resource.release]
    | _ => simp [Resource.GivenUp, Resource.Forgotten] at h
  | mode =>
    cases c <;> cases reply <;> simp_all [Resource.GivenUp, Resource.Forgotten, Resource.release]

theorem Hal.Holds.not_isReport {r : Resource} {hal : Hal} (h : hal.Holds r) : ¬r.IsReport := by
  cases r with
  | report => exact h.elim
  | _ => exact id

/-- A call through a guard keeps a state in order: what it acquires is noted, and what the
guard no longer notes is not held. -/
theorem Serves.guard_call_keeps (h : Serves b host v) (c : Call) :
    (Guard.call host.beside c).Keeps (v.guarded.Kept quiet) := by
  rintro ⟨g, s⟩ hs
  have hsound := h.sound s hs.fit
  have heffect := h.effect (.call c) s hs.fit
  have hfit := h.fit (.call c) s hs.fit
  have hsilent := fun hquiet =>
    (h.sink (.call c) s hs.fit).silent Request.noConfusion (hs.silent hquiet)
  rw [Guard.call_beside]
  generalize host (.call c) s = outcome at heffect hfit hsilent
  obtain ⟨answer, t⟩ := outcome
  refine ⟨?fit, fun r hr => ?noted, ?silent⟩
  case fit => cases answer <;> exact hfit
  case silent => cases answer <;> exact hsilent
  case noted =>
    cases answer with
    | ok reply =>
      refine Guard.notes_note.2 ((Replied.holds heffect hsound hr).imp_right ?_)
      rintro ⟨hold, hne⟩
      have hkept : ¬(r.GivenUp (c, reply) ∨ r.Forgotten (c, reply)) :=
        mt (Resource.eq_release hold.not_isReport) hne
      exact ⟨hs.noted r hold, mt Or.inl hkept, mt Or.inr hkept⟩
    | error text =>
      have hbefore : g.beforeCall c = g := by
        cases c with
        | unregister n => exact absurd rfl (heffect.1 n)
        | _ => rfl
      show (g.beforeCall c).Notes r
      rw [hbefore]
      exact hs.noted r (hr.of_passes hsound heffect.2)

/-- A sweep of sensors keeps a state in order. -/
theorem Serves.activateAll_keeps (h : Serves b host v) (sensors : Catalog) (on : Bool) :
    (Guard.activateAll host.beside sensors on).Keeps (v.guarded.Kept quiet) := by
  rw [Guard.activateAll_eq]
  exact Act.Keeps.each (fun c => (h.guard_call_keeps c).andThen fun _ => Act.keeps_pure _) _

theorem Resource.release_acquiresNothing (r : Resource) : r.release.AcquiresNothing := by
  rintro r' reply
  cases r <;> cases r' <;> cases reply <;> simp [Resource.Acquired, Resource.release]

theorem Guard.eq_release_of_mem {g : Guard} {c : Call} (hc : c ∈ g.releases) :
    ∃ r : Resource, c = r.release := by
  rw [Guard.releases_eq, ← List.map_append] at hc
  obtain ⟨r, -, rfl⟩ := List.mem_map.1 hc
  exact ⟨r, rfl⟩

theorem Guard.release_mem {g : Guard} {r : Resource} (h : g.Notes r) : r.release ∈ g.releases := by
  rw [Guard.releases_eq, ← List.map_append]
  refine List.mem_map_of_mem (List.mem_append.2 ?_)
  by_cases hr : r.IsReport
  · exact Or.inl (Guard.mem_stops.2 ⟨hr, h⟩)
  · exact Or.inr (Guard.mem_others.2 ⟨hr, h⟩)

/-- Where the release of all that is held is among the calls made, nothing is held after
them. -/
theorem Serves.kept_releasing (h : Serves b host v) {cs : List Call}
    (hcs : ∀ c ∈ cs, ∃ r : Resource, c = r.release) {s : τ} (hfit : v.fit s)
    (hheld : ∀ r, (v.hal s).Holds r → r.release ∈ cs) (hsilent : quiet = true → v.sink s = none) :
    v.Kept quiet
      ((Act.each cs fun c => .andThen (host.ask (.release c)) fun _ => .value ()) s).2 := by
  induction cs generalizing s with
  | nil => exact ⟨hfit, fun r hr => absurd (hheld r hr) List.not_mem_nil, hsilent⟩
  | cons c rest ih =>
    obtain ⟨released, rfl⟩ := hcs c List.mem_cons_self
    have hsound := h.sound s hfit
    have heffect := h.effect (.release released.release) s hfit
    have hfit' := h.fit (.release released.release) s hfit
    have hsilent' := fun hquiet =>
      (h.sink (.release released.release) s hfit).silent Request.noConfusion (hsilent hquiet)
    simp only [Act.each, Act.andThen, Host.ask]
    generalize host (.release released.release) s = outcome at heffect hfit' hsilent'
    obtain ⟨answer, t⟩ := outcome
    cases answer with
    | error => exact absurd rfl (heffect.1 released)
    | ok reply =>
      refine ih (fun c hc => hcs c (List.mem_cons_of_mem _ hc)) hfit' (fun r hr => ?_) hsilent'
      have hreplied : Replied b (v.hal s) released.release reply (v.hal t) := heffect
      obtain ⟨hold, hne⟩ :=
        (hreplied.holds hsound hr).resolve_left (released.release_acquiresNothing r reply)
      exact (List.mem_cons.1 (hheld r hold)).resolve_left (Ne.symm hne)

/-- An act under a guard keeps a state in order if its body does, the guard's notes
included. -/
theorem Serves.guarded_keeps {α : Type} (h : Serves b host v) (hbare : v.Bare)
    {body : Host (Guard × τ) → Act (Guard × τ) α}
    (hbody : (body host.beside).Keeps (v.guarded.Kept quiet)) :
    (SensorBench.guarded host body).Keeps (v.Kept quiet) := by
  refine Act.Keeps.alongside (R := v.guarded.Kept quiet) ?start hbody ?leave
  case start =>
    refine fun s hs => ⟨hs.fit, fun r hr => ?_, hs.silent⟩
    have hnotes := hs.noted r hr
    rw [hbare] at hnotes
    exact absurd hnotes (Guard.notes_empty r)
  case leave =>
    exact fun g s hs => h.kept_releasing (fun c => Guard.eq_release_of_mem) hs.fit
      (fun r hr => Guard.release_mem (hs.noted r hr)) hs.silent

/-! ## Subscriptions -/

/-- A subscription leaves a state in order but for the collector. -/
theorem Serves.kept_subscribe (h : Serves b host v) {s : τ} (hs : v.Kept quiet s) :
    v.Kept false (host .subscribe s).2 := by
  refine ⟨h.fit .subscribe s hs.fit, fun r hr => ?_, Bool.noConfusion⟩
  have hpasses : (v.hal s).Passes b (v.hal (host .subscribe s).2) := h.effect .subscribe s hs.fit
  rw [h.notes]
  exact hs.noted r (hr.of_passes (h.sound s hs.fit) hpasses)

/-- The end of a subscription leaves no collector registered. -/
theorem Serves.kept_unsubscribe (h : Serves b host v) {s : τ} (hs : v.Kept false s) :
    v.Kept quiet (host.ask .unsubscribe s).2 := by
  have hloud : v.Kept false _ := h.ask_keeps (q := .unsubscribe) trivial s hs
  rw [Host.ask_snd] at hloud ⊢
  refine ⟨hloud.fit, hloud.noted, fun _ => ?_⟩
  have hsink := h.sink .unsubscribe s hs.fit
  generalize (host .unsubscribe s).1 = answer at hsink
  cases answer with
  | ok => exact hsink
  | error => exact hsink.elim

/-- An act with a subscription ends with no collector registered, also where the
subscription is refused. -/
theorem Serves.subscribed_keeps {α : Type} (h : Serves b host v) {body : Nat → Act τ α}
    (hbody : ∀ collector, (body collector).Keeps (v.Kept false)) :
    (subscribed host body).Keeps (v.Kept quiet) := by
  intro s hs
  have hkept := h.kept_subscribe hs
  have hsink := h.sink .subscribe s hs.fit
  show v.Kept quiet (Act.andThen (host.ask .subscribe) _ s).2
  simp only [Act.andThen, Host.ask]
  generalize host .subscribe s = outcome at hkept hsink
  obtain ⟨answer, t⟩ := outcome
  cases answer with
  | ok collector =>
    have hend := Act.endingWith_snd (body collector) (host.ask .unsubscribe) t
    exact hend ▸ h.kept_unsubscribe (hbody collector t hkept)
  | error text =>
    refine ⟨hkept.fit, hkept.noted, fun hquiet => ?_⟩
    exact hsink.elim (fun h => h.trans (hs.silent hquiet)) id

end Keeping

end SensorBench
