import SensorBench.Proofs.Delivery.Dispatch

/-!
# What a collector holds

Events reach a collector one by one or in batches, and a reset forgets them. Whatever the
order of these, the collector holds exactly what arrived since the last reset, sorted by
sensor and class and in the order of arrival (`Collector.holds_arrived`). How the events were
cut into batches shows in the batch counter alone (`Collector.ungrouped_takeAll`), and what
is waited for, once there, stays until a reset.
-/

set_option autoImplicit false

namespace SensorBench

namespace Event

/-- No event belongs to two classes: a sample has a kind of its own, a marker the meta kind. -/
theorem not_isSample_of_isFlushMarker {e : Event} (h : e.isFlushMarker = true) :
    e.isSample = false := by
  have hkind : e.kind = .metaData := by
    rw [isFlushMarker, Bool.and_eq_true, decide_eq_true_iff] at h
    exact h.1
  rw [isSample, hkind]
  rfl

/-- The three classes count every event once. -/
theorem countP_classes (es : List Event) :
    es.countP (·.isSample) + es.countP (·.isFlushMarker) +
      es.countP (fun e => !e.isSample && !e.isFlushMarker) = es.length := by
  induction es with
  | nil => rfl
  | cons e rest ih =>
    rw [List.countP_cons, List.countP_cons, List.countP_cons, List.length_cons, ← ih]
    cases hm : e.isFlushMarker with
    | true =>
      rw [not_isSample_of_isFlushMarker hm]
      simp
      omega
    | false =>
      cases e.isSample <;> simp <;> omega

end Event

/-- What is done to a collector: an event or a batch delivered, or everything forgotten. -/
inductive Intake where
  | event (e : Event)
  | batch (es : List Event)
  | reset

namespace Intake

/-- What has arrived since the last reset, given what had before. -/
def after (earlier : List Event) : Intake → List Event
  | event e => earlier ++ [e]
  | batch es => earlier ++ es
  | reset => []

/-- The same events, delivered one by one. -/
def singles : Intake → List Intake
  | event e => [event e]
  | batch es => es.map event
  | reset => [reset]

end Intake

/-- What has arrived since the last reset of a sequence, in the order of delivery. -/
def arrived (intakes : List Intake) : List Event := intakes.foldl Intake.after []

namespace Collector

/-- The collector after one thing is done to it. -/
def take (c : Collector) : Intake → Collector
  | .event e => c.deliverOne e
  | .batch es => c.deliver es
  | .reset => .empty

/-- The collector after a sequence of them. -/
def takeAll (c : Collector) (intakes : List Intake) : Collector := intakes.foldl take c

/-! ## One delivery -/

theorem lookup_keepSamples (h : Handle) (batch : List Event)
    (entries : List (Handle × Array Event)) :
    (((batch.filter (·.isSample)).foldl (fun acc e => adjust e.handle #[] (·.push e) acc)
        entries).lookup h).getD #[] =
      (entries.lookup h).getD #[] ++
        (batch.filter fun e => e.isSample && e.handle = h).toArray := by
  induction batch generalizing entries with
  | nil => simp
  | cons e rest ih =>
    cases hs : e.isSample with
    | false =>
      rw [List.filter_cons_of_neg (by simp [hs]), ih, List.filter_cons_of_neg (by simp [hs])]
    | true =>
      rw [List.filter_cons_of_pos hs, List.foldl_cons, ih, lookup_adjust]
      by_cases hh : h = e.handle
      · subst hh
        rw [if_pos rfl, List.filter_cons_of_pos (by simp [hs])]
        simp
      · rw [if_neg hh, List.filter_cons_of_neg (by simp [Ne.symm hh])]

/-- A batch appends the samples that it brings. -/
theorem events_deliver (c : Collector) (batch : List Event) (h : Handle) :
    (c.deliver batch).events h =
      c.events h ++ batch.filter fun e => e.isSample && e.handle = h := by
  have hkept := lookup_keepSamples h batch c.samples
  rw [events, deliver, tally, keepSamples]
  exact (congrArg Array.toList hkept).trans (Array.toList_append ..)

theorem eventCount_eq (c : Collector) (h : Handle) : c.eventCount h = (c.events h).length := rfl

/-- What a collector holds of the events that arrived. -/
structure Holds (c : Collector) (es : List Event) : Prop where
  events : ∀ h, c.events h = es.filter fun e => e.isSample && e.handle = h
  eventCount : ∀ h, c.eventCount h = (es.filter fun e => e.isSample && e.handle = h).length
  flushCount : ∀ h, c.flushCount h = es.countP fun e => e.isFlushMarker && e.handle = h
  samples : c.tallies.samples = es.countP (·.isSample)
  markers : c.tallies.markers = es.countP (·.isFlushMarker)
  others : c.tallies.others = es.countP fun e => !e.isSample && !e.isFlushMarker
  total : c.tallies.total = es.length

theorem holds_empty : empty.Holds [] := by
  constructor <;> intros <;> rfl

theorem Holds.deliver {c : Collector} {es : List Event} (hc : c.Holds es) (batch : List Event) :
    (c.deliver batch).Holds (es ++ batch) := by
  have hevents : ∀ h, (c.deliver batch).events h =
      (es ++ batch).filter fun e => e.isSample && e.handle = h := by
    intro h
    rw [events_deliver, hc.events, List.filter_append]
  have hsamples : (c.deliver batch).tallies.samples = (es ++ batch).countP (·.isSample) := by
    rw [List.countP_append, ← hc.samples]
    rfl
  have hmarkers : (c.deliver batch).tallies.markers = (es ++ batch).countP (·.isFlushMarker) := by
    rw [List.countP_append, ← hc.markers]
    rfl
  have hothers : (c.deliver batch).tallies.others =
      (es ++ batch).countP fun e => !e.isSample && !e.isFlushMarker := by
    rw [List.countP_append, ← hc.others]
    rfl
  refine ⟨hevents, ?_, ?_, hsamples, hmarkers, hothers, ?_⟩
  · intro h
    rw [eventCount_eq, hevents]
  · intro h
    rw [flushCount_deliver, hc.flushCount, List.countP_append]
    rfl
  · rw [Tallies.total, hsamples, hmarkers, hothers, Event.countP_classes]

theorem Holds.take {c : Collector} {es : List Event} (hc : c.Holds es) (m : Intake) :
    (c.take m).Holds (m.after es) := by
  cases m with
  | event e => exact hc.deliver [e]
  | batch batch => exact hc.deliver batch
  | reset => exact holds_empty

theorem Holds.takeAll {c : Collector} {es : List Event} (hc : c.Holds es)
    (intakes : List Intake) : (c.takeAll intakes).Holds (intakes.foldl Intake.after es) := by
  induction intakes generalizing c es with
  | nil => exact hc
  | cons m rest ih => exact ih (hc.take m)

/-! ## How events are cut into batches -/

/-- The collector but for the number of its batches. -/
def ungrouped (c : Collector) : Collector := { c with tallies := { c.tallies with batches := 0 } }

theorem ungrouped_deliver (c : Collector) (batch : List Event) :
    (c.deliver batch).ungrouped = (c.ungrouped.deliver batch).ungrouped := rfl

/-- A batch cut in two is the same batch, counted twice. -/
theorem ungrouped_deliver_append (c : Collector) (es es' : List Event) :
    (c.deliver (es ++ es')).ungrouped = ((c.deliver es).deliver es').ungrouped := by
  simp only [deliver, countMarkers, keepSamples, tally, ungrouped, List.filter_append,
    List.foldl_append, List.countP_append, Nat.add_assoc]

theorem ungrouped_take {c d : Collector} (h : c.ungrouped = d.ungrouped) (m : Intake) :
    (c.take m).ungrouped = (d.take m).ungrouped := by
  cases m with
  | event e =>
    calc (c.deliver [e]).ungrouped = (c.ungrouped.deliver [e]).ungrouped := rfl
      _ = (d.deliver [e]).ungrouped := by rw [h, ← ungrouped_deliver]
  | batch batch =>
    calc (c.deliver batch).ungrouped = (c.ungrouped.deliver batch).ungrouped := rfl
      _ = (d.deliver batch).ungrouped := by rw [h, ← ungrouped_deliver]
  | reset => rfl

theorem takeAll_append (c : Collector) (ms ms' : List Intake) :
    c.takeAll (ms ++ ms') = (c.takeAll ms).takeAll ms' := List.foldl_append

/-- A batch is its events one by one. -/
theorem ungrouped_takeAll_events (c : Collector) (es : List Event) :
    (c.takeAll (es.map .event)).ungrouped = (c.deliver es).ungrouped := by
  induction es generalizing c with
  | nil => rfl
  | cons e rest ih =>
    calc ((c.deliver [e]).takeAll (rest.map .event)).ungrouped
        = ((c.deliver [e]).deliver rest).ungrouped := ih (c.deliver [e])
      _ = (c.deliver (e :: rest)).ungrouped := (ungrouped_deliver_append c [e] rest).symm

theorem ungrouped_takeAll {c d : Collector} (h : c.ungrouped = d.ungrouped)
    (ms : List Intake) :
    (c.takeAll ms).ungrouped = (d.takeAll (ms.flatMap Intake.singles)).ungrouped := by
  induction ms generalizing c d with
  | nil => exact h
  | cons m rest ih =>
    rw [List.flatMap_cons, takeAll_append]
    refine ih ?_
    cases m with
    | event e => exact ungrouped_take h (.event e)
    | batch es => exact (ungrouped_take h (.batch es)).trans (ungrouped_takeAll_events d es).symm
    | reset => rfl

/-! ## What is waited for -/

theorem flushCount_le_deliver (c : Collector) (batch : List Event) (h : Handle) :
    c.flushCount h ≤ (c.deliver batch).flushCount h := by
  rw [flushCount_deliver]
  exact Nat.le_add_right _ _

theorem eventCount_le_deliver (c : Collector) (batch : List Event) (h : Handle) :
    c.eventCount h ≤ (c.deliver batch).eventCount h := by
  rw [eventCount_eq, eventCount_eq, events_deliver, List.length_append]
  exact Nat.le_add_right _ _

theorem hasFlushes_deliver {handles : List Handle} {count : Nat} {c : Collector}
    (hc : c.hasFlushes handles count = true) (batch : List Event) :
    (c.deliver batch).hasFlushes handles count = true := by
  simp only [hasFlushes, List.all_eq_true, decide_eq_true_iff] at hc ⊢
  intro h hh
  exact Nat.le_trans (hc h hh) (c.flushCount_le_deliver batch h)

theorem hasEvents_deliver {handles : List Handle} {c : Collector}
    (hc : c.hasEvents handles = true) (batch : List Event) :
    (c.deliver batch).hasEvents handles = true := by
  simp only [hasEvents, List.all_eq_true, decide_eq_true_iff] at hc ⊢
  intro h hh
  exact Nat.lt_of_lt_of_le (hc h hh) (c.eventCount_le_deliver batch h)

theorem hasCount_deliver {handle : Handle} {count : Nat} {c : Collector}
    (hc : c.hasCount handle count = true) (batch : List Event) :
    (c.deliver batch).hasCount handle count = true := by
  simp only [hasCount, decide_eq_true_iff] at hc ⊢
  exact Nat.le_trans hc (c.eventCount_le_deliver batch handle)

/-- What every delivery keeps is kept until a reset. -/
theorem takeAll_keeps {p : Collector → Bool}
    (hp : ∀ {c}, p c = true → ∀ batch, p (c.deliver batch) = true) {ms : List Intake}
    (hms : Intake.reset ∉ ms) {c : Collector} (hc : p c = true) : p (c.takeAll ms) = true := by
  induction ms generalizing c with
  | nil => exact hc
  | cons m rest ih =>
    rw [List.mem_cons, not_or] at hms
    refine ih hms.2 ?_
    cases m with
    | event e => exact hp hc [e]
    | batch batch => exact hp hc batch
    | reset => exact absurd rfl hms.1

/-- **What arrived since the last reset is what a collector holds.** Its samples, markers and
tallies are those of the events that arrived, no event in two classes; sequences that differ
only in how the events are cut into batches leave the same collector but for the batch
counter; and a wait that is over stays over until a reset. -/
theorem holds_arrived (ms : List Intake) :
    (empty.takeAll ms).Holds (arrived ms) ∧
    (∀ e : Event, ¬(e.isSample = true ∧ e.isFlushMarker = true)) ∧
    (∀ ms', ms'.flatMap Intake.singles = ms.flatMap Intake.singles →
      (empty.takeAll ms').ungrouped = (empty.takeAll ms).ungrouped) ∧
    (∀ later, Intake.reset ∉ later →
      (∀ handles count, (empty.takeAll ms).hasFlushes handles count = true →
        (empty.takeAll (ms ++ later)).hasFlushes handles count = true) ∧
      (∀ handles, (empty.takeAll ms).hasEvents handles = true →
        (empty.takeAll (ms ++ later)).hasEvents handles = true) ∧
      (∀ handle count, (empty.takeAll ms).hasCount handle count = true →
        (empty.takeAll (ms ++ later)).hasCount handle count = true)) := by
  refine ⟨holds_empty.takeAll ms, ?_, ?_, ?_⟩
  · rintro e ⟨hs, hm⟩
    rw [Event.not_isSample_of_isFlushMarker hm] at hs
    exact Bool.noConfusion hs
  -- both leave what the single events of either would leave
  · intro ms' hsame
    rw [ungrouped_takeAll rfl ms', hsame, ← ungrouped_takeAll rfl ms]
  · intro later hlater
    rw [takeAll_append]
    refine ⟨?_, ?_, ?_⟩
    · exact fun handles count => takeAll_keeps hasFlushes_deliver hlater
    · exact fun handles => takeAll_keeps hasEvents_deliver hlater
    · exact fun handle count => takeAll_keeps hasCount_deliver hlater

/-- A reading of a step counter with handle 7. -/
def stepReading (time : Int) : Event := ⟨Handle.ofInt 7, .stepCounter, time, .steps 1⟩

/-- Deliveries with a reset among them: what came before it is forgotten. -/
def resetBetween : List Intake :=
  [.event (stepReading 1), .reset, .event (stepReading 2),
    .batch [.flushMarker (Handle.ofInt 7) 3, stepReading 4]]

theorem holds_arrived_resetBetween :
    (empty.takeAll resetBetween).Holds
      [stepReading 2, .flushMarker (Handle.ofInt 7) 3, stepReading 4] ∧
    (empty.takeAll [.batch [stepReading 1], .reset,
        .batch [stepReading 2, .flushMarker (Handle.ofInt 7) 3],
        .event (stepReading 4)]).ungrouped =
      (empty.takeAll resetBetween).ungrouped ∧
    (empty.takeAll (resetBetween ++ [.batch []])).hasFlushes [Handle.ofInt 7] 1 = true ∧
    (empty.takeAll (resetBetween ++ [.batch []])).hasEvents [Handle.ofInt 7] = true ∧
    (empty.takeAll (resetBetween ++ [.batch []])).hasCount (Handle.ofInt 7) 2 = true := by
  obtain ⟨hholds, -, hcut, hlater⟩ := holds_arrived resetBetween
  obtain ⟨hflushes, hevents, hcount⟩ := hlater [.batch []] (by simp)
  exact ⟨hholds, hcut _ rfl, hflushes _ 1 rfl, hevents _ rfl, hcount _ 2 rfl⟩

end Collector

end SensorBench
