import SensorBench.Proofs.Delivery.Collecting

/-!
# What is seen while batches come in

A batch enters a collector by sections, each of which holds a lock of its own: its markers are
counted, then its samples kept, then the tallies go up. Any number of batches may be on their
way at a time, their sections in any order, and the collector may be read between any two of
them; a wait that ends is such a read.

Each map shows a batch as a whole or not at all. The two maps together do not: between its
first two sections the markers of a batch are visible and its samples are not
(`Inflow.half_batch_seen`). Only then is anything missing that a visible marker acknowledges
(`Inflow.glimpse_exact`).
-/

set_option autoImplicit false

namespace SensorBench

/-- How far a batch is on its way into a collector. -/
inductive Inflow.Stage where
  | begun
  | counted
  | kept
  | done
  deriving DecidableEq, Repr

/-- A batch on its way into a collector. -/
structure Inflow.Passage where
  batch : List Event
  stage : Stage

/-- A collector with the batches on their way into it, by number. `counted` and `kept` list the
batches that have passed the first and the second section, in the order in which they did. -/
structure Inflow where
  collector : Collector
  passages : List Inflow.Passage
  counted : List (Nat × List Event)
  kept : List (Nat × List Event)

namespace Inflow

/-- A collector into which nothing has come yet. -/
def empty : Inflow := ⟨.empty, [], [], []⟩

/-- What may happen next: a batch begins to enter, or one that has begun passes its next
section. -/
inductive Move where
  | begin (batch : List Event)
  | pass (i : Nat)

/-- The inflow after a move. Where no section is left, nothing happens. -/
def step (s : Inflow) : Move → Inflow
  | .begin batch => { s with passages := s.passages ++ [⟨batch, .begun⟩] }
  | .pass i => match s.passages[i]? with
    | none => s
    | some ⟨batch, .begun⟩ =>
      { s with
        collector := s.collector.countMarkers batch
        passages := s.passages.set i ⟨batch, .counted⟩
        counted := s.counted ++ [(i, batch)] }
    | some ⟨batch, .counted⟩ =>
      { s with
        collector := s.collector.keepSamples batch
        passages := s.passages.set i ⟨batch, .kept⟩
        kept := s.kept ++ [(i, batch)] }
    | some ⟨batch, .kept⟩ =>
      { s with
        collector := s.collector.tally batch
        passages := s.passages.set i ⟨batch, .done⟩ }
    | some ⟨_, .done⟩ => s

/-- The inflow after some moves. -/
def run (s : Inflow) (moves : List Move) : Inflow := moves.foldl step s

/-- All events of some batches. -/
def eventsOf (log : List (Nat × List Event)) : List Event := log.flatMap (·.2)

/-- A reader that sees the markers of `earlier` sees all samples before them in their batches
in `later`. -/
def Covers (earlier later : Inflow) (h : Handle) : Prop :=
  ∀ p ∈ earlier.counted, ∀ before marker behind, p.2 = before ++ marker :: behind →
    marker.isFlushMarker = true → marker.handle = h →
      ∀ e ∈ before, e.isSample = true → e.handle = h → e ∈ later.collector.events h

/-- Without interruption the sections of a batch are its delivery. -/
theorem run_uninterrupted (c : Collector) (batch : List Event) :
    ((⟨c, [], [], []⟩ : Inflow).run [.begin batch, .pass 0, .pass 0, .pass 0]).collector =
      c.deliver batch := rfl

/-! ## One section -/

/-- The batch with a number has come to one of some stages. -/
def Reached (P : Stage → Prop) (passages : List Passage) (i : Nat) (batch : List Event) : Prop :=
  ∃ stage, passages[i]? = some ⟨batch, stage⟩ ∧ P stage

/-- The stages after the first section. -/
def Counted (stage : Stage) : Prop := stage ≠ .begun

/-- The stages after the second section. -/
def Kept (stage : Stage) : Prop := stage = .kept ∨ stage = .done

/-- What holds between any two sections: each map shows the batches that have passed its
section, and the lists of these go with the stages. -/
structure Lawful (s : Inflow) : Prop where
  markers : ∀ h, s.collector.flushCount h = Collector.markersFor h (eventsOf s.counted)
  samples : ∀ h, s.collector.events h =
    (eventsOf s.kept).filter fun e => e.isSample && e.handle = h
  counted : ∀ i batch, (i, batch) ∈ s.counted ↔ Reached Counted s.passages i batch
  kept : ∀ i batch, (i, batch) ∈ s.kept ↔ Reached Kept s.passages i batch

theorem lawful_empty : empty.Lawful := by
  refine ⟨fun _ => rfl, fun _ => rfl, fun i batch => ?_, fun i batch => ?_⟩ <;>
    simp [empty, Reached]

section Stages

variable {P : Stage → Prop} {passages : List Passage} {i : Nat} {batch : List Event}
  {old new : Stage}

theorem reached_begin (hP : ¬P .begun) (entering : List Event) :
    Reached P (passages ++ [⟨entering, .begun⟩]) i batch ↔ Reached P passages i batch := by
  rw [Reached, Reached, List.getElem?_append]
  split
  · rfl
  · next hi =>
    -- there is nothing at this number but the batch that has just begun
    rw [List.getElem?_eq_none (Nat.le_of_not_lt hi)]
    constructor
    · rintro ⟨stage, hstage, hp⟩
      have hmem := List.mem_singleton.1 (List.mem_of_getElem? hstage)
      cases hmem
      exact absurd hp hP
    · rintro ⟨stage, hstage, -⟩
      cases hstage

theorem getElem?_set_passage (hi : passages[i]? = some ⟨batch, old⟩) (j : Nat) :
    (passages.set i ⟨batch, new⟩)[j]? = if j = i then some ⟨batch, new⟩ else passages[j]? := by
  have hlt : i < passages.length := (List.getElem?_eq_some_iff.1 hi).1
  rw [List.getElem?_set]
  by_cases hj : i = j
  · rw [if_pos hj, if_pos hj.symm, if_pos hlt]
  · rw [if_neg hj, if_neg (Ne.symm hj)]

/-- A batch that comes to one of the stages joins those that had. -/
theorem reached_set (hi : passages[i]? = some ⟨batch, old⟩) (hnew : P new) (j : Nat)
    (other : List Event) :
    Reached P (passages.set i ⟨batch, new⟩) j other ↔
      Reached P passages j other ∨ (j, other) = (i, batch) := by
  rw [Reached, Reached, getElem?_set_passage hi]
  by_cases hj : j = i
  · subst hj
    rw [if_pos rfl, hi]
    constructor
    · rintro ⟨stage, hstage, -⟩
      cases hstage
      exact Or.inr rfl
    · rintro (⟨stage, hstage, -⟩ | heq)
      · cases hstage
        exact ⟨new, rfl, hnew⟩
      · cases heq
        exact ⟨new, rfl, hnew⟩
  · rw [if_neg hj]
    exact ⟨Or.inl, fun h => h.resolve_right fun heq => hj (Prod.mk.inj heq).1⟩

/-- A batch that goes on between stages of the same sort changes nothing. -/
theorem reached_set_same (hi : passages[i]? = some ⟨batch, old⟩) (hsame : P new ↔ P old) (j : Nat)
    (other : List Event) :
    Reached P (passages.set i ⟨batch, new⟩) j other ↔ Reached P passages j other := by
  rw [Reached, Reached, getElem?_set_passage hi]
  by_cases hj : j = i
  · subst hj
    rw [if_pos rfl, hi]
    constructor
    · rintro ⟨stage, hstage, hp⟩
      cases hstage
      exact ⟨old, rfl, hsame.1 hp⟩
    · rintro ⟨stage, hstage, hp⟩
      cases hstage
      exact ⟨new, rfl, hsame.2 hp⟩
  · rw [if_neg hj]

end Stages

theorem eventsOf_append (log : List (Nat × List Event)) (i : Nat) (batch : List Event) :
    eventsOf (log ++ [(i, batch)]) = eventsOf log ++ batch := by
  simp [eventsOf]

theorem Lawful.step {s : Inflow} (hs : s.Lawful) (m : Move) : (s.step m).Lawful := by
  cases m with
  | begin batch =>
    exact ⟨hs.markers, hs.samples,
      fun i other => (hs.counted i other).trans (reached_begin (fun h => h rfl) batch).symm,
      fun i other => (hs.kept i other).trans (reached_begin (by simp [Kept]) batch).symm⟩
  | pass i =>
    rw [Inflow.step]
    split
    · exact hs
    -- the markers are counted, and the samples stay as they are
    · next batch hi =>
      refine ⟨fun h => ?_, hs.samples, fun j other => ?_, fun j other => ?_⟩
      · show _ = Collector.markersFor h (eventsOf (s.counted ++ [(i, batch)]))
        rw [eventsOf_append, Collector.markersFor, List.countP_append]
        exact (Collector.lookup_countMarkers h batch s.collector.markers).trans
          (congrArg (· + _) (hs.markers h))
      · rw [reached_set hi (by simp [Counted]), ← hs.counted]
        simp only [List.mem_append, List.mem_singleton]
      · rw [reached_set_same hi (by simp [Kept])]
        exact hs.kept j other
    -- the samples are kept, and the markers stay as they are
    · next batch hi =>
      refine ⟨hs.markers, fun h => ?_, fun j other => ?_, fun j other => ?_⟩
      · show _ = (eventsOf (s.kept ++ [(i, batch)])).filter _
        rw [eventsOf_append, List.filter_append, ← hs.samples]
        exact Collector.events_deliver s.collector batch h
      · rw [reached_set_same hi (by simp [Counted])]
        exact hs.counted j other
      · rw [reached_set hi (Or.inl rfl), ← hs.kept]
        simp only [List.mem_append, List.mem_singleton]
    · next batch hi =>
      refine ⟨hs.markers, hs.samples, fun j other => ?_, fun j other => ?_⟩
      · rw [reached_set_same hi (by simp [Counted])]
        exact hs.counted j other
      · rw [reached_set_same hi (by simp [Kept])]
        exact hs.kept j other
    · exact hs

theorem Lawful.run {s : Inflow} (hs : s.Lawful) (moves : List Move) : (s.run moves).Lawful := by
  induction moves generalizing s with
  | nil => exact hs
  | cons m rest ih => exact ih (hs.step m)

/-! ## Readers -/

/-- Nothing that has passed a section is taken back, and a batch stays at its number. -/
structure Onward (s t : Inflow) : Prop where
  counted : s.counted <+: t.counted
  kept : s.kept <+: t.kept

theorem onward_step (s : Inflow) (m : Move) : s.Onward (s.step m) := by
  cases m with
  | begin batch => exact ⟨List.prefix_rfl, List.prefix_rfl⟩
  | pass i =>
    rw [step]
    split
    · exact ⟨List.prefix_rfl, List.prefix_rfl⟩
    · exact ⟨List.prefix_append _ _, List.prefix_rfl⟩
    · exact ⟨List.prefix_rfl, List.prefix_append _ _⟩
    · exact ⟨List.prefix_rfl, List.prefix_rfl⟩
    · exact ⟨List.prefix_rfl, List.prefix_rfl⟩

theorem onward_run (s : Inflow) (moves : List Move) : s.Onward (s.run moves) := by
  induction moves generalizing s with
  | nil => exact ⟨List.prefix_rfl, List.prefix_rfl⟩
  | cons m rest ih =>
    have hstep := onward_step s m
    have hrest := ih (s.step m)
    exact ⟨hstep.counted.trans hrest.counted, hstep.kept.trans hrest.kept⟩

/-- Of three moments, a batch begins to enter at the first, the markers of a sensor are read
at the second and its samples at the third. Each of the two maps shows whole batches, in the
order in which these passed its section. What was kept by the first moment is there at the
third, so that nothing is missing of a batch that was through before the other began. If the
markers of that batch were there at the second moment, then at the third its samples are
there, or it is still between its first two sections. -/
theorem glimpse_exact (before between after : List Move) (batch : List Event) (h : Handle) :
    let first := empty.run before
    let second := (first.step (.begin batch)).run between
    let third := second.run after
    let number := first.passages.length
    second.collector.flushCount h = Collector.markersFor h (eventsOf second.counted) ∧
      third.collector.events h =
        (eventsOf third.kept).filter (fun e => e.isSample && e.handle = h) ∧
      first.collector.events h <+: third.collector.events h ∧
      (∀ i earlier, first.passages[i]? = some ⟨earlier, .done⟩ → (i, earlier) ∈ third.kept) ∧
      ((number, batch) ∈ second.counted →
        (number, batch) ∈ third.kept ∨ third.passages[number]? = some ⟨batch, .counted⟩) := by
  intro first second third number
  have hfirst : first.Lawful := lawful_empty.run before
  have hsecond : second.Lawful := (hfirst.step _).run between
  have hthird : third.Lawful := hsecond.run after
  have hkept : first.kept <+: third.kept :=
    (onward_step first (.begin batch)).kept.trans
      ((onward_run _ between).kept.trans (onward_run second after).kept)
  refine ⟨hsecond.markers h, hthird.samples h, ?_, ?_, ?_⟩
  · obtain ⟨later, hlater⟩ := hkept
    rw [hfirst.samples, hthird.samples, ← hlater, eventsOf, eventsOf, List.flatMap_append,
      List.filter_append]
    exact List.prefix_append _ _
  · intro i earlier hdone
    exact hkept.subset ((hfirst.kept i earlier).2 ⟨.done, hdone, Or.inr rfl⟩)
  · intro hcounted
    have hlater := (onward_run second after).counted.subset hcounted
    obtain ⟨stage, hstage, hpast⟩ := (hthird.counted number batch).1 hlater
    cases stage with
    | begun => exact absurd rfl hpast
    | counted => exact Or.inr hstage
    | kept => exact Or.inl ((hthird.kept number batch).2 ⟨.kept, hstage, Or.inl rfl⟩)
    | done => exact Or.inl ((hthird.kept number batch).2 ⟨.done, hstage, Or.inr rfl⟩)

/-- A reader between the first two sections of a batch sees its marker, and nothing of what
the marker acknowledges. -/
theorem half_batch_seen :
    ¬∀ (early late : List Move) (h : Handle),
      Covers (empty.run early) ((empty.run early).run late) h := by
  intro hcovers
  let marker : Event := .flushMarker (Handle.ofInt 7) 2
  let early : List Move := [.begin [Collector.stepReading 1, marker], .pass 0]
  have hseen := hcovers early [] (Handle.ofInt 7) (0, [Collector.stepReading 1, marker])
    List.mem_cons_self [Collector.stepReading 1] marker [] rfl rfl rfl
    (Collector.stepReading 1) List.mem_cons_self rfl rfl
  exact List.not_mem_nil hseen

end Inflow

end SensorBench
