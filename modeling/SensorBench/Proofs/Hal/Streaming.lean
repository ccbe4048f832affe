import SensorBench.Proofs.Hal.Resting

/-!
# A sensor that streams

What comes of a sensor from the time at which it is switched on at its least period and with no
latency: the event that a faulty HAL replays, and then one sample at each point of its grid
(`Window`). The state of the sensor goes along with it (`Sampler.Streams`), and every step of
time moves both on (`Sampler.Streams.advance`). A window that is long enough is not empty, all
of a healthy one lies past its start, and one that begins with a replay begins with the last
event of the window before.
-/

set_option autoImplicit false

namespace SensorBench.Hal

open Sampler (leastPeriod leastPeriod_pos)

/-- What a sensor switched on at `start` brings up to `now`, if `last` was its last event before
and `latest` is its last event then. -/
def Window (b : Behaviour) (d : Descriptor) (start : Int) (last : Option Event) (now : Int)
    (seen : List Event) (latest : Option Event) : Prop :=
  ∃ taken : List Event, seen = (if b.replayStaleEvents then last.toList else []) ++ taken ∧
    taken.map (·.time) = dueTimes (start + leastPeriod d) (leastPeriod d) now ∧
    latest = (taken.getLast? <|> last)

section Window

variable {b : Behaviour} {d : Descriptor} {start now later : Int} {last latest : Option Event}
  {seen more : List Event}

theorem window_start (b : Behaviour) (d : Descriptor) (start : Int) (last : Option Event) :
    Window b d start last start (if b.replayStaleEvents then last.toList else []) last := by
  have hpos := leastPeriod_pos d
  refine ⟨[], (List.append_nil _).symm, ?_, rfl⟩
  rw [dueTimes_eq_nil (by omega)]
  rfl

theorem Window.extend (h : Window b d start last now seen latest) (hle : now ≤ later)
    (hmore : more.map (·.time) = dueTimes
      (dueAfter (start + leastPeriod d) (leastPeriod d) now) (leastPeriod d) later) :
    Window b d start last later (seen ++ more) (more.getLast? <|> latest) := by
  obtain ⟨taken, rfl, htimes, rfl⟩ := h
  refine ⟨taken ++ more, List.append_assoc _ _ _, ?_, ?_⟩
  · rw [List.map_append, htimes, hmore]
    exact (dueTimes_append (leastPeriod_pos d) _ hle).symm
  · rw [List.getLast?_append]
    cases more.getLast? <;> rfl

/-- The first sample comes one period after the start. -/
theorem Window.ne_nil (h : Window b d start last now seen latest)
    (hnow : start + leastPeriod d ≤ now) : seen ≠ [] := by
  obtain ⟨taken, rfl, htimes, -⟩ := h
  apply List.append_ne_nil_of_right_ne_nil
  rintro rfl
  have hdue : start + leastPeriod d ∈
      dueTimes (start + leastPeriod d) (leastPeriod d) now :=
    (mem_dueTimes_iff (leastPeriod_pos d) _ _ _).2 ⟨hnow, 0, by simp⟩
  rw [← htimes] at hdue
  exact absurd hdue List.not_mem_nil

/-- Without a replay all events are samples taken since the start. -/
theorem Window.fresh (h : Window b d start last now seen latest)
    (hb : b.replayStaleEvents = false) {e : Event} (he : e ∈ seen) :
    start + leastPeriod d ≤ e.time ∧ e.time ≤ now := by
  obtain ⟨taken, rfl, htimes, -⟩ := h
  rw [hb, if_neg Bool.false_ne_true, List.nil_append] at he
  apply le_of_mem_dueTimes (leastPeriod_pos d)
  rw [← htimes]
  exact List.mem_map_of_mem he

/-- With a replay the last event seen is the last event that the sensor knows. -/
theorem Window.getLast? (h : Window b d start last now seen latest)
    (hb : b.replayStaleEvents = true) : seen.getLast? = latest := by
  obtain ⟨taken, rfl, -, rfl⟩ := h
  rw [hb, if_pos rfl, List.getLast?_append]
  cases taken.getLast? with
  | some e => rfl
  | none => cases last <;> rfl

/-- A replay begins with the last event before the start. -/
theorem Window.head? (h : Window b d start last now seen latest)
    (hb : b.replayStaleEvents = true) {e : Event} (hlast : last = some e) :
    seen.head? = some e := by
  obtain ⟨taken, rfl, -, -⟩ := h
  rw [hb, if_pos rfl, hlast]
  rfl

end Window

namespace Sampler

/-- A sensor that is on, and no one-shot, samples all points of its grid up to the clock. -/
theorem Sampling.grid {s t : Sampler} {measuring : Bool} {now : Int} {taken out : List Event}
    (h : Sampling s measuring now taken out t) (hm : (s.enabled && measuring) = true)
    (hflows : s.descriptor.isOneShot = false) :
    t.nextDue = dueAfter s.nextDue s.period now ∧
      taken.map (·.time) = dueTimes s.nextDue s.period now := by
  cases h with
  | idle hidle => exact absurd (hm.symm.trans hidle) (by decide)
  | early _ hone => exact absurd (hflows.symm.trans hone) (by decide)
  | fired _ _ hone => exact absurd (hflows.symm.trans hone) (by decide)
  | passed taken _ _ htimes => exact ⟨rfl, htimes⟩
  | kept taken _ _ htimes => exact ⟨rfl, htimes⟩
  | ripened taken _ _ htimes => exact ⟨rfl, htimes⟩

/-- A one-shot sensor keeps its due time, and so does one that takes no samples. -/
theorem Sampling.nextDue_eq {s t : Sampler} {measuring : Bool} {now : Int}
    {taken out : List Event} (h : Sampling s measuring now taken out t)
    (hm : ¬((s.enabled && measuring) = true ∧ s.descriptor.isOneShot = false)) :
    t.nextDue = s.nextDue := by
  cases h with
  | idle => rfl
  | early => rfl
  | fired => rfl
  | passed _ hon hflows => exact absurd ⟨hon, hflows⟩ hm
  | kept _ hon hflows => exact absurd ⟨hon, hflows⟩ hm
  | ripened _ hon hflows => exact absurd ⟨hon, hflows⟩ hm

theorem nextDue_advance {s : Sampler} (b : Behaviour) {measuring : Bool} (now : Int)
    (signal : Signal)
    (hm : ¬((s.enabled && measuring) = true ∧ s.descriptor.isOneShot = false)) :
    (s.advance b measuring now signal).2.1.nextDue = s.nextDue :=
  (advance_schedule_facts b measuring now signal).2.1.trans
    ((sampling { s with replay := none } measuring now signal).nextDue_eq hm)

/-- The same as `Sampling.grid` for the whole step of time. -/
theorem advance_grid {s : Sampler} (b : Behaviour) {measuring : Bool} (now : Int) (signal : Signal)
    (hm : (s.enabled && measuring) = true) (hflows : s.descriptor.isOneShot = false) :
    (s.advance b measuring now signal).2.1.nextDue = dueAfter s.nextDue s.period now ∧
      (s.emitted measuring now signal).map (·.time) = dueTimes s.nextDue s.period now ∧
      (s.advance b measuring now signal).2.1.lastEvent =
        ((s.emitted measuring now signal).getLast? <|> s.lastEvent) := by
  have hsampling := sampling { s with replay := none } measuring now signal
  obtain ⟨-, hnext, hlast⟩ := advance_schedule_facts (s := s) b measuring now signal
  obtain ⟨hgrid, htimes⟩ := hsampling.grid hm hflows
  exact ⟨hnext.trans hgrid, htimes, hlast.trans hsampling.lastEvent⟩

/-- A sensor that streams since `start`: it is on at its least period with no latency, and what
has been seen of it and what it is about to replay is its window. -/
structure Streams (b : Behaviour) (start : Int) (last : Option Event) (now : Int)
    (seen : List Event) (s : Sampler) : Prop where
  on : s.enabled = true
  flows : s.descriptor.isOneShot = false
  period : s.period = leastPeriod s.descriptor
  latency : s.latency = 0
  flushes : s.pendingFlushes = 0
  next : s.nextDue = dueAfter (start + leastPeriod s.descriptor) (leastPeriod s.descriptor) now
  window : Window b s.descriptor start last now (seen ++ s.replay.toList) s.lastEvent

section Streams

variable {b : Behaviour} {start now later : Int} {last : Option Event} {seen seen' : List Event}
  {s : Sampler}

theorem Streams.not_batching (h : s.Streams b start last now seen) : s.batching = false := by
  rw [batching, h.latency]
  rfl

/-- A sensor at rest that has been tuned streams as soon as it is switched on. -/
theorem Rests.switchOn (h : s.Rests) (hflows : s.descriptor.isOneShot = false)
    (hperiod : s.period = leastPeriod s.descriptor) (hlatency : s.latency = 0)
    (b : Behaviour) (start : Int) :
    (s.switchOn b start).Streams b start s.lastEvent start [] := by
  have hpos := leastPeriod_pos s.descriptor
  refine ⟨rfl, hflows, hperiod, hlatency, h.flushes, ?_, ?_⟩
  · rw [nextDue_switchOn hflows b start, hperiod]
    exact (dueAfter_eq_self (by omega) _).symm
  · have hreplay : (s.switchOn b start).replay.toList =
        if b.replayStaleEvents then s.lastEvent.toList else [] := by
      show (if b.replayStaleEvents then s.lastEvent else s.replay).toList = _
      rw [h.replay]
      split <;> rfl
    rw [hreplay]
    exact window_start b s.descriptor start s.lastEvent

/-- A step of time delivers the replay and the samples due, and nothing stays behind. -/
theorem Streams.advance (h : s.Streams b start last now seen) (hs : s.Sound) (hle : now ≤ later)
    (signal : Signal)
    (hseen : seen' ++ (s.advance b true later signal).2.1.buffer =
      seen ++ s.replay.toList ++ s.buffer ++ s.emitted true later signal) :
    (s.advance b true later signal).2.1.Streams b start last later seen' := by
  have hm : (s.enabled && true) = true := by rw [h.on]; rfl
  obtain ⟨hd, hp, hl, hf, hr⟩ := advance_facts (s := s) b true later signal
  obtain ⟨hnext, htimes, hlast⟩ := advance_grid b later signal hm h.flows
  have hon := enabled_advance b true later signal h.flows
  have hsound := hs.advance b true later signal
  -- nothing is held back before and after
  have hempty := hs.buffer_of_not_batching h.not_batching
  have hempty' : (s.advance b true later signal).2.1.buffer = [] := by
    apply hsound.buffer_of_not_batching
    rw [batching, hl, h.latency]
    rfl
  rw [hempty, hempty', List.append_nil, List.append_nil] at hseen
  rw [h.next, h.period] at hnext htimes
  refine ⟨hon.trans h.on, ?_, ?_, hl.trans h.latency, hf, ?_, ?_⟩
  · rw [hd]
    exact h.flows
  · rw [hp, hd]
    exact h.period
  · rw [hnext, hd]
    exact dueAfter_dueAfter (leastPeriod_pos s.descriptor) _ hle
  · rw [hr, Option.toList_none, List.append_nil, hseen, hlast, hd]
    exact h.window.extend hle htimes

/-- A sensor that streams and has nothing to replay is due at its next sample. -/
theorem Streams.notDue (h : s.Streams b start last now seen) (hs : s.Sound) (hfilling : s.Filling)
    (hreplay : s.replay = none) : NotDue now (s.deadline? true) := by
  have hsince : s.bufferedSince = none := by
    cases hd : s.bufferedSince with
    | none => rfl
    | some since =>
      have hheld := hfilling.dated (by rw [hd]; rfl)
      exact absurd (hs.buffer_of_not_batching h.not_batching) hheld
  rw [deadline?, h.flushes, hreplay, h.on, hsince]
  show NotDue now (some s.nextDue)
  rw [notDue_some, h.next]
  exact lt_dueAfter (leastPeriod_pos s.descriptor) _ _

end Streams

end Sampler

end SensorBench.Hal
