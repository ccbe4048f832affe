import SensorBench.Proofs.Hal.Streaming

/-!
# A sensor that holds its samples back

What is in the buffer of a sensor that runs at its least period with no limit to its report
latency. Time that brings no more samples than there is room for leaves in the buffer as many
samples as have come, or none once it is full (`Sampler.Runs.advance`): the buffer counts the
points of the grid modulo its size. A flush empties it.
-/

set_option autoImplicit false

namespace SensorBench.Hal

open Sampler (leastPeriod leastPeriod_pos)

/-! ## Points of the grid -/

/-- The samples that a sensor switched on at `start` has taken up to `now`. -/
def gridCount (d : Descriptor) (start now : Int) : Nat :=
  dueCount (start + leastPeriod d) (leastPeriod d) now

section Grid

variable (d : Descriptor) {start now later : Int}

theorem gridCount_eq (h : start ≤ now) :
    gridCount d start now = ((now - start) / leastPeriod d).toNat := by
  have hpos := leastPeriod_pos d
  rw [gridCount, dueCount]
  generalize leastPeriod d = period at hpos
  split
  · next hdue =>
    have hshift : (now - start) / period = (now - (start + period)) / period + 1 := by
      have hsum : now - start = now - (start + period) + period := by omega
      rw [hsum, Int.add_ediv_of_dvd_right (Int.dvd_refl period), Int.ediv_self (by omega)]
    have hnonneg : 0 ≤ (now - (start + period)) / period :=
      Int.ediv_nonneg (by omega) (by omega)
    omega
  · next hearly => rw [Int.ediv_eq_zero_of_lt (by omega) (by omega), Int.toNat_zero]

theorem gridCount_add (start : Int) (h : now ≤ later) :
    gridCount d start later = gridCount d start now +
      dueCount (dueAfter (start + leastPeriod d) (leastPeriod d) now) (leastPeriod d) later :=
  dueCount_add (leastPeriod_pos d) _ h

theorem gridCount_mono (start : Int) (h : now ≤ later) :
    gridCount d start now ≤ gridCount d start later := by
  rw [gridCount_add d start h]
  exact Nat.le_add_right _ _

/-- Up to the next point there is at most one. -/
theorem dueCount_le_one {next period : Int} (hperiod : 0 < period) (h : now ≤ next) :
    dueCount next period now ≤ 1 := by
  apply Nat.le_of_not_lt
  intro hmore
  have hreached := (lt_dueCount_iff hperiod next now 1).1 hmore
  omega

theorem length_dueTimes (next period now : Int) :
    (dueTimes next period now).length = dueCount next period now := by
  have hlength : ∀ n next, (timesFrom next period n).length = n := by
    intro n
    induction n with
    | zero => exact fun _ => rfl
    | succ n ih => exact fun next => congrArg (· + 1) (ih (next + period))
  exact hlength _ next

end Grid

namespace Sampler

variable {s t : Sampler} {measuring : Bool} {start now later : Int} {taken out : List Event}

/-- While the buffer has room and its samples are fresh enough to be held, it counts them
modulo its size. -/
theorem Sampling.length_buffer (h : Sampling s measuring now taken out t)
    (hm : (s.enabled && measuring) = true) (hflows : s.descriptor.isOneShot = false)
    (hbatching : s.batching = true)
    (hfresh : ∀ since, (s.bufferedSince <|> (dueTimes s.nextDue s.period now).head?) = some since →
      now - since < s.latency)
    (hroom : s.buffer.length + dueCount s.nextDue s.period now ≤ s.descriptor.fifoMax.toNat) :
    t.buffer.length =
        (s.buffer.length + dueCount s.nextDue s.period now) % s.descriptor.fifoMax.toNat ∧
      ∀ since, t.bufferedSince = some since →
        (s.bufferedSince <|> (dueTimes s.nextDue s.period now).head?) = some since := by
  have hsize : 0 < s.descriptor.fifoMax.toNat := by
    rw [batching, Bool.and_eq_true_iff] at hbatching
    exact of_decide_eq_true hbatching.2
  have hload : taken.map (·.time) = dueTimes s.nextDue s.period now →
      (s.loaded now taken).buffer.length = s.buffer.length + dueCount s.nextDue s.period now := by
    intro htimes
    have hcount : taken.length = dueCount s.nextDue s.period now := by
      rw [← length_dueTimes, ← htimes, List.length_map]
    rw [← hcount]
    exact List.length_append
  -- only a full buffer is ripe
  have hripe : taken.map (·.time) = dueTimes s.nextDue s.period now →
      ((s.loaded now taken).isRipe now = true ↔
        s.buffer.length + dueCount s.nextDue s.period now = s.descriptor.fifoMax.toNat) := by
    intro htimes
    have hlength := hload htimes
    have hyoung : ((s.loaded now taken).bufferedSince.any fun since =>
        decide ((s.loaded now taken).latency ≤ now - since)) = false := by
      rw [Option.any_eq_false]
      intro since hsince
      exact decide_eq_false (Int.not_le.2 (hfresh since hsince))
    have hmax : (s.loaded now taken).descriptor = s.descriptor := rfl
    rw [isRipe, hyoung, Bool.or_false, hmax, Bool.and_eq_true, Bool.not_eq_true',
      decide_eq_true_iff, List.isEmpty_eq_false_iff, ← List.length_pos_iff, hlength]
    omega
  cases h with
  | idle hidle => exact absurd (hm.symm.trans hidle) (by decide)
  | early _ hone => exact absurd (hflows.symm.trans hone) (by decide)
  | fired _ _ hone => exact absurd (hflows.symm.trans hone) (by decide)
  | passed _ _ _ _ hpasses => exact absurd (hbatching.symm.trans hpasses) (by decide)
  | kept taken _ _ htimes _ hkept =>
    refine ⟨?_, fun since hsince => hsince⟩
    rw [hload htimes, Nat.mod_eq_of_lt]
    refine Nat.lt_of_le_of_ne hroom fun hfull => ?_
    rw [(hripe htimes).2 hfull] at hkept
    cases hkept
  | ripened taken _ _ htimes _ hfull =>
    refine ⟨?_, fun since hsince => absurd hsince (Option.some_ne_none since).symm⟩
    rw [(hripe htimes).1 hfull, Nat.mod_self]
    rfl

/-- A sensor that is on since `start` at its least period and holds back its samples without a
limit. -/
structure Runs (start now : Int) (s : Sampler) : Prop where
  on : s.enabled = true
  flows : s.descriptor.isOneShot = false
  period : s.period = leastPeriod s.descriptor
  latency : s.latency = greatestTime
  room : 0 < s.descriptor.fifoMax.toNat
  next : s.nextDue = dueAfter (start + leastPeriod s.descriptor) (leastPeriod s.descriptor) now
  since : ∀ since, s.bufferedSince = some since → start ≤ since

section Runs

variable {b : Behaviour}

theorem Runs.batching (h : s.Runs start now) : s.batching = true := by
  rw [Sampler.batching, h.latency, decide_eq_true h.room]
  rfl

theorem Runs.start_le_nextDue (h : s.Runs start now) : start ≤ s.nextDue := by
  have hpos := leastPeriod_pos s.descriptor
  have hle := le_dueAfter hpos (start + leastPeriod s.descriptor) now
  rw [h.next]
  omega

/-- A tuned sensor at rest runs as soon as it is switched on. -/
theorem Rests.runs (h : s.Rests) (hs : s.Sound) (hfilling : s.Filling)
    (hflows : s.descriptor.isOneShot = false) (hperiod : s.period = leastPeriod s.descriptor)
    (hlatency : s.latency = greatestTime) (hroom : 0 < s.descriptor.fifoMax.toNat)
    (b : Behaviour) (start : Int) : (s.switchOn b start).Runs start start := by
  have hpos := leastPeriod_pos s.descriptor
  refine ⟨rfl, hflows, hperiod, hlatency, hroom, ?_, fun since hsince => ?_⟩
  · rw [nextDue_switchOn hflows b start, hperiod]
    exact (dueAfter_eq_self (by omega) _).symm
  · -- an empty buffer has no date
    have hheld := hfilling.dated (by rw [show s.bufferedSince = some since from hsince]; rfl)
    exact absurd (h.buffer hs) hheld

theorem Runs.requestFlush (h : s.Runs start now) : s.requestFlush.Runs start now :=
  ⟨h.on, h.flows, h.period, h.latency, h.room, h.next, h.since⟩

/-- Time that brings no more samples than there is room for. -/
theorem Runs.advance (h : s.Runs start now) (hs : s.Sound) (hle : now ≤ later)
    (hlater : later - start < greatestTime)
    (hroom : s.buffer.length + dueCount s.nextDue s.period later ≤ s.descriptor.fifoMax.toNat)
    (signal : Signal) :
    (s.advance b true later signal).2.1.Runs start later ∧
      (s.advance b true later signal).2.1.buffer.length = if 0 < s.pendingFlushes then 0
        else (s.buffer.length + dueCount s.nextDue s.period later) %
          s.descriptor.fifoMax.toNat := by
  have hm : (s.enabled && true) = true := by rw [h.on]; rfl
  obtain ⟨hd, hp, hl, -, -⟩ := advance_facts (s := s) b true later signal
  have hnext := (advance_grid b later signal hm h.flows).1
  -- no sample is older than the start, so the greatest latency is never reached
  have hfresh : ∀ since,
      (s.bufferedSince <|> (dueTimes s.nextDue s.period later).head?) = some since →
        start ≤ since := by
    intro since hsince
    cases hdate : s.bufferedSince with
    | some since' =>
      rw [hdate] at hsince
      cases hsince
      exact h.since since hdate
    | none =>
      rw [hdate] at hsince
      have hdue := le_of_mem_dueTimes hs.period_pos (List.mem_of_head? hsince)
      exact Int.le_trans h.start_le_nextDue hdue.1
  have hsampling := sampling { s with replay := none } true later signal
  obtain ⟨-, -, -, hflushes, -⟩ := hsampling.facts
  obtain ⟨hlength, hsince⟩ := hsampling.length_buffer hm h.flows h.batching
    (fun since hdate => by
      have := hfresh since hdate
      have hlatency : ({ s with replay := none } : Sampler).latency = greatestTime := h.latency
      omega) hroom
  have hbuffer : (∀ since, (s.advance b true later signal).2.1.bufferedSince = some since →
        start ≤ since) ∧
      (s.advance b true later signal).2.1.buffer.length = if 0 < s.pendingFlushes then 0
        else (s.buffer.length + dueCount s.nextDue s.period later) %
          s.descriptor.fifoMax.toNat := by
    rw [advance_eq]
    dsimp only [answerFlushes]
    rw [hflushes]
    split
    · exact ⟨fun since hnone => absurd hnone (Option.some_ne_none since).symm, rfl⟩
    · exact ⟨fun since hdate => hfresh since (hsince since hdate), hlength⟩
  refine ⟨⟨(enabled_advance b true later signal h.flows).trans h.on, ?_, ?_, hl.trans h.latency, ?_,
    ?_, hbuffer.1⟩, hbuffer.2⟩
  · rw [hd]
    exact h.flows
  · rw [hp, hd]
    exact h.period
  · rw [hd]
    exact h.room
  · rw [hnext, h.next, h.period, hd]
    exact dueAfter_dueAfter (leastPeriod_pos s.descriptor) _ hle

/-- Nothing is due in a running sensor before its next sample. -/
theorem Runs.notDue (h : s.Runs start now) (hstart : 0 ≤ start) (hnow : now < greatestTime)
    (hflushes : s.pendingFlushes = 0) (hreplay : s.replay = none) :
    NotDue now (s.deadline? true) := by
  have hnext : now < s.nextDue := by
    rw [h.next]
    exact lt_dueAfter (leastPeriod_pos s.descriptor) _ _
  rw [deadline?, hflushes, hreplay, h.on]
  cases hsince : s.bufferedSince with
  | none => exact notDue_some.2 hnext
  | some since =>
    show NotDue now (some (min (min (since + s.latency) greatestTime) s.nextDue))
    have hdate := h.since since hsince
    rw [notDue_some, h.latency]
    omega

end Runs

end Sampler

end SensorBench.Hal
