import SensorBench.Proofs.Hal.Deadline
import SensorBench.Proofs.Hal.Schedule

/-!
# The buffer of a sensor

The buffer of a sensor, its date, the switch, the latency and the schedule are changed
apart from each other: by sampling, by what empties the buffer, and by calls. They fit
together in every reachable state all the same (`Sampler.Backlog`): a buffer that holds
anything is dated by its first sample, its samples rise and come before the next one due,
and right after a step of time all of them are younger than the latency
(`backlog_bounded`).
-/

set_option autoImplicit false

namespace SensorBench.Hal

namespace Sampler

/-- How the samples held back lie when the clock has come to some time: the date of the
buffer is that of the first of them, they rise, the clock has reached them, and the next
sample is due after them. -/
structure Backlog (clock : Int) (s : Sampler) : Prop where
  dated : s.bufferedSince = s.buffer.head?.map (·.time)
  rising : s.buffer.Pairwise (·.time < ·.time)
  reached : ∀ e ∈ s.buffer, e.time ≤ clock
  ahead : ∀ e ∈ s.buffer, e.time < s.nextDue

section Backlog

variable {s t : Sampler} {clock now : Int} {measuring : Bool} {taken out : List Event}

theorem Backlog.of_empty (hbuffer : s.buffer = []) (hsince : s.bufferedSince = none) :
    s.Backlog clock := by
  constructor
  · rw [hbuffer, hsince]
    rfl
  · rw [hbuffer]
    exact List.Pairwise.nil
  · intro e he
    rw [hbuffer] at he
    exact absurd he List.not_mem_nil
  · intro e he
    rw [hbuffer] at he
    exact absurd he List.not_mem_nil

theorem Backlog.since_of_empty (h : s.Backlog clock) (hbuffer : s.buffer = []) :
    s.bufferedSince = none := by
  rw [h.dated, hbuffer]
  rfl

theorem Backlog.mono {later : Int} (hle : clock ≤ later) (h : s.Backlog clock) :
    s.Backlog later :=
  ⟨h.dated, h.rising, fun e he => Int.le_trans (h.reached e he) hle, h.ahead⟩

/-- A change of the schedule is all right if it leaves the samples before the next one. -/
theorem Backlog.congr (h : s.Backlog clock) (hbuffer : t.buffer = s.buffer)
    (hsince : t.bufferedSince = s.bufferedSince) (hahead : ∀ e ∈ s.buffer, e.time < t.nextDue) :
    t.Backlog clock := by
  constructor
  · rw [hbuffer, hsince]
    exact h.dated
  · rw [hbuffer]
    exact h.rising
  · rw [hbuffer]
    exact h.reached
  · rw [hbuffer]
    exact hahead

/-- New samples go behind the old ones. -/
theorem Backlog.loaded (h : s.Backlog now) (hs : s.Sound)
    (htimes : taken.map (·.time) = dueTimes s.nextDue s.period now) :
    (s.loaded now taken).Backlog now := by
  have hpos := hs.period_pos
  have hdue : ∀ e ∈ taken, e.time ∈ dueTimes s.nextDue s.period now := by
    intro e he
    rw [← htimes]
    exact List.mem_map_of_mem he
  constructor
  case dated =>
    show (s.bufferedSince <|> (dueTimes s.nextDue s.period now).head?) =
      (s.buffer ++ taken).head?.map (·.time)
    rw [h.dated, ← htimes]
    cases s.buffer with
    | cons first rest => rfl
    | nil => cases taken <;> rfl
  case rising =>
    have hspaced := timesFrom_spaced hpos s.nextDue (dueCount s.nextDue s.period now)
    have hnew : taken.Pairwise (·.time < ·.time) := by
      apply List.pairwise_map.1
      rw [htimes]
      exact hspaced.imp fun hle => by omega
    refine List.pairwise_append.2 ⟨h.rising, hnew, fun e he f hf => ?_⟩
    -- an old sample comes before the old schedule, a new one not
    exact Int.lt_of_lt_of_le (h.ahead e he) (le_of_mem_dueTimes hpos (hdue f hf)).1
  case reached =>
    intro e he
    rcases List.mem_append.1 he with he | he
    · exact h.reached e he
    · exact (le_of_mem_dueTimes hpos (hdue e he)).2
  case ahead =>
    intro e he
    show e.time < dueAfter s.nextDue s.period now
    rcases List.mem_append.1 he with he | he
    · exact Int.lt_of_lt_of_le (h.ahead e he) (le_dueAfter hpos _ _)
    · have hbefore := dueTimes_before_dueAfter hpos (hdue e he)
      omega

theorem Backlog.sampling (h : s.Backlog now) (hs : s.Sound)
    (hsampling : Sampling s measuring now taken out t) : t.Backlog now := by
  cases hsampling with
  | idle => exact h
  | early => exact h
  | fired e hm hone =>
    have hempty := hs.buffer_of_isOneShot hone
    exact .of_empty hempty (h.since_of_empty hempty)
  | passed taken hm hone htimes hbatching =>
    have hempty := hs.buffer_of_not_batching hbatching
    exact .of_empty hempty (h.since_of_empty hempty)
  | kept taken hm hone htimes => exact h.loaded hs htimes
  | ripened => exact .of_empty rfl rfl

theorem Backlog.advance (h : s.Backlog now) (hs : s.Sound) (b : Behaviour) (measuring : Bool)
    (signal : Signal) : (s.advance b measuring now signal).2.1.Backlog now := by
  have hreplay : { s with replay := none }.Backlog now := h.congr rfl rfl h.ahead
  have hsampled := hreplay.sampling hs.of_replay_eq_none
    (Sampler.sampling { s with replay := none } measuring now signal)
  rw [advance_eq]
  dsimp only [answerFlushes]
  split
  · exact .of_empty rfl rfl
  · exact hsampled

/-- Every change at or after the clock keeps the backlog in order. -/
theorem Backlog.change {b : Behaviour} {m : Turn} {signal : Signal} (h : s.Backlog clock)
    (hs : s.Sound) (hle : clock ≤ m.time) (hchange : Change b measuring m signal s t) :
    t.Backlog m.time := by
  have hnow := h.mono hle
  cases hchange with
  | passed => exact hnow
  | disconnected => exact .of_empty rfl rfl
  | switchedOn _ hoff =>
    -- a sensor that is off holds nothing, so the new schedule may start anywhere
    have hempty := hs.buffer_of_disabled hoff
    exact .of_empty hempty (h.since_of_empty hempty)
  | switchedOff => exact .of_empty rfl rfl
  | retuned period latency =>
    have hp := leastPeriod_le_periodFor s.descriptor period
    have hpos := leastPeriod_pos s.descriptor
    have hretuned : (s.retune m.time period latency).Backlog m.time := by
      refine hnow.congr rfl rfl fun e he => ?_
      have hreached := hnow.reached e he
      have hahead := h.ahead e he
      simp only [retune]
      split <;> omega
    rw [release]
    split
    · exact .of_empty rfl rfl
    · exact hretuned
  | flushRequested => exact hnow.congr rfl rfl h.ahead
  | advanced => exact hnow.advance hs b measuring signal

/-- Whatever is held is not older than the date of the buffer. -/
theorem Backlog.since_le (h : s.Backlog clock) :
    ∀ e ∈ s.buffer, ∃ since, s.bufferedSince = some since ∧ since ≤ e.time := by
  intro e he
  have hrising := h.rising
  rw [h.dated]
  cases hbuffer : s.buffer with
  | nil =>
    rw [hbuffer] at he
    exact absurd he List.not_mem_nil
  | cons first rest =>
    rw [hbuffer] at he hrising
    refine ⟨first.time, rfl, ?_⟩
    rcases List.mem_cons.1 he with rfl | he
    · exact Int.le_refl _
    · exact Int.le_of_lt (List.rel_of_pairwise_cons hrising he)

end Backlog

end Sampler

section Runs

variable {b : Behaviour} {hal : Hal} {ms : List Turn}

theorem backlog_step (hsound : hal.Sound) {clock : Int}
    (hall : ∀ k s, hal.sensor? k = some s → s.Backlog clock) {m : Turn} (hle : clock ≤ m.time) :
    ∀ k t, (hal.step b m).sensor? k = some t → t.Backlog m.time := by
  refine forall_sensor?_step (P := fun s => s.Sound ∧ s.Backlog clock)
    (Q := fun t => t.Backlog m.time) ?_ ?_
  · intro measuring signal s t hchange hs
    exact hs.2.change hs.1 hle hchange
  · intro k s hs
    exact ⟨hsound.of_sensor? hs, hall k s hs⟩

/-- Along an ordered run every sensor keeps its backlog in order. -/
theorem backlog_run (hsound : hal.Sound) {clock : Int}
    (hall : ∀ k s, hal.sensor? k = some s → s.Backlog clock) (hms : InOrder ms)
    (hclock : ∀ m ∈ ms, clock ≤ m.time) :
    ∃ last, ∀ k s, (hal.run b ms).sensor? k = some s → s.Backlog last := by
  induction ms generalizing hal clock with
  | nil => exact ⟨clock, hall⟩
  | cons m rest ih =>
    -- the clock has come to the time of the first turn
    have hstep := backlog_step (b := b) hsound hall (hclock m List.mem_cons_self)
    apply ih (hsound.step b m) hstep (List.pairwise_cons.1 hms).2
    intro n hn
    exact List.rel_of_pairwise_cons hms hn

/-- What a sensor of a HAL that measures holds back right after a step of time is younger than
its latency. -/
theorem age_lt_latency (hsound : hal.Sound) (hfilling : ∀ s ∈ hal.sensors, s.Filling)
    (hmode : hal.mode = .normal) {now clock : Int} {h : Handle} {t : Sampler}
    (ht : (hal.advance b now).2.sensor? h = some t) (hbacklog : t.Backlog clock) :
    ∀ e ∈ t.buffer, now - e.time < t.latency := by
  intro e he
  have hholding := ((hsound.step b ⟨now, .advance⟩).of_sensor? ht).holding (List.ne_nil_of_mem he)
  obtain ⟨since, hsince, hle⟩ := hbacklog.since_le e he
  rw [sensor?_advance] at ht
  obtain ⟨s, hs, rfl⟩ := Option.map_eq_some_iff.1 ht
  have hmeasuring : hal.measuring = true := decide_eq_true hmode
  have hyoung := (hsound.of_sensor? hs).advance_young (hfilling s (List.mem_of_find?_eq_some hs))
    b hal.measuring now (hal.signalFor b now h) (by rw [hholding.1, hmeasuring]; rfl) since hsince
  omega

/-- After every ordered run: the buffer of a sensor is dated if and only if it holds anything,
and then by its first sample; the sensor is enabled and batches, and the buffer is not full. The
samples in it are the sensor's own, they rise, and the next one is due after them. If the run
ends with a step of time in the normal mode, all of them are younger than the latency. -/
theorem backlog_bounded (c : Catalog) (signal : Signal) (b : Behaviour) {ms : List Turn}
    (hms : InOrder ms) {h : Handle} {s : Sampler}
    (hs : ((ofCatalog c signal).run b ms).sensor? h = some s) :
    (s.buffer = [] ↔ s.bufferedSince = none) ∧
      (∀ first rest, s.buffer = first :: rest →
        s.bufferedSince = some first.time ∧ s.enabled = true ∧ 0 < s.latency ∧
          0 < s.descriptor.fifoMax.toNat ∧ s.buffer.length < s.descriptor.fifoMax.toNat) ∧
      (∀ e ∈ s.buffer, e.handle = h ∧ e.kind = s.descriptor.kind ∧ e.time < s.nextDue) ∧
      s.buffer.Pairwise (·.time < ·.time) ∧
      ∀ early now, ms = early ++ [⟨now, .advance⟩] →
        ((ofCatalog c signal).run b early).mode = .normal →
        ∀ e ∈ s.buffer, now - e.time < s.latency := by
  have hstart := ofCatalog_sound c signal
  have hsound := (hstart.run b ms).of_sensor? hs
  have hroom := (filling_run c signal b ms s (List.mem_of_find?_eq_some hs)).room
  have hh := handle_of_sensor? hs
  obtain ⟨clock, hclock⟩ := hms.exists_le
  have hfresh : ∀ k s, (ofCatalog c signal).sensor? k = some s → s.Backlog clock := by
    intro k s hs
    obtain ⟨d, -, rfl⟩ := initial_of_sensor? hs
    exact .of_empty rfl rfl
  obtain ⟨last, hlast⟩ := backlog_run (b := b) hstart hfresh hms hclock
  have hbacklog := hlast h s hs
  refine ⟨?_, fun first rest hbuffer => ?_, fun e he => ?_, hbacklog.rising, ?_⟩
  · rw [hbacklog.dated]
    cases s.buffer with
    | nil => exact iff_of_true rfl rfl
    | cons first rest => exact iff_of_false (List.cons_ne_nil first rest) (Option.some_ne_none _)
  · have hne : s.buffer ≠ [] := by
      rw [hbuffer]
      exact List.cons_ne_nil first rest
    obtain ⟨hon, hbatching, -⟩ := hsound.holding hne
    simp only [Sampler.batching, Bool.and_eq_true, decide_eq_true_eq] at hbatching
    have hsince : s.bufferedSince = some first.time := by
      rw [hbacklog.dated, hbuffer]
      rfl
    exact ⟨hsince, hon, hbatching.1, hbatching.2, hroom hne⟩
  · obtain ⟨hhandle, hkind, -⟩ := hsound.buffered e he
    exact ⟨hhandle.trans hh, hkind, hbacklog.ahead e he⟩
  · intro early now hsplit hmode
    rw [hsplit, run_concat] at hs
    exact age_lt_latency (hstart.run b early) (filling_run c signal b early) hmode hs hbacklog

end Runs

theorem backlog_bounded_holding :
    let hal := (ofCatalog [barometer] silence).run {} holdingRun
    InOrder holdingRun ∧ ∃ s, hal.sensor? barometer.handle = some s ∧
      s.buffer.map (·.time) = [5000000, 10000000] ∧ s.bufferedSince = some 5000000 ∧
      s.enabled = true ∧ s.buffer.length < s.descriptor.fifoMax.toNat ∧
      ∀ e ∈ s.buffer, e.time < s.nextDue ∧ 11000000 - e.time < s.latency := by
  have horder : InOrder holdingRun := by decide
  have hsome : (((ofCatalog [barometer] silence).run {} holdingRun).sensor?
      barometer.handle).isSome = true := by decide +kernel
  obtain ⟨s, hs⟩ := Option.isSome_iff_exists.1 hsome
  have htimes : (((ofCatalog [barometer] silence).run {} holdingRun).sensor?
      barometer.handle).map (fun s => s.buffer.map (·.time)) =
        some [5000000, 10000000] := by decide +kernel
  rw [hs] at htimes
  have htimes : s.buffer.map (·.time) = [5000000, 10000000] := Option.some.inj htimes
  obtain ⟨-, hdated, hown, -, hyoung⟩ := backlog_bounded [barometer] silence {} horder hs
  obtain ⟨first, rest, hbuffer, hfirst, -⟩ := List.map_eq_cons_iff.1 htimes
  obtain ⟨hsince, hon, -, -, hroom⟩ := hdated first rest hbuffer
  rw [hfirst] at hsince
  refine ⟨horder, s, hs, htimes, hsince, hon, hroom, fun e he => ⟨(hown e he).2.2, ?_⟩⟩
  -- the run ends with a step of time
  exact hyoung (holdingRun.take 5) 11000000 rfl (by decide +kernel) e he

end SensorBench.Hal
