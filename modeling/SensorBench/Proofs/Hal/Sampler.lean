import SensorBench.Hal.Sampler
import SensorBench.Proofs.Hal.Schedule

/-!
# One sensor up to a clock value

`Sampler.emitted` says which samples a sensor takes up to a clock value: one at
each due time, as long as it is enabled and the HAL measures. `Sampling` lists all
that taking them comes to, and the facts about it are proved by cases. What
`advance` gives out and what it leaves in the buffer are these samples and those
buffered before, none lost and none twice, in the order in which they were taken
(`Sound.advance_spec`). The statements rest on `Sampler.Sound`: a sensor that
holds samples back is enabled, batches, and reports more than once.
-/

set_option autoImplicit false

namespace SensorBench.Hal

namespace Signal

@[simp] theorem length_payloads (signal : Signal) (kind : SensorKind) (times : List Int) :
    (signal.payloads kind times).1.length = times.length := by
  induction times generalizing signal with
  | nil => rfl
  | cons time rest ih => simp [payloads, ih]

theorem payload_isMeta (signal : Signal) (kind : SensorKind) (time : Int) :
    (signal.payload kind time).1.isMeta = false := by
  unfold payload
  split <;> rfl

theorem payloads_isMeta (signal : Signal) (kind : SensorKind) (times : List Int) :
    ∀ p ∈ (signal.payloads kind times).1, p.isMeta = false := by
  induction times generalizing signal with
  | nil => simp [payloads]
  | cons time rest ih =>
    intro p hp
    simp only [payloads, List.mem_cons] at hp
    rcases hp with rfl | hp
    · exact payload_isMeta signal kind time
    · exact ih _ p hp

end Signal

namespace Sampler

/-- An event that the sensor may have measured. -/
def Measured (s : Sampler) (e : Event) : Prop :=
  e.handle = s.handle ∧ e.kind = s.descriptor.kind ∧ e.payload.isMeta = false

/-- The times up to `now` at which the sensor takes a sample; a one-shot sensor
takes one. -/
def due (s : Sampler) (now : Int) : List Int :=
  if s.descriptor.isOneShot then (if s.nextDue ≤ now then [s.nextDue] else [])
  else dueTimes s.nextDue s.period now

/-- The samples that the sensor takes up to `now`. -/
def emitted (s : Sampler) (measuring : Bool) (now : Int) (signal : Signal) : List Event :=
  if s.enabled && measuring then
    s.eventsAt (s.due now) (signal.payloads s.descriptor.kind (s.due now)).1
  else []

/-- What every reachable sensor satisfies: its buffer, its last event and the event
it is about to replay are its own, samples are only held back by an enabled sensor
that batches and reports more than once, and its period is one it supports. -/
structure Sound (s : Sampler) : Prop where
  buffered : ∀ e ∈ s.buffer, s.Measured e
  last : ∀ e, s.lastEvent = some e → s.Measured e
  replayed : ∀ e, s.replay = some e → s.Measured e
  holding : s.buffer ≠ [] →
    s.enabled = true ∧ s.batching = true ∧ s.descriptor.isOneShot = false
  least_le_period : leastPeriod s.descriptor ≤ s.period

/-- All events that a sensor has in its state satisfy a property. -/
structure Carries (P : Event → Prop) (s : Sampler) : Prop where
  buffered : ∀ e ∈ s.buffer, P e
  last : ∀ e, s.lastEvent = some e → P e
  replayed : ∀ e, s.replay = some e → P e

theorem Sound.carries {s : Sampler} (h : s.Sound) : s.Carries s.Measured :=
  ⟨h.buffered, h.last, h.replayed⟩

theorem Measured.congr {s t : Sampler} (h : t.descriptor = s.descriptor) {e : Event}
    (he : s.Measured e) : t.Measured e := by
  simpa only [Measured, handle, h] using he

theorem Measured.not_isFlushMarker {s : Sampler} {e : Event} (h : s.Measured e) :
    e.isFlushMarker = false := by
  simp [Event.isFlushMarker, h.2.2]

theorem shortestPeriod_le_leastPeriod (d : Descriptor) : shortestPeriod ≤ leastPeriod d := by
  rw [leastPeriod]
  omega

theorem leastPeriod_pos (d : Descriptor) : 0 < leastPeriod d := by
  have h := shortestPeriod_le_leastPeriod d
  have hs : (0 : Int) < shortestPeriod := by decide
  omega

theorem leastPeriod_le_periodFor (d : Descriptor) (requested : Int) :
    leastPeriod d ≤ periodFor d requested := by
  simp only [periodFor]
  split <;> omega

theorem Sound.period_pos {s : Sampler} (h : s.Sound) : 0 < s.period := by
  have := leastPeriod_pos s.descriptor
  have := h.least_le_period
  omega

/-- A sensor that is switched on is due later. -/
theorem Sound.lt_firstDue {s : Sampler} (h : s.Sound) (now : Int) : now < s.firstDue now := by
  have hpos := h.period_pos
  have hdelay : (0 : Int) < oneShotDelay := by decide
  rw [firstDue]
  split <;> omega

theorem Sound.buffer_of_isOneShot {s : Sampler} (h : s.Sound)
    (hs : s.descriptor.isOneShot = true) : s.buffer = [] := by
  by_cases hb : s.buffer = []
  · exact hb
  · exact absurd (hs.symm.trans (h.holding hb).2.2) (by decide)

theorem Sound.buffer_of_not_batching {s : Sampler} (h : s.Sound) (hs : s.batching = false) :
    s.buffer = [] := by
  by_cases hb : s.buffer = []
  · exact hb
  · exact absurd (hs.symm.trans (h.holding hb).2.1) (by decide)

theorem Sound.buffer_of_disabled {s : Sampler} (h : s.Sound) (hs : s.enabled = false) :
    s.buffer = [] := by
  by_cases hb : s.buffer = []
  · exact hb
  · exact absurd (hs.symm.trans (h.holding hb).1) (by decide)

theorem initial_sound (d : Descriptor) : (initial d).Sound where
  buffered := fun _ he => absurd he List.not_mem_nil
  last := fun _ he => absurd he (by simp [initial])
  replayed := fun _ he => absurd he (by simp [initial])
  holding := fun h => absurd rfl h
  least_le_period := leastPeriod_le_periodFor d d.maxDelayNs

/-! ## Samples taken -/

theorem mem_eventsAt {s : Sampler} {times : List Int} {payloads : List Payload} {e : Event}
    (he : e ∈ s.eventsAt times payloads) :
    ∃ t ∈ times, ∃ p ∈ payloads, e = ⟨s.handle, s.descriptor.kind, t, p⟩ := by
  rw [eventsAt, ← List.map_uncurry_zip_eq_zipWith, List.mem_map] at he
  obtain ⟨⟨t, p⟩, hz, rfl⟩ := he
  obtain ⟨ht, hp⟩ := List.of_mem_zip hz
  exact ⟨t, ht, p, hp, rfl⟩

theorem times_eventsAt (s : Sampler) (times : List Int) (payloads : List Payload)
    (h : payloads.length = times.length) :
    (s.eventsAt times payloads).map (·.time) = times := by
  rw [eventsAt, ← List.map_uncurry_zip_eq_zipWith, List.map_map]
  show (times.zip payloads).map Prod.fst = times
  exact List.map_fst_zip (Nat.le_of_eq h.symm)

section Emitted

variable (s : Sampler) (measuring : Bool) (now : Int) (signal : Signal)

theorem emitted_measured : ∀ e ∈ s.emitted measuring now signal, s.Measured e := by
  intro e he
  rw [emitted] at he
  split at he
  · obtain ⟨t, -, p, hp, rfl⟩ := mem_eventsAt he
    exact ⟨rfl, rfl, Signal.payloads_isMeta _ _ _ p hp⟩
  · exact absurd he List.not_mem_nil

theorem emitted_eq_nil (h : (s.enabled && measuring) = false) :
    s.emitted measuring now signal = [] := by
  simp [emitted, h]

theorem times_emitted (h : (s.enabled && measuring) = true) :
    (s.emitted measuring now signal).map (·.time) = s.due now := by
  rw [emitted, if_pos h]
  exact times_eventsAt s _ _ (Signal.length_payloads _ _ _)

variable {s measuring now signal}

/-- A sample lies between the time at which the sensor was due and the clock. -/
theorem time_of_mem_emitted (hs : s.Sound) {e : Event}
    (he : e ∈ s.emitted measuring now signal) : s.nextDue ≤ e.time ∧ e.time ≤ now := by
  by_cases h : (s.enabled && measuring) = true
  · have ht : e.time ∈ s.due now := by
      rw [← times_emitted s measuring now signal h]
      exact List.mem_map_of_mem he
    rw [due] at ht
    split at ht
    · split at ht
      · rw [List.mem_singleton] at ht
        omega
      · exact absurd ht List.not_mem_nil
    · exact le_of_mem_dueTimes hs.period_pos ht
  · rw [emitted_eq_nil s measuring now signal (Bool.eq_false_iff.2 h)] at he
    exact absurd he List.not_mem_nil

end Emitted

/-! ## Sampling -/

/-- The sensor sampled up to `now` if it is enabled and the HAL measures: what it
delivers, and the sensor and the signal after it. -/
def sampled (s : Sampler) (measuring : Bool) (now : Int) (signal : Signal) :
    List Event × Sampler × Signal :=
  if s.enabled && measuring then s.sample now signal else ([], s, signal)

theorem advance_eq (s : Sampler) (b : Behaviour) (measuring : Bool) (now : Int)
    (signal : Signal) :
    s.advance b measuring now signal =
      let r := { s with replay := none }.sampled measuring now signal
      (s.replay.toList.map (⟨.replay, ·⟩) ++ r.1.map (⟨.sample, ·⟩) ++
        (r.2.1.answerFlushes b now).1, (r.2.1.answerFlushes b now).2, r.2.2) :=
  rfl

/-- The sensor with its schedule moved past the clock by the samples taken. -/
def scheduled (s : Sampler) (now : Int) (taken : List Event) : Sampler :=
  { s with
    nextDue := dueAfter s.nextDue s.period now
    lastEvent := taken.getLast? <|> s.lastEvent }

/-- The sensor with the samples taken put behind those that it holds. -/
def loaded (s : Sampler) (now : Int) (taken : List Event) : Sampler :=
  { s.scheduled now taken with
    buffer := s.buffer ++ taken
    bufferedSince := s.bufferedSince <|> (dueTimes s.nextDue s.period now).head? }

/-- All that sampling up to a clock value comes to: the samples taken, those delivered,
and the sensor afterwards. -/
inductive Sampling (s : Sampler) (measuring : Bool) (now : Int) :
    List Event → List Event → Sampler → Prop
  | idle : (s.enabled && measuring) = false → Sampling s measuring now [] [] s
  | early : (s.enabled && measuring) = true → s.descriptor.isOneShot = true →
      now < s.nextDue → Sampling s measuring now [] [] s
  | fired (e : Event) : (s.enabled && measuring) = true → s.descriptor.isOneShot = true →
      s.nextDue ≤ now →
      Sampling s measuring now [e] [e] { s with enabled := false, lastEvent := some e }
  | passed (taken : List Event) : (s.enabled && measuring) = true →
      s.descriptor.isOneShot = false → taken.map (·.time) = dueTimes s.nextDue s.period now →
      s.batching = false → Sampling s measuring now taken taken (s.scheduled now taken)
  | kept (taken : List Event) : (s.enabled && measuring) = true →
      s.descriptor.isOneShot = false → taken.map (·.time) = dueTimes s.nextDue s.period now →
      s.batching = true → (s.loaded now taken).isRipe now = false →
      Sampling s measuring now taken [] (s.loaded now taken)
  | ripened (taken : List Event) : (s.enabled && measuring) = true →
      s.descriptor.isOneShot = false → taken.map (·.time) = dueTimes s.nextDue s.period now →
      s.batching = true → (s.loaded now taken).isRipe now = true →
      Sampling s measuring now taken (s.buffer ++ taken) (s.loaded now taken).clearBuffer

theorem sampling (s : Sampler) (measuring : Bool) (now : Int) (signal : Signal) :
    Sampling s measuring now (s.emitted measuring now signal) (s.sampled measuring now signal).1
      (s.sampled measuring now signal).2.1 := by
  cases hm : s.enabled && measuring with
  | false =>
    rw [emitted_eq_nil s measuring now signal hm, sampled, hm]
    exact .idle hm
  | true =>
    have htimes := times_emitted s measuring now signal hm
    cases hone : s.descriptor.isOneShot with
    | true =>
      rw [sampled, hm, if_pos rfl, sample, hone, if_pos rfl, fire]
      rw [emitted, hm, if_pos rfl, due, hone, if_pos rfl]
      by_cases hdue : s.nextDue ≤ now
      · rw [if_pos hdue, if_pos hdue]
        exact .fired _ hm hone hdue
      · rw [if_neg hdue, if_neg hdue]
        exact .early hm hone (Int.not_le.1 hdue)
    | false =>
      have hdue : s.due now = dueTimes s.nextDue s.period now := by
        rw [due, hone]
        exact if_neg Bool.false_ne_true
      have htaken : s.emitted measuring now signal =
          s.eventsAt (dueTimes s.nextDue s.period now)
            (signal.payloads s.descriptor.kind (dueTimes s.nextDue s.period now)).1 := by
        rw [emitted, hm, if_pos rfl, hdue]
      rw [hdue] at htimes
      rw [sampled, hm, if_pos rfl, sample, hone, if_neg Bool.false_ne_true, stream]
      dsimp only
      rw [← htaken]
      split
      · next hbatching =>
        split
        · next hripe => exact .ripened _ hm hone htimes hbatching hripe
        · next hripe => exact .kept _ hm hone htimes hbatching (Bool.eq_false_iff.2 hripe)
      · next hbatching => exact .passed _ hm hone htimes (Bool.eq_false_iff.2 hbatching)

section Sampling

variable {s t : Sampler} {measuring : Bool} {now : Int} {taken out : List Event}

/-- Sampling leaves alone what only calls change. -/
theorem Sampling.facts (h : Sampling s measuring now taken out t) :
    t.descriptor = s.descriptor ∧ t.period = s.period ∧ t.latency = s.latency ∧
      t.pendingFlushes = s.pendingFlushes ∧ t.replay = s.replay := by
  cases h <;> exact ⟨rfl, rfl, rfl, rfl, rfl⟩

/-- The last event is the last sample taken. -/
theorem Sampling.lastEvent (h : Sampling s measuring now taken out t) :
    t.lastEvent = (taken.getLast? <|> s.lastEvent) := by
  cases h <;> rfl

/-- Only a one-shot sensor disables itself. -/
theorem Sampling.enabled (h : Sampling s measuring now taken out t)
    (hone : s.descriptor.isOneShot = false) : t.enabled = s.enabled := by
  cases h with
  | fired e hm hfires => exact absurd (hone.symm.trans hfires) (by decide)
  | _ => rfl

/-- A sensor that is enabled after sampling was so before, and its schedule has only
moved on: past every sample taken by at least a period, and past the clock if the HAL
measures. -/
theorem Sampling.schedule (h : Sampling s measuring now taken out t) (hs : s.Sound)
    (hon : t.enabled = true) :
    s.enabled = true ∧ s.nextDue ≤ t.nextDue ∧
      (∀ e ∈ taken, e.time + s.period ≤ t.nextDue) ∧ (measuring = true → now < t.nextDue) := by
  -- a sensor that streams goes to the first time after the clock on its grid
  have hstream : (s.enabled && measuring) = true →
      taken.map (·.time) = dueTimes s.nextDue s.period now →
      t.nextDue = dueAfter s.nextDue s.period now →
      s.enabled = true ∧ s.nextDue ≤ t.nextDue ∧
        (∀ e ∈ taken, e.time + s.period ≤ t.nextDue) ∧
        (measuring = true → now < t.nextDue) := by
    intro hm htimes hnext
    rw [hnext]
    refine ⟨(Bool.and_eq_true_iff.1 hm).1, le_dueAfter hs.period_pos _ _, fun e he => ?_,
      fun _ => lt_dueAfter hs.period_pos _ _⟩
    apply dueTimes_before_dueAfter hs.period_pos
    rw [← htimes]
    exact List.mem_map_of_mem he
  cases h with
  | idle hm =>
    refine ⟨hon, Int.le_refl _, fun e he => absurd he List.not_mem_nil, fun hmeasuring => ?_⟩
    rw [hon, hmeasuring] at hm
    cases hm
  | early hm hone hearly =>
    exact ⟨hon, Int.le_refl _, fun e he => absurd he List.not_mem_nil, fun _ => hearly⟩
  | fired => exact absurd hon Bool.false_ne_true
  | passed taken hm hone htimes => exact hstream hm htimes rfl
  | kept taken hm hone htimes => exact hstream hm htimes rfl
  | ripened taken hm hone htimes => exact hstream hm htimes rfl

/-- What the sensor held and what it takes is what it delivers and what it holds. -/
theorem Sampling.conserves (h : Sampling s measuring now taken out t) (hs : s.Sound) :
    s.buffer ++ taken = out ++ t.buffer := by
  cases h with
  | idle => exact List.append_nil _
  | early => exact List.append_nil _
  | fired e hm hone =>
    show s.buffer ++ [e] = [e] ++ s.buffer
    rw [hs.buffer_of_isOneShot hone]
    rfl
  | passed taken hm hone htimes hbatching =>
    show s.buffer ++ taken = taken ++ s.buffer
    -- a sensor that does not batch holds nothing
    rw [hs.buffer_of_not_batching hbatching, List.append_nil]
    rfl
  | kept => rfl
  | ripened => exact (List.append_nil _).symm

/-- Only a sensor that batches is left with samples in its buffer. -/
theorem Sampling.holding (h : Sampling s measuring now taken out t) (hs : s.Sound)
    (hne : t.buffer ≠ []) :
    t.enabled = true ∧ s.batching = true ∧ s.descriptor.isOneShot = false := by
  cases h with
  | idle => exact hs.holding hne
  | early => exact hs.holding hne
  | fired e hm hone => exact absurd (hs.buffer_of_isOneShot hone) hne
  | passed taken hm hone htimes hbatching =>
    exact absurd (hs.buffer_of_not_batching hbatching) hne
  | kept taken hm hone htimes hbatching =>
    exact ⟨(Bool.and_eq_true_iff.1 hm).1, hbatching, hone⟩
  | ripened => exact absurd rfl hne

/-- What a sensor has in its state after sampling it had before or has just taken. -/
theorem Carries.sampling {P : Event → Prop} (hc : s.Carries P) (hs : s.Sound)
    (h : Sampling s measuring now taken out t) (htaken : ∀ e ∈ taken, P e) : t.Carries P := by
  constructor
  case buffered =>
    intro e he
    -- what is left was held before or has just been taken
    have hmem : e ∈ s.buffer ++ taken := by
      rw [h.conserves hs]
      exact List.mem_append_right _ he
    rcases List.mem_append.1 hmem with hb | hb
    · exact hc.buffered e hb
    · exact htaken e hb
  case last =>
    intro e he
    rw [h.lastEvent] at he
    -- without a new sample the last event stays the old one
    cases hg : taken.getLast? with
    | none =>
      rw [hg] at he
      exact hc.last e he
    | some f =>
      rw [hg] at he
      cases he
      exact htaken e (List.mem_of_getLast? hg)
  case replayed =>
    intro e he
    rw [h.facts.2.2.2.2] at he
    exact hc.replayed e he

theorem Sampling.sound (h : Sampling s measuring now taken out t) (hs : s.Sound)
    (htaken : ∀ e ∈ taken, s.Measured e) : t.Sound := by
  obtain ⟨hd, hp, hl, -, -⟩ := h.facts
  have hcarries := hs.carries.sampling hs h htaken
  have hbat : t.batching = s.batching := by simp only [batching, hl, hd]
  constructor
  case buffered => exact fun e he => Measured.congr hd (hcarries.buffered e he)
  case last => exact fun e he => Measured.congr hd (hcarries.last e he)
  case replayed => exact fun e he => Measured.congr hd (hcarries.replayed e he)
  case holding =>
    intro hne
    rw [hbat, hd]
    exact h.holding hs hne
  case least_le_period =>
    rw [hd, hp]
    exact hs.least_le_period

end Sampling

/-! ## The whole advance -/

theorem markerCount_zero (b : Behaviour) : markerCount b 0 = 0 := by
  simp [markerCount]

theorem markerCount_eq_mul (b : Behaviour) (n : Nat) :
    markerCount b n = n * markerCount b 1 := by
  unfold markerCount
  split
  · rfl
  · split
    · rfl
    · exact (Nat.mul_one n).symm

section Advance

variable {s : Sampler} (b : Behaviour) (measuring : Bool) (now : Int) (signal : Signal)

theorem Sound.of_replay_eq_none {s : Sampler} (hs : s.Sound) :
    { s with replay := none }.Sound :=
  ⟨hs.buffered, hs.last, fun _ h => absurd h (by simp), hs.holding, hs.least_le_period⟩

/-- What a sensor delivers up to a clock value: what it replays, then samples, then
the markers of the flushes it was asked for. The samples delivered and those it still
holds are the ones held before and the ones taken; after markers it holds none. -/
theorem Sound.advance_spec (hs : s.Sound) :
    ∃ out : List Event,
      (s.advance b measuring now signal).1 = s.replay.toList.map (⟨.replay, ·⟩) ++
          out.map (⟨.sample, ·⟩) ++
          List.replicate (markerCount b s.pendingFlushes) ⟨.marker, .flushMarker s.handle now⟩ ∧
        s.buffer ++ s.emitted measuring now signal =
          out ++ (s.advance b measuring now signal).2.1.buffer ∧
        (0 < s.pendingFlushes → (s.advance b measuring now signal).2.1.buffer = []) := by
  have hsampling := sampling { s with replay := none } measuring now signal
  have hc := hsampling.conserves hs.of_replay_eq_none
  obtain ⟨hd, -, -, hf, -⟩ := hsampling.facts
  rw [advance_eq]
  dsimp only [answerFlushes]
  split
  · next hpos =>
    rw [hf]
    -- the answer lets go of the buffer behind the samples, and markers come last
    refine ⟨_ ++ _, ?_, hc.trans (List.append_nil _).symm, fun _ => rfl⟩
    simp only [List.map_append, List.append_assoc, handle, hd]
  · next hzero =>
    rw [hf] at hzero
    have hz : s.pendingFlushes = 0 := Nat.eq_zero_of_not_pos hzero
    refine ⟨_, ?_, hc, fun h => absurd h (by omega)⟩
    simp [hz, markerCount_zero]

/-- Advancing leaves alone what only calls change, and answers all flushes. -/
theorem advance_facts :
    (s.advance b measuring now signal).2.1.descriptor = s.descriptor ∧
      (s.advance b measuring now signal).2.1.period = s.period ∧
      (s.advance b measuring now signal).2.1.latency = s.latency ∧
      (s.advance b measuring now signal).2.1.pendingFlushes = 0 ∧
      (s.advance b measuring now signal).2.1.replay = none := by
  obtain ⟨hd, hp, hl, hf, hr⟩ := (sampling { s with replay := none } measuring now signal).facts
  rw [advance_eq]
  dsimp only [answerFlushes]
  split
  · exact ⟨hd, hp, hl, rfl, hr⟩
  · next h => exact ⟨hd, hp, hl, Nat.eq_zero_of_not_pos h, hr⟩

/-- Answering flushes keeps what sampling leaves of the schedule. -/
theorem advance_schedule_facts :
    (s.advance b measuring now signal).2.1.enabled =
        ({ s with replay := none }.sampled measuring now signal).2.1.enabled ∧
      (s.advance b measuring now signal).2.1.nextDue =
        ({ s with replay := none }.sampled measuring now signal).2.1.nextDue ∧
      (s.advance b measuring now signal).2.1.lastEvent =
        ({ s with replay := none }.sampled measuring now signal).2.1.lastEvent := by
  rw [advance_eq]
  dsimp only [answerFlushes]
  split <;> exact ⟨rfl, rfl, rfl⟩

theorem enabled_advance (hone : s.descriptor.isOneShot = false) :
    (s.advance b measuring now signal).2.1.enabled = s.enabled :=
  (advance_schedule_facts b measuring now signal).1.trans
    ((sampling { s with replay := none } measuring now signal).enabled hone)

/-- The schedule of a sensor that is enabled after advancing. -/
theorem Sound.advance_schedule (hs : s.Sound)
    (h : (s.advance b measuring now signal).2.1.enabled = true) :
    s.enabled = true ∧ s.nextDue ≤ (s.advance b measuring now signal).2.1.nextDue ∧
      (∀ e ∈ s.emitted measuring now signal,
        e.time + s.period ≤ (s.advance b measuring now signal).2.1.nextDue) ∧
      (measuring = true → now < (s.advance b measuring now signal).2.1.nextDue) := by
  obtain ⟨he, hn, -⟩ := advance_schedule_facts (s := s) b measuring now signal
  rw [he] at h
  rw [hn]
  exact (sampling { s with replay := none } measuring now signal).schedule
    hs.of_replay_eq_none h

theorem Sound.answerFlushes {s : Sampler} (hs : s.Sound) :
    (s.answerFlushes b now).2.Sound := by
  rw [Sampler.answerFlushes]
  split
  · exact ⟨fun _ h => absurd h List.not_mem_nil, hs.last, hs.replayed, fun h => absurd rfl h,
      hs.least_le_period⟩
  · exact hs

theorem Sound.advance (hs : s.Sound) : (s.advance b measuring now signal).2.1.Sound := by
  rw [advance_eq]
  exact ((sampling _ measuring now signal).sound hs.of_replay_eq_none
    (emitted_measured _ measuring now signal)).answerFlushes b now

end Advance

end Sampler

end SensorBench.Hal
