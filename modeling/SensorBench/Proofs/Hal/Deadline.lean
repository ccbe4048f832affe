import SensorBench.Proofs.Hal.ChannelBounds
import SensorBench.Proofs.Hal.Sound

/-!
# Deadlines

The deadline of a HAL is computed apart from the step of time that it announces. In every
reachable state the two agree (`deadline_exact`): a step of time before the deadline
delivers nothing and changes nothing, and right after a step of time the next deadline
lies past the clock. A sensor that holds samples back knows since when and still has room
(`Sampler.Filling`), and channels are ready to be written to (`Ready`).
-/

set_option autoImplicit false

namespace SensorBench.Hal

/-- A deadline, if there is one, lies past a clock value. -/
def NotDue (now : Int) (deadline : Option Int) : Prop := ∀ d ∈ deadline, now < d

instance (now : Int) (deadline : Option Int) : Decidable (NotDue now deadline) :=
  inferInstanceAs (Decidable (∀ d ∈ deadline, now < d))

theorem notDue_none (now : Int) : NotDue now none := by
  intro d hd
  cases hd

theorem notDue_some {now d : Int} : NotDue now (some d) ↔ now < d := by
  constructor
  · exact fun h => h d rfl
  · intro h e he
    cases he
    exact h

theorem notDue_min? {now : Int} {deadlines : List Int} :
    NotDue now deadlines.min? ↔ ∀ d ∈ deadlines, now < d := by
  cases hmin : deadlines.min? with
  | none =>
    rw [List.min?_eq_none_iff.1 hmin]
    exact ⟨fun _ d hd => absurd hd List.not_mem_nil, fun _ => notDue_none now⟩
  | some e =>
    obtain ⟨hmem, hle⟩ := List.min?_eq_some_iff.1 hmin
    rw [notDue_some]
    exact ⟨fun h d hd => Int.lt_of_lt_of_le h (hle d hd), fun h => h e hmem⟩

theorem dueTimes_eq_nil {next now : Int} (h : now < next) (period : Int) :
    dueTimes next period now = [] := by
  rw [dueTimes, dueCount, if_neg (Int.not_le.2 h), timesFrom]

theorem dueAfter_eq_self {next now : Int} (h : now < next) (period : Int) :
    dueAfter next period now = next := by
  rw [dueAfter, dueCount, if_neg (Int.not_le.2 h)]
  simp

/-! ## Sensors -/

namespace Sampler

/-- The buffer and its date: what is dated is there, and a buffer that holds anything has
room for more. -/
structure Filling (s : Sampler) : Prop where
  dated : s.bufferedSince.isSome = true → s.buffer ≠ []
  room : s.buffer ≠ [] → s.buffer.length < s.descriptor.fifoMax.toNat

section Filling

variable {s t : Sampler} {measuring : Bool} {now : Int}

theorem Filling.of_empty (hbuffer : s.buffer = []) (hsince : s.bufferedSince = none) :
    s.Filling := by
  refine ⟨fun hsome => ?_, fun hne => absurd hbuffer hne⟩
  rw [hsince] at hsome
  cases hsome

theorem Filling.congr (h : s.Filling) (hbuffer : t.buffer = s.buffer)
    (hsince : t.bufferedSince = s.bufferedSince) (hd : t.descriptor = s.descriptor) :
    t.Filling := by
  constructor
  · rw [hbuffer, hsince]
    exact h.dated
  · rw [hbuffer, hd]
    exact h.room

/-- A sensor that goes on holding samples back is neither full nor out of time. -/
theorem lt_of_isRipe_eq_false (h : s.isRipe now = false) (hne : s.buffer ≠ []) :
    s.buffer.length < s.descriptor.fifoMax.toNat ∧
      ∀ since, s.bufferedSince = some since → now - since < s.latency := by
  have hempty : s.buffer.isEmpty = false := by simpa using hne
  simp only [isRipe, hempty, Bool.not_false, Bool.true_and, Bool.or_eq_false_iff,
    decide_eq_false_iff_not] at h
  refine ⟨by omega, fun since hsince => ?_⟩
  have hany := h.2
  rw [hsince, Option.any_some, decide_eq_false_iff_not] at hany
  omega

theorem Filling.sampling (h : s.Filling) {taken out : List Event}
    (hsampling : Sampling s measuring now taken out t) : t.Filling := by
  cases hsampling with
  | idle => exact h
  | early => exact h
  | fired => exact h.congr rfl rfl rfl
  | passed => exact h.congr rfl rfl rfl
  | kept taken hm hone htimes hbatching hripe =>
    refine ⟨fun hsome => ?_, fun hne => (lt_of_isRipe_eq_false hripe hne).1⟩
    show s.buffer ++ taken ≠ []
    -- a date is an old one, or that of the first sample just taken
    cases hsince : s.bufferedSince with
    | some since =>
      exact List.append_ne_nil_of_left_ne_nil (h.dated (by rw [hsince]; rfl)) taken
    | none =>
      apply List.append_ne_nil_of_right_ne_nil
      rintro rfl
      simp [loaded, scheduled, hsince, ← htimes] at hsome
  | ripened => exact .of_empty rfl rfl

theorem Filling.advance (h : s.Filling) (b : Behaviour) (measuring : Bool) (now : Int)
    (signal : Signal) : (s.advance b measuring now signal).2.1.Filling := by
  have hreplay : { s with replay := none }.Filling := h.congr rfl rfl rfl
  have hsampled := hreplay.sampling (Sampler.sampling _ measuring now signal)
  rw [advance_eq]
  dsimp only [answerFlushes]
  split
  · exact .of_empty rfl rfl
  · exact hsampled

theorem Filling.change (h : s.Filling) {b : Behaviour} {m : Turn} {signal : Signal}
    (hchange : Change b measuring m signal s t) : t.Filling := by
  cases hchange with
  | passed => exact h
  | disconnected => exact .of_empty rfl rfl
  | switchedOn => exact h.congr rfl rfl rfl
  | switchedOff => exact .of_empty rfl rfl
  | retuned period latency =>
    rw [release]
    split
    · exact .of_empty rfl rfl
    · exact h.congr rfl rfl rfl
  | flushRequested => exact h.congr rfl rfl rfl
  | advanced => exact h.advance b measuring m.time signal

end Filling

section Deadline

variable {s : Sampler} {measuring : Bool} {now : Int}

/-- What a sensor has to do before its deadline: nothing. -/
theorem notDue_facts (hnow : leastTime ≤ now) (h : NotDue now (s.deadline? measuring)) :
    s.pendingFlushes = 0 ∧ s.replay = none ∧
      ((s.enabled && measuring) = true → now < s.nextDue ∧
        ∀ since, s.bufferedSince = some since → now < since + s.latency) := by
  rw [deadline?] at h
  split at h
  -- at once is never past the clock
  · exact absurd (notDue_some.1 h) (Int.not_lt.2 hnow)
  · next hidle =>
    simp only [Bool.or_eq_true, decide_eq_true_eq, not_or, Bool.not_eq_true,
      Option.isSome_eq_false_iff, Option.isNone_iff_eq_none] at hidle
    refine ⟨Nat.eq_zero_of_not_pos hidle.1, hidle.2, fun hm => ?_⟩
    rw [if_pos hm, notDue_some] at h
    cases hsince : s.bufferedSince with
    | none =>
      rw [hsince] at h
      refine ⟨h, fun _ hd => ?_⟩
      cases hd
    | some since =>
      rw [hsince] at h
      dsimp only at h
      refine ⟨by omega, fun _ hd => ?_⟩
      cases hd
      omega

/-- Without a sample due, a sensor delivers what it holds if that is ripe, and else stays as
it is. -/
theorem stream_of_lt (h : now < s.nextDue) (signal : Signal) :
    s.stream now signal =
      if s.batching && s.isRipe now then (s.buffer, s.clearBuffer, signal)
      else ([], s, signal) := by
  have hscheduled : s.scheduled now [] = s := by
    simp [scheduled, dueAfter_eq_self h]
  have hloaded : s.loaded now [] = s := by
    simp [loaded, hscheduled, dueTimes_eq_nil h]
  have htaken : s.eventsAt (dueTimes s.nextDue s.period now)
      (signal.payloads s.descriptor.kind (dueTimes s.nextDue s.period now)).1 = [] := by
    rw [dueTimes_eq_nil h]
    rfl
  have hsignal : (signal.payloads s.descriptor.kind (dueTimes s.nextDue s.period now)).2 =
      signal := by
    rw [dueTimes_eq_nil h]
    rfl
  rw [stream]
  dsimp only
  rw [htaken, hsignal]
  show (if s.batching = true then
      if (s.loaded now []).isRipe now = true then
        ((s.loaded now []).buffer, (s.loaded now []).clearBuffer, signal)
      else ([], s.loaded now [], signal)
    else ([], s.scheduled now [], signal)) = _
  rw [hloaded, hscheduled]
  cases s.batching <;> rfl

theorem isRipe_eq_false (hfilling : s.Filling)
    (h : ∀ since, s.bufferedSince = some since → now < since + s.latency) :
    s.isRipe now = false := by
  by_cases hne : s.buffer = []
  · rw [isRipe, hne]
    rfl
  · have hroom := hfilling.room hne
    rw [isRipe, Bool.and_eq_false_iff, Bool.or_eq_false_iff, decide_eq_false_iff_not]
    refine Or.inr ⟨Nat.not_le.2 hroom, ?_⟩
    cases hsince : s.bufferedSince with
    | none => rfl
    | some since =>
      have := h since hsince
      rw [Option.any_some, decide_eq_false_iff_not]
      omega

/-- Before its deadline a sensor delivers nothing and stays as it is. -/
theorem advance_of_notDue (hfilling : s.Filling) (hnow : leastTime ≤ now)
    (h : NotDue now (s.deadline? measuring)) (b : Behaviour) (signal : Signal) :
    s.advance b measuring now signal = ([], s, signal) := by
  obtain ⟨hflushes, hreplay, hsample⟩ := notDue_facts hnow h
  have hsame : { s with replay := none } = s := by rw [← hreplay]
  have hsampled : s.sampled measuring now signal = ([], s, signal) := by
    rw [sampled]
    split
    · next hm =>
      obtain ⟨hdue, hsince⟩ := hsample hm
      rw [sample]
      split
      · rw [fire, if_neg (Int.not_le.2 hdue)]
      · rw [stream_of_lt hdue, isRipe_eq_false hfilling hsince, Bool.and_false,
          if_neg Bool.false_ne_true]
    · rfl
  rw [advance_eq, hsame]
  dsimp only
  rw [hsampled, hreplay, answerFlushes, hflushes]
  rfl

/-- What a running sensor still holds after sampling is younger than its latency. -/
theorem Sampling.young {t : Sampler} {taken out : List Event}
    (h : Sampling s measuring now taken out t) (hs : s.Sound) (hfilling : s.Filling)
    (hm : (t.enabled && measuring) = true) :
    ∀ since, t.bufferedSince = some since → now - since < t.latency := by
  intro since hsince
  have hheld : t.buffer ≠ [] := (hfilling.sampling h).dated (by rw [hsince]; rfl)
  cases h with
  | idle hidle =>
    rw [hidle] at hm
    cases hm
  | early _ hone => exact absurd (hs.buffer_of_isOneShot hone) hheld
  | fired => cases hm
  | passed taken _ _ _ hbatching => exact absurd (hs.buffer_of_not_batching hbatching) hheld
  | kept taken _ _ _ _ hripe => exact (lt_of_isRipe_eq_false hripe hheld).2 since hsince
  | ripened => cases hsince

theorem Sound.advance_young (hs : s.Sound) (hfilling : s.Filling) (b : Behaviour)
    (measuring : Bool) (now : Int) (signal : Signal)
    (hm : ((s.advance b measuring now signal).2.1.enabled && measuring) = true) :
    ∀ since, (s.advance b measuring now signal).2.1.bufferedSince = some since →
      now - since < (s.advance b measuring now signal).2.1.latency := by
  have hfilled : { s with replay := none }.Filling := hfilling.congr rfl rfl rfl
  have hyoung := (sampling { s with replay := none } measuring now signal).young
    hs.of_replay_eq_none hfilled
  rw [(advance_schedule_facts b measuring now signal).1] at hm
  rw [advance_eq]
  dsimp only [Sampler.answerFlushes]
  split
  · intro since hsince
    cases hsince
  · exact hyoung hm

/-- Right after a step of time the deadline of a sensor lies past the clock. -/
theorem notDue_advance (hs : s.Sound) (hfilling : s.Filling) (hnow : now < greatestTime)
    (b : Behaviour) (measuring : Bool) (signal : Signal) :
    NotDue now ((s.advance b measuring now signal).2.1.deadline? measuring) := by
  obtain ⟨-, -, -, hflushes, hreplay⟩ := advance_facts (s := s) b measuring now signal
  have hschedule := hs.advance_schedule b measuring now signal
  have hdate := hs.advance_young hfilling b measuring now signal
  generalize (s.advance b measuring now signal).2.1 = t at *
  rw [deadline?, hflushes, hreplay]
  simp only [Nat.lt_irrefl, decide_false, Option.isSome_none, Bool.or_self, Bool.false_eq_true,
    if_false]
  split
  · next hm =>
    obtain ⟨hon, hmeasuring⟩ := Bool.and_eq_true_iff.1 hm
    have hnext := (hschedule hon).2.2.2 hmeasuring
    rw [notDue_some]
    cases hsince : t.bufferedSince with
    | none => exact hnext
    | some since =>
      have := hdate hm since hsince
      dsimp only
      omega
  · exact notDue_none now

end Deadline

end Sampler

/-! ## Channels -/

section Channels

variable {now : Int}

theorem DirectReport.advance_of_lt {r : DirectReport} (h : now < r.nextDue) (signal : Signal) :
    r.advance now signal = ([], r, signal) := by
  rw [DirectReport.advance, dueTimes_eq_nil h, dueAfter_eq_self h]
  rfl

theorem Channel.reportsAdvance_of_lt {reports : List (Handle × DirectReport)}
    (h : ∀ p ∈ reports, now < p.2.nextDue) (signal : Signal) :
    reportsAdvance now signal reports = ([], reports, signal) := by
  induction reports with
  | nil => rfl
  | cons p rest ih =>
    rw [reportsAdvance, DirectReport.advance_of_lt (h p List.mem_cons_self)]
    dsimp only
    rw [ih fun q hq => h q (List.mem_cons_of_mem p hq)]
    rfl

theorem Channel.notDue_iff {c : Channel} :
    NotDue now c.deadline? ↔ ∀ p ∈ c.reports, now < p.2.nextDue := by
  rw [Channel.deadline?, notDue_min?]
  exact List.forall_mem_map

/-- Before its deadline a channel brings no record and stays as it is. -/
theorem Channel.advance_of_notDue {c : Channel} (h : NotDue now c.deadline?) (signal : Signal) :
    c.advance now signal = ([], c, signal) := by
  rw [Channel.advance]
  split
  · rfl
  · rw [reportsAdvance_of_lt (notDue_iff.1 h)]
    rfl

/-- Right after a step of time the deadline of a channel lies past the clock. -/
theorem Channel.Ready.notDue_advance {memory : Array Region} {c : Channel}
    (h : c.Ready memory) (signal : Signal) :
    NotDue now (c.advance now signal).2.1.deadline? := by
  rw [Channel.advance, if_neg (Nat.ne_of_gt h.slots), Channel.notDue_iff]
  exact fun p hp => (period_reportsAdvance h.periods p hp).2

end Channels

/-! ## The HAL -/

section Hal

variable {b : Behaviour} {now : Int} {hal : Hal}

/-- Nothing is due in a HAL if nothing waits and no sensor and no channel has anything to
do. -/
theorem notDue_iff (hnow : leastTime ≤ now) :
    NotDue now hal.deadline? ↔ hal.waiting = [] ∧
      (∀ s ∈ hal.sensors, NotDue now (s.deadline? hal.measuring)) ∧
      ∀ p ∈ hal.channels, NotDue now p.2.deadline? := by
  rw [deadline?]
  split
  · next hwaiting =>
    rw [notDue_min?, List.forall_mem_append]
    simp only [List.isEmpty_iff.1 hwaiting, true_and, List.mem_filterMap, NotDue,
      Option.mem_def]
    exact ⟨fun ⟨hs, hc⟩ => ⟨fun s hmem d hd => hs d ⟨s, hmem, hd⟩,
        fun p hmem d hd => hc d ⟨p, hmem, hd⟩⟩,
      fun ⟨hs, hc⟩ => ⟨fun d ⟨s, hmem, hd⟩ => hs s hmem d hd,
        fun d ⟨p, hmem, hd⟩ => hc p hmem d hd⟩⟩
  · next hwaiting =>
    constructor
    -- at once is never past the clock
    · exact fun h => absurd (notDue_some.1 h) (Int.not_lt.2 hnow)
    · intro h
      rw [h.1] at hwaiting
      exact absurd rfl hwaiting

theorem advanceSensors_of_notDue {measuring : Bool} {sensors : List Sampler}
    (hfilling : ∀ s ∈ sensors, s.Filling) (hnow : leastTime ≤ now)
    (h : ∀ s ∈ sensors, NotDue now (s.deadline? measuring)) (signal : Signal) :
    advanceSensors b measuring now signal sensors = ([], sensors, signal) := by
  induction sensors with
  | nil => rfl
  | cons s rest ih =>
    rw [advanceSensors, Sampler.advance_of_notDue (hfilling s List.mem_cons_self) hnow
      (h s List.mem_cons_self)]
    dsimp only
    rw [ih (fun t ht => hfilling t (List.mem_cons_of_mem s ht))
      fun t ht => h t (List.mem_cons_of_mem s ht)]
    rfl

theorem advanceChannels_of_notDue {channels : List (Int × Channel)}
    (h : ∀ p ∈ channels, NotDue now p.2.deadline?) (signal : Signal) (memory : Array Region) :
    advanceChannels now signal memory channels = (channels, memory, signal) := by
  induction channels with
  | nil => rfl
  | cons p rest ih =>
    have hsame : (memory.modify p.2.memory fun r =>
        Channel.writeRing p.2.capacity r p.2.written []) = memory := by
      apply Array.ext
      · exact Array.size_modify
      · intro i _ _
        rw [Array.getElem_modify]
        split <;> rfl
    rw [advanceChannels, Channel.advance_of_notDue (h p List.mem_cons_self)]
    dsimp only
    rw [hsame, ih fun q hq => h q (List.mem_cons_of_mem p hq)]

/-- Before the deadline a step of time delivers nothing and changes nothing. -/
theorem advance_of_notDue (hfilling : ∀ s ∈ hal.sensors, s.Filling) (hnow : leastTime ≤ now)
    (h : NotDue now hal.deadline?) : hal.advance b now = ([], hal) := by
  obtain ⟨hwaiting, hsensors, hchannels⟩ := (notDue_iff hnow).1 h
  have hs := advanceSensors_of_notDue (b := b) hfilling hnow hsensors hal.signal
  have hc := advanceChannels_of_notDue hchannels hal.signal hal.memory
  have hsame : { hal with waiting := [] } = hal := by rw [← hwaiting]
  rw [advance]
  dsimp only
  rw [hs]
  dsimp only
  rw [hc, hwaiting, List.append_nil]
  exact congrArg (Prod.mk []) hsame

/-- Right after a step of time the next deadline lies past the clock. -/
theorem notDue_advance (hsound : hal.Sound) (hready : hal.Ready)
    (hfilling : ∀ s ∈ hal.sensors, s.Filling) (hleast : leastTime ≤ now)
    (hgreatest : now < greatestTime) : NotDue now (hal.advance b now).2.deadline? := by
  refine (notDue_iff hleast).2 ⟨rfl, fun t ht => ?_, fun p hp => ?_⟩
  · have hnext : (hal.advance b now).2.Sound := hsound.step b ⟨now, .advance⟩
    -- every sensor after the step is one from before it, brought up to the clock
    have hfind := hnext.sensor?_of_mem ht
    rw [sensor?_advance, Option.map_eq_some_iff] at hfind
    obtain ⟨s, hs, hadvance⟩ := hfind
    have hmem := List.mem_of_find?_eq_some hs
    have hafter := Sampler.notDue_advance (hsound.sensors s hmem) (hfilling s hmem) hgreatest b
      hal.measuring (hal.signalFor b now t.handle)
    rwa [hadvance] at hafter
  · obtain ⟨q, hq, before, hadvance⟩ := mem_advanceChannels hp
    rw [hadvance]
    exact (hready q hq).notDue_advance before

theorem filling_run (c : Catalog) (signal : Signal) (b : Behaviour) (ms : List Turn) :
    ∀ s ∈ ((ofCatalog c signal).run b ms).sensors, s.Filling := by
  have hrun : ∀ k s, ((ofCatalog c signal).run b ms).sensor? k = some s → s.Filling := by
    refine run_keeps (P := fun hal => ∀ k s, hal.sensor? k = some s → s.Filling)
      (fun hal m h => ?_) ms fun k s hs => ?_
    · exact forall_sensor?_step (fun hchange hs => hs.change hchange) h
    · obtain ⟨d, -, rfl⟩ := initial_of_sensor? hs
      exact .of_empty rfl rfl
  intro s hs
  exact hrun s.handle s (((ofCatalog_sound c signal).run b ms).sensor?_of_mem hs)

/-- After every run the deadline is exact: if there is none, or it lies past a clock value,
then a step of time up to that value delivers nothing and leaves the whole state as it is;
right after any step of time there is none, or it lies past the clock. No record that a step
of time writes lies outside its region. -/
theorem deadline_exact (c : Catalog) (signal : Signal) (b : Behaviour) (ms : List Turn)
    {now : Int} (hnow : leastTime ≤ now) :
    let hal := (ofCatalog c signal).run b ms
    (NotDue now hal.deadline? → hal.advance b now = ([], hal)) ∧
      (now < greatestTime → NotDue now (hal.advance b now).2.deadline?) ∧
      advanceChannels? now (hal.signalLeft b now) hal.memory hal.channels =
        .ok (advanceChannels now (hal.signalLeft b now) hal.memory hal.channels) := by
  have hsound := (ofCatalog_sound c signal).run b ms
  have hready := (ofCatalog_ready c signal).run b ms
  have hfilling := filling_run c signal b ms
  exact ⟨advance_of_notDue hfilling hnow, notDue_advance hsound hready hfilling hnow,
    advanceChannels?_eq hready⟩

/-- A barometer that holds two samples back, and reports into a channel. -/
def holdingRun : List Turn :=
  [⟨0, .allocate (Region.zero 208)⟩, ⟨0, .call (.register .ashmem 208 0)⟩,
    ⟨0, .call (.report barometer.handle 1 .normal)⟩,
    ⟨0, .call (.batch barometer.handle 5000000 12000000)⟩,
    ⟨0, .call (.activate barometer.handle true)⟩, ⟨11000000, .advance⟩]

theorem deadline_exact_holding :
    let hal := (ofCatalog [barometer] silence).run {} holdingRun
    hal.deadline? = some 15000000 ∧ hal.advance {} 14999999 = ([], hal) ∧
      NotDue 17000000 (hal.advance {} 17000000).2.deadline? := by
  have hdeadline : ((ofCatalog [barometer] silence).run {} holdingRun).deadline? =
      some 15000000 := by decide +kernel
  have hexact := @deadline_exact [barometer] silence {} holdingRun
  refine ⟨hdeadline, (@hexact 14999999 (by decide)).1 ?_,
    (@hexact 17000000 (by decide)).2.1 (by decide)⟩
  rw [hdeadline]
  decide

end Hal

end SensorBench.Hal
