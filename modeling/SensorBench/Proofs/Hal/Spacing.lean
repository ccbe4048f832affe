import SensorBench.Proofs.Hal.Conservation

/-!
# The times of a sensor's samples

A sensor that reports more than once never takes two samples closer together than the
shorter of its supported periods allows, whatever is asked of it in between. The
invariant is `Paced`: the next sample of an enabled sensor is due at least that period
after all past ones, and the clock has reached all past ones, so that a sensor switched
on later starts after them. A schedule that lies after some time stays after it
(`generated_after`).
-/

set_option autoImplicit false

namespace SensorBench.Hal

namespace Sampler

/-- Where the samples taken so far lie when the clock has come to `now`: apart by the
least period, not after the clock, and that period before the next one. -/
structure Paced (now : Int) (past : List Event) (s : Sampler) : Prop where
  spaced : past.Pairwise fun e f => e.time + leastPeriod s.descriptor ≤ f.time
  reached : ∀ e ∈ past, e.time ≤ now
  ahead : s.enabled = true → ∀ e ∈ past, e.time + leastPeriod s.descriptor ≤ s.nextDue

/-- The sensor takes no sample up to a time any more. -/
def DueAfter (time : Int) (s : Sampler) : Prop := s.enabled = true → time < s.nextDue

section Changes

variable {b : Behaviour} {measuring : Bool} {m : Turn} {signal : Signal} {s t : Sampler}

theorem enabled_of_mem_emitted {now : Int} {e : Event} (he : e ∈ s.emitted measuring now signal) :
    s.enabled = true := by
  cases hs : s.enabled with
  | true => rfl
  | false =>
    rw [emitted_eq_nil s measuring now signal (by rw [hs]; rfl)] at he
    exact absurd he List.not_mem_nil

theorem emitted_spaced (hs : s.Sound) (hone : s.descriptor.isOneShot = false) (now : Int) :
    (s.emitted measuring now signal).Pairwise fun e f =>
      e.time + leastPeriod s.descriptor ≤ f.time := by
  by_cases h : (s.enabled && measuring) = true
  · have htimes := times_emitted s measuring now signal h
    have hdue : s.due now = dueTimes s.nextDue s.period now := by simp [due, hone]
    have hspaced := timesFrom_spaced hs.period_pos s.nextDue (dueCount s.nextDue s.period now)
    have hmap : ((s.emitted measuring now signal).map (·.time)).Pairwise
        fun t u => t + s.period ≤ u := by
      rw [htimes, hdue]
      exact hspaced
    refine (List.pairwise_map.1 hmap).imp fun hle => ?_
    have := hs.least_le_period
    omega
  -- a sensor that takes nothing keeps any distance
  · rw [emitted_eq_nil s measuring now signal (Bool.eq_false_iff.2 h)]
    exact List.Pairwise.nil

theorem Paced.mono {now later : Int} {past : List Event} (hle : now ≤ later)
    (h : Paced now past s) : Paced later past s :=
  ⟨h.spaced, fun e he => Int.le_trans (h.reached e he) hle, h.ahead⟩

/-- Only the clock brings samples, so any other turn has to keep no more than the
distance to the next one. -/
theorem Paced.of_ahead {past : List Event} (h : Paced m.time past s)
    (hd : t.descriptor = s.descriptor) (hm : m.input ≠ .advance)
    (hahead : t.enabled = true → ∀ e ∈ past, e.time + leastPeriod s.descriptor ≤ t.nextDue) :
    Paced m.time (past ++ s.emittedIn measuring m signal) t := by
  rw [emittedIn_of_ne_advance hm, List.append_nil]
  refine ⟨?_, h.reached, ?_⟩
  · rw [hd]
    exact h.spaced
  · rw [hd]
    exact hahead

theorem Paced.advance {past : List Event} (h : Paced m.time past s) (hs : s.Sound)
    (hone : s.descriptor.isOneShot = false) :
    Paced m.time (past ++ s.emitted measuring m.time signal)
      (s.advance b measuring m.time signal).2.1 := by
  have hd := (advance_facts (s := s) b measuring m.time signal).1
  have hleast := hs.least_le_period
  constructor
  case spaced =>
    rw [hd]
    -- an old sample and a new one: the new one is not before the old schedule
    refine List.pairwise_append.2 ⟨h.spaced, emitted_spaced hs hone m.time, fun e he f hf => ?_⟩
    have hnext := h.ahead (enabled_of_mem_emitted hf) e he
    have hdue := (time_of_mem_emitted hs hf).1
    omega
  case reached =>
    intro e he
    rcases List.mem_append.1 he with he | he
    · exact h.reached e he
    · exact (time_of_mem_emitted hs he).2
  case ahead =>
    intro hon e he
    obtain ⟨hson, hnext, hpast, -⟩ := hs.advance_schedule b measuring m.time signal hon
    rw [hd]
    rcases List.mem_append.1 he with he | he
    · have := h.ahead hson e he
      omega
    · have := hpast e he
      omega

/-- Every change keeps the pace. -/
theorem Paced.change {past : List Event} (h : Paced m.time past s) (hs : s.Sound)
    (hone : s.descriptor.isOneShot = false) (hc : Change b measuring m signal s t) :
    Paced m.time (past ++ s.emittedIn measuring m signal) t := by
  have hleast := hs.least_le_period
  cases hc with
  | passed hi =>
    refine h.of_ahead rfl (fun e => ?_) h.ahead
    rw [e] at hi
    exact hi
  | disconnected queue isOpen hi =>
    exact h.of_ahead rfl (by simp [hi]) fun he => absurd he Bool.false_ne_true
  | switchedOn hi =>
    refine h.of_ahead rfl (by simp [hi]) fun _ e he => ?_
    -- the schedule starts a whole period after the clock, which all samples have reached
    have hr := h.reached e he
    simp only [switchOn, firstDue, hone, Bool.false_eq_true, if_false]
    omega
  | switchedOff hi =>
    exact h.of_ahead rfl (by simp [hi]) fun he => absurd he Bool.false_ne_true
  | retuned period latency hi =>
    obtain ⟨hd, he, -, -, hn, -⟩ := release_facts (s.retune m.time period latency)
    refine h.of_ahead hd (by simp [hi]) fun hon e hmem => ?_
    rw [he] at hon
    have hson : s.enabled = true := hon
    -- the schedule is brought forward, but to a period after the clock at the earliest
    have hr := h.reached e hmem
    have ha := h.ahead hson e hmem
    have hp := leastPeriod_le_periodFor s.descriptor period
    rw [hn]
    simp only [retune, hson, hone, Bool.not_false, Bool.and_self, if_true]
    omega
  | flushRequested hi => exact h.of_ahead rfl (by simp [hi]) h.ahead
  | advanced hi =>
    have hem : s.emittedIn measuring m signal = s.emitted measuring m.time signal := by
      rw [emittedIn, hi]
    rw [hem]
    exact h.advance hs hone

/-- Every later change leaves a schedule after a time. -/
theorem DueAfter.change {time : Int} (h : DueAfter time s) (hs : s.Sound) (htime : time ≤ m.time)
    (hc : Change b measuring m signal s t) : DueAfter time t := by
  have hpos := hs.period_pos
  cases hc with
  | passed => exact h
  | disconnected => exact fun he => absurd he Bool.false_ne_true
  | switchedOn => exact fun _ => Int.lt_of_le_of_lt htime (hs.lt_firstDue m.time)
  | switchedOff => exact fun he => absurd he Bool.false_ne_true
  | retuned period latency =>
    obtain ⟨-, he, -, -, hn, -⟩ := release_facts (s.retune m.time period latency)
    intro hon
    rw [he] at hon
    have hnext := h hon
    have hp := leastPeriod_le_periodFor s.descriptor period
    have hleast := leastPeriod_pos s.descriptor
    rw [hn]
    simp only [retune]
    split <;> omega
  | flushRequested => exact h
  | advanced =>
    intro hon
    -- a schedule only moves on
    obtain ⟨hson, hnext, -⟩ := hs.advance_schedule b measuring m.time signal hon
    exact Int.lt_of_lt_of_le (h hson) hnext

theorem DueAfter.emittedIn {time : Int} (h : DueAfter time s) (hs : s.Sound) :
    ∀ e ∈ s.emittedIn measuring m signal, time < e.time := by
  intro e he
  rw [Sampler.emittedIn] at he
  split at he
  · exact Int.lt_of_lt_of_le (h (enabled_of_mem_emitted he)) (time_of_mem_emitted hs he).1
  · exact absurd he List.not_mem_nil

end Changes

end Sampler

/-! ## Runs -/

section Runs

variable {b : Behaviour} {hal : Hal} {h : Handle} {ms : List Turn}

/-- A run keeps the pace, up to where the clock has come last. -/
theorem paced_run (hsound : hal.Sound) (hms : InOrder ms) {s : Sampler}
    (hs : hal.sensor? h = some s) (hone : s.descriptor.isOneShot = false) {past : List Event}
    {now : Int} (hpace : s.Paced now past) (hnow : ∀ m ∈ ms, now ≤ m.time) :
    ∃ t last, (hal.run b ms).sensor? h = some t ∧ t.descriptor = s.descriptor ∧
      (last = now ∨ ∃ m ∈ ms, last = m.time) ∧
      t.Paced last (past ++ along b (generated b h) hal ms) := by
  induction ms generalizing hal s past now with
  | nil =>
    rw [along_nil, List.append_nil]
    exact ⟨s, now, hs, rfl, Or.inl rfl, hpace⟩
  | cons m rest ih =>
    obtain ⟨t, ht, hchange⟩ := change_step hs b m
    have hle := hnow m List.mem_cons_self
    -- the samples of this turn join the past of the rest
    have hpace' := (hpace.mono hle).change (hsound.of_sensor? hs) hone hchange
    rw [← generated_of_sensor? hs b m] at hpace'
    have hd := hchange.descriptor
    obtain ⟨u, last, hu, hdu, hlast, hrest⟩ :=
      ih (hsound.step b m) (List.pairwise_cons.1 hms).2 ht (hd ▸ hone) hpace'
        fun n hn => List.rel_of_pairwise_cons hms hn
    rw [List.append_assoc] at hrest
    refine ⟨u, last, hu, hdu.trans hd, Or.inr ?_, hrest⟩
    rcases hlast with hlast | ⟨n, hn, hlast⟩
    · exact ⟨m, List.mem_cons_self, hlast⟩
    · exact ⟨n, List.mem_cons_of_mem m hn, hlast⟩

/-- The samples generated along a run keep the distance of the least period. -/
theorem generated_spaced (hsound : hal.Sound) (hms : InOrder ms) {s : Sampler}
    (hs : hal.sensor? h = some s) (hone : s.descriptor.isOneShot = false) {past : List Event}
    {now : Int} (hpace : s.Paced now past) (hnow : ∀ m ∈ ms, now ≤ m.time) :
    (past ++ along b (generated b h) hal ms).Pairwise fun e f =>
      e.time + Sampler.leastPeriod s.descriptor ≤ f.time := by
  obtain ⟨t, last, -, hd, -, hend⟩ := paced_run (b := b) hsound hms hs hone hpace hnow
  rw [← hd]
  exact hend.spaced

/-- Every turn leaves a schedule after a time that it has come to. -/
theorem dueAfter_step (hsound : hal.Sound) {time : Int}
    (hdue : ∀ s, hal.sensor? h = some s → s.DueAfter time) {m : Turn} (htime : time ≤ m.time) :
    ∀ t, (hal.step b m).sensor? h = some t → t.DueAfter time := by
  intro t ht
  obtain ⟨s, hs, hchange⟩ := exists_of_sensor?_step ht
  exact (hdue s hs).change (hsound.of_sensor? hs) htime hchange

theorem generated_after_turn (hsound : hal.Sound) {time : Int}
    (hdue : ∀ s, hal.sensor? h = some s → s.DueAfter time) (m : Turn) :
    ∀ e ∈ generated b h hal m, time < e.time := by
  intro e he
  cases hs : hal.sensor? h with
  | none =>
    rw [generated_of_none hs] at he
    exact absurd he List.not_mem_nil
  | some s =>
    rw [generated_of_sensor? hs] at he
    exact (hdue s hs).emittedIn (hsound.of_sensor? hs) e he

/-- Once a schedule lies after some time, no sample up to that time is generated. -/
theorem generated_after (hsound : hal.Sound) {time : Int}
    (hdue : ∀ s, hal.sensor? h = some s → s.DueAfter time) (hms : ∀ m ∈ ms, time ≤ m.time) :
    ∀ e ∈ along b (generated b h) hal ms, time < e.time := by
  induction ms generalizing hal with
  | nil => exact fun e he => absurd he List.not_mem_nil
  | cons m rest ih =>
    intro e he
    rcases List.mem_append.1 he with he | he
    · exact generated_after_turn hsound hdue m e he
    · exact ih (hsound.step b m) (dueAfter_step hsound hdue (hms m List.mem_cons_self))
        (fun n hn => hms n (List.mem_cons_of_mem m hn)) e he

end Runs

/-- In every ordered run from a fresh HAL that replays nothing, the samples delivered for
a sensor that reports more than once have increasing times, at least the sensor's
shortest interval and at least a millisecond apart. -/
theorem delivered_samples_spaced (c : Catalog) (signal : Signal) {b : Behaviour}
    (hb : b.replayStaleEvents = false) {ms : List Turn} (hms : InOrder ms) {h : Handle}
    {s : Sampler} (hs : (ofCatalog c signal).sensor? h = some s)
    (hone : s.descriptor.isOneShot = false) :
    (along b (delivered b h) (ofCatalog c signal) ms).Pairwise fun e f =>
      e.time < f.time ∧ e.time + max s.descriptor.minDelayNs 1000000 ≤ f.time := by
  have hsound := ofCatalog_sound c signal
  obtain ⟨start, hstart⟩ := hms.exists_le
  have hfresh : s.Paced start [] :=
    ⟨List.Pairwise.nil, fun e he => absurd he List.not_mem_nil,
      fun _ e he => absurd he List.not_mem_nil⟩
  have hspaced := generated_spaced (b := b) hsound hms hs hone hfresh hstart
  have hkept := (remainder_samples_ofCatalog c signal hb ms h).sublist
  refine ((hspaced.sublist hkept).sublist (List.sublist_append_left _ _)).imp fun hle => ?_
  have hpos := Sampler.leastPeriod_pos s.descriptor
  exact ⟨by omega, hle⟩

theorem delivered_samples_spaced_retuned :
    let h := barometer.handle
    let ms : List Turn := [⟨0, .call (.batch h 0 1000000000)⟩, ⟨0, .call (.activate h true)⟩,
      ⟨12000000, .advance⟩, ⟨13000000, .call (.batch h 50000000 0)⟩,
      ⟨14000000, .call (.activate h false)⟩, ⟨14000000, .call (.batch h 1 0)⟩,
      ⟨15000000, .call (.activate h true)⟩, ⟨26000000, .advance⟩]
    InOrder ms ∧
      (along {} (delivered {} h) (ofCatalog [barometer] silence) ms).map (·.time) =
        [5000000, 10000000, 20000000, 25000000] ∧
      (along {} (delivered {} h) (ofCatalog [barometer] silence) ms).Pairwise fun e f =>
        e.time < f.time ∧ e.time + max barometer.minDelayNs 1000000 ≤ f.time := by
  have horder : InOrder [⟨0, .call (.batch barometer.handle 0 1000000000)⟩,
      ⟨0, .call (.activate barometer.handle true)⟩, ⟨12000000, .advance⟩,
      ⟨13000000, .call (.batch barometer.handle 50000000 0)⟩,
      ⟨14000000, .call (.activate barometer.handle false)⟩,
      ⟨14000000, .call (.batch barometer.handle 1 0)⟩,
      ⟨15000000, .call (.activate barometer.handle true)⟩, ⟨26000000, .advance⟩] := by decide
  exact ⟨horder, by decide, delivered_samples_spaced [barometer] silence rfl horder
    (s := .initial barometer) (by rfl) (by rfl)⟩

end SensorBench.Hal
