import SensorBench.Proofs.Hal.FlushMarkers

/-!
# Sensors switched on again

What a HAL delivers for a sensor after it has been switched on again falls into two
parts: first the samples that a retuning had moved out of its buffer before, which a
switch-off does not drop, and then samples taken since (`delivered_since_switchOn`). The
first part is delivered by the next turn of the clock, unless a client connects before
it. So a HAL delivers no old sample exactly where no moved sample still waits when the
sensor is switched on; `stale_samples_delivered` is a run in which two do.
-/

set_option autoImplicit false

namespace SensorBench.Hal

/-- What becomes of samples that wait: the next turn of the clock delivers them, unless a
client connects before it. -/
def carried (waited : List Event) : List Turn → List Event
  | [] => []
  | m :: rest =>
    match m.input with
    | .advance => waited
    | .connect _ _ => []
    | _ => carried waited rest

theorem carried_cons {m : Turn} (hm : m.input.empties = false) (waited : List Event)
    (rest : List Turn) : carried waited (m :: rest) = carried waited rest := by
  obtain ⟨now, input⟩ := m
  cases input with
  | advance => cases hm
  | connect => cases hm
  | _ => rfl

theorem mem_carried {e : Event} {waited : List Event} {ms : List Turn}
    (he : e ∈ carried waited ms) : e ∈ waited := by
  induction ms with
  | nil => exact absurd he List.not_mem_nil
  | cons m rest ih =>
    rw [carried] at he
    split at he
    · exact he
    · exact absurd he List.not_mem_nil
    · exact ih he

section Runs

variable {b : Behaviour} {hal : Hal} {h : Handle} {time : Int}

/-- Nothing is generated that lies past the turns of a run. -/
theorem generated_le (hsound : hal.Sound) {ms : List Turn} (hms : ∀ m ∈ ms, m.time ≤ time) :
    ∀ e ∈ along b (generated b h) hal ms, e.time ≤ time := by
  induction ms generalizing hal with
  | nil => exact fun e he => absurd he List.not_mem_nil
  | cons m rest ih =>
    intro e he
    rcases List.mem_append.1 he with he | he
    · cases hs : hal.sensor? h with
      | none =>
        rw [generated_of_none hs] at he
        exact absurd he List.not_mem_nil
      | some s =>
        rw [generated_of_sensor? hs, Sampler.emittedIn] at he
        split at he
        · have hle := (Sampler.time_of_mem_emitted (hsound.of_sensor? hs) he).2
          exact Int.le_trans hle (hms m List.mem_cons_self)
        · exact absurd he List.not_mem_nil
    · exact ih (hsound.step b m) (fun n hn => hms n (List.mem_cons_of_mem m hn)) e he

/-- A turn of the clock delivers what waits, and then nothing from before the schedule and
the buffer of the sensor. -/
theorem delivered_advance (hsound : hal.Sound) (hreplay : hal.NoReplay) (now : Int)
    (hbuffer : ∀ e ∈ hal.buffered h, time < e.time)
    (hdue : ∀ s, hal.sensor? h = some s → s.DueAfter time) :
    ∃ fresh, delivered b h hal ⟨now, .advance⟩ = samplesOf h hal.waiting ++ fresh ∧
      ∀ e ∈ fresh ++ (hal.step b ⟨now, .advance⟩).buffered h, time < e.time := by
  have hbalance := held_advance hsound hreplay h b now
  have hgenerated := generated_after_turn (b := b) hsound hdue ⟨now, .advance⟩
  obtain ⟨fresh, hfresh⟩ : ∃ fresh, delivered b h hal ⟨now, .advance⟩ =
      samplesOf h hal.waiting ++ fresh := by
    cases hs : hal.sensor? h with
    | none =>
      refine ⟨[], ?_⟩
      show samplesOf h (hal.advance b now).1 = _
      rw [samplesOf, itemsOf_advance_of_none hsound hs, List.append_nil, samplesOf]
    | some s => exact ⟨_, samplesOf_advance hsound hs b now⟩
  -- what follows the waiting samples is from the buffer or has just been generated
  rw [held, hfresh, List.append_assoc, List.append_assoc] at hbalance
  refine ⟨fresh, hfresh, fun e he => ?_⟩
  rw [← List.append_cancel_left hbalance] at he
  rcases List.mem_append.1 he with he | he
  · exact hbuffer e he
  · exact hgenerated e he

/-- From a state on in which the schedule and the buffer of a sensor lie after some time,
what is delivered for it is what is carried over of the samples that waited, and then
samples after that time. -/
theorem delivered_eq_carried (hsound : hal.Sound) (hreplay : hal.NoReplay)
    (hb : b.replayStaleEvents = false) {old new : List Event}
    (hwaiting : samplesOf h hal.waiting = old ++ new) (hnew : ∀ e ∈ new, time < e.time)
    (hbuffer : ∀ e ∈ hal.buffered h, time < e.time)
    (hdue : ∀ s, hal.sensor? h = some s → s.DueAfter time) {ms : List Turn}
    (hms : ∀ m ∈ ms, time ≤ m.time) :
    ∃ fresh, along b (delivered b h) hal ms = carried old ms ++ fresh ∧
      ∀ e ∈ fresh, time < e.time := by
  induction ms generalizing hal new with
  | nil => exact ⟨[], rfl, fun e he => absurd he List.not_mem_nil⟩
  | cons m rest ih =>
    have hdue' := dueAfter_step (b := b) hsound hdue (hms m List.mem_cons_self)
    have hrest := fun n hn => hms n (List.mem_cons_of_mem m hn)
    cases hm : m.input.empties with
    | false =>
      -- a call delivers nothing, and moves what it moves behind what waits
      have hadv : m.input ≠ .advance := fun e => by
        rw [e] at hm
        cases hm
      have hsplit := buffered_step hsound b h hm
      rw [hsplit] at hbuffer
      have hmoved : samplesOf h (hal.step b m).waiting =
          old ++ (new ++ samplesOf h ((hal.moved m).map (⟨.sample, ·⟩))) := by
        rw [samplesOf_waiting_step, hm, hwaiting, if_neg Bool.false_ne_true, List.append_assoc]
      obtain ⟨fresh, heq, hfresh⟩ := ih (hsound.step b m) (hreplay.step hb m) hmoved
        (fun e he => (List.mem_append.1 he).elim (hnew e) fun he =>
          hbuffer e (List.mem_append_left _ (List.mem_append_left _ he)))
        (fun e he => hbuffer e (List.mem_append_left _ (List.mem_append_right _ he)))
        hdue' hrest
      refine ⟨fresh, ?_, hfresh⟩
      show delivered b h hal m ++ along b (delivered b h) (hal.step b m) rest = _
      rw [(delivered_of_ne_advance hadv).1, heq, carried_cons hm, List.nil_append]
    | true =>
      obtain ⟨now, input⟩ := m
      cases input with
      | advance =>
        obtain ⟨fresh, heq, hfresh⟩ := delivered_advance (b := b) hsound hreplay now hbuffer hdue
        have hlater := delivered_past (hsound.step b ⟨now, .advance⟩)
          (hreplay.step hb ⟨now, .advance⟩) hb
          (fun e he => hfresh e (List.mem_append_right fresh he)) hdue' hrest
        refine ⟨new ++ fresh ++ along b (delivered b h) (hal.step b ⟨now, .advance⟩) rest, ?_,
          fun e he => ?_⟩
        · show delivered b h hal ⟨now, .advance⟩ ++ _ = old ++ _
          rw [heq, hwaiting]
          simp only [List.append_assoc]
        · rcases List.mem_append.1 he with he | he
          · rcases List.mem_append.1 he with he | he
            · exact hnew e he
            · exact hfresh e (List.mem_append_left _ he)
          · exact hlater e he
      | connect queue isOpen =>
        have hheld : (hal.step b ⟨now, .connect queue isOpen⟩).held h = [] := by
          show (hal.connect b queue isOpen).held h = []
          rw [held, buffered, sensor?_connect]
          cases hal.sensor? h <;> rfl
        refine ⟨_, rfl, delivered_past (hsound.step b _) (hreplay.step hb _) hb ?_ hdue' hrest⟩
        rw [hheld]
        exact fun e he => absurd he List.not_mem_nil
      | call => cases hm
      | allocate => cases hm
      | write => cases hm

/-- A disabled sensor that is switched on holds nothing and is due later. -/
theorem switchOn_facts (hsound : hal.Sound) {s : Sampler} (hs : hal.sensor? h = some s)
    (hoff : s.enabled = false) (b : Behaviour) (time : Int) :
    let next := hal.step b ⟨time, .call (.activate h true)⟩
    next.waiting = hal.waiting ∧ next.buffered h = [] ∧
      ∀ t, next.sensor? h = some t → t.DueAfter time := by
  have hsensor := hsound.of_sensor? hs
  have hnext : hal.step b ⟨time, .call (.activate h true)⟩ = hal.setSensor (s.switchOn b time) := by
    rw [step_activate hal b time hs, hoff]
    rfl
  have hh := handle_of_sensor? hs
  have hhandle : (s.switchOn b time).handle = h := hh
  have hfind := sensor?_setSensor_self hs hhandle
  rw [hnext]
  refine ⟨rfl, ?_, fun t ht => ?_⟩
  · rw [buffered, hfind]
    -- only an enabled sensor holds samples back
    by_cases hne : s.buffer = []
    · exact hne
    · exact absurd (hoff.symm.trans (hsensor.holding hne).1) Bool.false_ne_true
  · rw [hfind] at ht
    cases ht
    exact fun _ => hsensor.lt_firstDue time

/-- In every ordered run from a fresh HAL that replays nothing, the samples delivered for a
sensor after a call that switched it on are those carried over from before, which lie up to
the time of the call, and then samples past that time. So none of them lies up to that time
exactly if none is carried over. -/
theorem delivered_since_switchOn (c : Catalog) (signal : Signal)
    (hb : b.replayStaleEvents = false) {early late : List Turn}
    (hms : InOrder (early ++ ⟨time, .call (.activate h true)⟩ :: late)) {s : Sampler}
    (hs : ((ofCatalog c signal).run b early).sensor? h = some s) (hoff : s.enabled = false) :
    let hal := (ofCatalog c signal).run b early
    let after := along b (delivered b h) (hal.step b ⟨time, .call (.activate h true)⟩) late
    let stale := carried (samplesOf h hal.waiting) late
    (∃ fresh, after = stale ++ fresh ∧ ∀ e ∈ fresh, time < e.time) ∧
      (∀ e ∈ stale, e.time ≤ time) ∧ ((∀ e ∈ after, time < e.time) ↔ stale = []) := by
  intro hal after stale
  obtain ⟨-, hlate, hearly⟩ := List.pairwise_append.1 hms
  have hsound : hal.Sound := (ofCatalog_sound c signal).run b early
  have hreplay : hal.NoReplay := (ofCatalog_noReplay c signal).run hb early
  obtain ⟨hwaiting, hbuffer, hdue⟩ := switchOn_facts hsound hs hoff b time
  have hfresh : ∃ fresh, after = stale ++ fresh ∧ ∀ e ∈ fresh, time < e.time := by
    have hold : samplesOf h (hal.step b ⟨time, .call (.activate h true)⟩).waiting =
        samplesOf h hal.waiting ++ [] := by rw [hwaiting, List.append_nil]
    refine delivered_eq_carried (hsound.step b _) (hreplay.step hb _) hb hold
      (fun e he => absurd he List.not_mem_nil) ?_ hdue
      fun m hm => List.rel_of_pairwise_cons hlate hm
    rw [hbuffer]
    exact fun e he => absurd he List.not_mem_nil
  -- what waits at the call was generated before it
  have hstale : ∀ e ∈ stale, e.time ≤ time := by
    intro e he
    have hkept := (remainder_samples_ofCatalog c signal hb early h).sublist
    have hheld : e ∈ hal.held h := List.mem_append_left _ (mem_carried he)
    exact generated_le (ofCatalog_sound c signal)
      (fun m hm => hearly m hm _ List.mem_cons_self) e
      (hkept.subset (List.mem_append_right _ hheld))
  refine ⟨hfresh, hstale, fun hafter => ?_, fun hnil => ?_⟩
  · obtain ⟨fresh, heq, -⟩ := hfresh
    rw [heq] at hafter
    apply List.eq_nil_iff_forall_not_mem.2
    intro e he
    have hpast := hafter e (List.mem_append_left fresh he)
    have hle := hstale e he
    omega
  · obtain ⟨fresh, heq, hpast⟩ := hfresh
    rw [heq, hnil]
    exact hpast

end Runs

/-- Two samples held back, moved by a retuning that ends the holding back, and the sensor
switched off. -/
def movedRun : List Turn :=
  [⟨0, .call (.batch barometer.handle 0 1000000000)⟩,
    ⟨0, .call (.activate barometer.handle true)⟩, ⟨12000000, .advance⟩,
    ⟨13000000, .call (.batch barometer.handle 0 0)⟩,
    ⟨13000000, .call (.activate barometer.handle false)⟩]

/-- The same sensor, retuned only once it is switched off. -/
def droppedRun : List Turn :=
  [⟨0, .call (.batch barometer.handle 0 1000000000)⟩,
    ⟨0, .call (.activate barometer.handle true)⟩, ⟨12000000, .advance⟩,
    ⟨13000000, .call (.activate barometer.handle false)⟩,
    ⟨13000000, .call (.batch barometer.handle 0 0)⟩]

theorem delivered_since_switchOn_dropped :
    let h := barometer.handle
    let hal := (ofCatalog [barometer] silence).run {} droppedRun
    let after := along {} (delivered {} h) (hal.step {} ⟨14000000, .call (.activate h true)⟩)
      [⟨20000000, .advance⟩]
    after.map (·.time) = [19000000] ∧ ∀ e ∈ after, 14000000 < e.time := by
  have hoff : (((ofCatalog [barometer] silence).run {} droppedRun).sensor?
      barometer.handle).map (·.enabled) = some false := by decide
  obtain ⟨s, hs, hoff⟩ := Option.map_eq_some_iff.1 hoff
  have hms : InOrder (droppedRun ++ ⟨14000000, .call (.activate barometer.handle true)⟩ ::
      [⟨20000000, .advance⟩]) := by decide
  have hdropped : samplesOf barometer.handle
      ((ofCatalog [barometer] silence).run {} droppedRun).waiting = [] := by decide
  exact ⟨by decide,
    (delivered_since_switchOn [barometer] silence rfl hms hs hoff).2.2.2 hdropped⟩

/-- Two samples from before a switch-off are delivered after the sensor is switched on
again. -/
theorem stale_samples_delivered :
    let h := barometer.handle
    let hal := (ofCatalog [barometer] silence).run {} movedRun
    let on : Turn := ⟨14000000, .call (.activate h true)⟩
    let after := along {} (delivered {} h) (hal.step {} on) [⟨20000000, .advance⟩]
    InOrder (movedRun ++ on :: [⟨20000000, .advance⟩]) ∧
      (hal.sensor? h).map (·.enabled) = some false ∧
      after.map (·.time) = [5000000, 10000000, 19000000] ∧
      ¬ ∀ e ∈ after, 14000000 < e.time := by
  decide

end SensorBench.Hal
