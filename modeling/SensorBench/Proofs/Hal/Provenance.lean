import SensorBench.Proofs.Hal.Conservation

/-!
# Where delivered samples come from

A sample reaches its client at once, from a buffer, from what waits, or, with a HAL that
replays, once more from the last event. In each case it was generated before: what holds of
all samples that a run generates for a sensor holds of all that it delivers for it
(`delivered_of_generated`), whatever faults the HAL has.
-/

set_option autoImplicit false

namespace SensorBench.Hal

variable {P : Event → Prop}

namespace Sampler

section Carries

variable {s t : Sampler} {b : Behaviour} {measuring : Bool} {m : Turn} {signal : Signal}

theorem Carries.advance (h : s.Carries P) (hs : s.Sound) (b : Behaviour) {now : Int}
    (htaken : ∀ e ∈ s.emitted measuring now signal, P e) :
    (s.advance b measuring now signal).2.1.Carries P := by
  have hreplay : { s with replay := none }.Carries P :=
    ⟨h.buffered, h.last, fun e he => absurd he (by simp)⟩
  have hsampled := hreplay.sampling hs.of_replay_eq_none
    (Sampler.sampling { s with replay := none } measuring now signal) htaken
  rw [advance_eq]
  dsimp only [answerFlushes]
  split
  · exact ⟨fun e he => absurd he List.not_mem_nil, hsampled.last, hsampled.replayed⟩
  · exact hsampled

/-- Every change brings only samples that the sensor takes. -/
theorem Carries.change (h : s.Carries P) (hs : s.Sound) (hchange : Change b measuring m signal s t)
    (htaken : ∀ e ∈ s.emittedIn measuring m signal, P e) : t.Carries P := by
  cases hchange with
  | passed => exact h
  | disconnected =>
    exact ⟨fun e he => absurd he List.not_mem_nil, h.last, fun e he => absurd he (by
      simp [disconnect])⟩
  | switchedOn =>
    refine ⟨h.buffered, h.last, fun e he => ?_⟩
    -- what is about to be replayed is the last event
    rw [switchOn] at he
    dsimp only at he
    split at he
    · exact h.last e he
    · exact h.replayed e he
  | switchedOff => exact ⟨fun e he => absurd he List.not_mem_nil, h.last, h.replayed⟩
  | retuned period latency =>
    have hretuned : (s.retune m.time period latency).Carries P :=
      ⟨h.buffered, h.last, h.replayed⟩
    rw [release]
    split
    · exact ⟨fun e he => absurd he List.not_mem_nil, hretuned.last, hretuned.replayed⟩
    · exact hretuned
  | flushRequested => exact ⟨h.buffered, h.last, h.replayed⟩
  | advanced hi =>
    rw [emittedIn, hi] at htaken
    exact h.advance hs b htaken

end Carries

end Sampler

theorem exists_of_mem_samplesOf {h : Handle} {items : List Item} {e : Event}
    (he : e ∈ samplesOf h items) : ∃ i ∈ items, i.source.isMeasured = true ∧ i.event = e := by
  obtain ⟨i, hi, rfl⟩ := List.mem_map.1 he
  obtain ⟨hi, hmeasured⟩ := List.mem_filter.1 hi
  exact ⟨i, (List.mem_filter.1 hi).1, hmeasured, rfl⟩

/-- All samples of a handle that a HAL has in its state satisfy a property. -/
structure Carries (P : Event → Prop) (h : Handle) (hal : Hal) : Prop where
  waiting : ∀ e ∈ samplesOf h hal.waiting, P e
  sensor : ∀ s, hal.sensor? h = some s → s.Carries P

section Runs

variable {hal : Hal} {h : Handle} {b : Behaviour} {m : Turn} {ms : List Turn}

/-- A turn delivers what the HAL has in its state and what it generates. -/
theorem Carries.delivered (hcarries : hal.Carries P h) (hsound : hal.Sound)
    (hgenerated : ∀ e ∈ generated b h hal m, P e) : ∀ e ∈ delivered b h hal m, P e := by
  obtain ⟨now, input⟩ := m
  by_cases hadvance : input = .advance
  · subst hadvance
    intro e he
    replace he : e ∈ samplesOf h (hal.advance b now).1 := he
    cases hs : hal.sensor? h with
    | none =>
      rw [samplesOf, itemsOf_advance_of_none hsound hs, ← samplesOf] at he
      exact hcarries.waiting e he
    | some s =>
      rw [samplesOf_advance hsound hs] at he
      rcases List.mem_append.1 he with he | he
      · exact hcarries.waiting e he
      · obtain ⟨out, hitems, hbalance, -⟩ :=
          (hsound.of_sensor? hs).advance_spec b hal.measuring now (hal.signalFor b now h)
        obtain ⟨i, hi, hmeasured, rfl⟩ := exists_of_mem_samplesOf he
        rw [generated_of_sensor? hs] at hgenerated
        rw [hitems] at hi
        -- a replayed event, a sample, or a marker
        rcases List.mem_append.1 hi with hi | hi
        · rcases List.mem_append.1 hi with hi | hi
          · obtain ⟨e, hreplayed, rfl⟩ := List.mem_map.1 hi
            exact (hcarries.sensor s hs).replayed e (Option.mem_toList.1 hreplayed)
          · obtain ⟨e, hout, rfl⟩ := List.mem_map.1 hi
            have hmem := List.mem_append_left
              (s.advance b hal.measuring now (hal.signalFor b now h)).2.1.buffer hout
            rw [← hbalance] at hmem
            rcases List.mem_append.1 hmem with hmem | hmem
            · exact (hcarries.sensor s hs).buffered e hmem
            · exact hgenerated e hmem
        · rw [List.eq_of_mem_replicate hi] at hmeasured
          cases hmeasured
  · intro e he
    rw [(delivered_of_ne_advance hadvance).1] at he
    exact absurd he List.not_mem_nil

theorem Carries.step (hcarries : hal.Carries P h) (hsound : hal.Sound)
    (hgenerated : ∀ e ∈ generated b h hal m, P e) : (hal.step b m).Carries P h := by
  constructor
  · intro e he
    rw [samplesOf_waiting_step] at he
    rcases List.mem_append.1 he with hold | hmoved
    · split at hold
      · exact absurd hold List.not_mem_nil
      · exact hcarries.waiting e hold
    · -- what a call moves was in the buffer of the sensor that it names
      rw [samplesOf_moved hsound] at hmoved
      split at hmoved
      · next k period latency hi =>
        split at hmoved
        · next hk =>
          obtain ⟨j, _, _, s, hi', hs, hbuffer⟩ := mem_moved hmoved
          rw [hi] at hi'
          cases hi'
          exact (hcarries.sensor s (hk ▸ hs)).buffered e hbuffer
        · exact absurd hmoved List.not_mem_nil
      · exact absurd hmoved List.not_mem_nil
  · intro t ht
    obtain ⟨s, hs, hchange⟩ := exists_of_sensor?_step ht
    rw [generated_of_sensor? hs] at hgenerated
    exact (hcarries.sensor s hs).change (hsound.of_sensor? hs) hchange hgenerated

theorem ofCatalog_carries (c : Catalog) (signal : Signal) (P : Event → Prop) (h : Handle) :
    (ofCatalog c signal).Carries P h := by
  constructor
  · intro e he
    exact absurd he List.not_mem_nil
  · intro s hs
    obtain ⟨d, -, rfl⟩ := initial_of_sensor? hs
    exact ⟨fun e he => absurd he List.not_mem_nil, fun e he => absurd he (by
      simp [Sampler.initial]), fun e he => absurd he (by simp [Sampler.initial])⟩

/-- What holds of all samples that a run generates holds of all that it delivers. -/
theorem delivered_of_generated (hsound : hal.Sound) (hcarries : hal.Carries P h)
    (hgenerated : ∀ e ∈ along b (generated b h) hal ms, P e) :
    ∀ e ∈ along b (delivered b h) hal ms, P e := by
  induction ms generalizing hal with
  | nil => exact fun e he => absurd he List.not_mem_nil
  | cons m rest ih =>
    have hturn : ∀ e ∈ generated b h hal m, P e := fun e he =>
      hgenerated e (List.mem_append_left _ he)
    intro e he
    rcases List.mem_append.1 he with he | he
    · exact hcarries.delivered hsound hturn e he
    · exact ih (hsound.step b m) (hcarries.step hsound hturn)
        (fun f hf => hgenerated f (List.mem_append_right _ hf)) e he

end Runs

end SensorBench.Hal
