import SensorBench.Proofs.Hal.Provenance
import SensorBench.Proofs.Hal.Reactivation

/-!
# Samples and data injection

While a HAL is set to inject data its sensors take no samples, but their schedules stay
where they were. So the first turn of the clock in the normal mode takes samples for all
due times that were passed over (`caughtUp`). Of the samples of a whole run these are the
only ones that may lie inside the time in which data was injected
(`injection_caught_up`); `sampled_while_injecting` is a run in which some do.
-/

set_option autoImplicit false

namespace SensorBench.Hal

/-- The times up to `now` at which the sensor of a handle takes samples when the HAL
measures. -/
def dueIn (hal : Hal) (h : Handle) (now : Int) : List Int :=
  match hal.sensor? h with
  | some s => if s.enabled then s.due now else []
  | none => []

/-- The times at which a sensor takes samples in the first turn of the clock in which the HAL
measures. -/
def caughtUp (b : Behaviour) (h : Handle) : Hal → List Turn → List Int
  | _, [] => []
  | hal, m :: rest =>
    match m.input, hal.measuring with
    | .advance, true => hal.dueIn h m.time
    | _, _ => caughtUp b h (hal.step b m) rest

/-- A time lies strictly between two others. -/
def Within (start finish t : Int) : Prop := start < t ∧ t < finish

instance (start finish t : Int) : Decidable (Within start finish t) :=
  inferInstanceAs (Decidable (start < t ∧ t < finish))

section Turns

variable {b : Behaviour} {hal : Hal} {h : Handle} {m : Turn}

theorem generated_of_not_measuring (hm : hal.measuring = false) : generated b h hal m = [] := by
  cases hs : hal.sensor? h with
  | none => exact generated_of_none hs b m
  | some s =>
    rw [generated_of_sensor? hs, Sampler.emittedIn]
    split
    · apply Sampler.emitted_eq_nil
      rw [hm, Bool.and_false]
    · rfl

/-- A turn of the clock in which the HAL measures generates a sample for each due time. -/
theorem times_generated (hm : hal.measuring = true) (now : Int) :
    (generated b h hal ⟨now, .advance⟩).map (·.time) = hal.dueIn h now := by
  rw [dueIn]
  cases hs : hal.sensor? h with
  | none =>
    rw [generated_of_none hs]
    rfl
  | some s =>
    rw [generated_of_sensor? hs, hm]
    show (s.emitted true now _).map (·.time) = _
    dsimp only
    split
    · next hon =>
      apply Sampler.times_emitted
      rw [hon, Bool.and_true]
    · next hoff =>
      rw [Sampler.emitted_eq_nil]
      · rfl
      · rw [Bool.eq_false_iff.2 hoff, Bool.false_and]

end Turns

section Runs

variable {b : Behaviour} {hal : Hal} {h : Handle} {ms : List Turn} {start finish : Int}

/-- Nothing is generated while data is injected. -/
theorem generated_injecting
    (hmode : Throughout b (fun hal _ => hal.mode = .dataInjection) hal ms) :
    along b (generated b h) hal ms = [] := by
  induction ms generalizing hal with
  | nil => rfl
  | cons m rest ih =>
    obtain ⟨hfirst, hrest⟩ := hmode
    have hmeasuring : hal.measuring = false := by
      rw [measuring, hfirst]
      rfl
    show generated b h hal m ++ along b (generated b h) (hal.step b m) rest = []
    rw [generated_of_not_measuring hmeasuring, ih hrest, List.nil_append]

/-- From some time on, what is generated for earlier times is what the first turn of the clock
in which the HAL measures catches up on. -/
theorem times_generated_before (hsound : hal.Sound) (hms : ∀ m ∈ ms, finish ≤ m.time) :
    ((along b (generated b h) hal ms).map (·.time)).filter (· < finish) =
      (caughtUp b h hal ms).filter (· < finish) := by
  induction ms generalizing hal with
  | nil => rfl
  | cons m rest ih =>
    have htime := hms m List.mem_cons_self
    have hrest := fun n hn => hms n (List.mem_cons_of_mem m hn)
    have hnext := ih (hsound.step b m) hrest
    -- a turn that generates nothing leaves it to the turns behind it
    have hskip : generated b h hal m = [] →
        caughtUp b h hal (m :: rest) = caughtUp b h (hal.step b m) rest →
        ((along b (generated b h) hal (m :: rest)).map (·.time)).filter (· < finish) =
          (caughtUp b h hal (m :: rest)).filter (· < finish) := by
      intro hnone hcaught
      show ((generated b h hal m ++ along b (generated b h) (hal.step b m) rest).map
        (·.time)).filter (· < finish) = _
      rw [hnone, List.nil_append, hnext, hcaught]
    obtain ⟨now, input⟩ := m
    cases input with
    | advance =>
      cases hm : hal.measuring with
      | false =>
        apply hskip (generated_of_not_measuring hm)
        rw [caughtUp, hm]
      | true =>
        have hmode : hal.mode = .normal := of_decide_eq_true hm
        -- the schedule has come past the clock, so all later samples lie behind it
        have hafter : ∀ e ∈ along b (generated b h) (hal.step b ⟨now, .advance⟩) rest,
            finish < e.time := by
          apply generated_after (hsound.step b _) _ hrest
          intro t ht hon
          exact Int.lt_of_le_of_lt htime (advance_dueAfter hsound hmode now ht hon)
        have hlater : ((along b (generated b h) (hal.step b ⟨now, .advance⟩) rest).map
            (·.time)).filter (· < finish) = [] := by
          apply List.filter_eq_nil_iff.2
          intro t ht
          obtain ⟨e, he, rfl⟩ := List.mem_map.1 ht
          have hlt := hafter e he
          simp only [decide_eq_true_eq]
          omega
        show ((generated b h hal ⟨now, .advance⟩ ++ _).map (·.time)).filter (· < finish) = _
        rw [List.map_append, List.filter_append, times_generated hm, hlater, List.append_nil,
          caughtUp, hm]
    | call c => exact hskip (delivered_of_ne_advance Input.noConfusion).2 (by rw [caughtUp])
    | connect queue isOpen =>
      exact hskip (delivered_of_ne_advance Input.noConfusion).2 (by rw [caughtUp])
    | allocate region =>
      exact hskip (delivered_of_ne_advance Input.noConfusion).2 (by rw [caughtUp])
    | write memory offset bytes =>
      exact hskip (delivered_of_ne_advance Input.noConfusion).2 (by rw [caughtUp])

/-- A sensor whose schedule has not been left behind catches up on nothing. -/
theorem le_of_mem_caughtUp (hsound : hal.Sound) (hms : ∀ m ∈ ms, finish ≤ m.time)
    (hdue : ∀ s, hal.sensor? h = some s → s.enabled = true → finish ≤ s.nextDue) :
    ∀ t ∈ caughtUp b h hal ms, finish ≤ t := by
  intro t ht
  apply Int.not_lt.1
  intro hlt
  have hcaught : t ∈ (caughtUp b h hal ms).filter (· < finish) :=
    List.mem_filter.2 ⟨ht, decide_eq_true hlt⟩
  rw [← times_generated_before hsound hms] at hcaught
  obtain ⟨e, he, rfl⟩ := List.mem_map.1 (List.mem_filter.1 hcaught).1
  -- no sample is generated before the schedule
  have hafter : finish - 1 < e.time := by
    apply generated_after hsound _ _ e he
    · intro s hs hon
      have := hdue s hs hon
      omega
    · intro m hm
      have := hms m hm
      omega
  omega

/-- In every run from a fresh HAL in which data is injected after some turns, all up to
`start`, and until some others, all from `finish` on: nothing is generated while data is
injected, and of the samples generated at any time those for times strictly between `start`
and `finish` are the ones that the first turn of the clock in the normal mode catches up on.
There are none if the sensor is next due at `finish` or later when data is no longer injected.
Whatever is delivered, at any time and with any faults, was generated. -/
theorem injection_caught_up (c : Catalog) (signal : Signal) (b : Behaviour) (h : Handle)
    {early mid late : List Turn} (hearly : ∀ m ∈ early, m.time ≤ start)
    (hmode : Throughout b (fun hal _ => hal.mode = .dataInjection)
      ((ofCatalog c signal).run b early) mid)
    (hlate : ∀ m ∈ late, finish ≤ m.time) :
    let hal := ofCatalog c signal
    let ended := (hal.run b early).run b mid
    let all := along b (generated b h) hal (early ++ mid ++ late)
    let caught := caughtUp b h ended late
    along b (generated b h) (hal.run b early) mid = [] ∧
      (all.map (·.time)).filter (Within start finish ·) =
        caught.filter (Within start finish ·) ∧
      ((∀ e ∈ all, ¬Within start finish e.time) ↔ ∀ t ∈ caught, ¬Within start finish t) ∧
      ((∀ s, ended.sensor? h = some s → s.enabled = true → finish ≤ s.nextDue) →
        ∀ e ∈ all, ¬Within start finish e.time) ∧
      ∀ e ∈ along b (delivered b h) hal (early ++ mid ++ late), e ∈ all := by
  intro hal ended all caught
  have hsound : hal.Sound := ofCatalog_sound c signal
  have hended : ended.Sound := (hsound.run b early).run b mid
  have hmid := generated_injecting (h := h) hmode
  have hall : all = along b (generated b h) hal early ++ along b (generated b h) ended late := by
    show along b (generated b h) hal (early ++ mid ++ late) = _
    rw [along_append, along_append, run_append, hmid, List.append_nil]
  have htimes : (all.map (·.time)).filter (Within start finish ·) =
      caught.filter (Within start finish ·) := by
    -- what lies between is past `start` and, among what is left, before `finish`
    have hsplit : ∀ times : List Int, times.filter (Within start finish ·) =
        (times.filter (· < finish)).filter (start < ·) := by
      intro times
      rw [List.filter_filter]
      apply List.filter_congr
      intro t _
      exact Bool.decide_and _ _
    have hfirst : ((along b (generated b h) hal early).map (·.time)).filter
        (Within start finish ·) = [] := by
      apply List.filter_eq_nil_iff.2
      intro t ht
      obtain ⟨e, he, rfl⟩ := List.mem_map.1 ht
      have hle := generated_le hsound hearly e he
      rw [decide_eq_true_eq]
      exact fun hwithin => absurd hwithin.1 (Int.not_lt.2 hle)
    rw [hall, List.map_append, List.filter_append, hfirst, List.nil_append, hsplit, hsplit,
      times_generated_before hended hlate]
  have hlaw : (∀ e ∈ all, ¬Within start finish e.time) ↔
      ∀ t ∈ caught, ¬Within start finish t := by
    have hnone : (∀ e ∈ all, ¬Within start finish e.time) ↔
        (all.map (·.time)).filter (Within start finish ·) = [] := by
      simp [List.filter_eq_nil_iff]
    rw [hnone, htimes]
    simp [List.filter_eq_nil_iff]
  refine ⟨hmid, htimes, hlaw, fun hdue => hlaw.2 fun t ht hwithin => ?_, ?_⟩
  · have hle := le_of_mem_caughtUp hended hlate hdue t ht
    exact absurd hwithin.2 (Int.not_lt.2 hle)
  · exact delivered_of_generated hsound (ofCatalog_carries c signal (· ∈ all) h)
      fun e he => he

end Runs

/-- A barometer with a period of 10 ms, and data injected from 5 ms on. -/
def untilInjecting : List Turn :=
  [⟨0, .call (.batch barometer.handle 10000000 0)⟩,
    ⟨0, .call (.activate barometer.handle true)⟩, ⟨5000000, .advance⟩,
    ⟨5000000, .call (.mode .dataInjection)⟩]

/-- The sensor switched off and on again while data is injected. -/
def whileInjecting : List Turn :=
  [⟨18000000, .call (.activate barometer.handle false)⟩,
    ⟨20000000, .call (.activate barometer.handle true)⟩, ⟨25000000, .advance⟩]

theorem injection_caught_up_restarted :
    let hal := ofCatalog [barometer] silence
    let late : List Turn := [⟨28000000, .call (.mode .normal)⟩, ⟨55000000, .advance⟩]
    let ms := untilInjecting ++ whileInjecting ++ late
    let all := along {} (generated {} barometer.handle) hal ms
    all.map (·.time) = [30000000, 40000000, 50000000] ∧
      ∀ e ∈ all, ¬Within 5000000 28000000 e.time := by
  have hearly : ∀ m ∈ untilInjecting, m.time ≤ 5000000 := by decide
  have hmode : Throughout {} (fun hal _ => hal.mode = .dataInjection)
      ((ofCatalog [barometer] silence).run {} untilInjecting) whileInjecting :=
    ⟨by decide +kernel, by decide +kernel, by decide +kernel, trivial⟩
  have hlate : ∀ m ∈ ([⟨28000000, .call (.mode .normal)⟩, ⟨55000000, .advance⟩] : List Turn),
      28000000 ≤ m.time := by decide
  obtain ⟨-, -, hlaw, -, -⟩ :=
    injection_caught_up [barometer] silence {} barometer.handle hearly hmode hlate
  exact ⟨by decide +kernel, hlaw.2 (by decide +kernel)⟩

/-- Four samples for times at which data was injected are generated and delivered
afterwards. -/
theorem sampled_while_injecting :
    let hal := ofCatalog [barometer] silence
    let mid : List Turn := [⟨45000000, .advance⟩]
    let late : List Turn := [⟨45000000, .call (.mode .normal)⟩, ⟨55000000, .advance⟩]
    let ms := untilInjecting ++ mid ++ late
    InOrder ms ∧ (hal.run {} untilInjecting).mode = .dataInjection ∧
      ((hal.run {} untilInjecting).run {} mid).mode = .dataInjection ∧
      (along {} (delivered {} barometer.handle) hal ms).map (·.time) =
        [10000000, 20000000, 30000000, 40000000, 50000000] ∧
      ¬ ∀ e ∈ along {} (generated {} barometer.handle) hal ms,
        ¬Within 5000000 45000000 e.time := by
  decide +kernel

end SensorBench.Hal
