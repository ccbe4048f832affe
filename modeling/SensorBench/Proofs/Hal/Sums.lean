import SensorBench.Proofs.Hal.ChannelBounds
import SensorBench.Proofs.Hal.Sound

/-!
# Sums of times

A HAL that keeps times in words of 64 bits ends at the first turn with a sum that no word holds,
and until then it does what the exact one does (`runInWords_of_fits`, `runInWords_of_not_fits`).
A turn forms sums for the sensors, for a report that is started, and for the reports that go on
(`mem_sums`). Up to the horizon a schedule with a short period forms sums that fit
(`ScheduleFits.sums_fit`), and all reports have such schedules (`ReportsFit.step`).
-/

set_option autoImplicit false

namespace SensorBench.Hal

/-! ## Runs in words -/

/-- The sums of times that a turn forms. -/
def sums (hal : Hal) (m : Turn) : List Int :=
  match m.input with
  | .call c => hal.callSums m.time c
  | .advance => hal.advanceSums m.time
  | _ => []

/-- All sums that a turn forms fit. -/
def SumsFit (hal : Hal) (m : Turn) : Prop := ∀ t ∈ hal.sums m, FitsWord t

/-- A turn of a HAL that keeps times in words. -/
def stepInWords (b : Behaviour) (hal : Hal) (m : Turn) : Except String Hal :=
  match m.input with
  | .call c => (hal.performInWords b m.time c).map hal.afterCall
  | .advance => (hal.advanceInWords b m.time).map (·.2)
  | _ => .ok (hal.step b m)

/-- A run of a HAL that keeps times in words. -/
def runInWords (b : Behaviour) : Hal → List Turn → Except String Hal
  | hal, [] => .ok hal
  | hal, m :: rest => do runInWords b (← hal.stepInWords b m) rest

section Runs

variable {b : Behaviour} {hal : Hal} {m : Turn} {ms : List Turn}

theorem ifFits_of_fits {α : Type} {sums : List Int} (h : ∀ t ∈ sums, FitsWord t) (a : α) :
    ifFits sums a = .ok a :=
  if_pos h

theorem ifFits_of_not_fits {α : Type} {sums : List Int} (h : ¬∀ t ∈ sums, FitsWord t) (a : α) :
    ifFits sums a = .error Number.sumOverflow :=
  if_neg h

theorem map_ifFits {α β : Type} (f : α → β) (sums : List Int) (a : α) :
    (ifFits sums a).map f = ifFits sums (f a) := by
  by_cases h : ∀ t ∈ sums, FitsWord t
  · rw [ifFits_of_fits h, ifFits_of_fits h, Except.map]
  · rw [ifFits_of_not_fits h, ifFits_of_not_fits h, Except.map]

/-- A turn in words is the exact one if the sums that it forms fit. -/
theorem stepInWords_eq (b : Behaviour) (hal : Hal) (m : Turn) :
    hal.stepInWords b m = ifFits (hal.sums m) (hal.step b m) := by
  obtain ⟨now, input⟩ := m
  cases input with
  | call c => exact map_ifFits _ _ _
  | advance => exact map_ifFits _ _ _
  | connect | allocate | write =>
    exact (ifFits_of_fits (fun t ht => absurd ht List.not_mem_nil) _).symm

/-- As long as all sums fit, a HAL in words is where the exact one is. -/
theorem runInWords_of_fits (h : Throughout b SumsFit hal ms) :
    hal.runInWords b ms = .ok (hal.run b ms) := by
  induction ms generalizing hal with
  | nil => rfl
  | cons m rest ih =>
    rw [runInWords, stepInWords_eq, ifFits_of_fits h.1]
    exact ih h.2

/-- The first sum that does not fit ends the run. -/
theorem runInWords_of_not_fits (h : ¬Throughout b SumsFit hal ms) :
    hal.runInWords b ms = .error Number.sumOverflow := by
  induction ms generalizing hal with
  | nil => exact absurd trivial h
  | cons m rest ih =>
    rw [runInWords, stepInWords_eq]
    by_cases hm : hal.SumsFit m
    · rw [ifFits_of_fits hm]
      exact ih fun hrest => h ⟨hm, hrest⟩
    · rw [ifFits_of_not_fits hm]
      rfl

end Runs

/-! ## Where sums come from -/

/-- The sums that a turn forms for the schedule of a sensor. -/
def Sampler.sums (s : Sampler) (measuring : Bool) (m : Turn) : List Int :=
  match m.input with
  | .call (.activate h on) => if h = s.handle then s.switchSums m.time on else []
  | .call (.batch h period latency) =>
    if h = s.handle ∧ 0 ≤ period ∧ 0 ≤ latency then s.retuneSums m.time period else []
  | .advance => s.streamSums measuring m.time
  | _ => []

/-- A turn forms the sums of its sensors, that of a report which it starts, and those of all
reports when they go on. -/
theorem mem_sums {hal : Hal} (hsound : hal.Sound) {m : Turn} {t : Int} (ht : t ∈ hal.sums m) :
    (∃ h s, hal.sensor? h = some s ∧ t ∈ s.sums hal.measuring m) ∨
      (∃ rate period, Rate.period? rate = some period ∧ t = m.time + period) ∨
      ∃ p ∈ hal.channels, ∃ q ∈ p.2.reports, t ∈ dueSums q.2.nextDue q.2.period m.time := by
  obtain ⟨now, input⟩ := m
  cases input with
  | connect | allocate | write => exact absurd ht List.not_mem_nil
  | advance =>
    rcases List.mem_append.1 ht with hsensor | hreport
    · obtain ⟨s, hs, hsum⟩ := List.mem_flatMap.1 hsensor
      exact .inl ⟨s.handle, s, hsound.sensor?_of_mem hs, hsum⟩
    · obtain ⟨p, hp, hsum⟩ := List.mem_flatMap.1 hreport
      rw [Channel.reportSums] at hsum
      split at hsum
      · exact absurd hsum List.not_mem_nil
      · obtain ⟨q, hq, hsum⟩ := List.mem_flatMap.1 hsum
        exact .inr (.inr ⟨p, hp, q, hq, hsum⟩)
  | call c =>
    rw [sums] at ht
    dsimp only at ht
    cases c with
    | activate h on =>
      rw [callSums] at ht
      split at ht
      · next s hs =>
        refine .inl ⟨h, s, hs, ?_⟩
        dsimp only [Sampler.sums]
        rwa [if_pos (handle_of_sensor? hs).symm]
      · exact absurd ht List.not_mem_nil
    | batch h period latency =>
      rw [callSums] at ht
      split at ht
      · exact absurd ht List.not_mem_nil
      · next hvalid =>
        split at ht
        · next s hs =>
          refine .inl ⟨h, s, hs, ?_⟩
          dsimp only [Sampler.sums]
          rwa [if_pos ⟨(handle_of_sensor? hs).symm, by omega, by omega⟩]
        · exact absurd ht List.not_mem_nil
    | report h channel rate =>
      rw [callSums] at ht
      split at ht
      · next s c period hs hc hrate =>
        split at ht
        · exact .inr (.inl ⟨rate, period, hrate, List.mem_singleton.1 ht⟩)
        · exact absurd ht List.not_mem_nil
      · exact absurd ht List.not_mem_nil
    | _ => exact absurd ht List.not_mem_nil

/-! ## Schedules that fit -/

/-- The clock values that are considered: two to the power of 62 and all before. -/
def horizon : Int := 0x4000000000000000

/-- A schedule has a positive period below the horizon, and what is due next lies in a word and
not before zero. -/
structure ScheduleFits (next period : Int) : Prop where
  pos : 0 < period
  short : period < horizon
  nonneg : 0 ≤ next
  fits : next ≤ greatestTime

/-- The due time after the clock is the old one or a sum. -/
theorem dueAfter_mem_sums (next period now : Int) :
    dueAfter next period now = next ∨
      dueAfter next period now ∈ dueSums next period now := by
  rcases dueAfter_mem next period now with hsame | ⟨k, hk, hlast⟩
  · exact Or.inl hsame
  · refine Or.inr (List.mem_map.2 ⟨next + period * k, ?_, hlast.symm⟩)
    exact (mem_timesFrom_iff _ _ _ _).2 ⟨k, hk, rfl⟩

/-- A time that is not before zero need only not be too great. -/
theorem fitsWord_of_nonneg {t : Int} (h : 0 ≤ t ∧ t ≤ greatestTime) : FitsWord t :=
  ⟨Int.le_trans (by decide) h.1, h.2⟩

section ScheduleFits

variable {next period now t : Int}

/-- The clock and a period below the horizon make no time that does not fit. -/
theorem sum_fits (hpos : 0 < period) (hshort : period < horizon)
    (hclock : 0 ≤ now ∧ now ≤ horizon) : 0 ≤ now + period ∧ now + period ≤ greatestTime := by
  rw [horizon] at hshort hclock
  rw [greatestTime]
  omega

/-- A period is added to due times that the clock has reached. -/
theorem ScheduleFits.sums_fit (h : ScheduleFits next period) (hnow : now ≤ horizon)
    (ht : t ∈ dueSums next period now) : 0 ≤ t ∧ t ≤ greatestTime := by
  obtain ⟨due, hdue, rfl⟩ := List.mem_map.1 ht
  obtain ⟨hfirst, hlast⟩ := le_of_mem_dueTimes h.pos hdue
  have hnonneg := h.nonneg
  exact sum_fits h.pos h.short ⟨by omega, by omega⟩

theorem ScheduleFits.onward (h : ScheduleFits next period) (hnow : now ≤ horizon) :
    ScheduleFits (dueAfter next period now) period := by
  rcases dueAfter_mem_sums next period now with hsame | hsum
  · rw [hsame]
    exact h
  · obtain ⟨hnonneg, hfits⟩ := h.sums_fit hnow hsum
    exact ⟨h.pos, h.short, hnonneg, hfits⟩

end ScheduleFits

/-! ## Reports -/

/-- The schedule of a report fits. -/
def DirectReport.Fits (r : DirectReport) : Prop := ScheduleFits r.nextDue r.period

/-- The schedules of all reports fit. -/
def ReportsFit (hal : Hal) : Prop := ∀ p ∈ hal.channels, ∀ q ∈ p.2.reports, q.2.Fits

theorem period?_lt_horizon {rate : Rate} {period : Int} (h : rate.period? = some period) :
    period < horizon := by
  cases rate with
  | stop => cases h
  | _ => cases h; decide

theorem fits_reportsAdvance {now : Int} (hnow : now ≤ horizon) {signal : Signal}
    {reports : List (Handle × DirectReport)} (h : ∀ q ∈ reports, q.2.Fits) :
    ∀ q ∈ (Channel.reportsAdvance now signal reports).2.1, q.2.Fits := by
  induction reports generalizing signal with
  | nil => exact fun q hq => absurd hq List.not_mem_nil
  | cons r rest ih =>
    intro q hq
    rcases List.mem_cons.1 hq with rfl | hq
    · exact (h r List.mem_cons_self).onward hnow
    · exact ih (fun q hq => h q (List.mem_cons_of_mem r hq)) q hq

theorem fits_advance {now : Int} (hnow : now ≤ horizon) {signal : Signal} {c : Channel}
    (h : ∀ q ∈ c.reports, q.2.Fits) : ∀ q ∈ (c.advance now signal).2.1.reports, q.2.Fits := by
  rw [Channel.advance]
  split
  · exact h
  · exact fits_reportsAdvance hnow h

section Turns

variable {hal : Hal}

theorem ReportsFit.setChannel (h : hal.ReportsFit) {n : Int} {c : Channel}
    (hc : ∀ q ∈ c.reports, q.2.Fits) : (hal.setChannel n c).ReportsFit := by
  intro p hp
  obtain ⟨q, hq, rfl⟩ := List.mem_map.1 hp
  dsimp only
  split
  · exact hc
  · exact h q hq

theorem ReportsFit.setReport (h : hal.ReportsFit) {n : Int} {c : Channel}
    (hc : hal.channel? n = some c) (k : Handle) {r : DirectReport}
    (hr : r.Fits) :
    (hal.setChannel n { c with reports := Channel.setReport k r c.reports }).ReportsFit := by
  apply h.setChannel
  intro q hq
  rcases mem_setReport hq with rfl | hq
  · exact hr
  · exact h _ (mem_of_channel? hc) q hq

/-- Up to the horizon the schedules of reports go on to fit. -/
theorem ReportsFit.step (h : hal.ReportsFit) (b : Behaviour) {m : Turn}
    (hclock : 0 ≤ m.time ∧ m.time ≤ horizon) : (hal.step b m).ReportsFit := by
  have hstep := table_step b hal m
  generalize hal.step b m = next at hstep
  cases hstep with
  | kept _ _ hchannels => exact fun p hp => h p (hchannels ▸ hp)
  | allocated region _ heq =>
    subst heq
    exact h
  | wrote k offset bytes _ heq =>
    subst heq
    exact h
  | advanced _ heq =>
    subst heq
    intro p hp
    obtain ⟨r, hr, before, hadvance⟩ := mem_advanceChannels hp
    rw [hadvance]
    exact fits_advance hclock.2 (h r hr)
  | registered kind size k _ _ heq =>
    subst heq
    intro p hp
    rcases List.mem_append.1 hp with hp | hp
    · exact h p hp
    · cases List.mem_singleton.1 hp
      exact fun q hq => absurd hq List.not_mem_nil
  | unregistered n _ heq =>
    subst heq
    exact fun p hp => h p (List.mem_filter.1 hp).1
  | reported k n rate token _ _ hr =>
    cases hr with
    | stopped s c _ hc =>
      exact h.setChannel fun q hq => h _ (mem_of_channel? hc) q (List.mem_filter.1 hq).1
    | retuned s c period r _ hc hrate hreport =>
      have hschedule := h _ (mem_of_channel? hc) _ (mem_of_lookup hreport)
      exact h.setReport hc k
        ⟨period?_pos hrate, period?_lt_horizon hrate, hschedule.nonneg, hschedule.fits⟩
    | started s c period _ hc hrate =>
      have hpos := period?_pos hrate
      have hshort := period?_lt_horizon hrate
      obtain ⟨hnonneg, hfits⟩ := sum_fits hpos hshort hclock
      exact h.setReport hc k ⟨hpos, hshort, hnonneg, hfits⟩

theorem ofCatalog_reportsFit (c : Catalog) (signal : Signal) :
    (ofCatalog c signal).ReportsFit :=
  fun _ hp => absurd hp List.not_mem_nil

end Turns

end SensorBench.Hal
