import SensorBench.Proofs.Hal.Spacing
import SensorBench.Proofs.Hal.Streaming
import SensorBench.Proofs.Hal.Sums
import SensorBench.Proofs.Trial.Admitted
import SensorBench.Sensor.Stock

/-!
# Schedules in words

The times of a schedule are exact here, while a HAL that keeps them in words of 64 bits forms
sums that may not fit. `InWords` is the loop that takes samples, on words. With a clock up to 2⁶²
all sums fit, a run in words is the exact one, and the loop ends where the exact schedule does
(`schedule_in_words`), for all sensors but one sort: a sensor without a longest delay may be asked
for any period, and a clock value and the greatest time make a sum that does not fit
(`period_out_of_words`).
-/

set_option autoImplicit false

namespace SensorBench.Hal

theorem toInt_ofInt {t : Int} (h : FitsWord t) : (Int64.ofInt t).toInt = t := by
  obtain ⟨hleast, hgreatest⟩ := h
  rw [leastTime] at hleast
  rw [greatestTime] at hgreatest
  exact Int64.toInt_ofInt_of_le (by omega) (by omega)

/-! ## Sampling in words -/

/-- The loop that takes samples in words: as long as the next time is not after the clock, it is
taken, and the period is added to it, if the sum fits. -/
inductive InWords (period now : Int64) : Int64 → List Int64 → Int64 → Prop
  | done {next : Int64} : now < next → InWords period now next [] next
  | turn {next last : Int64} {times : List Int64} : next ≤ now →
      FitsWord (next.toInt + period.toInt) → InWords period now (next + period) times last →
      InWords period now next (next :: times) last

theorem InWords.unique {period now next last last' : Int64} {times times' : List Int64}
    (h : InWords period now next times last) (h' : InWords period now next times' last') :
    times = times' ∧ last = last' := by
  induction h generalizing times' last' with
  | done hlt =>
    cases h' with
    | done => exact ⟨rfl, rfl⟩
    | turn hle => exact absurd hlt (Int64.not_lt.2 hle)
  | turn hle _ _ ih =>
    cases h' with
    | done hlt => exact absurd hlt (Int64.not_lt.2 hle)
    | turn _ _ hrest =>
      obtain ⟨rfl, rfl⟩ := ih hrest
      exact ⟨rfl, rfl⟩

/-- As long as all sums fit, the loop takes the due times. -/
theorem inWords_dueTimes {period next now : Int} (hp : 0 < period) (hperiod : FitsWord period)
    (hnow : FitsWord now) (hnext : FitsWord next)
    (hsums : ∀ t ∈ dueTimes next period now, FitsWord (t + period)) :
    InWords (Int64.ofInt period) (Int64.ofInt now) (Int64.ofInt next)
      ((dueTimes next period now).map Int64.ofInt) (Int64.ofInt (dueAfter next period now)) := by
  have hcount := lt_dueCount_iff hp next now
  rw [dueTimes] at hsums ⊢
  rw [dueAfter]
  generalize dueCount next period now = n at hcount hsums ⊢
  -- the induction is on the number of due times
  induction n generalizing next with
  | zero =>
    have hlate := (hcount 0).not.1 (Nat.lt_irrefl 0)
    rw [Int.natCast_zero, Int.mul_zero, Int.add_zero] at hlate ⊢
    apply InWords.done
    rw [Int64.lt_iff_toInt_lt, toInt_ofInt hnow, toInt_ofInt hnext]
    omega
  | succ n ih =>
    have hdue := (hcount 0).1 n.succ_pos
    rw [Int.natCast_zero, Int.mul_zero, Int.add_zero] at hdue
    have hfirst := hsums next List.mem_cons_self
    have hshift : ∀ k : Nat, next + period * ((k + 1 : Nat) : Int) =
        next + period + period * k := by
      intro k
      push_cast
      rw [Int.mul_add, Int.mul_one]
      omega
    have hrest := ih hfirst
      (fun k => by rw [← hshift, ← hcount (k + 1), Nat.succ_lt_succ_iff])
      (fun t ht => hsums t (List.mem_cons_of_mem next ht))
    rw [Int64.ofInt_add] at hrest
    rw [hshift]
    refine InWords.turn ?_ ?_ hrest
    · rw [Int64.le_iff_toInt_le, toInt_ofInt hnow, toInt_ofInt hnext]
      exact hdue
    · rwa [toInt_ofInt hnext, toInt_ofInt hperiod]

/-! ## The sums of one sensor -/

theorem leastPeriod_lt_horizon (d : Descriptor) : Sampler.leastPeriod d < horizon := by
  have := d.minDelay.toInt_lt
  simp only [Sampler.leastPeriod, Sampler.shortestPeriod, Descriptor.minDelayNs,
    Descriptor.delayNs, horizon]
  omega

/-- A longest delay bounds the period, whatever is requested. -/
theorem periodFor_lt_horizon {d : Descriptor} {requested : Int}
    (h : d.maxDelayNs = 0 → requested < horizon) : Sampler.periodFor d requested < horizon := by
  have hleast := leastPeriod_lt_horizon d
  have hlongest : d.maxDelayNs < horizon := by
    have := d.maxDelay.toInt_lt
    simp only [Descriptor.maxDelayNs, Descriptor.delayNs, horizon]
    omega
  rw [Sampler.periodFor]
  split
  · next hmax =>
    have := h hmax
    omega
  · omega

namespace Sampler

/-- A turn that does not ask a streaming sensor without a longest delay for a period from the
horizon on. -/
def Modest (d : Descriptor) (m : Turn) : Prop :=
  ∀ period latency, m.input = .call (.batch d.handle period latency) →
    d.isOneShot = false → d.maxDelayNs = 0 → period < horizon

/-- The next due time of a sensor lies in a word and not before zero, and a sensor that streams
has a period below the horizon. -/
structure Bounded (s : Sampler) : Prop where
  nonneg : 0 ≤ s.nextDue
  fits : s.nextDue ≤ greatestTime
  period : s.descriptor.isOneShot = false → s.period < horizon

section Changes

variable {b : Behaviour} {measuring : Bool} {m : Turn} {signal : Signal} {s t : Sampler}

theorem mem_switchSums {now t : Int} {on : Bool} :
    t ∈ s.switchSums now on ↔ on = true ∧ s.enabled = false ∧ t = s.firstDue now := by
  rw [switchSums]
  split <;> simp_all

theorem mem_retuneSums {now period t : Int} : t ∈ s.retuneSums now period ↔
    s.enabled = true ∧ s.descriptor.isOneShot = false ∧
      t = now + periodFor s.descriptor period := by
  rw [retuneSums]
  split <;> simp_all

theorem mem_streamSums {now t : Int} : t ∈ s.streamSums measuring now ↔
    (s.enabled && measuring) = true ∧ s.descriptor.isOneShot = false ∧
      t ∈ dueSums s.nextDue s.period now := by
  rw [streamSums]
  split <;> simp_all

/-- A turn changes a schedule to one of the sums that it forms. -/
theorem Change.nextDue_mem (hc : Change b measuring m signal s t) :
    t.nextDue = s.nextDue ∨ t.nextDue ∈ s.sums measuring m := by
  cases hc with
  | passed => exact Or.inl rfl
  | disconnected => exact Or.inl rfl
  | switchedOn hi hoff =>
    refine Or.inr ?_
    rw [sums, hi]
    dsimp only
    rw [if_pos rfl]
    exact mem_switchSums.2 ⟨rfl, hoff, rfl⟩
  | switchedOff => exact Or.inl rfl
  | retuned period latency hi hp hl =>
    have hn := (release_facts (s.retune m.time period latency)).2.2.2.2.1
    have hsums : s.sums measuring m = s.retuneSums m.time period := by
      rw [sums, hi]
      exact if_pos ⟨rfl, hp, hl⟩
    rw [hn, hsums, mem_retuneSums]
    dsimp only [retune]
    split
    · next hruns =>
      rw [Bool.and_eq_true, Bool.not_eq_true'] at hruns
      rcases Int.le_total s.nextDue (m.time + periodFor s.descriptor period) with hle | hle
      · exact Or.inl (Int.min_eq_left hle)
      · exact Or.inr ⟨hruns.1, hruns.2, Int.min_eq_right hle⟩
    · exact Or.inl rfl
  | flushRequested => exact Or.inl rfl
  | advanced hi =>
    by_cases hm : (s.enabled && measuring) = true ∧ s.descriptor.isOneShot = false
    · rw [(advance_grid b m.time signal hm.1 hm.2).1, sums, hi]
      exact (dueAfter_mem_sums _ _ _).imp_right fun hsum => mem_streamSums.2 ⟨hm.1, hm.2, hsum⟩
    · exact Or.inl (nextDue_advance b m.time signal hm)

/-- No schedule of a sensor that stays on is set to a time in the past. -/
theorem Change.nextDue_not_past (hs : s.Sound) (hc : Change b measuring m signal s t)
    (hon : t.enabled = true) : s.nextDue ≤ t.nextDue ∨ m.time < t.nextDue := by
  have hpos := hs.period_pos
  cases hc with
  | passed => exact Or.inl (Int.le_refl _)
  | disconnected => exact absurd hon Bool.false_ne_true
  | switchedOn =>
    exact Or.inr (hs.lt_firstDue m.time)
  | switchedOff => exact absurd hon Bool.false_ne_true
  | retuned period latency =>
    have hn := (release_facts (s.retune m.time period latency)).2.2.2.2.1
    have hp := leastPeriod_le_periodFor s.descriptor period
    have hleast := leastPeriod_pos s.descriptor
    rw [hn]
    simp only [retune]
    split <;> omega
  | flushRequested => exact Or.inl (Int.le_refl _)
  | advanced => exact Or.inl (hs.advance_schedule b measuring m.time signal hon).2.1

/-- The schedule of a sensor that streams fits. -/
theorem Bounded.scheduleFits (h : s.Bounded) (hs : s.Sound)
    (hflows : s.descriptor.isOneShot = false) : ScheduleFits s.nextDue s.period :=
  ⟨hs.period_pos, h.period hflows, h.nonneg, h.fits⟩

/-- With a clock up to the horizon and periods below it all sums fit. -/
theorem Bounded.sums_fit (h : s.Bounded) (hs : s.Sound) (hclock : 0 ≤ m.time ∧ m.time ≤ horizon)
    (hmodest : Modest s.descriptor m) :
    ∀ sum ∈ s.sums measuring m, 0 ≤ sum ∧ sum ≤ greatestTime := by
  intro sum hsum
  rw [sums] at hsum
  split at hsum
  · -- switched on: the clock and the delay of a one-shot sensor, or the period
    split at hsum
    · obtain ⟨-, -, rfl⟩ := mem_switchSums.1 hsum
      have hdelay : 0 < oneShotDelay ∧ oneShotDelay < horizon := by decide
      rw [firstDue]
      split
      · exact sum_fits hdelay.1 hdelay.2 hclock
      · next hflows =>
        exact sum_fits hs.period_pos (h.period (Bool.not_eq_true _ ▸ hflows)) hclock
    · exact absurd hsum List.not_mem_nil
  · next k period latency hi =>
    -- retuned: the period is bounded by the longest delay or by the request
    split at hsum
    · next hvalid =>
      obtain ⟨rfl, -, -⟩ := hvalid
      obtain ⟨-, hflows, rfl⟩ := mem_retuneSums.1 hsum
      have hpos := Int.lt_of_lt_of_le (leastPeriod_pos s.descriptor)
        (leastPeriod_le_periodFor s.descriptor period)
      have hshort := periodFor_lt_horizon (hmodest period latency hi hflows)
      exact sum_fits hpos hshort hclock
    · exact absurd hsum List.not_mem_nil
  · obtain ⟨-, hflows, hdue⟩ := mem_streamSums.1 hsum
    exact (h.scheduleFits hs hflows).sums_fit hclock.2 hdue
  · exact absurd hsum List.not_mem_nil

theorem Bounded.change (h : s.Bounded) (hs : s.Sound) (hclock : 0 ≤ m.time ∧ m.time ≤ horizon)
    (hmodest : Modest s.descriptor m) (hc : Change b measuring m signal s t) : t.Bounded := by
  have hdue : 0 ≤ t.nextDue ∧ t.nextDue ≤ greatestTime := by
    rcases hc.nextDue_mem with hsame | hsum
    · exact hsame ▸ ⟨h.nonneg, h.fits⟩
    · exact h.sums_fit hs hclock hmodest _ hsum
  refine ⟨hdue.1, hdue.2, fun hflows => ?_⟩
  rw [hc.descriptor] at hflows
  cases hc with
  | retuned period latency hi =>
    rw [(release_facts (s.retune m.time period latency)).2.2.1]
    exact periodFor_lt_horizon (hmodest period latency hi hflows)
  | advanced =>
    rw [(advance_facts b measuring m.time signal).2.1]
    exact h.period hflows
  | _ => exact h.period hflows

theorem bounded_initial (d : Descriptor) : (initial d).Bounded where
  nonneg := Int.le_refl 0
  fits := Int.le_of_lt (by decide : (0 : Int) < greatestTime)
  period := fun _ => periodFor_lt_horizon fun hmax => hmax ▸ by decide

/-- For a sensor that streams the loop in words ends, with the samples taken and at the time
that is due next. -/
theorem Bounded.inWords (h : s.Bounded) (hs : s.Sound) (hclock : 0 ≤ m.time ∧ m.time ≤ horizon)
    (hon : (s.enabled && measuring) = true) (hflows : s.descriptor.isOneShot = false) :
    ∃ times last,
      (∀ times' last', InWords (Int64.ofInt s.period) (Int64.ofInt m.time)
        (Int64.ofInt s.nextDue) times' last' ↔ times' = times ∧ last' = last) ∧
      times.map Int64.toInt = (s.emitted measuring m.time signal).map (·.time) ∧
      last.toInt = (s.advance b measuring m.time signal).2.1.nextDue := by
  obtain ⟨hnext, htimes, -⟩ := advance_grid b m.time signal hon hflows
  have hschedule := h.scheduleFits hs hflows
  obtain ⟨hpos, hshort, hnonneg, -⟩ := h.scheduleFits hs hflows
  have hhorizon : horizon ≤ greatestTime := by decide
  have hperiod : FitsWord s.period := fitsWord_of_nonneg (by omega)
  have hnow : FitsWord m.time := fitsWord_of_nonneg (by omega)
  have hfirst : FitsWord s.nextDue := fitsWord_of_nonneg ⟨hnonneg, h.fits⟩
  have hfit : ∀ sum ∈ dueSums s.nextDue s.period m.time, FitsWord sum :=
    fun sum hsum => fitsWord_of_nonneg (hschedule.sums_fit hclock.2 hsum)
  have hloop := inWords_dueTimes hpos hperiod hnow hfirst
    fun due hdue => hfit (due + s.period) (List.mem_map_of_mem hdue)
  -- the words of the exact times stand for these times again
  have hback : ((dueTimes s.nextDue s.period m.time).map Int64.ofInt).map Int64.toInt =
      dueTimes s.nextDue s.period m.time := by
    rw [List.map_map]
    refine (List.map_congr_left fun due hdue => ?_).trans (List.map_id _)
    obtain ⟨hlow, hhigh⟩ := le_of_mem_dueTimes hpos hdue
    exact toInt_ofInt (fitsWord_of_nonneg (by omega))
  have hend : (Int64.ofInt (dueAfter s.nextDue s.period m.time)).toInt =
      dueAfter s.nextDue s.period m.time := by
    apply toInt_ofInt
    rcases dueAfter_mem_sums s.nextDue s.period m.time with hsame | hsum
    · exact hsame.symm ▸ hfirst
    · exact hfit _ hsum
  refine ⟨_, _, fun times last => ⟨fun hwords => hwords.unique hloop, ?_⟩,
    hback.trans htimes.symm, hend.trans hnext.symm⟩
  rintro ⟨rfl, rfl⟩
  exact hloop

end Changes

end Sampler

/-! ## Runs -/

/-- A listed sensor without a longest delay that reports more than once reports on change or in
a mode of its own. -/
theorem mode_of_admitted {d : Descriptor} (h : d.Admitted) (hflows : d.isOneShot = false)
    (hmax : d.maxDelayNs = 0) : d.mode = .onChange ∨ d.mode = .special := by
  have hfit := h.fit
  have hdelays := h.delays
  cases hmode : d.mode with
  | continuous =>
    rw [hmode, Descriptor.delaysFit, Bool.and_eq_true, decide_eq_true_eq] at hfit
    rw [Descriptor.maxDelayNs, Descriptor.delayNs] at hmax
    omega
  | onChange => exact Or.inl rfl
  | oneShot =>
    rw [Descriptor.isOneShot, hmode] at hflows
    exact absurd hflows (by decide)
  | special => exact Or.inr rfl

/-- What a turn comes to for a sensor in words of 64 bits: all sums fit, the schedule is one of
them if it changes, it is not set to a time in the past, and the loop of a sensor that streams
ends, with the samples that are generated and at the time that is due next. -/
structure FitsTurn (b : Behaviour) (hal : Hal) (m : Turn) (h : Handle) (s t : Sampler) :
    Prop where
  sums : ∀ sum ∈ s.sums hal.measuring m, FitsWord sum
  schedule : t.nextDue = s.nextDue ∨ t.nextDue ∈ s.sums hal.measuring m
  future : t.enabled = true → s.nextDue ≤ t.nextDue ∨ m.time < t.nextDue
  loop : m.input = .advance → hal.measuring = true → s.enabled = true →
    s.descriptor.isOneShot = false → ∃ times last,
      (∀ times' last', InWords (Int64.ofInt s.period) (Int64.ofInt m.time)
        (Int64.ofInt s.nextDue) times' last' ↔ times' = times ∧ last' = last) ∧
      times.map Int64.toInt = (generated b h hal m).map (·.time) ∧ last.toInt = t.nextDue

section Runs

variable {b : Behaviour} {c : Catalog} {hal : Hal} {m : Turn} {ms : List Turn} {h : Handle}
  {s t : Sampler}

theorem fitsTurn (hsound : hal.Sound) (hs : hal.sensor? h = some s)
    (ht : (hal.step b m).sensor? h = some t) (hbounded : s.Bounded)
    (hclock : 0 ≤ m.time ∧ m.time ≤ horizon) (hmodest : Sampler.Modest s.descriptor m) :
    FitsTurn b hal m h s t := by
  have hsensor := hsound.of_sensor? hs
  obtain ⟨u, hu, hchange⟩ := change_step hs b m
  rw [ht] at hu
  cases hu
  constructor
  case sums =>
    intro sum hsum
    exact fitsWord_of_nonneg (hbounded.sums_fit hsensor hclock hmodest sum hsum)
  case schedule => exact hchange.nextDue_mem
  case future => exact hchange.nextDue_not_past hsensor
  case loop =>
    intro hi hm hon hflows
    have hruns : (s.enabled && hal.measuring) = true := by rw [hon, hm]; rfl
    have hadvance : t = (s.advance b hal.measuring m.time (hal.signalFor b m.time h)).2.1 := by
      rw [step, hi] at ht
      dsimp only at ht
      rw [sensor?_advance, hs, Option.map_some] at ht
      exact (Option.some.inj ht).symm
    rw [generated_of_sensor? hs, Sampler.emittedIn, hi, hadvance]
    exact hbounded.inWords hsensor hclock hruns hflows

/-- The sensors of a catalog have schedules in words, and all reports do. -/
structure Confined (c : Catalog) (hal : Hal) : Prop where
  sound : hal.Sound
  sensors : ∀ h s, hal.sensor? h = some s → s.Bounded ∧ s.descriptor ∈ c
  reports : hal.ReportsFit

/-- With a clock up to the horizon and periods below it no sum is too great. -/
theorem Confined.sumsFit (h : hal.Confined c) (hclock : 0 ≤ m.time ∧ m.time ≤ horizon)
    (hmodest : ∀ d ∈ c, Sampler.Modest d m) : hal.SumsFit m := by
  intro sum hsum
  apply fitsWord_of_nonneg
  rcases mem_sums h.sound hsum with ⟨k, s, hs, hsum⟩ | ⟨rate, period, hrate, rfl⟩ |
    ⟨p, hp, q, hq, hsum⟩
  · obtain ⟨hbounded, hlisted⟩ := h.sensors k s hs
    exact hbounded.sums_fit (h.sound.of_sensor? hs) hclock (hmodest _ hlisted) sum hsum
  · exact sum_fits (period?_pos hrate) (period?_lt_horizon hrate) hclock
  · exact (h.reports p hp q hq).sums_fit hclock.2 hsum

theorem Confined.step (h : hal.Confined c) (b : Behaviour)
    (hclock : 0 ≤ m.time ∧ m.time ≤ horizon) (hmodest : ∀ d ∈ c, Sampler.Modest d m) :
    (hal.step b m).Confined c := by
  refine ⟨h.sound.step b m, fun k t ht => ?_, h.reports.step b hclock⟩
  obtain ⟨s, hs, hchange⟩ := exists_of_sensor?_step ht
  obtain ⟨hbounded, hlisted⟩ := h.sensors k s hs
  rw [hchange.descriptor]
  exact ⟨hbounded.change (h.sound.of_sensor? hs) hclock (hmodest _ hlisted) hchange, hlisted⟩

theorem ofCatalog_confined (c : Catalog) (signal : Signal) : (ofCatalog c signal).Confined c := by
  refine ⟨ofCatalog_sound c signal, fun h s hs => ?_, ofCatalog_reportsFit c signal⟩
  obtain ⟨d, hd, rfl⟩ := initial_of_sensor? hs
  exact ⟨Sampler.bounded_initial d, hd⟩

/-- In every run all turns fit, if clock values and requests do. -/
theorem Confined.throughout (h : hal.Confined c)
    (hclock : ∀ m ∈ ms, 0 ≤ m.time ∧ m.time ≤ horizon)
    (hmodest : ∀ m ∈ ms, ∀ d ∈ c, Sampler.Modest d m) :
    Throughout b SumsFit hal ms ∧
      Throughout b (fun hal m => ∀ h s t, hal.sensor? h = some s →
        (hal.step b m).sensor? h = some t → FitsTurn b hal m h s t) hal ms := by
  induction ms generalizing hal with
  | nil => exact ⟨trivial, trivial⟩
  | cons m rest ih =>
    have htime := hclock m List.mem_cons_self
    have hrequest := hmodest m List.mem_cons_self
    obtain ⟨hsums, hturns⟩ := ih (h.step b htime hrequest)
      (fun n hn => hclock n (List.mem_cons_of_mem m hn))
      fun n hn => hmodest n (List.mem_cons_of_mem m hn)
    refine ⟨⟨h.sumsFit htime hrequest, hsums⟩, fun k s t hs ht => ?_, hturns⟩
    obtain ⟨hbounded, hlisted⟩ := h.sensors k s hs
    exact fitsTurn h.sound hs ht hbounded htime (hrequest _ hlisted)

end Runs

/-- In every run from a fresh HAL of well-formed sensors, with clock values from zero to the
horizon and any requests, those apart that ask a sensor without a longest delay that reports on
change or in a mode of its own for a period from the horizon on: every sum that a turn forms
fits in 64 bits, so a HAL in words takes the whole run and is then where the exact one is; a
schedule changes only to such a sum and is not set to a time in the past, and the loop in words
takes the samples that are generated and ends at the time that is due next. -/
theorem schedule_in_words (c : Catalog) (hc : c.fault? = none) (signal : Signal) (b : Behaviour)
    {ms : List Turn} (hclock : ∀ m ∈ ms, 0 ≤ m.time ∧ m.time ≤ 0x4000000000000000)
    (hrequests : ∀ m ∈ ms, ∀ h period latency, m.input = .call (.batch h period latency) →
      ∀ d ∈ c, d.handle = h → d.mode = .onChange ∨ d.mode = .special → d.maxDelayNs = 0 →
        period < 0x4000000000000000) :
    Throughout b SumsFit (ofCatalog c signal) ms ∧
      (ofCatalog c signal).runInWords b ms = .ok ((ofCatalog c signal).run b ms) ∧
      Throughout b (fun hal m => ∀ h s t, hal.sensor? h = some s →
        (hal.step b m).sensor? h = some t → FitsTurn b hal m h s t) (ofCatalog c signal) ms := by
  have hmodest : ∀ m ∈ ms, ∀ d ∈ c, Sampler.Modest d m := by
    intro m hm d hd period latency hi hflows hmax
    have hadmitted := Descriptor.admitted_of_fault? (Catalog.fault?_eq_none hc d hd)
    exact hrequests m hm d.handle period latency hi d hd rfl
      (mode_of_admitted hadmitted hflows hmax) hmax
  obtain ⟨hsums, hturns⟩ := (ofCatalog_confined c signal).throughout hclock hmodest
  exact ⟨hsums, runInWords_of_fits hsums, hturns⟩

/-- A light sensor that reports on change, with no delays declared. -/
def freeLight : Descriptor :=
  Catalog.stockSensor 4 "Mock Light" .light 43000.0 1.0 0.1 (0, 0) (0, 0) (Flags.ofMode .onChange)

/-- The greatest clock value and the greatest period that are allowed make the greatest time. -/
theorem schedule_in_words_greatest :
    let ms : List Turn := [⟨0, .call (.batch freeLight.handle 0x3fffffffffffffff 0)⟩,
      ⟨0, .call (.activate freeLight.handle true)⟩, ⟨0x4000000000000000, .advance⟩,
      ⟨0x4000000000000000, .call (.activate freeLight.handle false)⟩,
      ⟨0x4000000000000000, .call (.activate freeLight.handle true)⟩]
    let hal := ofCatalog [freeLight] silence
    hal.runInWords {} ms = .ok (hal.run {} ms) ∧
      Throughout {} (fun hal m => ∀ h s t, hal.sensor? h = some s →
        (hal.step {} m).sensor? h = some t → FitsTurn {} hal m h s t) hal ms ∧
      (along {} (generated {} freeLight.handle) hal ms).map (·.time) = [0x3fffffffffffffff] ∧
      (hal.run {} ms).deadline? = some greatestTime := by
  intro ms hal
  have hvalid : Catalog.fault? [freeLight] = none :=
    Option.isNone_iff_eq_none.1 (by decide +kernel)
  have hclock : ∀ m ∈ ms, 0 ≤ m.time ∧ m.time ≤ 0x4000000000000000 := by decide
  have hrequests : ∀ m ∈ ms, ∀ h period latency, m.input = .call (.batch h period latency) →
      ∀ d ∈ [freeLight], d.handle = h → d.mode = .onChange ∨ d.mode = .special →
        d.maxDelayNs = 0 → period < 0x4000000000000000 := by
    -- one request is made, for the greatest period below the horizon
    intro m hm h period latency hi _ _ _ _ _
    simp only [ms, List.mem_cons, List.not_mem_nil, or_false] at hm
    rcases hm with rfl | rfl | rfl | rfl | rfl <;> cases hi
    decide
  obtain ⟨-, hwords, hturns⟩ :=
    schedule_in_words [freeLight] hvalid silence {} hclock hrequests
  exact ⟨hwords, hturns, by decide +kernel, by decide +kernel⟩

/-- Such a sensor may be asked for the greatest time as its period; it accepts, and the sum that
is formed once it is switched on at a clock value of one ends the run. -/
theorem period_out_of_words :
    let asked : Turn := ⟨0, .call (.batch freeLight.handle greatestTime 0)⟩
    let switched : Turn := ⟨1, .call (.activate freeLight.handle true)⟩
    let hal := ofCatalog [freeLight] silence
    Catalog.fault? [freeLight] = none ∧
      hal.runInWords {} [asked] = .ok (hal.step {} asked) ∧
      (hal.step {} asked).sums switched = [1 + greatestTime] ∧ ¬ FitsWord (1 + greatestTime) ∧
      hal.runInWords {} [asked, switched] = .error "attempt to add with overflow" := by
  intro asked switched hal
  have hasked : hal.sums asked = [] := by decide +kernel
  have hswitched : (hal.step {} asked).sums switched = [1 + greatestTime] := by decide +kernel
  have hlate : ¬ FitsWord (1 + greatestTime) := by decide
  have hfirst : hal.SumsFit asked := by
    rw [SumsFit, hasked]
    exact fun sum hsum => absurd hsum List.not_mem_nil
  refine ⟨Option.isNone_iff_eq_none.1 (by decide +kernel), runInWords_of_fits ⟨hfirst, trivial⟩,
    hswitched, hlate, runInWords_of_not_fits fun hfits => hlate ?_⟩
  exact hfits.2.1 _ (hswitched ▸ List.mem_singleton.2 rfl)

end SensorBench.Hal
