import SensorBench.Proofs.Hal.InPlace
import SensorBench.Proofs.Hal.Injecting
import SensorBench.Proofs.Hal.Spacing
import SensorBench.Proofs.Hal.Streaming

/-!
# Retuning a sensor that is on

A sensor that is given a period while it is on goes over to a grid of that period at once,
whatever its schedule was before: the first point lies after all samples taken so far and at
most one period ahead, also if the schedule was left behind while data was injected. The
invariant is `Sampler.OnGrid`, in which the next due time is never more than a period ahead
of the clock; this is also why the same request made again changes nothing
(`OnGrid.batch_again`). `retuned_grid` is the whole statement.
-/

set_option autoImplicit false

namespace SensorBench.Hal

/-- A turn that neither switches nor retunes the sensor of a handle. -/
def Turn.Spares (h : Handle) (m : Turn) : Prop :=
  match m.input with
  | .connect _ _ => False
  | .call (.activate k _) => k ≠ h
  | .call (.batch k _ _) => k ≠ h
  | _ => True

namespace Sampler

/-- A sensor that is on and takes its samples at the points of a grid: so many were taken, and
the next one is due at most a period after the clock. -/
structure OnGrid (start step held now : Int) (taken : Nat) (s : Sampler) : Prop where
  on : s.enabled = true
  flows : s.descriptor.isOneShot = false
  period : s.period = step
  latency : s.latency = held
  next : s.nextDue = start + step * taken
  near : s.nextDue ≤ now + step

section OnGrid

variable {start period latency now later : Int} {taken : Nat} {s t : Sampler}

theorem OnGrid.mono (h : s.OnGrid start period latency now taken) (hle : now ≤ later) :
    s.OnGrid start period latency later taken :=
  ⟨h.on, h.flows, h.period, h.latency, h.next, by have := h.near; omega⟩

/-- Whoever keeps the schedule of a sensor keeps it on its grid. -/
theorem OnGrid.of_same (h : s.OnGrid start period latency now taken) (hle : now ≤ later)
    (hd : t.descriptor = s.descriptor) (he : t.enabled = s.enabled) (hp : t.period = s.period)
    (hl : t.latency = s.latency) (hn : t.nextDue = s.nextDue) :
    t.OnGrid start period latency later taken where
  on := he.trans h.on
  flows := by
    rw [hd]
    exact h.flows
  period := hp.trans h.period
  latency := hl.trans h.latency
  next := hn.trans h.next
  near := by
    rw [hn]
    exact (h.mono hle).near

/-- The samples taken, and those that are due now, are all points up to the clock. -/
theorem OnGrid.lt_iff (h : s.OnGrid start period latency now taken) (hp : 0 < period) (k : Nat) :
    k < taken + dueCount s.nextDue period now ↔ start + period * k ≤ now := by
  have hnext := h.next
  have hnear := h.near
  rcases Nat.lt_or_ge k taken with hk | hk
  · -- a point before the next one lies at least a period before it
    have hmul : period * ((k : Int) + 1) ≤ period * (taken : Int) :=
      Int.mul_le_mul_of_nonneg_left (by omega) (by omega)
    rw [Int.mul_add, Int.mul_one] at hmul
    exact iff_of_true (by omega) (by omega)
  · obtain ⟨j, rfl⟩ := Nat.exists_eq_add_of_le hk
    have hpoint : start + period * ((taken + j : Nat) : Int) = s.nextDue + period * j := by
      rw [hnext]
      push_cast
      rw [Int.mul_add]
      omega
    rw [hpoint, ← lt_dueCount_iff hp s.nextDue now j]
    omega

/-- Advancing takes the samples that are due, if the HAL measures, and none otherwise. -/
theorem OnGrid.advance (h : s.OnGrid start period latency now taken) (hp : 0 < period)
    (hle : now ≤ later) (b : Behaviour) (measuring : Bool) (signal : Signal) :
    ∃ n, (s.emitted measuring later signal).map (·.time) = timesFrom s.nextDue period n ∧
      (s.advance b measuring later signal).2.1.OnGrid start period latency later
        (taken + n) := by
  obtain ⟨hd, hperiod, hlatency, -⟩ := advance_facts (s := s) b measuring later signal
  have hon := enabled_advance b measuring later signal h.flows
  cases measuring with
  | true =>
    have hm : (s.enabled && true) = true := by rw [h.on]; rfl
    obtain ⟨hnext, htimes, -⟩ := advance_grid b later signal hm h.flows
    rw [h.period] at hnext htimes
    refine ⟨dueCount s.nextDue period later, htimes, hon.trans h.on, hd ▸ h.flows,
      hperiod.trans h.period, hlatency.trans h.latency, ?_, ?_⟩
    · -- the schedule moves on by as many periods as samples are taken
      rw [hnext, dueAfter, h.next]
      push_cast
      rw [Int.mul_add]
      omega
    · rw [hnext]
      exact dueAfter_le hp (h.mono hle).near
  | false =>
    have hm : (s.enabled && false) = false := Bool.and_false _
    have hidle : ¬((s.enabled && false) = true ∧ s.descriptor.isOneShot = false) := by
      rw [hm]
      exact fun h => absurd h.1 Bool.false_ne_true
    have hnext := nextDue_advance b later signal hidle
    refine ⟨0, ?_, h.of_same hle hd hon hperiod hlatency hnext⟩
    rw [emitted_eq_nil s false later signal hm]
    rfl

/-- A turn that spares the sensor leaves it on its grid, with the next points taken. -/
theorem OnGrid.change {b : Behaviour} {measuring : Bool} {m : Turn} {signal : Signal}
    (h : s.OnGrid start period latency now taken) (hp : 0 < period) (hle : now ≤ m.time)
    (hm : m.Spares s.handle) (hc : Change b measuring m signal s t) :
    ∃ n, (s.emittedIn measuring m signal).map (·.time) = timesFrom s.nextDue period n ∧
      t.OnGrid start period latency m.time (taken + n) := by
  -- only the clock takes samples
  have hnone : m.input ≠ .advance →
      (s.emittedIn measuring m signal).map (·.time) = timesFrom s.nextDue period 0 := by
    intro hi
    rw [emittedIn_of_ne_advance hi]
    rfl
  cases hc with
  | passed hi =>
    refine ⟨0, hnone fun e => ?_, h.mono hle⟩
    rw [e] at hi
    exact hi
  | flushRequested hi =>
    exact ⟨0, hnone (by simp [hi]), h.of_same hle rfl rfl rfl rfl rfl⟩
  | advanced hi =>
    have hem : s.emittedIn measuring m signal = s.emitted measuring m.time signal := by
      rw [emittedIn, hi]
    rw [hem]
    exact h.advance hp hle b measuring signal
  -- the other changes come of turns that are about the sensor
  | disconnected queue isOpen hi =>
    rw [Turn.Spares, hi] at hm
    exact hm.elim
  | switchedOn hi =>
    rw [Turn.Spares, hi] at hm
    exact absurd rfl hm
  | switchedOff hi =>
    rw [Turn.Spares, hi] at hm
    exact absurd rfl hm
  | retuned requested latency hi =>
    rw [Turn.Spares, hi] at hm
    exact absurd rfl hm

/-- A sensor that is on goes over to a new grid when it is retuned. -/
theorem onGrid_retune (hon : s.enabled = true) (hflows : s.descriptor.isOneShot = false)
    (now requested latency : Int) :
    (s.retune now requested latency).release.OnGrid
      (min s.nextDue (now + periodFor s.descriptor requested))
      (periodFor s.descriptor requested) latency now 0 := by
  obtain ⟨hd, he, hp, hl, hn, -⟩ := release_facts (s.retune now requested latency)
  have hnext : (s.retune now requested latency).release.nextDue =
      min s.nextDue (now + periodFor s.descriptor requested) := by
    rw [hn]
    simp only [retune, hon, hflows, Bool.not_false, Bool.and_self, if_true]
  refine ⟨he.trans hon, ?_, hp, hl, ?_, ?_⟩
  · rw [hd]
    exact hflows
  · simpa using hnext
  · rw [hnext]
    exact Int.min_le_right _ _

/-- A sensor holds nothing that it may not hold back. -/
theorem Sound.released_eq_nil (hs : s.Sound) : s.released = [] := by
  rw [released]
  split
  · rfl
  · next hb => exact hs.buffer_of_not_batching (Bool.eq_false_iff.2 hb)

theorem Sound.release_self (hs : s.Sound) : s.release = s := by
  rw [release]
  split
  · next h =>
    rw [Bool.and_eq_true, Bool.not_eq_true', Bool.not_eq_true'] at h
    rw [hs.buffer_of_not_batching h.1] at h
    exact absurd h.2 (by decide)
  · rfl

/-- On its grid a sensor is tuned already. -/
theorem OnGrid.retune_self {requested : Int}
    (h : s.OnGrid start (periodFor s.descriptor requested) latency now taken) :
    s.retune now requested latency = s := by
  have hnext : min s.nextDue (now + periodFor s.descriptor requested) = s.nextDue :=
    Int.min_eq_left h.near
  have hruns : (s.enabled && !s.descriptor.isOneShot) = true := by
    rw [h.on, h.flows]
    rfl
  simp only [retune, hruns, if_true, hnext]
  rw [← h.period, ← h.latency]

end OnGrid

/-- The period for a request: raised to the least period and to a millisecond, then lowered to
the longest delay if there is one. -/
theorem periodFor_eq (d : Descriptor) (requested : Int) :
    periodFor d requested =
      let least := max d.minDelayNs 1000000
      if 0 < d.maxDelayNs then min (max requested least) (max d.maxDelayNs least)
      else max requested least := by
  have hnonneg : 0 ≤ d.maxDelayNs := by
    rw [Descriptor.maxDelayNs, Descriptor.delayNs]
    omega
  show (if d.maxDelayNs = 0 then _ else _) = _
  by_cases hmax : d.maxDelayNs = 0
  · rw [if_pos hmax, if_neg (by omega)]
    rfl
  · rw [if_neg hmax, if_pos (by omega)]
    rfl

end Sampler

section Runs

variable {b : Behaviour} {hal : Hal} {h : Handle} {s : Sampler} {ms : List Turn}
  {start period latency now later : Int} {taken : Nat}

/-- As long as it is spared a sensor stays on its grid, with the next points taken. -/
theorem onGrid_run (hsound : hal.Sound) (hs : hal.sensor? h = some s) (hp : 0 < period)
    (hgrid : s.OnGrid start period latency now taken) (hms : InOrder ms)
    (hturns : ∀ m ∈ ms, now ≤ m.time ∧ m.time ≤ later ∧ m.Spares h) (hle : now ≤ later) :
    ∃ t n, (hal.run b ms).sensor? h = some t ∧ t.descriptor = s.descriptor ∧
      t.OnGrid start period latency later (taken + n) ∧
      (along b (generated b h) hal ms).map (·.time) = timesFrom s.nextDue period n := by
  induction ms generalizing hal s now taken with
  | nil => exact ⟨s, 0, hs, rfl, hgrid.mono hle, rfl⟩
  | cons m rest ih =>
    obtain ⟨hnow, hlast, hspares⟩ := hturns m List.mem_cons_self
    obtain ⟨t, ht, hchange⟩ := change_step hs b m
    rw [← handle_of_sensor? hs] at hspares
    obtain ⟨i, htimes, hgrid'⟩ := hgrid.change hp hnow hspares hchange
    rw [← generated_of_sensor? hs b m] at htimes
    obtain ⟨u, j, hu, hd, hend, hrest⟩ := ih (hsound.step b m) ht hgrid'
      (List.pairwise_cons.1 hms).2
      (fun n hn => ⟨List.rel_of_pairwise_cons hms hn, (hturns n (List.mem_cons_of_mem m hn)).2⟩)
      hlast
    refine ⟨u, i + j, hu, hd.trans hchange.descriptor, Nat.add_assoc taken i j ▸ hend, ?_⟩
    -- the points of the rest follow those of this turn
    have hnext : t.nextDue = s.nextDue + period * i := by
      rw [hgrid'.next, hgrid.next]
      push_cast
      rw [Int.mul_add]
      omega
    show (generated b h hal m ++ along b (generated b h) (hal.step b m) rest).map _ = _
    rw [List.map_append, htimes, hrest, hnext, timesFrom_add]

/-- On its grid a sensor may be asked for the same once more, and nothing changes. -/
theorem Sound.batch_again {requested : Int} (hsound : hal.Sound) (hs : hal.sensor? h = some s)
    (hgrid : s.OnGrid start (Sampler.periodFor s.descriptor requested) latency now taken)
    (hrequested : 0 ≤ requested) (hlatency : 0 ≤ latency) :
    hal.batch now h requested latency = .ok hal := by
  have hsensor := hsound.of_sensor? hs
  rw [batch_eq hal now hs hrequested hlatency, hgrid.retune_self, hsensor.release_self,
    hsensor.released_eq_nil, hsound.setSensor_self hs, List.map_nil, List.append_nil]

/-- In an ordered run from a fresh HAL every sensor keeps its pace. -/
theorem paced_ofCatalog (c : Catalog) (signal : Signal) (b : Behaviour) (hms : InOrder ms)
    (hnow : ∀ m ∈ ms, m.time ≤ now) (hs : ((ofCatalog c signal).run b ms).sensor? h = some s)
    (hflows : s.descriptor.isOneShot = false) :
    s.Paced now (along b (generated b h) (ofCatalog c signal) ms) := by
  obtain ⟨start, hstart⟩ := hms.exists_le
  -- the sensor was there from the start
  have hkept := descriptor_run (ofCatalog c signal) b ms h
  rw [hs, Option.map_some] at hkept
  obtain ⟨fresh, hfresh, hd⟩ := Option.map_eq_some_iff.1 hkept.symm
  have hpaced : fresh.Paced (min start now) [] :=
    ⟨List.Pairwise.nil, fun e he => absurd he List.not_mem_nil,
      fun _ e he => absurd he List.not_mem_nil⟩
  have hlower : ∀ m ∈ ms, min start now ≤ m.time :=
    fun m hm => Int.le_trans (Int.min_le_left _ _) (hstart m hm)
  obtain ⟨t, last, ht, -, hlast, hpace⟩ := paced_run (b := b) (ofCatalog_sound c signal) hms
    hfresh (hd.symm ▸ hflows) hpaced hlower
  rw [hs] at ht
  cases ht
  refine Sampler.Paced.mono ?_ hpace
  rcases hlast with hlast | ⟨m, hm, hlast⟩
  · omega
  · exact hlast ▸ hnow m hm

end Runs

/-- In every ordered run from a fresh HAL, a sensor that is on and reports more than once goes
over to a grid when a request for a period is accepted at a clock value that the run has not
passed. The period is the requested one, raised to the shortest delay and to a millisecond and
lowered to the longest delay if there is one. The first point lies after all samples generated
so far and at most one period ahead. Until the sensor is switched or retuned, or a client
connects, the samples generated are the first points of the grid, and after any turn of the
clock in the normal mode all points that the clock has reached. The same request made once
more, at any later time, changes nothing. -/
theorem retuned_grid (c : Catalog) (signal : Signal) (b : Behaviour) {early : List Turn}
    (hearly : InOrder early) {now : Int} (hnow : ∀ m ∈ early, m.time ≤ now) {h : Handle}
    {s : Sampler} (hs : ((ofCatalog c signal).run b early).sensor? h = some s)
    (hon : s.enabled = true) (hflows : s.descriptor.isOneShot = false)
    {requested latency : Int} {next : Hal}
    (hbatch : ((ofCatalog c signal).run b early).batch now h requested latency = .ok next) :
    let least := max s.descriptor.minDelayNs 1000000
    let period := if 0 < s.descriptor.maxDelayNs then
      min (max requested least) (max s.descriptor.maxDelayNs least) else max requested least
    ∃ first : Int, (∀ e ∈ along b (generated b h) (ofCatalog c signal) early, e.time < first) ∧
      first ≤ now + period ∧
      ∀ (late : List Turn) (later : Int), InOrder late → now ≤ later →
        (∀ m ∈ late, now ≤ m.time ∧ m.time ≤ later ∧ m.Spares h) →
        (∃ n, (along b (generated b h) next late).map (·.time) =
          (List.range n).map fun k : Nat => first + period * k) ∧
        ((next.run b late).mode = .normal →
          ∃ n, (∀ k : Nat, k < n ↔ first + period * k ≤ later) ∧
            (along b (generated b h) next (late ++ [⟨later, .advance⟩])).map (·.time) =
              (List.range n).map fun k : Nat => first + period * k) ∧
        (next.run b late).batch later h requested latency = .ok (next.run b late) := by
  intro least period
  have hperiod : Sampler.periodFor s.descriptor requested = period :=
    Sampler.periodFor_eq s.descriptor requested
  have hleast := Sampler.leastPeriod_le_periodFor s.descriptor requested
  have hpos := Sampler.leastPeriod_pos s.descriptor
  obtain ⟨hrequested, hlatency⟩ : 0 ≤ requested ∧ 0 ≤ latency := by
    rw [batch] at hbatch
    split at hbatch
    · cases hbatch
    · omega
  -- the HAL and its sensor after the request
  have hnext := Except.ok.inj (hbatch.symm.trans (batch_eq _ now hs hrequested hlatency))
  have hstep : ((ofCatalog c signal).run b early).step b
      ⟨now, .call (.batch h requested latency)⟩ = next := by
    rw [step_batch _ b now hs hrequested hlatency, hnext]
  have hsound : next.Sound := hstep ▸ ((ofCatalog_sound c signal).run b early).step b _
  have hd : (s.retune now requested latency).release.descriptor = s.descriptor :=
    (Sampler.release_facts _).1
  have hsensor : next.sensor? h = some (s.retune now requested latency).release := by
    rw [hnext]
    have hh : (s.retune now requested latency).release.handle = h :=
      (congrArg Descriptor.handle hd).trans (handle_of_sensor? hs)
    exact sensor?_setSensor_self hs hh
  have hgrid := Sampler.onGrid_retune hon hflows now requested latency
  rw [hperiod] at hgrid hleast
  have hpositive : 0 < period := by omega
  refine ⟨min s.nextDue (now + period), fun e he => ?_, Int.min_le_right _ _, ?_⟩
  · have hpace := paced_ofCatalog c signal b hearly hnow hs hflows
    have hahead := hpace.ahead hon e he
    have hreached := hpace.reached e he
    omega
  intro late later hlate hle hturns
  obtain ⟨t, n, ht, hdt, hend, htimes⟩ :=
    onGrid_run (b := b) hsound hsensor hpositive hgrid hlate hturns hle
  have hstart := hgrid.next
  rw [Nat.zero_add] at hend
  rw [Int.natCast_zero, Int.mul_zero, Int.add_zero] at hstart
  rw [hstart] at htimes
  refine ⟨⟨n, htimes.trans (timesFrom_eq_map _ _ n)⟩, fun hmode => ?_, ?_⟩
  · -- the last turn takes the points that are due then
    have hmeasuring : (next.run b late).measuring = true := decide_eq_true hmode
    have hlast : (generated b h (next.run b late) ⟨later, .advance⟩).map (·.time) =
        timesFrom t.nextDue period (dueCount t.nextDue period later) := by
      rw [times_generated hmeasuring, Hal.dueIn, ht]
      show (if t.enabled then t.due later else []) = _
      rw [if_pos hend.on, Sampler.due, hend.flows, if_neg Bool.false_ne_true, hend.period]
      rfl
    refine ⟨n + dueCount t.nextDue period later, hend.lt_iff hpositive, ?_⟩
    rw [along_concat, List.map_append, htimes, hlast, hend.next, ← timesFrom_add,
      timesFrom_eq_map]
  · rw [← hperiod, ← (hdt.trans hd : t.descriptor = s.descriptor)] at hend
    exact (hsound.run b late).batch_again ht hend hrequested hlatency

/-- A barometer with a period of 10 ms whose schedule was left behind at 10 ms, because data
was injected until 45 ms. -/
def leftBehind : List Turn :=
  [⟨0, .call (.batch barometer.handle 10000000 0)⟩,
    ⟨0, .call (.activate barometer.handle true)⟩, ⟨5000000, .call (.mode .dataInjection)⟩,
    ⟨40000000, .advance⟩, ⟨45000000, .call (.mode .normal)⟩]

/-- Its new grid begins where the schedule was left. -/
theorem retuned_grid_left_behind :
    let hal := (ofCatalog [barometer] silence).run {} leftBehind
    let h := barometer.handle
    ∃ (next : Hal) (first : Int),
      hal.batch 45000000 h 20000000 0 = .ok next ∧ first ≤ 65000000 ∧
      (∃ n, (∀ k : Nat, k < n ↔ first + 20000000 * k ≤ 75000000) ∧
        (along {} (generated {} h) next [⟨75000000, .advance⟩]).map (·.time) =
          (List.range n).map fun k : Nat => first + 20000000 * k) ∧
      (along {} (generated {} h) next [⟨75000000, .advance⟩]).map (·.time) =
        [10000000, 30000000, 50000000, 70000000] ∧
      next.batch 75000000 h 20000000 0 = .ok next := by
  intro hal h
  have hsome : (hal.sensor? h).isSome = true := by decide +kernel
  obtain ⟨s, hs⟩ := Option.isSome_iff_exists.1 hsome
  have hon : s.enabled = true := by
    have hmap : (hal.sensor? h).map (·.enabled) = some true := by decide +kernel
    rw [hs] at hmap
    exact Option.some.inj hmap
  have hd : s.descriptor = barometer := by
    have hkept := descriptor_run (ofCatalog [barometer] silence) {} leftBehind h
    rw [show (ofCatalog [barometer] silence).run {} leftBehind = hal from rfl, hs] at hkept
    exact Option.some.inj hkept
  obtain ⟨next, hnext⟩ : ∃ next, hal.batch 45000000 h 20000000 0 = .ok next :=
    ⟨_, batch_eq hal 45000000 hs (by decide) (by decide)⟩
  have horder : InOrder leftBehind := by decide
  have hlast : ∀ m ∈ leftBehind, m.time ≤ 45000000 := by decide
  have hgrid := retuned_grid [barometer] silence {} horder hlast hs hon (by rw [hd]; decide) hnext
  have hperiod : (if 0 < s.descriptor.maxDelayNs then
      min (max 20000000 (max s.descriptor.minDelayNs 1000000))
        (max s.descriptor.maxDelayNs (max s.descriptor.minDelayNs 1000000))
      else max 20000000 (max s.descriptor.minDelayNs 1000000)) = 20000000 := by
    rw [hd]
    decide
  dsimp only at hgrid
  rw [hperiod] at hgrid
  obtain ⟨first, -, hle, hgrid⟩ := hgrid
  obtain ⟨-, hpoints, hagain⟩ := hgrid [] 75000000 List.Pairwise.nil (by decide)
    fun m hm => absurd hm List.not_mem_nil
  have hmode : next.mode = .normal := by
    have hkept : (hal.batch 45000000 h 20000000 0).toOption.map (·.mode) = some .normal := by
      decide +kernel
    rw [hnext] at hkept
    exact Option.some.inj hkept
  have htimes : (hal.batch 45000000 h 20000000 0).toOption.map (fun next =>
      (along {} (generated {} h) next [⟨75000000, .advance⟩]).map (·.time)) =
        some [10000000, 30000000, 50000000, 70000000] := by decide +kernel
  rw [hnext] at htimes
  exact ⟨next, first, hnext, hle, hpoints hmode, Option.some.inj htimes, hagain⟩

end SensorBench.Hal
