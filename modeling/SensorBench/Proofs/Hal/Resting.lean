import SensorBench.Proofs.Hal.Deadline
import SensorBench.Proofs.Hal.Faults
import SensorBench.Proofs.Hal.Holding

/-!
# Sensors at rest and accepted calls

A HAL that is idle and has no deadline has nothing to deliver and only sensors at rest
(`grounded_of_idle`). From there on a client changes one sensor at a time: a call that is accepted
replaces the state of its sensor (`perform_batch`, `perform_activate`, `perform_flush`), and a
step of time moves each sensor on its own (`forall_sensor?_advance`).
-/

set_option autoImplicit false

namespace SensorBench.Hal

/-- What is known of a reachable HAL as far as its deadlines go. -/
structure Punctual (hal : Hal) : Prop where
  sound : hal.Sound
  filling : ∀ s ∈ hal.sensors, s.Filling

section Punctual

variable {hal : Hal} {b : Behaviour}

theorem Punctual.filling_of_sensor? (h : hal.Punctual) {k : Handle} {s : Sampler}
    (hs : hal.sensor? k = some s) : s.Filling :=
  h.filling s (List.mem_of_find?_eq_some hs)

theorem Punctual.step (h : hal.Punctual) (b : Behaviour) (m : Turn) : (hal.step b m).Punctual := by
  have hnext := h.sound.step b m
  refine ⟨hnext, fun t ht => ?_⟩
  exact forall_sensor?_step (fun hchange hs => hs.change hchange)
    (fun k s => h.filling_of_sensor?) t.handle t (hnext.sensor?_of_mem ht)

theorem Punctual.perform (h : hal.Punctual) {now : Int} {c : Call} {v : Int} {next : Hal}
    (hok : hal.perform b now c = .ok (v, next)) : next.Punctual := by
  have hstep := h.step b ⟨now, .call c⟩
  rw [step_call, hok] at hstep
  exact hstep

theorem punctual_runAtFront (b : Behaviour) (c : Catalog) (signal : Signal) (ms : List Turn) :
    ((ofCatalog c signal).runAtFront b ms).Punctual := by
  refine runAtFront_keeps (fun _ m _ h => h.step b m) ⟨ofCatalog_sound c signal, fun s hs => ?_⟩
  obtain ⟨d, -, rfl⟩ := (ofCatalog_sensors c signal).2 s hs
  exact .of_empty rfl rfl

/-- A step of time with nothing due is none. -/
theorem Punctual.advance_of_notDue (h : hal.Punctual) {now : Int} (hnow : leastTime ≤ now)
    (hdue : NotDue now hal.deadline?) : hal.advance b now = ([], hal) :=
  Hal.advance_of_notDue h.filling hnow hdue

end Punctual

/-- A run changes nothing about what is listed. -/
theorem catalog_runAtFront (b : Behaviour) (c : Catalog) (signal : Signal) (ms : List Turn) :
    ((ofCatalog c signal).runAtFront b ms).catalog = (ofCatalog c signal).catalog := by
  have hkept : ((ofCatalog c signal).runAtFront b ms).Sound ∧
      ((ofCatalog c signal).runAtFront b ms).catalog = (ofCatalog c signal).catalog :=
    runAtFront_keeps (P := fun hal => hal.Sound ∧ hal.catalog = (ofCatalog c signal).catalog)
      (fun _ m _ h => ⟨h.1.step b m, (h.1.catalog_step b m).trans h.2⟩)
      ⟨ofCatalog_sound c signal, rfl⟩
  exact hkept.2

/-! ## Rest -/

/-- Nothing waits, nobody has a channel, and sensors measure. -/
structure Clear (hal : Hal) : Prop where
  waiting : hal.waiting = []
  channels : hal.channels = []
  measuring : hal.measuring = true

/-- The last event of a sensor. -/
def lastEvent? (hal : Hal) (h : Handle) : Option Event := (hal.sensor? h).bind (·.lastEvent)

namespace Sampler

/-- A sensor that is off and owes nothing. -/
structure Rests (s : Sampler) : Prop where
  off : s.enabled = false
  flushes : s.pendingFlushes = 0
  replay : s.replay = none

section Rests

variable {s : Sampler}

theorem Rests.deadline? (h : s.Rests) (measuring : Bool) : s.deadline? measuring = none := by
  rw [Sampler.deadline?, h.flushes, h.replay, h.off]
  rfl

theorem Rests.notDue (h : s.Rests) (now : Int) (measuring : Bool) :
    NotDue now (s.deadline? measuring) := by
  rw [h.deadline?]
  exact notDue_none now

theorem Rests.buffer (h : s.Rests) (hs : s.Sound) : s.buffer = [] := by
  by_contra hne
  exact Bool.false_ne_true (h.off.symm.trans (hs.holding hne).1)

theorem Rests.advance (h : s.Rests) (hfilling : s.Filling) {now : Int} (hnow : leastTime ≤ now)
    (b : Behaviour) (measuring : Bool) (signal : Signal) :
    s.advance b measuring now signal = ([], s, signal) :=
  advance_of_notDue hfilling hnow (h.notDue now measuring) b signal

theorem Rests.retune (h : s.Rests) (now period latency : Int) :
    (s.retune now period latency).Rests :=
  ⟨h.off, h.flushes, h.replay⟩

/-- The first sample of a sensor that reports more than once comes one period after the switch. -/
theorem nextDue_switchOn (hflows : s.descriptor.isOneShot = false) (b : Behaviour) (start : Int) :
    (s.switchOn b start).nextDue = start + s.period := by
  show start + (if s.descriptor.isOneShot then oneShotDelay else s.period) = _
  rw [hflows, if_neg Bool.false_ne_true]

/-- A sensor with nothing due now rests once it is off. -/
theorem rests_of_notDue {now : Int} (hnow : leastTime ≤ now) {measuring : Bool}
    (hdue : NotDue now (s.deadline? measuring)) (hoff : s.enabled = false) : s.Rests := by
  obtain ⟨hflushes, hreplay, -⟩ := notDue_facts hnow hdue
  exact ⟨hoff, hflushes, hreplay⟩

end Rests

end Sampler

section Sensors

variable {hal : Hal} {b : Behaviour} {now : Int}

/-- Nothing is due in a clear HAL if nothing is due in its sensors. -/
theorem Clear.notDue_iff (h : hal.Clear) (hsound : hal.Sound) (hnow : leastTime ≤ now) :
    NotDue now hal.deadline? ↔
      ∀ k s, hal.sensor? k = some s → NotDue now (s.deadline? true) := by
  rw [Hal.notDue_iff hnow, h.channels, h.measuring]
  constructor
  · exact fun hdue k s hs => hdue.2.1 s (List.mem_of_find?_eq_some hs)
  · intro hdue
    refine ⟨h.waiting, fun s hs => hdue s.handle s (hsound.sensor?_of_mem hs), fun p hp => ?_⟩
    exact absurd hp List.not_mem_nil

theorem Clear.advance (h : hal.Clear) (b : Behaviour) (now : Int) :
    (hal.advance b now).2.Clear := by
  refine ⟨rfl, ?_, h.measuring⟩
  show (advanceChannels now _ hal.memory hal.channels).1 = []
  rw [h.channels]
  rfl

theorem Clear.setSensor (h : hal.Clear) (s : Sampler) : (hal.setSensor s).Clear :=
  ⟨h.waiting, h.channels, h.measuring⟩

/-- With nothing due, nothing is due after a sensor was replaced by one with nothing due. -/
theorem notDue_setSensor (hnow : leastTime ≤ now) (hdue : NotDue now hal.deadline?) {t : Sampler}
    (ht : NotDue now (t.deadline? hal.measuring)) : NotDue now (hal.setSensor t).deadline? := by
  rw [Hal.notDue_iff hnow] at hdue ⊢
  refine ⟨hdue.1, fun u hu => ?_, hdue.2.2⟩
  obtain ⟨s, hs, rfl⟩ := List.mem_map.1 hu
  split
  · exact ht
  · exact hdue.2.1 s hs

/-- A HAL with a certain catalog in which all sensors rest and nothing waits. -/
structure Grounded (catalog : Catalog) (hal : Hal) : Prop where
  clear : hal.Clear
  listed : hal.catalog = catalog
  rests : ∀ k s, hal.sensor? k = some s → s.Rests

theorem Grounded.notDue {catalog : Catalog} (h : Grounded catalog hal) (hsound : hal.Sound)
    (hnow : leastTime ≤ now) : NotDue now hal.deadline? :=
  (h.clear.notDue_iff hsound hnow).2 fun k s hs => (h.rests k s hs).notDue now true

/-- A sensor has its least period and a certain report latency. -/
def Tuned (d : Descriptor) (latency : Int) (hal : Hal) : Prop :=
  ∃ s, hal.sensor? d.handle = some s ∧ s.descriptor = d ∧
    s.period = Sampler.leastPeriod d ∧ s.latency = latency

/-- An idle HAL with no deadline is at rest. -/
theorem grounded_of_idle (hsound : hal.Sound) (hidle : hal.Idle)
    (hdeadline : hal.deadline? = none) : Grounded hal.catalog hal := by
  have hnow : leastTime ≤ (0 : Int) := by decide
  have hdue : NotDue 0 hal.deadline? := by
    rw [hdeadline]
    exact notDue_none 0
  obtain ⟨hwaiting, hsensors, -⟩ := (Hal.notDue_iff hnow).1 hdue
  have hclear : hal.Clear := ⟨hwaiting, hidle.channels, by rw [Hal.measuring, hidle.mode]; rfl⟩
  refine ⟨hclear, rfl, fun k s hs => ?_⟩
  have hmem := List.mem_of_find?_eq_some hs
  refine Sampler.rests_of_notDue hnow (hsensors s hmem) ?_
  by_contra hon
  exact (idle_iff hsound).1 hidle (.sensor k) ⟨s, hs, Bool.not_eq_false _ ▸ hon⟩

/-- A step of time does to each sensor what it does to that sensor alone. -/
theorem forall_sensor?_advance {A : Handle → Sampler → Prop} (h : hal.Clear)
    (hadvance : ∀ k s, hal.sensor? k = some s →
      A k (s.advance b true now (hal.signalFor b now k)).2.1) :
    ∀ k t, (hal.advance b now).2.sensor? k = some t → A k t := by
  intro k t ht
  rw [sensor?_advance, Option.map_eq_some_iff] at ht
  obtain ⟨s, hs, rfl⟩ := ht
  rw [h.measuring]
  exact hadvance k s hs

/-- A sensor replaced, and all others as they were. -/
theorem forall_sensor?_setSensor {A : Handle → Sampler → Prop} {k : Handle} {s t : Sampler}
    (hs : hal.sensor? k = some s) (ht : t.handle = s.handle) (hself : A k t)
    (hothers : ∀ j u, j ≠ k → hal.sensor? j = some u → A j u) :
    ∀ j u, (hal.setSensor t).sensor? j = some u → A j u := by
  have hk : t.handle = k := ht.trans (handle_of_sensor? hs)
  intro j u hu
  by_cases hj : j = k
  · subst hj
    rw [sensor?_setSensor_self hs hk] at hu
    cases hu
    exact hself
  · rw [sensor?_setSensor_other fun e => hj (e.symm.trans hk)] at hu
    exact hothers j u hj hu

/-- A sensor replaced by one with the same last event. -/
theorem lastEvent?_setSensor {k : Handle} {s t : Sampler} (hs : hal.sensor? k = some s)
    (ht : t.handle = s.handle) (hlast : t.lastEvent = s.lastEvent) :
    (hal.setSensor t).lastEvent? = hal.lastEvent? := by
  have hk : t.handle = k := ht.trans (handle_of_sensor? hs)
  funext j
  rw [lastEvent?, lastEvent?]
  by_cases hj : t.handle = j
  · rw [← hj, hk, sensor?_setSensor_self hs hk, hs]
    exact hlast
  · rw [sensor?_setSensor_other hj]

/-! ## Listed sensors -/

theorem mem_of_sensor? {catalog : Catalog} (hlisted : hal.catalog = catalog) {k : Handle}
    {s : Sampler} (hs : hal.sensor? k = some s) : s.descriptor ∈ catalog := by
  rw [← hlisted]
  exact List.mem_map_of_mem (List.mem_of_find?_eq_some hs)

/-- Every listed sensor is there. -/
theorem sensor?_of_listed {catalog : Catalog} (hsound : hal.Sound) (hlisted : hal.catalog = catalog)
    {d : Descriptor} (hd : d ∈ catalog) :
    ∃ s, hal.sensor? d.handle = some s ∧ s.descriptor = d := by
  rw [← hlisted] at hd
  obtain ⟨s, hs, rfl⟩ := List.mem_map.1 hd
  exact ⟨s, hsound.sensor?_of_mem hs, rfl⟩

theorem catalog_setSensor (hsound : hal.Sound) {k : Handle} {s t : Sampler}
    (hs : hal.sensor? k = some s) (ht : t.descriptor = s.descriptor) :
    (hal.setSensor t).catalog = hal.catalog := by
  rw [catalog, setSensor, List.map_map]
  refine List.map_congr_left fun u hu => ?_
  show (if u.handle = t.handle then t else u).descriptor = u.descriptor
  split
  · next hhandle =>
    -- there is one sensor with the handle
    have hsame : u.handle = k :=
      (hhandle.trans (congrArg Descriptor.handle ht)).trans (handle_of_sensor? hs)
    have hu' := hsound.sensor?_of_mem hu
    rw [hsame, hs] at hu'
    cases hu'
    exact ht
  · rfl

/-- A HAL lists no handle twice. -/
theorem Sound.nodup_catalog (hsound : hal.Sound) : (hal.catalog.map (·.handle)).Nodup := by
  rw [catalog, List.map_map]
  refine hsound.sorted.imp fun {h k} hlt heq => ?_
  rw [heq] at hlt
  exact Int.lt_irrefl _ hlt

/-! ## Accepted calls -/

variable (b now) {k : Handle} {s : Sampler}

theorem perform_batch (hs : hal.sensor? k = some s) (hbuffer : s.buffer = []) {period latency : Int}
    (hperiod : 0 ≤ period) (hlatency : 0 ≤ latency) :
    hal.perform b now (.batch k period latency) =
      .ok (0, hal.setSensor (s.retune now period latency)) := by
  have hempty : (s.retune now period latency).buffer = [] := hbuffer
  rw [perform, batch, if_neg (by omega), hs]
  dsimp only
  rw [hempty, List.isEmpty_nil, Bool.not_true, Bool.and_false, if_neg Bool.false_ne_true]
  rfl

theorem perform_switchOn (hs : hal.sensor? k = some s) (hoff : s.enabled = false) :
    hal.perform b now (.activate k true) = .ok (0, hal.setSensor (s.switchOn b now)) := by
  rw [perform, activate, hs]
  dsimp only
  rw [hoff]
  rfl

theorem perform_switchOff (hs : hal.sensor? k = some s) (hon : s.enabled = true) :
    hal.perform b now (.activate k false) = .ok (0, hal.setSensor s.switchOff) := by
  rw [perform, activate, hs]
  dsimp only
  rw [hon]
  rfl

theorem perform_flush (hs : hal.sensor? k = some s) (hon : s.enabled = true)
    (hone : s.descriptor.isOneShot = false) :
    hal.perform b now (.flush k) = .ok (0, hal.setSensor s.requestFlush) := by
  rw [perform, flush, hs]
  dsimp only
  rw [hon, hone]
  rfl

end Sensors

end SensorBench.Hal
