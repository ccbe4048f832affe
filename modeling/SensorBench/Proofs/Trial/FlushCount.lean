import SensorBench.Proofs.Bench.Rig
import SensorBench.Proofs.Suite.Service

/-!
# Flushes and the markers counted

From the registration of a collector on, the markers that it has counted for a sensor and
those still owed are what the flushes accepted since then bring (`Counting`). Deliveries
keep this balance (`Counting.steady`), as do all calls that neither flush nor inject
(`Counting.call`), and a flush of a sensor that is on is accepted and counted
(`Counting.flush`).
-/

set_option autoImplicit false

namespace SensorBench.Trial

open Hal (Turn Unmarked flushesIn markersOf)
open Hal.Sampler (markerCount)
open Bench (Rig)

/-- A HAL in order with its clients: it lists certain sensors, no marker waits in it, and
the session under test reads its queue. -/
structure Fit (catalog : Catalog) (hal : Hal) (hub : Hub) : Prop where
  sound : hal.Sound
  unmarked : hal.Unmarked
  listed : hal.catalog = catalog
  attended : hal.queue.bind hub.readerOf? = some 0

/-- No marker is owed. -/
structure Settled (b : Behaviour) (catalog : Catalog) (hal : Hal) (hub : Hub) : Prop
    extends Fit catalog hal hub where
  settled : ∀ h, hal.pending h * markerCount b 1 = 0

/-- Since some flushes have been accepted, the markers that they bring have been counted by
a registered collector or are still owed. -/
structure Counting (b : Behaviour) (catalog : Catalog) (collector : Nat)
    (flushed : List Handle) (hal : Hal) (hub : Hub) : Prop extends Fit catalog hal hub where
  registered : hub.sink? 0 = some collector
  inRange : collector < hub.collectors.size
  balance : ∀ h, (hub.collector collector).flushCount h + hal.pending h * markerCount b 1 =
    flushed.count h * markerCount b 1

/-- The sensor is on and reports more than once. -/
def IsOn (h : Handle) (hal : Hal) : Prop :=
  ∃ s, hal.sensor? h = some s ∧ s.descriptor.isOneShot = false ∧ s.enabled = true

/-- The call neither flushes nor injects. -/
def LeavesFlushes : Call → Prop
  | .flush _ | .inject _ => False
  | _ => True

/-- The flushes of some sensors, each flushed the same number of times. -/
def flushesOf (n : Nat) (sensors : Catalog) : List Handle :=
  sensors.flatMap fun d => List.replicate n d.handle

section Turns

variable {b : Behaviour} {catalog : Catalog} {collector : Nat} {flushed : List Handle}
  {hal : Hal} {hub : Hub} {m : Turn}

theorem Fit.turn (h : Fit catalog hal hub) (b : Behaviour) (hinject : m.InjectsNoMarker)
    (hconnects : m.connects = false) : Fit catalog (hal.step b m) hub where
  sound := h.sound.step b m
  unmarked := h.unmarked.step h.sound b hinject
  listed := (h.sound.catalog_step b m).trans h.listed
  attended := by
    have hqueue : (hal.step b m).queue = hal.queue := by
      have hstep := congrArg Prod.snd (Hal.mode_queue_step hal b m)
      obtain ⟨now, input⟩ := m
      cases input with
      | connect => cases hconnects
      | call c => cases c <;> exact hstep
      | _ => exact hstep
    rw [hqueue]
    exact h.attended

/-- The listed sensors are there. -/
theorem Fit.sensor (h : Fit catalog hal hub) {d : Descriptor} (hd : d ∈ catalog) :
    ∃ s, hal.sensor? d.handle = some s ∧ s.descriptor = d := by
  rw [← h.listed] at hd
  obtain ⟨s, hs, rfl⟩ := List.mem_map.1 hd
  exact ⟨s, h.sound.sensor?_of_mem hs, rfl⟩

/-- No two listed sensors have one handle. -/
theorem Fit.distinct (h : Fit catalog hal hub) : (catalog.map (·.handle)).Nodup := by
  rw [← h.listed, Hal.catalog, List.map_map]
  refine h.sound.sorted.imp fun hlt heq => ?_
  rw [heq] at hlt
  exact absurd hlt (Int.lt_irrefl _)

theorem Fit.withHub {hub' : Hub} (h : Fit catalog hal hub)
    (hreaders : ∀ queue, hub'.readerOf? queue = hub.readerOf? queue) : Fit catalog hal hub' :=
  ⟨h.sound, h.unmarked, h.listed, (congrArg _ (funext hreaders)).trans h.attended⟩

/-- A collector registered where nothing is owed has all before it. -/
theorem Settled.subscribe (h : Settled b catalog hal hub) :
    Counting b catalog hub.newCollector.1 [] hal
      (hub.newCollector.2.register 0 hub.newCollector.1) := by
  obtain ⟨queue, -, hreader⟩ := Option.bind_eq_some_iff.1 h.attended
  have hsession : 0 < hub.newCollector.2.sessions.size := Hub.lt_of_readerOf? hub queue hreader
  -- the new collector comes last, and the session under test is there to register it
  have hsize : hub.newCollector.1 < hub.newCollector.2.collectors.size := by
    rw [Hub.newCollector, Array.size_push]
    exact Nat.lt_succ_self _
  refine ⟨h.toFit.withHub fun queue => ?_, Hub.sink?_register _ hsession _, hsize, fun k => ?_⟩
  · refine Hub.readerOf?_modify hub.newCollector.2 queue ?_ 0
    exact fun _ => rfl
  · have hempty : (hub.newCollector.2.register 0 hub.newCollector.1).collector
        hub.newCollector.1 = .empty := Hub.collector_newCollector hub
    rw [hempty, h.settled k, List.count_nil, Nat.zero_mul]
    rfl

/-- No collector is needed where nothing is owed. -/
theorem Settled.unsubscribe (h : Settled b catalog hal hub) :
    Settled b catalog hal (hub.unregister 0) := by
  refine ⟨h.toFit.withHub fun queue => ?_, h.settled⟩
  refine Hub.readerOf?_modify hub queue ?_ 0
  exact fun _ => rfl

/-- A turn moves markers from those owed to those delivered, and adds the flushes that it
gets accepted. -/
theorem Counting.markers_turn (h : Counting b catalog collector flushed hal hub)
    (hconnects : m.connects = false) (k : Handle) :
    (hub.collector collector).flushCount k + (markersOf k (hal.items b m)).length +
        (hal.step b m).pending k * markerCount b 1 =
      (flushed.count k + (flushesIn k hal m).length) * markerCount b 1 := by
  have hbalance := h.balance k
  -- what the turn delivers and what stays owed is what was owed and what it adds
  have hstep := Hal.markers_step (h := k) h.sound h.unmarked b hconnects
  rw [Nat.add_mul] at hstep ⊢
  omega

theorem LeavesFlushes.injectsNoMarker {c : Call} (hc : LeavesFlushes c) (now : Int) :
    (⟨now, .call c⟩ : Turn).InjectsNoMarker := by
  intro e he
  cases he
  exact hc.elim

/-- A call that neither flushes nor injects keeps the balance. -/
theorem Counting.call (h : Counting b catalog collector flushed hal hub) {c : Call}
    (hc : LeavesFlushes c) (now : Int) :
    Counting b catalog collector flushed (hal.stepAtFront b ⟨now, .call c⟩) hub := by
  refine Hal.stepAtFront_keeps (P := fun hal => Counting b catalog collector flushed hal hub) h ?_
  refine ⟨h.toFit.turn b (hc.injectsNoMarker now) rfl, h.registered, h.inRange, fun k => ?_⟩
  have hflushes : flushesIn k hal ⟨now, .call c⟩ = [] := by
    cases c with
    | flush => exact hc.elim
    | _ => rfl
  have hmarkers := h.markers_turn (m := ⟨now, .call c⟩) rfl k
  rw [hflushes] at hmarkers
  exact hmarkers

/-- A sensor that reports more than once stays on until it is switched off or a client
connects. -/
theorem IsOn.turn {k : Handle} (h : IsOn k hal) (b : Behaviour) (hconnects : m.connects = false)
    (hoff : m.input ≠ .call (.activate k false)) : IsOn k (hal.step b m) := by
  obtain ⟨s, hs, hone, hon⟩ := h
  obtain ⟨t, ht, hchange⟩ := Hal.change_step hs b m
  refine ⟨t, ht, (congrArg Descriptor.isOneShot hchange.descriptor).trans hone, ?_⟩
  have hh := Hal.handle_of_sensor? hs
  cases hchange with
  | passed => exact hon
  | disconnected queue isOpen hi =>
    rw [Turn.connects, hi] at hconnects
    cases hconnects
  | switchedOn => rfl
  | switchedOff hi =>
    rw [hh] at hi
    exact absurd hi hoff
  | retuned period latency => exact (Hal.Sampler.release_facts _).2.1.trans hon
  | flushRequested => exact hon
  | advanced => exact (Hal.Sampler.enabled_advance b _ _ _ hone).trans hon

/-- A listed sensor that reports more than once is on after it is switched on. -/
theorem Fit.isOn_activate (h : Fit catalog hal hub) {d : Descriptor} (hd : d ∈ catalog)
    (hone : d.isOneShot = false) (b : Behaviour) (now : Int) :
    IsOn d.handle (hal.stepAtFront b ⟨now, .call (.activate d.handle true)⟩) := by
  obtain ⟨s, hs, rfl⟩ := h.sensor hd
  have hh := Hal.handle_of_sensor? hs
  show IsOn _ (hal.afterCall (hal.performAtFront b now _))
  rw [Hal.afterCall_passed (Or.inl fun _ _ _ => Call.noConfusion), Hal.step_activate hal b now hs]
  split
  · next hon => exact ⟨s, hs, hone, hon⟩
  · exact ⟨s.switchOn b now, Hal.sensor?_setSensor_self hs hh, hone, rfl⟩

/-- A flush of a sensor that is on is accepted, its markers are owed from then on, and the
sensor stays on. -/
theorem Counting.flush (h : Counting b catalog collector flushed hal hub) {k : Handle}
    (hon : IsOn k hal) (now : Int) :
    hal.reply b now (.flush k) = .ok 0 ∧
      Counting b catalog collector (flushed ++ [k])
        (hal.stepAtFront b ⟨now, .call (.flush k)⟩) hub ∧
      IsOn k (hal.stepAtFront b ⟨now, .call (.flush k)⟩) := by
  have hstep : hal.stepAtFront b ⟨now, .call (.flush k)⟩ = hal.step b ⟨now, .call (.flush k)⟩ :=
    Hal.afterCall_passed (Or.inl fun _ _ _ => Call.noConfusion) hal now
  have hstays := hon.turn (m := ⟨now, .call (.flush k)⟩) b rfl (by simp)
  obtain ⟨s, hs, hone, henabled⟩ := hon
  have haccepted : hal.flush k = .ok (hal.setSensor s.requestFlush) := by
    simp [Hal.flush, hs, hone, henabled]
  rw [hstep]
  refine ⟨?_, ⟨h.toFit.turn b (by rintro e ⟨⟩) rfl, h.registered, h.inRange, fun j => ?_⟩, hstays⟩
  · rw [Hal.reply, Hal.performAtFront_passed (Or.inl fun _ _ _ => Call.noConfusion), Hal.perform,
      haccepted]
    rfl
  · have hflushes : (flushesIn j hal ⟨now, .call (.flush k)⟩).length = [k].count j := by
      by_cases hk : k = j
      · subst hk
        rw [Hal.flushesIn_of_sensor? hs, if_pos ⟨rfl, hone, henabled⟩]
        simp
      · simp [flushesIn, hk]
    have hmarkers := h.markers_turn (m := ⟨now, .call (.flush k)⟩) rfl j
    rw [List.count_append, ← hflushes]
    exact hmarkers

end Turns

/-! ## Deliveries -/

section Deliveries

variable {b : Behaviour} {catalog : Catalog} {collector : Nat} {flushed : List Handle}

theorem markersFor_map (h : Handle) (items : List Hal.Item) :
    Collector.markersFor h (items.map (·.event)) = (markersOf h items).length := by
  rw [Collector.markersFor, List.countP_map, markersOf, Hal.itemsOf, List.filter_filter,
    List.countP_eq_length_filter]
  rfl

/-- What a delivery does to the clients of a HAL in order. -/
theorem Fit.deliver_hub {x : Rig} (h : Fit catalog x.hal x.hub) (b : Behaviour) (now : Int) :
    (x.deliver b now).hub = x.hub ∧ (x.hal.advance b now).1 = [] ∨
      (x.deliver b now).hub = x.hub.dispatch 0 ((x.hal.advance b now).1.map (·.event)) := by
  have hhub := Rig.deliver_hub h.attended b now
  dsimp only at hhub
  split at hhub
  · next hempty => exact Or.inl ⟨hhub, List.isEmpty_iff.1 hempty⟩
  · exact Or.inr hhub

/-- What every dispatch keeps of the clients, a delivery keeps. -/
theorem Fit.deliver_keeps {x : Rig} (h : Fit catalog x.hal x.hub) (b : Behaviour) (now : Int)
    {Q : Hub → Prop} (hQ : Q x.hub) (hdispatch : ∀ events, Q (x.hub.dispatch 0 events)) :
    Q (x.deliver b now).hub := by
  rcases h.deliver_hub b now with ⟨hhub, -⟩ | hhub
  · exact hhub ▸ hQ
  · exact hhub ▸ hdispatch _

theorem Fit.deliver {x : Rig} (h : Fit catalog x.hal x.hub) (b : Behaviour) (now : Int) :
    Fit catalog (x.deliver b now).hal (x.deliver b now).hub := by
  refine (h.turn (m := ⟨now, .advance⟩) b (fun _ he => nomatch he) rfl).withHub fun queue => ?_
  refine h.deliver_keeps b now (Q := fun hub => hub.readerOf? queue = x.hub.readerOf? queue) rfl
    fun events => ?_
  rw [Hub.readerOf?_dispatch]

/-- A delivery hands the markers of its batch to the registered collector. -/
theorem Counting.flushCount_deliver {x : Rig}
    (h : Counting b catalog collector flushed x.hal x.hub) (now : Int) (k : Handle) :
    ((x.deliver b now).hub.collector collector).flushCount k =
      (x.hub.collector collector).flushCount k +
        (markersOf k (x.hal.advance b now).1).length := by
  rcases h.toFit.deliver_hub b now with ⟨hhub, hnone⟩ | hhub
  · rw [hhub, hnone]
    rfl
  · rw [hhub, Hub.collector_dispatch x.hub h.registered h.inRange, Collector.flushCount_deliver,
      markersFor_map]

/-- Deliveries keep the balance: what is no longer owed has been counted. -/
theorem Counting.steady : Rig.Steady b (Counting b catalog collector flushed) := by
  intro x now h
  refine ⟨h.toFit.deliver b now, ?registered, ?inRange, fun k => ?balance⟩
  case registered =>
    refine h.toFit.deliver_keeps b now (Q := fun hub => hub.sink? 0 = some collector) h.registered
      fun events => ?_
    rw [Hub.sink?_dispatch]
    exact h.registered
  case inRange =>
    refine h.toFit.deliver_keeps b now (Q := fun hub => collector < hub.collectors.size) h.inRange
      fun events => ?_
    rw [Hub.size_collectors_dispatch]
    exact h.inRange
  case balance =>
    rw [h.flushCount_deliver now k]
    exact h.markers_turn (m := ⟨now, .advance⟩) rfl k

/-- Where nothing is owed, a delivery leaves it so. -/
theorem Settled.steady : Rig.Steady b (Settled b catalog) := by
  intro x now h
  refine ⟨h.toFit.deliver b now, fun k => ?_⟩
  have hstep : (x.hal.pending k + 0) * markerCount b 1 =
      (markersOf k (x.hal.advance b now).1).length + _ :=
    Hal.markers_step h.sound h.unmarked b (m := ⟨now, .advance⟩) rfl
  rw [Nat.add_zero, h.settled k] at hstep
  exact (Nat.add_eq_zero_iff.1 hstep.symm).2

theorem IsOn.steady (k : Handle) : Rig.Steady b fun hal _ => IsOn k hal :=
  fun _ now h => h.turn (m := ⟨now, .advance⟩) b rfl Hal.Input.noConfusion

end Deliveries

/-! ## The end of a wait -/

theorem count_flushesOf (n : Nat) {sensors : Catalog}
    (hdistinct : (sensors.map (·.handle)).Nodup) (k : Handle) :
    (flushesOf n sensors).count k = if k ∈ sensors.map (·.handle) then n else 0 := by
  induction sensors with
  | nil => rfl
  | cons d rest ih =>
    rw [List.map_cons, List.nodup_cons] at hdistinct
    have hrest : (flushesOf n rest).count k = _ := ih hdistinct.2
    rw [flushesOf, List.flatMap_cons, List.count_append, List.count_replicate]
    rw [flushesOf] at hrest
    rw [hrest, List.map_cons]
    by_cases hk : d.handle = k
    · subst hk
      simp [hdistinct.1]
    · simp [hk, Ne.symm hk]

section Waits

variable {b : Behaviour} {catalog : Catalog} {collector : Nat} {flushed : List Handle}
  {hal : Hal} {hub : Hub}

/-- Where nothing is owed, all markers have been counted. -/
theorem Counting.flushCount_eq (h : Counting b catalog collector flushed hal hub)
    (hsettled : Settled b catalog hal hub) (k : Handle) :
    (hub.collector collector).flushCount k = flushed.count k * markerCount b 1 := by
  have hbalance := h.balance k
  rw [hsettled.settled k] at hbalance
  exact hbalance

/-- After a wait for as many markers as there were flushes nothing is owed, if it went well
or no flush is unanswered. The markers of a flush come at once, so one flush is answered
where one marker is seen. -/
theorem Counting.settled_of_wait (h : Counting b catalog collector flushed hal hub)
    {handles : List Handle} {n : Nat}
    (hflushed : ∀ k, flushed.count k = if k ∈ handles then n else 0)
    (hexact : n = 1 ∨ markerCount b 1 = 1)
    (hdone : (hub.collector collector).hasFlushes handles n = true ∨ ∀ k, hal.pending k = 0) :
    Settled b catalog hal hub := by
  refine ⟨h.toFit, fun k => ?_⟩
  rcases hdone with hdone | hnone
  · have hbalance := h.balance k
    rw [hflushed k] at hbalance
    by_cases hk : k ∈ handles
    -- a sensor that was waited for has its markers, any other was not flushed
    · have hseen : n ≤ (hub.collector collector).flushCount k := by
        simpa using List.all_eq_true.1 hdone k hk
      rw [if_pos hk] at hbalance
      rcases hexact with rfl | hone
      -- one flush still owed would leave no marker to be seen
      · rcases Nat.eq_zero_or_pos (hal.pending k) with hzero | hpos
        · rw [hzero, Nat.zero_mul]
        · have hall : markerCount b 1 ≤ hal.pending k * markerCount b 1 :=
            Nat.le_mul_of_pos_left _ hpos
          omega
      · rw [hone] at hbalance ⊢
        omega
    · rw [if_neg hk, Nat.zero_mul] at hbalance
      exact (Nat.add_eq_zero_iff.1 hbalance).2
  · rw [hnone k, Nat.zero_mul]

end Waits

end SensorBench.Trial
