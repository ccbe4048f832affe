import SensorBench.Proofs.Bench.Timed
import SensorBench.Proofs.Hal.Streaming
import SensorBench.Proofs.Trial.Admitted
import SensorBench.Sensor.Stock
import SensorBench.Suite.Run

/-!
# The verdict of the scenario about old events

In a timed world the scenario that reactivates all sensors tells a HAL that replays an old event
from one that does not (`Scenario.noStaleEvents_exact`). Each of its two rounds gives a window
of every sensor (`runOnce_leads`): the last event of the first lies before the pause and the
first event of a healthy second one after it, while a replaying HAL begins the second with the
very event that ended the first.
-/

set_option autoImplicit false

namespace SensorBench

namespace Trial

open Hal (Grounded Tuned Window NotDue leastTime)
open Hal.Sampler (leastPeriod)
open Bench.World (Shows Flows Waited)

variable {b : Behaviour} {catalog : Catalog} {start now later : Int}
  {last : Handle → Option Event} {k : Nat} {on : List Handle} {hal : Hal} {hub : Hub}

/-! ## Sensors on the air -/

/-- While a round runs: the sensors switched on stream into a collector since its start, and all
others rest and have brought nothing. -/
structure Airing (b : Behaviour) (catalog : Catalog) (start : Int) (last : Handle → Option Event)
    (k : Nat) (on : List Handle) (now : Int) (hal : Hal) (hub : Hub) : Prop where
  clear : hal.Clear
  listed : hal.catalog = catalog
  feeds : hub.Feeds k
  streams : ∀ h s, hal.sensor? h = some s → h ∈ on →
    s.Streams b start (last h) now ((hub.collector k).events h)
  rests : ∀ h s, hal.sensor? h = some s → h ∉ on →
    s.Rests ∧ s.lastEvent = last h ∧ (hub.collector k).events h = []

section Airing

variable (hadmitted : ∀ d ∈ catalog, d.Admitted)

include hadmitted

/-- A step of time moves all windows on. -/
theorem Airing.advance (h : Airing b catalog start last k on now hal hub)
    (hpunctual : hal.Punctual) (hnow : leastTime ≤ now) (hle : now ≤ later) :
    Airing b catalog start last k on later (hal.advance b later).2
      (hub.receive (hal.advance b later).1) := by
  have hlater : leastTime ≤ later := Int.le_trans hnow hle
  have hseen := fun j (s : Hal.Sampler) (hs : hal.sensor? j = some s) =>
    h.feeds.events_advance hpunctual.sound h.clear.waiting hs
      (hadmitted _ (Hal.mem_of_sensor? h.listed hs)).kind b later
  simp only [h.clear.measuring] at hseen
  refine ⟨h.clear.advance b later, ?_, h.feeds.receive _, ?_, ?_⟩
  · exact (hpunctual.sound.catalog_step b ⟨later, .advance⟩).trans h.listed
  · refine Hal.forall_sensor?_advance h.clear fun j s hs hj => ?_
    exact (h.streams j s hs hj).advance (hpunctual.sound.of_sensor? hs) hle _ (hseen j s hs)
  · refine Hal.forall_sensor?_advance h.clear fun j s hs hj => ?_
    obtain ⟨hrests, hlast, hnone⟩ := h.rests j s hs hj
    have hstill := hrests.advance (hpunctual.filling_of_sensor? hs) hlater b true
      (hal.signalFor b later j)
    have hempty := hrests.buffer (hpunctual.sound.of_sensor? hs)
    have hmore := hseen j s hs
    rw [hstill, hempty, hnone, hrests.replay, Hal.Sampler.emitted_eq_nil _ _ _ _ (by
      rw [hrests.off]; rfl)] at hmore
    rw [hstill]
    exact ⟨hrests, hlast, by simpa using hmore⟩

end Airing

/-- With no replay left nothing is due before the next sample. -/
theorem Airing.notDue (h : Airing b catalog start last k on now hal hub)
    (hpunctual : hal.Punctual) (hnow : leastTime ≤ now)
    (hreplay : ∀ j s, hal.sensor? j = some s → s.replay = none) : NotDue now hal.deadline? := by
  refine (h.clear.notDue_iff hpunctual.sound hnow).2 fun j s hs => ?_
  by_cases hj : j ∈ on
  · exact (h.streams j s hs hj).notDue (hpunctual.sound.of_sensor? hs)
      (hpunctual.filling_of_sensor? hs) (hreplay j s hs)
  · exact (h.rests j s hs hj).1.notDue now true

/-- A sensor at rest may be tuned. -/
theorem Airing.retune (h : Airing b catalog start last k on now hal hub) (hsound : hal.Sound)
    {j : Handle} {s : Hal.Sampler} (hs : hal.sensor? j = some s) (hj : j ∉ on)
    (period latency : Int) :
    Airing b catalog start last k on now (hal.setSensor (s.retune now period latency)) hub := by
  obtain ⟨hrests, hlast, hnone⟩ := h.rests j s hs hj
  have hlisted : (hal.setSensor (s.retune now period latency)).catalog = hal.catalog :=
    Hal.catalog_setSensor hsound hs rfl
  refine ⟨h.clear.setSensor _, hlisted.trans h.listed, h.feeds, ?_, ?_⟩
  · refine Hal.forall_sensor?_setSensor hs rfl (fun hin => absurd hin hj) fun i u _ hu => ?_
    exact h.streams i u hu
  · refine Hal.forall_sensor?_setSensor hs rfl ?_ fun i u _ hu => h.rests i u hu
    exact fun _ => ⟨hrests.retune now period latency, hlast, hnone⟩

/-- A tuned sensor goes on the air as soon as it is switched on. -/
theorem Airing.switchOn (h : Airing b catalog start last k on start hal hub) (hsound : hal.Sound)
    {j : Handle} {s : Hal.Sampler} (hs : hal.sensor? j = some s) (hj : j ∉ on)
    (hflows : s.descriptor.isOneShot = false) (hperiod : s.period = leastPeriod s.descriptor)
    (hlatency : s.latency = 0) :
    Airing b catalog start last k (on ++ [j]) start (hal.setSensor (s.switchOn b start)) hub := by
  obtain ⟨hrests, hlast, hnone⟩ := h.rests j s hs hj
  have hlisted : (hal.setSensor (s.switchOn b start)).catalog = hal.catalog :=
    Hal.catalog_setSensor hsound hs rfl
  refine ⟨h.clear.setSensor _, hlisted.trans h.listed, h.feeds, ?_, ?_⟩
  · refine Hal.forall_sensor?_setSensor hs rfl (fun _ => ?_) fun i u hi hu hin => ?_
    · rw [hnone, ← hlast]
      exact hrests.switchOn hflows hperiod hlatency b start
    · rcases List.mem_append.1 hin with hin | hin
      · exact h.streams i u hu hin
      · exact absurd (List.mem_singleton.1 hin) hi
  · refine Hal.forall_sensor?_setSensor hs rfl (fun hout => ?_) fun i u _ hu hout => ?_
    · exact absurd (List.mem_append_right on (List.mem_singleton.2 rfl)) hout
    · exact h.rests i u hu fun hin => hout (List.mem_append_left [j] hin)

/-- A round runs, and nothing is due. -/
def OnAir (b : Behaviour) (catalog : Catalog) (start : Int) (last : Handle → Option Event)
    (k : Nat) (on : List Handle) (now : Int) (hal : Hal) (hub : Hub) : Prop :=
  Airing b catalog start last k on now hal hub ∧ NotDue now hal.deadline?

section Rounds

variable (hadmitted : ∀ d ∈ catalog, d.Admitted)

include hadmitted

theorem OnAir.advance (h : Airing b catalog start last k on now hal hub)
    (hpunctual : hal.Punctual) (hnow : leastTime ≤ now) (hle : now ≤ later) :
    OnAir b catalog start last k on later (hal.advance b later).2
      (hub.receive (hal.advance b later).1) := by
  have hlater := h.advance hadmitted hpunctual hnow hle
  refine ⟨hlater, hlater.notDue (hpunctual.step b ⟨later, .advance⟩) (Int.le_trans hnow hle) ?_⟩
  exact Hal.forall_sensor?_advance h.clear fun j s _ =>
    (Hal.Sampler.advance_facts b true later (hal.signalFor b later j)).2.2.2.2

variable (b catalog start last k on) in
/-- A round goes on while time goes by. -/
theorem OnAir.flows (limit : Int) : Flows b limit (OnAir b catalog start last k on) where
  settled := fun _ _ _ h => h.2
  passes := fun hpunctual hnow hle _ _ h => OnAir.advance hadmitted h.1 hpunctual hnow hle

/-! ## Up -/

variable (b start last k) in
/-- A sensor that is not on yet may be tuned, and nothing becomes due. -/
theorem tune_leads {d : Descriptor} (hd : d ∈ catalog) (hnew : d.handle ∉ on) :
    (Bench.World.answer.call (.batch d.handle d.minDelayNs 0)).Leads (fun _ => True)
      (Shows b fun clock hal hub => clock = start ∧ OnAir b catalog start last k on clock hal hub)
      (Act.Gives fun reply => fun w => reply = .ok 0 ∧ w.Shows b fun clock hal hub =>
        clock = start ∧ Tuned d 0 hal ∧ OnAir b catalog start last k on clock hal hub) := by
  refine Bench.World.leads_quietCall (fun _ _ _ => Call.noConfusion) ?_
  rintro clock hal hub hpunctual hnow ⟨rfl, hair, hdue⟩
  obtain ⟨s, hs, rfl⟩ := Hal.sensor?_of_listed hpunctual.sound hair.listed hd
  have hrests := (hair.rests _ s hs hnew).1
  have hcall := Hal.perform_batch b clock hs
    (hrests.buffer (hpunctual.sound.of_sensor? hs)) s.descriptor.minDelayNs_nonneg (Int.le_refl 0)
  have hquiet : NotDue clock
      (hal.setSensor (s.retune clock s.descriptor.minDelayNs 0)).deadline? :=
    Hal.notDue_setSensor hnow hdue ((hrests.retune _ _ _).notDue clock _)
  refine ⟨_, hcall, rfl, hquiet, rfl, ?_, hair.retune hpunctual.sound hs hnew _ _, hquiet⟩
  refine ⟨_, Hal.sensor?_setSensor_self hs rfl, rfl, ?_, rfl⟩
  exact Hal.Sampler.periodFor_minDelay (hadmitted _ hd)

variable (b start last k) in
/-- A tuned sensor goes on the air when it is switched on, and what it replays is delivered at
once. -/
theorem switchOn_leads {d : Descriptor} (hd : d ∈ catalog) (hnew : d.handle ∉ on)
    (hflows : d.isOneShot = false) :
    (Bench.World.answer.call (.activate d.handle true)).Leads (fun _ => True)
      (Shows b fun clock hal hub =>
        clock = start ∧ Tuned d 0 hal ∧ OnAir b catalog start last k on clock hal hub)
      (Act.Gives fun reply => fun w => reply = .ok 0 ∧ w.Shows b fun clock hal hub =>
        clock = start ∧ OnAir b catalog start last k (on ++ [d.handle]) clock hal hub) := by
  refine Bench.World.leads_call (fun _ _ _ => Call.noConfusion) ?_
  rintro clock hal hub hpunctual hnow ⟨rfl, ⟨s, hs, rfl, hperiod, hlatency⟩, hair, -⟩
  have hcall := Hal.perform_switchOn b clock hs (hair.rests _ s hs hnew).1.off
  have hon := hair.switchOn hpunctual.sound hs hnew hflows hperiod hlatency
  exact ⟨_, hcall, rfl, rfl,
    OnAir.advance hadmitted hon (hpunctual.perform hcall) hnow (Int.le_refl clock)⟩

end Rounds

/-! ## Sweeps over all sensors -/

section Sweeps

variable {ds : Catalog} (hadmitted : ∀ d ∈ catalog, d.Admitted) (hlisted : ∀ d ∈ ds, d ∈ catalog)
  (hflows : ∀ d ∈ ds, d.isOneShot = false) (hnodup : (ds.map (·.handle)).Nodup)

/-- A sweep comes to each sensor once. -/
theorem fresh_of_prefix {before : Catalog} {d : Descriptor}
    (hnodup : (ds.map (·.handle)).Nodup) (h : before ++ [d] <+: ds) :
    d ∈ ds ∧ d.handle ∉ before.map (·.handle) := by
  refine ⟨h.subset (List.mem_append_right before (List.mem_singleton.2 rfl)), fun hmem => ?_⟩
  have hsub := hnodup.sublist (h.map (·.handle)).sublist
  rw [List.map_append] at hsub
  exact (List.disjoint_of_nodup_append hsub) hmem (List.mem_singleton.2 rfl)

/-- A sweep of sensors that may be listed leaves none out. -/
theorem filter_admitted (h : ∀ d ∈ ds, d.Admitted) :
    (ds.filter fun d => !d.kind.isMeta) = ds :=
  List.filter_eq_self.2 fun d hd => by rw [(h d hd).kind]; rfl

include hadmitted hlisted hnodup

variable (b start last k) in
include hflows in
/-- All sensors go on the air one after the other. -/
theorem activate_leads :
    (Guard.activateAll (Bench.World.answer.beside) ds true).Leads (fun _ => True)
      (fun s : Guard × Bench.World => s.2.Shows b fun clock hal hub =>
        clock = start ∧ OnAir b catalog start last k [] clock hal hub)
      (Act.Gives fun _ s => s.2.Shows b fun clock hal hub =>
        clock = start ∧ OnAir b catalog start last k (ds.map (·.handle)) clock hal hub) := by
  rw [Guard.activateAll, filter_admitted fun d hd => hadmitted d (hlisted d hd)]
  refine Act.Leads.each (I := fun (before : Catalog) (s : Guard × Bench.World) =>
    s.2.Shows b fun clock hal hub => clock = start ∧
      OnAir b catalog start last k (before.map (·.handle)) clock hal hub)
    fun before d hprefix => ?_
  obtain ⟨hd, hnew⟩ := fresh_of_prefix hnodup hprefix
  have htune := Host.ask_leads (τ := Guard)
    (tune_leads b start last k hadmitted (hlisted d hd) hnew)
  have hswitch := Guard.call_leads (switchOn_leads b start last k hadmitted (hlisted d hd)
    hnew (hflows d hd))
  rw [List.map_append, List.map_singleton]
  refine htune.next fun _ => (hswitch.mono (fun _ h => h.2) fun _ _ _ => id).next fun _ => ?_
  exact Act.leads_value fun _ h => ⟨(), rfl, h.2⟩

end Sweeps

/-! ## Down -/

/-- What a round has brought of some sensors: of each its window, with something in it. -/
def Round (b : Behaviour) (ds : Catalog) (start : Int) (last : Handle → Option Event) (stop : Int)
    (seen : Collector) (latest : Handle → Option Event) : Prop :=
  ∀ d ∈ ds, Window b d start (last d.handle) stop (seen.events d.handle) (latest d.handle) ∧
    seen.events d.handle ≠ []

theorem hasEvents_iff {handles : List Handle} {seen : Collector} :
    seen.hasEvents handles = true ↔ ∀ h ∈ handles, seen.events h ≠ [] := by
  have hpos : ∀ h, 0 < seen.eventCount h ↔ seen.events h ≠ [] := fun h => by
    rw [Collector.eventCount, Collector.events, ← Array.length_toList, List.length_pos_iff]
  simp only [Collector.hasEvents, List.all_eq_true, decide_eq_true_iff, hpos]

/-- While sensors are switched off one after the other: those still on owe nothing, the others
rest, and what has been seen of each sensor is its window. -/
structure Landing (b : Behaviour) (catalog : Catalog) (start : Int) (last : Handle → Option Event)
    (k : Nat) (ds : Catalog) (gone : List Handle) (now : Int) (hal : Hal) (hub : Hub) : Prop where
  clear : hal.Clear
  listed : hal.catalog = catalog
  feeds : hub.Feeds k
  settled : NotDue now hal.deadline?
  on : ∀ h s, hal.sensor? h = some s → h ∈ ds.map (·.handle) → h ∉ gone →
    s.enabled = true ∧ s.pendingFlushes = 0 ∧ s.replay = none
  rests : ∀ h s, hal.sensor? h = some s → h ∉ ds.map (·.handle) ∨ h ∈ gone → s.Rests
  round : Round b ds start last now (hub.collector k) hal.lastEvent?

section Landing

variable {ds : Catalog} {gone : List Handle} (hlisted : ∀ d ∈ ds, d ∈ catalog)

include hlisted

/-- A round that runs may be ended when all sensors have been heard of or their periods are
over. -/
theorem OnAir.landing (h : OnAir b catalog start last k (ds.map (·.handle)) now hal hub)
    (hpunctual : hal.Punctual) (hnow : leastTime ≤ now)
    (hheard : (hub.collector k).hasEvents (ds.map (·.handle)) = true ∨
      ∀ d ∈ ds, start + leastPeriod d ≤ now) :
    Landing b catalog start last k ds [] now hal hub := by
  obtain ⟨hair, hdue⟩ := h
  have hquiet := (hair.clear.notDue_iff hpunctual.sound hnow).1 hdue
  refine ⟨hair.clear, hair.listed, hair.feeds, hdue, fun i s hs hi _ => ?_, fun i s hs hi => ?_,
    fun d hd => ?_⟩
  · have hstreams := hair.streams i s hs hi
    exact ⟨hstreams.on, hstreams.flushes, (Hal.Sampler.notDue_facts hnow (hquiet i s hs)).2.1⟩
  · exact (hair.rests i s hs (hi.resolve_right List.not_mem_nil)).1
  · obtain ⟨s, hs, rfl⟩ := Hal.sensor?_of_listed hpunctual.sound hair.listed (hlisted d hd)
    have hwindow := (hair.streams _ s hs (List.mem_map_of_mem hd)).window
    rw [(Hal.Sampler.notDue_facts hnow (hquiet _ s hs)).2.1, Option.toList_none,
      List.append_nil] at hwindow
    have hlast : hal.lastEvent? s.descriptor.handle = s.lastEvent := by
      rw [Hal.lastEvent?, hs]
      rfl
    rw [hlast]
    refine ⟨hwindow, hheard.elim (fun hall => ?_) fun hover => hwindow.ne_nil (hover _ hd)⟩
    exact hasEvents_iff.1 hall _ (List.mem_map_of_mem hd)

variable (b start now last k) in
/-- A sensor still on is switched off. -/
theorem land_leads {d : Descriptor} (hd : d ∈ ds) (hnew : d.handle ∉ gone) :
    (Bench.World.answer.call (.activate d.handle false)).Leads (fun _ => True)
      (Shows b fun clock hal hub =>
        clock = now ∧ Landing b catalog start last k ds gone clock hal hub)
      (Act.Gives fun reply => fun w => reply = .ok 0 ∧ w.Shows b fun clock hal hub =>
        clock = now ∧ Landing b catalog start last k ds (gone ++ [d.handle]) clock hal hub) := by
  refine Bench.World.leads_quietCall (fun _ _ _ => Call.noConfusion) ?_
  rintro clock hal hub hpunctual hnow ⟨rfl, h⟩
  obtain ⟨s, hs, rfl⟩ := Hal.sensor?_of_listed hpunctual.sound h.listed (hlisted d hd)
  obtain ⟨hon, hflushes, hreplay⟩ := h.on _ s hs (List.mem_map_of_mem hd) hnew
  have hrests : s.switchOff.Rests := ⟨rfl, hflushes, hreplay⟩
  have hcatalog : (hal.setSensor s.switchOff).catalog = hal.catalog :=
    Hal.catalog_setSensor hpunctual.sound hs rfl
  have hquiet : NotDue clock (hal.setSensor s.switchOff).deadline? :=
    Hal.notDue_setSensor hnow h.settled (hrests.notDue clock _)
  refine ⟨_, Hal.perform_switchOff b clock hs hon, rfl, hquiet, rfl, h.clear.setSensor _,
    hcatalog.trans h.listed, h.feeds, hquiet, ?_, ?_, ?_⟩
  · refine Hal.forall_sensor?_setSensor hs rfl (fun _ hout => ?_) fun i u _ hu hi hout => ?_
    · exact absurd (List.mem_append_right gone (List.mem_singleton.2 rfl)) hout
    · exact h.on i u hu hi fun hin => hout (List.mem_append_left _ hin)
  · refine Hal.forall_sensor?_setSensor hs rfl (fun _ => hrests) fun i u hi hu hout => ?_
    refine h.rests i u hu (hout.imp_right fun hin => ?_)
    exact (List.mem_append.1 hin).resolve_right fun hself => hi (List.mem_singleton.1 hself)
  · have hlast : (hal.setSensor s.switchOff).lastEvent? = hal.lastEvent? :=
      Hal.lastEvent?_setSensor hs rfl rfl
    rw [hlast]
    exact h.round

end Landing

section Sweeps

variable {ds : Catalog} (hadmitted : ∀ d ∈ catalog, d.Admitted) (hlisted : ∀ d ∈ ds, d ∈ catalog)
  (hnodup : (ds.map (·.handle)).Nodup)

include hadmitted hlisted hnodup

variable (b start now last k) in
/-- All sensors are switched off one after the other. -/
theorem deactivate_leads :
    (Guard.activateAll (Bench.World.answer.beside) ds false).Leads (fun _ => True)
      (fun s : Guard × Bench.World => s.2.Shows b fun clock hal hub =>
        clock = now ∧ Landing b catalog start last k ds [] clock hal hub)
      (Act.Gives fun _ s => s.2.Shows b fun clock hal hub =>
        clock = now ∧ Landing b catalog start last k ds (ds.map (·.handle)) clock hal hub) := by
  rw [Guard.activateAll, filter_admitted fun d hd => hadmitted d (hlisted d hd)]
  refine Act.Leads.each (I := fun (before : Catalog) (s : Guard × Bench.World) =>
    s.2.Shows b fun clock hal hub => clock = now ∧
      Landing b catalog start last k ds (before.map (·.handle)) clock hal hub)
    fun before d hprefix => ?_
  obtain ⟨hd, hnew⟩ := fresh_of_prefix hnodup hprefix
  have hland := Guard.call_leads (land_leads b start now last k hlisted hd hnew)
  rw [List.map_append, List.map_singleton]
  exact hland.next fun _ => Act.leads_value fun _ h => ⟨(), rfl, h.2⟩

end Sweeps

/-! ## A round -/

/-- Between two rounds: all sensors rest, their last events are known, and a collector is
registered and has what was collected. -/
def Between (b : Behaviour) (catalog : Catalog) (k : Nat) (seen : Collector) (start : Int)
    (last : Handle → Option Event) : Bench.World → Prop :=
  Shows b fun clock hal hub =>
    (clock = start ∧ Grounded catalog hal ∧ hal.lastEvent? = last) ∧ hub.Feeds k ∧
      hub.collector k = seen

variable (b catalog k start last) in
/-- A look at the collector changes nothing. -/
theorem look_leads (seen : Collector) :
    ((Bench.World.answer.beside (τ := Guard)).ask (.delivered k)).Leads (fun _ => True)
      (fun s : Guard × Bench.World => Between b catalog k seen start last s.2)
      (Act.Gives fun (c : Collector) s => c = seen ∧ Between b catalog k seen start last s.2) := by
  refine (Host.ask_leads (τ := Guard) (Bench.World.leads_delivered (b := b) (k := k)
    (P := fun clock hal hub => (clock = start ∧ Grounded catalog hal ∧ hal.lastEvent? = last) ∧
      hub.Feeds k ∧ hub.collector k = seen))).mono (fun _ => id) fun r s _ hr => ?_
  obtain ⟨c, rfl, htimed, rfl, hgrounded, hfeeds, hseen⟩ := hr
  exact ⟨_, rfl, hseen, htimed, hgrounded, hfeeds, hseen⟩

/-- Before a round begins nothing is on the air. -/
theorem OnAir.of_grounded (h : Grounded catalog hal) (hpunctual : hal.Punctual)
    (hnow : leastTime ≤ start) (hfeeds : hub.Feeds k) (hempty : hub.collector k = .empty) :
    OnAir b catalog start hal.lastEvent? k [] start hal hub := by
  refine ⟨⟨h.clear, h.listed, hfeeds, fun _ _ _ hin => absurd hin List.not_mem_nil,
    fun i s hs _ => ⟨h.rests i s hs, ?_, ?_⟩⟩, h.notDue hpunctual.sound hnow⟩
  · rw [Hal.lastEvent?, hs]
    rfl
  · rw [hempty]
    rfl

section Round

variable {ds : Catalog} (hadmitted : ∀ d ∈ catalog, d.Admitted) (hlisted : ∀ d ∈ ds, d ∈ catalog)
  (hflows : ∀ d ∈ ds, d.isOneShot = false) (hnodup : (ds.map (·.handle)).Nodup)

include hadmitted hlisted hflows hnodup

variable (b start last k) in
/-- A round with a long enough wait brings something of each sensor, and all rest again after
it, with what it has brought still to be looked at. -/
theorem runOnce_leads {time : Int} (htime : 0 ≤ time) (hlong : ∀ d ∈ ds, leastPeriod d ≤ time) :
    (runOnce Bench.World.answer.beside k ds time).Leads (fun _ => True)
      (fun s : Guard × Bench.World => Between b catalog k .empty start last s.2)
      (Act.Gives fun _ s => ∃ stop latest seen,
        (start ≤ stop ∧ Round b ds start last stop seen latest) ∧
          Between b catalog k seen stop latest s.2) := by
  have hup := activate_leads b start last k hadmitted hlisted hflows hnodup
  have hwait := Host.ask_leads (τ := Guard) (Bench.World.leads_awaitEvents start
    (OnAir.flows b catalog start last k (ds.map (·.handle)) hadmitted (start + time)) htime k
    (ds.map (·.handle)))
  have hdown := fun now => deactivate_leads b start now last k hadmitted hlisted hnodup
  refine (hup.mono ?ready fun _ _ _ => id).next fun _ => hwait.next fun _ => ?_
  case ready =>
    rintro s ⟨htimed, ⟨hclock, hground, hlast⟩, hfeeds, hempty⟩
    refine ⟨htimed, hclock, ?_⟩
    rw [← hclock, ← hlast]
    exact OnAir.of_grounded hground htimed.punctual htimed.started hfeeds hempty
  -- the wait ended at some time
  refine Act.Leads.mono (Act.leads_exists fun now => Act.leads_fact (p := start ≤ now) fun hnow =>
    (hdown now).mono (fun _ => id) fun r s _ hr => ?_) ?waited fun _ _ _ => id
  case waited =>
    rintro s ⟨htimed, hstart, -, hdone, hair⟩
    refine ⟨_, hstart, htimed, rfl, hair.landing hlisted htimed.punctual htimed.started ?_⟩
    refine hdone.imp_right fun hend d hd => ?_
    have := hlong d hd
    omega
  obtain ⟨_, rfl, htimed, hclock, hland⟩ := hr
  refine ⟨_, rfl, now, _, _, ⟨hnow, ?_⟩, htimed, ⟨hclock, ⟨hland.clear, hland.listed, ?_⟩, rfl⟩,
    hland.feeds, rfl⟩
  · rw [← hclock]
    exact hland.round
  · exact fun i s hs => hland.rests i s hs (Classical.em _).symm

end Round

/-! ## The comparison -/

section Comparison

variable {settings : Settings} {ds : Catalog} {before after : Collector} {d : Descriptor}

/-- The time of the last event seen of a sensor. -/
def lastTime (seen : Collector) (h : Handle) : Int :=
  ((seen.events h).getLast?.map (·.time)).getD 0

variable (b catalog k start last) in
/-- Looked up one after the other, the last times are those of what has been collected. -/
theorem lastTimes_leads (hbefore : ∀ d ∈ ds, before.events d.handle ≠ []) :
    (lastTimes Bench.World.answer.beside k ds).Leads (fun _ => True)
      (fun s : Guard × Bench.World => Between b catalog k before start last s.2)
      (Act.Gives fun times s => times = ds.map (fun d => (d.handle, lastTime before d.handle)) ∧
        Between b catalog k before start last s.2) := by
  induction ds with
  | nil => exact Act.leads_value fun s hs => ⟨_, rfl, rfl, hs⟩
  | cons d rest ih =>
    have hrest := ih fun e he => hbefore e (List.mem_cons_of_mem d he)
    have hlast := List.getLast?_eq_some_getLast (hbefore d List.mem_cons_self)
    refine (look_leads b catalog start last k before).next fun seen => ?_
    refine Act.leads_fact fun hseen => ?_
    rw [hseen, hlast, requireTime, Act.value_bind]
    refine hrest.next fun times => Act.leads_value fun s hs => ⟨_, rfl, ?_, hs.2⟩
    rw [hs.1, List.map_cons, lastTime, hlast]
    rfl

variable (b catalog k start last settings) in
/-- The comparison for one sensor is that of the two events next to the pause. -/
theorem checkGap_leads (hd : d ∈ ds) {first latest : Event}
    (hlatest : (before.events d.handle).getLast? = some latest)
    (hfirst : (after.events d.handle).head? = some first) :
    (checkGap Bench.World.answer.beside k settings
        (ds.map fun d => (d.handle, lastTime before d.handle)) d).Leads (fun _ => True)
      (fun s : Guard × Bench.World => Between b catalog k after start last s.2)
      (fun r s => r = (if first.time - latest.time < requiredGap settings d then
          .error (.violation (.staleEvent d.handle (first.time - latest.time)
            (requiredGap settings d)))
        else .ok ()) ∧ Between b catalog k after start last s.2) := by
  have hgraph : (ds.map fun d => (d.handle, lastTime before d.handle)).reverse =
      (ds.map (·.handle)).reverse.map fun h => (h, lastTime before h) := by
    rw [List.map_reverse, List.map_map]
    rfl
  have hmem : d.handle ∈ (ds.map (·.handle)).reverse :=
    List.mem_reverse.2 (List.mem_map_of_mem hd)
  have hlast : lastTime before d.handle = latest.time := by
    rw [lastTime, hlatest]
    rfl
  rw [checkGap]
  refine (look_leads b catalog start last k after).next fun seen => ?_
  refine Act.leads_fact fun hseen => ?_
  rw [hseen, hfirst, requireTime, Act.value_bind]
  dsimp only
  rw [hgraph, List.lookup_graph _ hmem, Option.getD_some, hlast]
  split
  · exact Act.leads_violate fun s hs => ⟨rfl, hs⟩
  · exact Act.leads_value fun s hs => ⟨rfl, hs⟩

variable {b : Behaviour} {start stop again finish : Int}
  {first latest final : Handle → Option Event}

/-- A healthy second round begins after its start, and the first one ended before its stop. -/
theorem Round.apart (hb : b.replayStaleEvents = false)
    (hbefore : Round b ds start first stop before latest)
    (hafter : Round b ds again latest finish after final) (hd : d ∈ ds) :
    ∃ e e', (before.events d.handle).getLast? = some e ∧ (after.events d.handle).head? = some e' ∧
      e.time ≤ stop ∧ again + leastPeriod d ≤ e'.time := by
  obtain ⟨hwindow, hne⟩ := hbefore d hd
  obtain ⟨hwindow', hne'⟩ := hafter d hd
  exact ⟨_, _, List.getLast?_eq_some_getLast hne, List.head?_eq_some_head hne',
    (hwindow.fresh hb (List.getLast_mem hne)).2, (hwindow'.fresh hb (List.head_mem hne')).1⟩

/-- A replaying second round begins with the event that ended the first. -/
theorem Round.replayed (hb : b.replayStaleEvents = true)
    (hbefore : Round b ds start first stop before latest)
    (hafter : Round b ds again latest finish after final) (hd : d ∈ ds) :
    ∃ e, (before.events d.handle).getLast? = some e ∧ (after.events d.handle).head? = some e := by
  obtain ⟨hwindow, hne⟩ := hbefore d hd
  have hlast := List.getLast?_eq_some_getLast hne
  refine ⟨_, hlast, (hafter d hd).1.head? hb ?_⟩
  rw [← hwindow.getLast? hb, hlast]

/-- What the scenario finds: nothing on a HAL that replays nothing, and on one that does an
event that is no later than the last one before the pause. -/
def Verdict (b : Behaviour) (settings : Settings) (ds : Catalog) (r : Except Halt Outcome) : Prop :=
  if b.replayStaleEvents then
    ∃ d ∈ ds, r = .error (.violation (.staleEvent d.handle 0 (requiredGap settings d)))
  else r = .ok .passed

/-- The comparison of two rounds tells a HAL that replays from one that does not. -/
theorem compare_leads (hne : ds ≠ [])
    (hpositive : ∀ d ∈ ds, 0 < requiredGap settings d)
    (hcovers : ∀ d ∈ ds, stop + requiredGap settings d ≤ again + leastPeriod d)
    (hbefore : Round b ds start first stop before latest)
    (hafter : Round b ds again latest finish after final) :
    (Act.andThen (Act.each ds (checkGap Bench.World.answer.beside k settings
        (ds.map fun d => (d.handle, lastTime before d.handle))))
      fun _ => .value .passed).Leads (fun _ => True)
        (fun s : Guard × Bench.World => Between b catalog k after finish final s.2)
        (fun r s => Verdict b settings ds r ∧ Between b catalog k after finish final s.2) := by
  have hcheck := fun d (hd : d ∈ ds) e e' =>
    @checkGap_leads b catalog finish final k settings ds before after d hd e' e
  generalize (ds.map fun d => (d.handle, lastTime before d.handle)) = times at hcheck ⊢
  cases hb : b.replayStaleEvents with
  | false =>
    -- no check stops the sweep
    refine (Act.Leads.each (I := fun _ (s : Guard × Bench.World) =>
      Between b catalog k after finish final s.2) fun done d hprefix => ?_).next fun _ =>
        Act.leads_value fun s hs => ⟨?_, hs⟩
    · have hd : d ∈ ds :=
        hprefix.subset (List.mem_append_right done (List.mem_singleton.2 rfl))
      obtain ⟨e, e', hlatest, hfirst, hle, hge⟩ := hbefore.apart hb hafter hd
      have hgap := hcovers d hd
      have hthis := hcheck d hd e e' hlatest hfirst
      rw [if_neg (by omega)] at hthis
      exact hthis.mono (fun _ => id) fun r s _ hr => ⟨(), hr⟩
    · rw [Verdict, hb]
      rfl
  | true =>
    -- the first sensor already stops the sweep: its two events are one, and the gap is zero
    cases ds with
    | nil => exact absurd rfl hne
    | cons d rest =>
      have hd : d ∈ d :: rest := List.mem_cons_self
      obtain ⟨e, hlatest, hfirst⟩ := hbefore.replayed hb hafter hd
      have hstale := hcheck d hd e e hlatest hfirst
      rw [Int.sub_self, if_pos (hpositive d hd)] at hstale
      rw [Act.each, Act.andThen_assoc]
      refine Act.Leads.andThen (R := fun _ _ => False)
        (hstale.mono (fun _ => id) fun r s _ hr => ?_) fun _ _ _ => ⟨trivial, False.elim⟩
      rw [hr.1]
      refine ⟨?_, hr.2⟩
      rw [Verdict, if_pos hb]
      exact ⟨d, hd, rfl⟩

end Comparison

/-! ## The scenario -/

section Durations

variable {settings : Settings} {ds : Catalog} {d : Descriptor}

theorem requiredGap_pos (h : settings.fault? = none) (d : Descriptor) :
    0 < requiredGap settings d := by
  have hleast : 1 ≤ settings.staleness.minGap.toNat :=
    Settings.minimum_le h (m := ⟨"staleness.min_gap_ms", 1, (·.staleness.minGap.toNat)⟩)
      (by simp [Settings.minimums])
  have hdelay := d.minDelayNs_nonneg
  have hgreatest : 0 < Hal.greatestTime := by decide
  rw [requiredGap, ofMillis]
  omega

/-- The pause with its slack and one period are as long as the gap that is looked for. -/
theorem requiredGap_le (h : settings.fault? = none) (hd : d ∈ ds) :
    requiredGap settings d ≤
      ofMillis settings.staleness.quiescent + 5 * ds.slowestMinDelayNs + leastPeriod d := by
  have hgap := Settings.minGap_le_quiescent h
  have hdelay := d.minDelayNs_nonneg
  have hslowest := Catalog.minDelayNs_le_slowest hd
  rw [requiredGap, ofMillis, ofMillis, leastPeriod]
  omega

/-- The wait with its slack is as long as one period. -/
theorem leastPeriod_le_wait (h : settings.fault? = none) (hd : d ∈ ds) :
    leastPeriod d ≤ ofMillis settings.timeouts.firstEvent + 5 * ds.slowestMinDelayNs := by
  have hleast : 1 ≤ settings.timeouts.firstEvent.toNat :=
    Settings.minimum_le h (m := ⟨"timeouts.first_event_ms", 1, (·.timeouts.firstEvent.toNat)⟩)
      (by simp [Settings.minimums])
  have hdelay := d.minDelayNs_nonneg
  have hslowest := Catalog.minDelayNs_le_slowest hd
  rw [ofMillis, leastPeriod, Hal.Sampler.shortestPeriod]
  omega

end Durations

section Scenario

variable {settings : Settings} (hadmitted : ∀ d ∈ catalog, d.Admitted)
  (hnodup : (catalog.map (·.handle)).Nodup)

variable (b catalog last k) in
/-- With all sensors at rest time goes by and nothing happens. -/
theorem rest_flows (limit : Int) : Flows b limit fun _ hal hub =>
    (Grounded catalog hal ∧ hal.lastEvent? = last) ∧ hub.Feeds k where
  settled := fun hpunctual hnow _ h => h.1.1.notDue hpunctual.sound hnow
  passes := by
    intro clock now hal hub hpunctual hnow hle _ _ h
    have hlater := Int.le_trans hnow hle
    rw [hpunctual.advance_of_notDue hlater (h.1.1.notDue hpunctual.sound hlater)]
    exact h

/-- A sensor with a regular stream is no one-shot. -/
theorem not_isOneShot {d : Descriptor} (hd : d.isStreaming = true) : d.isOneShot = false := by
  rw [Descriptor.isStreaming] at hd
  rw [Descriptor.isOneShot]
  cases hmode : d.mode <;> rw [hmode] at hd <;> first | rfl | exact absurd hd (by decide)

variable (b start last) in
include hadmitted hnodup in
/-- From a HAL at rest the scenario leads to its verdict. -/
theorem noStaleEvents_leads (hsettings : settings.fault? = none) (hne : catalog.streaming ≠ []) :
    (noStaleEvents ⟨Bench.World.answer, settings, catalog⟩).Leads (fun _ => True)
      (Shows b fun clock hal _ => clock = start ∧ Grounded catalog hal ∧ hal.lastEvent? = last)
      (fun r w => Verdict b settings catalog.streaming r ∧ w.Calm) := by
  have hlisted : ∀ d ∈ catalog.streaming, d ∈ catalog := fun d hd => List.mem_of_mem_filter hd
  have hflows : ∀ d ∈ catalog.streaming, d.isOneShot = false := fun d hd =>
    not_isOneShot (List.mem_filter.1 hd).2
  have hdistinct : (catalog.streaming.map (·.handle)).Nodup :=
    hnodup.sublist (List.filter_sublist.map _)
  have hsome : ¬ catalog.streaming.isEmpty = true := by simpa using hne
  rw [noStaleEvents]
  dsimp only
  rw [if_neg hsome]
  generalize catalog.streaming = ds at *
  obtain ⟨d₀, hd₀⟩ := List.exists_mem_of_ne_nil ds hne
  have hwait := fun d (hd : d ∈ ds) => leastPeriod_le_wait hsettings hd
  have hpause := fun d (hd : d ∈ ds) => requiredGap_le hsettings hd
  have hpositive := Hal.Sampler.leastPeriod_pos d₀
  have hslack := Catalog.minDelayNs_le_slowest hd₀
  have hdelay := d₀.minDelayNs_nonneg
  -- from here on only these bounds matter, not what the durations are made of
  generalize ofMillis settings.timeouts.firstEvent + 5 * ds.slowestMinDelayNs = wait at hwait ⊢
  generalize hlength : ofMillis settings.staleness.quiescent + 5 * ds.slowestMinDelayNs = pause
    at hpause ⊢
  have hlong : 0 ≤ pause := by
    rw [ofMillis] at hlength
    omega
  have hround := fun start last k => runOnce_leads b start last k hadmitted hlisted hflows hdistinct
    (Int.le_of_lt (Int.lt_of_lt_of_le hpositive (hwait d₀ hd₀))) hwait
  have hsleep := fun start last k => Host.ask_leads (τ := Guard) (Bench.World.leads_sleep start
    (rest_flows b catalog last k (start + pause)) hlong)
  have hreset := fun start last k => Host.ask_leads (τ := Guard) (Bench.World.leads_reset (b := b)
    (k := k) (P := fun clock hal => clock = start ∧ Grounded catalog hal ∧ hal.lastEvent? = last))
  refine subscribed_leads Bench.World.leads_subscribe (fun k => guarded_leads
    (Q := fun r (w : Bench.World) => Verdict b settings ds r ∧ w.Calm) ?body fun r g c _ =>
      Bench.World.leads_release _ c) fun r => Bench.World.leads_leave _
  refine (hround start last k).next fun _ => ?_
  refine Act.leads_exists fun stop => Act.leads_exists fun latest =>
    Act.leads_exists fun before => Act.leads_fact fun hbefore => ?_
  refine (lastTimes_leads b catalog stop latest k fun d hd => (hbefore.2 d hd).2).next
    fun times => Act.leads_fact fun htimes => ?_
  rw [htimes]
  refine ((hsleep stop latest k).mono ?_ fun _ _ _ => id).next fun _ => ?_
  · exact fun s ⟨htimed, ⟨hclock, hrest⟩, hfeeds, _⟩ => ⟨htimed, hclock, hrest, hfeeds⟩
  refine ((hreset (stop + pause) latest k).mono ?_ fun _ _ _ => id).next fun _ => ?_
  · exact fun s ⟨htimed, hclock, hrest, hfeeds⟩ => ⟨htimed, ⟨hclock, hrest⟩, hfeeds⟩
  refine (hround (stop + pause) latest k).next fun _ => ?_
  refine Act.leads_exists fun finish => Act.leads_exists fun final =>
    Act.leads_exists fun after => Act.leads_fact fun hafter => ?_
  refine Act.Leads.mono (compare_leads hne (fun d _ => requiredGap_pos hsettings d) (fun d hd => ?_)
    hbefore.2 hafter.2) (fun _ => id) fun r s _ hr => ⟨hr.1, hr.2.1.calm⟩
  have := hpause d hd
  omega

end Scenario

end Trial

namespace Scenario

open Trial (requiredGap)

/-- In a world in which time flows, on a reference HAL of a catalog without faults that is idle
and has nothing left to do, and with settings without faults, the scenario about old events
passes if the HAL replays nothing. If it does, the scenario fails on a sensor whose first event
after the pause is as old as the last one before. -/
theorem noStaleEvents_exact (c : Catalog) (signal : Hal.Signal) (past : List Hal.Turn)
    (settings : Settings) (w : Bench.World) :
    w.Flowing → w.hal = Hal.runAtFront w.behaviour (.ofCatalog c signal) past →
    w.hal.Idle → w.hal.deadline? = none →
    (c.map (·.handle)).Nodup → c.fault? = none → c.streaming ≠ [] → settings.fault? = none →
    let result := ((Suite.rowOf Bench.World.answer settings .noStaleEvents).act w).1
    if w.behaviour.replayStaleEvents then
      ∃ d ∈ c.streaming,
        result = .error (.violation (.staleEvent d.handle 0 (requiredGap settings d)))
    else result = .ok .passed := by
  intro hflowing hpast hidle hdeadline hnodup hvalid hsome hsettings
  have hpunctual : w.hal.Punctual := by
    rw [hpast]
    exact Hal.punctual_runAtFront _ c signal past
  have hcatalog : ∀ d, d ∈ w.hal.catalog ↔ d ∈ c := fun d => by
    rw [hpast]
    exact Hal.mem_catalog_runAtFront hnodup _ signal past d
  have hstreaming : ∀ d, d ∈ w.hal.catalog.streaming ↔ d ∈ c.streaming := fun d => by
    rw [Catalog.streaming, Catalog.streaming, List.mem_filter, List.mem_filter, hcatalog]
  have hadmitted : ∀ d ∈ w.hal.catalog, d.Admitted := by
    rw [hpast]
    exact Hal.admitted_runAtFront hnodup hvalid _ signal past
  have hne : w.hal.catalog.streaming ≠ [] := by
    obtain ⟨d, hd⟩ := List.exists_mem_of_ne_nil _ hsome
    exact List.ne_nil_of_mem ((hstreaming d).2 hd)
  have hground := Hal.grounded_of_idle hpunctual.sound hidle hdeadline
  have hrow := Bench.World.leads_row settings .noStaleEvents (fun _ _ _ h => h.2.1.listed)
    (Trial.noStaleEvents_leads w.behaviour w.clock w.hal.lastEvent? hadmitted
      hpunctual.sound.nodup_catalog hsettings hne)
  have hverdict := ((hrow w trivial).2 ⟨⟨hflowing, rfl, hpunctual⟩, rfl, hground, rfl⟩).1
  rw [Trial.Verdict] at hverdict
  dsimp only
  split
  · next hreplay =>
    rw [if_pos hreplay] at hverdict
    obtain ⟨d, hd, hresult⟩ := hverdict
    exact ⟨d, (hstreaming d).1 hd, hresult⟩
  · next hhealthy =>
    rw [if_neg hhealthy] at hverdict
    exact hverdict

/-- A client connects, and watches one sensor for a while. -/
def watchedOnce : List Hal.Turn :=
  [⟨0, .connect 0 false⟩, ⟨0, .call (.activate (Handle.ofInt 1) true)⟩, ⟨700000000, .advance⟩,
    ⟨700000000, .call (.activate (Handle.ofInt 1) false)⟩]

open Bench in
/-- On the stock catalog the scenario passes, and a replay makes it fail. -/
theorem noStaleEvents_exact_stock :
    let replaying : Behaviour := { replayStaleEvents := true }
    let world : Behaviour → World := fun b =>
      World.attending b 800000000 (Hal.runAtFront b (.ofCatalog .stock Hal.silence) watchedOnce)
    let result : World → Except Halt Outcome := fun w =>
      ((Suite.rowOf World.answer {} .noStaleEvents).act w).1
    (∀ b ∈ [{}, replaying], (world b).Flowing ∧ (world b).hal.Idle ∧
      (world b).hal.deadline? = none) ∧
    (Catalog.stock.map (·.handle)).Nodup ∧ Catalog.fault? .stock = none ∧
      Catalog.streaming .stock ≠ [] ∧ ({} : Settings).fault? = none ∧
    result (world {}) = .ok .passed ∧
      ∃ d ∈ Catalog.streaming .stock, result (world replaying) =
        .error (.violation (.staleEvent d.handle 0 (requiredGap {} d))) := by
  intro replaying world result
  have hworld : ∀ b ∈ [{}, replaying], (world b).Flowing ∧ (world b).hal.Idle ∧
      (world b).hal.deadline? = none := by
    intro b hb
    rw [List.mem_cons, List.mem_singleton] at hb
    rcases hb with rfl | rfl
    · refine ⟨World.attending_flowing _ (by decide) (by decide +kernel), ⟨?_, ?_, ?_⟩, ?_⟩
      all_goals decide +kernel
    · refine ⟨World.attending_flowing _ (by decide) (by decide +kernel), ⟨?_, ?_, ?_⟩, ?_⟩
      all_goals decide +kernel
  have hnodup : (Catalog.stock.map (·.handle)).Nodup := by decide +kernel
  have hvalid : Catalog.fault? .stock = none := by
    have hnone : (Catalog.fault? .stock).isNone = true := by decide +kernel
    exact Option.isNone_iff_eq_none.1 hnone
  have hsome : Catalog.streaming .stock ≠ [] := by
    have hsize : (Catalog.streaming .stock).length ≠ 0 := by decide +kernel
    exact fun h => hsize (congrArg List.length h)
  have hsettings : ({} : Settings).fault? = none := by
    have hnone : ({} : Settings).fault?.isNone = true := by decide +kernel
    exact Option.isNone_iff_eq_none.1 hnone
  have hpast : ∀ b, (world b).hal = Hal.runAtFront (world b).behaviour
      (.ofCatalog .stock Hal.silence) watchedOnce := fun _ => rfl
  obtain ⟨hflowing, hidle, hdeadline⟩ := hworld {} List.mem_cons_self
  obtain ⟨hflowing', hidle', hdeadline'⟩ :=
    hworld replaying (List.mem_cons_of_mem _ (List.mem_singleton.2 rfl))
  exact ⟨hworld, hnodup, hvalid, hsome, hsettings,
    noStaleEvents_exact .stock Hal.silence watchedOnce {} (world {}) hflowing (hpast _) hidle
      hdeadline hnodup hvalid hsome hsettings,
    noStaleEvents_exact .stock Hal.silence watchedOnce {} (world replaying) hflowing' (hpast _)
      hidle' hdeadline' hnodup hvalid hsome hsettings⟩

end Scenario

end SensorBench
