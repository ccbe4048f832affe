import SensorBench.Proofs.Trial.FlushCount
import SensorBench.Suite.Run

/-!
# The verdict of the flush scenario

On a rig, whatever its timetable, the scenario that flushes active sensors tells a HAL that
answers each flush once from one that drops or doubles its markers
(`Scenario.flushSensor_exact`), as long as no wait for markers runs out of time while a
flush is unanswered. Each flush test leads from a rig that owes nothing to one that owes
nothing, and ends as `flushVerdict` says (`flushTest_leads`), so the second test sees no
marker of the first.
-/

set_option autoImplicit false

namespace SensorBench

namespace Trial

open Hal.Sampler (markerCount)
open Bench (Rig Timetable)

/-- How a test ends that flushes each of some sensors the same number of times: as the HAL
deals with the first of them. -/
def flushVerdict (b : Behaviour) (n : Nat) : Catalog → Except Halt Unit
  | [] => .ok ()
  | d :: _ =>
    if n * markerCount b 1 = n then .ok ()
    else .error (.violation (.flushCount d.handle n (n * markerCount b 1)))

/-- Each sensor that reports more than once has been flushed some number of times, and a
registered collector has counted all markers. -/
def Counted (b : Behaviour) (catalog : Catalog) (collector n : Nat) (hal : Hal) (hub : Hub) :
    Prop :=
  Counting b catalog collector (flushesOf n catalog.nonOneShot) hal hub ∧ Settled b catalog hal hub

section Tests

variable {b : Behaviour} {t : Timetable} {catalog : Catalog} {collector n : Nat}
  {flushed : List Handle}

theorem Counted.steady : Rig.Steady b (Counted b catalog collector n) :=
  Counting.steady.and Settled.steady

theorem Counting.leads_call {c : Call} (hc : LeavesFlushes c) :
    ((Rig.host b t).call c).Leads Rig.OnTime
      (fun x => Counting b catalog collector flushed x.hal x.hub)
      (Act.Gives fun _ x => Counting b catalog collector flushed x.hal x.hub) :=
  Rig.leads_call (R := fun _ => Counting b catalog collector flushed) Counting.steady
    fun now _ _ hs => hs.call hc now

theorem Counting.leads_switchOn {d : Descriptor} (hd : d ∈ catalog) (hone : d.isOneShot = false) :
    ((Rig.host b t).call (.activate d.handle true)).Leads Rig.OnTime
      (fun x => Counting b catalog collector flushed x.hal x.hub)
      (Act.Gives fun _ x =>
        Counting b catalog collector flushed x.hal x.hub ∧ IsOn d.handle x.hal) :=
  Rig.leads_call
    (R := fun _ hal hub => Counting b catalog collector flushed hal hub ∧ IsOn d.handle hal)
    Counting.steady fun now _ _ hs =>
      ⟨hs.call (c := .activate d.handle true) trivial now, hs.isOn_activate hd hone b now⟩

theorem Counting.leads_flush {h : Handle} :
    ((Rig.host b t).call (.flush h)).Leads Rig.OnTime
      (fun x => Counting b catalog collector flushed x.hal x.hub ∧ IsOn h x.hal)
      (Act.Gives fun reply x => reply = .ok 0 ∧
        Counting b catalog collector (flushed ++ [h]) x.hal x.hub ∧ IsOn h x.hal) :=
  Rig.leads_call
    (R := fun reply hal hub => reply = .ok 0 ∧
      Counting b catalog collector (flushed ++ [h]) hal hub ∧ IsOn h hal)
    (Counting.steady.and (IsOn.steady h)) fun now _ _ hs => hs.1.flush hs.2 now

/-- A flush of a sensor that is on is accepted, as the test requires. -/
theorem requireFlush_leads {h : Handle} (text : String) :
    (((Rig.host b t).beside : Host (Guard × Rig)).call (.flush h) >>= fun reply =>
        requireStatus "flush" text none reply).Leads (fun s => s.2.OnTime)
      (fun s => Counting b catalog collector flushed s.2.hal s.2.hub ∧ IsOn h s.2.hal)
      (Act.Gives fun _ s =>
        Counting b catalog collector (flushed ++ [h]) s.2.hal s.2.hub ∧ IsOn h s.2.hal) := by
  refine (Host.ask_leads Counting.leads_flush).next fun reply => ?_
  show (if statusOf? reply = none then _ else _ : Act _ _).Leads _ _ _
  split
  · exact Act.leads_value fun _ hs => ⟨(), rfl, hs.2⟩
  · next hne =>
    refine Act.leads_violate fun _ hs => absurd ?_ hne
    rw [hs.1]
    rfl

/-- All flushes of one sensor are accepted. -/
theorem flushOne_leads {d : Descriptor} (hd : d ∈ catalog) (hone : d.isOneShot = false)
    (markers : Nat) :
    (flushOne ⟨true, n, markers, none⟩ ((Rig.host b t).beside : Host (Guard × Rig)) d).Leads
      (fun s => s.2.OnTime) (fun s => Counting b catalog collector flushed s.2.hal s.2.hub)
      (Act.Gives fun _ s =>
        Counting b catalog collector (flushed ++ List.replicate n d.handle) s.2.hal s.2.hub) := by
  refine (Host.ask_leads (Counting.leads_call (c := .batch d.handle _ _) trivial)).next fun _ => ?_
  refine (Guard.call_leads (Counting.leads_switchOn hd hone)).next fun _ => ?_
  refine Act.Leads.next (R := fun _ s =>
    Counting b catalog collector (flushed ++ List.replicate n d.handle) s.2.hal s.2.hub) ?flushes
    fun _ => ?switchOff
  case flushes =>
    -- as many flushes have been accepted as rounds are done
    refine (Act.Leads.each (I := fun before s => Counting b catalog collector
      (flushed ++ List.replicate before.length d.handle) s.2.hal s.2.hub ∧
        IsOn d.handle s.2.hal) fun before i _ => ?round).mono ?start ?stop
    case round =>
      refine (requireFlush_leads d.handle.text).mono (fun _ => id) fun r s _ hr => ?_
      rw [List.length_append, List.length_singleton, List.replicate_succ', ← List.append_assoc]
      exact hr
    case start =>
      intro s hs
      rw [List.length_nil, List.replicate_zero, List.append_nil]
      exact hs
    case stop =>
      rintro r s - ⟨_, hok, hs⟩
      rw [List.length_range] at hs
      exact ⟨(), hok, hs.1⟩
  case switchOff =>
    refine (Guard.call_leads (Counting.leads_call (c := .activate d.handle false) trivial)).next
      fun _ => ?_
    exact Act.leads_value fun _ hs => ⟨(), rfl, hs⟩

theorem Fit.distinct_nonOneShot {hal : Hal} {hub : Hub} (h : Fit catalog hal hub) :
    (catalog.nonOneShot.map (·.handle)).Nodup :=
  h.distinct.sublist (List.filter_sublist.map _)

theorem Fit.count_flushesOf {hal : Hal} {hub : Hub} (h : Fit catalog hal hub) (n : Nat)
    (k : Handle) :
    (flushesOf n catalog.nonOneShot).count k =
      if k ∈ catalog.nonOneShot.map (·.handle) then n else 0 :=
  Trial.count_flushesOf n h.distinct_nonOneShot k

/-- All flushes of a test are accepted. -/
theorem flushAll_leads (markers : Nat) :
    (Act.each catalog.nonOneShot
        (flushOne ⟨true, n, markers, none⟩ ((Rig.host b t).beside : Host (Guard × Rig)))).Leads
      (fun s => s.2.OnTime) (fun s => Counting b catalog collector [] s.2.hal s.2.hub)
      (Act.Gives fun _ s =>
        Counting b catalog collector (flushesOf n catalog.nonOneShot) s.2.hal s.2.hub) := by
  refine Act.Leads.each (I := fun before (s : Guard × Rig) =>
    Counting b catalog collector (flushesOf n before) s.2.hal s.2.hub) fun before d hd => ?_
  have hmem : d ∈ catalog.nonOneShot :=
    hd.subset (List.mem_append_right before List.mem_cons_self)
  obtain ⟨hlisted, hone⟩ := List.mem_filter.1 hmem
  refine (flushOne_leads hlisted (by simpa using hone) markers).mono (fun _ => id)
    fun r s _ hr => ?_
  rw [flushesOf, List.flatMap_append, List.flatMap_singleton]
  exact hr

/-- After the wait all markers have been counted, if it did not run out of time while a
flush was unanswered. -/
theorem await_leads (time : Int) :
    ((Rig.host b t).ask (.awaitFlushes collector (catalog.nonOneShot.map (·.handle)) n time)).Leads
      Rig.OnTime
      (fun x => (n = 1 ∨ markerCount b 1 = 1) ∧
        Counting b catalog collector (flushesOf n catalog.nonOneShot) x.hal x.hub)
      (Act.Gives fun _ x => Counted b catalog collector n x.hal x.hub) := by
  refine Rig.leads_ask (R := fun _ => Counted b catalog collector n) Counting.steady.beside
    fun clock times x hx hontime => ?_
  have hcounting := Counting.steady.wait
    (fun hub => (hub.collector collector).hasFlushes (catalog.nonOneShot.map (·.handle)) n) times
    hx.2
  have hdone := Rig.answered_of_onTime hontime hcounting.sound
  exact ⟨hcounting, hcounting.settled_of_wait (hcounting.count_flushesOf n) hx.1 hdone⟩

/-- The markers counted for one sensor are compared with what the test expects. -/
theorem checkOne_leads {d : Descriptor} (hd : d ∈ catalog.nonOneShot) :
    (do
      let seen ← (Rig.host b t).ask (.delivered collector)
      let actual := Collector.flushCount seen d.handle
      if actual = n then .value ()
      else .violate (.flushCount d.handle n actual) : Act Rig Unit).Leads Rig.OnTime
      (fun x => Counted b catalog collector n x.hal x.hub)
      (fun r x => r = flushVerdict b n [d] ∧
        Counted b catalog collector n x.hal x.hub) := by
  have hread : ((Rig.host b t).ask (.delivered collector)).Leads Rig.OnTime
      (fun x => Counted b catalog collector n x.hal x.hub)
      (Act.Gives fun (seen : Collector) x => seen.flushCount d.handle = n * markerCount b 1 ∧
        Counted b catalog collector n x.hal x.hub) := by
    refine Rig.leads_ask (q := .delivered collector)
      (R := fun (seen : Collector) hal hub => seen.flushCount d.handle = n * markerCount b 1 ∧
        Counted b catalog collector n hal hub)
      Counted.steady fun clock times x hx _ => ⟨?_, hx⟩
    have hcount := hx.1.flushCount_eq hx.2 d.handle
    rw [hx.1.count_flushesOf n, if_pos (List.mem_map_of_mem hd)] at hcount
    exact hcount
  refine hread.next fun seen => ?_
  dsimp only
  split
  · next hactual =>
    refine Act.leads_value fun x hx => ⟨?_, hx.2⟩
    rw [flushVerdict, if_pos (hx.1.symm.trans hactual)]
  · next hactual =>
    refine Act.leads_violate fun x hx => ⟨?_, hx.2⟩
    rw [flushVerdict, if_neg fun h => hactual (hx.1.trans h), hx.1]

/-- The markers counted are compared sensor by sensor, up to the first that is wrong. -/
theorem check_leads {sensors : Catalog} (hsensors : ∀ d ∈ sensors, d ∈ catalog.nonOneShot) :
    (Act.each sensors fun d => do
        let seen ← (Rig.host b t).ask (.delivered collector)
        let actual := Collector.flushCount seen d.handle
        if actual = n then .value ()
        else .violate (.flushCount d.handle n actual)).Leads Rig.OnTime
      (fun x => Counted b catalog collector n x.hal x.hub)
      (fun r x => r = flushVerdict b n sensors ∧
        Counted b catalog collector n x.hal x.hub) := by
  induction sensors with
  | nil => exact Act.leads_value fun _ hx => ⟨rfl, hx⟩
  | cons d rest ih =>
    have hfirst := @checkOne_leads b t catalog collector n d (hsensors d List.mem_cons_self)
    have hrest := ih fun e he => hsensors e (List.mem_cons_of_mem d he)
    by_cases hn : n * markerCount b 1 = n
    · have hsame : flushVerdict b n rest = flushVerdict b n (d :: rest) := by
        rw [flushVerdict, if_pos hn]
        cases rest with
        | nil => rfl
        | cons e more => exact if_pos hn
      refine Act.Leads.next (R := fun _ x => Counted b catalog collector n x.hal x.hub)
        (hfirst.mono (fun _ => id) fun r x _ hr => ?_) fun _ => ?_
      · exact ⟨(), hr.1.trans (if_pos hn), hr.2⟩
      · exact hrest.mono (fun _ => id) fun r x _ hr => ⟨hr.1.trans hsame, hr.2⟩
    -- a sensor that is wrong ends the test
    · refine Act.Leads.andThen (R := fun _ _ => False)
        (hfirst.mono (fun _ => id) fun r x _ hr => ?_) fun _ => hrest.unreached
      rw [hr.1.trans (if_neg hn)]
      exact ⟨(if_neg hn).symm, hr.2⟩

/-- A release neither flushes nor injects. -/
theorem leavesFlushes_of_mem_releases {g : Guard} {c : Call} (hc : c ∈ g.releases) :
    LeavesFlushes c := by
  obtain ⟨r, rfl⟩ := Guard.eq_release_of_mem hc
  cases r <;> trivial

/-- The flushes of a test, under a guard of their own. -/
theorem guardedFlushes_leads (markers : Nat) :
    (guarded (Rig.host b t) fun host =>
        Act.each catalog.nonOneShot (flushOne ⟨true, n, markers, none⟩ host)).Leads Rig.OnTime
      (fun x => Counting b catalog collector [] x.hal x.hub)
      (Act.Gives fun _ x =>
        Counting b catalog collector (flushesOf n catalog.nonOneShot) x.hal x.hub) := by
  refine guarded_leads (flushAll_leads markers) fun r g c hc => ?_
  -- a release keeps the balance, and has nothing to do with how the flushes ended
  have hsteady : Rig.Steady b fun hal hub => ∃ a : Unit, r = .ok a ∧
      Counting b catalog collector (flushesOf n catalog.nonOneShot) hal hub :=
    fun x now ⟨a, hr, hx⟩ => ⟨a, hr, Counting.steady x now hx⟩
  refine Rig.leads_release (R := fun _ hal hub => ∃ a : Unit, r = .ok a ∧
    Counting b catalog collector (flushesOf n catalog.nonOneShot) hal hub) hsteady ?_
  rintro now hal hub ⟨a, hr, hx⟩
  exact ⟨a, hr, hx.call (leavesFlushes_of_mem_releases hc) now⟩

/-- A flush test leads from a rig that owes nothing to one that owes nothing, if its wait
ends with all markers counted or with more than one marker for its one flush. -/
theorem flushTest_leads (settings : Settings) :
    (flushTest ⟨Rig.host b t, settings, catalog⟩ catalog.nonOneShot ⟨true, n, n, none⟩).Leads
      Rig.OnTime (fun x => (n = 1 ∨ markerCount b 1 = 1) ∧ Settled b catalog x.hal x.hub)
      (fun r x => r = flushVerdict b n catalog.nonOneShot ∧ Settled b catalog x.hal x.hub) := by
  have hsubscribe : ((Rig.host b t).ask .subscribe).Leads Rig.OnTime
      (fun x => Settled b catalog x.hal x.hub)
      (Act.Gives fun (collector : Nat) x => Counting b catalog collector [] x.hal x.hub) :=
    Rig.leads_ask (q := .subscribe) (R := fun (collector : Nat) => Counting b catalog collector [])
      Settled.steady fun _ _ _ hx _ => hx.subscribe
  have hunsubscribe : ∀ r, ((Rig.host b t).ask .unsubscribe).Leads Rig.OnTime
      (fun x => r = flushVerdict b n catalog.nonOneShot ∧ Settled b catalog x.hal x.hub)
      (Act.Gives fun _ x => r = flushVerdict b n catalog.nonOneShot ∧
        Settled b catalog x.hal x.hub) := fun r =>
    Act.Leads.frame _ (Rig.leads_ask (R := fun _ => Settled b catalog) Settled.steady
      fun _ _ _ hx _ => hx.unsubscribe)
  refine subscribed_leads (hsubscribe.frame _) (fun collector => ?_) hunsubscribe
  -- flush, wait, compare: the balance holds through all three, and the wait settles it
  refine ((guardedFlushes_leads n).frame _).next fun _ => ?_
  refine (await_leads _).next fun _ => ?_
  exact (check_leads fun _ => id).mono (fun _ => id) fun r x _ hr => ⟨hr.1, hr.2.2⟩

end Tests

section Scenario

variable {b : Behaviour} {t : Timetable} {catalog : Catalog}

/-- How the flush scenario ends: it is skipped where no sensor reports more than once, and
otherwise goes as its first test goes. -/
def flushOutcome (b : Behaviour) (catalog : Catalog) : Except Halt Outcome :=
  if catalog.nonOneShot.isEmpty then .ok (.skipped "no non-one-shot sensors")
  else match flushVerdict b 1 catalog.nonOneShot with
    | .ok _ => .ok .passed
    | .error h => .error h

/-- A HAL that brings one marker for each flush passes all tests. -/
theorem flushVerdict_eq_ok (hone : markerCount b 1 = 1) (n : Nat) (sensors : Catalog) :
    flushVerdict b n sensors = .ok () := by
  cases sensors with
  | nil => rfl
  | cons d rest =>
    apply if_pos
    rw [hone, Nat.mul_one]

theorem flushSensor_leads (settings : Settings) :
    (flushSensor ⟨Rig.host b t, settings, catalog⟩).Leads Rig.OnTime
      (fun x => Settled b catalog x.hal x.hub) (fun r _ => r = flushOutcome b catalog) := by
  have htest := fun n => @flushTest_leads b t catalog n settings
  rw [flushSensor, flushOutcome]
  dsimp only
  split
  · exact Act.leads_value fun _ _ => rfl
  · next hsome =>
    by_cases hone : markerCount b 1 = 1
    · have hpass : ∀ n, (flushTest ⟨Rig.host b t, settings, catalog⟩ catalog.nonOneShot
          ⟨true, n, n, none⟩).Leads Rig.OnTime (fun x => Settled b catalog x.hal x.hub)
          (Act.Gives fun _ x => Settled b catalog x.hal x.hub) := fun n =>
        (htest n).mono (fun x hx => ⟨Or.inr hone, hx⟩) fun r x _ hr =>
          ⟨(), hr.1.trans (flushVerdict_eq_ok hone _ _), hr.2⟩
      rw [flushVerdict_eq_ok hone]
      refine (hpass 1).next fun _ => (hpass 5).next fun _ => ?_
      exact Act.leads_value fun _ _ => rfl
    -- the first test ends the scenario
    · obtain ⟨v, hv⟩ : ∃ v, flushVerdict b 1 catalog.nonOneShot = .error v := by
        generalize catalog.nonOneShot = sensors at hsome
        cases sensors with
        | nil => exact absurd rfl hsome
        | cons d rest =>
          rw [flushVerdict, if_neg (by omega)]
          exact ⟨_, rfl⟩
      rw [hv]
      refine Act.Leads.andThen (R := fun _ _ => False)
        ((htest 1).mono (fun x hx => ⟨Or.inl rfl, hx⟩) fun r x _ hr => ?_) fun _ => ?_
      · rw [hr.1, hv]
      · refine Act.Leads.next (R := fun _ _ => False) (htest 5).unreached fun _ => ?_
        exact Act.leads_value fun _ => False.elim

/-- How the flush scenario ends, by the faults of the HAL. -/
theorem flushOutcome_eq (b : Behaviour) (catalog : Catalog) :
    flushOutcome b catalog = match catalog.nonOneShot with
      | [] => .ok (.skipped "no non-one-shot sensors")
      | d :: _ =>
        if b.dropFlushMarkers then .error (.violation (.flushCount d.handle 1 0))
        else if b.duplicateFlushMarkers then .error (.violation (.flushCount d.handle 1 2))
        else .ok .passed := by
  rw [flushOutcome]
  cases catalog.nonOneShot with
  | nil => rfl
  | cons d rest =>
    rw [List.isEmpty_cons, if_neg Bool.false_ne_true, flushVerdict, markerCount]
    cases b.dropFlushMarkers with
    | true => rfl
    | false => cases b.duplicateFlushMarkers <;> rfl

/-- The sensors that the scenario is given are those that the HAL lists. -/
theorem flushRow_leads (settings : Settings) :
    (Suite.rowOf (Rig.host b t) settings .flushSensor).act.Leads Rig.OnTime
      (fun x => Settled b catalog x.hal x.hub) (fun r _ => r = flushOutcome b catalog) := by
  have hlist : ((Rig.host b t).ask .sensors).Leads Rig.OnTime
      (fun x => Settled b catalog x.hal x.hub)
      (Act.Gives fun (listed : Catalog) x => listed = catalog ∧ Settled b catalog x.hal x.hub) :=
    Rig.leads_ask (q := .sensors)
      (R := fun (listed : Catalog) hal hub => listed = catalog ∧ Settled b catalog hal hub)
      Settled.steady fun _ _ _ hx _ => ⟨hx.listed, hx⟩
  show (Act.andThen ((Rig.host b t).ask .sensors) fun listed =>
    flushSensor ⟨Rig.host b t, settings, listed⟩).Leads _ _ _
  refine hlist.next fun listed => ?_
  by_cases hsame : listed = catalog
  · subst hsame
    exact (flushSensor_leads settings).mono (fun _ hx => hx.2) fun _ _ _ => id
  · exact (flushSensor_leads settings).unreached.mono (fun _ hx => hsame hx.1) fun _ _ _ => id

end Scenario

end Trial

namespace Scenario

open Bench (Rig Timetable)

/-- On a reference HAL of any catalog that owes nothing, and with a session that reads its
queue, the flush scenario is exact, however its calls meet deliveries, as long as no wait for
markers runs out of time while a flush is unanswered. It is skipped where no sensor reports
more than once. Otherwise it passes on a HAL that neither drops nor doubles markers, and
fails on any other: its first test counts no marker or two for the first of the sensors. -/
theorem flushSensor_exact (c : Catalog) (signal : Hal.Signal) (b : Behaviour)
    (past : List Hal.Turn) (hub : Hub) (settings : Settings) (t : Timetable) :
    let hal := Hal.runAtFront b (.ofCatalog c signal) past
    let run := (Suite.rowOf (Rig.host b t) settings .flushSensor).act (.start hal hub)
    hal.waiting = [] → (∀ h, hal.pending h = 0) → hal.queue.bind hub.readerOf? = some 0 →
    run.2.OnTime →
    run.1 = match hal.catalog.nonOneShot with
      | [] => .ok (.skipped "no non-one-shot sensors")
      | d :: _ =>
        if b.dropFlushMarkers then .error (.violation (.flushCount d.handle 1 0))
        else if b.duplicateFlushMarkers then .error (.violation (.flushCount d.handle 1 2))
        else .ok .passed := by
  intro hal run hwaiting hpending hreads hontime
  have hsound : hal.Sound :=
    Hal.runAtFront_keeps (fun _ m _ h => h.step b m) (Hal.ofCatalog_sound c signal)
  have hunmarked : hal.Unmarked := by
    intro i hi
    rw [hwaiting] at hi
    exact absurd hi List.not_mem_nil
  have hsettled : Trial.Settled b hal.catalog hal hub :=
    ⟨⟨hsound, hunmarked, rfl, hreads⟩, fun h => by rw [hpending, Nat.zero_mul]⟩
  have hrun := (Trial.flushRow_leads settings (.start hal hub) hontime).2 hsettled
  exact hrun.trans (Trial.flushOutcome_eq b hal.catalog)

open Hal in
/-- Two sensors that report more than once. -/
def twoSensors : Catalog := [barometer, { barometer with handle := Handle.ofInt 8 }]

open Hal in
/-- A client connects queue zero, and has one sensor flushed and the marker delivered. -/
def oneFlush : List Turn :=
  [⟨0, .connect 0 false⟩, ⟨0, .call (.activate barometer.handle true)⟩,
    ⟨1000000, .call (.flush barometer.handle)⟩, ⟨2000000, .advance⟩]

/-- One session, which reads queue zero. -/
def soleReader : Hub := ⟨#[.ofCapacity 4], #[⟨some 0, none, none, 0, 0⟩], #[]⟩

/-- Requests three milliseconds apart, with a delivery before every other of them and two
while each waits. -/
def spreadDeliveries : Timetable :=
  ⟨fun k => if k % 2 = 0 then [k * 3000000] else [],
    fun k => [k * 3000000 + 1000000, k * 3000000 + 2000000], fun k => k * 3000000⟩

/-- A HAL that answers each flush once is told from one that doubles the markers. -/
theorem flushSensor_exact_spread :
    let doubling : Behaviour := { duplicateFlushMarkers := true }
    let hal := Hal.runAtFront {} (.ofCatalog twoSensors Hal.silence) oneFlush
    let faulty := Hal.runAtFront doubling (.ofCatalog twoSensors Hal.silence) oneFlush
    let run := (Suite.rowOf (Rig.host {} spreadDeliveries) {} .flushSensor).act
      (.start hal soleReader)
    let failing := (Suite.rowOf (Rig.host doubling spreadDeliveries) {} .flushSensor).act
      (.start faulty soleReader)
    (hal.waiting = [] ∧ (∀ h, hal.pending h = 0) ∧
      hal.queue.bind soleReader.readerOf? = some 0 ∧ run.2.OnTime ∧ run.1 = .ok .passed) ∧
    faulty.waiting = [] ∧ (∀ h, faulty.pending h = 0) ∧
      faulty.queue.bind soleReader.readerOf? = some 0 ∧ failing.2.OnTime ∧
      failing.1 = .error (.violation (.flushCount Hal.barometer.handle 1 2)) := by
  intro doubling hal faulty run failing
  have hanswered : ∀ b, (Rig.start (Hal.runAtFront b (.ofCatalog twoSensors Hal.silence)
      oneFlush) soleReader).owes = false →
      ∀ h, (Hal.runAtFront b (.ofCatalog twoSensors Hal.silence) oneFlush).pending h = 0 := by
    intro b
    have hsound : (Hal.runAtFront b (.ofCatalog twoSensors Hal.silence) oneFlush).Sound :=
      Hal.runAtFront_keeps (fun _ m _ h => h.step b m) (Hal.ofCatalog_sound _ _)
    exact (Rig.owes_eq_false_iff hsound).1
  have hpending := hanswered {} (by decide +kernel)
  have hpending' := hanswered doubling (by decide +kernel)
  have hwaiting : hal.waiting = [] := by decide +kernel
  have hwaiting' : faulty.waiting = [] := by decide +kernel
  have hreads : hal.queue.bind soleReader.readerOf? = some 0 := by decide +kernel
  have hreads' : faulty.queue.bind soleReader.readerOf? = some 0 := by decide +kernel
  have hontime : run.2.OnTime := by
    show run.2.overdue = false
    decide +kernel
  have hontime' : failing.2.OnTime := by
    show failing.2.overdue = false
    decide +kernel
  have hpassed := flushSensor_exact twoSensors Hal.silence {} oneFlush soleReader {}
    spreadDeliveries hwaiting hpending hreads hontime
  have hfailed := flushSensor_exact twoSensors Hal.silence doubling oneFlush soleReader {}
    spreadDeliveries hwaiting' hpending' hreads' hontime'
  refine ⟨⟨hwaiting, hpending, hreads, hontime, hpassed.trans ?_⟩,
    hwaiting', hpending', hreads', hontime', hfailed.trans ?_⟩
  · decide +kernel
  · decide +kernel

end Scenario

end SensorBench
