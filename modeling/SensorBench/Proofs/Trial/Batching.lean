import Mathlib.Tactic.IntervalCases
import Mathlib.Tactic.Linarith
import SensorBench.Proofs.Bench.Timed
import SensorBench.Proofs.Hal.Buffering
import SensorBench.Proofs.Trial.Admitted
import SensorBench.Proofs.Trial.Share
import SensorBench.Sensor.Stock

/-!
# The verdict of the batching scenario

In a timed world the batching scenario sees the samples of a grid: those buffered when its
second collector is registered, modulo the size of the buffer, and those taken until the second
flush (`Trial.brought`). It fails if these are no more than nine tenths of the reserved buffer and
the wait is too short for another full buffer (`Scenario.batching_exact`). A healthy HAL never
comes to that if the whole reserved buffer is waited for at the shortest delay and has at least
five samples, or is smaller than the buffer (`Trial.not_fallsShort`), although the scenario rounds
the time for which it sleeps; where the period is capped the scenario blames a healthy HAL
(`Scenario.batching_capped_fails`).
-/

set_option autoImplicit false

namespace SensorBench

namespace Trial

open Hal (Grounded Tuned NotDue leastTime greatestTime gridCount)
open Hal.Sampler (leastPeriod)
open Bench.World (Shows Flows Waited)

variable {b : Behaviour} {catalog : Catalog} {d : Descriptor} {start now later : Int}
  {k : Nat} {hal : Hal} {hub : Hub}

/-! ## One sensor runs -/

/-- One sensor runs since `start`, and all others rest. -/
structure Stocked (catalog : Catalog) (d : Descriptor) (start now : Int) (hal : Hal)
    (s : Hal.Sampler) : Prop where
  clear : hal.Clear
  listed : hal.catalog = catalog
  here : hal.sensor? d.handle = some s
  descriptor : s.descriptor = d
  runs : s.Runs start now
  rests : ∀ j t, hal.sensor? j = some t → j ≠ d.handle → t.Rests

/-- The same with a number of samples held back, room for another, and nothing due at once. -/
def Gathering (catalog : Catalog) (d : Descriptor) (start : Int) (held : Nat) (now : Int)
    (hal : Hal) : Prop :=
  ∃ s, Stocked catalog d start now hal s ∧ s.buffer.length = held ∧ held < d.fifoMax.toNat ∧
    s.pendingFlushes = 0 ∧ s.replay = none

/-- The samples due are the points of the grid between two times. -/
theorem Stocked.dueCount_eq {s : Hal.Sampler} (h : Stocked catalog d start now hal s)
    (hle : now ≤ later) : Hal.dueCount s.nextDue s.period later =
      gridCount d start later - gridCount d start now := by
  rw [Hal.gridCount_add d start hle, h.runs.next, h.runs.period, h.descriptor]
  omega

/-- The running sensor changed by a call. -/
theorem Stocked.setSensor {s t : Hal.Sampler} (h : Stocked catalog d start now hal s)
    (hsound : hal.Sound) (ht : t.descriptor = s.descriptor) (hruns : t.Runs start now) :
    Stocked catalog d start now (hal.setSensor t) t := by
  have hhandle : t.handle = d.handle := congrArg Descriptor.handle (ht.trans h.descriptor)
  refine ⟨h.clear.setSensor t, (Hal.catalog_setSensor hsound h.here ht).trans h.listed,
    Hal.sensor?_setSensor_self h.here hhandle, ht.trans h.descriptor, hruns, fun j u hu hj => ?_⟩
  rw [Hal.sensor?_setSensor_other fun e => hj (e.symm.trans hhandle)] at hu
  exact h.rests j u hu hj

/-- A step of time that brings no more samples than there is room for. -/
theorem Stocked.advance {s : Hal.Sampler} (h : Stocked catalog d start now hal s)
    (hpunctual : hal.Punctual) (hnow : leastTime ≤ now) (hle : now ≤ later)
    (hlater : later - start < greatestTime)
    (hroom : s.buffer.length + Hal.dueCount s.nextDue s.period later ≤ d.fifoMax.toNat)
    (hsize : 0 < d.fifoMax.toNat) :
    Gathering catalog d start (if 0 < s.pendingFlushes then 0
      else (s.buffer.length + Hal.dueCount s.nextDue s.period later) % d.fifoMax.toNat) later
      (hal.advance b later).2 := by
  have hown := hpunctual.sound.of_sensor? h.here
  obtain ⟨hd, -, -, hflushes, hreplay⟩ :=
    Hal.Sampler.advance_facts (s := s) b true later (hal.signalFor b later d.handle)
  obtain ⟨hruns, hlength⟩ := h.runs.advance (b := b) hown hle hlater (h.descriptor ▸ hroom)
    (hal.signalFor b later d.handle)
  rw [h.descriptor] at hlength
  have hhere : (hal.advance b later).2.sensor? d.handle =
      some (s.advance b true later (hal.signalFor b later d.handle)).2.1 := by
    rw [Hal.sensor?_advance, h.here, h.clear.measuring]
    rfl
  refine ⟨_, ⟨h.clear.advance b later, (hpunctual.sound.catalog_step b ⟨later, .advance⟩).trans
    h.listed, hhere, hd.trans h.descriptor, hruns, ?_⟩, hlength, ?_, hflushes, hreplay⟩
  · refine Hal.forall_sensor?_advance h.clear fun j t ht hj => ?_
    have hrests := h.rests j t ht hj
    rw [hrests.advance (hpunctual.filling_of_sensor? ht) (Int.le_trans hnow hle)]
    exact hrests
  · split
    · exact hsize
    · exact Nat.mod_lt _ hsize

section Gathering

variable {held : Nat}

theorem Gathering.notDue (h : Gathering catalog d start held now hal) (hpunctual : hal.Punctual)
    (hstart : 0 ≤ start) (hnow : leastTime ≤ now) (hend : now < greatestTime) :
    NotDue now hal.deadline? := by
  obtain ⟨s, hs, -, -, hflushes, hreplay⟩ := h
  refine (hs.clear.notDue_iff hpunctual.sound hnow).2 fun j t ht => ?_
  by_cases hj : j = d.handle
  · subst hj
    cases hs.here.symm.trans ht
    exact hs.runs.notDue hstart hend hflushes hreplay
  · exact (hs.rests j t ht hj).notDue now true

/-- A step of time up to the next deadline brings at most one sample, and one that fills the
buffer empties it. -/
theorem Gathering.advance (h : Gathering catalog d start held now hal) (hpunctual : hal.Punctual)
    (hnow : leastTime ≤ now) (hle : now ≤ later) (hlater : later - start < greatestTime)
    (hdue : ∀ t ∈ hal.deadline?, later ≤ t) :
    Gathering catalog d start
      ((held + (gridCount d start later - gridCount d start now)) % d.fifoMax.toNat) later
      (hal.advance b later).2 := by
  obtain ⟨s, hs, rfl, hroom, hflushes, hreplay⟩ := h
  have hcount := hs.dueCount_eq hle
  have hnext : later ≤ s.nextDue := by
    have hafter := Hal.lt_dueAfter (Hal.Sampler.leastPeriod_pos s.descriptor)
      (start + leastPeriod s.descriptor) now
    rw [← hs.runs.next] at hafter
    by_cases hstill : later = now
    · omega
    · -- nothing is due a moment before
      have hbefore : NotDue (later - 1) hal.deadline? := fun t ht => by
        have := hdue t ht
        omega
      have hquiet := (hs.clear.notDue_iff hpunctual.sound (by omega)).1 hbefore _ s hs.here
      have hm : (s.enabled && true) = true := by
        rw [hs.runs.on]
        rfl
      have := ((Hal.Sampler.notDue_facts (by omega) hquiet).2.2 hm).1
      omega
  have hone := Hal.dueCount_le_one
    (Hal.Sampler.Sound.period_pos (hpunctual.sound.of_sensor? hs.here)) hnext
  have hstep := hs.advance (b := b) hpunctual hnow hle hlater (by omega) (by omega)
  rw [if_neg (by omega), hcount] at hstep
  exact hstep

/-- What a collector has of the running sensor after a step of time: what it had, what was held
back and what was taken, less what is held back now. -/
theorem Stocked.tally {s : Hal.Sampler} (h : Stocked catalog d start now hal s)
    (hsound : hal.Sound) (hkind : d.kind.isMeta = false) (hreplay : s.replay = none)
    (hfeeds : hub.Feeds k) (b : Behaviour) (later : Int) {held : Nat}
    (hheld : Gathering catalog d start held later (hal.advance b later).2) :
    ((hub.receive (hal.advance b later).1).collector k).eventCount d.handle + held =
      (hub.collector k).eventCount d.handle + s.buffer.length +
        Hal.dueCount s.nextDue s.period later := by
  obtain ⟨t, ht, rfl, -⟩ := hheld
  have hm : (s.enabled && true) = true := by
    rw [h.runs.on]
    rfl
  have htaken := (Hal.Sampler.advance_grid b later (hal.signalFor b later d.handle) hm
    h.runs.flows).2.1
  have hcount := congrArg List.length htaken
  rw [List.length_map, Hal.length_dueTimes] at hcount
  have hnext : (s.advance b true later (hal.signalFor b later d.handle)).2.1 = t := by
    have hthere := ht.here
    rw [Hal.sensor?_advance, h.here, h.clear.measuring] at hthere
    exact Option.some.inj hthere
  have hbalance := congrArg List.length (hfeeds.events_advance hsound h.clear.waiting h.here
    (h.descriptor ▸ hkind) b later)
  rw [h.clear.measuring, hnext, hreplay] at hbalance
  simp only [List.length_append, Option.toList_none, List.length_nil, Nat.add_zero, hcount]
    at hbalance
  simpa only [Collector.eventCount, Collector.events, Array.length_toList] using hbalance

end Gathering

/-! ## Phases -/

/-- The sensor runs since a time before `since`, at which it held a number of samples back. -/
def Phase (catalog : Catalog) (d : Descriptor) (start since : Int) (held : Nat) (now : Int)
    (hal : Hal) : Prop :=
  since ≤ now ∧ Gathering catalog d start
    ((held + (gridCount d start now - gridCount d start since)) % d.fifoMax.toNat) now hal

/-- What a collector has of the sensor in a phase, if it had a number of samples when the phase
began. -/
def Tally (d : Descriptor) (start since : Int) (held k count : Nat) (now : Int) (hub : Hub) :
    Prop :=
  hub.Feeds k ∧ (hub.collector k).eventCount d.handle +
      (held + (gridCount d start now - gridCount d start since)) % d.fifoMax.toNat =
    count + (held + (gridCount d start now - gridCount d start since))

section Phases

variable {since limit : Int} {held count : Nat}

theorem Phase.advance (h : Phase catalog d start since held now hal) (hpunctual : hal.Punctual)
    (hnow : leastTime ≤ now) (hle : now ≤ later) (hlater : later - start < greatestTime)
    (hdue : ∀ t ∈ hal.deadline?, later ≤ t) :
    Phase catalog d start since held later (hal.advance b later).2 := by
  have hstep := h.2.advance (b := b) hpunctual hnow hle hlater hdue
  have hearly := Hal.gridCount_mono d start h.1
  have hlate := Hal.gridCount_mono d start hle
  have hsum : held + (gridCount d start now - gridCount d start since) +
      (gridCount d start later - gridCount d start now) =
      held + (gridCount d start later - gridCount d start since) := by omega
  rw [Nat.mod_add_mod, hsum] at hstep
  exact ⟨Int.le_trans h.1 hle, hstep⟩

theorem Tally.advance (h : Tally d start since held k count now hub)
    (hphase : Phase catalog d start since held now hal) (hkind : d.kind.isMeta = false)
    (hsound : hal.Sound) (hle : now ≤ later)
    (hnext : Phase catalog d start since held later (hal.advance b later).2) :
    Tally d start since held k count later (hub.receive (hal.advance b later).1) := by
  obtain ⟨hfeeds, htally⟩ := h
  obtain ⟨hsince, s, hs, hheld, -, -, hreplay⟩ := hphase
  have hstep := hs.tally hsound hkind hreplay hfeeds b later hnext.2
  have hearly := Hal.gridCount_mono d start hsince
  have hlate := Hal.gridCount_mono d start hle
  rw [hheld, hs.dueCount_eq hle] at hstep
  exact ⟨hfeeds.receive _, by omega⟩

variable (hstart : 0 ≤ start) (hlimit : limit < greatestTime)

include hstart hlimit

variable (catalog d since limit held) in
theorem Phase.flows : Flows b limit fun now hal _ => Phase catalog d start since held now hal where
  settled := fun hpunctual hnow hle h =>
    h.2.notDue hpunctual hstart hnow (Int.lt_of_le_of_lt hle hlimit)
  passes := fun hpunctual hclock hle hnow hdue h =>
    h.advance hpunctual hclock hle (by omega) hdue

variable (catalog k since limit held count) in
/-- The same with what a collector has. -/
theorem Tally.flows (hkind : d.kind.isMeta = false) : Flows b limit fun now hal hub =>
    Phase catalog d start since held now hal ∧ Tally d start since held k count now hub where
  settled := fun hpunctual hnow hle h =>
    h.1.2.notDue hpunctual hstart hnow (Int.lt_of_le_of_lt hle hlimit)
  passes := fun hpunctual hclock hle hnow hdue h =>
    have hnext := h.1.advance hpunctual hclock hle (by omega) hdue
    ⟨hnext, h.2.advance h.1 hkind hpunctual.sound hle hnext⟩

end Phases

/-! ## Calls -/

section Calls

variable {held count : Nat}

variable (b start) in
/-- The sensor is tuned to its least period, with no limit to its report latency. -/
theorem unlimit_leads (hadmitted : d.Admitted) (hd : d ∈ catalog) :
    (Bench.World.answer.call (.batch d.handle d.minDelayNs greatestTime)).Leads (fun _ => True)
      (Shows b fun clock hal _ => clock = start ∧ Grounded catalog hal)
      (Act.Gives fun reply w => reply = .ok 0 ∧ w.Shows b fun clock hal _ =>
        clock = start ∧ Grounded catalog hal ∧ Tuned d greatestTime hal) := by
  refine Bench.World.leads_quietCall (fun _ _ _ => Call.noConfusion) ?_
  rintro clock hal hub hpunctual hnow ⟨rfl, hground⟩
  obtain ⟨s, hs, rfl⟩ := Hal.sensor?_of_listed hpunctual.sound hground.listed hd
  have hrests := hground.rests _ s hs
  have hcall := Hal.perform_batch b clock hs
    (hrests.buffer (hpunctual.sound.of_sensor? hs)) s.descriptor.minDelayNs_nonneg
    (by decide : 0 ≤ greatestTime)
  have hcatalog : (hal.setSensor (s.retune clock s.descriptor.minDelayNs greatestTime)).catalog =
      hal.catalog := Hal.catalog_setSensor hpunctual.sound hs rfl
  have hnext : Grounded catalog
      (hal.setSensor (s.retune clock s.descriptor.minDelayNs greatestTime)) :=
    ⟨hground.clear.setSensor _, hcatalog.trans hground.listed,
      Hal.forall_sensor?_setSensor hs rfl (hrests.retune _ _ _) fun i u _ hu =>
        hground.rests i u hu⟩
  refine ⟨_, hcall, rfl, hnext.notDue (hpunctual.perform hcall).sound hnow, rfl, hnext, _,
    Hal.sensor?_setSensor_self hs rfl, rfl, ?_, rfl⟩
  exact Hal.Sampler.periodFor_minDelay hadmitted

variable (b catalog start) in
/-- A tuned sensor runs when it is switched on. -/
theorem run_leads (hflows : d.isOneShot = false) (hsize : 0 < d.fifoMax.toNat) :
    (Bench.World.answer.call (.activate d.handle true)).Leads (fun _ => True)
      (Shows b fun clock hal _ => clock = start ∧ Grounded catalog hal ∧ Tuned d greatestTime hal)
      (Act.Gives fun reply w => reply = .ok 0 ∧ w.Shows b fun clock hal _ =>
        clock = start ∧ Phase catalog d start start 0 clock hal) := by
  refine Bench.World.leads_call (fun _ _ _ => Call.noConfusion) ?_
  rintro clock hal hub hpunctual hnow ⟨rfl, hground, s, hs, rfl, hperiod, hlatency⟩
  have hown := hpunctual.sound.of_sensor? hs
  have hrests := hground.rests _ s hs
  have hcall := Hal.perform_switchOn b clock hs hrests.off
  have hruns := hrests.runs hown (hpunctual.filling_of_sensor? hs) hflows hperiod hlatency hsize b
    clock
  have hcatalog : (hal.setSensor (s.switchOn b clock)).catalog = hal.catalog :=
    Hal.catalog_setSensor hpunctual.sound hs rfl
  have hstocked : Stocked catalog s.descriptor clock clock (hal.setSensor (s.switchOn b clock))
      (s.switchOn b clock) := by
    refine ⟨hground.clear.setSensor _, hcatalog.trans hground.listed,
      Hal.sensor?_setSensor_self hs rfl, rfl, hruns, fun j t ht hj => ?_⟩
    have hother : (s.switchOn b clock).handle ≠ j := fun e => hj e.symm
    rw [Hal.sensor?_setSensor_other hother] at ht
    exact hground.rests j t ht
  -- the step of time that follows every call brings nothing yet
  have hnone : (s.switchOn b clock).buffer.length = 0 :=
    congrArg List.length (hrests.buffer hown)
  have hcount := hstocked.dueCount_eq (Int.le_refl clock)
  rw [Nat.sub_self] at hcount
  have hstep := hstocked.advance (b := b) (hpunctual.perform hcall) hnow (Int.le_refl clock)
    (by rw [Int.sub_self]; decide) (by omega) hsize
  rw [hnone, hcount, Nat.zero_mod, ite_self] at hstep
  refine ⟨_, hcall, rfl, rfl, Int.le_refl clock, ?_⟩
  rw [Nat.sub_self, Nat.zero_mod]
  exact hstep

/-- A flush brings all that is held back, and a new phase begins. -/
theorem Phase.flush {since : Int} (h : Phase catalog d start since held now hal)
    (hpunctual : hal.Punctual) (hnow : leastTime ≤ now) (hend : now - start < greatestTime) :
    ∃ next, hal.perform b now (.flush d.handle) = .ok (0, next) ∧ next.queue = hal.queue ∧
      Phase catalog d start now 0 now (next.advance b now).2 ∧
      ∀ hub k count, d.kind.isMeta = false → Tally d start since held k count now hub →
        Tally d start now 0 k (count + (held + (gridCount d start now - gridCount d start since)))
          now (hub.receive (next.advance b now).1) := by
  obtain ⟨-, s, hs, hheld, hroom, hflushes, hreplay⟩ := h
  have hhandle : s.requestFlush.descriptor = s.descriptor := rfl
  have hcall := Hal.perform_flush b now hs.here hs.runs.on hs.runs.flows
  have hstocked := hs.setSensor hpunctual.sound hhandle hs.runs.requestFlush
  have hcount := hstocked.dueCount_eq (Int.le_refl now)
  rw [Nat.sub_self] at hcount
  have hbuffer : s.requestFlush.buffer.length = s.buffer.length := rfl
  have hasked : 0 < s.requestFlush.pendingFlushes := Nat.succ_pos _
  have hstep := hstocked.advance (b := b) (hpunctual.perform hcall) hnow (Int.le_refl now) hend
    (by omega) (by omega)
  rw [if_pos hasked] at hstep
  refine ⟨_, hcall, rfl, ⟨Int.le_refl now, ?_⟩, fun hub k count hkind ⟨hfeeds, htally⟩ => ?_⟩
  · rw [Nat.sub_self, Nat.zero_mod]
    exact hstep
  · have hbrought := hstocked.tally (hpunctual.perform hcall).sound hkind hreplay hfeeds b now hstep
    refine ⟨hfeeds.receive _, ?_⟩
    rw [Nat.sub_self, Nat.zero_mod]
    omega

variable (b catalog d start now held) in
theorem askFlush_leads (since : Int) (hend : now - start < greatestTime) :
    (Bench.World.answer.call (.flush d.handle)).Leads (fun _ => True)
      (Shows b fun clock hal _ => clock = now ∧ Phase catalog d start since held clock hal)
      (Act.Gives fun reply w => reply = .ok 0 ∧ w.Shows b fun clock hal _ =>
        clock = now ∧ Phase catalog d start now 0 clock hal) := by
  refine Bench.World.leads_call (fun _ _ _ => Call.noConfusion) ?_
  rintro clock hal hub hpunctual hnow ⟨rfl, hphase⟩
  obtain ⟨next, hcall, hqueue, hnext, -⟩ := hphase.flush (b := b) hpunctual hnow hend
  exact ⟨next, hcall, hqueue, rfl, hnext⟩

variable (b catalog start now k held count) in
/-- The same with what a collector has. -/
theorem countedFlush_leads (since : Int) (hend : now - start < greatestTime)
    (hkind : d.kind.isMeta = false) :
    (Bench.World.answer.call (.flush d.handle)).Leads (fun _ => True)
      (Shows b fun clock hal hub => clock = now ∧
        Phase catalog d start since held clock hal ∧ Tally d start since held k count clock hub)
      (Act.Gives fun reply w => reply = .ok 0 ∧ w.Shows b fun clock hal hub => clock = now ∧
        Phase catalog d start now 0 clock hal ∧ Tally d start now 0 k
          (count + (held + (gridCount d start now - gridCount d start since))) clock hub) := by
  refine Bench.World.leads_call (fun _ _ _ => Call.noConfusion) ?_
  rintro clock hal hub hpunctual hnow ⟨rfl, hphase, htally⟩
  obtain ⟨next, hcall, hqueue, hnext, hcounts⟩ := hphase.flush (b := b) hpunctual hnow hend
  exact ⟨next, hcall, hqueue, rfl, hnext, hcounts hub k count hkind htally⟩

variable (b catalog d held) in
/-- The sensor is switched off, and what a collector has stays as it is. -/
theorem stop_leads (since : Int) {R : Hub → Prop} (hstart : 0 ≤ start) :
    (Bench.World.answer.call (.activate d.handle false)).Leads (fun _ => True)
      (Shows b fun clock hal hub => clock < greatestTime ∧
        Phase catalog d start since held clock hal ∧ R hub)
      (Act.Gives fun reply w => reply = .ok 0 ∧ w.Shows b fun _ _ hub => R hub) := by
  refine Bench.World.leads_quietCall (fun _ _ _ => Call.noConfusion) ?_
  rintro clock hal hub hpunctual hnow ⟨hend, hphase, hR⟩
  have hdue := hphase.2.notDue hpunctual hstart hnow hend
  obtain ⟨-, s, hs, -, -, hflushes, hreplay⟩ := hphase
  have hrests : s.switchOff.Rests := ⟨rfl, hflushes, hreplay⟩
  exact ⟨_, Hal.perform_switchOff b clock hs.here hs.runs.on, rfl,
    Hal.notDue_setSensor hnow hdue (hrests.notDue clock _), hR⟩

end Calls

/-! ## What the scenario comes to -/

/-- The batching period: the time for which the reserved buffer lasts, up to a limit. -/
def batchingPeriod (settings : Settings) (d : Descriptor) : Int :=
  min (reservedTime d) (ofMillis settings.batching.maxPeriod)

/-- The part of the batching period for which the scenario sleeps. -/
def batchingShare (settings : Settings) (d : Descriptor) : Int :=
  shareOf (batchingPeriod settings d).toNat

/-- The time for which the scenario waits for a full reserved buffer. -/
def batchingWait (settings : Settings) (d : Descriptor) : Int :=
  max (ofMillis settings.timeouts.batchDelivery) (batchingPeriod settings d / 10)

/-- The time from the activation to the registration of the second collector. -/
def batchingLead (settings : Settings) (d : Descriptor) : Int :=
  ofMillis settings.batching.init + batchingShare settings d

/-- The longest time that the scenario takes. -/
def batchingTime (settings : Settings) (d : Descriptor) : Int :=
  batchingLead settings d + batchingShare settings d + batchingWait settings d

/-- The samples that a sensor takes within a time after it was switched on. -/
def samplesIn (d : Descriptor) (time : Int) : Nat := (time / leastPeriod d).toNat

/-- The samples that the second flush has brought to the second collector: those that were
held back when it was registered, and those taken since. -/
def brought (settings : Settings) (d : Descriptor) : Nat :=
  let lead := batchingLead settings d
  (samplesIn d lead - samplesIn d (ofMillis settings.batching.init)) % d.fifoMax.toNat +
    (samplesIn d (lead + batchingShare settings d) - samplesIn d lead)

/-- The samples taken while the scenario waits. -/
def late (settings : Settings) (d : Descriptor) : Nat :=
  samplesIn d (batchingTime settings d) -
    samplesIn d (batchingLead settings d + batchingShare settings d)

/-- The flush has brought no more than nine tenths of the reserved buffer, and the wait is too
short for the buffer to fill. -/
def fallsShort (settings : Settings) (d : Descriptor) : Bool :=
  isShort d (brought settings d) && late settings d < d.fifoMax.toNat

/-- How the scenario ends if it is not skipped. -/
def batchingOutcome (settings : Settings) (d : Descriptor) : Except Halt Outcome :=
  if fallsShort settings d then
    .error (.violation (.tooFewEvents d.handle (d.fifoReserved.toNat * 9 / 10 + 1)
      (brought settings d)))
  else .ok .passed

/-- What is known of the number of samples that the scenario counts. -/
def Decides (settings : Settings) (d : Descriptor) (actual : Nat) : Prop :=
  if fallsShort settings d then actual = brought settings d else isShort d actual = false

theorem samplesIn_eq (d : Descriptor) (start : Int) {time : Int} (h : 0 ≤ time) :
    gridCount d start (start + time) = samplesIn d time := by
  rw [Hal.gridCount_eq d (by omega), samplesIn]
  congr 2
  omega

section Verdict

variable {settings : Settings}

/-- While the scenario waits, full buffers come on top of what the flush has brought. -/
theorem decides_of_waited {count more : Nat} (hreserved : 0 < d.fifoReserved.toNat)
    (hfifo : d.fifoReserved.toNat ≤ d.fifoMax.toNat)
    (hcount : count + more % d.fifoMax.toNat = brought settings d + more)
    (hmore : more ≤ late settings d)
    (hdone : d.fifoReserved.toNat ≤ count ∨ more = late settings d) :
    Decides settings d count := by
  have hmod := Nat.mod_le more d.fifoMax.toNat
  rw [Decides, fallsShort]
  split
  · next hshort =>
    rw [Bool.and_eq_true, decide_eq_true_iff] at hshort
    rw [Nat.mod_eq_of_lt (by omega)] at hcount
    omega
  · -- either the flush brought enough, or a full buffer did, which is no less than was reserved
    next henough =>
    rw [Bool.and_eq_true, decide_eq_true_iff, not_and_or] at henough
    have hfull : d.fifoMax.toNat ≤ more → more % d.fifoMax.toNat + d.fifoMax.toNat ≤ more := by
      intro hle
      rw [Nat.mod_eq_sub_mod hle]
      have := Nat.mod_le (more - d.fifoMax.toNat) d.fifoMax.toNat
      omega
    simp only [isShort, decide_eq_true_iff, decide_eq_false_iff_not] at henough ⊢
    omega

end Verdict

/-! ## The scenario -/

/-- A call that has to be accepted and is. -/
theorem require_leads {σ : Type} {x : Act σ (Except Status Int)} {P R : σ → Prop}
    (hx : x.Leads (fun _ => True) P (Act.Gives fun reply s => reply = .ok 0 ∧ R s))
    (operation target : String) :
    (x >>= fun reply => requireOk operation target reply >>= fun _ => pure ()).Leads
      (fun _ => True) P (Act.Gives fun _ : Unit => R) := by
  refine hx.next fun reply => Act.leads_fact fun hok => ?_
  rw [hok]
  exact Act.leads_value fun _ hs => ⟨(), rfl, hs⟩

theorem Phase.restart {since : Int} {held : Nat} (h : Phase catalog d start since held now hal) :
    Phase catalog d start now
      ((held + (gridCount d start now - gridCount d start since)) % d.fifoMax.toNat) now hal := by
  refine ⟨Int.le_refl now, ?_⟩
  rw [Nat.sub_self, Nat.add_zero, Nat.mod_mod]
  exact h.2

/-- A new collector has nothing yet. -/
theorem tally_of_empty {held : Nat} (hheld : held < d.fifoMax.toNat) (hfeeds : hub.Feeds k)
    (hempty : hub.collector k = .empty) : Tally d start now held k 0 now hub := by
  refine ⟨hfeeds, ?_⟩
  rw [hempty, Nat.sub_self, Nat.add_zero, Nat.mod_eq_of_lt hheld]
  rfl

section Durations

variable {settings : Settings} (d : Descriptor)

theorem reservedTime_nonneg : 0 ≤ reservedTime d := by
  have hdelay := d.minDelayNs_nonneg
  have hproduct : 0 ≤ (d.fifoReserved.toNat : Int) * d.minDelayNs :=
    Int.mul_nonneg (Int.natCast_nonneg _) hdelay
  have hgreatest : 0 ≤ greatestTime := by decide
  rw [reservedTime]
  omega

theorem durations_nonneg (settings : Settings) : 0 ≤ ofMillis settings.batching.init ∧
    0 ≤ batchingShare settings d ∧ 0 ≤ batchingWait settings d := by
  have hreserved := reservedTime_nonneg d
  refine ⟨?_, Int.natCast_nonneg _, ?_⟩
  · rw [ofMillis]
    omega
  · rw [batchingWait, batchingPeriod, ofMillis, ofMillis]
    omega

/-- Two shares are longer than the batching period. -/
theorem batchingPeriod_le (settings : Settings) :
    batchingPeriod settings d ≤ 2 * batchingShare settings d := by
  obtain ⟨hlow, -⟩ := shareOf_bounds (batchingPeriod settings d).toNat
  rw [batchingShare]
  omega

end Durations

/-- What the second flush brings, by the points of the grid: those since the first flush, less
full buffers, and those since the second collector was registered. -/
theorem brought_eq (settings : Settings) (d : Descriptor) (start : Int) :
    (0 + (gridCount d start (start + batchingLead settings d) -
        gridCount d start (start + ofMillis settings.batching.init))) % d.fifoMax.toNat +
      (gridCount d start (start + batchingLead settings d + batchingShare settings d) -
        gridCount d start (start + batchingLead settings d)) = brought settings d := by
  obtain ⟨hinit, hshare, -⟩ := durations_nonneg d settings
  have hlead : 0 ≤ batchingLead settings d := Int.add_nonneg hinit hshare
  rw [Int.add_assoc, samplesIn_eq d start (Int.add_nonneg hlead hshare),
    samplesIn_eq d start hlead, samplesIn_eq d start hinit, Nat.zero_add]
  rfl

/-- The count made within the wait decides. -/
theorem Tally.decides {settings : Settings} {clock : Int} (hreserved : 0 < d.fifoReserved.toNat)
    (hfifo : d.fifoReserved.toNat ≤ d.fifoMax.toNat)
    (hbefore : clock ≤ start + batchingTime settings d)
    (hdone : (hub.collector k).hasCount d.handle d.fifoReserved.toNat = true ∨
      clock = start + batchingTime settings d)
    (htally : Tally d start (start + batchingLead settings d + batchingShare settings d) 0 k
      (brought settings d) clock hub) :
    Decides settings d ((hub.collector k).eventCount d.handle) := by
  obtain ⟨hinit, hshare, hwait⟩ := durations_nonneg d settings
  have htime : batchingTime settings d =
      batchingLead settings d + batchingShare settings d + batchingWait settings d := rfl
  have hlead : batchingLead settings d =
      ofMillis settings.batching.init + batchingShare settings d := rfl
  have hlate : late settings d = gridCount d start (start + batchingTime settings d) -
      gridCount d start (start + batchingLead settings d + batchingShare settings d) := by
    rw [Int.add_assoc, samplesIn_eq d start (by omega), samplesIn_eq d start (by omega)]
    rfl
  have hmono := Hal.gridCount_mono d start hbefore
  have hcount := htally.2
  rw [Nat.zero_add] at hcount
  refine decides_of_waited hreserved hfifo hcount (by omega)
    (hdone.imp (fun hall => ?_) fun hover => ?_)
  · rw [Collector.hasCount, decide_eq_true_iff] at hall
    exact hall
  · rw [hover, hlate]

/-- What is counted decides how the scenario ends. -/
theorem check_eq {σ : Type} {settings : Settings} {actual : Nat} (h : Decides settings d actual) :
    (if isShort d actual then
        .violate (.tooFewEvents d.handle (d.fifoReserved.toNat * 9 / 10 + 1) actual)
      else pass : Act σ Outcome) = fun s => (batchingOutcome settings d, s) := by
  rw [Decides] at h
  rw [batchingOutcome]
  split at h
  · next hshort =>
    rw [if_pos hshort, h, if_pos (Bool.and_eq_true_iff.1 hshort).1]
    rfl
  · next henough =>
    rw [if_neg henough, h, if_neg Bool.false_ne_true]
    rfl

section Scenario

variable {settings : Settings} (hkind : d.kind.isMeta = false)
  (hreserved : 0 < d.fifoReserved.toNat) (hfifo : d.fifoReserved.toNat ≤ d.fifoMax.toNat)
  (hstart : 0 ≤ start) (hend : start + batchingTime settings d < greatestTime)

include hkind hreserved hfifo hstart hend

variable (b catalog) in
/-- The second half of the scenario, with a collector of its own. -/
theorem secondHalf_leads :
    (subscribed (Bench.World.answer.beside : Host (Guard × Bench.World)) fun collector => do
        Bench.World.answer.beside.ask (.sleep (batchingShare settings d))
        batching.requireFlush Bench.World.answer.beside d.handle
        Bench.World.answer.beside.ask
          (.awaitCount collector d.handle d.fifoReserved.toNat (batchingWait settings d))
        requireActivate Bench.World.answer.beside d.handle false
        let seen ← Bench.World.answer.beside.ask (.delivered collector)
        let actual := Collector.eventCount seen d.handle
        if isShort d actual then
          .violate (.tooFewEvents d.handle (d.fifoReserved.toNat * 9 / 10 + 1) actual)
        else pass).Leads (fun _ => True)
      (fun s => s.2.Shows b fun clock hal _ => clock = start + batchingLead settings d ∧
        Phase catalog d start (start + ofMillis settings.batching.init) 0 clock hal)
      (fun r s => r = batchingOutcome settings d ∧ s.2.Calm) := by
  obtain ⟨hinit, hshare, hwait⟩ := durations_nonneg d settings
  have hsubscribe := Host.ask_leads (τ := Guard) (Bench.World.leads_subscribe (b := b)
    (P := fun clock hal => clock = start + batchingLead settings d ∧
      Phase catalog d start (start + ofMillis settings.batching.init) 0 clock hal))
  refine subscribed_leads hsubscribe (fun k => ?_)
    fun r => Host.ask_leads (Bench.World.leads_leave (r = batchingOutcome settings d))
  have htime : batchingTime settings d =
      batchingLead settings d + batchingShare settings d + batchingWait settings d := rfl
  have hlead : batchingLead settings d =
      ofMillis settings.batching.init + batchingShare settings d := rfl
  -- the first term is what is held back when the collector is registered
  have hsum := brought_eq settings d start
  generalize hheld : (0 + (gridCount d start (start + batchingLead settings d) -
    gridCount d start (start + ofMillis settings.batching.init))) % d.fifoMax.toNat = held at hsum
  have hsleep := Host.ask_leads (τ := Guard) (Bench.World.leads_sleep (b := b)
    (start + batchingLead settings d) (Tally.flows catalog k (start + batchingLead settings d)
      (start + batchingLead settings d + batchingShare settings d) held 0 hstart (by omega) hkind)
    hshare)
  have hflush := require_leads (Host.ask_leads (τ := Guard) (countedFlush_leads b catalog start
    (start + batchingLead settings d + batchingShare settings d) k held 0
    (start + batchingLead settings d) (by omega) hkind)) "flush" d.handle.text
  have hawait := Host.ask_leads (τ := Guard) (Bench.World.leads_awaitCount (b := b)
    (start + batchingLead settings d + batchingShare settings d)
    (Tally.flows catalog k (start + batchingLead settings d + batchingShare settings d)
      (start + batchingLead settings d + batchingShare settings d + batchingWait settings d) 0
      (brought settings d) hstart (by omega) hkind) hwait k d.handle d.fifoReserved.toNat)
  have hstop := require_leads (Guard.call_leads (stop_leads b catalog d 0
    (start + batchingLead settings d + batchingShare settings d)
    (R := fun hub => Decides settings d ((hub.collector k).eventCount d.handle)) hstart))
    "activate" d.handle.text
  have hread := Host.ask_leads (τ := Guard) (Bench.World.leads_delivered (b := b) (k := k)
    (P := fun _ _ hub => Decides settings d ((hub.collector k).eventCount d.handle)))
  refine (hsleep.mono ?begun fun _ _ _ => id).next fun _ => ?_
  case begun =>
    rintro s ⟨htimed, ⟨hclock, hphase⟩, hfeeds, hempty⟩
    obtain ⟨-, -, -, hroom, -⟩ := hphase.2
    have hnext := hphase.restart
    rw [hclock, hheld] at hnext hroom
    exact ⟨htimed, hclock, hclock ▸ hnext, hclock ▸ tally_of_empty hroom hfeeds hempty⟩
  refine hflush.next fun _ => (hawait.mono ?flushed fun _ _ _ => id).next fun _ => ?_
  case flushed =>
    rintro s ⟨htimed, hclock, hphase, htally⟩
    rw [hsum, Nat.zero_add] at htally
    exact ⟨htimed, hclock, hphase, htally⟩
  refine (hstop.mono ?waited fun _ _ _ => id).next fun _ => hread.next fun seen => ?_
  case waited =>
    rintro s ⟨htimed, hafter, hbefore, hdone, hphase, hfeeds, htally⟩
    refine ⟨htimed, by omega, hphase, Tally.decides hreserved hfifo (by omega) ?_
      ⟨hfeeds, htally⟩⟩
    exact hdone.imp_right fun hover => by omega
  refine Act.Leads.mono (P := fun s : Guard × Bench.World =>
    Decides settings d (seen.eventCount d.handle) ∧ s.2.Calm) (Act.leads_fact fun hdecides => ?_)
    ?read fun _ _ _ => id
  case read =>
    rintro s ⟨htimed, rfl, hdecides⟩
    exact ⟨hdecides, htimed.calm⟩
  dsimp only
  rw [check_eq hdecides]
  exact fun s _ => ⟨trivial, fun hcalm => ⟨rfl, hcalm⟩⟩

end Scenario

section Scenario

variable {settings : Settings} {kind : SensorKind}

/-- A sensor whose reserved buffer lasts for a while has one, and reports more than once. -/
theorem reserved_of_lasting (hadmitted : d.Admitted)
    (hlasting : ¬ reservedTime d < leastBatchingPeriod) :
    0 < d.fifoReserved.toNat ∧ d.isOneShot = false := by
  have hleast : 0 < leastBatchingPeriod := by decide
  have hproduct : 0 < (d.fifoReserved.toNat : Int) * d.minDelayNs := by
    rw [reservedTime] at hlasting
    omega
  have hdelay : d.minDelayNs ≠ 0 := fun hzero => by
    rw [hzero, Int.mul_zero] at hproduct
    omega
  refine ⟨Nat.pos_of_ne_zero fun hzero => ?_, ?_⟩
  · rw [hzero] at hproduct
    simp at hproduct
  · rw [Descriptor.isOneShot]
    refine decide_eq_false fun hone => hdelay ?_
    have hfit := hadmitted.fit
    rw [hone, Descriptor.delaysFit, Bool.and_eq_true, beq_iff_eq] at hfit
    rw [Descriptor.minDelayNs, Descriptor.delayNs, hfit.1]
    rfl

/-- From a HAL at rest the scenario leads to its outcome. -/
theorem batching_leads (hadmitted : ∀ d ∈ catalog, d.Admitted)
    (hdefault : catalog.defaultSensor? kind = some d)
    (hlasting : ¬ reservedTime d < leastBatchingPeriod) (hstart : 0 ≤ start)
    (hend : start + batchingTime settings d < greatestTime) :
    (batching kind ⟨Bench.World.answer, settings, catalog⟩).Leads (fun _ => True)
      (Shows b fun clock hal _ => clock = start ∧ Grounded catalog hal)
      (fun r w => r = batchingOutcome settings d ∧ w.Calm) := by
  have hd : d ∈ catalog := List.mem_of_find?_eq_some hdefault
  have hown := hadmitted d hd
  obtain ⟨hreserved, hflows⟩ := reserved_of_lasting hown hlasting
  have hfifo : d.fifoReserved.toNat ≤ d.fifoMax.toNat := UInt32.le_iff_toNat_le.1 hown.fifo
  obtain ⟨hinit, hshare, hwait⟩ := durations_nonneg d settings
  have htime : batchingTime settings d =
      batchingLead settings d + batchingShare settings d + batchingWait settings d := rfl
  have hlead : batchingLead settings d =
      ofMillis settings.batching.init + batchingShare settings d := rfl
  have htune := require_leads (Host.ask_leads (τ := Guard) (unlimit_leads b start hown hd)) "batch"
    d.handle.text
  have hrun := require_leads (Guard.call_leads (run_leads b catalog start hflows
    (by omega))) "activate" d.handle.text
  have hsettle := Host.ask_leads (τ := Guard) (Bench.World.leads_sleep (b := b) start
    (Phase.flows catalog d start (start + ofMillis settings.batching.init) 0 hstart (by omega))
    hinit)
  have hflush := require_leads (Host.ask_leads (τ := Guard) (askFlush_leads b catalog d start
    (start + ofMillis settings.batching.init) 0 start (by omega))) "flush" d.handle.text
  have hsleep := Host.ask_leads (τ := Guard) (Bench.World.leads_sleep (b := b)
    (start + ofMillis settings.batching.init)
    (Phase.flows catalog d (start + ofMillis settings.batching.init)
      (start + ofMillis settings.batching.init + batchingShare settings d) 0 hstart (by omega))
    hshare)
  have hleave := Host.ask_leads (τ := Guard) (Bench.World.leads_unsubscribe (b := b)
    (P := fun clock hal => clock = start + ofMillis settings.batching.init +
      batchingShare settings d ∧
      Phase catalog d start (start + ofMillis settings.batching.init) 0 clock hal))
  rw [batching, hdefault]
  dsimp only
  rw [if_neg hlasting]
  refine subscribed_leads Bench.World.leads_subscribe (fun k => guarded_leads
    (Q := fun r (w : Bench.World) => r = batchingOutcome settings d ∧ w.Calm) ?body fun r g c _ =>
      Bench.World.leads_release _ c) fun r => Bench.World.leads_leave _
  refine (htune.mono (fun s h => ⟨h.1, h.2.1⟩) fun _ _ _ => id).next fun _ => hrun.next fun _ =>
    hsettle.next fun _ => hflush.next fun _ => hsleep.next fun _ => hleave.next fun _ => ?_
  refine (secondHalf_leads b catalog hown.kind hreserved hfifo hstart hend).mono
    (fun s ⟨htimed, hclock, hphase⟩ => ⟨htimed, ?_, hphase⟩) fun _ _ _ => id
  omega

end Scenario

/-! ## Where nothing falls short -/

/-- The sensor samples at its shortest delay, the whole reserved buffer is waited for, and the
buffer is not so small that the samples of one share fill it. -/
structure Fillable (settings : Settings) (d : Descriptor) : Prop where
  delay : Hal.Sampler.shortestPeriod ≤ d.minDelayNs
  uncapped : d.fifoReserved.toNat * d.minDelayNs ≤ ofMillis settings.batching.maxPeriod
  size : 5 ≤ d.fifoReserved.toNat ∨ d.fifoReserved.toNat < d.fifoMax.toNat

/-- The points of a grid within a time, if the whole periods in it are bounded. -/
theorem ediv_add_bounds {m low high x time : Int} (hm : 0 < m) (hlow : low * m ≤ time)
    (hhigh : time < (high + 1) * m) :
    x / m + low ≤ (x + time) / m ∧ (x + time) / m ≤ x / m + high + 1 := by
  have hfloor := Int.ediv_mul_le x (Int.ne_of_gt hm)
  have hceiling := Int.lt_ediv_add_one_mul_self x hm
  constructor
  · rw [Int.le_ediv_iff_mul_le hm]
    linarith
  · apply Int.lt_add_one_iff.1
    rw [Int.ediv_lt_iff_lt_mul hm]
    linarith

/-- The whole periods in four fifths of the time of a buffer. -/
theorem wholePeriods_bounds (F : Nat) {m : Int} (hm : 0 < m) :
    5 * ((4 * F / 5 : Nat) * m) ≤ 4 * (F * m) ∧
      4 * (F * m) < 5 * ((4 * F / 5 : Nat) * m) + 5 * m := by
  have hlow : (5 * (4 * F / 5 : Nat) : Int) * m ≤ (4 * F : Int) * m :=
    Int.mul_le_mul_of_nonneg_right (by omega) (Int.le_of_lt hm)
  have hhigh : (4 * F : Int) * m < (5 * (4 * F / 5 : Nat) + 5 : Int) * m :=
    Int.mul_lt_mul_of_pos_right (by omega) hm
  constructor <;> linarith

/-- What two exact shares of the time of a buffer bring, in points of a grid: if the samples of
the first do not fill the buffer, the two bring nine tenths of it. -/
theorem enough_of_shares {F X : Nat} {m init share : Int} (hm : 0 < m) (hinit : 0 ≤ init)
    (hshare : 5 * share = 4 * (F * m)) (hF : 0 < F) (hFX : F ≤ X) (hsize : 5 ≤ F ∨ F < X) :
    9 * F < 10 * ((((init + share) / m).toNat - (init / m).toNat) % X +
      (((init + share + share) / m).toNat - ((init + share) / m).toNat)) := by
  obtain ⟨hscaled, hscaled'⟩ := wholePeriods_bounds F hm
  obtain ⟨q, hq⟩ : ∃ q : Nat, q = 4 * F / 5 := ⟨_, rfl⟩
  rw [← hq] at hscaled hscaled'
  have hlow : (q : Int) * m ≤ share := by linarith
  have hhigh : share < ((q : Int) + 1) * m := by linarith
  have hnonneg : 0 ≤ init / m := Int.ediv_nonneg hinit (Int.le_of_lt hm)
  obtain ⟨hfirst, hfirst'⟩ := ediv_add_bounds (x := init) hm hlow hhigh
  obtain ⟨hsecond, -⟩ := ediv_add_bounds (x := init + share) hm hlow hhigh
  -- five samples take an exact number of periods
  have hfive : F = 5 → (init + share) / m = init / m + 4 := by
    rintro rfl
    have hexact : share = 4 * m := by
      push_cast at hshare
      omega
    rw [hexact, Int.add_mul_ediv_right _ _ (by omega)]
  -- two shares of a single sample take more than one period
  have hone : F = 1 → init / m + 1 ≤ (init + share + share) / m := by
    rintro rfl
    have hfloor := Int.ediv_mul_le init (Int.ne_of_gt hm)
    rw [Int.le_ediv_iff_mul_le hm, Int.add_mul]
    push_cast at hshare
    omega
  have hshares : 9 * F < 20 * q ∨ F = 1 := by
    rcases Nat.lt_or_ge F 5 with hfew | hmany
    · interval_cases F <;> omega
    · omega
  rw [Nat.mod_eq_of_lt (by omega)]
  omega

/-- A large buffer has room to spare, so that a share may be up to a period too long or too
short. -/
theorem enough_of_close {F X : Nat} {m init share : Int} (hm : 0 < m) (hinit : 0 ≤ init)
    (hlow : 4 * (F * m) < 5 * share + 5 * m) (hhigh : 5 * share < 4 * (F * m) + 5 * m)
    (hF : 11 ≤ F) (hFX : F ≤ X) :
    9 * F < 10 * ((((init + share) / m).toNat - (init / m).toNat) % X +
      (((init + share + share) / m).toNat - ((init + share) / m).toNat)) := by
  obtain ⟨hscaled, hscaled'⟩ := wholePeriods_bounds F hm
  obtain ⟨q, hq⟩ : ∃ q : Nat, q = 4 * F / 5 := ⟨_, rfl⟩
  rw [← hq] at hscaled hscaled'
  have hbelow : ((q : Int) - 1) * m ≤ share := by linarith
  have habove : share < ((q : Int) + 1 + 1) * m := by linarith
  have hnonneg : 0 ≤ init / m := Int.ediv_nonneg hinit (Int.le_of_lt hm)
  obtain ⟨hfirst, hfirst'⟩ := ediv_add_bounds (x := init) hm hbelow habove
  obtain ⟨hsecond, -⟩ := ediv_add_bounds (x := init + share) hm hbelow habove
  rw [Nat.mod_eq_of_lt (by omega)]
  omega

/-- The whole reserved buffer is waited for. -/
theorem Fillable.batchingPeriod_eq {settings : Settings} (h : Fillable settings d)
    (hend : batchingTime settings d < greatestTime) :
    batchingPeriod settings d = d.fifoReserved.toNat * d.minDelayNs := by
  obtain ⟨hinit, -, hwait⟩ := durations_nonneg d settings
  have huncapped := h.uncapped
  have hshares := batchingPeriod_le d settings
  rw [batchingTime, batchingLead] at hend
  rw [batchingPeriod, reservedTime] at hshares ⊢
  omega

/-- The reserved buffer of a sensor lasts for a multiple of five nanoseconds. -/
theorem five_dvd_reserved (d : Descriptor) : 5 ∣ (d.fifoReserved.toNat * d.minDelayNs).toNat := by
  have hdelay : (5 : Int) ∣ d.minDelayNs :=
    Int.dvd_trans (by decide) (Int.dvd_mul_left (max d.minDelay.toInt 0) 1000)
  have hfive : (5 : Int) ∣ (d.fifoReserved.toNat : Int) * d.minDelayNs :=
    Int.dvd_mul_of_dvd_right hdelay
  omega

/-- The times of small buffers are so short that their shares are exact. -/
theorem shareOf_reserved (hsmall : d.fifoReserved.toNat < 11) :
    5 * shareOf (d.fifoReserved.toNat * d.minDelayNs).toNat =
      4 * (d.fifoReserved.toNat * d.minDelayNs).toNat := by
  have hlongest : d.minDelayNs < 2147483648000 := by
    have := d.minDelay.toInt_lt
    rw [Descriptor.minDelayNs, Descriptor.delayNs]
    omega
  have hshort : d.fifoReserved.toNat * d.minDelayNs ≤ 10 * 2147483648000 :=
    Int.mul_le_mul (by omega) (Int.le_of_lt hlongest) d.minDelayNs_nonneg (by decide)
  exact shareOf_exact (five_dvd_reserved d) (by omega)

theorem not_fallsShort {settings : Settings} (h : Fillable settings d)
    (hreserved : 0 < d.fifoReserved.toNat) (hfifo : d.fifoReserved.toNat ≤ d.fifoMax.toNat)
    (hend : batchingTime settings d < greatestTime) : fallsShort settings d = false := by
  have hperiod := h.batchingPeriod_eq hend
  have hshares := batchingPeriod_le d settings
  have hdelay : leastPeriod d = d.minDelayNs := Int.max_eq_left h.delay
  have hm : 1000000 ≤ d.minDelayNs := h.delay
  have hproduct : 0 < d.fifoReserved.toNat * d.minDelayNs := Int.mul_pos (by omega) (by omega)
  have hgreatest : greatestTime = 0x7fffffffffffffff := rfl
  obtain ⟨hinit, -, hwait⟩ := durations_nonneg d settings
  have henough : 9 * d.fifoReserved.toNat < 10 * brought settings d := by
    rw [brought, batchingLead]
    simp only [samplesIn, hdelay]
    rw [batchingTime, batchingLead] at hend
    rw [batchingShare, hperiod] at hend hshares ⊢
    rcases Nat.lt_or_ge d.fifoReserved.toNat 11 with hsmall | hlarge
    · have hexact := shareOf_reserved hsmall
      exact enough_of_shares (by omega) hinit (by omega) hreserved hfifo h.size
    · -- the rest of a large buffer outweighs what the rounding costs
      obtain ⟨hlow, hhigh⟩ := shareOf_bounds (d.fifoReserved.toNat * d.minDelayNs).toNat
      exact enough_of_close (by omega) hinit (by omega) (by omega) hlarge hfifo
  rw [fallsShort, isShort, Bool.and_eq_false_iff]
  exact Or.inl (decide_eq_false (by omega))

end Trial

namespace Scenario

open Hal (greatestTime)
open Trial (reservedTime leastBatchingPeriod batchingTime batchingOutcome Fillable)

/-- In a world in which time flows, on a reference HAL of a catalog without faults that is idle
and has nothing left to do, the batching scenario is skipped if the kind has no sensor or the
reserved buffer of its sensor lasts too short. Otherwise, if it ends before the clock does, what
the second collector gets decides, and it passes wherever the sensor samples at its shortest
delay, the whole reserved buffer is waited for, and the buffer is not too small. -/
theorem batching_exact (c : Catalog) (signal : Hal.Signal) (past : List Hal.Turn)
    (settings : Settings) (subject : Subject) (w : Bench.World) :
    w.Flowing → w.hal = Hal.runAtFront w.behaviour (.ofCatalog c signal) past →
    w.hal.Idle → w.hal.deadline? = none → 0 ≤ w.clock →
    (c.map (·.handle)).Nodup → c.fault? = none →
    let result := ((Suite.rowOf Bench.World.answer settings (.batching subject)).act w).1
    match w.hal.catalog.defaultSensor? subject.kind with
    | none => result = .ok (.skipped (Trial.noSensor subject.kind))
    | some d =>
      if reservedTime d < leastBatchingPeriod then
        result = .ok (.skipped ("reserved fifo covers only " ++
          Text.signedDecimal (reservedTime d / 1000000) ++ " ms"))
      else w.clock + batchingTime settings d < greatestTime →
        result = batchingOutcome settings d ∧ (Fillable settings d → result = .ok .passed) := by
  intro hflowing hpast hidle hdeadline hclock hnodup hvalid
  have hpunctual : w.hal.Punctual := by
    rw [hpast]
    exact Hal.punctual_runAtFront _ c signal past
  have hadmitted : ∀ d ∈ w.hal.catalog, d.Admitted := by
    rw [hpast]
    exact Hal.admitted_runAtFront hnodup hvalid _ signal past
  have hshown : w.Shows w.behaviour fun clock hal _ =>
      clock = w.clock ∧ Hal.Grounded w.hal.catalog hal :=
    ⟨⟨hflowing, rfl, hpunctual⟩, rfl, Hal.grounded_of_idle hpunctual.sound hidle hdeadline⟩
  have hrow := fun {Q} => Bench.World.leads_row (b := w.behaviour) (Q := Q) settings
    (.batching subject) (P := fun clock hal _ => clock = w.clock ∧ Hal.Grounded w.hal.catalog hal)
    fun _ _ _ h => h.2.listed
  have hskips : ∀ reason, Trial.batching subject.kind
      ⟨Bench.World.answer, settings, w.hal.catalog⟩ = Trial.skip reason →
      ((Suite.rowOf Bench.World.answer settings (.batching subject)).act w).1 =
        .ok (.skipped reason) := by
    intro reason hskip
    refine (hrow (Q := fun r _ => r = .ok (.skipped reason)) ?_ w trivial).2 hshown
    show (Trial.batching subject.kind ⟨Bench.World.answer, settings, w.hal.catalog⟩).Leads _ _ _
    rw [hskip]
    exact Act.leads_value fun _ _ => rfl
  dsimp only
  split
  · next hnone =>
    apply hskips
    rw [Trial.batching]
    dsimp only
    rw [hnone]
  · next d hdefault =>
    split
    · next hshort =>
      apply hskips
      rw [Trial.batching]
      dsimp only
      rw [hdefault]
      exact if_pos hshort
    · next hlasting =>
      intro hend
      have hown := hadmitted d (List.mem_of_find?_eq_some hdefault)
      obtain ⟨hreserved, -⟩ := Trial.reserved_of_lasting hown hlasting
      have hresult := (hrow (Trial.batching_leads hadmitted hdefault hlasting hclock hend) w
        trivial).2 hshown
      refine ⟨hresult.1, fun hfillable => hresult.1.trans ?_⟩
      rw [batchingOutcome, Trial.not_fallsShort hfillable hreserved
        (UInt32.le_iff_toNat_le.1 hown.fifo) (by omega)]
      rfl

open Bench in
/-- The stock accelerometer fills its reserved buffer, and the scenario passes. -/
theorem batching_exact_stock :
    let w := World.attending {} 0
      (Hal.runAtFront {} (.ofCatalog .stock Hal.silence) [⟨0, .connect 0 false⟩])
    w.Flowing ∧ w.hal.Idle ∧ w.hal.deadline? = none ∧ (Catalog.stock.map (·.handle)).Nodup ∧
      Catalog.fault? .stock = none ∧
      ((Suite.rowOf World.answer {} (.batching ⟨.accelerometer, "accelerometer"⟩)).act w).1 =
        .ok .passed := by
  intro w
  have hflowing : w.Flowing := World.attending_flowing _ (by decide) (by decide +kernel)
  have hidle : w.hal.Idle := ⟨by decide +kernel, by decide +kernel, by decide +kernel⟩
  have hdeadline : w.hal.deadline? = none := by decide +kernel
  have hnodup : (Catalog.stock.map (·.handle)).Nodup := by decide +kernel
  have hvalid : Catalog.fault? .stock = none := by
    have hnone : (Catalog.fault? .stock).isNone = true := by decide +kernel
    exact Option.isNone_iff_eq_none.1 hnone
  have hresult := batching_exact .stock Hal.silence [⟨0, .connect 0 false⟩] {}
    ⟨.accelerometer, "accelerometer"⟩ w hflowing rfl hidle hdeadline (by decide) hnodup hvalid
  obtain ⟨d, hdefault⟩ : ∃ d, w.hal.catalog.defaultSensor? .accelerometer = some d :=
    Option.isSome_iff_exists.1 (by decide +kernel)
  have hfacts : (w.hal.catalog.defaultSensor? .accelerometer).map (fun d =>
      (d.minDelayNs, d.fifoReserved.toNat)) = some (5000000, 300) := by decide +kernel
  rw [hdefault, Option.map_some, Option.some_inj, Prod.mk.injEq] at hfacts
  obtain ⟨hdelay, hreserved⟩ := hfacts
  have hlasts : reservedTime d = 1500000000 := by
    rw [reservedTime, hdelay, hreserved]
    decide
  have hend : w.clock + batchingTime {} d < greatestTime := by
    rw [batchingTime, Trial.batchingLead, Trial.batchingShare, Trial.batchingWait,
      Trial.batchingPeriod, hlasts]
    decide
  have hfillable : Fillable {} d := by
    refine ⟨?_, ?_, Or.inl ?_⟩
    · rw [hdelay]
      decide
    · rw [hdelay, hreserved]
      decide
    · rw [hreserved]
      decide
  simp only [hdefault] at hresult
  rw [if_neg (by rw [hlasts]; decide)] at hresult
  exact ⟨hflowing, hidle, hdeadline, hnodup, hvalid, (hresult hend).2 hfillable⟩

/-- A sensor whose reserved buffer holds one sample, taken after ten seconds. -/
def unhurried : Descriptor :=
  Catalog.stockSensor 1 "Unhurried" .accelerometer 39.2266 0.0012 0.15 (10000000, 10000000) (1, 1)
    (Flags.ofMode .continuous)

/-- Settings that cap the batching period at a second. -/
def capped : Settings :=
  { batching := { init := 0, maxPeriod := 1000 }, timeouts := { batchDelivery := 1 } }

open Bench in
/-- Where the batching period is capped before the first sample, a healthy HAL fails. -/
theorem batching_capped_fails :
    let w := World.attending {} 0
      (Hal.runAtFront {} (.ofCatalog [unhurried] Hal.silence) [⟨0, .connect 0 false⟩])
    w.Flowing ∧ w.behaviour.isFaulty = false ∧ w.hal.Idle ∧ w.hal.deadline? = none ∧
      Catalog.fault? [unhurried] = none ∧ capped.fault? = none ∧
      ((Suite.rowOf World.answer capped (.batching ⟨.accelerometer, "accelerometer"⟩)).act w).1 =
        .error (.violation (.tooFewEvents unhurried.handle 1 0)) := by
  intro w
  have hvalid : (Catalog.fault? [unhurried]).isNone = true := by decide +kernel
  have hsettings : capped.fault?.isNone = true := by decide +kernel
  refine ⟨World.attending_flowing _ (by decide) (by decide +kernel), by decide +kernel,
    ⟨by decide +kernel, by decide +kernel, by decide +kernel⟩, by decide +kernel,
    Option.isNone_iff_eq_none.1 hvalid, Option.isNone_iff_eq_none.1 hsettings, ?_⟩
  decide +kernel

end Scenario

end SensorBench
