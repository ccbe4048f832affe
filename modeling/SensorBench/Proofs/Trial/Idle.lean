import SensorBench.Proofs.Bench.Serving
import SensorBench.Sensor.Stock
import SensorBench.Suite.Run

/-!
# Scenarios leave the HAL idle

Whatever a scenario acquires, it acquires through a guard or with a subscription, so each
part of it keeps states in order. A scenario that finds the HAL idle and no collector
registered leaves them so, on whatever way it ends (`Scenario.leaves_idle`), and so does a
run of the suite (`Suite.run_leaves_idle`).
-/

set_option autoImplicit false

namespace SensorBench

namespace Trial

open Act

variable {τ α : Type} {P : τ → Prop} {b : Behaviour} {host : Host τ} {v : View τ} {quiet : Bool}

/-! ## Parts of scenarios -/

theorem requireOk_keeps (operation target : String) (reply : Except Status α) :
    (requireOk operation target reply : Act τ α).Keeps P := by
  cases reply with
  | ok a => exact (still_value a).keeps
  | error status => exact (still_violate _).keeps

theorem requireStatus_keeps (operation target : String) (expected : Option Status)
    (reply : Except Status α) :
    (requireStatus operation target expected reply : Act τ Unit).Keeps P :=
  (still_value ()).keeps.ite (still_violate _).keeps

theorem requireTime_keeps (d : Descriptor) (window : String) (e : Option Event) :
    (requireTime d window e : Act τ Int).Keeps P := by
  cases e with
  | some e => exact (still_value _).keeps
  | none => exact (still_violate _).keeps

theorem requireSize_keeps (size : Except String Nat) : (requireSize size : Act τ Nat).Keeps P := by
  cases size with
  | ok n => exact (still_value n).keeps
  | error text => exact (still_halt _).keeps

theorem skip_keeps (reason : String) : (skip reason : Act τ Outcome).Keeps P :=
  (still_value _).keeps

theorem batch_acquiresNothing (h : Handle) (period latency : Int) :
    (Call.batch h period latency).AcquiresNothing := by
  intro r reply
  cases r <;> exact id

theorem flush_acquiresNothing (h : Handle) : (Call.flush h).AcquiresNothing := by
  intro r reply
  cases r <;> exact id

section Parts

variable (hserves : Serves b host v)
include hserves

theorem requireActivate_keeps (h : Handle) (on : Bool) :
    (requireActivate host.beside h on).Keeps (v.guarded.Kept quiet) := by
  refine (hserves.guard_call_keeps _).bind fun reply => ?_
  exact (requireOk_keeps _ _ _).bind fun _ => keeps_pure ()

theorem requireMode_keeps (m : OperationMode) :
    (requireMode host.beside m).Keeps (v.guarded.Kept quiet) := by
  refine (hserves.guard_call_keeps _).bind fun reply => ?_
  exact (requireOk_keeps _ _ _).bind fun _ => keeps_pure ()

theorem requireReport_keeps (h : Handle) (channel : Int) (rate : Rate) :
    (requireReport host.beside h channel rate).Keeps (v.guarded.Kept quiet) :=
  (hserves.guard_call_keeps _).bind fun _ => requireOk_keeps _ _ _

theorem requireChannel_keeps (kind : MemoryKind) (size memory : Nat) :
    (requireChannel host.beside kind size memory).Keeps (v.guarded.Kept quiet) := by
  refine (hserves.guard_call_keeps _).bind fun reply => ?_
  refine (requireOk_keeps _ _ _).bind fun channel => ?_
  refine Keeps.when (still_violate _).keeps ?_
  refine Keeps.bind (hserves.guarded.ask_keeps trivial) fun bytes => ?_
  split
  · exact (still_violate _).keeps
  · exact (still_value _).keeps

theorem requirePeriod_keeps (h : Handle) (period latency : Int) :
    (requirePeriod host.beside h period latency).Keeps (v.guarded.Kept quiet) := by
  refine (hserves.guarded.call_keeps (batch_acquiresNothing h period latency)).bind fun reply => ?_
  exact (requireOk_keeps _ _ _).bind fun _ => keeps_pure ()

theorem requireBatch_keeps (h : Handle) (period : Int) (expected : Option Status) :
    (requireBatch host.beside h period expected).Keeps (v.guarded.Kept quiet) :=
  (hserves.guarded.call_keeps (batch_acquiresNothing h period 0)).bind fun _ =>
    requireStatus_keeps _ _ _ _

theorem requireFlush_keeps (h : Handle) :
    (batching.requireFlush host.beside h).Keeps (v.guarded.Kept quiet) := by
  refine (hserves.guarded.call_keeps (flush_acquiresNothing h)).bind fun reply => ?_
  exact (requireOk_keeps _ _ _).bind fun _ => keeps_pure ()

theorem flushOne_keeps (test : FlushTest) (d : Descriptor) :
    (flushOne test host.beside d).Keeps (v.guarded.Kept quiet) := by
  have hflush : ∀ _ : Nat, (do
      let reply ← host.beside.call (.flush d.handle)
      requireStatus "flush" d.handle.text test.status reply).Keeps (v.guarded.Kept quiet) :=
    fun _ => (hserves.guarded.call_keeps (flush_acquiresNothing d.handle)).bind fun _ =>
      requireStatus_keeps _ _ _ _
  refine (hserves.guarded.call_keeps (batch_acquiresNothing _ _ _)).bind fun _ => ?_
  refine (hserves.guard_call_keeps _).bind fun _ => ?_
  refine (Keeps.each hflush _).bind fun _ => ?_
  exact (hserves.guard_call_keeps _).bind fun _ => keeps_pure ()

theorem runOnce_keeps (collector : Nat) (sensors : Catalog) (time : Int) :
    (runOnce host.beside collector sensors time).Keeps (v.guarded.Kept quiet) := by
  refine (hserves.activateAll_keeps sensors true).bind fun _ => ?_
  exact Keeps.bind (hserves.guarded.ask_keeps trivial) fun _ =>
    hserves.activateAll_keeps sensors false

theorem lastTimes_keeps (collector : Nat) (sensors : Catalog) :
    (lastTimes host.beside collector sensors).Keeps (v.guarded.Kept quiet) := by
  induction sensors with
  | nil => exact (still_value _).keeps
  | cons d rest ih =>
    refine Keeps.bind (hserves.guarded.ask_keeps trivial) fun seen => ?_
    exact (requireTime_keeps d _ _).bind fun time => ih.bind fun times => keeps_pure _

theorem checkGap_keeps (collector : Nat) (settings : Settings) (times : List (Handle × Int))
    (d : Descriptor) :
    (checkGap host.beside collector settings times d).Keeps (v.guarded.Kept quiet) := by
  refine Keeps.bind (hserves.guarded.ask_keeps trivial) fun seen => ?_
  exact (requireTime_keeps _ _ _).bind fun first =>
    (still_violate _).keeps.ite (still_value ()).keeps

theorem measure_keeps (settings : Settings) (d : Descriptor) (period : Int) (activates : Bool) :
    (measure settings host.beside d period activates).Keeps (v.guarded.Kept quiet) := by
  refine (requirePeriod_keeps hserves _ _ _).bind fun _ => ?_
  refine Keeps.when (requireActivate_keeps hserves _ _) ?_
  refine Keeps.bind (hserves.guarded.ask_keeps trivial) fun _ => ?_
  refine Keeps.bind (hserves.guarded.ask_keeps trivial) fun events => ?_
  dsimp only
  split
  · exact (still_violate _).keeps.ite (still_value _).keeps
  · exact (still_violate _).keeps

theorem reconnect_keeps (settings : Settings) : (reconnect host settings).Keeps (v.Kept quiet) := by
  refine Keeps.bind (hserves.ask_keeps trivial) fun reply => ?_
  cases reply with
  | ok => exact (still_value _).keeps
  | error status => exact (still_violate _).keeps

theorem restoring_keeps (settings : Settings) {body : Act (Bool × τ) α}
    (hbody : body.Keeps (v.beside.Kept quiet)) :
    (restoring host settings body).Keeps (v.Kept quiet) := by
  refine Keeps.alongside (R := v.beside.Kept quiet) ?start hbody ?leave
  case start => exact fun s hs => ⟨hs.fit, hs.noted, hs.silent⟩
  case leave =>
    intro restored s hs
    have hkept : v.Kept quiet s := ⟨hs.fit, hs.noted, hs.silent⟩
    cases restored with
    | true => exact hkept
    | false =>
      have hreconnect : (Act.andThen (host.ask (.reconnect settings.session.queueCapacity))
          fun _ => .value ()).Keeps (v.Kept quiet) :=
        Keeps.andThen (hserves.ask_keeps trivial) fun _ => keeps_pure ()
      exact hreconnect s hkept

theorem withFreshSession_keeps (settings : Settings) {body : Nat → Act τ α}
    (hbody : ∀ session, (body session).Keeps (v.Kept quiet)) :
    (withFreshSession host settings body).Keeps (v.Kept quiet) := by
  refine Keeps.bind (hserves.ask_keeps trivial) fun reply => ?_
  cases reply with
  | ok session => exact (hbody session).endingWith (hserves.ask_keeps trivial)
  | error status => exact (still_violate _).keeps

end Parts

/-! ## Scenarios -/

theorem sensorListValid_keeps {stage : Stage τ} : (sensorListValid stage).Keeps P := by
  unfold sensorListValid
  split
  · exact (still_violate _).keeps
  · exact (still_value _).keeps

section Scenarios

variable {stage : Stage τ} (hserves : Serves b stage.host v) (hbare : v.Bare)
include hserves hbare

theorem setOperationMode_keeps : (setOperationMode stage).Keeps (v.Kept quiet) := by
  refine (skip_keeps _).ite ?_
  apply hserves.guarded_keeps hbare
  refine (requireMode_keeps hserves _).bind fun _ => ?_
  refine (requireMode_keeps hserves _).bind fun _ => ?_
  exact (requireMode_keeps hserves _).bind fun _ => keeps_pure _

theorem injectSensorData_keeps : (injectSensorData stage).Keeps (v.Kept quiet) := by
  refine (skip_keeps _).ite ?_
  apply hserves.guarded_keeps hbare
  refine (requireMode_keeps hserves _).bind fun _ => ?_
  refine Keeps.bind (Keeps.each (fun d => ?_) _) fun _ =>
    (requireMode_keeps hserves _).bind fun _ => keeps_pure _
  refine Keeps.bind (hserves.guarded.ask_keeps trivial) fun _ => ?_
  refine Keeps.bind (hserves.guarded.ask_keeps trivial) fun now => ?_
  refine (hserves.guard_call_keeps _).bind fun reply => ?_
  exact (requireOk_keeps _ _ _).bind fun _ => keeps_pure ()

theorem activate_keeps : (activate stage).Keeps (v.Kept quiet) := by
  have hswitches : ∀ (h : Handle) (expected : Option Status) (switches : List Bool),
      (Act.each switches fun on => do
        let reply ← Guard.call stage.host.beside (.activate h on)
        requireStatus "activate" h.text expected reply).Keeps (v.guarded.Kept quiet) :=
    fun _ _ _ => Keeps.each (fun _ => (hserves.guard_call_keeps _).bind fun _ =>
      requireStatus_keeps _ _ _ _) _
  refine (skip_keeps _).ite ?_
  apply hserves.guarded_keeps hbare
  refine Keeps.bind (Keeps.each (fun d => ?_) _) fun _ =>
    (hswitches _ _ _).bind fun _ => keeps_pure _
  exact (hserves.guarded.call_keeps (batch_acquiresNothing _ _ _)).bind fun _ => hswitches _ _ _

theorem batch_keeps : (batch stage).Keeps (v.Kept quiet) := by
  unfold batch
  split
  · exact skip_keeps _
  · apply hserves.guarded_keeps hbare
    refine (hserves.activateAll_keeps _ _).bind fun _ => ?_
    refine Keeps.bind (Keeps.each (fun d => ?_) _) fun _ =>
      (hserves.activateAll_keeps _ _).bind fun _ =>
      (requireBatch_keeps hserves _ _ _).bind fun _ => keeps_pure _
    refine (requireBatch_keeps hserves _ _ _).bind fun _ => ?_
    exact (hserves.guard_call_keeps _).bind fun _ => requireBatch_keeps hserves _ _ _

theorem flushTest_keeps (sensors : Catalog) (test : FlushTest) :
    (flushTest stage sensors test).Keeps (v.Kept quiet) := by
  apply hserves.subscribed_keeps
  intro collector
  refine (hserves.guarded_keeps hbare (Keeps.each (flushOne_keeps hserves test) _)).bind fun _ => ?_
  refine Keeps.bind (hserves.ask_keeps trivial) fun _ => ?_
  refine Keeps.each (fun d => ?_) _
  refine Keeps.bind (hserves.ask_keeps trivial) fun seen => ?_
  exact (still_value ()).keeps.ite (still_violate _).keeps

theorem flushSensor_keeps : (flushSensor stage).Keeps (v.Kept quiet) := by
  refine (skip_keeps _).ite ?_
  refine (flushTest_keeps hserves hbare _ _).bind fun _ => ?_
  exact (flushTest_keeps hserves hbare _ _).bind fun _ => keeps_pure _

theorem flushOneShotSensor_keeps : (flushOneShotSensor stage).Keeps (v.Kept quiet) :=
  (skip_keeps _).ite ((flushTest_keeps hserves hbare _ _).bind fun _ => keeps_pure _)

theorem flushInactiveSensor_keeps : (flushInactiveSensor stage).Keeps (v.Kept quiet) :=
  (skip_keeps _).ite ((flushTest_keeps hserves hbare _ _).bind fun _ => keeps_pure _)

theorem flushNonexistentSensor_keeps : (flushNonexistentSensor stage).Keeps (v.Kept quiet) := by
  unfold flushNonexistentSensor
  split
  · exact skip_keeps _
  · exact (flushTest_keeps hserves hbare _ _).bind fun _ => keeps_pure _

theorem noStaleEvents_keeps : (noStaleEvents stage).Keeps (v.Kept quiet) := by
  refine (skip_keeps _).ite ?_
  apply hserves.subscribed_keeps
  intro collector
  apply hserves.guarded_keeps hbare
  refine (runOnce_keeps hserves _ _ _).bind fun _ => ?_
  refine (lastTimes_keeps hserves _ _).bind fun times => ?_
  refine Keeps.bind (hserves.guarded.ask_keeps trivial) fun _ => ?_
  refine Keeps.bind (hserves.guarded.ask_keeps trivial) fun _ => ?_
  refine (runOnce_keeps hserves _ _ _).bind fun _ => ?_
  exact Keeps.bind (Keeps.each (checkGap_keeps hserves _ _ _) _) fun _ => keeps_pure _

theorem callInitializeTwice_keeps : (callInitializeTwice stage).Keeps (v.Kept quiet) := by
  -- the note of the reconnection is beside the host all along, and each guard beside both
  have hbeside : Serves b (stage.host.beside : Host (Bool × τ)) v.beside := hserves.beside
  have hbare' : (v.beside : View (Bool × τ)).Bare := fun s => hbare s.2
  refine (skip_keeps _).ite ?_
  apply restoring_keeps hserves
  apply withFreshSession_keeps hbeside
  intro fresh
  refine Keeps.bind ?during fun _ => Keeps.bind (hbeside.ask_keeps trivial) fun _ =>
    Keeps.bind ?restored fun _ => (reconnect_keeps hbeside _).bind fun _ => ?after
  case during =>
    apply hbeside.guarded_keeps hbare'
    refine (hbeside.activateAll_keeps _ _).bind fun _ => ?_
    refine Keeps.bind (hbeside.guarded.ask_keeps trivial) fun stale => ?_
    refine Keeps.when (still_violate _).keeps ?_
    refine Keeps.bind (hbeside.guarded.ask_keeps trivial) fun news => ?_
    exact Keeps.when (still_violate _).keeps (hbeside.activateAll_keeps _ _)
  case restored => exact fun s hs => ⟨hs.fit, hs.noted, hs.silent⟩
  case after =>
    apply hbeside.guarded_keeps hbare'
    refine (hbeside.activateAll_keeps _ _).bind fun _ => ?_
    refine Keeps.bind (hbeside.guarded.ask_keeps trivial) fun restored => ?_
    refine (hbeside.activateAll_keeps _ _).bind fun _ => ?_
    exact Keeps.when (still_violate _).keeps (keeps_pure _)

theorem streaming_keeps (kind : SensorKind) (period : Int) :
    (streaming kind period stage).Keeps (v.Kept quiet) := by
  unfold streaming
  split
  · exact skip_keeps _
  · refine (skip_keeps _).ite (Keeps.bind ?samples fun events => ?checked)
    case samples =>
      apply hserves.subscribed_keeps
      intro collector
      apply hserves.guarded_keeps hbare
      refine (requirePeriod_keeps hserves _ _ _).bind fun _ => ?_
      refine (requireActivate_keeps hserves _ _).bind fun _ => ?_
      refine Keeps.bind (hserves.guarded.ask_keeps trivial) fun _ => ?_
      refine (requireActivate_keeps hserves _ _).bind fun _ => ?_
      exact Keeps.bind (hserves.guarded.ask_keeps trivial) fun seen => keeps_pure _
    case checked =>
      split
      · exact (still_violate _).keeps
      · exact (still_value _).keeps

theorem switchOnce_keeps (d : Descriptor) (fast slow : Int) (fastFirst : Bool) :
    (switchOnce stage d fast slow fastFirst).Keeps (v.Kept quiet) := by
  apply hserves.guarded_keeps hbare
  refine (measure_keeps hserves _ _ _ _).bind fun first => ?_
  refine (measure_keeps hserves _ _ _ _).bind fun second => ?_
  refine (requireActivate_keeps hserves _ _).bind fun _ => ?_
  dsimp only
  split
  · exact (still_violate _).keeps
  · exact (still_value _).keeps

theorem hotSwitch_keeps (kind : SensorKind) : (hotSwitch kind stage).Keeps (v.Kept quiet) := by
  unfold hotSwitch
  split
  · exact skip_keeps _
  · refine (skip_keeps _).ite ?_
    refine (switchOnce_keeps hserves hbare _ _ _ _).bind fun _ => ?_
    exact (switchOnce_keeps hserves hbare _ _ _ _).bind fun _ => keeps_pure _

theorem batching_keeps (kind : SensorKind) : (batching kind stage).Keeps (v.Kept quiet) := by
  unfold batching
  split
  · exact skip_keeps _
  · refine (skip_keeps _).ite ?_
    apply hserves.subscribed_keeps
    intro _
    apply hserves.guarded_keeps hbare
    refine (requirePeriod_keeps hserves _ _ _).bind fun _ => ?_
    refine (requireActivate_keeps hserves _ _).bind fun _ => ?_
    refine Keeps.bind (hserves.guarded.ask_keeps trivial) fun _ => ?_
    refine (requireFlush_keeps hserves _).bind fun _ => ?_
    refine Keeps.bind (hserves.guarded.ask_keeps trivial) fun _ => ?_
    refine Keeps.bind (hserves.guarded.ask_keeps trivial) fun _ => ?_
    -- the second subscription begins and ends under the guard
    apply hserves.guarded.subscribed_keeps
    intro collector
    refine Keeps.bind (hserves.guarded.ask_keeps trivial) fun _ => ?_
    refine (requireFlush_keeps hserves _).bind fun _ => ?_
    refine Keeps.bind (hserves.guarded.ask_keeps trivial) fun _ => ?_
    refine (requireActivate_keeps hserves _ _).bind fun _ => ?_
    refine Keeps.bind (hserves.guarded.ask_keeps trivial) fun seen => ?_
    exact (still_violate _).keeps.ite (still_value _).keeps

theorem directReport_keeps (kind : SensorKind) (memoryKind : MemoryKind) (rate : Rate) :
    (directReport kind memoryKind rate stage).Keeps (v.Kept quiet) := by
  unfold directReport
  split
  · exact skip_keeps _
  · refine (skip_keeps _).ite ?_
    refine (skip_keeps _).ite ?_
    refine (requireSize_keeps _).bind fun size => ?_
    refine Keeps.bind (hserves.ask_keeps trivial) fun memory => ?_
    apply hserves.guarded_keeps hbare
    refine (requireChannel_keeps hserves _ _ _).bind fun channel => ?_
    refine (requireReport_keeps hserves _ _ _).bind fun token => ?_
    refine Keeps.when (still_violate _).keeps ?_
    refine Keeps.bind (hserves.guarded.ask_keeps trivial) fun _ => ?_
    refine (requireReport_keeps hserves _ _ _).bind fun _ => ?_
    refine Keeps.bind (hserves.guarded.ask_keeps trivial) fun bytes => ?_
    split
    · exact (still_violate _).keeps
    · refine (hserves.guard_call_keeps _).bind fun reply => ?_
      exact (requireOk_keeps _ _ _).bind fun _ => keeps_pure _

end Scenarios

end Trial

section Runs

variable {τ : Type} {b : Behaviour} {host : Host τ} {v : View τ} {quiet : Bool}

open Trial in
/-- Every scenario keeps states in order. -/
theorem Scenario.body_keeps (stage : Stage τ) (hserves : Serves b stage.host v) (hbare : v.Bare)
    (s : Scenario) : (s.body stage).Keeps (v.Kept quiet) := by
  cases s with
  | sensorListValid => exact sensorListValid_keeps
  | setOperationMode => exact setOperationMode_keeps hserves hbare
  | injectSensorData => exact injectSensorData_keeps hserves hbare
  | callInitializeTwice => exact callInitializeTwice_keeps hserves hbare
  | activate => exact activate_keeps hserves hbare
  | batch => exact batch_keeps hserves hbare
  | flushSensor => exact flushSensor_keeps hserves hbare
  | flushOneShotSensor => exact flushOneShotSensor_keeps hserves hbare
  | flushInactiveSensor => exact flushInactiveSensor_keeps hserves hbare
  | flushNonexistentSensor => exact flushNonexistentSensor_keeps hserves hbare
  | noStaleEvents => exact noStaleEvents_keeps hserves hbare
  | streaming subject tempo => exact streaming_keeps hserves hbare subject.kind tempo.period
  | hotSwitch subject => exact hotSwitch_keeps hserves hbare subject.kind
  | batching subject => exact batching_keeps hserves hbare subject.kind
  | directReport subject memory rate =>
    exact directReport_keeps hserves hbare subject.kind memory rate

theorem Suite.rowOf_keeps (hserves : Serves b host v) (hbare : v.Bare) (settings : Settings)
    (s : Scenario) : (Suite.rowOf host settings s).act.Keeps (v.Kept quiet) :=
  Act.Keeps.bind (hserves.ask_keeps trivial) fun catalog =>
    Scenario.body_keeps ⟨host, settings, catalog⟩ hserves hbare s

/-- A scenario that finds the HAL idle and no collector registered leaves them so, whatever
the HAL's behaviour, the sensors and the settings are, and however the scenario ends: with a
pass, a skip, a violation, or a panic at any request. -/
theorem Scenario.leaves_idle (hserves : Serves b host v) (hbare : v.Bare) (settings : Settings)
    (s : Scenario) {t : τ} (hfit : v.fit t) (hrest : v.AtRest t) :
    v.AtRest ((Suite.rowOf host settings s).act t).2 := by
  have hkept : v.Kept true t := (hserves.kept_iff hbare).2 ⟨hfit, hrest⟩
  exact ((hserves.kept_iff hbare).1 (Suite.rowOf_keeps hserves hbare settings s t hkept)).2

open Bench in
/-- Batching on a HAL that drops flush markers, in a world that panics at the second flush. -/
theorem Scenario.leaves_idle_panicking :
    let panic : Rule := ⟨"flush", none, none, none, none, none, none, some 2, .panic⟩
    let b : Behaviour := .ofFaults [.dropFlushMarkers]
    let w := World.start .stock b (fun _ => 0) 0 true
      { Playbook.plain .flowing with rules := [panic] }
    let row := Suite.rowOf World.answer {} (.batching ⟨.accelerometer, "accelerometer"⟩)
    Serves b World.answer (World.view b) ∧ (World.view b).fit w ∧ (World.view b).AtRest w ∧
      (World.view b).AtRest (row.act w).2 := by
  intro panic b w row
  have hpanic : panic.Interrupts := ⟨rfl, fun held => by
    cases held <;> simp [panic, Resource.release, Occasion.name]⟩
  have hhonest : w.Honest b :=
    ⟨Hal.ofCatalog_sound _ _, rfl, rfl, rfl, fun r hr => List.mem_singleton.1 hr ▸ hpanic⟩
  have hrest : (World.view b).AtRest w := ⟨Hal.ofCatalog_idle _ _, rfl⟩
  exact ⟨World.serves b, hhonest, hrest,
    Scenario.leaves_idle (World.serves b) (World.view_bare b) {} _ hhonest hrest⟩

/-! ## Runs of the suite -/

/-- What every row keeps, a run of rows keeps. -/
theorem Suite.runRows_keeps {P : τ → Prop} (cancel : τ → Bool) (clock : τ → Int)
    {rows : List (Suite.Row τ)} (hrows : ∀ row ∈ rows, row.act.Keeps P) {t : τ} (ht : P t) :
    P (Suite.runRows cancel clock t rows).2 := by
  induction rows generalizing t with
  | nil => exact ht
  | cons row rest ih =>
    rw [Suite.runRows]
    split
    · exact ht
    · exact ih (fun r hr => hrows r (List.mem_cons_of_mem row hr))
        (hrows row List.mem_cons_self t ht)

/-- A run of the suite keeps states in order, also if it is cancelled or cannot connect. -/
theorem Suite.run_keeps (hserves : Serves b host v) (hbare : v.Bare) (settings : Settings)
    (cancel : τ → Bool) (clock : τ → Int) (started : Moment) :
    (Suite.run host settings cancel clock started).Keeps (v.Kept quiet) := by
  intro t ht
  have hconnect : (host.ask (.connect settings.session.queueCapacity)).Keeps (v.Kept quiet) :=
    hserves.ask_keeps trivial
  have hconnected := hconnect t ht
  rw [Suite.run, Suite.runWith]
  dsimp only
  split
  · next heq =>
    rw [heq] at hconnected
    exact hconnected
  · next heq =>
    rw [heq] at hconnected
    exact hconnected
  · next heq =>
    rw [heq] at hconnected
    refine Suite.runRows_keeps cancel clock (fun row hrow => ?_) hconnected
    obtain ⟨s, -, rfl⟩ := List.mem_map.1 (List.mem_filter.1 hrow).1
    exact Suite.rowOf_keeps hserves hbare settings s

/-- A run of the suite that finds the HAL idle and no collector registered leaves them so,
also if it is cancelled or cannot connect. -/
theorem Suite.run_leaves_idle (hserves : Serves b host v) (hbare : v.Bare) (settings : Settings)
    (cancel : τ → Bool) (clock : τ → Int) (started : Moment) {t : τ} (hfit : v.fit t)
    (hrest : v.AtRest t) : v.AtRest (Suite.run host settings cancel clock started t).2 := by
  have hkept : v.Kept true t := (hserves.kept_iff hbare).2 ⟨hfit, hrest⟩
  exact ((hserves.kept_iff hbare).1
    (Suite.run_keeps hserves hbare settings cancel clock started t hkept)).2

end Runs

end SensorBench
