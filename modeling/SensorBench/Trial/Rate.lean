import SensorBench.Event.Interval
import SensorBench.Trial.Basic
import SensorBench.Sensor.Plausibility

/-!
# Scenarios about rates

Samples arrive at the requested rate and are plausible, and a rate may be changed
while a sensor runs.
-/

set_option autoImplicit false

namespace SensorBench.Trial

variable {σ : Type}

/-- A sensor switched on or off; it has to be accepted. -/
def requireActivate (host : Host (Guard × σ)) (h : Handle) (on : Bool) :
    Act (Guard × σ) Unit := do
  let reply ← Guard.call host (.activate h on)
  let _ ← requireOk "activate" h.text reply

/-- A period and a report latency; they have to be accepted. -/
def requirePeriod (host : Host (Guard × σ)) (h : Handle) (period latency : Int) :
    Act (Guard × σ) Unit := do
  let reply ← host.call (.batch h period latency)
  let _ ← requireOk "batch" h.text reply

/-- What is missing when no sensor of a kind is listed. -/
def noSensor (kind : SensorKind) : String := "no " ++ kind.text ++ " sensor"

/-! ## Streaming -/

/-- The first event that the checker does not believe. -/
def implausible? (checker : Checker) (events : List Event) : Option Violation :=
  events.findSome? fun e =>
    (checker.reason? e.payload.values).map fun r => .checkFailed e.handle e.time r.message

/-- What is wrong with the events of a stream of which some number were
expected. -/
def streamFault? (d : Descriptor) (checker : Checker) (expected : Nat) (events : List Event) :
    Option Violation :=
  if events.isEmpty then some (.noEvents d.handle "while streaming")
  else match events.find? (·.kind ≠ d.kind) with
    | some e => some (.foreignEvent d.handle d.kind.text e.kind.text)
    | none => match implausible? checker events with
      | some v => some v
      | none =>
        if events.length * 2 < expected then
          some (.tooFewEvents d.handle ((expected + 1) / 2) events.length)
        else none

/-- The default sensor of a kind streams at a period; its samples are checked and
at least half of those expected have to be there. -/
def streaming (kind : SensorKind) (period : Int) : Body σ := fun stage =>
  match stage.catalog.defaultSensor? kind with
  | none => skip (noSensor kind)
  | some d =>
    if period < d.minDelayNs then
      skip ("min delay " ++ Text.signedDecimal d.minDelayNs ++ " ns is slower than " ++
        Text.signedDecimal period ++ " ns")
    else do
      let duration := ofMillis stage.settings.streaming.duration
      let expected := (duration / period).toNat
      let events ← subscribed stage.host fun collector => guarded stage.host fun host => do
        requirePeriod host d.handle period 0
        requireActivate host d.handle true
        host.ask (.awaitCount collector d.handle expected duration)
        requireActivate host d.handle false
        let seen ← host.ask (.delivered collector)
        return Collector.events seen d.handle
      match streamFault? d (.ofKind kind) expected events with
      | some v => .violate v
      | none => pass

/-! ## Rate switches -/

/-- The mean interval of a running sensor after its period was set. -/
def measure (settings : Settings) (host : Host (Guard × σ)) (d : Descriptor) (period : Int)
    (activates : Bool) : Act (Guard × σ) Int := do
  requirePeriod host d.handle period 0
  if activates then
    requireActivate host d.handle true
  host.ask (.sleep (ofMillis settings.hotSwitch.settle))
  let count := settings.hotSwitch.sampleCount.toNat
  let events ← host.ask (.gather 0 (min (period * count) Hal.greatestTime) count)
  let times := (List.filter (fun e => e.handle = d.handle && e.isSample) events).map (·.time)
  match averageInterval? times with
  | some mean =>
    if times.length ≤ 2 then .violate (.tooFewEvents d.handle 3 times.length) else .value mean
  | none => .violate (.tooFewEvents d.handle 3 times.length)

/-- What is wrong with the intervals measured at a fast and at a slow period: they
have to differ by more than a tenth, and each has to be within a tenth of what
was requested. -/
def switchFault? (d : Descriptor) (fast slow measuredFast measuredSlow : Int) :
    Option Violation :=
  if measuredSlow - measuredFast ≤ measuredFast.tdiv 10 then
    some (.rateSwitchIndistinct d.handle measuredFast measuredSlow)
  else if fast.tdiv 10 < (measuredFast - fast).natAbs then
    some (.rateMismatch d.handle fast measuredFast)
  else if slow.tdiv 10 < (measuredSlow - slow).natAbs then
    some (.rateMismatch d.handle slow measuredSlow)
  else none

/-- One switch of a running sensor, from its fast to its slow period or back. -/
def switchOnce (stage : Stage σ) (d : Descriptor) (fast slow : Int) (fastFirst : Bool) :
    Act σ Unit :=
  guarded stage.host fun host => do
    let first ← measure stage.settings host d (if fastFirst then fast else slow) true
    let second ← measure stage.settings host d (if fastFirst then slow else fast) false
    requireActivate host d.handle false
    let (measuredFast, measuredSlow) := if fastFirst then (first, second) else (second, first)
    match switchFault? d fast slow measuredFast measuredSlow with
    | some v => .violate v
    | none => .value ()

/-- The default sensor of a kind changes between its fastest and its slowest
period while it runs, both ways. -/
def hotSwitch (kind : SensorKind) : Body σ := fun stage =>
  match stage.catalog.defaultSensor? kind with
  | none => skip (noSensor kind)
  | some d =>
    let fast := d.minDelayNs
    let slow := d.maxDelayNs
    if fast ≤ 0 ∨ slow ≤ fast then skip "single sampling rate"
    else do
      switchOnce stage d fast slow true
      switchOnce stage d fast slow false
      return .passed

end SensorBench.Trial
