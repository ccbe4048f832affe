import SensorBench.Trial.Basic
import SensorBench.Sensor.Validity

/-!
# Scenarios about statuses

The sensor list, the operation mode, injection, activation and batching, as far
as replies alone tell whether they work.
-/

set_option autoImplicit false

namespace SensorBench.Trial

variable {σ : Type}

/-- Every listed sensor has to be well-formed. -/
def sensorListValid : Body σ := fun stage =>
  match stage.catalog.fault? with
  | some (d, f) => .violate (.invalidDescriptor d.handle d.name f.field f.message)
  | none => pass

/-- An operation mode that has to be accepted. -/
def requireMode (host : Host (Guard × σ)) (m : OperationMode) : Act (Guard × σ) Unit := do
  let reply ← Guard.call host (.mode m)
  let _ ← requireOk "set_operation_mode" m.title reply

/-- If any sensor takes injected samples, the mode has to go to injection and
back. -/
def setOperationMode : Body σ := fun stage =>
  if stage.catalog.injectable.isEmpty then skip "no sensor supports data injection"
  else guarded stage.host fun host => do
    requireMode host .normal
    requireMode host .dataInjection
    requireMode host .normal
    return .passed

/-- The kinds into which samples are injected. -/
def injectedKinds : List SensorKind := [.accelerometer, .gyroscope, .magneticField]

/-- A sample has to be taken by every motion sensor that takes injected ones. -/
def injectSensorData : Body σ := fun stage =>
  let targets := stage.catalog.injectable.filter fun d => injectedKinds.contains d.kind
  if targets.isEmpty then skip "no injectable motion sensor"
  else guarded stage.host fun host => do
    requireMode host .dataInjection
    Act.each targets fun d => do
      host.ask (.sleep (ofMillis stage.settings.injection.delay))
      let now ← host.ask .now
      let reply ← Guard.call host (.inject ⟨d.handle, d.kind, now, .vector (.of 1.0 2.0 3.0)⟩)
      let _ ← requireOk "inject_sensor_data" d.handle.text reply
    requireMode host .normal
    return .passed

/-- Switching on and off may be repeated, and an unknown handle is rejected both
ways. -/
def activate : Body σ := fun stage =>
  if stage.catalog.isEmpty then skip "no sensors"
  else guarded stage.host fun host => do
    Act.each stage.catalog fun d => do
      let _ ← host.call (.batch d.handle d.minDelayNs 0)
      Act.each [true, true, false, false] fun on => do
        let reply ← Guard.call host (.activate d.handle on)
        requireStatus "activate" d.handle.text none reply
    let invalid := stage.catalog.invalidHandle
    Act.each [true, false] fun on => do
      let reply ← Guard.call host (.activate invalid on)
      requireStatus "activate" invalid.text (some .badValue) reply
    return .passed

/-- A period that has to be answered with a certain status. -/
def requireBatch (host : Host (Guard × σ)) (h : Handle) (period : Int)
    (expected : Option Status) : Act (Guard × σ) Unit := do
  let reply ← host.call (.batch h period 0)
  requireStatus "batch" h.text expected reply

/-- Batching is accepted while a sensor is off and while it is on, and rejected
for an unknown handle. -/
def batch : Body σ := fun stage =>
  match stage.catalog with
  | [] => skip "no sensors"
  | first :: _ => guarded stage.host fun host => do
    Guard.activateAll host stage.catalog false
    Act.each stage.catalog fun d => do
      requireBatch host d.handle d.minDelayNs none
      let _ ← Guard.call host (.activate d.handle true)
      requireBatch host d.handle d.maxDelayNs none
    Guard.activateAll host stage.catalog false
    requireBatch host stage.catalog.invalidHandle first.minDelayNs (some .badValue)
    return .passed

end SensorBench.Trial
