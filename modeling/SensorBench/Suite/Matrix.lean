import SensorBench.Trial.Batching
import SensorBench.Trial.Direct
import SensorBench.Trial.Flush
import SensorBench.Trial.Freshness
import SensorBench.Trial.Status

/-!
# The scenario matrix

All scenarios by name, in the order in which they run: eleven that concern the
whole device and then, for each of three kinds of sensor, three streams, a rate
switch, batching, and direct report over both memories at three rates.
-/

set_option autoImplicit false

namespace SensorBench

/-- A kind of sensor with scenarios of its own, and its name there. -/
structure Subject where
  kind : SensorKind
  name : String
  deriving DecidableEq, Repr

/-- The kinds of sensors with scenarios of their own. -/
def Subject.all : List Subject := [⟨.accelerometer, "accelerometer"⟩, ⟨.gyroscope, "gyroscope"⟩,
  ⟨.magneticField, "magnetometer"⟩]

/-- A named speed of a stream, with its period in nanoseconds. -/
structure Tempo where
  name : String
  period : Int
  deriving DecidableEq, Repr

/-- The speeds of streams. -/
def Tempo.all : List Tempo := [⟨"slow", 200000000⟩, ⟨"normal", 20000000⟩, ⟨"fast", 5000000⟩]

/-- A scenario of the matrix. -/
inductive Scenario where
  | sensorListValid
  | setOperationMode
  | injectSensorData
  | callInitializeTwice
  | activate
  | batch
  | flushSensor
  | flushOneShotSensor
  | flushInactiveSensor
  | flushNonexistentSensor
  | noStaleEvents
  | streaming (subject : Subject) (tempo : Tempo)
  | hotSwitch (subject : Subject)
  | batching (subject : Subject)
  | directReport (subject : Subject) (memory : MemoryKind) (rate : Rate)
  deriving DecidableEq, Repr

namespace Scenario

/-- The name of a scenario. -/
def name : Scenario → String
  | sensorListValid => "sensor_list_valid"
  | setOperationMode => "set_operation_mode"
  | injectSensorData => "inject_sensor_event_data"
  | callInitializeTwice => "call_initialize_twice"
  | activate => "activate"
  | batch => "batch"
  | flushSensor => "flush_sensor"
  | flushOneShotSensor => "flush_one_shot_sensor"
  | flushInactiveSensor => "flush_inactive_sensor"
  | flushNonexistentSensor => "flush_nonexistent_sensor"
  | noStaleEvents => "no_stale_events"
  | streaming s t => s.name ++ "_streaming_operation_" ++ t.name
  | hotSwitch s => s.name ++ "_sampling_period_hot_switch_operation"
  | batching s => s.name ++ "_batching_operation"
  | directReport s m r => s.name ++ "_" ++ m.name ++ "_direct_report_operation_" ++ r.name

/-- The name in a diagnostic listing. -/
def listing (s : Scenario) : String :=
  "Scenario \x7b name: " ++ Text.quoted s.name ++ " \x7d"

/-- The scenarios of one kind of sensor. -/
def ofSubject (s : Subject) : List Scenario :=
  Tempo.all.map (streaming s) ++ [hotSwitch s, batching s] ++
    [MemoryKind.ashmem, .gralloc].flatMap fun m =>
      [Rate.normal, .fast, .veryFast].map (directReport s m)

/-- All scenarios in the order in which they run. -/
def matrix : List Scenario :=
  [sensorListValid, setOperationMode, injectSensorData, callInitializeTwice, activate, batch,
    flushSensor, flushOneShotSensor, flushInactiveSensor, flushNonexistentSensor,
    noStaleEvents] ++ Subject.all.flatMap ofSubject

/-- The scenarios that a filter selects. -/
def selected (f : Settings.Filter) : List Scenario := matrix.filter fun s => f.selects s.name

/-- What a scenario does. -/
def body {σ : Type} : Scenario → Trial.Body σ
  | sensorListValid => Trial.sensorListValid
  | setOperationMode => Trial.setOperationMode
  | injectSensorData => Trial.injectSensorData
  | callInitializeTwice => Trial.callInitializeTwice
  | activate => Trial.activate
  | batch => Trial.batch
  | flushSensor => Trial.flushSensor
  | flushOneShotSensor => Trial.flushOneShotSensor
  | flushInactiveSensor => Trial.flushInactiveSensor
  | flushNonexistentSensor => Trial.flushNonexistentSensor
  | noStaleEvents => Trial.noStaleEvents
  | streaming s t => Trial.streaming s.kind t.period
  | hotSwitch s => Trial.hotSwitch s.kind
  | batching s => Trial.batching s.kind
  | directReport s m r => Trial.directReport s.kind m r

end Scenario

end SensorBench
