import SensorBench.Data.Decode
import SensorBench.Sensor.Handle
import SensorBench.Sensor.Kind

/-!
# Sensor events

One observation of a sensor, with a payload tagged by its shape. An event is a
sample, a flush marker, or neither: the three are told apart by the kind and
the payload together.
-/

set_option autoImplicit false

namespace SensorBench

/-- How far a sample can be trusted. -/
inductive Accuracy where
  | noContact
  | unreliable
  | low
  | medium
  | high
  deriving DecidableEq, Repr, Inhabited

namespace Accuracy

/-- The name in data texts. -/
def name : Accuracy → String
  | noContact => "no_contact"
  | unreliable => "unreliable"
  | low => "accuracy_low"
  | medium => "accuracy_medium"
  | high => "accuracy_high"

/-- The accuracy read from data. -/
def decode : Decoder Accuracy :=
  Decode.variant ([noContact, unreliable, low, medium, high].map fun a => (a.name, a))

end Accuracy

/-- A sample along three axes. -/
structure Vector3 where
  x : Float32
  y : Float32
  z : Float32
  accuracy : Accuracy
  deriving Inhabited

namespace Vector3

/-- A sample of high accuracy. -/
def of (x y z : Float32) : Vector3 := ⟨x, y, z, .high⟩

/-- The three coordinates. -/
def coordinates (v : Vector3) : List Float32 := [v.x, v.y, v.z]

/-- A sample read from data; the accuracy may be left out. -/
def decode : Decoder Vector3 := fun d => do
  let s ← Decode.slots ["x", "y", "z", "status"] false d
  let x ← Decode.required s "x" Decode.single
  let y ← Decode.required s "y" Decode.single
  let z ← Decode.required s "z" Decode.single
  let accuracy ← Decode.optional s "status" .high Accuracy.decode
  some ⟨x, y, z, accuracy⟩

/-- The sample as data. -/
def toData (v : Vector3) : Data :=
  .record [("x", .single v.x), ("y", .single v.y), ("z", .single v.z),
    ("status", .text v.accuracy.name)]

end Vector3

/-- What an event carries. -/
inductive Payload where
  | vector (v : Vector3)
  | scalar (x : Float32)
  | steps (n : UInt64)
  | flushComplete
  deriving Inhabited

namespace Payload

/-- The measured values, in the order in which a record carries them. -/
def values : Payload → List Float32
  | vector v => v.coordinates
  | scalar x => [x]
  | steps n => [Number.singleOfInt n.toNat]
  | flushComplete => []

/-- Whether the payload is about the stream and no measurement. -/
def isMeta : Payload → Bool
  | flushComplete => true
  | _ => false

/-- The payload of a flush marker read from data. -/
def decodeMeta : Decoder Payload := fun d => do
  let s ← Decode.slots ["what"] false d
  Decode.required s "what" (Decode.variant [("flush_complete", flushComplete)])

/-- A payload read from data: a record with the shape as its one key. -/
def decode : Decoder Payload
  | .record [("vec3", x)] => (Vector3.decode x).map vector
  | .record [("scalar", x)] => (Decode.single x).map scalar
  | .record [("step_count", x)] => (Decode.unsigned 64 x).map fun n => steps n.toUInt64
  | .record [("meta", x)] => decodeMeta x
  | _ => none

/-- The payload as data. -/
def toData : Payload → Data
  | vector v => .record [("vec3", v.toData)]
  | scalar x => .record [("scalar", .single x)]
  | steps n => .record [("step_count", .nat n.toNat)]
  | flushComplete => .record [("meta", .record [("what", .text "flush_complete")])]

end Payload

/-- One observation; the time is in nanoseconds on the device's clock. -/
structure Event where
  handle : Handle
  kind : SensorKind
  time : Int
  payload : Payload
  deriving Inhabited

namespace Event

/-- The marker that everything buffered for a sensor has been delivered. -/
def flushMarker (h : Handle) (time : Int) : Event := ⟨h, .metaData, time, .flushComplete⟩

/-- Whether the event is a flush marker. -/
def isFlushMarker (e : Event) : Bool := e.kind = .metaData && e.payload.isMeta

/-- Whether the event carries a measurement. -/
def isSample (e : Event) : Bool := !e.kind.isMeta && !e.payload.isMeta

/-- The three-axis sample of the event. -/
def vector? (e : Event) : Option Vector3 :=
  match e.payload with
  | .vector v => some v
  | _ => none

/-- An event read from data. -/
def decode : Decoder Event := fun d => do
  let s ← Decode.slots ["sensor_handle", "sensor_type", "timestamp_ns", "payload"] false d
  let handle ← Decode.required s "sensor_handle" Decode.int32
  let kind ← Decode.required s "sensor_type" SensorKind.decode
  let time ← Decode.required s "timestamp_ns" Decode.int64
  let payload ← Decode.required s "payload" Payload.decode
  some ⟨Handle.ofInt handle, kind, time, payload⟩

/-- The event as data. -/
def toData (e : Event) : Data :=
  .record [("sensor_handle", .int e.handle.toInt), ("sensor_type", e.kind.toData),
    ("timestamp_ns", .int e.time), ("payload", e.payload.toData)]

end Event

end SensorBench
