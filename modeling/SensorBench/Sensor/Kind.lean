import SensorBench.Data.Decode
import SensorBench.Text.Numeral

/-!
# Sensor kinds

The standard kinds of sensors with their type codes, canonical names and the
reporting mode each kind has to declare, and the private kinds of a vendor. One
table holds all of it; every function of this module reads that table.
-/

set_option autoImplicit false

namespace SensorBench

/-- When a sensor reports: at a rate, when its value changes, once, or by a rule
of its own. -/
inductive ReportingMode where
  | continuous
  | onChange
  | oneShot
  | special
  deriving DecidableEq, Repr, Inhabited

namespace ReportingMode

/-- The name in data texts. -/
def name : ReportingMode → String
  | continuous => "continuous"
  | onChange => "on_change"
  | oneShot => "one_shot"
  | special => "special"

/-- The name in messages. -/
def title : ReportingMode → String
  | continuous => "Continuous"
  | onChange => "OnChange"
  | oneShot => "OneShot"
  | special => "Special"

end ReportingMode

/-- What a sensor measures. A private kind carries its type code. -/
inductive SensorKind where
  | metaData
  | accelerometer
  | magneticField
  | orientation
  | gyroscope
  | light
  | pressure
  | temperature
  | proximity
  | gravity
  | linearAcceleration
  | rotationVector
  | relativeHumidity
  | ambientTemperature
  | magneticFieldUncalibrated
  | gameRotationVector
  | gyroscopeUncalibrated
  | significantMotion
  | stepDetector
  | stepCounter
  | geomagneticRotationVector
  | heartRate
  | tiltDetector
  | wakeGesture
  | glanceGesture
  | pickUpGesture
  | wristTiltGesture
  | deviceOrientation
  | pose6Dof
  | stationaryDetect
  | motionDetect
  | heartBeat
  | dynamicSensorMeta
  | additionalInfo
  | lowLatencyOffbodyDetect
  | accelerometerUncalibrated
  | devicePrivate (code : Int32)
  deriving DecidableEq, Repr, Inhabited

namespace SensorKind

/-- What is fixed about a standard kind: its type code, the part of its
canonical name after the reserved beginning, its name in data texts, and the
reporting mode it requires, if any. -/
structure Standard where
  kind : SensorKind
  code : Nat
  name : String
  dataName : String
  mode : Option ReportingMode

/-- A row of the table whose two names agree. -/
def row (kind : SensorKind) (code : Nat) (name : String) (mode : Option ReportingMode) : Standard :=
  ⟨kind, code, name, name, mode⟩

/-- The standard kinds in the order of their codes. -/
def table : List Standard := [
  row .metaData 0 "meta_data" none,
  row .accelerometer 1 "accelerometer" (some .continuous),
  row .magneticField 2 "magnetic_field" (some .continuous),
  row .orientation 3 "orientation" (some .continuous),
  row .gyroscope 4 "gyroscope" (some .continuous),
  row .light 5 "light" (some .onChange),
  row .pressure 6 "pressure" (some .continuous),
  row .temperature 7 "temperature" (some .continuous),
  row .proximity 8 "proximity" (some .onChange),
  row .gravity 9 "gravity" (some .continuous),
  row .linearAcceleration 10 "linear_acceleration" (some .continuous),
  row .rotationVector 11 "rotation_vector" (some .continuous),
  row .relativeHumidity 12 "relative_humidity" (some .onChange),
  row .ambientTemperature 13 "ambient_temperature" (some .onChange),
  row .magneticFieldUncalibrated 14 "magnetic_field_uncalibrated" (some .continuous),
  row .gameRotationVector 15 "game_rotation_vector" (some .continuous),
  row .gyroscopeUncalibrated 16 "gyroscope_uncalibrated" (some .continuous),
  row .significantMotion 17 "significant_motion" (some .oneShot),
  row .stepDetector 18 "step_detector" (some .special),
  row .stepCounter 19 "step_counter" (some .onChange),
  row .geomagneticRotationVector 20 "geomagnetic_rotation_vector" (some .continuous),
  row .heartRate 21 "heart_rate" (some .onChange),
  row .tiltDetector 22 "tilt_detector" (some .special),
  row .wakeGesture 23 "wake_gesture" (some .oneShot),
  row .glanceGesture 24 "glance_gesture" (some .oneShot),
  row .pickUpGesture 25 "pick_up_gesture" (some .oneShot),
  row .wristTiltGesture 26 "wrist_tilt_gesture" (some .special),
  row .deviceOrientation 27 "device_orientation" (some .onChange),
  ⟨.pose6Dof, 28, "pose_6dof", "pose6_dof", some .continuous⟩,
  row .stationaryDetect 29 "stationary_detect" (some .oneShot),
  row .motionDetect 30 "motion_detect" (some .oneShot),
  row .heartBeat 31 "heart_beat" (some .continuous),
  row .dynamicSensorMeta 32 "dynamic_sensor_meta" (some .special),
  row .additionalInfo 33 "additional_info" none,
  row .lowLatencyOffbodyDetect 34 "low_latency_offbody_detect" (some .onChange),
  row .accelerometerUncalibrated 35 "accelerometer_uncalibrated" (some .continuous)]

/-- The row of a standard kind. -/
def standard? (k : SensorKind) : Option Standard := table.find? (·.kind = k)

/-- The type code. -/
def code : SensorKind → Int
  | devicePrivate c => c.toInt
  | k => match k.standard? with
    | some s => s.code
    | none => 0

/-- The first code a vendor may use for kinds of its own. -/
def privateBase : Int := 0x10000

/-- The kind with a given code. Codes between the standard ones and the private
ones mean nothing. -/
def ofCode? (code : Int) : Option SensorKind :=
  match table.find? fun s => (s.code : Int) = code with
  | some s => some s.kind
  | none => if privateBase ≤ code then some (devicePrivate (Int32.ofInt code)) else none

/-- The beginning of every canonical name, closed to private kinds. -/
def reservedLead : String := "android.sensor."

/-- The canonical name of a standard kind. -/
def canonicalName? (k : SensorKind) : Option String :=
  k.standard?.map fun s => reservedLead ++ s.name

/-- The reporting mode that every sensor of the kind has to declare. -/
def requiredMode? (k : SensorKind) : Option ReportingMode := k.standard?.bind (·.mode)

/-- Whether the kind only labels events and never a listed sensor. -/
def isMeta (k : SensorKind) : Bool := k = metaData || k = additionalInfo

/-- Whether the kind is a vendor's own. -/
def isPrivate : SensorKind → Bool
  | devicePrivate _ => true
  | _ => false

/-- The name in messages. -/
def text : SensorKind → String
  | devicePrivate c => "device_private_0x" ++ Text.hex 1 c.toUInt32.toNat
  | k => match k.standard? with
    | some s => s.name
    | none => ""

/-- The kind as data. -/
def toData : SensorKind → Data
  | devicePrivate c => .record [("device_private", .int c.toInt)]
  | k => match k.standard? with
    | some s => .text s.dataName
    | none => .null

/-- The kind read from data. -/
def decode : Decoder SensorKind
  | .record [("device_private", x)] => (Decode.int32 x).map fun c => devicePrivate (Int32.ofInt c)
  | x => Decode.variant (table.map fun s => (s.dataName, s.kind)) x

end SensorKind

end SensorBench
