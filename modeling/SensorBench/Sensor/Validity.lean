import SensorBench.Number.Layout
import SensorBench.Sensor.Descriptor
import SensorBench.Text.Quoted

/-!
# Well-formed descriptors

What a listed sensor has to satisfy, one `Fault` for each rule. `fault?` gives
the first rule that a descriptor breaks, in the fixed order of the rules; a
descriptor without a fault is well-formed.
-/

set_option autoImplicit false

namespace SensorBench.Descriptor

/-- A rule of the sensor list that a descriptor breaks. -/
inductive Fault where
  | kindNameEmpty
  | kindNameOther (found expected : String)
  | kindNameReserved (found : String)
  | nameEmpty
  | vendorEmpty
  | powerNegative (power : Float32)
  | rangeNotPositive (range : Float32)
  | metaKind (kind : SensorKind)
  | fifoOrder (fifoMax fifoReserved : UInt32)
  | modeOther (found expected : ReportingMode)
  | delayOrder (minDelay maxDelay : Int32)
  | delaysUnfit (minDelay maxDelay : Int32) (mode : ReportingMode)

namespace Fault

/-- The descriptor field at fault. -/
def field : Fault → String
  | kindNameEmpty | kindNameOther .. | kindNameReserved .. => "type_as_string"
  | nameEmpty => "name"
  | vendorEmpty => "vendor"
  | powerNegative .. => "power"
  | rangeNotPositive .. => "max_range"
  | metaKind .. => "sensor_type"
  | fifoOrder .. => "fifo_max_event_count"
  | modeOther .. => "flags"
  | delayOrder .. | delaysUnfit .. => "min_delay_us"

/-- What is wrong with the field. -/
def message : Fault → String
  | kindNameEmpty | nameEmpty | vendorEmpty => "is empty"
  | kindNameOther found expected =>
    "is " ++ Text.quoted found ++ ", expected " ++ Text.quoted expected
  | kindNameReserved found => Text.quoted found ++ " uses the reserved prefix for a private type"
  | powerNegative p => "is negative (" ++ Number.plainSingle p ++ ")"
  | rangeNotPositive r => "must be positive (" ++ Number.plainSingle r ++ ")"
  | metaKind k => k.text ++ " never appears in a sensor list"
  | fifoOrder high reserved =>
    Text.decimal high.toNat ++ " is below fifo_reserved_event_count " ++ Text.decimal reserved.toNat
  | modeOther found expected => "reporting mode " ++ found.title ++ ", expected " ++ expected.title
  | delayOrder low high =>
    Text.signedDecimal low.toInt ++ " exceeds max_delay_us " ++ Text.signedDecimal high.toInt
  | delaysUnfit low high mode =>
    "delays (" ++ Text.signedDecimal low.toInt ++ ", " ++ Text.signedDecimal high.toInt ++
      ") do not match reporting mode " ++ mode.title

end Fault

/-- The fault of a kind name: standard kinds carry their canonical name, private
ones any name without the reserved beginning. -/
def kindNameFault? (d : Descriptor) : Option Fault :=
  if d.kindName = "" then some .kindNameEmpty
  else match d.kind.canonicalName? with
    | some expected =>
      if d.kindName = expected then none else some (.kindNameOther d.kindName expected)
    | none =>
      if Text.startsWith d.kindName SensorKind.reservedLead then
        some (.kindNameReserved d.kindName)
      else none

/-- The fault of the reporting mode against the one the kind requires. -/
def modeFault? (d : Descriptor) : Option Fault :=
  match d.kind.requiredMode? with
  | some expected => if d.mode = expected then none else some (.modeOther d.mode expected)
  | none => none

/-- Whether the delays are admissible for a reporting mode. -/
def delaysFit (mode : ReportingMode) (minDelay maxDelay : Int32) : Bool :=
  match mode with
  | .continuous => 0 < minDelay.toInt && 0 ≤ maxDelay.toInt
  | .onChange => 0 ≤ minDelay.toInt && 0 ≤ maxDelay.toInt
  | .oneShot => minDelay.toInt == -1 && maxDelay.toInt == 0
  | .special => true

/-- The first rule that a descriptor breaks. -/
def fault? (d : Descriptor) : Option Fault :=
  match d.kindNameFault? with
  | some f => some f
  | none =>
    if d.name = "" then some .nameEmpty
    else if d.vendor = "" then some .vendorEmpty
    else if d.power < 0 then some (.powerNegative d.power)
    else if d.maxRange ≤ 0 then some (.rangeNotPositive d.maxRange)
    else if d.kind.isMeta then some (.metaKind d.kind)
    else if d.fifoMax < d.fifoReserved then some (.fifoOrder d.fifoMax d.fifoReserved)
    else match d.modeFault? with
      | some f => some f
      | none =>
        if d.maxDelay.toInt < d.minDelay.toInt then some (.delayOrder d.minDelay d.maxDelay)
        else if delaysFit d.mode d.minDelay d.maxDelay then none
        else some (.delaysUnfit d.minDelay d.maxDelay d.mode)

end SensorBench.Descriptor
