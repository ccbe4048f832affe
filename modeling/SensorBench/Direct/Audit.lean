import SensorBench.Direct.Record
import SensorBench.Number.Binary
import SensorBench.Sensor.Descriptor
import SensorBench.Suite.Violation

/-!
# Auditing a direct report

The records of one report are checked one after the other, each against the
report and against the record before it, and their number against the rate. The
first record at fault decides; the number is looked at only if none is. What is
said against a sample is up to any function of its values.
-/

set_option autoImplicit false

namespace SensorBench.Direct

/-- What one report was configured as: the sensor, its token and its rate. -/
structure Report where
  sensor : Descriptor
  token : Int
  rate : Rate

/-- The fault of a record that follows another: times have to increase and
counters to go up by one, the last one to zero. -/
def successionFault? (handle : Handle) (index : Nat) (previous record : Record) :
    Option Violation :=
  if record.time.toInt ≤ previous.time.toInt then
    some (.timeNotIncreasing handle index previous.time.toInt record.time.toInt)
  else if record.counter = previous.counter + 1 then none
  else some (.directRecord handle index ("counter " ++ Text.decimal record.counter.toNat ++
    " after " ++ Text.decimal previous.counter.toNat))

/-- The fault of one record, the record before it given. The rules go: token,
sensor type, succession, sample. -/
def recordFault? (report : Report) (objection? : List Float32 → Option String) (index : Nat)
    (previous : Option Record) (record : Record) : Option Violation :=
  let handle := report.sensor.handle
  let code := report.sensor.kind.code
  if record.token.toInt ≠ report.token then
    some (.directRecord handle index ("token " ++ Text.signedDecimal record.token.toInt ++
      " instead of " ++ Text.signedDecimal report.token))
  else if record.kindCode.toInt ≠ code then
    some (.directRecord handle index ("sensor type " ++ Text.signedDecimal record.kindCode.toInt ++
      " instead of " ++ Text.signedDecimal code))
  else match previous.bind fun p => successionFault? handle index p record with
    | some v => some v
    | none => (objection? record.values).map (.checkFailed handle record.time.toInt)

/-- The first fault among records, numbered from an index. -/
def recordsFault? (report : Report) (objection? : List Float32 → Option String) (index : Nat)
    (previous : Option Record) : List Record → Option Violation
  | [] => none
  | record :: rest =>
    match recordFault? report objection? index previous record with
    | some v => some v
    | none => recordsFault? report objection? (index + 1) (some record) rest

/-- The number of records that a report of some seconds has to exceed. -/
def lowestCount (rate : Rate) (nominalSeconds : Float) : Nat :=
  Number.floorCount (Float.ofNat rate.hertz * Rate.lowestShare * nominalSeconds)

/-- The number of records that a report of some seconds has to stay below. -/
def highestCount (rate : Rate) (totalSeconds : Float) : Nat :=
  Number.ceilingCount (Float.ofNat rate.hertz * Rate.highestShare * totalSeconds)

/-- What is wrong with the records of a report: the first record at fault, or
else their number. -/
def audit? (report : Report) (objection? : List Float32 → Option String)
    (nominalSeconds totalSeconds : Float) (records : List Record) : Option Violation :=
  match recordsFault? report objection? 0 none records with
  | some v => some v
  | none =>
    let low := lowestCount report.rate nominalSeconds
    let high := highestCount report.rate totalSeconds
    if low < records.length ∧ records.length < high then none
    else some (.directRateOutOfRange report.sensor.handle report.rate records.length low high)

end SensorBench.Direct
