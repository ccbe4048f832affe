import SensorBench.Number.Layout
import SensorBench.Sensor.Kind

/-!
# Plausible samples

A device at rest measures gravity and no rotation. A `Checker` says which
samples it believes; the same one serves queue events and memory records.
-/

set_option autoImplicit false

namespace SensorBench

/-- What is expected of a sample: anything, or a length of its first three
values within a tolerance. -/
inductive Checker where
  | anything
  | norm (expected tolerance : Float32)

namespace Checker

/-- Why a sample is not believed. -/
inductive Reason where
  | tooFewAxes (count : Nat)
  | outside (length expected tolerance : Float32)

/-- The reason in words. -/
def Reason.message : Reason → String
  | .tooFewAxes count => "expected 3 axes, got " ++ Text.decimal count ++ " values"
  | .outside length expected tolerance =>
    "norm " ++ Number.fixedSingle 4 length ++ " outside " ++ Number.fixedSingle 4 expected ++ " ± " ++
      Number.fixedSingle 4 tolerance

/-- Standard gravity in metres per second squared. -/
def gravity : Float32 := 9.80665

/-- The reason against a sample, if there is one. A length that is no number is
never within the tolerance. -/
def reason? (c : Checker) (values : List Float32) : Option Reason :=
  match c with
  | anything => none
  | norm expected tolerance =>
    match values with
    | x :: y :: z :: _ =>
      let length := (x * x + y * y + z * z).sqrt
      if (length - expected).abs ≤ tolerance then none
      else some (.outside length expected tolerance)
    | _ => some (.tooFewAxes values.length)

/-- What a checker says against a sample, if anything. -/
def objection? (c : Checker) (values : List Float32) : Option String :=
  (c.reason? values).map Reason.message

/-- The checker for a kind of sensor on a device at rest. -/
def ofKind : SensorKind → Checker
  | .accelerometer => norm gravity 1.0
  | .gyroscope => norm 0.0 0.1
  | _ => anything

end Checker

end SensorBench
