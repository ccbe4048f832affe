import SensorBench.Data.Decode
import SensorBench.Sensor.Handle
import SensorBench.Text.Numeral

/-!
# Fields of scripts

A script tells a bench in data what to build and what to do. Its fields are read
by name, and a field that cannot be read is named in the fault, so that whoever
wrote the script finds it.
-/

set_option autoImplicit false

namespace SensorBench

/-- What is wrong with a script: a field that is missing or of another shape,
data that stands for no value of its type, or data that ends the program. -/
inductive ScriptFault where
  | field (name : String)
  | undecodable
  | panic (text : String)
  deriving DecidableEq, Repr

/-- A reading of a script. -/
abbrev Reading (α : Type) := Except ScriptFault α

namespace Script

variable {α : Type}

/-- The data of a field. -/
def need (x : Data) (field : String) : Reading Data :=
  match x.get? field with
  | some d => .ok d
  | none => .error (.field field)

/-- A field of a plain shape. -/
def plain (d : Decoder α) (x : Data) (field : String) : Reading α := do
  match d (← need x field) with
  | some a => .ok a
  | none => .error (.field field)

/-- A field of a plain shape that may be absent or `null`. -/
def plain? (d : Decoder α) (x : Data) (field : String) : Reading (Option α) :=
  match x.get? field with
  | none | some .null => .ok none
  | some v => match d v with
    | some a => .ok (some a)
    | none => .error (.field field)

/-- Data that has to stand for a value. -/
def decoded (d : Decoder α) (x : Data) : Reading α :=
  match d x with
  | some a => .ok a
  | none => .error .undecodable

/-- A field that has to stand for a value. -/
def value (d : Decoder α) (x : Data) (field : String) : Reading α := do
  decoded d (← need x field)

/-- A field that may be absent or `null` and else has to stand for a value. -/
def value? (d : Decoder α) (x : Data) (field : String) : Reading (Option α) :=
  match x.get? field with
  | none | some .null => .ok none
  | some v => (decoded d v).map some

/-- A field with a list, each item read alike; nothing for an absent one. -/
def items (read : Data → Reading α) (x : Data) (field : String) : Reading (List α) :=
  match x.get? field with
  | none | some .null => .ok []
  | some (.list l) => l.mapM read
  | some _ => .error (.field field)

/-! ## Plain shapes -/

/-- An integer of 64 bits with its sign. -/
def integer : Decoder Int := Decode.int64

/-- Any count. -/
def count : Decoder Nat
  | .number (.integer n) => if 0 ≤ n then some n.toNat else none
  | _ => none

/-- A handle; integers beyond its width wrap around. -/
def handle : Decoder Handle := fun x => (integer x).map Handle.ofInt

/-- A 64-bit number, which may be infinite or no number. -/
def double : Decoder Float
  | .text "inf" => some (1.0 / 0.0)
  | .text "-inf" => some (-1.0 / 0.0)
  | .text "nan" => some (0.0 / 0.0)
  | x => Decode.double x

/-- A 32-bit number, which may be infinite or no number. -/
def single : Decoder Float32 := fun x => (double x).map Number.singleOfDouble

/-- The bytes that pairs of hexadecimal digits stand for. -/
def bytesOfDigits : List Char → Option (List UInt8)
  | [] => some []
  | a :: b :: rest => do
    let n ← Text.valueInBase? 16 [a, b]
    (bytesOfDigits rest).map (n.toUInt8 :: ·)
  | [_] => none

/-- Bytes in hexadecimal digits. -/
def bytes : Decoder (List UInt8)
  | .text s => bytesOfDigits s.toList
  | _ => none

end Script

end SensorBench
