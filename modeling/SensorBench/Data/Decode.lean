import SensorBench.Data.Tree
import SensorBench.Number.Binary

/-!
# Reading records out of data

A `Decoder` takes a data tree to a value or refuses it. Records are read by
field name; a field may be absent only where it has a default, may not be
repeated, and what is not a field is passed over. The same fields may be given
as a list in their declared order, the fields at its end absent.
-/

set_option autoImplicit false

namespace SensorBench

/-- A reader of data trees; `none` refuses. -/
abbrev Decoder (α : Type) := Data → Option α

namespace Decode

/-- An integer within bounds. -/
def intIn (low high : Int) : Decoder Int
  | .number (.integer n) => if low ≤ n ∧ n ≤ high then some n else none
  | _ => none

/-- An unsigned integer of a bit width. -/
def unsigned (bits : Nat) : Decoder Nat
  | .number (.integer n) => if 0 ≤ n ∧ n < Nat.pow 2 bits then some n.toNat else none
  | _ => none

/-- A signed 32-bit integer. -/
def int32 : Decoder Int := intIn (-0x80000000) 0x7fffffff

/-- A signed 64-bit integer. -/
def int64 : Decoder Int := intIn (-0x8000000000000000) 0x7fffffffffffffff

/-- A truth value. -/
def bool : Decoder Bool
  | .flag b => some b
  | _ => none

/-- A text that has characters. -/
def text : Decoder String
  | .text s => some s
  | _ => none

/-- A 32-bit number; integers are welcome and everything is rounded to
nearest. -/
def single : Decoder Float32
  | .number (.integer n) => some (Number.singleOfInt n)
  | .number (.double x) => some (Number.singleOfDouble x)
  | .number (.single x) => some x
  | _ => none

/-- A 64-bit number; integers are welcome. -/
def double : Decoder Float
  | .number (.integer n) => some (Number.doubleOfInt n)
  | .number (.double x) => some x
  | _ => none

/-- A value or `null`. -/
def nullable {α : Type} (d : Decoder α) : Decoder (Option α)
  | .null => some none
  | x => (d x).map some

/-- A list, each item read alike. -/
def list {α : Type} (d : Decoder α) : Decoder (List α)
  | .list items => items.mapM d
  | _ => none

/-- One of a set of named variants, written as its name or as a record whose
one key is the name and whose value is `null`. -/
def variant {α : Type} (names : List (String × α)) : Decoder α
  | .text s => names.lookup s
  | .record [(s, .null)] => names.lookup s
  | _ => none

/-- The data found for each declared field of a record. -/
abbrev Slots := String → Option Data

/-- The declared fields of a record. A record with a repeated field is refused,
and so is a list with more items than fields unless `surplus` allows it. -/
def slots (names : List String) (surplus : Bool) : Decoder Slots
  | .record members =>
    if names.any fun n => 1 < (members.filter (·.1 == n)).length then none
    else some fun n => members.lookup n
  | .list items =>
    if names.length < items.length && !surplus then none
    else some fun n => (names.zip items).lookup n
  | _ => none

/-- A field that has to be there. -/
def required {α : Type} (s : Slots) (name : String) (d : Decoder α) : Option α := (s name).bind d

/-- A field that may be absent. -/
def optional {α : Type} (s : Slots) (name : String) (default : α) (d : Decoder α) : Option α :=
  match s name with
  | some x => d x
  | none => some default

end Decode

end SensorBench
