/-!
# Plain data

The tree that both text formats of the library read into and print from.
Members of a record keep their order in the text, repeated keys included, so
that a reader of records can refuse a repetition.
-/

set_option autoImplicit false

namespace SensorBench

/-- A number in a data text. Integers and fractions stay apart, because a field
that counts something takes no `1.0`; `excess` is a numeral beyond every value
of its kind, legal only where nobody looks at it. -/
inductive Number where
  | integer (n : Int)
  | single (x : Float32)
  | double (x : Float)
  | excess
  deriving Inhabited

/-- A tree of plain data. A `garbled` text is written like a text but names half
of a surrogate pair, so it has no characters. -/
inductive Data where
  | null
  | flag (b : Bool)
  | number (n : Number)
  | text (s : String)
  | garbled
  | list (items : List Data)
  | record (members : List (String × Data))
  deriving Inhabited

namespace Data

/-- An integer as data. -/
def int (n : Int) : Data := .number (.integer n)

/-- A count as data. -/
def nat (n : Nat) : Data := .number (.integer n)

/-- A 64-bit number as data. -/
def double (x : Float) : Data := .number (.double x)

/-- A 32-bit number as data. -/
def single (x : Float32) : Data := .number (.single x)

/-- The value under a key of a record, the last one if the key is repeated. -/
def get? (d : Data) (key : String) : Option Data :=
  match d with
  | .record members => (members.reverse.find? (·.1 == key)).map (·.2)
  | _ => none

/-- An optional value, `null` for none. -/
def ofOption {α : Type} (f : α → Data) : Option α → Data
  | some a => f a
  | none => .null

end Data

end SensorBench
