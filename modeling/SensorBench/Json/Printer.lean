import SensorBench.Data.Tree
import SensorBench.Number.Layout

/-!
# Printing JSON

Data trees as JSON, on one line or indented. A number that is no finite value
is written as `null`.
-/

set_option autoImplicit false

namespace SensorBench.Json

/-- One character inside a string literal. Quotes, backslashes and control
characters are escaped, with a letter where there is one. -/
def escape (c : Char) : List Char :=
  match c with
  | '"' => ['\\', '"']
  | '\\' => ['\\', '\\']
  | '\x08' => ['\\', 'b']
  | '\x0c' => ['\\', 'f']
  | '\n' => ['\\', 'n']
  | '\r' => ['\\', 'r']
  | '\t' => ['\\', 't']
  | c => if c.toNat < 0x20 then '\\' :: 'u' :: (Text.hex 4 c.toNat).toList else [c]

/-- A string literal. -/
def quote (s : String) : String := String.ofList ('"' :: (s.toList.flatMap escape ++ ['"']))

/-- 64-bit numbers: positional for decimal exponents from -5 to 15, a fraction
always shown. -/
def doubleLayout : Number.Layout := ⟨some (-5, 15), true, true, "null", "null", "null"⟩

/-- 32-bit numbers: positional for decimal exponents from -6 to 12. -/
def singleLayout : Number.Layout := ⟨some (-6, 12), true, true, "null", "null", "null"⟩

/-- The text of a number. -/
def number : SensorBench.Number → String
  | .integer n => Text.signedDecimal n
  | .single x => singleLayout.render .single (.ofFloat32 x)
  | .double x => doubleLayout.render .double (.ofFloat x)
  | .excess => "null"

mutual

/-- A data tree on one line, without blanks. -/
def compact : Data → String
  | .null => "null"
  | .flag b => if b then "true" else "false"
  | .number n => number n
  | .text s => quote s
  | .garbled => "null"
  | .list items => "[" ++ Text.join "," (compactItems items) ++ "]"
  | .record members => "\x7b" ++ Text.join "," (compactMembers members) ++ "\x7d"

/-- The items of a list. -/
def compactItems : List Data → List String
  | [] => []
  | x :: rest => compact x :: compactItems rest

/-- The members of a record, each a key, a colon and a value. -/
def compactMembers : List (String × Data) → List String
  | [] => []
  | (key, x) :: rest => (quote key ++ ":" ++ compact x) :: compactMembers rest

end

/-- A line break and the blanks of a nesting depth, two for each level. -/
def newline (depth : Nat) : String := String.ofList ('\n' :: List.replicate (2 * depth) ' ')

mutual

/-- A data tree with one item or member on each line. -/
def prettyAt (depth : Nat) : Data → String
  | .list (x :: rest) =>
    "[" ++ newline (depth + 1) ++
      Text.join ("," ++ newline (depth + 1)) (prettyItems (depth + 1) (x :: rest)) ++
      newline depth ++ "]"
  | .record (m :: rest) =>
    "\x7b" ++ newline (depth + 1) ++
      Text.join ("," ++ newline (depth + 1)) (prettyMembers (depth + 1) (m :: rest)) ++
      newline depth ++ "\x7d"
  | .list [] => "[]"
  | .record [] => "\x7b\x7d"
  | .null => "null"
  | .flag b => if b then "true" else "false"
  | .number n => number n
  | .text s => quote s
  | .garbled => "null"

/-- The items of a list. -/
def prettyItems (depth : Nat) : List Data → List String
  | [] => []
  | x :: rest => prettyAt depth x :: prettyItems depth rest

/-- The members of a record. -/
def prettyMembers (depth : Nat) : List (String × Data) → List String
  | [] => []
  | (key, x) :: rest => (quote key ++ ": " ++ prettyAt depth x) :: prettyMembers depth rest

end

/-- A data tree with two blanks of indentation for each level. -/
def pretty (d : Data) : String := prettyAt 0 d

end SensorBench.Json
