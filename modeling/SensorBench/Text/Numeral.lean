/-!
# Numerals

Digit sequences in a base, and padding to a width. All readers and printers of
the library take their digits from here.
-/

set_option autoImplicit false

namespace SensorBench.Text

/-- The decimal digits of a natural, most significant first. -/
def digits (n : Nat) : List Char := Nat.toDigits 10 n

/-- The number of decimal digits of a natural; zero has one. -/
def digitCount (n : Nat) : Nat := (digits n).length

/-- A natural in decimal. -/
def decimal (n : Nat) : String := String.ofList (digits n)

/-- An integer in decimal, a minus sign before a negative one. -/
def signedDecimal (n : Int) : String :=
  if n < 0 then "-" ++ decimal n.natAbs else decimal n.natAbs

/-- A text brought to a width with a fill character on its left. -/
def padLeft (width : Nat) (fill : Char) (s : String) : String :=
  String.ofList (List.replicate (width - s.length) fill) ++ s

/-- A text brought to a width with blanks on its right. -/
def padRight (width : Nat) (s : String) : String :=
  s ++ String.ofList (List.replicate (width - s.length) ' ')

/-- A natural in lower-case hexadecimal, with leading zeros up to a width. -/
def hex (width n : Nat) : String := padLeft width '0' (String.ofList (Nat.toDigits 16 n))

/-- A natural in upper-case hexadecimal, with leading zeros up to a width. -/
def upperHex (width n : Nat) : String :=
  padLeft width '0' (String.ofList ((Nat.toDigits 16 n).map Char.toUpper))

/-- The value of a hexadecimal digit of either case. -/
def hexValue? (c : Char) : Option Nat :=
  if '0' ≤ c ∧ c ≤ '9' then some (c.toNat - '0'.toNat)
  else if 'a' ≤ c ∧ c ≤ 'f' then some (c.toNat - 'a'.toNat + 10)
  else if 'A' ≤ c ∧ c ≤ 'F' then some (c.toNat - 'A'.toNat + 10)
  else none

/-- The value of a decimal digit. -/
def digitValue? (c : Char) : Option Nat :=
  if '0' ≤ c ∧ c ≤ '9' then some (c.toNat - '0'.toNat) else none

/-- Whether a character is one of the ten ASCII digits. -/
def isDigit (c : Char) : Bool := '0' ≤ c && c ≤ '9'

/-- The value of a digit sequence in a base; `none` if a character is no digit
of it. -/
def valueInBase? (base : Nat) (cs : List Char) : Option Nat :=
  cs.foldlM (fun acc c => do
    let d ← hexValue? c
    if d < base then some (acc * base + d) else none) 0

/-- The value of a non-empty sequence of decimal digits. -/
def decimal? (cs : List Char) : Option Nat :=
  if cs.isEmpty then none else valueInBase? 10 cs

/-- Whether one text begins another. -/
def startsWith (s lead : String) : Bool := lead.toList.isPrefixOf s.toList

/-- The texts joined with a separator between neighbours. -/
def join (separator : String) (parts : List String) : String := String.intercalate separator parts

end SensorBench.Text
