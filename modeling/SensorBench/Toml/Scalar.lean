import SensorBench.Data.Tree
import SensorBench.Text.Numeral

/-!
# TOML scalars without quotes

Truth values, integers, fractions, dates and times. A scalar is decided on the
whole run of characters up to the next separator.
-/

set_option autoImplicit false

namespace SensorBench.Toml

/-! ## Digit groups -/

/-- The characters of a digit sequence without the underscores between its
digits; `none` if an underscore stands elsewhere or a character is no digit of
the base. -/
def ungroup? (base : Nat) : List Char → Option (List Char)
  | [] => none
  | [c] => if (Text.hexValue? c).any (· < base) then some [c] else none
  | c :: '_' :: rest =>
    if (Text.hexValue? c).any (· < base) then (ungroup? base rest).map (c :: ·) else none
  | c :: rest =>
    if (Text.hexValue? c).any (· < base) then (ungroup? base rest).map (c :: ·) else none

/-- The value of a digit sequence in a base, underscores allowed. -/
def grouped? (base : Nat) (cs : List Char) : Option Nat :=
  (ungroup? base cs).bind (Text.valueInBase? base)

/-- A sign and what follows it. -/
def sign : List Char → Bool × List Char
  | '-' :: rest => (true, rest)
  | '+' :: rest => (false, rest)
  | cs => (false, cs)

/-- The digits of a decimal whole part; it has no leading zeros. -/
def wholePart? (cs : List Char) : Option (List Char) :=
  match cs with
  | '0' :: _ :: _ => none
  | cs => ungroup? 10 cs

/-! ## Numbers -/

/-- The number of a magnitude. Magnitudes beyond 128 bits are refused, a bit less
being left to negative ones. -/
def integerOf? (negative : Bool) (n : Nat) : Option Number :=
  if negative then if n ≤ Nat.pow 2 127 then some (.integer (-(n : Int))) else none
  else if n < Nat.pow 2 128 then some (.integer n) else none

/-- An integer in decimal, or without sign in one of the bases 16, 8 and 2. -/
def integer? (cs : List Char) : Option Number :=
  match cs with
  | '0' :: 'x' :: ds => (grouped? 16 ds).bind (integerOf? false)
  | '0' :: 'o' :: ds => (grouped? 8 ds).bind (integerOf? false)
  | '0' :: 'b' :: ds => (grouped? 2 ds).bind (integerOf? false)
  | cs =>
    let (negative, ds) := sign cs
    (wholePart? ds).bind fun ds => (Text.valueInBase? 10 ds).bind (integerOf? negative)

/-- The 64-bit number nearest to a natural scaled by a power of ten; `none` if
it is infinite. Powers that leave no doubt are not computed. -/
def scaled? (digits : Nat) (power : Int) : Option Float :=
  if digits = 0 then some 0
  else
    let lead := power + Text.digitCount digits
    if 400 < lead then none
    else if lead < -400 then some 0
    else
      let x := if power < 0 then Float.ofScientific digits true power.natAbs
        else Float.ofScientific digits false power.natAbs
      if x.isInf then none else some x

/-- The exponent after its letter; leading zeros are allowed. -/
def exponent? (cs : List Char) : Option Int :=
  let (negative, ds) := sign cs
  (grouped? 10 ds).map fun n => if negative then -(n : Int) else n

/-- Whether a character opens an exponent. -/
def isExponentLetter (c : Char) : Bool := c == 'e' || c == 'E'

/-- A number with a fraction or an exponent, or one of the words for values that
are no finite number. -/
def fraction? (cs : List Char) : Option Number :=
  let (negative, ds) := sign cs
  let signed (x : Float) : Number := .double (if negative then -x else x)
  match ds with
  | ['i', 'n', 'f'] => some (signed (1.0 / 0.0))
  | ['n', 'a', 'n'] => some (signed (0.0 / 0.0))
  | ds => do
    let (mantissa, tail) := ds.span fun c => !isExponentLetter c
    let power ← match tail with
      | [] => some 0
      | _ :: rest => exponent? rest
    let (whole, places) := mantissa.span (· != '.')
    let whole ← wholePart? whole
    let places ← match places with
      | [] => if tail.isEmpty then none else some []
      | _ :: rest => ungroup? 10 rest
    let n ← Text.valueInBase? 10 (whole ++ places)
    (scaled? n (power - places.length)).map signed

/-! ## Dates and times -/

/-- A number of exactly some digits at the start of a text, within bounds, and
the text after it. -/
def field? (width low high : Nat) (cs : List Char) : Option (Nat × List Char) := do
  let ds := cs.take width
  if ds.length = width ∧ ds.all Text.isDigit then
    let n ← Text.valueInBase? 10 ds
    if low ≤ n ∧ n ≤ high then some (n, cs.drop width) else none
  else none

/-- Whether a year of the Gregorian calendar has a day more. -/
def isLeap (year : Nat) : Bool := year % 4 == 0 && (year % 100 != 0 || year % 400 == 0)

/-- The days of a month. -/
def daysIn (year month : Nat) : Nat :=
  if month = 2 then if isLeap year then 29 else 28
  else if month = 4 ∨ month = 6 ∨ month = 9 ∨ month = 11 then 30
  else 31

/-- The text after a given character. -/
def after? (c : Char) : List Char → Option (List Char)
  | d :: rest => if c = d then some rest else none
  | [] => none

/-- The text after a date. -/
def date? (cs : List Char) : Option (List Char) := do
  let (year, cs) ← field? 4 0 9999 cs
  let cs ← after? '-' cs
  let (month, cs) ← field? 2 1 12 cs
  let cs ← after? '-' cs
  let (_, cs) ← field? 2 1 (daysIn year month) cs
  some cs

/-- The text after the seconds of a time and their fraction. -/
def seconds? (cs : List Char) : Option (List Char) := do
  let (_, cs) ← field? 2 0 60 cs
  match cs with
  | '.' :: rest =>
    let (ds, rest) := rest.span Text.isDigit
    if ds.isEmpty then none else some rest
  | cs => some cs

/-- The text after a time of day; seconds may be left out. -/
def time? (cs : List Char) : Option (List Char) := do
  let (_, cs) ← field? 2 0 23 cs
  let cs ← after? ':' cs
  let (_, cs) ← field? 2 0 59 cs
  match cs with
  | ':' :: rest => seconds? rest
  | cs => some cs

/-- Whether a text is empty or a distance from universal time. -/
def isOffset (cs : List Char) : Bool :=
  match cs with
  | [] | ['Z'] | ['z'] => true
  | c :: rest =>
    (c == '+' || c == '-') && (do
      let (_, rest) ← field? 2 0 23 rest
      let rest ← after? ':' rest
      let (_, rest) ← field? 2 0 59 rest
      if rest.isEmpty then some () else none).isSome

/-- Whether a text is a date, a time, or both with an optional distance from
universal time. -/
def isMoment (cs : List Char) : Bool :=
  match date? cs with
  | some [] => true
  | some (c :: rest) =>
    (c == 'T' || c == 't' || c == ' ') && ((time? rest).any isOffset)
  | none => match time? cs with
    | some [] => true
    | _ => false

/-! ## Scalars -/

/-- A moment as data: a record under a key of its own, so that no field of a
settings record takes its name. -/
def momentData (cs : List Char) : Data :=
  .record [("$__toml_private_datetime", .text (String.ofList cs))]

/-- The value of a scalar without quotes. -/
def scalar? (cs : List Char) : Option Data :=
  match cs with
  | ['t', 'r', 'u', 'e'] => some (.flag true)
  | ['f', 'a', 'l', 's', 'e'] => some (.flag false)
  | cs => match integer? cs with
    | some n => some (.number n)
    | none => match fraction? cs with
      | some n => some (.number n)
      | none => if isMoment cs then some (momentData cs) else none

/-- Whether a character ends a scalar without quotes. -/
def endsScalar (c : Char) : Bool :=
  [' ', '\t', '\n', '\r', '#', ',', '=', '[', ']', '\x7b', '\x7d', '"', '\''].contains c

/-- The characters of the scalar at the start of a text and the text after it. A
time may follow a date after one blank. -/
def scalarSpan (cs : List Char) : List Char × List Char :=
  let (run, rest) := cs.span fun c => !endsScalar c
  match rest with
  | ' ' :: more =>
    if date? run = some [] ∧ more.head?.any Text.isDigit then
      let (time, rest) := more.span fun c => !endsScalar c
      (run ++ ' ' :: time, rest)
    else (run, rest)
  | rest => (run, rest)

end SensorBench.Toml
