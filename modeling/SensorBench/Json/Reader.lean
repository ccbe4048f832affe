import SensorBench.Data.Tree
import SensorBench.Number.Binary
import SensorBench.Text.Numeral

/-!
# Reading JSON

`Json.read?` reads one JSON text into a `Data` tree. The grammar is the strict
one: no leading zeros, no trailing commas, no control characters inside
strings. Integers that fit 64 bits stay integers; every other number is read as
a 64-bit significand scaled by a power of ten.
-/

set_option autoImplicit false

namespace SensorBench.Json

/-! ## Blanks and words -/

/-- The four blanks that may stand between tokens. -/
def isBlank (c : Char) : Bool := c == ' ' || c == '\n' || c == '\t' || c == '\r'

/-- The text after leading blanks. -/
def skipBlanks : List Char → List Char
  | [] => []
  | c :: rest => if isBlank c then skipBlanks rest else c :: rest

/-- The text after a given word. -/
def word? : List Char → List Char → Option (List Char)
  | [], cs => some cs
  | w :: ws, c :: cs => if w = c then word? ws cs else none
  | _ :: _, [] => none

/-! ## Strings -/

/-- A piece of a string literal: a character as it stands, or a 16-bit unit
written as an escape. -/
inductive Piece where
  | char (c : Char)
  | unit (n : Nat)

/-- The character that a one-letter escape stands for. -/
def escaped? : Char → Option Char
  | '"' => some '"'
  | '\\' => some '\\'
  | '/' => some '/'
  | 'b' => some '\x08'
  | 'f' => some '\x0c'
  | 'n' => some '\n'
  | 'r' => some '\r'
  | 't' => some '\t'
  | _ => none

/-- The unit that four hexadecimal digits name. -/
def unit? (a b c d : Char) : Option Nat := Text.valueInBase? 16 [a, b, c, d]

/-- The pieces of a literal whose opening quote is read, and the text after its
closing quote. -/
def pieces? : List Char → Option (List Piece × List Char)
  | [] => none
  | '"' :: rest => some ([], rest)
  | '\\' :: 'u' :: a :: b :: c :: d :: rest => do
    let n ← unit? a b c d
    let (ps, rest) ← pieces? rest
    some (.unit n :: ps, rest)
  | '\\' :: c :: rest => do
    let e ← escaped? c
    let (ps, rest) ← pieces? rest
    some (.char e :: ps, rest)
  | c :: rest =>
    if c.toNat < 0x20 then none
    else do
      let (ps, rest) ← pieces? rest
      some (.char c :: ps, rest)

/-- Whether a unit opens a surrogate pair. -/
def isHighSurrogate (n : Nat) : Bool := 0xd800 ≤ n && n ≤ 0xdbff

/-- Whether a unit closes a surrogate pair. -/
def isLowSurrogate (n : Nat) : Bool := 0xdc00 ≤ n && n ≤ 0xdfff

/-- The characters of a literal; `none` if half a surrogate pair stands alone. -/
def assemble? : List Piece → Option (List Char)
  | [] => some []
  | .char c :: rest => (assemble? rest).map (c :: ·)
  | .unit n :: rest =>
    if isHighSurrogate n then
      match rest with
      | .unit m :: rest =>
        if isLowSurrogate m then
          (assemble? rest).map (Char.ofNat (0x10000 + (n - 0xd800) * 0x400 + (m - 0xdc00)) :: ·)
        else none
      | _ => none
    else if isLowSurrogate n then none
    else (assemble? rest).map (Char.ofNat n :: ·)

/-- The data that a string literal stands for. -/
def textOf (ps : List Piece) : Data :=
  match assemble? ps with
  | some cs => .text (String.ofList cs)
  | none => .garbled

/-! ## Numbers -/

/-- The leading digits of a text and the rest. -/
def spanDigits (cs : List Char) : List Char × List Char := cs.span Text.isDigit

/-- The digits accepted into a 64-bit significand, and how many were left out
once one did not fit. -/
def significand (start : Nat) : List Char → Nat × Nat
  | [] => (start, 0)
  | c :: rest =>
    let next := start * 10 + (c.toNat - '0'.toNat)
    if next < Nat.pow 2 64 then significand next rest else (start, rest.length + 1)

/-- A significand scaled by a power of ten, in steps that stay within the range
of the format; `none` if the result is infinite. -/
def scaleTen (x : Float) (exponent : Int) : Nat → Option Float
  | 0 => some x
  | fuel + 1 =>
    if 0 ≤ exponent then
      if exponent ≤ 308 then
        let y := x * Float.ofScientific 1 false exponent.toNat
        if y.isInf then none else some y
      else if x == 0 then some x else none
    else if -308 ≤ exponent then some (x / Float.ofScientific 1 false (-exponent).toNat)
    else if x == 0 then some x
    else scaleTen (x / Float.ofScientific 1 false 308) (exponent + 308) fuel

/-- The number with given digits before and after the point and a given
exponent. The sign is applied last, so `-0.0` keeps it. -/
def fractionOf (negative : Bool) (whole fraction : List Char) (exponent : Int) : Number :=
  let (start, dropped) := significand 0 whole
  let (sig, unused) := significand start fraction
  let power : Int := exponent + dropped - (fraction.length - unused : Nat)
  match scaleTen sig.toUInt64.toFloat power 4 with
  | some x => .double (if negative then -x else x)
  | none => .excess

/-- The number without a fraction or exponent. A minus sign before zero gives
the number `-0.0`, which is no integer. -/
def integerOf (negative : Bool) (whole : List Char) : Number :=
  let n := (Text.valueInBase? 10 whole).getD 0
  if negative then
    if 0 < n ∧ n ≤ Nat.pow 2 63 then .integer (-n) else fractionOf negative whole [] 0
  else if n < Nat.pow 2 64 then .integer n
  else fractionOf negative whole [] 0

/-- An exponent after its letter. -/
def exponent? (cs : List Char) : Option (Int × List Char) :=
  let (negative, cs) := match cs with
    | '+' :: rest => (false, rest)
    | '-' :: rest => (true, rest)
    | _ => (false, cs)
  match spanDigits cs with
  | ([], _) => none
  | (ds, rest) =>
    let n : Int := (Text.valueInBase? 10 ds).getD 0
    some (if negative then -n else n, rest)

/-- The fraction and exponent parts that may follow the whole part of a number;
`none` if a point or exponent letter has no digits. -/
def tail? (cs : List Char) : Option (Option (List Char × Int) × List Char) := do
  let (fraction, cs) ← match cs with
    | '.' :: rest => match spanDigits rest with
      | ([], _) => none
      | (ds, rest) => some (some ds, rest)
    | _ => some (none, cs)
  let (exponent, cs) ← match cs with
    | c :: rest =>
      if c = 'e' ∨ c = 'E' then (exponent? rest).map fun (e, rest) => (some e, rest)
      else some (none, cs)
    | [] => some (none, cs)
  if fraction.isNone && exponent.isNone then some (none, cs)
  else some (some (fraction.getD [], exponent.getD 0), cs)

/-- A number and the text after it. -/
def number? (cs : List Char) : Option (Number × List Char) := do
  let (negative, cs) := match cs with
    | '-' :: rest => (true, rest)
    | _ => (false, cs)
  let (whole, cs) := spanDigits cs
  if whole.isEmpty || (1 < whole.length && whole.head? == some '0') then none
  else
    let (tail, cs) ← tail? cs
    match tail with
    | none => some (integerOf negative whole, cs)
    | some (fraction, exponent) => some (fractionOf negative whole fraction exponent, cs)

/-! ## Values -/

mutual

/-- A value and the text after it. The fuel bounds the nesting depth and the
number of members, both of which are below the length of the text. -/
def value? : Nat → List Char → Option (Data × List Char)
  | 0, _ => none
  | fuel + 1, cs =>
    match skipBlanks cs with
    | [] => none
    | '{' :: rest => match skipBlanks rest with
      | '}' :: rest => some (.record [], rest)
      | rest => (members? fuel rest).map fun (ms, rest) => (.record ms, rest)
    | '[' :: rest => match skipBlanks rest with
      | ']' :: rest => some (.list [], rest)
      | rest => (items? fuel rest).map fun (xs, rest) => (.list xs, rest)
    | '"' :: rest => (pieces? rest).map fun (ps, rest) => (textOf ps, rest)
    | 'n' :: rest => (word? ['u', 'l', 'l'] rest).map fun rest => (.null, rest)
    | 't' :: rest => (word? ['r', 'u', 'e'] rest).map fun rest => (.flag true, rest)
    | 'f' :: rest => (word? ['a', 'l', 's', 'e'] rest).map fun rest => (.flag false, rest)
    | cs => (number? cs).map fun (n, rest) => (.number n, rest)

/-- The items of a list that has at least one, up to its closing bracket. -/
def items? : Nat → List Char → Option (List Data × List Char)
  | 0, _ => none
  | fuel + 1, cs => do
    let (x, rest) ← value? fuel cs
    match skipBlanks rest with
    | ']' :: rest => some ([x], rest)
    | ',' :: rest =>
      let (xs, rest) ← items? fuel rest
      some (x :: xs, rest)
    | _ => none

/-- The members of a record that has at least one, up to its closing brace. A
key has to have characters. -/
def members? : Nat → List Char → Option (List (String × Data) × List Char)
  | 0, _ => none
  | fuel + 1, cs =>
    match skipBlanks cs with
    | '"' :: rest => do
      let (ps, rest) ← pieces? rest
      let key ← assemble? ps
      match skipBlanks rest with
      | ':' :: rest =>
        let (x, rest) ← value? fuel rest
        match skipBlanks rest with
        | '}' :: rest => some ([(String.ofList key, x)], rest)
        | ',' :: rest =>
          let (ms, rest) ← members? fuel rest
          some ((String.ofList key, x) :: ms, rest)
        | _ => none
      | _ => none
    | _ => none

end

/-- One JSON text, blanks around it allowed and nothing else. -/
def read? (s : String) : Option Data := do
  let cs := s.toList
  let (x, rest) ← value? (cs.length + 1) cs
  if (skipBlanks rest).isEmpty then some x else none

end SensorBench.Json
