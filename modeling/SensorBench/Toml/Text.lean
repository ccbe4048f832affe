import SensorBench.Text.Numeral

/-!
# TOML texts

The blanks, line ends and comments between the parts of a TOML document, and
its four kinds of string. A basic string has escapes, a literal one has none,
and each may run over several lines when its delimiter is written three times.
-/

set_option autoImplicit false

namespace SensorBench.Toml

/-! ## Layout -/

/-- Whether a character may stand in comments and strings: a tab or anything
that is no control character. -/
def isPlain (c : Char) : Bool := c == '\t' || (0x20 ≤ c.toNat && c.toNat != 0x7f)

/-- The text after blanks within a line. -/
def skipBlanks : List Char → List Char
  | [] => []
  | c :: rest => if c = ' ' ∨ c = '\t' then skipBlanks rest else c :: rest

/-- The text after a line end: a line feed, alone or after a carriage return. -/
def lineEnd? : List Char → Option (List Char)
  | '\n' :: rest => some rest
  | '\r' :: '\n' :: rest => some rest
  | _ => none

/-- The text from the end of a comment's line on; `none` if the comment has a
control character. -/
def skipComment? : List Char → Option (List Char)
  | [] => some []
  | c :: rest =>
    if (lineEnd? (c :: rest)).isSome then some (c :: rest)
    else if isPlain c then skipComment? rest
    else none

/-- The text after blanks, line ends and comments. The fuel bounds their
number. -/
def skipLayout? : Nat → List Char → Option (List Char)
  | 0, _ => none
  | fuel + 1, cs =>
    match skipBlanks cs with
    | '#' :: rest => (skipComment? rest).bind (skipLayout? fuel)
    | rest => match lineEnd? rest with
      | some rest => skipLayout? fuel rest
      | none => some rest

/-- The text after what may follow on a finished line: blanks, a comment, and
the line end or the end of the document. -/
def finishLine? (cs : List Char) : Option (List Char) := do
  let rest ← match skipBlanks cs with
    | '#' :: rest => skipComment? rest
    | rest => some rest
  match rest with
  | [] => some []
  | rest => lineEnd? rest

/-! ## Strings -/

/-- The character with a code point given by some hexadecimal digits. -/
def escapedPoint? (ds : List Char) : Option Char := do
  let n ← Text.valueInBase? 16 ds
  if h : n.isValidChar then some (Char.ofNatAux n h) else none

/-- An escape, its backslash read: the character it stands for and the text
after it. -/
def escape? : List Char → Option (Char × List Char)
  | 'b' :: rest => some ('\x08', rest)
  | 't' :: rest => some ('\t', rest)
  | 'n' :: rest => some ('\n', rest)
  | 'f' :: rest => some ('\x0c', rest)
  | 'r' :: rest => some ('\r', rest)
  | 'e' :: rest => some ('\x1b', rest)
  | '"' :: rest => some ('"', rest)
  | '\\' :: rest => some ('\\', rest)
  | 'x' :: a :: b :: rest => (escapedPoint? [a, b]).map fun c => (c, rest)
  | 'u' :: a :: b :: c :: d :: rest => (escapedPoint? [a, b, c, d]).map fun c => (c, rest)
  | 'U' :: a :: b :: c :: d :: e :: f :: g :: h :: rest =>
    (escapedPoint? [a, b, c, d, e, f, g, h]).map fun c => (c, rest)
  | _ => none

/-- The rest of a basic string whose opening quote is read. -/
def basic? : Nat → List Char → Option (List Char × List Char)
  | 0, _ => none
  | _ + 1, [] => none
  | _ + 1, '"' :: rest => some ([], rest)
  | fuel + 1, '\\' :: rest => do
    let (c, rest) ← escape? rest
    let (s, rest) ← basic? fuel rest
    some (c :: s, rest)
  | fuel + 1, c :: rest =>
    if isPlain c then (basic? fuel rest).map fun (s, rest) => (c :: s, rest) else none

/-- The rest of a literal string whose opening quote is read. -/
def literal? : List Char → Option (List Char × List Char)
  | [] => none
  | '\'' :: rest => some ([], rest)
  | c :: rest => if isPlain c then (literal? rest).map fun (s, rest) => (c :: s, rest) else none

/-- What follows a quote inside a string of several lines. A run of three to
five quotes closes the string, all but three of them being its last characters;
`none` if the run is shorter. -/
def closing? (quote : Char) (cs : List Char) : Option (List Char × List Char) :=
  let run := (cs.takeWhile (· == quote)).length
  if 3 ≤ run then
    let inside := min (run - 3) 2
    some (List.replicate inside quote, cs.drop (inside + 3))
  else none

/-- The text after a line end directly behind an opening delimiter; such a line
end is no part of the string. -/
def skipFirstLineEnd (cs : List Char) : List Char := (lineEnd? cs).getD cs

/-- The text after blanks and line ends. -/
def skipBlankLines : List Char → List Char
  | [] => []
  | '\r' :: '\n' :: rest => skipBlankLines rest
  | c :: rest => if c = ' ' ∨ c = '\t' ∨ c = '\n' then skipBlankLines rest else c :: rest

/-- A line end at the start of a text and the text after it. -/
def leadingLineEnd? : List Char → Option (List Char × List Char)
  | '\n' :: rest => some (['\n'], rest)
  | '\r' :: '\n' :: rest => some (['\r', '\n'], rest)
  | _ => none

/-- The rest of a basic string of several lines. A backslash at the end of a
line takes the line end and all blanks after it away. -/
def longBasic? : Nat → List Char → Option (List Char × List Char)
  | 0, _ => none
  | _ + 1, [] => none
  | fuel + 1, '"' :: rest =>
    match closing? '"' ('"' :: rest) with
    | some found => some found
    | none => (longBasic? fuel rest).map fun (s, rest) => ('"' :: s, rest)
  | fuel + 1, '\\' :: rest =>
    if (lineEnd? (skipBlanks rest)).isSome then longBasic? fuel (skipBlankLines rest)
    else do
      let (c, rest) ← escape? rest
      let (s, rest) ← longBasic? fuel rest
      some (c :: s, rest)
  | fuel + 1, c :: rest =>
    match leadingLineEnd? (c :: rest) with
    | some (e, rest) => (longBasic? fuel rest).map fun (s, rest) => (e ++ s, rest)
    | none =>
      if isPlain c then (longBasic? fuel rest).map fun (s, rest) => (c :: s, rest) else none

/-- The rest of a literal string of several lines. -/
def longLiteral? : Nat → List Char → Option (List Char × List Char)
  | 0, _ => none
  | _ + 1, [] => none
  | fuel + 1, '\'' :: rest =>
    match closing? '\'' ('\'' :: rest) with
    | some found => some found
    | none => (longLiteral? fuel rest).map fun (s, rest) => ('\'' :: s, rest)
  | fuel + 1, c :: rest =>
    match leadingLineEnd? (c :: rest) with
    | some (e, rest) => (longLiteral? fuel rest).map fun (s, rest) => (e ++ s, rest)
    | none =>
      if isPlain c then (longLiteral? fuel rest).map fun (s, rest) => (c :: s, rest) else none

/-- A string of one line and the text after it; keys are written so. -/
def shortString? (cs : List Char) : Option (List Char × List Char) :=
  match cs with
  | '"' :: rest => basic? (rest.length + 1) rest
  | '\'' :: rest => literal? rest
  | _ => none

/-- A string of any kind and the text after it. -/
def string? (cs : List Char) : Option (List Char × List Char) :=
  match cs with
  | '"' :: '"' :: '"' :: rest => longBasic? (rest.length + 1) (skipFirstLineEnd rest)
  | '\'' :: '\'' :: '\'' :: rest => longLiteral? (rest.length + 1) (skipFirstLineEnd rest)
  | cs => shortString? cs

end SensorBench.Toml
