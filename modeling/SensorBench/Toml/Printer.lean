import SensorBench.Data.Tree
import SensorBench.Text.Numeral

/-!
# Printing TOML

A record of records as a document: each inner record is a table with a header,
and an empty line stands between two tables. Of the ways to write a string the
first that needs no escape is taken.
-/

set_option autoImplicit false

namespace SensorBench.Toml

/-! ## Strings -/

/-- The length of the longest run of a character. -/
def longestRun (c : Char) : List Char → Nat
  | [] => 0
  | d :: rest =>
    if d = c then max (1 + (rest.takeWhile (· == c)).length) (longestRun c rest)
    else longestRun c rest

/-- Whether a character is a control character other than a tab or a line
feed. -/
def isControl (c : Char) : Bool :=
  c != '\t' && c != '\n' && (c.toNat < 0x20 || c.toNat == 0x7f)

/-- The ways to write a string. -/
inductive Spelling where
  | basic
  | literal
  | longBasic
  | longLiteral
  | escaped
  | longEscaped
  deriving DecidableEq, Repr

/-- The way in which a string is written. -/
def spelling (cs : List Char) : Spelling :=
  let lines := cs.contains '\n'
  let backslash := cs.contains '\\'
  if cs.any isControl then if lines then .longEscaped else .escaped
  else if !lines && !backslash && !cs.contains '"' then .basic
  else if !lines && !cs.contains '\'' then .literal
  else if !backslash && longestRun '"' cs ≤ 2 then .longBasic
  else if longestRun '\'' cs ≤ 2 then .longLiteral
  else if lines then .longEscaped
  else .escaped

/-- One character of a basic string. -/
def escape (c : Char) : List Char :=
  match c with
  | '\x08' => ['\\', 'b']
  | '\t' => ['\\', 't']
  | '\n' => ['\\', 'n']
  | '\x0c' => ['\\', 'f']
  | '\r' => ['\\', 'r']
  | '"' => ['\\', '"']
  | '\\' => ['\\', '\\']
  | c => if isControl c then '\\' :: 'u' :: (Text.upperHex 4 c.toNat).toList else [c]

/-- The characters of a basic string of several lines. Line feeds stand for
themselves, and so do quotes unless two stand before them. -/
def escapeLong (run : Nat) : List Char → List Char
  | [] => []
  | '\n' :: rest => '\n' :: escapeLong 0 rest
  | '"' :: rest =>
    if run < 2 then '"' :: escapeLong (run + 1) rest
    else '\\' :: '"' :: escapeLong 0 rest
  | c :: rest => escape c ++ escapeLong 0 rest

/-- A string of several lines between delimiters, begun on a line of its own if
it has a line feed. -/
def long (delimiter : List Char) (lines : Bool) (body : List Char) : List Char :=
  delimiter ++ (if lines then ['\n'] else []) ++ body ++ delimiter

/-- The characters of a written string. -/
def quoteChars (cs : List Char) : List Char :=
  let lines := cs.contains '\n'
  match spelling cs with
  | .basic => '"' :: (cs ++ ['"'])
  | .literal => '\'' :: (cs ++ ['\''])
  | .longBasic => long ['"', '"', '"'] lines cs
  | .longLiteral => long ['\'', '\'', '\''] lines cs
  | .escaped => '"' :: (cs.flatMap escape ++ ['"'])
  | .longEscaped => long ['"', '"', '"'] lines (escapeLong 0 cs)

/-- A written string. -/
def quote (s : String) : String := String.ofList (quoteChars s.toList)

/-! ## Values and tables -/

/-- A scalar. Only texts, integers and truth values are written in documents of
this library. -/
def scalar : Data → String
  | .number (.integer n) => Text.signedDecimal n
  | .flag b => if b then "true" else "false"
  | .text s => quote s
  | _ => ""

/-- A list: empty or with one item on one line, longer ones with one item on each
line. -/
def list : List Data → String
  | [] => "[]"
  | [x] => "[" ++ scalar x ++ "]"
  | items => "[\n" ++ String.join (items.map fun x => "    " ++ scalar x ++ ",\n") ++ "]"

/-- A value. -/
def value : Data → String
  | .list items => list items
  | x => scalar x

/-- A table under its header. -/
def table (name : String) (members : List (String × Data)) : String :=
  "[" ++ name ++ "]\n" ++
    String.join (members.map fun (key, x) => key ++ " = " ++ value x ++ "\n")

/-- A record of records as a document. -/
def pretty : Data → String
  | .record sections => Text.join "\n" (sections.filterMap fun (name, x) => match x with
    | .record members => some (table name members)
    | _ => none)
  | _ => ""

end SensorBench.Toml
