import SensorBench.Toml.Scalar
import SensorBench.Toml.Section
import SensorBench.Toml.Text

/-!
# Reading TOML

`Toml.read?` reads a whole document into a record. Lists and inline tables may
run over lines, carry comments and end with a comma, and nest eighty levels
deep.
-/

set_option autoImplicit false

namespace SensorBench.Toml

/-! ## Keys -/

/-- Whether a character may stand in a key without quotes. -/
def isBare (c : Char) : Bool :=
  ('a' ≤ c && c ≤ 'z') || ('A' ≤ c && c ≤ 'Z') || Text.isDigit c || c == '_' || c == '-'

/-- One part of a key and the text after it. -/
def keyPart? (cs : List Char) : Option (String × List Char) :=
  match cs.span isBare with
  | ([], _) => (shortString? cs).map fun (s, rest) => (String.ofList s, rest)
  | (bare, rest) => some (String.ofList bare, rest)

/-- A key of one or more parts with points between them, and the text after it
and the blanks behind it. -/
def key? : Nat → List Char → Option (List String × List Char)
  | 0, _ => none
  | fuel + 1, cs => do
    let (part, rest) ← keyPart? (skipBlanks cs)
    match skipBlanks rest with
    | '.' :: rest =>
      let (parts, rest) ← key? fuel rest
      some (part :: parts, rest)
    | rest => some ([part], rest)

/-! ## Values -/

/-- The greatest depth of lists and inline tables. -/
def deepest : Nat := 80

mutual

/-- A value and the text after it, at most `depth` levels deep. -/
def value? : Nat → Nat → List Char → Option (Data × List Char)
  | 0, _, _ => none
  | fuel + 1, depth, cs =>
    match cs with
    | '[' :: rest => match depth with
      | 0 => none
      | depth + 1 => (items? fuel depth rest).map fun (xs, rest) => (.list xs, rest)
    | '\x7b' :: rest => match depth with
      | 0 => none
      | depth + 1 => (pairs? fuel depth [] rest).map fun (es, rest) => (.record (membersOf es), rest)
    | '"' :: _ => (string? cs).map fun (s, rest) => (.text (String.ofList s), rest)
    | '\'' :: _ => (string? cs).map fun (s, rest) => (.text (String.ofList s), rest)
    | cs =>
      let (run, rest) := scalarSpan cs
      (scalar? run).map fun d => (d, rest)

/-- The items of a list up to its closing bracket. -/
def items? : Nat → Nat → List Char → Option (List Data × List Char)
  | 0, _, _ => none
  | fuel + 1, depth, cs => do
    match ← skipLayout? (cs.length + 1) cs with
    | ']' :: rest => some ([], rest)
    | cs =>
      let (x, rest) ← value? fuel depth cs
      match ← skipLayout? (rest.length + 1) rest with
      | ']' :: rest => some ([x], rest)
      | ',' :: rest =>
        let (xs, rest) ← items? fuel depth rest
        some (x :: xs, rest)
      | _ => none

/-- The contents of an inline table up to its closing brace. -/
def pairs? : Nat → Nat → Entries → List Char → Option (Entries × List Char)
  | 0, _, _, _ => none
  | fuel + 1, depth, es, cs => do
    match ← skipLayout? (cs.length + 1) cs with
    | '\x7d' :: rest => some (es, rest)
    | cs =>
      let (path, rest) ← key? (cs.length + 1) cs
      let rest ← after? '=' rest
      let (x, rest) ← value? fuel depth (skipBlanks rest)
      let es ← Entries.assign x path es
      match ← skipLayout? (rest.length + 1) rest with
      | '\x7d' :: rest => some (es, rest)
      | ',' :: rest => pairs? fuel depth es rest
      | _ => none

end

/-! ## Documents -/

/-- A document read so far: its tables and the header whose table takes the next
values. -/
structure Document where
  header : List String
  root : Entries

/-- The document after a header, whose opening bracket is read, and the text
after it. -/
def header? (doc : Document) (cs : List Char) : Option (Document × List Char) := do
  match cs with
  | '[' :: cs =>
    let (path, rest) ← key? (cs.length + 1) cs
    let rest ← (after? ']' rest).bind (after? ']')
    let root ← Entries.appendTable path doc.root
    some (⟨path, root⟩, rest)
  | cs =>
    let (path, rest) ← key? (cs.length + 1) cs
    let rest ← after? ']' rest
    let root ← Entries.openTable path doc.root
    some (⟨path, root⟩, rest)

/-- The document after a key and its value, and the text after them. -/
def assignment? (doc : Document) (cs : List Char) : Option (Document × List Char) := do
  let (path, rest) ← key? (cs.length + 1) cs
  let rest ← after? '=' rest
  let (x, rest) ← value? (rest.length + 1) deepest (skipBlanks rest)
  let root ← Entries.inTable (Entries.assign x path) doc.header doc.root
  some (⟨doc.header, root⟩, rest)

/-- The document after all lines of a text; the fuel bounds their number. -/
def lines? : Nat → Document → List Char → Option Document
  | 0, _, _ => none
  | fuel + 1, doc, cs => do
    match ← skipLayout? (cs.length + 1) cs with
    | [] => some doc
    | '[' :: rest =>
      let (doc, rest) ← header? doc rest
      let rest ← finishLine? rest
      lines? fuel doc rest
    | cs =>
      let (doc, rest) ← assignment? doc cs
      let rest ← finishLine? rest
      lines? fuel doc rest

/-- One TOML document as a record. A byte order mark in front is passed over. -/
def read? (s : String) : Option Data := do
  let cs := match s.toList with
    | '\ufeff' :: rest => rest
    | cs => cs
  let doc ← lines? (cs.length + 1) ⟨[], []⟩ cs
  some (.record (membersOf doc.root))

end SensorBench.Toml
