import SensorBench.Data.Tree

/-!
# TOML tables under construction

A document fills its tables in any order, but none twice. Each table remembers
how it came to be: merely implied by a longer header, by a dotted key, or by a
header of its own. A dotted key never reaches into a table that a header made,
and a header never reopens what it or a dotted key made.
-/

set_option autoImplicit false

namespace SensorBench.Toml

/-- How a table came to be. -/
inductive Origin where
  | implied
  | dotted
  | header
  deriving DecidableEq, Repr

/-- What stands under a key: a finished value, an open table, or a list of
tables of which the last is open. -/
inductive Node where
  | value (d : Data)
  | table (origin : Origin) (entries : List (String × Node))
  | tables (items : List (List (String × Node)))

/-- The contents of a table under construction. -/
abbrev Entries := List (String × Node)

namespace Entries

/-- The contents with a key set, in place if it is there. -/
def put (key : String) (n : Node) : Entries → Entries
  | [] => [(key, n)]
  | (k, m) :: rest => if k = key then (k, n) :: rest else (k, m) :: put key n rest

/-- A change of the last of several tables. -/
def changeLast (f : Entries → Option Entries) : List Entries → Option (List Entries)
  | [] => none
  | [es] => (f es).map ([·])
  | es :: rest => (changeLast f rest).map (es :: ·)

/-- A change of the table under a key, which is made if it is missing. Only
tables of admitted origins are entered, and a list of tables only if `lists`
says so. -/
def within (made : Origin) (admits : Origin → Bool) (lists : Bool) (key : String)
    (f : Entries → Option Entries) (es : Entries) : Option Entries :=
  match es.lookup key with
  | none => (f []).map fun sub => put key (.table made sub) es
  | some (.table origin sub) =>
    if admits origin then (f sub).map fun sub => put key (.table origin sub) es else none
  | some (.tables items) =>
    if lists then (changeLast f items).map fun items => put key (.tables items) es else none
  | some (.value _) => none

/-- The contents with a value under a dotted key. The table that takes the value
is the current one for a plain key, and one made by a dotted key otherwise. -/
def assign (d : Data) : List String → Entries → Option Entries
  | [], _ => none
  | [key], es => if (es.lookup key).isNone then some (es ++ [(key, .value d)]) else none
  | key :: next :: rest, es =>
    let last := rest.isEmpty
    within .dotted (fun o => if last then o = .dotted else o ≠ .header) (!last) key
      (assign d (next :: rest)) es

/-- The contents after a table header. -/
def openTable : List String → Entries → Option Entries
  | [], _ => none
  | [key], es => match es.lookup key with
    | none => some (put key (.table .header []) es)
    | some (.table .implied sub) => some (put key (.table .header sub) es)
    | some _ => none
  | key :: next :: rest, es =>
    within .implied (fun _ => true) true key (openTable (next :: rest)) es

/-- The contents after a header of one more table in a list. -/
def appendTable : List String → Entries → Option Entries
  | [], _ => none
  | [key], es => match es.lookup key with
    | none => some (put key (.tables [[]]) es)
    | some (.tables items) => some (put key (.tables (items ++ [[]])) es)
    | some _ => none
  | key :: next :: rest, es =>
    within .implied (fun _ => true) true key (appendTable (next :: rest)) es

/-- A change of the table that the last header opened. -/
def inTable (f : Entries → Option Entries) : List String → Entries → Option Entries
  | [], es => f es
  | key :: rest, es => within .implied (fun _ => true) true key (inTable f rest) es

end Entries

mutual

/-- A node as data. -/
def Node.toData : Node → Data
  | .value d => d
  | .table _ entries => .record (membersOf entries)
  | .tables items => .list (recordsOf items)

/-- The contents of a table as the members of a record. -/
def membersOf : List (String × Node) → List (String × Data)
  | [] => []
  | (key, n) :: rest => (key, n.toData) :: membersOf rest

/-- The tables of a list as records. -/
def recordsOf : List (List (String × Node)) → List Data
  | [] => []
  | es :: rest => .record (membersOf es) :: recordsOf rest

end

end SensorBench.Toml
