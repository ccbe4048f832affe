import SensorBench.Config.Validity
import SensorBench.Json.Printer
import SensorBench.Json.Reader
import SensorBench.Toml.Printer
import SensorBench.Toml.Reader

/-!
# Settings as text

Settings are written as TOML or JSON, and a file says which by the ending of its
name. Reading decodes the text and then checks the rules.
-/

set_option autoImplicit false

namespace SensorBench

/-- A text format of settings. -/
inductive ConfigFormat where
  | toml
  | json
  deriving DecidableEq, Repr

namespace ConfigFormat

/-- The format that a file ending names, in either case. -/
def ofEnding? (ending : String) : Option ConfigFormat :=
  let lower := String.ofList (ending.toList.map Char.toLower)
  if lower = "toml" then some toml else if lower = "json" then some json else none

/-- The data of a text. -/
def read? (f : ConfigFormat) (s : String) : Option Data :=
  match f with
  | toml => Toml.read? s
  | json => Json.read? s

/-- The format's own name for a text it cannot read. -/
def complaint : ConfigFormat → String
  | toml => "TOML parse error"
  | json => "JSON parse error"

/-- Whether a list given for a record may have more items than fields. -/
def allowsSurplus : ConfigFormat → Bool
  | toml => true
  | json => false

end ConfigFormat

/-- The last part of a path; dots and empty parts name no file of their own. -/
def fileName? (path : String) : Option (List Char) :=
  let parts := (path.toList.splitOn '/').filter fun p => p ≠ [] ∧ p ≠ ['.']
  match parts.getLast? with
  | some ['.', '.'] => none
  | last => last

/-- The ending of a file's name: what follows its last point, unless nothing
stands before that point. -/
def fileEnding? (path : String) : Option String := do
  let name ← fileName? path
  let reversed := name.reverse
  let ending := reversed.takeWhile (· != '.')
  let stem := reversed.drop (ending.length + 1)
  if name.contains '.' ∧ stem ≠ [] then some (String.ofList ending.reverse) else none

/-- What a path leads to: a text, bytes that are no text, or nothing. -/
inductive FileContent where
  | text (s : String)
  | binary
  | missing

namespace Settings

/-- Settings read from a text, not yet checked. -/
def parse (f : ConfigFormat) (s : String) : Except Failure Settings :=
  match (f.read? s).bind (decode f.allowsSurplus) with
  | some settings => .ok settings
  | none => .error (.unreadableSettings f.complaint)

/-- Settings read from a text and checked. -/
def load (f : ConfigFormat) (s : String) : Except Failure Settings :=
  (parse f s).bind check

/-- The format of a file. -/
def formatOfFile (path : String) : Except Failure ConfigFormat :=
  match fileEnding? path with
  | none => .error (.unreadableSettings "cannot determine file format from extension")
  | some ending => match ConfigFormat.ofEnding? ending with
    | some f => .ok f
    | none => .error (.unreadableSettings ("unsupported config format: ." ++ ending))

/-- Settings read from a file and checked. The name is looked at before the
content. -/
def loadFile (path : String) (content : FileContent) : Except Failure Settings := do
  let f ← formatOfFile path
  match content with
  | .text s => load f s
  | .binary => .error (.file .notText)
  | .missing => .error (.file .missing)

/-- Settings as a TOML document. -/
def toToml (s : Settings) : String := Toml.pretty s.toData

/-- Settings as indented JSON. -/
def toJson (s : Settings) : String := Json.pretty s.toData

end Settings

end SensorBench
