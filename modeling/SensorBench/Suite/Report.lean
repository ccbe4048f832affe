import SensorBench.Data.Decode
import SensorBench.Json.Printer
import SensorBench.Stats.Summary
import SensorBench.Text.Moment

/-!
# Reports

What is recorded of a run: one entry for each scenario that was run, in order.
The counts and the summary are read off the entries.
-/

set_option autoImplicit false

namespace SensorBench

/-- How a scenario ended. -/
inductive Verdict where
  | passed
  | skipped
  | failed
  deriving DecidableEq, Repr, Inhabited

namespace Verdict

/-- The name in data texts. -/
def name : Verdict → String
  | passed => "passed"
  | skipped => "skipped"
  | failed => "failed"

/-- The verdict read from data. -/
def decode : Decoder Verdict := Decode.variant ([passed, skipped, failed].map fun v => (v.name, v))

end Verdict

/-- The entry of one scenario. The message is the reason of a skip or the text of
a failure. -/
structure Entry where
  name : String
  verdict : Verdict
  message : Option String
  duration : Float

namespace Entry

/-- An entry read from data. -/
def decode : Decoder Entry := fun x => do
  let s ← Decode.slots ["name", "status", "message", "duration_ms"] false x
  let name ← Decode.required s "name" Decode.text
  let verdict ← Decode.required s "status" Verdict.decode
  let message ← Decode.optional s "message" none (Decode.nullable Decode.text)
  let duration ← Decode.required s "duration_ms" Decode.double
  some ⟨name, verdict, message, duration⟩

/-- An entry as data; a missing message is left out. -/
def toData (e : Entry) : Data :=
  .record ([("name", .text e.name), ("status", .text e.verdict.name)] ++
    e.message.toList.map (fun m => ("message", .text m)) ++ [("duration_ms", .double e.duration)])

end Entry

/-- The report of a run. -/
structure SuiteReport where
  started : Moment
  duration : Float
  cancelled : Bool
  entries : List Entry

namespace SuiteReport

/-- The number of entries with a verdict. -/
def count (r : SuiteReport) (v : Verdict) : Nat := (r.entries.filter (·.verdict = v)).length

/-- The number of passes. -/
def passed (r : SuiteReport) : Nat := r.count .passed

/-- The number of failures. -/
def failed (r : SuiteReport) : Nat := r.count .failed

/-- The number of skips. -/
def skipped (r : SuiteReport) : Nat := r.count .skipped

/-- Whether no scenario failed. -/
def isSuccess (r : SuiteReport) : Bool := r.failed = 0

/-- The first entry with a name. -/
def entry? (r : SuiteReport) (name : String) : Option Entry := r.entries.find? (·.name = name)

/-- The entries of failed scenarios. -/
def failures (r : SuiteReport) : List Entry := r.entries.filter (·.verdict = .failed)

/-- The run in numbers. -/
def summary (r : SuiteReport) : Stats.Summary :=
  .ofTally (r.entries.foldl (fun t e => t.add e.name e.verdict.name e.duration) .empty)

/-- A report read from data. -/
def decode : Decoder SuiteReport := fun x => do
  let s ← Decode.slots ["started_at", "duration_ms", "cancelled", "results"] false x
  let started ← Decode.required s "started_at" fun d => (Decode.text d).bind Moment.parse?
  let duration ← Decode.required s "duration_ms" Decode.double
  let cancelled ← Decode.required s "cancelled" Decode.bool
  let entries ← Decode.required s "results" (Decode.list Entry.decode)
  some ⟨started, duration, cancelled, entries⟩

/-- A report as data. -/
def toData (r : SuiteReport) : Data := .record [
  ("started_at", .text r.started.text), ("duration_ms", .double r.duration),
  ("cancelled", .flag r.cancelled), ("results", .list (r.entries.map Entry.toData))]

/-- A report as indented JSON. -/
def toJson (r : SuiteReport) : String := Json.pretty r.toData

end SuiteReport

end SensorBench
