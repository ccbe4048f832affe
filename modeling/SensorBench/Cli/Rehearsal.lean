import SensorBench.Bench.World
import SensorBench.Cli.Invocation
import SensorBench.Cli.Output
import SensorBench.Config.Format
import SensorBench.Sensor.Stock
import SensorBench.Suite.Run

/-!
# Rehearsals

A run of the suite against the reference HAL, with faults switched on or without.
Time in the run is the time of the simulated world.
-/

set_option autoImplicit false

namespace SensorBench.Cli

/-- The settings of a run before they are checked: those of the file, or the
defaults without one. -/
def fileSettings (o : RunOptions) (content : FileContent) : Except CommandFault Settings :=
  match o.config, content with
  | none, _ => .ok {}
  | some path, .missing => .error (.settingsMissing path)
  | some path, content => (Settings.loadFile path content).mapError .ofFailure

/-- Settings with the patterns of the command line. -/
def narrowed (o : RunOptions) (s : Settings) : Settings :=
  { s with filter := {
      takes := if o.takes = [] then s.filter.takes else o.takes
      drops := s.filter.drops ++ o.drops } }

/-- The settings of a run. -/
def runSettings (o : RunOptions) (content : FileContent) : Except CommandFault Settings := do
  let s ← fileSettings o content
  ((narrowed o s).check).mapError .ofFailure

/-- The mark of a verdict. -/
def mark : Verdict → String
  | .passed => "PASS"
  | .skipped => "SKIP"
  | .failed => "FAIL"

/-- The line on one scenario. -/
def entryLine (e : Entry) : String :=
  "  [" ++ mark e.verdict ++ "] " ++ e.name ++ " (" ++ Number.fixedDouble 0 e.duration ++ " ms)" ++
    (match e.message with
      | some m => ": " ++ m
      | none => "") ++ "\n"

/-- A report in lines. -/
def reportText (r : SuiteReport) : String :=
  "\n=== Scenarios ===\n\n" ++ String.join (r.entries.map entryLine) ++ "\n" ++ r.summary.text ++
    "\n" ++ if r.cancelled then "Run cancelled before all scenarios completed.\n" else ""

/-- Why a run counts as failed. -/
def reportFault? (r : SuiteReport) : Option CommandFault :=
  if r.cancelled then some (.cancelled r.entries.length)
  else if r.isSuccess then none
  else some (.scenariosFailed r.failed r.entries.length)

/-- The output of a run that ended with a report. -/
def ofReport (o : RunOptions) (r : SuiteReport) : Output :=
  { printed := if o.json then r.toJson ++ "\n" else reportText r
    deposit := o.report.map fun path => ⟨path, r.toJson⟩
    fault := reportFault? r }

/-- The world of a run: the stock sensors at the front of the reference HAL, and
time that passes by itself. -/
def runWorld (faults : List Fault) (words : Nat → UInt32) : Bench.World :=
  .start .stock (.ofFaults faults) words 0 true (.plain .flowing)

/-- The run that is asked for. -/
def rehearse (o : RunOptions) (content : FileContent) (words : Nat → UInt32)
    (started : Moment) : Output :=
  match runSettings o content with
  | .error f => .ofFault f
  | .ok s =>
    match Suite.run Bench.World.answer s (fun _ => false) (·.clock) started
        (runWorld o.faults words) with
    | (.ok r, _) => ofReport o r
    | (.error _, _) => .ofFault .notStarted

end SensorBench.Cli
