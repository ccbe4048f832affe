import SensorBench.Suite.Matrix
import SensorBench.Suite.Report

/-!
# Running a suite

The selected scenarios run one after the other against one host. Whatever a
scenario does, it leaves one entry behind and the next one runs; only a
cancellation, looked for before each scenario, ends a run early.
-/

set_option autoImplicit false

namespace SensorBench

/-- How one scenario ended, with the reason of a skip or the text of a
failure. -/
structure Ending where
  verdict : Verdict
  message : Option String
  deriving DecidableEq, Repr

namespace Ending

/-- The ending that a result stands for. -/
def ofResult : Except Halt Outcome → Ending
  | .ok .passed => ⟨.passed, none⟩
  | .ok (.skipped reason) => ⟨.skipped, some reason⟩
  | .error (.violation v) => ⟨.failed, some v.message⟩
  | .error (.panic text) => ⟨.failed, some ("panicked: " ++ text)⟩

end Ending

namespace Suite

variable {σ α : Type}

/-- A named act of a suite. -/
structure Row (σ : Type) where
  name : String
  act : Act σ Outcome

/-- The row of a scenario: the sensors are asked for first. -/
def rowOf (host : Host σ) (settings : Settings) (s : Scenario) : Row σ :=
  ⟨s.name, do
    let catalog ← host.ask .sensors
    s.body ⟨host, settings, catalog⟩⟩

/-- The rows run in order, each leaving its name, its ending and the clock before
and after it, until all are run or the flag is found set. The second part of the
result says whether some were left out. -/
def runRows (cancel : σ → Bool) (clock : σ → Int) (s : σ) :
    List (Row σ) → (List (String × Ending × Int × Int) × Bool) × σ
  | [] => (([], false), s)
  | row :: rest =>
    if cancel s then (([], true), s)
    else
      let start := clock s
      let (result, s) := row.act s
      let stop := clock s
      let ((entries, cancelled), s) := runRows cancel clock s rest
      (((row.name, .ofResult result, start, stop) :: entries, cancelled), s)

/-- The rows of all scenarios. -/
def rows (host : Host σ) (settings : Settings) : List (Row σ) :=
  Scenario.matrix.map (rowOf host settings)

/-- The rows that a filter selects. -/
def select (f : Settings.Filter) (rows : List (Row σ)) : List (Row σ) :=
  rows.filter fun row => f.selects row.name

/-- Milliseconds between two readings of a clock in nanoseconds. -/
def millis (start stop : Int) : Float := Number.doubleOfInt (stop - start) / 1000000.0

/-- The entry that a row leaves. -/
def entryOf : String × Ending × Int × Int → Entry
  | (name, ending, start, stop) => ⟨name, ending.verdict, ending.message, millis start stop⟩

/-- The report of some rows run from a state on, by a run that began at some time, and the last
state. -/
def report (cancel : σ → Bool) (clock : σ → Int) (started : Moment) (start : Int) (s : σ)
    (rows : List (Row σ)) : SuiteReport × σ :=
  let ((entries, cancelled), s) := runRows cancel clock s rows
  (⟨started, millis start (clock s), cancelled, entries.map entryOf⟩, s)

/-- A run of any rows: the session under test is connected, the selected rows are run, and the
report and the last state given. A run fails only if the session cannot be connected. -/
def runWith (host : Host σ) (settings : Settings) (rows : List (Row σ)) (cancel : σ → Bool)
    (clock : σ → Int) (started : Moment) : Act σ SuiteReport := fun s =>
  let start := clock s
  match host.ask (.connect settings.session.queueCapacity) s with
  | (.error h, s) => (.error h, s)
  | (.ok (.error status), s) => (.error (.violation (.session (.refusedQueue status))), s)
  | (.ok (.ok _), s) =>
    let (report, s) := report cancel clock started start s (select settings.filter rows)
    (.ok report, s)

/-- A run of all scenarios. -/
def run (host : Host σ) (settings : Settings) (cancel : σ → Bool) (clock : σ → Int)
    (started : Moment) : Act σ SuiteReport :=
  runWith host settings (rows host settings) cancel clock started

end Suite

end SensorBench
