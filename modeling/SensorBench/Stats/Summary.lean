import SensorBench.Number.Layout
import SensorBench.Stats.Running

/-!
# Run summaries

The outcome of a run in numbers: how many scenarios ended in which way, how long
they took, and which was the slowest.
-/

set_option autoImplicit false

namespace SensorBench.Stats

/-- The statistics of a stream of durations, ready to be shown. -/
structure Spread where
  count : Nat
  least : Float
  greatest : Float
  mean : Float
  deviation : Float

namespace Spread

/-- The spread of a stream so far. -/
def ofRunning (s : Running Float) : Spread :=
  ⟨s.count, s.least, s.greatest, s.mean, s.variance.sqrt⟩

/-- The spread on one line, with one decimal place. -/
def text (s : Spread) : String :=
  if s.count = 0 then "N/A"
  else
    "min=" ++ Number.fixedDouble 1 s.least ++ ", max=" ++ Number.fixedDouble 1 s.greatest ++
      ", mean=" ++ Number.fixedDouble 1 s.mean ++ ", std=" ++ Number.fixedDouble 1 s.deviation ++
      " (n=" ++ Text.decimal s.count ++ ")"

end Spread

/-- What is kept of the scenarios of a run so far. -/
structure Tally where
  statuses : List (String × Nat)
  durations : Running Float
  slowest : Option (String × Float)

namespace Tally

/-- The tally of no scenarios. -/
def empty : Tally := ⟨[], .empty, none⟩

/-- How often a status was seen. -/
def count (t : Tally) (status : String) : Nat := (t.statuses.lookup status).getD 0

/-- The counts with one more sighting of a status. -/
def bump (status : String) : List (String × Nat) → List (String × Nat)
  | [] => [(status, 1)]
  | (s, n) :: rest => if s = status then (s, n + 1) :: rest else (s, n) :: bump status rest

/-- Whether a duration takes the place of the slowest so far: only a longer one
does. -/
def isSlower (slowest : Option (String × Float)) (duration : Float) : Bool :=
  match slowest with
  | none => true
  | some (_, d) => d < duration

/-- The tally with one more scenario. -/
def add (t : Tally) (name status : String) (duration : Float) : Tally :=
  { statuses := bump status t.statuses, durations := t.durations.push duration
    slowest := if isSlower t.slowest duration then some (name, duration) else t.slowest }

end Tally

/-- A run in numbers. The pass rate is a percentage. -/
structure Summary where
  total : Nat
  passed : Nat
  failed : Nat
  skipped : Nat
  passRate : Float
  durations : Spread
  slowest : Option (String × Float)

namespace Summary

/-- The share of passes among the scenarios that were not skipped, as a
percentage; zero if there were no scenarios. -/
def rate (total passed failed : Nat) : Float :=
  if 0 < total then Float.ofNat passed / Float.ofNat (max (passed + failed) 1) * 100.0 else 0.0

/-- The summary of a tally. -/
def ofTally (t : Tally) : Summary :=
  let total := t.durations.count
  let passed := t.count "passed"
  let failed := t.count "failed"
  { total, passed, failed, skipped := t.count "skipped", passRate := rate total passed failed
    durations := .ofRunning t.durations, slowest := t.slowest }

/-- The summary in lines, each ended by a line break. -/
def text (s : Summary) : String :=
  "=== Conformance Summary ===\n" ++
    "Scenarios: " ++ Text.decimal s.total ++ "\n" ++
    "Passed: " ++ Text.decimal s.passed ++ "  Failed: " ++ Text.decimal s.failed ++
    "  Skipped: " ++ Text.decimal s.skipped ++ " (" ++ Number.fixedDouble 1 s.passRate ++
    "% pass)\n" ++
    "Duration (ms): " ++ s.durations.text ++ "\n" ++
    (match s.slowest with
      | some (name, ms) => "Slowest: " ++ name ++ " (" ++ Number.fixedDouble 0 ms ++ " ms)\n"
      | none => "")

end Summary

end SensorBench.Stats
