import SensorBench.Cli.Invocation
import SensorBench.Cli.Output
import SensorBench.Config.Format
import SensorBench.Suite.Matrix

/-!
# Reviews of settings

A review says whether a settings file can be used, and warns of settings that are
legal but make a healthy HAL fail or a run pointless.
-/

set_option autoImplicit false

namespace SensorBench.Cli

open Text (decimal)

/-- What a review finds. -/
inductive Review where
  | valid (settings : Settings) (warnings : List String)
  | invalid (error : String)

namespace Review

/-- The warnings about settings. -/
def warnings (s : Settings) : List String :=
  (if s.streaming.duration < 1000 then
    ["streaming.duration_ms = " ++ decimal s.streaming.duration.toNat ++
      " yields few samples at the slow rate"] else []) ++
  (if s.timeouts.flushWait < 100 then
    ["timeouts.flush_wait_ms below 100 ms may miss flush markers"] else []) ++
  (if s.hotSwitch.settle = 0 then
    ["hot_switch.settle_ms = 0 mixes samples from both periods"] else []) ++
  (if Scenario.selected s.filter = [] then ["filter selects no scenario"] else [])

/-- The review of a file, unless loading it ends the program. -/
def ofFile (path : String) (content : FileContent) : Except String Review :=
  match content with
  | .missing => .ok (.invalid ("File not found: " ++ path))
  | content => match Settings.loadFile path content with
    | .ok s => .ok (.valid s (warnings s))
    | .error (.panic text) => .error text
    | .error f => .ok (.invalid f.message)

/-- A review as data. -/
def toData (path : String) : Review → Data
  | valid s ws => .record ([("valid", .flag true), ("config_path", .text path)] ++
      (if ws = [] then [] else [("warnings", .list (ws.map .text))]) ++ [("config", s.toData)])
  | invalid e =>
    .record [("valid", .flag false), ("config_path", .text path), ("error", .text e)]

/-- A line on patterns, if there are any. -/
def patternLine (title : String) (patterns : List String) : String :=
  if patterns = [] then "" else "  " ++ title ++ ": " ++ Text.join ", " patterns ++ "\n"

/-- A review in lines. -/
def text (path : String) : Review → String
  | valid s ws =>
    "✓ Configuration is valid: " ++ path ++ "\n" ++
      "\n  Flush wait: " ++ decimal s.timeouts.flushWait.toNat ++ " ms\n" ++
      "  Streaming duration: " ++ decimal s.streaming.duration.toNat ++ " ms\n" ++
      "  Direct report: " ++ decimal s.directReport.nominalTest.toNat ++ " ms + " ++
      decimal s.directReport.initSlack.toNat ++ " ms slack, " ++
      decimal s.directReport.ringCapacity.toNat ++ " records\n" ++
      patternLine "Include" s.filter.takes ++ patternLine "Exclude" s.filter.drops ++
      if ws = [] then "" else "\n⚠ Warnings:\n" ++ String.join (ws.map ("  - " ++ · ++ "\n"))
  | invalid e => "✗ Configuration is invalid: " ++ path ++ "\n" ++ "\n  Error: " ++ e ++ "\n"

/-- Whether a review finds the settings usable. -/
def isValid : Review → Bool
  | valid .. => true
  | invalid _ => false

end Review

/-- The review that is asked for. -/
def review (o : ReviewOptions) (content : FileContent) : Output :=
  match Review.ofFile o.config content with
  | .error text => .ofFault (.panicked text)
  | .ok r =>
    { printed := if o.json then Json.pretty (r.toData o.config) ++ "\n" else r.text o.config
      deposit := none
      fault := if r.isValid then none else some .invalidSettings }

end SensorBench.Cli
