import SensorBench.Hal.Behaviour

/-!
# Invocations

What a command line asks for: one command with its options, and how the program
should log.
-/

set_option autoImplicit false

namespace SensorBench.Cli

/-- How log lines are written. -/
inductive LogStyle where
  | json
  | pretty
  | compact
  deriving DecidableEq, Repr, Inhabited

namespace LogStyle

/-- The styles. -/
def all : List LogStyle := [json, pretty, compact]

/-- The name on a command line. -/
def name : LogStyle → String
  | json => "json"
  | pretty => "pretty"
  | compact => "compact"

/-- The style with a name. -/
def ofName? (s : String) : Option LogStyle := all.find? (·.name = s)

end LogStyle

/-- What to run and where to report. Patterns on the command line replace those
that a settings file includes, and add to those that it excludes. -/
structure RunOptions where
  config : Option String
  takes : List String
  drops : List String
  faults : List Fault
  json : Bool
  report : Option String
  metricsPort : Nat
  deriving DecidableEq, Repr

/-- What to list: the sensors of the reference HAL, or the scenarios. -/
structure ListOptions where
  scenarios : Bool
  json : Bool
  deriving DecidableEq, Repr

/-- Which settings file to review. -/
structure ReviewOptions where
  config : String
  json : Bool
  deriving DecidableEq, Repr

/-- A command with its options. -/
inductive Command where
  | run (o : RunOptions)
  | list (o : ListOptions)
  | validate (o : ReviewOptions)
  deriving DecidableEq, Repr

/-- The reading of a whole command line. -/
structure Invocation where
  verbosity : Nat
  quiet : Bool
  logStyle : LogStyle
  command : Command
  deriving DecidableEq, Repr

end SensorBench.Cli
