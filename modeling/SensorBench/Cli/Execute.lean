import SensorBench.Cli.Inventory
import SensorBench.Cli.Rehearsal
import SensorBench.Cli.Review

/-!
# Commands

The output of every command as a function of its options, the content of the
settings file it names, the words that noise is drawn from, and the time.
-/

set_option autoImplicit false

namespace SensorBench.Cli.Command

/-- The settings file that a command reads. -/
def config? : Command → Option String
  | run o => o.config
  | list _ => none
  | validate o => some o.config

/-- The output of a command. -/
def output (c : Command) (content : FileContent) (words : Nat → UInt32) (started : Moment) :
    Output :=
  match c with
  | run o => rehearse o content words started
  | list o => inventory o
  | validate o => review o content

end SensorBench.Cli.Command
