import SensorBench.Failure
import SensorBench.Text.Numeral

/-!
# Output of commands

What a command prints, the file it wants written, and whether it failed. A file
that cannot be written counts before any failure of the command itself.
-/

set_option autoImplicit false

namespace SensorBench.Cli

/-- Why a command failed. -/
inductive CommandFault where
  | settingsMissing (path : String)
  | settings (failure : Failure)
  | notStarted
  | unwritable (path : String)
  | invalidSettings
  | cancelled (completed : Nat)
  | scenariosFailed (failed total : Nat)
  | panicked (text : String)
  deriving DecidableEq, Repr

/-- The fault of a command whose settings could not be loaded. -/
def CommandFault.ofFailure : Failure → CommandFault
  | .panic text => .panicked text
  | f => .settings f

/-- The fault in words. -/
def CommandFault.message : CommandFault → String
  | .settingsMissing path => "Configuration file not found: " ++ path
  | .settings failure => "Failed to load configuration: " ++ failure.message
  | .notStarted => "Suite could not start"
  | .unwritable path => "Failed to write report to " ++ path
  | .invalidSettings => "Configuration validation failed"
  | .cancelled completed => "Suite cancelled after " ++ Text.decimal completed ++ " scenarios"
  | .scenariosFailed failed total =>
    Text.decimal failed ++ " of " ++ Text.decimal total ++ " scenarios failed"
  | .panicked text => text

/-- A file to be written. -/
structure Deposit where
  path : String
  text : String
  deriving DecidableEq, Repr

/-- What a command leaves: printed text, perhaps a file, and perhaps a fault. -/
structure Output where
  printed : String
  deposit : Option Deposit
  fault : Option CommandFault
  deriving DecidableEq, Repr

namespace Output

/-- The output of a command that only prints. -/
def ofText (printed : String) : Output := ⟨printed, none, none⟩

/-- The output of a command that fails before it prints. -/
def ofFault (f : CommandFault) : Output := ⟨"", none, some f⟩

/-- The fault in the end, when it is known whether the file could be written. -/
def finalFault (o : Output) (written : Bool) : Option CommandFault :=
  match o.deposit with
  | some d => if written then o.fault else some (.unwritable d.path)
  | none => o.fault

end Output

end SensorBench.Cli
