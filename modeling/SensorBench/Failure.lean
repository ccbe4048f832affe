import SensorBench.Direct.Region
import SensorBench.Hal.Status
import SensorBench.Text.Numeral

/-!
# Failures

What can go wrong outside a scenario: settings that cannot be read or do not
hold together, a rejected call, a closed queue, an access outside a region, a
file that is not there, and what ends the program at once.
-/

set_option autoImplicit false

namespace SensorBench

/-- Why a file could not be read as text. -/
inductive FileFault where
  | missing
  | notText
  deriving DecidableEq, Repr

/-- The name of the fault. -/
def FileFault.name : FileFault → String
  | .missing => "NotFound"
  | .notText => "InvalidData"

/-- The fault in words. -/
def FileFault.message : FileFault → String
  | .missing => "No such file or directory (os error 2)"
  | .notText => "stream did not contain valid UTF-8"

/-- A failure with its cause. -/
inductive Failure where
  | unreadableSettings (reason : String)
  | invalidSetting (field reason : String)
  | rejectedCall (operation : String) (status : Status)
  | queueClosed
  | outOfBounds (access : OutOfBounds)
  | file (fault : FileFault)
  | other (text : String)
  | panic (text : String)
  deriving DecidableEq, Repr

/-- The name of the kind of failure. -/
def Failure.name : Failure → String
  | .unreadableSettings _ => "ConfigParse"
  | .invalidSetting .. => "ConfigValidation"
  | .rejectedCall .. => "Hal"
  | .queueClosed => "QueueClosed"
  | .outOfBounds _ => "MemoryOutOfBounds"
  | .file _ => "Io"
  | .other _ => "Other"
  | .panic _ => "panic"

/-- The failure in words. -/
def Failure.message : Failure → String
  | .unreadableSettings reason => "config parse error: " ++ reason
  | .invalidSetting field reason => "config validation error at '" ++ field ++ "': " ++ reason
  | .rejectedCall operation status => "hal call '" ++ operation ++ "' failed: " ++ status.name
  | .queueClosed => "event queue closed"
  | .outOfBounds access =>
    "shared memory access out of bounds: offset=" ++ Text.decimal access.offset ++ ", len=" ++
      Text.decimal access.length ++ ", size=" ++ Text.decimal access.size
  | .file fault => "io error: " ++ fault.message
  | .other text | .panic text => text

end SensorBench
