import SensorBench.Data.Decode

/-!
# Call statuses and operation modes
-/

set_option autoImplicit false

namespace SensorBench

/-- Why a call was rejected. -/
inductive Status where
  | badValue
  | invalidOperation
  | noMemory
  | permissionDenied
  deriving DecidableEq, Repr, Inhabited

namespace Status

/-- The name of a status. -/
def name : Status → String
  | badValue => "BAD_VALUE"
  | invalidOperation => "INVALID_OPERATION"
  | noMemory => "NO_MEMORY"
  | permissionDenied => "PERMISSION_DENIED"

/-- All statuses. -/
def all : List Status := [badValue, invalidOperation, noMemory, permissionDenied]

/-- The status with a name. -/
def ofName? (s : String) : Option Status := all.find? (·.name = s)

/-- The name of an outcome, `OK` when nothing was rejected. -/
def outcomeName : Option Status → String
  | none => "OK"
  | some s => s.name

end Status

/-- Whether sensors report what they measure or what is injected. -/
inductive OperationMode where
  | normal
  | dataInjection
  deriving DecidableEq, Repr, Inhabited

namespace OperationMode

/-- The name in data texts. -/
def name : OperationMode → String
  | normal => "normal"
  | dataInjection => "data_injection"

/-- The name in messages. -/
def title : OperationMode → String
  | normal => "Normal"
  | dataInjection => "DataInjection"

/-- The mode read from data. -/
def decode : Decoder OperationMode := Decode.variant ([normal, dataInjection].map fun m => (m.name, m))

end OperationMode

end SensorBench
