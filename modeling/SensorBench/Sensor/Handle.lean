import SensorBench.Text.Numeral

/-!
# Sensor handles

A handle names a sensor within one session. It is a signed 32-bit number of its
own type, so that it cannot be taken for a channel, a token or a type code.
-/

set_option autoImplicit false

namespace SensorBench

/-- A sensor handle. -/
structure Handle where
  raw : Int32
  deriving DecidableEq, Repr, Inhabited

namespace Handle

/-- The handle with a given number; numbers outside 32 bits wrap. -/
def ofInt (n : Int) : Handle := ⟨Int32.ofInt n⟩

/-- The number of a handle. -/
def toInt (h : Handle) : Int := h.raw.toInt

/-- Handles are ordered by their numbers. -/
instance : LT Handle := ⟨fun a b => a.toInt < b.toInt⟩

instance (a b : Handle) : Decidable (a < b) := inferInstanceAs (Decidable (a.toInt < b.toInt))

/-- The greatest handle. -/
def greatest : Handle := ofInt 0x7fffffff

/-- The handle directly after this one; the greatest is followed by itself. -/
def next (h : Handle) : Handle := if h = greatest then h else ofInt (h.toInt + 1)

/-- The text of a handle: eight hexadecimal digits of its two's complement
form. -/
def text (h : Handle) : String := "0x" ++ Text.hex 8 h.raw.toUInt32.toNat

/-- The text of a handle in a diagnostic listing. -/
def listing (h : Handle) : String := "SensorHandle(" ++ h.text ++ ")"

end Handle

end SensorBench
