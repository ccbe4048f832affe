import SensorBench.Direct.Rate
import SensorBench.Sensor.Kind

/-!
# Descriptor flags

The 32-bit word of a sensor descriptor: bit 0 wake-up, bits 1 to 3 the
reporting mode, bit 4 data injection, bit 5 dynamic sensor, bit 6 additional
information, bits 7 to 9 the highest direct report rate, bits 10 and 11 the
kinds of memory a direct channel may use.
-/

set_option autoImplicit false

namespace SensorBench

/-- The flag word of a descriptor. -/
structure Flags where
  bits : UInt32
  deriving DecidableEq, Repr, Inhabited

namespace Flags

/-- The sensor can wake the host. -/
def wakeUp : UInt32 := 0x1

/-- The bits of the reporting mode. -/
def modeMask : UInt32 := 0xe

/-- Samples can be injected. -/
def dataInjection : UInt32 := 0x10

/-- The sensor may appear and disappear. -/
def dynamicSensor : UInt32 := 0x20

/-- The sensor sends additional information. -/
def additionalInfo : UInt32 := 0x40

/-- The bits of the highest direct report rate. -/
def directRateMask : UInt32 := 0x380

/-- The place of the highest direct report rate. -/
def directRateShift : UInt32 := 7

/-- Direct channels over anonymous shared memory. -/
def ashmemChannel : UInt32 := 0x400

/-- Direct channels over graphics buffers. -/
def grallocChannel : UInt32 := 0x800

/-- Whether all the given bits are set. -/
def contains (f : Flags) (bits : UInt32) : Bool := f.bits &&& bits == bits

/-- The flags with the given bits set too. -/
def add (f : Flags) (bits : UInt32) : Flags := ⟨f.bits ||| bits⟩

/-- The flags that carry a reporting mode and nothing else. -/
def ofMode : ReportingMode → Flags
  | .continuous => ⟨0x0⟩
  | .onChange => ⟨0x2⟩
  | .oneShot => ⟨0x4⟩
  | .special => ⟨0x6⟩

/-- The reporting mode. Codes without a meaning of their own count as
special. -/
def mode (f : Flags) : ReportingMode :=
  let code := f.bits &&& modeMask
  if code = 0x0 then .continuous
  else if code = 0x2 then .onChange
  else if code = 0x4 then .oneShot
  else .special

/-- The highest direct report level; zero means that there is no direct
report. -/
def directLevel (f : Flags) : UInt32 := (f.bits &&& directRateMask) >>> directRateShift

/-- The flags with a given highest direct report level; bits beyond its three
are dropped. -/
def setDirectLevel (f : Flags) (level : UInt32) : Flags :=
  ⟨(f.bits &&& ~~~directRateMask) ||| ((level <<< directRateShift) &&& directRateMask)⟩

end Flags

end SensorBench
