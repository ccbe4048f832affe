import SensorBench.Sensor.Flags
import SensorBench.Sensor.Handle

/-!
# Sensor descriptors

What a device says about one of its sensors, and the quantities that the rest
of the library derives from it.
-/

set_option autoImplicit false

namespace SensorBench

/-- The description of one sensor. Delays are in microseconds, power in
milliamperes. -/
structure Descriptor where
  handle : Handle
  name : String
  vendor : String
  version : Int32
  kind : SensorKind
  kindName : String
  maxRange : Float32
  resolution : Float32
  power : Float32
  minDelay : Int32
  fifoReserved : UInt32
  fifoMax : UInt32
  permission : String
  maxDelay : Int32
  flags : Flags
  deriving Inhabited

namespace Descriptor

/-- The declared reporting mode. -/
def mode (d : Descriptor) : ReportingMode := d.flags.mode

/-- Whether the sensor reports once and then turns itself off. -/
def isOneShot (d : Descriptor) : Bool := d.mode = .oneShot

/-- Whether the sensor has a regular stream of events. -/
def isStreaming (d : Descriptor) : Bool := d.mode = .continuous || d.mode = .onChange

/-- Whether the sensor can wake the host. -/
def isWakeUp (d : Descriptor) : Bool := d.flags.contains Flags.wakeUp

/-- Whether samples can be injected. -/
def isInjectable (d : Descriptor) : Bool := d.flags.contains Flags.dataInjection

/-- Whether the sensor reports into channels over a kind of memory. -/
def supportsMemory (d : Descriptor) : MemoryKind → Bool
  | .ashmem => d.flags.contains Flags.ashmemChannel
  | .gralloc => d.flags.contains Flags.grallocChannel

/-- The highest direct report rate. -/
def highestRate? (d : Descriptor) : Option Rate := Rate.ofLevel? d.flags.directLevel.toNat

/-- Whether a rate is within the declared highest one. -/
def supportsRate (d : Descriptor) (r : Rate) : Bool := r.level ≤ d.flags.directLevel.toNat

/-- A delay in nanoseconds, a negative one counting as none. -/
def delayNs (us : Int32) : Int := max us.toInt 0 * 1000

/-- The shortest sampling interval in nanoseconds. -/
def minDelayNs (d : Descriptor) : Int := delayNs d.minDelay

/-- The longest sampling interval in nanoseconds. -/
def maxDelayNs (d : Descriptor) : Int := delayNs d.maxDelay

/-- A descriptor read from data; all fields have to be there. -/
def decode : Decoder Descriptor := fun x => do
  let s ← Decode.slots ["handle", "name", "vendor", "version", "sensor_type", "type_as_string",
    "max_range", "resolution", "power", "min_delay_us", "fifo_reserved_event_count",
    "fifo_max_event_count", "required_permission", "max_delay_us", "flags"] false x
  let handle ← Decode.required s "handle" Decode.int32
  let name ← Decode.required s "name" Decode.text
  let vendor ← Decode.required s "vendor" Decode.text
  let version ← Decode.required s "version" Decode.int32
  let kind ← Decode.required s "sensor_type" SensorKind.decode
  let kindName ← Decode.required s "type_as_string" Decode.text
  let maxRange ← Decode.required s "max_range" Decode.single
  let resolution ← Decode.required s "resolution" Decode.single
  let power ← Decode.required s "power" Decode.single
  let minDelay ← Decode.required s "min_delay_us" Decode.int32
  let fifoReserved ← Decode.required s "fifo_reserved_event_count" (Decode.unsigned 32)
  let fifoMax ← Decode.required s "fifo_max_event_count" (Decode.unsigned 32)
  let permission ← Decode.required s "required_permission" Decode.text
  let maxDelay ← Decode.required s "max_delay_us" Decode.int32
  let flags ← Decode.required s "flags" (Decode.unsigned 32)
  some {
    handle := Handle.ofInt handle, name, vendor, version := Int32.ofInt version, kind, kindName
    maxRange, resolution, power, minDelay := Int32.ofInt minDelay
    fifoReserved := fifoReserved.toUInt32, fifoMax := fifoMax.toUInt32, permission
    maxDelay := Int32.ofInt maxDelay, flags := ⟨flags.toUInt32⟩ }

/-- A descriptor as data. -/
def toData (d : Descriptor) : Data := .record [
  ("handle", .int d.handle.toInt), ("name", .text d.name), ("vendor", .text d.vendor),
  ("version", .int d.version.toInt), ("sensor_type", d.kind.toData),
  ("type_as_string", .text d.kindName), ("max_range", .single d.maxRange),
  ("resolution", .single d.resolution), ("power", .single d.power),
  ("min_delay_us", .int d.minDelay.toInt), ("fifo_reserved_event_count", .nat d.fifoReserved.toNat),
  ("fifo_max_event_count", .nat d.fifoMax.toNat), ("required_permission", .text d.permission),
  ("max_delay_us", .int d.maxDelay.toInt), ("flags", .nat d.flags.bits.toNat)]

end Descriptor

end SensorBench
