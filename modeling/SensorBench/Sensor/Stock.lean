import SensorBench.Sensor.Catalog

/-!
# The stock catalog

The five sensors of the reference device: an accelerometer that takes injected
samples, a gyroscope and a magnetometer with direct report, a light sensor that
reports on change, and a one-shot motion sensor that wakes the host.
-/

set_option autoImplicit false

namespace SensorBench.Catalog

/-- A stock sensor; the canonical name follows from the kind. -/
def stockSensor (handle : Int) (name : String) (kind : SensorKind)
    (range resolution power : Float32) (delays : Int × Int) (fifo : UInt32 × UInt32)
    (flags : Flags) : Descriptor :=
  { handle := Handle.ofInt handle, name, vendor := "sensors-vts", version := 1, kind
    kindName := kind.canonicalName?.getD "", maxRange := range, resolution, power
    minDelay := Int32.ofInt delays.1, fifoReserved := fifo.1, fifoMax := fifo.2
    permission := "", maxDelay := Int32.ofInt delays.2, flags }

/-- The flags of a sensor that reports into both kinds of memory. -/
def bothMemories : UInt32 := Flags.ashmemChannel ||| Flags.grallocChannel

/-- The sensors of the reference device. -/
def stock : Catalog := [
  stockSensor 1 "Mock Accelerometer" .accelerometer 39.2266 0.0012 0.15 (5000, 200000) (300, 3000)
    (((Flags.ofMode .continuous).add (Flags.dataInjection ||| bothMemories)).setDirectLevel 3),
  stockSensor 2 "Mock Gyroscope" .gyroscope 34.9066 0.001 0.45 (5000, 200000) (300, 3000)
    (((Flags.ofMode .continuous).add bothMemories).setDirectLevel 3),
  stockSensor 3 "Mock Magnetometer" .magneticField 1300.0 0.15 0.6 (10000, 200000) (150, 3000)
    (((Flags.ofMode .continuous).add Flags.ashmemChannel).setDirectLevel 2),
  stockSensor 4 "Mock Light" .light 43000.0 1.0 0.1 (100000, 1000000) (0, 0)
    (Flags.ofMode .onChange),
  stockSensor 5 "Mock Significant Motion" .significantMotion 1.0 1.0 0.3 (-1, 0) (0, 0)
    ((Flags.ofMode .oneShot).add Flags.wakeUp)]

end SensorBench.Catalog
