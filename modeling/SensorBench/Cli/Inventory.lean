import SensorBench.Cli.Invocation
import SensorBench.Cli.Output
import SensorBench.Json.Printer
import SensorBench.Sensor.Stock
import SensorBench.Suite.Matrix

/-!
# Inventory

The sensors of the reference HAL and the scenarios, listed for people or as JSON.
-/

set_option autoImplicit false

namespace SensorBench.Cli

open Text (decimal signedDecimal padRight)

/-- A sensor as data. -/
def sensorData (d : Descriptor) : Data :=
  .record ([("handle", .int d.handle.toInt), ("name", .text d.name),
    ("sensor_type", .text d.kind.text), ("reporting_mode", .text d.mode.title),
    ("min_delay_us", .int d.minDelay.toInt), ("max_delay_us", .int d.maxDelay.toInt),
    ("fifo_reserved", .nat d.fifoReserved.toNat), ("fifo_max", .nat d.fifoMax.toNat),
    ("wake_up", .flag d.isWakeUp), ("data_injection", .flag d.isInjectable)] ++
    d.highestRate?.toList.map fun r => ("max_direct_rate", .text r.title))

/-- What sets a sensor apart. -/
def traits (d : Descriptor) : List String :=
  (if d.isWakeUp then ["wake-up"] else []) ++ (if d.isInjectable then ["injection"] else []) ++
    d.highestRate?.toList.map fun r => "direct up to " ++ r.title

/-- The lines on a sensor. -/
def sensorLines (d : Descriptor) : String :=
  "  " ++ d.handle.text ++ "  " ++ padRight 22 d.name ++ " " ++ padRight 20 d.kind.text ++ " " ++
    padRight 10 d.mode.title ++ " delay " ++ signedDecimal d.minDelay.toInt ++ ".." ++
    signedDecimal d.maxDelay.toInt ++ " us, fifo " ++ decimal d.fifoReserved.toNat ++ "/" ++
    decimal d.fifoMax.toNat ++ "\n" ++
    (if traits d = [] then "" else "              " ++ Text.join ", " (traits d) ++ "\n")

/-- The list of sensors. -/
def sensorTable (c : Catalog) : String :=
  "\n=== Sensors (" ++ decimal c.length ++ ") ===\n\n" ++ String.join (c.map sensorLines) ++ "\n"

/-- The list that is asked for. -/
def inventory (o : ListOptions) : Output :=
  .ofText <|
    if o.scenarios then
      let names := Scenario.matrix.map (·.name)
      if o.json then Json.pretty (.list (names.map .text)) ++ "\n"
      else String.join (names.map (· ++ "\n"))
    else if o.json then Json.pretty (.list (Catalog.stock.map sensorData)) ++ "\n"
    else sensorTable .stock

end SensorBench.Cli
