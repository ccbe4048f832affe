import SensorBench.Sensor.Validity

/-!
# Sensor catalogs

The sensors of a device in list order, and the selections that scenarios make
from them.
-/

set_option autoImplicit false

namespace SensorBench

/-- A list of sensors as a device gives it; handles may repeat. -/
abbrev Catalog := List Descriptor

namespace Catalog

/-- The first sensor with a handle. -/
def sensor? (c : Catalog) (h : Handle) : Option Descriptor := c.find? (·.handle = h)

/-- The first sensor of a kind. -/
def defaultSensor? (c : Catalog) (k : SensorKind) : Option Descriptor := c.find? (·.kind = k)

/-- The sensors of a kind. -/
def ofKind (c : Catalog) (k : SensorKind) : Catalog := c.filter (·.kind = k)

/-- The sensors with a reporting mode. -/
def ofMode (c : Catalog) (m : ReportingMode) : Catalog := c.filter (·.mode = m)

/-- The sensors that report once. -/
def oneShot (c : Catalog) : Catalog := c.ofMode .oneShot

/-- The sensors that report more than once. -/
def nonOneShot (c : Catalog) : Catalog := c.filter fun d => !d.isOneShot

/-- The sensors with a regular stream of events. -/
def streaming (c : Catalog) : Catalog := c.filter (·.isStreaming)

/-- The sensors that take injected samples. -/
def injectable (c : Catalog) : Catalog := c.filter (·.isInjectable)

/-- The greatest of the listed handles and zero. -/
def greatestHandle (c : Catalog) : Handle :=
  c.foldl (fun acc d => if acc < d.handle then d.handle else acc) (Handle.ofInt 0)

/-- The first handle at or below a number that no sensor has, within a number of
tries. -/
def freeBelow (c : Catalog) : Nat → Int → Handle
  | 0, _ => Handle.ofInt 0
  | tries + 1, n =>
    if (c.sensor? (Handle.ofInt n)).isNone then Handle.ofInt n else freeBelow c tries (n - 1)

/-- A handle that no listed sensor has: the one after the greatest, or if that
is taken the greatest free one. Of `n + 1` handles one is free, so that many
tries suffice. -/
def invalidHandle (c : Catalog) : Handle :=
  let after := c.greatestHandle.next
  if (c.sensor? after).isNone then after else c.freeBelow (c.length + 1) (Handle.greatest.toInt - 1)

/-- The largest of the shortest sampling intervals, zero if there is none. -/
def slowestMinDelayNs (c : Catalog) : Int := c.foldl (fun acc d => max acc d.minDelayNs) 0

/-- The first listed sensor that is not well-formed, with its fault. -/
def fault? (c : Catalog) : Option (Descriptor × Descriptor.Fault) :=
  c.findSome? fun d => d.fault?.map fun f => (d, f)

end Catalog

end SensorBench
