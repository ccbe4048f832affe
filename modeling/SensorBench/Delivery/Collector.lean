import SensorBench.Event.Basic

/-!
# Collectors

A collector sorts delivered events by sensor: samples are kept, flush markers
counted, and everything is tallied by class. A batch is taken in by three
sections, each of which holds its own lock: markers first, then samples, then
the tallies.
-/

set_option autoImplicit false

namespace SensorBench

/-- How many events of each class came in, and in how many batches. -/
structure Tallies where
  samples : Nat
  markers : Nat
  others : Nat
  batches : Nat
  deriving DecidableEq, Repr

/-- All events that came in. -/
def Tallies.total (t : Tallies) : Nat := t.samples + t.markers + t.others

/-- What has been delivered: flush markers counted and samples kept for each
sensor, and the tallies. -/
structure Collector where
  markers : List (Handle × Nat)
  samples : List (Handle × Array Event)
  tallies : Tallies

namespace Collector

/-- A collector that has seen nothing. -/
def empty : Collector := ⟨[], [], ⟨0, 0, 0, 0⟩⟩

/-- An entry changed, the given value taken for one that is missing. -/
def adjust {α : Type} (h : Handle) (missing : α) (f : α → α) : List (Handle × α) → List (Handle × α)
  | [] => [(h, f missing)]
  | (k, a) :: rest => if k = h then (k, f a) :: rest else (k, a) :: adjust h missing f rest

/-- The flush markers seen for a sensor. -/
def flushCount (c : Collector) (h : Handle) : Nat := (c.markers.lookup h).getD 0

/-- The samples of a sensor, in the order of delivery. -/
def events (c : Collector) (h : Handle) : List Event := ((c.samples.lookup h).getD #[]).toList

/-- The number of samples of a sensor. -/
def eventCount (c : Collector) (h : Handle) : Nat := ((c.samples.lookup h).getD #[]).size

/-- The first section of a delivery: markers are counted. -/
def countMarkers (c : Collector) (batch : List Event) : Collector :=
  let count (acc : List (Handle × Nat)) (e : Event) := adjust e.handle 0 (· + 1) acc
  { c with markers := (batch.filter (·.isFlushMarker)).foldl count c.markers }

/-- The second section of a delivery: samples are kept. -/
def keepSamples (c : Collector) (batch : List Event) : Collector :=
  let keep (acc : List (Handle × Array Event)) (e : Event) := adjust e.handle #[] (·.push e) acc
  { c with samples := (batch.filter (·.isSample)).foldl keep c.samples }

/-- The last section of a delivery: the tallies go up. -/
def tally (c : Collector) (batch : List Event) : Collector :=
  let t := c.tallies
  { c with tallies := {
      samples := t.samples + batch.countP (·.isSample)
      markers := t.markers + batch.countP (·.isFlushMarker)
      others := t.others + batch.countP fun e => !e.isSample && !e.isFlushMarker
      batches := t.batches + 1 } }

/-- The collector after a whole batch. -/
def deliver (c : Collector) (batch : List Event) : Collector :=
  ((c.countMarkers batch).keepSamples batch).tally batch

/-- The collector after a single event. -/
def deliverOne (c : Collector) (e : Event) : Collector := c.deliver [e]

/-! ## What is waited for -/

/-- Whether every listed sensor has at least some number of flush markers. -/
def hasFlushes (handles : List Handle) (count : Nat) (c : Collector) : Bool :=
  handles.all fun h => count ≤ c.flushCount h

/-- Whether every listed sensor has a sample. -/
def hasEvents (handles : List Handle) (c : Collector) : Bool :=
  handles.all fun h => 0 < c.eventCount h

/-- Whether a sensor has at least some number of samples. -/
def hasCount (h : Handle) (count : Nat) (c : Collector) : Bool := count ≤ c.eventCount h

end Collector

end SensorBench
