import SensorBench.Direct.Rate
import SensorBench.Direct.Record
import SensorBench.Hal.Schedule
import SensorBench.Hal.Signal

/-!
# Direct channels

A channel writes records into a ring of slots in shared memory, one slot after
the other whichever report a record belongs to. Each report has its own schedule
and its own counter.
-/

set_option autoImplicit false

namespace SensorBench.Hal

/-- One sensor reporting into a channel. `counter` is that of the next record. -/
structure DirectReport where
  token : Int
  kind : SensorKind
  period : Int
  nextDue : Int
  counter : UInt32

/-- A direct channel: the memory it was registered with, by number, the size that
was declared for it, how many records it has written, and its reports in the
order of their sensors' handles. -/
structure Channel where
  memoryKind : MemoryKind
  size : Nat
  memory : Nat
  written : Nat
  reports : List (Handle × DirectReport)

namespace DirectReport

/-- The counter after a counter; zero is left out. -/
def nextCounter (c : UInt32) : UInt32 := max (c + 1) 1

/-- The records of a report at some times, the counters going on from its own. -/
def recordsAt (r : DirectReport) (counter : UInt32) : List Int → List Payload → List Record
  | t :: times, p :: payloads =>
    Record.of r.token r.kind.code counter t p.values ::
      recordsAt r (nextCounter counter) times payloads
  | _, _ => []

/-- The counter after some records. -/
def counterAfter (c : UInt32) : Nat → UInt32
  | 0 => c
  | n + 1 => counterAfter (nextCounter c) n

/-- The records due up to `now`. -/
def advance (r : DirectReport) (now : Int) (signal : Signal) :
    List Record × DirectReport × Signal :=
  let times := dueTimes r.nextDue r.period now
  let (payloads, signal) := signal.payloads r.kind times
  (r.recordsAt r.counter times payloads,
    { r with
      nextDue := dueAfter r.nextDue r.period now
      counter := counterAfter r.counter times.length },
    signal)

end DirectReport

namespace Channel

/-- The number of slots of the ring. -/
def capacity (c : Channel) : Nat := Record.capacityOf c.size

/-- The records that several reports bring up to `now`, report after report. -/
def reportsAdvance (now : Int) (signal : Signal) :
    List (Handle × DirectReport) → List Record × List (Handle × DirectReport) × Signal
  | [] => ([], [], signal)
  | (h, r) :: rest =>
    let (records, r, signal) := r.advance now signal
    let (more, rest, signal) := reportsAdvance now signal rest
    (records ++ more, (h, r) :: rest, signal)

/-- A region with records put into consecutive slots of a ring, the number of the
first one given. -/
def writeRing (capacity : Nat) (region : Region) (number : Nat) : List Record → Region
  | [] => region
  | r :: rest =>
    writeRing capacity (region.put (number % capacity * Record.width) r.encode) (number + 1) rest

/-- The channel and its records up to `now`; a ring without slots takes none. -/
def advance (c : Channel) (now : Int) (signal : Signal) : List Record × Channel × Signal :=
  if c.capacity = 0 then ([], c, signal)
  else
    let (records, reports, signal) := reportsAdvance now signal c.reports
    (records, { c with written := c.written + records.length, reports }, signal)

/-- The sums that are formed while the reports go on up to `now`. -/
def reportSums (c : Channel) (now : Int) : List Int :=
  if c.capacity = 0 then [] else c.reports.flatMap fun p => dueSums p.2.nextDue p.2.period now

/-- The next time at which a report is due. -/
def deadline? (c : Channel) : Option Int := (c.reports.map (·.2.nextDue)).min?

/-- The report of a sensor. -/
def report? (c : Channel) (h : Handle) : Option DirectReport := c.reports.lookup h

/-- The reports with one set, in the order of handles. -/
def setReport (h : Handle) (r : DirectReport) :
    List (Handle × DirectReport) → List (Handle × DirectReport)
  | [] => [(h, r)]
  | (k, q) :: rest =>
    if h = k then (h, r) :: rest
    else if h < k then (h, r) :: (k, q) :: rest
    else (k, q) :: setReport h r rest

end Channel

end SensorBench.Hal
