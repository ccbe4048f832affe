import SensorBench.Data.Decode
import SensorBench.Text.Glob

/-!
# Settings of a run

The times, sizes and selections of a run. Every field has a default, so any part
of the settings may be left out of a text.
-/

set_option autoImplicit false

namespace SensorBench

namespace Settings

/-- How long to wait for what, in milliseconds. -/
structure Timeouts where
  flushWait : UInt64 := 1000
  firstEvent : UInt64 := 500
  isolationCollection : UInt64 := 1000
  batchDelivery : UInt64 := 1000
  deriving DecidableEq, Repr

/-- The length of the streaming scenarios in milliseconds. -/
structure Streaming where
  duration : UInt64 := 5000
  deriving DecidableEq, Repr

/-- The rate switch scenarios: a pause in milliseconds and the number of samples
to measure. -/
structure HotSwitch where
  settle : UInt64 := 500
  sampleCount : UInt32 := 50
  deriving DecidableEq, Repr

/-- The batching scenarios, in milliseconds. -/
structure Batching where
  init : UInt64 := 500
  maxPeriod : UInt64 := 5000
  deriving DecidableEq, Repr

/-- The direct report scenarios: times in milliseconds and the records that the
memory holds. -/
structure DirectReport where
  nominalTest : UInt64 := 1000
  initSlack : UInt64 := 500
  ringCapacity : UInt64 := 4096
  deriving DecidableEq, Repr

/-- The staleness scenario, in milliseconds. -/
structure Staleness where
  quiescent : UInt64 := 1000
  minGap : UInt64 := 500
  deriving DecidableEq, Repr

/-- The injection scenario, in milliseconds. -/
structure Injection where
  delay : UInt64 := 100
  deriving DecidableEq, Repr

/-- A session: the batches that its queue holds. -/
structure Session where
  queueCapacity : UInt64 := 256
  deriving DecidableEq, Repr

/-- Which scenarios run: patterns of names to take, all if there are none, and
patterns of names to leave out. -/
structure Filter where
  takes : List String := []
  drops : List String := []
  deriving DecidableEq, Repr

/-- Whether a scenario is selected by its name. -/
def Filter.selects (f : Filter) (name : String) : Bool :=
  (f.takes.isEmpty || f.takes.any (Text.Glob.accepts · name)) && !f.drops.any (Text.Glob.accepts · name)

end Settings

open Settings in
/-- The settings of a run. -/
structure Settings where
  timeouts : Timeouts := {}
  streaming : Streaming := {}
  hotSwitch : HotSwitch := {}
  batching : Batching := {}
  directReport : DirectReport := {}
  staleness : Staleness := {}
  injection : Injection := {}
  session : Session := {}
  filter : Filter := {}
  deriving DecidableEq, Repr

namespace Settings

/-! ## Reading

`surplus` says whether a list given for a record may have more items than the
record has fields. -/

/-- A 64-bit count. -/
def word64 : Decoder UInt64 := fun x => (Decode.unsigned 64 x).map Nat.toUInt64

/-- A 32-bit count. -/
def word32 : Decoder UInt32 := fun x => (Decode.unsigned 32 x).map Nat.toUInt32

/-- Timeouts read from data. -/
def Timeouts.decode (surplus : Bool) : Decoder Timeouts := fun x => do
  let s ← Decode.slots ["flush_wait_ms", "first_event_ms", "isolation_collection_ms",
    "batch_delivery_ms"] surplus x
  let d : Timeouts := {}
  some {
    flushWait := ← Decode.optional s "flush_wait_ms" d.flushWait word64
    firstEvent := ← Decode.optional s "first_event_ms" d.firstEvent word64
    isolationCollection :=
      ← Decode.optional s "isolation_collection_ms" d.isolationCollection word64
    batchDelivery := ← Decode.optional s "batch_delivery_ms" d.batchDelivery word64 }

/-- Streaming settings read from data. -/
def Streaming.decode (surplus : Bool) : Decoder Streaming := fun x => do
  let s ← Decode.slots ["duration_ms"] surplus x
  let d : Streaming := {}
  some { duration := ← Decode.optional s "duration_ms" d.duration word64 }

/-- Rate switch settings read from data. -/
def HotSwitch.decode (surplus : Bool) : Decoder HotSwitch := fun x => do
  let s ← Decode.slots ["settle_ms", "sample_count"] surplus x
  let d : HotSwitch := {}
  some {
    settle := ← Decode.optional s "settle_ms" d.settle word64
    sampleCount := ← Decode.optional s "sample_count" d.sampleCount word32 }

/-- Batching settings read from data. -/
def Batching.decode (surplus : Bool) : Decoder Batching := fun x => do
  let s ← Decode.slots ["init_ms", "max_period_ms"] surplus x
  let d : Batching := {}
  some {
    init := ← Decode.optional s "init_ms" d.init word64
    maxPeriod := ← Decode.optional s "max_period_ms" d.maxPeriod word64 }

/-- Direct report settings read from data. -/
def DirectReport.decode (surplus : Bool) : Decoder DirectReport := fun x => do
  let s ← Decode.slots ["nominal_test_ms", "init_slack_ms", "ring_capacity"] surplus x
  let d : DirectReport := {}
  some {
    nominalTest := ← Decode.optional s "nominal_test_ms" d.nominalTest word64
    initSlack := ← Decode.optional s "init_slack_ms" d.initSlack word64
    ringCapacity := ← Decode.optional s "ring_capacity" d.ringCapacity word64 }

/-- Staleness settings read from data. -/
def Staleness.decode (surplus : Bool) : Decoder Staleness := fun x => do
  let s ← Decode.slots ["quiescent_ms", "min_gap_ms"] surplus x
  let d : Staleness := {}
  some {
    quiescent := ← Decode.optional s "quiescent_ms" d.quiescent word64
    minGap := ← Decode.optional s "min_gap_ms" d.minGap word64 }

/-- Injection settings read from data. -/
def Injection.decode (surplus : Bool) : Decoder Injection := fun x => do
  let s ← Decode.slots ["delay_ms"] surplus x
  let d : Injection := {}
  some { delay := ← Decode.optional s "delay_ms" d.delay word64 }

/-- Session settings read from data. -/
def Session.decode (surplus : Bool) : Decoder Session := fun x => do
  let s ← Decode.slots ["queue_capacity"] surplus x
  let d : Session := {}
  some { queueCapacity := ← Decode.optional s "queue_capacity" d.queueCapacity word64 }

/-- A selection read from data. -/
def Filter.decode (surplus : Bool) : Decoder Filter := fun x => do
  let s ← Decode.slots ["include", "exclude"] surplus x
  some {
    takes := ← Decode.optional s "include" [] (Decode.list Decode.text)
    drops := ← Decode.optional s "exclude" [] (Decode.list Decode.text) }

/-- Settings read from data. -/
def decode (surplus : Bool) : Decoder Settings := fun x => do
  let s ← Decode.slots ["timeouts", "streaming", "hot_switch", "batching", "direct_report",
    "staleness", "injection", "session", "filter"] surplus x
  some {
    timeouts := ← Decode.optional s "timeouts" {} (Timeouts.decode surplus)
    streaming := ← Decode.optional s "streaming" {} (Streaming.decode surplus)
    hotSwitch := ← Decode.optional s "hot_switch" {} (HotSwitch.decode surplus)
    batching := ← Decode.optional s "batching" {} (Batching.decode surplus)
    directReport := ← Decode.optional s "direct_report" {} (DirectReport.decode surplus)
    staleness := ← Decode.optional s "staleness" {} (Staleness.decode surplus)
    injection := ← Decode.optional s "injection" {} (Injection.decode surplus)
    session := ← Decode.optional s "session" {} (Session.decode surplus)
    filter := ← Decode.optional s "filter" {} (Filter.decode surplus) }

/-! ## Writing -/

/-- A count as data. -/
def count (n : UInt64) : Data := .nat n.toNat

/-- The settings as data. -/
def toData (s : Settings) : Data := .record [
  ("timeouts", .record [
    ("flush_wait_ms", count s.timeouts.flushWait),
    ("first_event_ms", count s.timeouts.firstEvent),
    ("isolation_collection_ms", count s.timeouts.isolationCollection),
    ("batch_delivery_ms", count s.timeouts.batchDelivery)]),
  ("streaming", .record [("duration_ms", count s.streaming.duration)]),
  ("hot_switch", .record [
    ("settle_ms", count s.hotSwitch.settle),
    ("sample_count", .nat s.hotSwitch.sampleCount.toNat)]),
  ("batching", .record [
    ("init_ms", count s.batching.init),
    ("max_period_ms", count s.batching.maxPeriod)]),
  ("direct_report", .record [
    ("nominal_test_ms", count s.directReport.nominalTest),
    ("init_slack_ms", count s.directReport.initSlack),
    ("ring_capacity", count s.directReport.ringCapacity)]),
  ("staleness", .record [
    ("quiescent_ms", count s.staleness.quiescent),
    ("min_gap_ms", count s.staleness.minGap)]),
  ("injection", .record [("delay_ms", count s.injection.delay)]),
  ("session", .record [("queue_capacity", count s.session.queueCapacity)]),
  ("filter", .record [
    ("include", .list (s.filter.takes.map .text)),
    ("exclude", .list (s.filter.drops.map .text))])]

end Settings

end SensorBench
