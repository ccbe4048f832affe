import SensorBench.Config.Settings
import SensorBench.Direct.Rate
import SensorBench.Failure
import SensorBench.Number.Layout
import SensorBench.Number.Word
import SensorBench.Text.Blank

/-!
# Settings that hold together

Least values of single fields first, then the rules that tie fields together.
`fault?` gives the first rule that settings break: among broken minimums the one
whose path is first in the alphabet. The rules that tie fields together begin with
the length of a direct report, which ends the check if it does not fit its word.
-/

set_option autoImplicit false

namespace SensorBench.Settings

/-- A rule that settings break. -/
inductive Fault where
  | tooSmall (path : String) (least : Nat)
  | ringTooSmall (capacity : UInt64) (seconds : Float) (needed : Nat)
  | gapTooLong (gap quiescent : UInt64)
  | blankPattern (list : String) (index : Nat)

namespace Fault

/-- The dotted path of the field at fault. -/
def field : Fault → String
  | tooSmall path _ => path
  | ringTooSmall .. => "direct_report.ring_capacity"
  | gapTooLong .. => "staleness.min_gap_ms"
  | blankPattern list index => "filter." ++ list ++ "[" ++ Text.decimal index ++ "]"

/-- What the field has to satisfy. -/
def reason : Fault → String
  | tooSmall _ least => "must be >= " ++ Text.decimal least
  | ringTooSmall capacity seconds needed =>
    Text.decimal capacity.toNat ++ " records cannot hold " ++ Number.fixedDouble 1 seconds ++
      " s at the very fast rate, need " ++ Text.decimal needed
  | gapTooLong gap quiescent =>
    "min_gap_ms (" ++ Text.decimal gap.toNat ++ ") must be <= quiescent_ms (" ++
      Text.decimal quiescent.toNat ++ ")"
  | blankPattern .. => "pattern cannot be empty"

/-- The fault as a failure. -/
def failure (f : Fault) : Failure := .invalidSetting f.field f.reason

end Fault

/-- A least value of one field. -/
structure Minimum where
  path : String
  least : Nat
  value : Settings → Nat

/-- The least values, in the order of their paths. -/
def minimums : List Minimum := [
  ⟨"batching.max_period_ms", 1000, (·.batching.maxPeriod.toNat)⟩,
  ⟨"direct_report.nominal_test_ms", 100, (·.directReport.nominalTest.toNat)⟩,
  ⟨"direct_report.ring_capacity", 16, (·.directReport.ringCapacity.toNat)⟩,
  ⟨"hot_switch.sample_count", 3, (·.hotSwitch.sampleCount.toNat)⟩,
  ⟨"session.queue_capacity", 1, (·.session.queueCapacity.toNat)⟩,
  ⟨"staleness.min_gap_ms", 1, (·.staleness.minGap.toNat)⟩,
  ⟨"staleness.quiescent_ms", 1, (·.staleness.quiescent.toNat)⟩,
  ⟨"streaming.duration_ms", 10, (·.streaming.duration.toNat)⟩,
  ⟨"timeouts.batch_delivery_ms", 1, (·.timeouts.batchDelivery.toNat)⟩,
  ⟨"timeouts.first_event_ms", 1, (·.timeouts.firstEvent.toNat)⟩,
  ⟨"timeouts.flush_wait_ms", 1, (·.timeouts.flushWait.toNat)⟩,
  ⟨"timeouts.isolation_collection_ms", 1, (·.timeouts.isolationCollection.toNat)⟩]

/-- The first broken minimum. -/
def minimumFault? (s : Settings) : Option Fault :=
  (minimums.find? fun m => m.value s < m.least).map fun m => .tooSmall m.path m.least

/-- The milliseconds of a direct report with its slack, however many they are. -/
def DirectReport.length (d : DirectReport) : Nat := d.nominalTest.toNat + d.initSlack.toNat

/-- The same as the sum that is formed, if it fits its word. -/
def DirectReport.total (d : DirectReport) : Except String Nat :=
  Number.inWord d.length Number.sumOverflow

/-- Some milliseconds in seconds. -/
def secondsIn (milliseconds : Nat) : Float := Number.doubleOfInt milliseconds / 1000.0

/-- The most records that a direct report of some milliseconds may bring at the highest rate. -/
def recordsIn (milliseconds : Nat) : Nat :=
  Number.ceilingCount (Float.ofNat Rate.veryFast.hertz * Rate.highestShare * secondsIn milliseconds)

/-- The memory of a direct report has to hold all its records. -/
def ringFault? (s : Settings) : Option Fault :=
  let d := s.directReport
  if d.ringCapacity.toNat < recordsIn d.length then
    some (.ringTooSmall d.ringCapacity (secondsIn d.length) (recordsIn d.length))
  else none

/-- The pause before a reactivation has to be as long as the gap it shall
prove. -/
def gapFault? (s : Settings) : Option Fault :=
  if s.staleness.quiescent < s.staleness.minGap then
    some (.gapTooLong s.staleness.minGap s.staleness.quiescent)
  else none

/-- The first pattern of a list that is empty or blank. -/
def blankFault? (list : String) (patterns : List String) : Option Fault :=
  (patterns.findIdx? Text.isBlankText).map (.blankPattern list)

/-- The first broken rule among those that tie fields together or look at patterns. -/
def laterFault? (s : Settings) : Option Fault :=
  s.ringFault? <|> s.gapFault? <|> blankFault? "include" s.filter.takes <|>
    blankFault? "exclude" s.filter.drops

/-- The first rule that settings break. -/
def fault? (s : Settings) : Option Fault := s.minimumFault? <|> s.laterFault?

/-- Settings with no minimum broken, checked by the other rules. -/
def checkLater (s : Settings) : Except Failure Settings :=
  match s.directReport.total, s.laterFault? with
  | .error text, _ => .error (.panic text)
  | .ok _, some f => .error f.failure
  | .ok _, none => .ok s

/-- Settings that break no rule, or the failure that names the first broken
one. -/
def check (s : Settings) : Except Failure Settings :=
  match s.minimumFault? with
  | some f => .error f.failure
  | none => s.checkLater

end SensorBench.Settings
