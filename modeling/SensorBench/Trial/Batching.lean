import SensorBench.Trial.Rate

/-!
# The batching scenario

A sensor at its fastest rate with an unbounded report latency holds its samples
back, and a flush delivers them.
-/

set_option autoImplicit false

namespace SensorBench.Trial

variable {σ : Type}

/-- The shortest batching period worth a test. -/
def leastBatchingPeriod : Int := 1000000000

/-- The time for which the reserved buffer of a sensor lasts. -/
def reservedTime (d : Descriptor) : Int :=
  min (d.fifoReserved.toNat * d.minDelayNs) Hal.greatestTime

/-- Four fifths as a 64-bit number. -/
def fourFifths : Nat × Nat := Number.rounded .double 4 5

/-- A time in seconds as a 64-bit number: the part of a second is rounded, and so is its sum with
the whole seconds. -/
def inSeconds (time : Nat) : Nat × Nat :=
  let (num, den) := Number.rounded .double (time % 1000000000) 1000000000
  Number.rounded .double (time / 1000000000 * den + num) den

/-- Four fifths of a time: its seconds are multiplied as 64-bit numbers, and the product is taken
to the nearest nanosecond. -/
def shareOf (time : Nat) : Nat :=
  let seconds := inSeconds time
  let (num, den) :=
    Number.rounded .double (fourFifths.1 * seconds.1) (fourFifths.2 * seconds.2)
  Number.roundHalfEven (num * 1000000000) den

/-- The samples of the reserved buffer that have to be exceeded: nine in ten. -/
def isShort (d : Descriptor) (actual : Nat) : Bool :=
  actual * 10 ≤ d.fifoReserved.toNat * 9

/-- The default sensor of a kind fills its buffer, and a flush delivers more than
nine tenths of the reserved part to a collector that was there for the second
half of the time. -/
def batching (kind : SensorKind) : Body σ := fun stage =>
  match stage.catalog.defaultSensor? kind with
  | none => skip (noSensor kind)
  | some d =>
    if reservedTime d < leastBatchingPeriod then
      skip ("reserved fifo covers only " ++ Text.signedDecimal (reservedTime d / 1000000) ++ " ms")
    else
      let reserved := d.fifoReserved.toNat
      let period := min (reservedTime d) (ofMillis stage.settings.batching.maxPeriod)
      let share : Int := shareOf period.toNat
      let wait := max (ofMillis stage.settings.timeouts.batchDelivery) (period / 10)
      subscribed stage.host fun _ => guarded stage.host fun host => do
        requirePeriod host d.handle d.minDelayNs Hal.greatestTime
        requireActivate host d.handle true
        host.ask (.sleep (ofMillis stage.settings.batching.init))
        requireFlush host d.handle
        host.ask (.sleep share)
        host.ask .unsubscribe
        subscribed host fun collector => do
          host.ask (.sleep share)
          requireFlush host d.handle
          host.ask (.awaitCount collector d.handle reserved wait)
          requireActivate host d.handle false
          let seen ← host.ask (.delivered collector)
          let actual := Collector.eventCount seen d.handle
          if isShort d actual then
            .violate (.tooFewEvents d.handle (reserved * 9 / 10 + 1) actual)
          else pass
where
  /-- A flush that has to be accepted. -/
  requireFlush (host : Host (Guard × σ)) (h : Handle) : Act (Guard × σ) Unit := do
    let reply ← host.call (.flush h)
    let _ ← requireOk "flush" h.text reply

end SensorBench.Trial
