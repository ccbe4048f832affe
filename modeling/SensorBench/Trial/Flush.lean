import SensorBench.Trial.Basic

/-!
# Flush scenarios

A flush of an active sensor that reports more than once is accepted and answered
by exactly one marker. A flush of any other sensor is rejected and brings none.
-/

set_option autoImplicit false

namespace SensorBench.Trial

variable {σ : Type}

/-- What one flush test expects: whether the sensors are switched on, how often
each is flushed, how many markers each brings, and the status of every
flush. -/
structure FlushTest where
  active : Bool
  flushes : Nat
  markers : Nat
  status : Option Status

/-- One sensor set to its slowest rate, switched as the test says, flushed and
switched off. -/
def flushOne (test : FlushTest) (host : Host (Guard × σ)) (d : Descriptor) :
    Act (Guard × σ) Unit := do
  let _ ← host.call (.batch d.handle d.maxDelayNs 0)
  let _ ← Guard.call host (.activate d.handle test.active)
  Act.each (List.range test.flushes) fun _ => do
    let reply ← host.call (.flush d.handle)
    requireStatus "flush" d.handle.text test.status reply
  let _ ← Guard.call host (.activate d.handle false)

/-- All sensors flushed, and then the markers of each counted. -/
def flushTest (stage : Stage σ) (sensors : Catalog) (test : FlushTest) : Act σ Unit :=
  subscribed stage.host fun collector => do
    guarded stage.host fun host => Act.each sensors (flushOne test host)
    stage.host.ask (.awaitFlushes collector (sensors.map (·.handle)) test.flushes
      (ofMillis stage.settings.timeouts.flushWait))
    Act.each sensors fun d => do
      let seen ← stage.host.ask (.delivered collector)
      let actual := Collector.flushCount seen d.handle
      if actual = test.markers then .value ()
      else .violate (.flushCount d.handle test.markers actual)

/-- One flush, and then five, on every active sensor that reports more than
once. -/
def flushSensor : Body σ := fun stage =>
  let sensors := stage.catalog.nonOneShot
  if sensors.isEmpty then skip "no non-one-shot sensors"
  else do
    flushTest stage sensors ⟨true, 1, 1, none⟩
    flushTest stage sensors ⟨true, 5, 5, none⟩
    return .passed

/-- A flush of one-shot sensors is rejected. -/
def flushOneShotSensor : Body σ := fun stage =>
  let sensors := stage.catalog.oneShot
  if sensors.isEmpty then skip "no one-shot sensors"
  else do
    flushTest stage sensors ⟨true, 1, 0, some .badValue⟩
    return .passed

/-- A flush of sensors that are off is rejected. -/
def flushInactiveSensor : Body σ := fun stage =>
  let repeating := stage.catalog.nonOneShot
  let sensors := if repeating.isEmpty then stage.catalog.oneShot else repeating
  if sensors.isEmpty then skip "no sensors"
  else do
    flushTest stage sensors ⟨false, 1, 0, some .badValue⟩
    return .passed

/-- A flush of an unknown handle is rejected. -/
def flushNonexistentSensor : Body σ := fun stage =>
  match stage.catalog.nonOneShot.head? <|> stage.catalog.oneShot.head? with
  | none => skip "no sensors"
  | some d => do
    flushTest stage [{ d with handle := stage.catalog.invalidHandle }]
      ⟨false, 1, 0, some .badValue⟩
    return .passed

end SensorBench.Trial
