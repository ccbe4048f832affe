import SensorBench.Trial.Basic

/-!
# Scenarios about old events

No event of an earlier activation is delivered after the next one, and no event
of an earlier session after a new connection.
-/

set_option autoImplicit false

namespace SensorBench.Trial

variable {σ : Type}

/-! ## Reactivation -/

/-- All sensors run until each has delivered or the time is over. -/
def runOnce (host : Host (Guard × σ)) (collector : Nat) (sensors : Catalog) (time : Int) :
    Act (Guard × σ) Unit := do
  Guard.activateAll host sensors true
  host.ask (.awaitEvents collector (sensors.map (·.handle)) time)
  Guard.activateAll host sensors false

/-- The time of one of a sensor's events; there has to be one. -/
def requireTime (d : Descriptor) (window : String) : Option Event → Act σ Int
  | some e => .value e.time
  | none => .violate (.noEvents d.handle window)

/-- The last times of all sensors, with their handles. Each sensor's events are asked for in
turn. -/
def lastTimes (host : Host σ) (collector : Nat) : Catalog → Act σ (List (Handle × Int))
  | [] => .value []
  | d :: rest => do
    let seen ← host.ask (.delivered collector)
    let time ← requireTime d "before deactivation" (Collector.events seen d.handle).getLast?
    let times ← lastTimes host collector rest
    return (d.handle, time) :: times

/-- The gap that a sensor has to keep between its last event before a pause and
its first one after it. -/
def requiredGap (settings : Settings) (d : Descriptor) : Int :=
  min (ofMillis settings.staleness.minGap) Hal.greatestTime + 3 * d.minDelayNs

/-- A sensor's first event after a pause has to be clearly later than its last one before. -/
def checkGap (host : Host σ) (collector : Nat) (settings : Settings)
    (times : List (Handle × Int)) (d : Descriptor) : Act σ Unit := do
  let seen ← host.ask (.delivered collector)
  let first ← requireTime d "after reactivation" (Collector.events seen d.handle).head?
  let delta := first - (times.reverse.lookup d.handle).getD 0
  if delta < requiredGap settings d then
    .violate (.staleEvent d.handle delta (requiredGap settings d))
  else .value ()

/-- All sensors run, rest for a while and run again, and the gap of each is checked. -/
def noStaleEvents : Body σ := fun stage =>
  let sensors := stage.catalog.streaming
  if sensors.isEmpty then skip "no continuous or on-change sensors"
  else
    let slack := 5 * Catalog.slowestMinDelayNs sensors
    let wait := ofMillis stage.settings.timeouts.firstEvent + slack
    let pause := ofMillis stage.settings.staleness.quiescent + slack
    subscribed stage.host fun collector => guarded stage.host fun host => do
      runOnce host collector sensors wait
      let times ← lastTimes host collector sensors
      host.ask (.sleep pause)
      host.ask (.reset collector)
      runOnce host collector sensors wait
      Act.each sensors (checkGap host collector stage.settings times)
      return .passed

/-! ## Reconnection -/

/-- The session under test connected again; a rejection is a violation. -/
def reconnect (host : Host σ) (settings : Settings) : Act σ Unit := do
  match ← host.ask (.reconnect settings.session.queueCapacity) with
  | .ok () => .value ()
  | .error status => .violate (.session (.refusedQueue status))

/-- An act after which the session under test is connected again, unless the act
has said that it was. A rejection at the end is passed over. -/
def restoring {α : Type} (host : Host σ) (settings : Settings) (body : Act (Bool × σ) α) :
    Act σ α :=
  .alongside false body fun restored =>
    if restored then .value ()
    else .andThen (host.ask (.reconnect settings.session.queueCapacity)) fun _ => .value ()

/-- The note that the session under test has been connected again. -/
def noteRestored : Act (Bool × σ) Unit := fun (_, s) => (.ok (), (true, s))

/-- A second session for the time of an act. -/
def withFreshSession {α : Type} (host : Host σ) (settings : Settings) (body : Nat → Act σ α) :
    Act σ α := do
  match ← host.ask (.connect settings.session.queueCapacity) with
  | .ok session => .endingWith (body session) (host.ask (.tearDown session))
  | .error status => .violate (.session (.refusedQueue status))

/-- While a second session is connected it receives all events and the first one
none; connected again, the first one receives events. -/
def callInitializeTwice : Body σ := fun stage =>
  if stage.catalog.isEmpty then skip "no sensors"
  else
    let sensors := stage.catalog
    let window := ofMillis stage.settings.timeouts.isolationCollection
    restoring stage.host stage.settings (withFreshSession stage.host.beside stage.settings
      fun fresh => do
        let host : Host (Bool × σ) := stage.host.beside
        guarded host fun host => do
          Guard.activateAll host sensors true
          let stale ← host.ask (.gather 0 window 1)
          if !List.isEmpty stale then
            Act.violate (.staleSession (List.length stale))
          let news ← host.ask (.gather fresh window 1)
          if List.isEmpty news then
            Act.violate (.sessionStarved "fresh")
          Guard.activateAll host sensors false
        host.ask (.tearDown fresh)
        noteRestored
        reconnect host stage.settings
        guarded host fun host => do
          Guard.activateAll host sensors true
          let restored ← host.ask (.gather 0 window 1)
          Guard.activateAll host sensors false
          if List.isEmpty restored then
            Act.violate (.sessionStarved "restored")
          return .passed)

end SensorBench.Trial
