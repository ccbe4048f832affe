import SensorBench.Data.Decode
import SensorBench.Text.Numeral

/-!
# Behaviour of the reference HAL

A healthy reference HAL keeps every rule of the interface. Each fault breaks one
part of it, so that the scenario guarding that part can be shown to fail.
-/

set_option autoImplicit false

namespace SensorBench

/-- What the reference HAL does differently, and the noise and bias of its
samples. -/
structure Behaviour where
  dropFlushMarkers : Bool := false
  duplicateFlushMarkers : Bool := false
  replayStaleEvents : Bool := false
  acceptInvalidHandles : Bool := false
  accelerometerBias : Float32 := 0.0
  ignoreReinitialize : Bool := false
  rejectDirectChannels : Bool := false
  noise : Float32 := 0.02

/-- A named fault. -/
inductive Fault where
  | dropFlushMarkers
  | duplicateFlushMarkers
  | replayStaleEvents
  | acceptInvalidHandles
  | accelerometerBias
  | ignoreReinitialize
  | rejectDirectChannels
  deriving DecidableEq, Repr, Inhabited

namespace Fault

/-- The faults. -/
def all : List Fault := [dropFlushMarkers, duplicateFlushMarkers, replayStaleEvents,
  acceptInvalidHandles, accelerometerBias, ignoreReinitialize, rejectDirectChannels]

/-- The name of a fault. -/
def name : Fault → String
  | dropFlushMarkers => "drop-flush-markers"
  | duplicateFlushMarkers => "duplicate-flush-markers"
  | replayStaleEvents => "replay-stale-events"
  | acceptInvalidHandles => "accept-invalid-handles"
  | accelerometerBias => "accelerometer-bias"
  | ignoreReinitialize => "ignore-reinitialize"
  | rejectDirectChannels => "reject-direct-channels"

/-- The fault with a name. -/
def ofName? (s : String) : Option Fault := all.find? (·.name = s)

/-- What is said of a name that no fault has. -/
def unknownMessage (s : String) : String :=
  "unknown fault '" ++ s ++ "', expected one of: " ++ Text.join ", " (all.map name)

/-- A fault read from data. -/
def decode : Decoder Fault := Decode.variant (all.map fun f => (f.name, f))

/-- The bias of a faulty accelerometer, beyond what passes for gravity. -/
def bias : Float32 := 3.0

/-- The behaviour with a fault switched on. -/
def apply (b : Behaviour) : Fault → Behaviour
  | dropFlushMarkers => { b with dropFlushMarkers := true }
  | duplicateFlushMarkers => { b with duplicateFlushMarkers := true }
  | replayStaleEvents => { b with replayStaleEvents := true }
  | acceptInvalidHandles => { b with acceptInvalidHandles := true }
  | accelerometerBias => { b with accelerometerBias := bias }
  | ignoreReinitialize => { b with ignoreReinitialize := true }
  | rejectDirectChannels => { b with rejectDirectChannels := true }

/-- Whether a fault is switched on. -/
def isSet (b : Behaviour) : Fault → Bool
  | dropFlushMarkers => b.dropFlushMarkers
  | duplicateFlushMarkers => b.duplicateFlushMarkers
  | replayStaleEvents => b.replayStaleEvents
  | acceptInvalidHandles => b.acceptInvalidHandles
  | accelerometerBias => b.accelerometerBias != 0.0
  | ignoreReinitialize => b.ignoreReinitialize
  | rejectDirectChannels => b.rejectDirectChannels

end Fault

namespace Behaviour

/-- The healthy behaviour with faults switched on. -/
def ofFaults (faults : List Fault) : Behaviour := faults.foldl Fault.apply {}

/-- Whether any fault is switched on. -/
def isFaulty (b : Behaviour) : Bool := Fault.all.any (Fault.isSet b)

/-- Whether two behaviours agree in every field. -/
def same (a b : Behaviour) : Bool :=
  Fault.all.all (fun f => f = .accelerometerBias || f.isSet a == f.isSet b) &&
    a.accelerometerBias == b.accelerometerBias && a.noise == b.noise

/-- A behaviour read from data; fields that are left out are healthy, and the
noise is then as given. -/
def decode (noise : Float32) : Decoder Behaviour := fun x => do
  let s ← Decode.slots ["drop_flush_markers", "duplicate_flush_markers", "replay_stale_events",
    "accept_invalid_handles", "accelerometer_bias", "ignore_reinitialize",
    "reject_direct_channels", "noise"] false x
  some {
    dropFlushMarkers := ← Decode.optional s "drop_flush_markers" false Decode.bool
    duplicateFlushMarkers := ← Decode.optional s "duplicate_flush_markers" false Decode.bool
    replayStaleEvents := ← Decode.optional s "replay_stale_events" false Decode.bool
    acceptInvalidHandles := ← Decode.optional s "accept_invalid_handles" false Decode.bool
    accelerometerBias := ← Decode.optional s "accelerometer_bias" 0.0 Decode.single
    ignoreReinitialize := ← Decode.optional s "ignore_reinitialize" false Decode.bool
    rejectDirectChannels := ← Decode.optional s "reject_direct_channels" false Decode.bool
    noise := ← Decode.optional s "noise" noise Decode.single }

/-- A behaviour as data. -/
def toData (b : Behaviour) : Data := .record [
  ("drop_flush_markers", .flag b.dropFlushMarkers),
  ("duplicate_flush_markers", .flag b.duplicateFlushMarkers),
  ("replay_stale_events", .flag b.replayStaleEvents),
  ("accept_invalid_handles", .flag b.acceptInvalidHandles),
  ("accelerometer_bias", .single b.accelerometerBias),
  ("ignore_reinitialize", .flag b.ignoreReinitialize),
  ("reject_direct_channels", .flag b.rejectDirectChannels),
  ("noise", .single b.noise)]

end Behaviour

end SensorBench
