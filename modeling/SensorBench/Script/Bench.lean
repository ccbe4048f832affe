import SensorBench.Bench.World
import SensorBench.Script.Subject

/-!
# Benches in scripts

The playbook of a bench and the bench itself.
-/

set_option autoImplicit false

namespace SensorBench.Script

open Bench

/-- What a rule answers: a number, a status, or a panic. -/
def effect (x : Data) : Reading Effect := do
  match ← plain? Decode.text x "status" with
  | some "OK" => .ok (.reply (.ok 0))
  | some "PANIC" => .ok .panic
  | some name => match Status.ofName? name with
    | some s => .ok (.reply (.error s))
    | none => .error (.field "status")
  | none => .ok (.reply (.ok (← plain integer x "value")))

/-- A rule. -/
def rule (x : Data) : Reading Rule := do
  .ok {
    call := ← plain Decode.text x "call"
    handle := ← plain? handle x "handle"
    on := ← plain? Decode.bool x "on"
    mode := ← value? OperationMode.decode x "mode"
    memory := ← value? MemoryKind.decode x "type"
    channel := ← plain? integer x "channel"
    rate := ← value? Rate.decode x "rate"
    nth := ← plain? count x "nth"
    effect := ← effect x }

/-- A change of events. -/
def tamper (x : Data) : Reading Tamper := do
  .ok {
    handle := ← plain handle x "handle"
    nth := ← plain? count x "nth"
    limit := ← plain? count x "limit"
    kind := ← value? SensorKind.decode x "sensor_type"
    payload := ← value? Payload.decode x "payload"
    shift := ← plain? integer x "shift_ns" }

/-- Bytes put into memory. -/
def poke (x : Data) : Reading Poke := do
  .ok ⟨← plain Decode.text x "on", ← plain count x "offset", ← plain bytes x "hex"⟩

/-- The times that pass after calls. -/
def after (x : Data) : Reading (List (String × Int)) :=
  match x.get? "after" with
  | none | some .null => .ok []
  | some (.record members) => members.mapM fun (cue, t) => match integer t with
    | some t => .ok (cue, t)
    | none => .error (.field "after")
  | some _ => .error (.field "after")

/-- The pace of a bench: still without a ticker, whose interval is in milliseconds
and whose step in nanoseconds. -/
def pace (x : Data) : Reading Pace :=
  match x.get? "ticker" with
  | none | some .null => .ok .still
  | some t => do
    .ok (.ticking ((← plain integer t "ms") * 1000000) (← plain integer t "ns"))

/-- A playbook. -/
def playbook (x : Data) : Reading Playbook := do
  .ok {
    rules := ← items rule x "rules"
    after := ← after x
    tampers := ← items tamper x "tamper"
    silent := (← plain? (Decode.list count) x "silent_inits").getD []
    pokes := ← items poke x "poke"
    pace := ← pace x }

/-- A bench before any call. -/
def world (x : Data) : Reading World := do
  .ok (.start (← sensors x) (← behaviour x) (← words x)
    ((← plain? integer x "clock").getD 0) false (← playbook x))

end SensorBench.Script
