import SensorBench.Direct.Record
import SensorBench.Hal.Call
import SensorBench.Script.Field
import SensorBench.Sensor.Stock

/-!
# Sensors, events, records and calls in scripts

A sensor may be written as a stock sensor with some fields changed, and the
commonest events as short lists.
-/

set_option autoImplicit false

namespace SensorBench.Script

/-- The text that takes a field away from a stock sensor. -/
def missing : String := "\x00missing"

/-- The members of a record with changes: a member takes its new value, or goes if
that is `missing`. -/
def changed (changes : List (String × Data)) : Data → Data
  | .record members => .record (members.filterMap fun (key, old) =>
      match (changes.reverse.lookup key).getD old with
      | .text t => if t = missing then none else some (key, .text t)
      | new => some (key, new))
  | d => d

/-- A sensor: in full, or as a change of the stock sensor numbered `base`. -/
def sensor (x : Data) : Reading Descriptor := do
  match x, x.get? "base" with
  | .record changes, some k => match (count k).bind (Catalog.stock[·]?) with
    | some d => decoded Descriptor.decode (changed changes d.toData)
    | none => .error (.field "base")
  | _, _ => decoded Descriptor.decode x

/-- The sensors of a bench; the stock without any. -/
def sensors (x : Data) : Reading Catalog :=
  match x.get? "sensors" with
  | none | some .null => .ok .stock
  | some _ => items sensor x "sensors"

/-- An event: in full, or as a handle and a time for a zero sample, with a word in
front for a flush marker or a light level. -/
def event (x : Data) : Reading Event := do
  let short (e : Option Event) : Reading Event := match e with
    | some e => .ok e
    | none => .error (.field "event")
  match x with
  | .list [.text "flush", h, t] => short (do some (.flushMarker (← handle h) (← integer t)))
  | .list [.text "light", h, t, v] =>
    short (do some ⟨← handle h, .light, ← integer t, .scalar (← single v)⟩)
  | .list [h, t] =>
    short (do some ⟨← handle h, .accelerometer, ← integer t, .vector (.of 0 0 0)⟩)
  | x => decoded Event.decode x

/-- The behaviour of a HAL; without any mention of it there is no noise. -/
def behaviour (x : Data) : Reading Behaviour := do
  .ok ((← value? (Behaviour.decode 0.0) x "config").getD { noise := 0.0 })

/-- The words that noise is drawn from, over and over. -/
def words (x : Data) : Reading (Nat → UInt32) := do
  let ws ← plain? (Decode.list count) x "rng"
  .ok (Hal.Signal.cycle ((ws.getD []).map (·.toUInt32)).toArray)

/-- A call that needs no memory; none for another name. -/
def call? (name : String) (x : Data) : Reading (Option Call) := do
  match name with
  | "activate" =>
    .ok (some (.activate (← plain handle x "handle") (← plain Decode.bool x "on")))
  | "batch" => .ok (some (.batch (← plain handle x "handle") (← plain integer x "period")
      ((← plain? integer x "latency").getD 0)))
  | "flush" => .ok (some (.flush (← plain handle x "handle")))
  | "mode" => .ok (some (.mode (← value OperationMode.decode x "mode")))
  | "inject" => .ok (some (.inject (← event (← need x "event"))))
  | "unregister" => .ok (some (.unregister (← plain integer x "channel")))
  | "report" => .ok (some (.report (← plain handle x "handle") (← plain integer x "channel")
      (← value Rate.decode x "rate")))
  | _ => .ok none

/-- A record; its size is that of every record unless another is given. -/
def record (x : Data) : Reading Record := do
  let r := Record.of (← plain integer x "token") (← plain integer x "type")
    (← plain count x "counter").toUInt32 (← plain integer x "ts")
    (← plain (Decode.list single) x "values")
  .ok (match ← plain? integer x "size" with
    | some n => { r with size := Int32.ofInt n }
    | none => r)

/-- A series of records at equal distances, counted from one unless told
otherwise. -/
def series (count : Nat) (x : Data) : Reading (List Record) := do
  let token ← plain integer x "token"
  let code ← plain integer x "type"
  let period ← plain integer x "period_ns"
  let values ← plain (Decode.list single) x "values"
  let start := (← plain? integer x "start").getD 0
  let counter := (← plain? Script.count x "counter0").getD 1
  .ok ((List.range count).map fun k =>
    Record.of token code (counter + k).toUInt32 (start + (k + 1) * period) values)

/-- Records, singly and in series. -/
def records (x : Data) : Reading (List Record) := do
  let parts ← (← plain (Decode.list some) x "records").mapM fun item => do
    match ← plain? count item "count" with
    | some n => series n item
    | none => .ok [← record item]
  .ok parts.flatten

/-- A memory to be registered: its kind, its declared size, and the bytes to
allocate for it. -/
def memory (x : Data) : Reading (MemoryKind × Nat × Nat) := do
  let kind ← value MemoryKind.decode x "type"
  let size ← match ← plain? count x "records" with
    | some n => (Record.sizeFor n).mapError .panic
    | none => plain count x "size"
  .ok (kind, (← plain? count x "declared").getD size, (← plain? count x "mem_size").getD size)

end SensorBench.Script
