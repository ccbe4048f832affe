import SensorBench.Hal.Channel
import SensorBench.Hal.Sampler
import SensorBench.Hal.Status
import SensorBench.Sensor.Catalog

/-!
# The reference HAL

The whole state of the reference HAL and its one step of time: `advance` runs
every schedule up to a clock value and gives the batch to deliver. A call either
is rejected with a status or gives the next state, so a rejected call changes
nothing.
-/

set_option autoImplicit false

namespace SensorBench

open Hal in
/-- The state of the reference HAL. Sensors are in the order of their handles,
channels in the order of their registration; `queue` is the event queue in use,
by number, `waiting` what goes out first in the next batch, and `memory` the
regions shared with the client. -/
structure Hal where
  sensors : List Sampler
  mode : OperationMode
  queue : Option Nat
  waiting : List Item
  channels : List (Int × Channel)
  nextChannel : Int
  nextToken : Int
  memory : Array Region
  signal : Signal

namespace Hal

/-- Sensors with one more, which replaces an earlier one with its handle. -/
def insertSampler (s : Sampler) : List Sampler → List Sampler
  | [] => [s]
  | t :: rest =>
    if s.handle = t.handle then s :: rest
    else if s.handle < t.handle then s :: t :: rest
    else t :: insertSampler s rest

/-- The HAL of a catalog before any call. -/
def ofCatalog (c : Catalog) (signal : Signal) : Hal :=
  { sensors := c.foldl (fun acc d => insertSampler (.initial d) acc) [], mode := .normal
    queue := none, waiting := [], channels := [], nextChannel := 1, nextToken := 1
    memory := #[], signal }

/-- The sensors as the HAL lists them. -/
def catalog (hal : Hal) : Catalog := hal.sensors.map (·.descriptor)

/-- The sensor with a handle. -/
def sensor? (hal : Hal) (h : Handle) : Option Sampler := hal.sensors.find? (·.handle = h)

/-- The HAL with the state of one sensor replaced. -/
def setSensor (hal : Hal) (s : Sampler) : Hal :=
  { hal with sensors := hal.sensors.map fun t => if t.handle = s.handle then s else t }

/-- The handles of the enabled sensors. -/
def enabledHandles (hal : Hal) : List Handle :=
  (hal.sensors.filter (·.enabled)).map (·.handle)

/-- Whether sensors measure by themselves. -/
def measuring (hal : Hal) : Bool := hal.mode = .normal

/-- The channel with a number. -/
def channel? (hal : Hal) (c : Int) : Option Channel := hal.channels.lookup c

/-- The HAL with one channel replaced. -/
def setChannel (hal : Hal) (number : Int) (c : Channel) : Hal :=
  { hal with channels := hal.channels.map fun (n, d) => if n = number then (n, c) else (n, d) }

/-- The HAL with one more region of shared memory, and the region's number. -/
def allocate (hal : Hal) (region : Region) : Nat × Hal :=
  (hal.memory.size, { hal with memory := hal.memory.push region })

/-- The bytes of a region. -/
def region (hal : Hal) (number : Nat) : Region := hal.memory.getD number #[]

/-! ## Time -/

/-- The items of all sensors up to `now`, sensor after sensor. -/
def advanceSensors (b : Behaviour) (measuring : Bool) (now : Int) (signal : Signal) :
    List Sampler → List Item × List Sampler × Signal
  | [] => ([], [], signal)
  | s :: rest =>
    let (items, s, signal) := s.advance b measuring now signal
    let (more, rest, signal) := advanceSensors b measuring now signal rest
    (items ++ more, s :: rest, signal)

/-- All channels brought up to `now`, their records written. -/
def advanceChannels (now : Int) (signal : Signal) (memory : Array Region) :
    List (Int × Channel) → List (Int × Channel) × Array Region × Signal
  | [] => ([], memory, signal)
  | (n, c) :: rest =>
    let first := c.written
    let capacity := c.capacity
    let (records, c, signal) := c.advance now signal
    let memory := memory.modify c.memory fun region =>
      Channel.writeRing capacity region first records
    let (rest, memory, signal) := advanceChannels now signal memory rest
    ((n, c) :: rest, memory, signal)

/-- Every schedule run up to `now`: the items to deliver as one batch, and the
state after it. -/
def advance (hal : Hal) (b : Behaviour) (now : Int) : List Item × Hal :=
  let measuring := hal.measuring
  let (items, sensors, signal) := advanceSensors b measuring now hal.signal hal.sensors
  let (channels, memory, signal) := advanceChannels now signal hal.memory hal.channels
  (hal.waiting ++ items, { hal with sensors, waiting := [], channels, memory, signal })

/-- The earliest time at which `advance` has something to do; the least time
stands for at once. -/
def deadline? (hal : Hal) : Option Int :=
  if hal.waiting.isEmpty then
    (hal.sensors.filterMap (·.deadline? hal.measuring) ++
      hal.channels.filterMap (·.2.deadline?)).min?
  else some leastTime

/-! ## Calls -/

/-- The HAL after a client has connected with a new queue. All that a former
client left behind is dropped. A HAL that ignores the new queue keeps the one it
has, as long as that is open. -/
def connect (hal : Hal) (b : Behaviour) (queue : Nat) (isOpen : Bool) : Hal :=
  let sensors := hal.sensors.map (·.disconnect)
  let keeps := b.ignoreReinitialize && hal.queue.isSome && isOpen
  { hal with
    sensors, waiting := [], mode := .normal, queue := if keeps then hal.queue else some queue }

/-- A sensor switched on or off. Switching on starts its schedule; switching off
drops what is buffered. -/
def activate (hal : Hal) (b : Behaviour) (now : Int) (h : Handle) (on : Bool) :
    Except Status Hal :=
  match hal.sensor? h with
  | none => .error .badValue
  | some s =>
    if s.enabled = on then .ok hal
    else if on then .ok (hal.setSensor (s.switchOn b now))
    else .ok (hal.setSensor s.switchOff)

/-- A sensor given a period and a report latency. Samples that may no longer be
held back go out first in the next batch. -/
def batch (hal : Hal) (now : Int) (h : Handle) (period latency : Int) : Except Status Hal :=
  if period < 0 ∨ latency < 0 then .error .badValue
  else match hal.sensor? h with
    | none => .error .badValue
    | some s =>
      let s := s.retune now period latency
      if !s.batching && !s.buffer.isEmpty then
        .ok { hal.setSensor s.clearBuffer with
          waiting := hal.waiting ++ s.buffer.map (⟨.sample, ·⟩) }
      else .ok (hal.setSensor s)

/-- A flush requested of an enabled sensor that reports more than once. -/
def flush (hal : Hal) (h : Handle) : Except Status Hal :=
  match hal.sensor? h with
  | none => .error .badValue
  | some s =>
    if s.descriptor.isOneShot || !s.enabled then .error .badValue
    else .ok (hal.setSensor s.requestFlush)

/-- The operation mode set. -/
def setMode (hal : Hal) (mode : OperationMode) : Hal := { hal with mode }

/-- An event injected. Additional information is accepted and never delivered;
other events need a sensor that takes them and the mode for it. -/
def inject (hal : Hal) (e : Event) : Except Status Hal :=
  if e.kind = .additionalInfo then .ok hal
  else match hal.sensor? e.handle with
    | none => .error .badValue
    | some s =>
      if !s.descriptor.isInjectable then .error .invalidOperation
      else if hal.mode ≠ .dataInjection then .error .badValue
      else .ok { hal with waiting := hal.waiting ++ [⟨.injection, e⟩] }

/-- A channel registered over a region with a declared size: the region is zeroed
and the channel's number given. -/
def register (hal : Hal) (kind : MemoryKind) (size memory : Nat) : Except Status (Int × Hal) :=
  if size < Record.width ∨ (hal.region memory).size < size then .error .badValue
  else .ok (hal.nextChannel, { hal with
    memory := hal.memory.modify memory fun r => r.fill 0
    channels := hal.channels ++ [(hal.nextChannel, ⟨kind, size, memory, 0, []⟩)]
    nextChannel := hal.nextChannel + 1 })

/-- A channel removed. -/
def unregister (hal : Hal) (channel : Int) : Except Status Hal :=
  match hal.channel? channel with
  | none => .error .badValue
  | some _ => .ok { hal with channels := hal.channels.filter (·.1 ≠ channel) }

/-- A report started, retuned or stopped: a running rate gives the report's token,
stopping gives zero. -/
def configReport (hal : Hal) (now : Int) (h : Handle) (channel : Int) (rate : Rate) :
    Except Status (Int × Hal) :=
  match hal.sensor? h, hal.channel? channel with
  | some s, some c =>
    match rate.period? with
    | none => .ok (0, hal.setChannel channel { c with reports := c.reports.filter (·.1 ≠ h) })
    | some period =>
      if s.descriptor.supportsMemory c.memoryKind && s.descriptor.supportsRate rate then
        match c.report? h with
        | some r => .ok (r.token,
            hal.setChannel channel { c with reports := Channel.setReport h { r with period } c.reports })
        | none =>
          let r : DirectReport := ⟨hal.nextToken, s.descriptor.kind, period, now + period, 1⟩
          .ok (r.token,
            { hal.setChannel channel { c with reports := Channel.setReport h r c.reports } with
              nextToken := hal.nextToken + 1 })
      else .error .badValue
  | _, _ => .error .badValue

end Hal

end SensorBench
