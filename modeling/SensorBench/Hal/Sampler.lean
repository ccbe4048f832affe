import SensorBench.Hal.Schedule
import SensorBench.Hal.Signal
import SensorBench.Sensor.Descriptor

/-!
# Samplers

The state of one sensor of the reference HAL: its schedule, its buffer of
samples held back for a later report, and the flushes that wait for their
markers. Samples lie on a fixed grid, each one period after the one before.
-/

set_option autoImplicit false

namespace SensorBench.Hal

/-- Where an event of a batch comes from. -/
inductive Source where
  | sample
  | injection
  | replay
  | marker
  deriving DecidableEq, Repr

/-- An event on its way out of the HAL. -/
structure Item where
  source : Source
  event : Event

/-- The state of one sensor. `buffer` holds samples back, the oldest of them since
`bufferedSince`; `replay` is an old sample that a faulty HAL is about to deliver
again. -/
structure Sampler where
  descriptor : Descriptor
  enabled : Bool
  period : Int
  latency : Int
  nextDue : Int
  buffer : List Event
  bufferedSince : Option Int
  pendingFlushes : Nat
  lastEvent : Option Event
  replay : Option Event

namespace Sampler

/-- The shortest period of any sensor. -/
def shortestPeriod : Int := 1000000

/-- The time from the activation of a one-shot sensor to its event. -/
def oneShotDelay : Int := 20000000

/-- The least period of a sensor. -/
def leastPeriod (d : Descriptor) : Int := max d.minDelayNs shortestPeriod

/-- A requested period brought into the span that a sensor supports; a longest
delay of zero sets no upper end. -/
def periodFor (d : Descriptor) (requested : Int) : Int :=
  let raised := max requested (leastPeriod d)
  if d.maxDelayNs = 0 then raised else min raised (max d.maxDelayNs (leastPeriod d))

/-- The state of a sensor before any call. -/
def initial (d : Descriptor) : Sampler :=
  { descriptor := d, enabled := false, period := periodFor d d.maxDelayNs, latency := 0
    nextDue := 0, buffer := [], bufferedSince := none, pendingFlushes := 0, lastEvent := none
    replay := none }

/-- The handle of the sensor. -/
def handle (s : Sampler) : Handle := s.descriptor.handle

/-- Whether samples are held back: a latency is allowed and there is room. -/
def batching (s : Sampler) : Bool := 0 < s.latency && 0 < s.descriptor.fifoMax.toNat

/-- The sensor without buffered samples. -/
def clearBuffer (s : Sampler) : Sampler := { s with buffer := [], bufferedSince := none }

/-- The first due time of the sensor switched on at a time. -/
def firstDue (s : Sampler) (now : Int) : Int :=
  now + if s.descriptor.isOneShot then oneShotDelay else s.period

/-- The sensor switched on at a time: its schedule starts, and a HAL that replays
brings back its last event. -/
def switchOn (s : Sampler) (b : Behaviour) (now : Int) : Sampler :=
  { s with
    enabled := true, nextDue := s.firstDue now
    replay := if b.replayStaleEvents then s.lastEvent else s.replay }

/-- The sensor switched off: what is buffered is dropped. -/
def switchOff (s : Sampler) : Sampler := { s.clearBuffer with enabled := false }

/-- The sensor given a period and a report latency. A running schedule is brought
forward if the new period is shorter. -/
def retune (s : Sampler) (now period latency : Int) : Sampler :=
  let period := periodFor s.descriptor period
  let nextDue :=
    if s.enabled && !s.descriptor.isOneShot then min s.nextDue (now + period) else s.nextDue
  { s with period, latency, nextDue }

/-- The sensor with one more flush to answer. -/
def requestFlush (s : Sampler) : Sampler := { s with pendingFlushes := s.pendingFlushes + 1 }

/-- The sensor with nothing left of what its client asked for, its schedule and
its latency apart. -/
def disconnect (s : Sampler) : Sampler :=
  { s.clearBuffer with enabled := false, pendingFlushes := 0, replay := none }

/-- The events of the sensor with given samples. -/
def eventsAt (s : Sampler) (times : List Int) (payloads : List Payload) : List Event :=
  List.zipWith (fun t p => ⟨s.handle, s.descriptor.kind, t, p⟩) times payloads

/-- Whether the buffer has to be delivered: it is full, or its oldest sample is as
old as the latency allows. -/
def isRipe (s : Sampler) (now : Int) : Bool :=
  !s.buffer.isEmpty &&
    (s.descriptor.fifoMax.toNat ≤ s.buffer.length ||
      s.bufferedSince.any fun since => s.latency ≤ now - since)

/-- The event of a one-shot sensor that is due; the sensor disables itself. -/
def fire (s : Sampler) (now : Int) (signal : Signal) : List Event × Sampler × Signal :=
  if s.nextDue ≤ now then
    let (p, signal) := signal.payload s.descriptor.kind s.nextDue
    let event : Event := ⟨s.handle, s.descriptor.kind, s.nextDue, p⟩
    ([event], { s with enabled := false, lastEvent := some event }, signal)
  else ([], s, signal)

/-- The samples due up to `now`, either delivered at once or held back until the
buffer is ripe. -/
def stream (s : Sampler) (now : Int) (signal : Signal) : List Event × Sampler × Signal :=
  let times := dueTimes s.nextDue s.period now
  let (payloads, signal) := signal.payloads s.descriptor.kind times
  let events := s.eventsAt times payloads
  let s := { s with
    nextDue := dueAfter s.nextDue s.period now
    lastEvent := events.getLast? <|> s.lastEvent }
  if s.batching then
    let s := { s with
      buffer := s.buffer ++ events
      bufferedSince := s.bufferedSince <|> times.head? }
    if s.isRipe now then (s.buffer, s.clearBuffer, signal) else ([], s, signal)
  else (events, s, signal)

/-- What an enabled sensor delivers by itself up to `now`. -/
def sample (s : Sampler) (now : Int) (signal : Signal) : List Event × Sampler × Signal :=
  if s.descriptor.isOneShot then s.fire now signal else s.stream now signal

/-- The number of markers that some flushes bring. -/
def markerCount (b : Behaviour) (flushes : Nat) : Nat :=
  if b.dropFlushMarkers then 0 else if b.duplicateFlushMarkers then flushes * 2 else flushes

/-- The answer to pending flushes: all buffered samples and then the markers. -/
def answerFlushes (s : Sampler) (b : Behaviour) (now : Int) : List Item × Sampler :=
  if 0 < s.pendingFlushes then
    (s.buffer.map (⟨.sample, ·⟩) ++
      List.replicate (markerCount b s.pendingFlushes) ⟨.marker, .flushMarker s.handle now⟩,
      { s.clearBuffer with pendingFlushes := 0 })
  else ([], s)

/-- Everything that the sensor delivers up to `now`: a replayed sample, then its
own samples if it is enabled and the HAL measures, then the answer to
flushes. -/
def advance (s : Sampler) (b : Behaviour) (measuring : Bool) (now : Int) (signal : Signal) :
    List Item × Sampler × Signal :=
  let replayed := s.replay.toList.map fun e => Item.mk .replay e
  let s := { s with replay := none }
  let (events, s, signal) :=
    if s.enabled && measuring then s.sample now signal else ([], s, signal)
  let (answers, s) := s.answerFlushes b now
  (replayed ++ events.map (⟨.sample, ·⟩) ++ answers, s, signal)

/-- The next time at which `advance` has something to do for the sensor; the least
time stands for at once. -/
def deadline? (s : Sampler) (measuring : Bool) : Option Int :=
  if 0 < s.pendingFlushes || s.replay.isSome then some leastTime
  else if s.enabled && measuring then
    some (match s.bufferedSince with
      | some since => min (min (since + s.latency) greatestTime) s.nextDue
      | none => s.nextDue)
  else none

/-! ## Sums of times -/

/-- The sum that is formed when the sensor is switched: its first due time, if it was off. -/
def switchSums (s : Sampler) (now : Int) (on : Bool) : List Int :=
  if on && !s.enabled then [s.firstDue now] else []

/-- The sum that is formed when the sensor is retuned: the clock and its new period, if it
streams. -/
def retuneSums (s : Sampler) (now period : Int) : List Int :=
  if s.enabled && !s.descriptor.isOneShot then [now + periodFor s.descriptor period] else []

/-- The sums that are formed while the sensor streams up to `now`. -/
def streamSums (s : Sampler) (measuring : Bool) (now : Int) : List Int :=
  if s.enabled && measuring && !s.descriptor.isOneShot then dueSums s.nextDue s.period now else []

end Sampler

end SensorBench.Hal
