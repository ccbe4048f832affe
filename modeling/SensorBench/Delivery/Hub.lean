import SensorBench.Delivery.Collector
import SensorBench.Delivery.Queue

/-!
# Sessions

A session is one client of a HAL: it reads one queue at a time and forwards each
batch to the collector registered at that moment and to a collection if one is
armed. The hub holds all queues, sessions and collectors by number.
-/

set_option autoImplicit false

namespace SensorBench

/-- A client of a HAL: the queue it reads, the collector it forwards to, the
events of an armed collection, and how much it has dispatched. -/
structure Session where
  reader : Option Nat
  sink : Option Nat
  collection : Option (Array Event)
  batches : Nat
  events : Nat

/-- All queues, sessions and collectors. -/
structure Hub where
  queues : Array Queue
  sessions : Array Session
  collectors : Array Collector

namespace Hub

/-- Nothing yet. -/
def empty : Hub := ⟨#[], #[], #[]⟩

/-- The hub with one more open queue, and the queue's number. -/
def openQueue (hub : Hub) (capacity : Nat) : Nat × Hub :=
  (hub.queues.size, { hub with queues := hub.queues.push (.ofCapacity capacity) })

/-- The hub with one more collector, and the collector's number. -/
def newCollector (hub : Hub) : Nat × Hub :=
  (hub.collectors.size, { hub with collectors := hub.collectors.push .empty })

/-- The hub with one more session that reads nothing yet, and its number. -/
def newSession (hub : Hub) : Nat × Hub :=
  (hub.sessions.size, { hub with sessions := hub.sessions.push ⟨none, none, none, 0, 0⟩ })

/-- Whether a queue is open. -/
def isOpen (hub : Hub) (queue : Nat) : Bool := hub.queues[queue]?.any fun q => !q.closed

/-- The hub with a queue closed. -/
def closeQueue (hub : Hub) (queue : Nat) : Hub :=
  { hub with queues := hub.queues.modify queue (·.close) }

/-- The batches that wait in a queue. -/
def waiting (hub : Hub) (queue : Nat) : List (List Event) :=
  ((hub.queues[queue]?).map (·.waiting)).getD []

/-- The hub with all waiting batches of a queue taken out. -/
def drain (hub : Hub) (queue : Nat) : Hub :=
  { hub with queues := hub.queues.modify queue ({ · with waiting := [] }) }

/-- The collector with a number. -/
def collector (hub : Hub) (number : Nat) : Collector := hub.collectors.getD number .empty

/-- The hub with a collector emptied. -/
def resetCollector (hub : Hub) (number : Nat) : Hub :=
  { hub with collectors := hub.collectors.modify number fun _ => .empty }

/-- A collector registered with a session in place of any other. -/
def register (hub : Hub) (session collector : Nat) : Hub :=
  { hub with sessions := hub.sessions.modify session ({ · with sink := some collector }) }

/-- The collector of a session taken away. -/
def unregister (hub : Hub) (session : Nat) : Hub :=
  { hub with sessions := hub.sessions.modify session ({ · with sink := none }) }

/-- One batch dispatched by a session: counted, forwarded to the registered
collector, and added to an armed collection. -/
def dispatch (hub : Hub) (session : Nat) (batch : List Event) : Hub :=
  let collectors := match hub.sessions[session]?.bind (·.sink) with
    | some c => hub.collectors.modify c (·.deliver batch)
    | none => hub.collectors
  { hub with
    collectors
    sessions := hub.sessions.modify session fun s => { s with
      batches := s.batches + 1, events := s.events + batch.length
      collection := s.collection.map fun es => es ++ batch } }

/-- One step of a session's reader: the oldest waiting batch is dispatched. -/
def readerStep (hub : Hub) (session : Nat) : Hub :=
  match hub.sessions[session]?.bind (·.reader) with
  | none => hub
  | some queue => match hub.queues[queue]?.bind (·.read?) with
    | some (some batch, q) =>
      { hub with queues := hub.queues.setIfInBounds queue q }.dispatch session batch
    | _ => hub

/-- The session that reads a queue. -/
def readerOf? (hub : Hub) (queue : Nat) : Option Nat :=
  hub.sessions.findIdx? (·.reader == some queue)

/-- A batch written to a queue and dispatched by the session that reads it; the
outcome says whether the queue took it. -/
def write (hub : Hub) (queue : Nat) (batch : List Event) : Bool × Hub :=
  match hub.queues[queue]?.bind (·.write? batch) with
  | none => (false, hub)
  | some (taken, q) =>
    let hub := { hub with queues := hub.queues.setIfInBounds queue q }
    match hub.readerOf? queue with
    | some session => (taken, hub.readerStep session)
    | none => (taken, hub)

/-- The queue of a session closed, so that what waits in it is read by nobody. -/
def detach (hub : Hub) (session : Nat) : Hub :=
  match hub.sessions[session]?.bind (·.reader) with
  | none => hub
  | some queue =>
    { hub with
      queues := hub.queues.modify queue (·.close)
      sessions := hub.sessions.modify session ({ · with reader := none }) }

/-- A session moved to a queue that the HAL has accepted; the queue it read before
is closed. -/
def attach (hub : Hub) (session queue : Nat) : Hub :=
  let hub := hub.detach session
  { hub with sessions := hub.sessions.modify session ({ · with reader := some queue }) }

/-- Whether a session reads a queue. -/
def isConnected (hub : Hub) (session : Nat) : Bool :=
  hub.sessions[session]?.any (·.reader.isSome)

/-- An empty collection armed. -/
def arm (hub : Hub) (session : Nat) : Hub :=
  { hub with sessions := hub.sessions.modify session ({ · with collection := some #[] }) }

/-- The number of events in an armed collection. -/
def collected (hub : Hub) (session : Nat) : Nat :=
  match hub.sessions[session]?.bind (·.collection) with
  | some es => es.size
  | none => 0

/-- The events of an armed collection, which is disarmed. -/
def disarm (hub : Hub) (session : Nat) : List Event × Hub :=
  let events := match hub.sessions[session]?.bind (·.collection) with
    | some es => es.toList
    | none => []
  (events, { hub with sessions := hub.sessions.modify session ({ · with collection := none }) })

/-- Batches written to a queue one after the other, as long as an armed collection
is short of a count. The rest of the batches is left. -/
def writeUntil (hub : Hub) (session queue count : Nat) : List (List Event) → List (List Event) × Hub
  | [] => ([], hub)
  | batch :: rest =>
    if count ≤ hub.collected session then (batch :: rest, hub)
    else writeUntil (hub.write queue batch).2 session queue count rest

end Hub

end SensorBench
