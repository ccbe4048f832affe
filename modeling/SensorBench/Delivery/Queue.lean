import SensorBench.Event.Basic

/-!
# Event queues

A bounded queue of event batches between a HAL and its client. A batch is
written and read as a whole; once the queue is closed it takes no more, and what
waits in it can still be read.
-/

set_option autoImplicit false

namespace SensorBench

/-- A queue: how many batches it holds, those that wait, and whether it is
closed. -/
structure Queue where
  capacity : Nat
  waiting : List (List Event)
  closed : Bool

namespace Queue

/-- An empty queue; it holds at least one batch. -/
def ofCapacity (capacity : Nat) : Queue := ⟨max capacity 1, [], false⟩

/-- The outcome of a write: whether the batch was taken, and the queue after it. A
write to a full queue has no outcome yet. An empty batch is never stored. -/
def write? (q : Queue) (batch : List Event) : Option (Bool × Queue) :=
  if batch.isEmpty then some (!q.closed, q)
  else if q.closed then some (false, q)
  else if q.waiting.length < q.capacity then
    some (true, { q with waiting := q.waiting ++ [batch] })
  else none

/-- The outcome of a read: a batch, or `none` from a closed queue that is empty,
and the queue after it. A read from an open empty queue has no outcome yet. -/
def read? (q : Queue) : Option (Option (List Event) × Queue) :=
  match q.waiting with
  | batch :: rest => some (some batch, { q with waiting := rest })
  | [] => if q.closed then some (none, q) else none

/-- The queue closed. -/
def close (q : Queue) : Queue := { q with closed := true }

end Queue

end SensorBench
