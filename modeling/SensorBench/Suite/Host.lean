import SensorBench.Delivery.Collector
import SensorBench.Suite.Act

/-!
# Hosts

What a scenario asks of the world around it, one constructor for each kind of
request. A call that only gives back what is held is a request of its own, so that
hosts can be told apart by how they treat it. Times are in nanoseconds; sessions,
collectors and memories go by number, and the session under test is number zero.
-/

set_option autoImplicit false

namespace SensorBench

/-- A request of a scenario. -/
inductive Request where
  | sensors
  | call (c : Call)
  | release (c : Call)
  | now
  | sleep (time : Int)
  | allocate (size : Nat) (fill : UInt8)
  | bytes (memory : Nat)
  | subscribe
  | unsubscribe
  | reset (collector : Nat)
  | awaitFlushes (collector : Nat) (handles : List Handle) (count : Nat) (time : Int)
  | awaitEvents (collector : Nat) (handles : List Handle) (time : Int)
  | awaitCount (collector : Nat) (handle : Handle) (count : Nat) (time : Int)
  | delivered (collector : Nat)
  | connect (capacity : UInt64)
  | reconnect (capacity : UInt64)
  | tearDown (session : Nat)
  | gather (session : Nat) (time : Int) (count : Nat)

/-- The type of the answer to a request. Connecting gives the number of the new
session. -/
def Request.Answer : Request → Type
  | .sensors => Catalog
  | .call _ | .release _ => Except Status Int
  | .now => Int
  | .sleep _ => Unit
  | .allocate .. => Nat
  | .bytes _ => Region
  | .subscribe => Nat
  | .unsubscribe => Unit
  | .reset _ => Unit
  | .awaitFlushes .. => Unit
  | .awaitEvents .. => Unit
  | .awaitCount .. => Unit
  | .delivered _ => Collector
  | .connect _ => Except Status Nat
  | .reconnect _ => Except Status Unit
  | .tearDown _ => Unit
  | .gather .. => List Event

/-- A host answers every request, or panics with a text, and changes its state. -/
def Host (σ : Type) : Type := (q : Request) → σ → Except String q.Answer × σ

namespace Host

variable {σ : Type}

/-- The host beside a value of another type. -/
def beside {τ : Type} (host : Host σ) : Host (τ × σ) := fun q (t, s) =>
  let (r, s) := host q s
  (r, (t, s))

/-- The answer to a request; a panic of the host halts the act. -/
def ask (host : Host σ) (q : Request) : Act σ q.Answer := fun s =>
  match host q s with
  | (.ok r, s) => (.ok r, s)
  | (.error text, s) => (.error (.panic text), s)

/-- The reply to a call. -/
def call (host : Host σ) (c : Call) : Act σ (Except Status Int) := host.ask (.call c)

end Host

/-- The value of a call that has to succeed. -/
def requireOk {σ α : Type} (operation target : String) : Except Status α → Act σ α
  | .ok a => .value a
  | .error status => .violate (.unexpectedStatus operation target none (some status))

/-- The status of a reply. -/
def statusOf? {α : Type} : Except Status α → Option Status
  | .ok _ => none
  | .error status => some status

/-- A call that has to end with a certain status. -/
def requireStatus {σ α : Type} (operation target : String) (expected : Option Status)
    (reply : Except Status α) : Act σ Unit :=
  if statusOf? reply = expected then .value ()
  else .violate (.unexpectedStatus operation target expected (statusOf? reply))

end SensorBench
