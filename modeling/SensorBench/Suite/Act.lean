import SensorBench.Hal.Call
import SensorBench.Suite.Violation

/-!
# Acts

A scenario is written against any host: something that answers requests and
changes by answering them. An act runs on a host's state and ends with a value,
with the first violation found, or with a panic; the state is there in each
case, so that what was acquired can be released on every way out.
-/

set_option autoImplicit false

namespace SensorBench

/-- How an act ends early. -/
inductive Halt where
  | violation (v : Violation)
  | panic (text : String)
  deriving DecidableEq, Repr

/-- Something to do on a state of type `σ`. -/
def Act (σ α : Type) : Type := σ → Except Halt α × σ

namespace Act

variable {σ α β : Type}

/-- The act that only gives a value. -/
def value (a : α) : Act σ α := fun s => (.ok a, s)

/-- The act that halts. -/
def halt (h : Halt) : Act σ α := fun s => (.error h, s)

/-- One act after the other; the second is not begun if the first halts. -/
def andThen (x : Act σ α) (f : α → Act σ β) : Act σ β := fun s =>
  match x s with
  | (.ok a, s) => f a s
  | (.error h, s) => (.error h, s)

instance : Monad (Act σ) where
  pure := value
  bind := andThen

/-- The act that halts with a violation. -/
def violate (v : Violation) : Act σ α := halt (.violation v)

/-- An act with a last step that is taken however the act ends. If the last step
halts, that is how the whole ends. -/
def endingWith (x : Act σ α) (last : Act σ Unit) : Act σ α := fun s =>
  let (r, s) := x s
  match last s with
  | (.ok (), s) => (r, s)
  | (.error h, s) => (.error h, s)

/-- An act on the inner part of a wider state. -/
def widen {τ : Type} (x : Act σ α) : Act (τ × σ) α := fun (t, s) =>
  let (r, s) := x s
  (r, (t, s))

/-- An act for each item of a list, in order. -/
def each (items : List α) (f : α → Act σ Unit) : Act σ Unit :=
  match items with
  | [] => value ()
  | a :: rest => andThen (f a) fun _ => each rest f

/-- An act beside which a value of its own is kept, and what is done with that
value however the act ends. -/
def alongside {τ : Type} (start : τ) (x : Act (τ × σ) α) (leave : τ → Act σ Unit) : Act σ α :=
  fun s =>
    let (r, (t, s)) := x (start, s)
    match leave t s with
    | (.ok (), s) => (r, s)
    | (.error h, s) => (.error h, s)

end Act

end SensorBench
