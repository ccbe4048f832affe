import SensorBench.Data.Decode

/-!
# Direct report rates

The tiers at which a sensor reports into shared memory, and the two kinds of
memory it may report into.
-/

set_option autoImplicit false

namespace SensorBench

/-- A direct report rate; `stop` ends a report. -/
inductive Rate where
  | stop
  | normal
  | fast
  | veryFast
  deriving DecidableEq, Repr, Inhabited

namespace Rate

/-- The level as descriptor flags encode it. -/
def level : Rate → Nat
  | stop => 0
  | normal => 1
  | fast => 2
  | veryFast => 3

/-- The running rate of a level. -/
def ofLevel? : Nat → Option Rate
  | 1 => some normal
  | 2 => some fast
  | 3 => some veryFast
  | _ => none

/-- Reports in a second. -/
def hertz : Rate → Nat
  | stop => 0
  | normal => 50
  | fast => 200
  | veryFast => 800

/-- Nanoseconds between two reports of a running rate. -/
def period? (r : Rate) : Option Int :=
  match r.hertz with
  | 0 => none
  | hz => some (1000000000 / hz)

/-- The name in data texts. -/
def name : Rate → String
  | stop => "stop"
  | normal => "normal"
  | fast => "fast"
  | veryFast => "very_fast"

/-- The name in messages. -/
def title : Rate → String
  | stop => "Stop"
  | normal => "Normal"
  | fast => "Fast"
  | veryFast => "VeryFast"

/-- The rate read from data. -/
def decode : Decoder Rate :=
  Decode.variant ([stop, normal, fast, veryFast].map fun r => (r.name, r))

/-- The share of the nominal rate that a report has to exceed. -/
def lowestShare : Float := 0.55

/-- The multiple of the nominal rate that a report has to stay below. -/
def highestShare : Float := 2.2

end Rate

/-- The memory behind a direct channel. -/
inductive MemoryKind where
  | ashmem
  | gralloc
  deriving DecidableEq, Repr, Inhabited

namespace MemoryKind

/-- The name in data texts and messages. -/
def name : MemoryKind → String
  | ashmem => "ashmem"
  | gralloc => "gralloc"

/-- The kind read from data. -/
def decode : Decoder MemoryKind := Decode.variant ([ashmem, gralloc].map fun k => (k.name, k))

end MemoryKind

end SensorBench
