import SensorBench.Direct.Record

/-!
# Shared memories

Regions of memory and the numbers they go by. A clone is a further number for the
same region, so what is done through one number is seen through all its clones. A
number that nobody was given stands for no bytes, and nothing is done through it.
-/

set_option autoImplicit false

namespace SensorBench

/-- Regions of memory, and for each numbered memory the place of its region. -/
structure Memories where
  regions : Array Region
  places : Array Nat
  placed : ∀ p ∈ places, p < regions.size

namespace Memories

/-- No memory at all. -/
def empty : Memories := ⟨#[], #[], fun _ h => absurd h (Array.not_mem_empty _)⟩

/-- The bytes of a memory. -/
def region (m : Memories) (a : Nat) : Region :=
  match m.places[a]? with
  | some p => m.regions.getD p #[]
  | none => #[]

/-- The memories and a new one, whose number comes next. -/
def allocate (m : Memories) (r : Region) : Memories where
  regions := m.regions.push r
  places := m.places.push m.regions.size
  placed := by
    intro p hp
    rw [Array.size_push]
    rcases Array.mem_push.1 hp with hp | rfl
    · exact Nat.lt_succ_of_lt (m.placed p hp)
    · exact Nat.lt_succ_self _

/-- The memories and a clone of one of them, whose number comes next. -/
def clone (m : Memories) (a : Nat) : Memories :=
  match h : m.places[a]? with
  | some p =>
    { m with
      places := m.places.push p
      placed := by
        intro q hq
        rcases Array.mem_push.1 hq with hq | rfl
        · exact m.placed q hq
        · exact m.placed q (Array.mem_of_getElem? h) }
  | none => m

/-- The memories with one region replaced. -/
def put (m : Memories) (a : Nat) (r : Region) : Memories :=
  match m.places[a]? with
  | some p =>
    { m with
      regions := m.regions.setIfInBounds p r
      placed := by simpa only [Array.size_setIfInBounds] using m.placed }
  | none => m

/-- The memories with every byte of one overwritten. -/
def fill (m : Memories) (a : Nat) (b : UInt8) : Memories := m.put a ((m.region a).fill b)

/-- Data copied to an offset of a memory: whether it fits, and the memories after. -/
def write (m : Memories) (a offset : Nat) (data : List UInt8) :
    Except OutOfBounds Unit × Memories :=
  match (m.region a).write offset data with
  | .ok r => (.ok (), m.put a r)
  | .error e => (.error e, m)

end Memories

end SensorBench
