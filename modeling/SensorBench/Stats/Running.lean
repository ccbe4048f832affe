/-!
# Running statistics

Count, mean, spread and extremes of a stream of values, kept without the values.
The update works in any arithmetic; the library runs it on 64-bit numbers.
-/

set_option autoImplicit false

namespace SensorBench.Stats

/-- The arithmetic that the update needs. `least` and `greatest` choose between
two values. -/
class Arithmetic (α : Type) extends Zero α, Sub α, Add α, Mul α, Div α where
  ofCount : Nat → α
  least : α → α → α
  greatest : α → α → α

/-- The statistics of a stream so far. `spread` is the sum of the squared
deviations from the mean. -/
structure Running (α : Type) where
  count : Nat
  mean : α
  spread : α
  least : α
  greatest : α

namespace Running

variable {α : Type} [Arithmetic α]

/-- The statistics of no values. -/
def empty : Running α := ⟨0, 0, 0, 0, 0⟩

/-- The statistics with one more value. The mean moves by the value's share of
the deviation, and the spread grows by the product of the deviations from the
old and the new mean. -/
def push (s : Running α) (value : α) : Running α :=
  let count := s.count + 1
  if count = 1 then ⟨1, value, 0, value, value⟩
  else
    let before := value - s.mean
    let mean := s.mean + before / Arithmetic.ofCount count
    let after := value - mean
    ⟨count, mean, s.spread + before * after, Arithmetic.least s.least value,
      Arithmetic.greatest s.greatest value⟩

/-- The statistics of a list of values. -/
def ofList (values : List α) : Running α := values.foldl push empty

/-- The sample variance; zero for fewer than two values. -/
def variance (s : Running α) : α :=
  if s.count < 2 then 0 else s.spread / Arithmetic.ofCount (s.count - 1)

end Running

/-- The lesser of two 64-bit numbers; a value that is no number is passed
over. -/
def lesser (x y : Float) : Float :=
  if x.isNaN then y else if y.isNaN then x else if x < y then x else y

/-- The greater of two 64-bit numbers; a value that is no number is passed
over. -/
def greater (x y : Float) : Float :=
  if x.isNaN then y else if y.isNaN then x else if y < x then x else y

/-- The arithmetic of 64-bit numbers. -/
instance : Arithmetic Float where
  zero := 0.0
  ofCount := Float.ofNat
  least := lesser
  greatest := greater

end SensorBench.Stats
