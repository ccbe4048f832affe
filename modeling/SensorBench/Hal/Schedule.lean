import SensorBench.Number.Word

/-!
# Regular schedules

The times at which something with a period is due: the next one and all that
follow it in steps of the period. Times are computed exactly; a HAL keeps them in
words of 64 bits and ends at a sum that no word holds.
-/

set_option autoImplicit false

namespace SensorBench.Hal

/-- The number of due times up to and including `now`. -/
def dueCount (next period now : Int) : Nat :=
  if next ≤ now then ((now - next) / period).toNat + 1 else 0

/-- The times `next`, `next + period`, …, as many as asked for. -/
def timesFrom (next period : Int) : Nat → List Int
  | 0 => []
  | n + 1 => next :: timesFrom (next + period) period n

/-- The due times up to and including `now`. -/
def dueTimes (next period now : Int) : List Int := timesFrom next period (dueCount next period now)

/-- The first due time after `now`. -/
def dueAfter (next period now : Int) : Int := next + period * dueCount next period now

/-- The least time. -/
def leastTime : Int := -0x8000000000000000

/-- The greatest time. -/
def greatestTime : Int := 0x7fffffffffffffff

/-- A time that fits in a word of 64 bits. -/
def FitsWord (t : Int) : Prop := leastTime ≤ t ∧ t ≤ greatestTime

instance (t : Int) : Decidable (FitsWord t) :=
  inferInstanceAs (Decidable (leastTime ≤ t ∧ t ≤ greatestTime))

/-- The sums by which a schedule goes on up to `now`: the period is added to every due time. -/
def dueSums (next period now : Int) : List Int := (dueTimes next period now).map (· + period)

/-- What some sums lead to, as long as they fit. -/
def ifFits {α : Type} (sums : List Int) (a : α) : Except String α :=
  if ∀ t ∈ sums, FitsWord t then .ok a else .error Number.sumOverflow

end SensorBench.Hal
