import SensorBench.Number.Binary
import SensorBench.Text.Numeral

/-!
# Shortest decimals

`shortest` gives the decimal with the fewest digits that reads back as a given
binary value, and of those the one nearest to it. For each digit count the two
neighbours of the value on that decimal grid are tried; if any point of the
grid lies in the rounding interval, so does one of the two.
-/

set_option autoImplicit false

namespace SensorBench.Number

/-- The decimal `digits · 10^exponent`. -/
structure Decimal where
  digits : Nat
  exponent : Int
  deriving DecidableEq, Repr

/-- The reals that round to a value, scaled by a common positive denominator:
the value, the two ends, and whether the ends belong. -/
structure Interval where
  value : Nat
  low : Nat
  high : Nat
  den : Nat
  closed : Bool

namespace Interval

/-- The interval of `m · 2^q`. Below a power of two the values lie twice as
close, so the lower end is nearer there, the smallest exponent apart. -/
def ofBinary (f : Format) (m : Nat) (q : Int) : Interval :=
  let below := if m = Nat.pow 2 f.fractionBits ∧ f.quantum < q then 1 else 2
  let (scale, den) := scaled 1 (q - 2)
  { value := 4 * m * scale, low := (4 * m - below) * scale, high := (4 * m + 2) * scale
    den := den, closed := m % 2 = 0 }

/-- Whether `num / den` lies in the interval, `num` being over its denominator. -/
def holds (i : Interval) (num : Nat) : Bool :=
  if i.closed then i.low ≤ num && num ≤ i.high else i.low < num && num < i.high

/-- The same interval over a denominator multiplied by a positive factor. -/
def refine (i : Interval) (factor : Nat) : Interval :=
  { i with value := i.value * factor, low := i.low * factor, high := i.high * factor
           den := i.den * factor }

end Interval

/-- The decimal exponent of `num / den`, which is positive: the greatest `e`
with `10^e ≤ num / den`. -/
def leadingDigit (num den : Nat) : Int :=
  if den ≤ num then (Text.digitCount (num / den) : Int) - 1
  else -(Text.digitCount ((den + num - 1) / num - 1) : Int)

/-- The neighbours of the value on the grid of multiples of `10^k` that lie in
the interval; of two the nearer, of two equally near the even one. -/
def onGrid? (i : Interval) (k : Int) : Option Decimal :=
  let j := if 0 ≤ k then i else i.refine (Nat.pow 10 (-k).toNat)
  let unit := if 0 ≤ k then i.den * Nat.pow 10 k.toNat else i.den
  let below := j.value / unit
  let above := below + 1
  let rest := 2 * (j.value % unit)
  let preferBelow := decide (rest < unit) || (decide (rest = unit) && below % 2 == 0)
  match j.holds (below * unit), j.holds (above * unit) with
  | true, true => some ⟨if preferBelow then below else above, k⟩
  | true, false => some ⟨below, k⟩
  | false, true => some ⟨above, k⟩
  | false, false => none

/-- The decimal without the trailing zeros of its digits. -/
def Decimal.strip (d : Decimal) : Decimal :=
  let zeros := ((Text.digits d.digits).reverse.takeWhile (· == '0')).length
  if d.digits = 0 then ⟨0, 0⟩ else ⟨d.digits / Nat.pow 10 zeros, d.exponent + zeros⟩

/-- The first grid with a hit, from a digit count on. -/
def firstGrid (i : Interval) (lead : Int) : Nat → Nat → Decimal
  | 0, _ => ⟨i.value / i.den, 0⟩
  | fuel + 1, count =>
    match onGrid? i (lead - count + 1) with
    | some d => d
    | none => firstGrid i lead fuel (count + 1)

/-- The fewest digits that read back as `m · 2^q`. Seventeen always suffice for
the 64-bit format. -/
def shortest (f : Format) (m : Nat) (q : Int) : Decimal :=
  if m = 0 then ⟨0, 0⟩
  else
    let i := Interval.ofBinary f m q
    (firstGrid i (leadingDigit i.value i.den) 18 1).strip

end SensorBench.Number
