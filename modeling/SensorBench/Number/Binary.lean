/-!
# Binary interchange formats

A binary floating-point word is read as an exact value `m · 2^q`, and an exact
quotient of naturals is rounded to a word, halves going to the even
significand. Everything is integer arithmetic: a word is a `Nat`, and no
machine floating-point operation takes part.
-/

set_option autoImplicit false

namespace SensorBench.Number

/-- A binary interchange format: the significand bits, the leading one
included, and the width of the exponent field. -/
structure Format where
  precision : Nat
  width : Nat
  deriving DecidableEq, Repr

namespace Format

/-- The 32-bit format. -/
def single : Format := ⟨24, 8⟩

/-- The 64-bit format. -/
def double : Format := ⟨53, 11⟩

/-- The number of stored significand bits. -/
def fractionBits (f : Format) : Nat := f.precision - 1

/-- The exponent of the smallest positive value, `2^quantum`. -/
def quantum (f : Format) : Int := 3 - (Nat.pow 2 (f.width - 1) : Int) - f.precision

/-- The word of positive infinity. -/
def infinityWord (f : Format) : Nat := (Nat.pow 2 f.width - 1) * Nat.pow 2 f.fractionBits

/-- The weight of the sign bit. -/
def signWeight (f : Format) : Nat := Nat.pow 2 (f.width + f.fractionBits)

end Format

/-- What a word stands for: no number, an infinity, or `± m · 2^q`. -/
inductive Datum where
  | nan
  | infinite (negative : Bool)
  | finite (negative : Bool) (m : Nat) (q : Int)
  deriving DecidableEq, Repr

namespace Datum

/-- The value of a word. -/
def ofWord (f : Format) (word : Nat) : Datum :=
  let negative := decide (f.signWeight ≤ word)
  let magnitude := word % f.signWeight
  let exponent := magnitude / Nat.pow 2 f.fractionBits
  let fraction := magnitude % Nat.pow 2 f.fractionBits
  if f.infinityWord < magnitude then .nan
  else if magnitude = f.infinityWord then .infinite negative
  else if exponent = 0 then .finite negative fraction f.quantum
  else .finite negative (Nat.pow 2 f.fractionBits + fraction) (f.quantum + (exponent - 1))

/-- The value of a 32-bit number. -/
def ofFloat32 (x : Float32) : Datum := ofWord .single x.toBits.toNat

/-- The value of a 64-bit number. -/
def ofFloat (x : Float) : Datum := ofWord .double x.toBits.toNat

end Datum

/-- The numerator and denominator of `m · 2^q`. -/
def scaled (m : Nat) (q : Int) : Nat × Nat :=
  if 0 ≤ q then (m * Nat.pow 2 q.toNat, 1) else (m, Nat.pow 2 (-q).toNat)

/-- The natural nearest to `num / den`, a half going to the even neighbour. -/
def roundHalfEven (num den : Nat) : Nat :=
  let quotient := num / den
  let twice := 2 * (num % den)
  if twice < den then quotient
  else if den < twice then quotient + 1
  else if quotient % 2 = 0 then quotient
  else quotient + 1

/-- Whether `2^e ≤ num / den`. -/
def powerFits (e : Int) (num den : Nat) : Bool :=
  if 0 ≤ e then den * Nat.pow 2 e.toNat ≤ num else den ≤ num * Nat.pow 2 (-e).toNat

/-- The exponent of the leading bit of `num / den`, which is positive: the
greatest `e` with `2^e ≤ num / den`. -/
def leadingBit (num den : Nat) : Int :=
  let guess : Int := (Nat.log2 num : Int) - (Nat.log2 den : Int)
  if powerFits guess num den then guess else guess - 1

/-- The exponent of the unit in which the format counts `num / den`. -/
def unitOf (f : Format) (num den : Nat) : Int := max (leadingBit num den - f.fractionBits) f.quantum

/-- `num / den` counted in units of `2^unit`. -/
def significand (unit : Int) (num den : Nat) : Nat :=
  if 0 ≤ unit then roundHalfEven num (den * Nat.pow 2 unit.toNat)
  else roundHalfEven (num * Nat.pow 2 (-unit).toNat) den

/-- The word of the format nearest to `num / den`, the sign apart. A quotient
beyond the largest finite value becomes infinity. Counting words upward counts
values upward, so a significand that rounds up to the next power of two needs
no case of its own. -/
def magnitudeWord (f : Format) (num den : Nat) : Nat :=
  if num = 0 then 0
  else
    let unit := unitOf f num den
    min ((unit - f.quantum).toNat * Nat.pow 2 f.fractionBits + significand unit num den)
      f.infinityWord

/-- The value of the format nearest to `num / den`, which is no greater than the
largest finite one, as a numerator and a denominator. -/
def rounded (f : Format) (num den : Nat) : Nat × Nat :=
  let unit := unitOf f num den
  scaled (significand unit num den) unit

/-- The word of the format nearest to `± num / den`. -/
def nearestWord (f : Format) (negative : Bool) (num den : Nat) : Nat :=
  magnitudeWord f num den + if negative then f.signWeight else 0

/-- The 32-bit number nearest to an integer. -/
def singleOfInt (n : Int) : Float32 :=
  .ofBits (nearestWord .single (decide (n < 0)) n.natAbs 1).toUInt32

/-- The 32-bit number nearest to a 64-bit one. -/
def singleOfDouble (x : Float) : Float32 :=
  match Datum.ofFloat x with
  | .nan => .ofBits 0x7fc00000
  | .infinite negative => .ofBits (if negative then 0xff800000 else 0x7f800000)
  | .finite negative m q =>
    let (num, den) := scaled m q
    .ofBits (nearestWord .single negative num den).toUInt32

/-- The 64-bit number nearest to an integer. -/
def doubleOfInt (n : Int) : Float :=
  .ofBits (nearestWord .double (decide (n < 0)) n.natAbs 1).toUInt64

/-- The least integer not below the number, as an unsigned 64-bit count: the
ends of the range stand for what lies beyond them, and zero for no number. -/
def ceilingCount (x : Float) : Nat :=
  match Datum.ofFloat x with
  | .nan => 0
  | .infinite negative => if negative then 0 else Nat.pow 2 64 - 1
  | .finite negative m q =>
    let (num, den) := scaled m q
    if negative then 0 else min ((num + den - 1) / den) (Nat.pow 2 64 - 1)

/-- The integer part of the number, as an unsigned 64-bit count, with the same
treatment of what lies beyond the range. -/
def floorCount (x : Float) : Nat :=
  match Datum.ofFloat x with
  | .nan => 0
  | .infinite negative => if negative then 0 else Nat.pow 2 64 - 1
  | .finite negative m q =>
    let (num, den) := scaled m q
    if negative then 0 else min (num / den) (Nat.pow 2 64 - 1)

end SensorBench.Number
