import SensorBench.Number.Shortest

/-!
# Layouts of decimals

Which digits a number has is settled elsewhere; a `Layout` is how an output
format writes them: where positional notation ends, whether an integral value
keeps a fraction, and how an exponent and the values that are no finite number
are spelled. Numbers with a set count of places are rounded from the exact
binary value.
-/

set_option autoImplicit false

namespace SensorBench.Number

/-- How an output format lays out a shortest decimal. Positional notation is
used for decimal exponents from `lowest` to `highest`, and always if there are
no such bounds. -/
structure Layout where
  bounds : Option (Int × Int)
  keepFraction : Bool
  plusInExponent : Bool
  nan : String
  infinity : String
  negativeInfinity : String

namespace Layout

/-- A digit sequence with the point after `whole` digits, zeros supplied where
it has none. -/
def positional (keepFraction : Bool) (d : Decimal) : String :=
  let ds := Text.digits d.digits
  let tail := if keepFraction then ".0" else ""
  if 0 ≤ d.exponent then
    String.ofList (ds ++ List.replicate d.exponent.toNat '0') ++ tail
  else
    let places := (-d.exponent).toNat
    if places < ds.length then
      String.ofList (ds.take (ds.length - places) ++ '.' :: ds.drop (ds.length - places))
    else
      String.ofList ('0' :: '.' :: List.replicate (places - ds.length) '0' ++ ds)

/-- One digit, the others after a point, and the exponent of the first. -/
def scientific (plus : Bool) (d : Decimal) : String :=
  let ds := Text.digits d.digits
  let lead : Int := d.exponent + (ds.length - 1 : Nat)
  let mantissa := match ds with
    | [] => "0"
    | [c] => String.ofList [c]
    | c :: rest => String.ofList (c :: '.' :: rest)
  let sign := if lead < 0 then "-" else if plus then "+" else ""
  mantissa ++ "e" ++ sign ++ Text.decimal lead.natAbs

/-- The text of a binary value. -/
def render (l : Layout) (f : Format) : Datum → String
  | .nan => l.nan
  | .infinite negative => if negative then l.negativeInfinity else l.infinity
  | .finite negative m q =>
    let d := shortest f m q
    let lead : Int := d.exponent + (Text.digitCount d.digits - 1 : Nat)
    let usePositional := match l.bounds with
      | none => true
      | some (lowest, highest) => m == 0 || (decide (lowest ≤ lead) && decide (lead ≤ highest))
    (if negative then "-" else "") ++
      (if usePositional then positional l.keepFraction d else scientific l.plusInExponent d)

/-- Numbers inside messages: always positional, integral values without a
fraction. -/
def plain : Layout := ⟨none, false, false, "NaN", "inf", "-inf"⟩

/-- Numbers in a diagnostic listing: a fraction is always shown, and very small
or large values take an exponent. -/
def listing : Layout := ⟨some (-4, 15), true, false, "NaN", "inf", "-inf"⟩

end Layout

/-- A binary value with a set number of decimal places, rounded from its exact
value with halves going to the even digit. The sign of a negative value stays
even where only zeros remain. -/
def fixed (places : Nat) : Datum → String
  | .nan => "NaN"
  | .infinite negative => if negative then "-inf" else "inf"
  | .finite negative m q =>
    let (num, den) := scaled m q
    let n := roundHalfEven (num * Nat.pow 10 places) den
    let whole := Text.decimal (n / Nat.pow 10 places)
    let fraction := if places = 0 then ""
      else "." ++ Text.padLeft places '0' (Text.decimal (n % Nat.pow 10 places))
    (if negative then "-" else "") ++ whole ++ fraction

/-- A 32-bit number in a message. -/
def plainSingle (x : Float32) : String := Layout.plain.render .single (.ofFloat32 x)

/-- A 32-bit number in a diagnostic listing. -/
def listingSingle (x : Float32) : String := Layout.listing.render .single (.ofFloat32 x)

/-- A 32-bit number with a set number of places. -/
def fixedSingle (places : Nat) (x : Float32) : String := fixed places (.ofFloat32 x)

/-- A 64-bit number with a set number of places. -/
def fixedDouble (places : Nat) (x : Float) : String := fixed places (.ofFloat x)

end SensorBench.Number
