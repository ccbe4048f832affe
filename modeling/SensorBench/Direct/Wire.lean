/-!
# Little-endian words

A natural as a run of bytes, least significant first, and back. A run spells the
number reduced to its width, and every run is the spelling of what it spells.
-/

set_option autoImplicit false

namespace SensorBench.Wire

/-- The low `width` bytes of a natural, least significant first. -/
def bytes : Nat → Nat → List UInt8
  | 0, _ => []
  | width + 1, n => UInt8.ofNat (n % 256) :: bytes width (n / 256)

/-- The natural that a run of bytes spells. -/
def value : List UInt8 → Nat
  | [] => 0
  | b :: rest => b.toNat + 256 * value rest

@[simp] theorem length_bytes (width n : Nat) : (bytes width n).length = width := by
  induction width generalizing n with
  | zero => rfl
  | succ width ih => simp [bytes, ih]

theorem value_bytes (width n : Nat) : value (bytes width n) = n % Nat.pow 256 width := by
  induction width generalizing n with
  | zero => exact (Nat.mod_one n).symm
  | succ width ih =>
    have low : (UInt8.ofNat (n % 256)).toNat = n % 256 := by simp
    have step : Nat.pow 256 (width + 1) = 256 * Nat.pow 256 width := Nat.mul_comm _ 256
    rw [bytes, value, ih, low, step, Nat.mod_mul]

theorem bytes_value (bs : List UInt8) : bytes bs.length (value bs) = bs := by
  induction bs with
  | nil => rfl
  | cons b rest ih =>
    have hb : b.toNat < 256 := b.toNat_lt
    have low : (b.toNat + 256 * value rest) % 256 = b.toNat := by omega
    have high : (b.toNat + 256 * value rest) / 256 = value rest := by omega
    simp only [List.length_cons, bytes, value, low, high, ih]
    simp

theorem value_lt (bs : List UInt8) : value bs < Nat.pow 256 bs.length := by
  induction bs with
  | nil => exact Nat.zero_lt_one
  | cons b rest ih =>
    have hb : b.toNat < 256 := b.toNat_lt
    have step : Nat.pow 256 (b :: rest).length = 256 * Nat.pow 256 rest.length :=
      Nat.mul_comm _ 256
    rw [value, step]
    omega

end SensorBench.Wire
