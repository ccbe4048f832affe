/-!
# Words

Times, lengths and sizes are kept in words of 64 bits. A sum or a product that does not fit its
word ends the program.
-/

set_option autoImplicit false

namespace SensorBench.Number

/-- What is said of a sum that does not fit its word. -/
def sumOverflow : String := "attempt to add with overflow"

/-- What is said of a product that does not fit its word. -/
def productOverflow : String := "attempt to multiply with overflow"

/-- A count that has to fit its word, or what is said if it does not. -/
def inWord (n : Nat) (overflow : String) : Except String Nat :=
  if n < UInt64.size then .ok n else .error overflow

variable {n : Nat} {overflow : String}

theorem inWord_of_lt (h : n < UInt64.size) : inWord n overflow = .ok n := if_pos h

theorem inWord_of_le (h : UInt64.size ≤ n) : inWord n overflow = .error overflow :=
  if_neg (Nat.not_lt.2 h)

end SensorBench.Number
