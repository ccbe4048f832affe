/-!
# Blanks

The 25 code points with the Unicode property White_Space, and texts made of
nothing else.
-/

set_option autoImplicit false

namespace SensorBench.Text

/-- Whether a character has the property White_Space. -/
def isBlank (c : Char) : Bool :=
  let n := c.toNat
  (9 ≤ n && n ≤ 13) || n == 0x20 || n == 0x85 || n == 0xa0 || n == 0x1680 ||
    (0x2000 ≤ n && n ≤ 0x200a) || n == 0x2028 || n == 0x2029 || n == 0x202f || n == 0x205f ||
    n == 0x3000

/-- Whether a text is empty once blanks are taken away. -/
def isBlankText (s : String) : Bool := s.toList.all isBlank

end SensorBench.Text
