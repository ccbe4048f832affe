import SensorBench.Text.Shown
import SensorBench.Text.Numeral

/-!
# Quoted texts in messages

A text inside a message stands in double quotes; quotes, backslashes and
characters that would not be seen are escaped.
-/

set_option autoImplicit false

namespace SensorBench.Text

/-- One character of a quoted text. A character without a letter of its own is
escaped by its code point in braces. -/
def quotedChar (c : Char) : String :=
  match c with
  | '\x00' => "\\0"
  | '\t' => "\\t"
  | '\r' => "\\r"
  | '\n' => "\\n"
  | '"' => "\\\""
  | '\\' => "\\\\"
  | c => if isShown c then String.ofList [c] else "\\u\x7b" ++ hex 1 c.toNat ++ "\x7d"

/-- A text in quotes. -/
def quoted (s : String) : String := "\"" ++ String.join (s.toList.map quotedChar) ++ "\""

end SensorBench.Text
