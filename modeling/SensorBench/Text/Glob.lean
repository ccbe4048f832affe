/-!
# Globs

A pattern is literal text with stars; a star stands for any run of characters,
the empty run included. Matching goes through the pattern once: the text before
the first star begins the name, the text after the last star ends it, and every
part between is taken at its first occurrence in what is left.
-/

set_option autoImplicit false

namespace SensorBench.Text.Glob

/-- The literal parts of a pattern: `n` stars leave `n + 1` parts. -/
def parts : List Char → List (List Char)
  | [] => [[]]
  | c :: rest =>
    if c = '*' then [] :: parts rest
    else match parts rest with
      | [] => [[c]]
      | p :: ps => (c :: p) :: ps

/-- The text after a given beginning. -/
def after? : List Char → List Char → Option (List Char)
  | [], cs => some cs
  | p :: ps, c :: cs => if p = c then after? ps cs else none
  | _ :: _, [] => none

/-- The text after the first occurrence of a part. -/
def afterFirst? (part : List Char) : List Char → Option (List Char)
  | [] => after? part []
  | c :: cs => match after? part (c :: cs) with
    | some rest => some rest
    | none => afterFirst? part cs

/-- Whether the parts after the first star fit a text: each but the last at its
first occurrence, the last at the end. -/
def fits : List (List Char) → List Char → Bool
  | [], cs => cs.isEmpty
  | [last], cs => last.isSuffixOf cs
  | part :: rest, cs => match afterFirst? part cs with
    | some cs => fits rest cs
    | none => false

/-- Whether a pattern accepts a name. -/
def accepts (pattern name : String) : Bool :=
  match parts pattern.toList with
  | [] => false
  | first :: rest => match after? first name.toList with
    | some cs => fits rest cs
    | none => false

end SensorBench.Text.Glob
