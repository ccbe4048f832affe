import SensorBench.Text.Blank
import SensorBench.Text.Numeral

/-!
# Moments

A moment of universal time as text. The reader is a lenient form of the internet
date format: blanks may stand before every number, a distance from universal
time may have a blank for its colon, and a second of sixty is a leap second. The
printer writes universal time with as many groups of three decimal places as the
moment needs.
-/

set_option autoImplicit false

namespace SensorBench

/-- A moment of universal time in the Gregorian calendar. A leap second has
`nano` at or above one thousand million. -/
structure Moment where
  year : Int
  month : Nat
  day : Nat
  hour : Nat
  minute : Nat
  second : Nat
  nano : Nat
  deriving DecidableEq, Repr

namespace Moment

/-! ## Calendar -/

/-- Whether a year has a day more. -/
def isLeap (year : Int) : Bool := year % 4 == 0 && (year % 100 != 0 || year % 400 == 0)

/-- The days of a month. -/
def daysIn (year : Int) (month : Nat) : Nat :=
  if month = 2 then if isLeap year then 29 else 28
  else if month = 4 ∨ month = 6 ∨ month = 9 ∨ month = 11 then 30
  else 31

/-- The years that have moments. -/
def yearInRange (year : Int) : Bool := -262143 ≤ year && year ≤ 262142

/-- The day after a date. -/
def nextDay (year : Int) (month day : Nat) : Int × Nat × Nat :=
  if day < daysIn year month then (year, month, day + 1)
  else if month < 12 then (year, month + 1, 1)
  else (year + 1, 1, 1)

/-- The day before a date. -/
def previousDay (year : Int) (month day : Nat) : Int × Nat × Nat :=
  if 1 < day then (year, month, day - 1)
  else if 1 < month then (year, month - 1, daysIn year (month - 1))
  else (year - 1, 12, 31)

/-- The moment with a local time turned into universal time, the local time
being ahead by some seconds, fewer than those of a day. -/
def toUniversal (m : Moment) (ahead : Int) : Option Moment :=
  let total : Int := m.hour * 3600 + m.minute * 60 + m.second - ahead
  let days := total.fdiv 86400
  let inDay := (total.fmod 86400).toNat
  let (year, month, day) :=
    if days = 1 then nextDay m.year m.month m.day
    else if days = -1 then previousDay m.year m.month m.day
    else (m.year, m.month, m.day)
  if yearInRange year then
    some ⟨year, month, day, inDay / 3600, inDay % 3600 / 60, inDay % 60, m.nano⟩
  else none

/-! ## Reading -/

/-- The text after leading blanks. -/
def skipBlanks (cs : List Char) : List Char := cs.dropWhile Text.isBlank

/-- A number of one to `width` digits, and the text after it. -/
def digits? (width : Nat) (cs : List Char) : Option (Nat × List Char) :=
  let ds := (cs.take width).takeWhile Text.isDigit
  (Text.decimal? ds).map fun n => (n, cs.drop ds.length)

/-- A number of up to two digits within bounds, and the text after it. -/
def field? (low high : Nat) (cs : List Char) : Option (Nat × List Char) := do
  let (n, rest) ← digits? 2 (skipBlanks cs)
  if low ≤ n ∧ n ≤ high then some (n, rest) else none

/-- A year: four digits at most, or any number of them after a sign. -/
def year? (cs : List Char) : Option (Int × List Char) :=
  match skipBlanks cs with
  | '-' :: rest => (digits? rest.length rest).map fun (n, rest) => (-(n : Int), rest)
  | '+' :: rest => (digits? rest.length rest).map fun (n, rest) => ((n : Int), rest)
  | rest => (digits? 4 rest).map fun (n, rest) => ((n : Int), rest)

/-- The text after blanks and a given character. -/
def mark? (c : Char) (cs : List Char) : Option (List Char) :=
  match skipBlanks cs with
  | d :: rest => if c = d then some rest else none
  | [] => none

/-- The fraction of a second in nanoseconds, zero if there is none, and the text
after it. Places beyond the ninth are dropped. -/
def nano? (cs : List Char) : Option (Nat × List Char) :=
  match cs with
  | '.' :: rest => do
    let (n, after) ← digits? 9 rest
    let places := rest.length - after.length
    some (n * Nat.pow 10 (9 - places), after.dropWhile Text.isDigit)
  | cs => some (0, cs)

/-- The seconds by which a local time is ahead of universal time, and the text
after them. -/
def ahead? (cs : List Char) : Option (Int × List Char) := do
  let (negative, rest) ← match cs with
    | '+' :: rest => some (false, rest)
    | '-' :: rest => some (true, rest)
    | '−' :: rest => some (true, rest)
    | _ => none
  match rest with
  | a :: b :: rest =>
    let hours ← Text.decimal? [a, b]
    match rest.dropWhile fun c => c == ':' || Text.isBlank c with
    | c :: d :: rest =>
      let minutes ← Text.decimal? [c, d]
      let seconds : Int := hours * 3600 + minutes * 60
      if minutes < 60 ∧ seconds < 86400 then some (if negative then -seconds else seconds, rest)
      else none
    | _ => none
  | _ => none

/-- The name of universal time or the distance from it. -/
def zone? (cs : List Char) : Option (Int × List Char) :=
  match cs with
  | 'Z' :: rest | 'z' :: rest => some (0, rest)
  | a :: b :: c :: rest =>
    if [a, b, c].map Char.toLower = ['u', 't', 'c'] then some (0, rest) else ahead? cs
  | cs => ahead? cs

/-- The moment that a text names. -/
def parse? (s : String) : Option Moment := do
  let (year, rest) ← year? s.toList
  let rest ← mark? '-' rest
  let (month, rest) ← field? 1 12 rest
  let rest ← mark? '-' rest
  let (day, rest) ← field? 1 31 rest
  let rest ← match rest with
    | 'T' :: rest | 't' :: rest | ' ' :: rest => some rest
    | _ => none
  let (hour, rest) ← field? 0 23 rest
  let rest ← mark? ':' rest
  let (minute, rest) ← field? 0 59 rest
  let rest ← mark? ':' rest
  let (second, rest) ← field? 0 60 rest
  let (nano, rest) ← nano? rest
  let (ahead, rest) ← zone? (skipBlanks rest)
  if (skipBlanks rest).isEmpty ∧ yearInRange year ∧ day ≤ daysIn year month then
    let (second, nano) := if second = 60 then (59, nano + 1000000000) else (second, nano)
    toUniversal ⟨year, month, day, hour, minute, second, nano⟩ ahead
  else none

/-! ## Counting -/

/-- The date that is a number of days after the first of March of the year zero.
Years are counted from March on, so that a leap day ends its year. -/
def dateOfDays (days : Int) : Int × Nat × Nat :=
  let era := days / 146097
  let inEra := (days % 146097).toNat
  let yearInEra := (inEra - inEra / 1460 + inEra / 36524 - inEra / 146096) / 365
  let inYear := inEra - (365 * yearInEra + yearInEra / 4 - yearInEra / 100)
  let month := (5 * inYear + 2) / 153
  let day := inYear - (153 * month + 2) / 5 + 1
  let year := era * 400 + yearInEra
  if month < 10 then (year, month + 3, day) else (year + 1, month - 9, day)

/-- The days from the first of March of the year zero to the start of 1970. -/
def daysBefore1970 : Int := 719468

/-- The moment that is a number of nanoseconds after the start of 1970. -/
def since1970 (nanos : Int) : Moment :=
  let seconds := nanos / 1000000000
  let (year, month, day) := dateOfDays (daysBefore1970 + seconds / 86400)
  let clock := (seconds % 86400).toNat
  ⟨year, month, day, clock / 3600, clock / 60 % 60, clock % 60, (nanos % 1000000000).toNat⟩

/-! ## Writing -/

/-- A number with leading zeros. -/
def padded (width n : Nat) : String := Text.padLeft width '0' (Text.decimal n)

/-- A year: four digits, or a sign and at least four digits outside of
those. -/
def yearText (year : Int) : String :=
  if 0 ≤ year ∧ year ≤ 9999 then padded 4 year.toNat
  else (if year < 0 then "-" else "+") ++ padded 4 year.natAbs

/-- The fraction of a second in no, three, six or nine places. -/
def nanoText (nano : Nat) : String :=
  if nano = 0 then ""
  else if nano % 1000000 = 0 then "." ++ padded 3 (nano / 1000000)
  else if nano % 1000 = 0 then "." ++ padded 6 (nano / 1000)
  else "." ++ padded 9 nano

/-- The moment as text. -/
def text (m : Moment) : String :=
  let (second, nano) :=
    if m.nano < 1000000000 then (m.second, m.nano) else (m.second + 1, m.nano - 1000000000)
  yearText m.year ++ "-" ++ padded 2 m.month ++ "-" ++ padded 2 m.day ++ "T" ++
    padded 2 m.hour ++ ":" ++ padded 2 m.minute ++ ":" ++ padded 2 second ++ nanoText nano ++ "Z"

end Moment

end SensorBench
