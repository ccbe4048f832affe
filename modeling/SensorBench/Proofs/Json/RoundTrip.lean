import SensorBench.Json.Printer
import SensorBench.Json.Reader
import SensorBench.Proofs.Text.Numeral

/-!
# Printed JSON read back

A data tree of texts, integers of 64 bits, flags, lists and records is read back from its
indented text (`Json.read?_pretty`). A text may have any characters. Fractions are left out,
and so is what is printed as `null` without being it.
-/

set_option autoImplicit false

namespace SensorBench.Json

mutual

/-- The trees that have a text of their own. -/
def Faithful : Data → Prop
  | .null | .flag _ | .text _ => True
  | .number (.integer n) => -(Nat.pow 2 63 : Int) ≤ n ∧ n < Nat.pow 2 64
  | .number _ | .garbled => False
  | .list items => FaithfulItems items
  | .record members => FaithfulMembers members

/-- The lists of such trees. -/
def FaithfulItems : List Data → Prop
  | [] => True
  | x :: rest => Faithful x ∧ FaithfulItems rest

/-- The members that are such trees. -/
def FaithfulMembers : List (String × Data) → Prop
  | [] => True
  | (_, x) :: rest => Faithful x ∧ FaithfulMembers rest

end

/-! ## Strings -/

theorem toList_hex {n : Nat} (hn : n < 0x20) :
    ∃ a b c d, (Text.hex 4 n).toList = [a, b, c, d] ∧ unit? a b c d = some n := by
  have hlength : ∀ n < 0x20, (Nat.toDigits 16 n).length ≤ 2 := by decide
  have hchars := Text.toList_padLeft 4 '0' (Nat.toDigits 16 n)
  have hfour : (Text.hex 4 n).toList.length = 4 := by
    rw [Text.hex, hchars, List.length_append, List.length_replicate]
    have := hlength n hn
    omega
  match hcs : (Text.hex 4 n).toList, hfour with
  | [a, b, c, d], _ =>
    refine ⟨a, b, c, d, rfl, ?_⟩
    rw [unit?, ← hcs, Text.hex, hchars, Text.valueInBase?_zeros (by decide)]
    exact Text.valueInBase?_toDigits (by decide) (by decide) n

theorem pieces?_plain {c : Char} (hquote : c ≠ '"') (hslash : c ≠ '\\') (hc : ¬c.toNat < 0x20)
    (more : List Char) :
    pieces? (c :: more) = (pieces? more).map fun (ps, rest) => (.char c :: ps, rest) := by
  rw [pieces?.eq_def]
  split
  · next heq => cases heq
  · next heq => exact absurd (List.cons.inj heq).1 hquote
  · next heq => exact absurd (List.cons.inj heq).1 hslash
  · next heq => exact absurd (List.cons.inj heq).1 hslash
  · next heq =>
    cases heq
    rw [if_neg hc]
    cases pieces? more <;> rfl

theorem pieces?_letter {l c : Char} (hl : l ≠ 'u') (hc : escaped? l = some c)
    (more : List Char) :
    pieces? ('\\' :: l :: more) = (pieces? more).map fun (ps, rest) => (.char c :: ps, rest) := by
  rw [pieces?.eq_def]
  split
  · next heq => cases heq
  · next heq => exact absurd (List.cons.inj heq).1 (by decide)
  · next heq => exact absurd (List.cons.inj (List.cons.inj heq).2).1 hl
  · next heq =>
    cases heq
    rw [hc]
    cases pieces? more <;> rfl
  · next hslash heq =>
    exact (hslash l more (List.cons.inj heq).1.symm (List.cons.inj heq).2.symm).elim

/-- An escaped character is one piece, and stands for the character. -/
theorem pieces?_escape (c : Char) (more : List Char) :
    ∃ p, pieces? (escape c ++ more) = (pieces? more).map (fun (ps, rest) => (p :: ps, rest)) ∧
      ∀ ps, assemble? (p :: ps) = (assemble? ps).map (c :: ·) := by
  unfold escape
  split
  case h_8 hquote hslash hb hf hn hr ht =>
    split
    · next hcontrol =>
      obtain ⟨x, y, z, w, hhex, hunit⟩ := toList_hex hcontrol
      have hhigh : isHighSurrogate c.toNat = false := by
        simp [isHighSurrogate]
        omega
      have hlow : isLowSurrogate c.toNat = false := by
        simp [isLowSurrogate]
        omega
      refine ⟨.unit c.toNat, ?_, fun ps => ?_⟩
      · rw [hhex]
        show pieces? ('\\' :: 'u' :: x :: y :: z :: w :: more) = _
        rw [pieces?, hunit]
        cases pieces? more <;> rfl
      · rw [assemble?.eq_def]
        simp only [hhigh, hlow, Char.ofNat_toNat, Bool.false_eq_true, if_false]
    · next hplain => exact ⟨.char c, pieces?_plain hquote hslash hplain more, fun ps => rfl⟩
  all_goals exact ⟨.char _, pieces?_letter (by decide) rfl more, fun ps => rfl⟩
theorem pieces?_quoted (cs more : List Char) :
    ∃ ps, pieces? (cs.flatMap escape ++ '"' :: more) = some (ps, more) ∧
      assemble? ps = some cs := by
  induction cs with
  | nil => exact ⟨[], rfl, rfl⟩
  | cons c rest ih =>
    obtain ⟨ps, hps, hrest⟩ := ih
    obtain ⟨p, hp, hc⟩ := pieces?_escape c (rest.flatMap escape ++ '"' :: more)
    refine ⟨p :: ps, ?_, ?_⟩
    · rw [List.flatMap_cons, List.append_assoc, hp, hps]
      rfl
    · rw [hc, hrest]
      rfl

theorem textOf_quoted {ps : List Piece} {s : String} (h : assemble? ps = some s.toList) :
    textOf ps = .text s := by
  rw [textOf, h]
  exact congrArg Data.text String.ofList_toList

theorem toList_quote (s : String) :
    (quote s).toList = '"' :: (s.toList.flatMap escape ++ ['"']) := String.toList_ofList

/-! ## Numbers -/

/-- What may follow a number: nothing that would go on with it. -/
def EndsNumber : List Char → Prop
  | [] => True
  | c :: _ => Text.isDigit c = false ∧ c ≠ '.' ∧ c ≠ 'e' ∧ c ≠ 'E'

theorem spanDigits_digits (n : Nat) {rest : List Char} (h : EndsNumber rest) :
    spanDigits (Text.digits n ++ rest) = (Text.digits n, rest) := by
  refine Text.span_append (fun c hc => Text.isDigit_of_mem_digits hc) fun c hc => ?_
  cases rest with
  | nil => cases hc
  | cons d rest =>
    cases hc
    exact h.1

/-- Neither a fraction nor an exponent follows. -/
theorem tail?_none {rest : List Char} (h : EndsNumber rest) : tail? rest = some (none, rest) := by
  cases rest with
  | nil => rfl
  | cons c rest =>
    obtain ⟨-, hpoint, hlower, hupper⟩ := h
    rw [tail?.eq_def]
    split
    · next heq => exact absurd (List.cons.inj heq).1 hpoint
    · simp [hlower, hupper]

/-- The digits of a number have the form that the reader asks for. -/
theorem digits_form (n : Nat) :
    ((Text.digits n).isEmpty ||
      (1 < (Text.digits n).length && (Text.digits n).head? == some '0')) = false := by
  rcases Text.digits_head n with h | ⟨c, rest, h, hc⟩
  · rw [h]
    rfl
  · simp [h, hc]

/-- The digits of a number do not begin with a sign. -/
theorem digits_unsigned (n : Nat) (rest : List Char) :
    ∃ c more, Text.digits n ++ rest = c :: more ∧ c ≠ '-' := by
  cases hd : Text.digits n with
  | nil => exact absurd hd (Text.digits_ne_nil n)
  | cons c ds =>
    refine ⟨c, ds ++ rest, rfl, ?_⟩
    rintro rfl
    exact absurd (Text.isDigit_of_mem_digits (hd ▸ List.mem_cons_self)) (by decide)

theorem integerOf_digits {n : Int} (hlow : -(Nat.pow 2 63 : Int) ≤ n)
    (hhigh : n < Nat.pow 2 64) :
    integerOf (n < 0) (Text.digits n.natAbs) = .integer n := by
  have hpow63 : Nat.pow 2 63 = 9223372036854775808 := rfl
  have hpow64 : Nat.pow 2 64 = 18446744073709551616 := rfl
  rw [integerOf, Text.valueInBase?_digits, Option.getD_some, hpow63, hpow64]
  by_cases hn : n < 0
  · rw [if_pos (by simpa using hn), if_pos (by omega)]
    exact congrArg Number.integer (by omega)
  · rw [if_neg (by simpa using hn), if_pos (by omega)]
    exact congrArg Number.integer (by omega)

theorem number?_signedDecimal {n : Int} (hlow : -(Nat.pow 2 63 : Int) ≤ n)
    (hhigh : n < Nat.pow 2 64) {rest : List Char} (h : EndsNumber rest) :
    number? ((Text.signedDecimal n).toList ++ rest) = some (.integer n, rest) := by
  have hvalue := integerOf_digits hlow hhigh
  rw [Text.toList_signedDecimal]
  by_cases hn : n < 0
  · rw [decide_eq_true hn] at hvalue
    rw [if_pos hn]
    show number? ('-' :: (Text.digits n.natAbs ++ rest)) = _
    rw [number?]
    simp only [spanDigits_digits _ h, digits_form, tail?_none h, hvalue, Bool.false_eq_true,
      if_false]
    rfl
  · rw [decide_eq_false hn] at hvalue
    rw [if_neg hn, List.nil_append, number?]
    · simp only [spanDigits_digits _ h, digits_form, tail?_none h, hvalue, Bool.false_eq_true,
        if_false]
      rfl
    · intro more hmore
      obtain ⟨c, ds, hcs, hc⟩ := digits_unsigned n.natAbs rest
      exact hc (List.cons.inj (hcs.symm.trans hmore)).1

/-! ## Values -/

mutual

/-- How deep a tree is and how many members it has: a bound on what its reader needs. -/
def weight : Data → Nat
  | .list items => 1 + weightItems items
  | .record members => 1 + weightMembers members
  | _ => 1

/-- The weights of the items of a list, and one for each. -/
def weightItems : List Data → Nat
  | [] => 0
  | x :: rest => 1 + weight x + weightItems rest

/-- The weights of the members of a record, and one for each. -/
def weightMembers : List (String × Data) → Nat
  | [] => 0
  | (_, x) :: rest => 1 + weight x + weightMembers rest

end

/-- A text that begins a value: not with a blank, and not with the end of a list or record. -/
def Opens (cs : List Char) : Prop :=
  ∃ c more, cs = c :: more ∧ isBlank c = false ∧ c ≠ ']' ∧ c ≠ '\x7d'

section Blanks

variable {blanks : List Char} (h : ∀ c ∈ blanks, isBlank c = true) (cs : List Char)

include h

theorem skipBlanks_append : skipBlanks (blanks ++ cs) = skipBlanks cs := by
  induction blanks with
  | nil => rfl
  | cons c rest ih =>
    rw [List.cons_append, skipBlanks, if_pos (h c List.mem_cons_self)]
    exact ih fun d hd => h d (List.mem_cons_of_mem c hd)

omit h in
theorem skipBlanks_comma : skipBlanks (',' :: cs) = ',' :: cs := rfl

theorem value?_blanks (fuel : Nat) : value? fuel (blanks ++ cs) = value? fuel cs := by
  cases fuel with
  | zero => rw [value?, value?]
  | succ fuel => rw [value?, value?, skipBlanks_append h]

theorem items?_blanks (fuel : Nat) : items? fuel (blanks ++ cs) = items? fuel cs := by
  cases fuel with
  | zero => rw [items?, items?]
  | succ fuel => rw [items?, items?, value?_blanks h]

theorem members?_blanks (fuel : Nat) : members? fuel (blanks ++ cs) = members? fuel cs := by
  cases fuel with
  | zero => rw [members?, members?]
  | succ fuel => rw [members?, members?, skipBlanks_append h]

end Blanks

theorem Opens.skipBlanks {cs : List Char} (h : Opens cs) : skipBlanks cs = cs := by
  obtain ⟨c, more, rfl, hc, -⟩ := h
  rw [Json.skipBlanks, hc]
  rfl

theorem isBlank_newline (depth : Nat) : ∀ c ∈ (newline depth).toList, isBlank c = true := by
  intro c hc
  rw [newline, String.toList_ofList] at hc
  rcases List.mem_cons.1 hc with rfl | hc
  · rfl
  · rw [List.eq_of_mem_replicate hc]
    rfl

/-- The characters that a number begins with. -/
def StartsNumber (c : Char) : Prop := Text.isDigit c = true ∨ c = '-'

theorem StartsNumber.ne {c : Char} (hc : StartsNumber c) {d : Char}
    (hd : Text.isDigit d = false) (hminus : d ≠ '-') : c ≠ d := by
  rintro rfl
  rcases hc with hc | hc
  · exact absurd (hc.symm.trans hd) (by decide)
  · exact hminus hc

theorem StartsNumber.opens {c : Char} (hc : StartsNumber c) (cs : List Char) :
    Opens (c :: cs) := by
  refine ⟨c, cs, rfl, ?_, hc.ne rfl (by decide), hc.ne rfl (by decide)⟩
  simp only [isBlank, Bool.or_eq_false_iff, beq_eq_false_iff_ne]
  exact ⟨⟨⟨hc.ne rfl (by decide), hc.ne rfl (by decide)⟩, hc.ne rfl (by decide)⟩,
    hc.ne rfl (by decide)⟩

theorem value?_number (fuel : Nat) {c : Char} (hc : StartsNumber c) (cs : List Char) :
    value? (fuel + 1) (c :: cs) = (number? (c :: cs)).map fun (n, rest) => (.number n, rest) := by
  rw [value?, (hc.opens cs).skipBlanks]
  split
  · next heq => cases heq
  · next heq => exact absurd (List.cons.inj heq).1 (hc.ne rfl (by decide))
  · next heq => exact absurd (List.cons.inj heq).1 (hc.ne rfl (by decide))
  · next heq => exact absurd (List.cons.inj heq).1 (hc.ne rfl (by decide))
  · next heq => exact absurd (List.cons.inj heq).1 (hc.ne rfl (by decide))
  · next heq => exact absurd (List.cons.inj heq).1 (hc.ne rfl (by decide))
  · next heq => exact absurd (List.cons.inj heq).1 (hc.ne rfl (by decide))
  · rfl

theorem startsNumber_signedDecimal (n : Int) (rest : List Char) :
    ∃ c more, (Text.signedDecimal n).toList ++ rest = c :: more ∧ StartsNumber c := by
  rw [Text.toList_signedDecimal]
  split
  · exact ⟨'-', Text.digits n.natAbs ++ rest, rfl, Or.inr rfl⟩
  · cases hd : Text.digits n.natAbs with
    | nil => exact absurd hd (Text.digits_ne_nil n.natAbs)
    | cons c ds =>
      exact ⟨c, ds ++ rest, rfl, Or.inl (Text.isDigit_of_mem_digits (hd ▸ List.mem_cons_self))⟩

section Words

variable (depth : Nat)

theorem toList_null : (prettyAt depth .null).toList = ['n', 'u', 'l', 'l'] := by
  simp [prettyAt]

theorem toList_true : (prettyAt depth (.flag true)).toList = ['t', 'r', 'u', 'e'] := by
  simp [prettyAt]

theorem toList_false : (prettyAt depth (.flag false)).toList = ['f', 'a', 'l', 's', 'e'] := by
  simp [prettyAt]

theorem toList_emptyList : (prettyAt depth (.list [])).toList = ['[', ']'] := by
  simp [prettyAt]

theorem toList_emptyRecord : (prettyAt depth (.record [])).toList = ['\x7b', '\x7d'] := by
  simp [prettyAt]

end Words

/-- The texts of the items behind the first one, each after a comma on a line of its own. -/
def behind (depth : Nat) (parts : List String) : List Char :=
  parts.flatMap fun p => ',' :: (newline depth).toList ++ p.toList

theorem behind_cons (depth : Nat) (part : String) (parts : List String) (rest : List Char) :
    behind depth (part :: parts) ++ rest =
      ',' :: ((newline depth).toList ++ (part.toList ++ (behind depth parts ++ rest))) := by
  simp only [behind, List.flatMap_cons, List.cons_append, List.append_assoc]

theorem endsNumber_newline (depth : Nat) (rest : List Char) :
    EndsNumber ((newline depth).toList ++ rest) := by
  rw [newline, String.toList_ofList]
  exact ⟨by decide, by decide, by decide, by decide⟩

theorem endsNumber_behind (depth outer : Nat) (parts : List String) (rest : List Char) :
    EndsNumber (behind depth parts ++ ((newline outer).toList ++ rest)) := by
  cases parts with
  | nil => exact endsNumber_newline outer rest
  | cons p parts => exact ⟨by decide, by decide, by decide, by decide⟩

/-- The text of a member. -/
def member (depth : Nat) (key : String) (x : Data) : String :=
  quote key ++ ": " ++ prettyAt depth x

theorem toList_member (depth : Nat) (key : String) (x : Data) :
    (member depth key x).toList =
      '"' :: (key.toList.flatMap escape ++ '"' :: ':' :: ' ' :: (prettyAt depth x).toList) := by
  simp [member, toList_quote]

theorem toList_prettyList (depth : Nat) (x : Data) (items : List Data) :
    (prettyAt depth (.list (x :: items))).toList =
      '[' :: ((newline (depth + 1)).toList ++ ((prettyAt (depth + 1) x).toList ++
        (behind (depth + 1) (prettyItems (depth + 1) items) ++
          ((newline depth).toList ++ [']'])))) := by
  rw [prettyAt, prettyItems]
  simp only [String.toList_append, Text.toList_join_cons, List.append_assoc]
  rfl

theorem toList_prettyRecord (depth : Nat) (key : String) (x : Data)
    (members : List (String × Data)) :
    (prettyAt depth (.record ((key, x) :: members))).toList =
      '\x7b' :: ((newline (depth + 1)).toList ++ ((member (depth + 1) key x).toList ++
          (behind (depth + 1) (prettyMembers (depth + 1) members) ++
            ((newline depth).toList ++ ['\x7d'])))) := by
  rw [prettyAt, prettyMembers, ← member]
  simp only [String.toList_append, Text.toList_join_cons, List.append_assoc]
  rfl

/-- A member is read up to what follows its value. -/
theorem members?_member {fuel depth : Nat} {key : String} {x : Data} {tail : List Char}
    {found : Option (List (String × Data) × List Char)}
    (hvalue : value? fuel ((prettyAt depth x).toList ++ tail) = some (x, tail))
    (hfound : (match skipBlanks tail with
      | '\x7d' :: rest => some ([(key, x)], rest)
      | ',' :: rest => (members? fuel rest).bind fun (ms, rest) => some ((key, x) :: ms, rest)
      | _ => none) = found) :
    members? (fuel + 1) ((member depth key x).toList ++ tail) = found := by
  obtain ⟨ps, hps, hkey⟩ := pieces?_quoted key.toList
    (':' :: ' ' :: ((prettyAt depth x).toList ++ tail))
  have hone : ∀ c ∈ [' '], isBlank c = true := List.forall_mem_singleton.2 rfl
  have hblank := (value?_blanks hone _ fuel).trans hvalue
  rw [List.singleton_append] at hblank
  have hquote : ∀ cs, skipBlanks ('"' :: cs) = '"' :: cs := fun _ => rfl
  have hcolon : ∀ cs, skipBlanks (':' :: cs) = ':' :: cs := fun _ => rfl
  simp only [toList_member, List.cons_append, List.append_assoc, members?, hquote, hps, hkey,
    hcolon, hblank, Option.bind_eq_bind, Option.bind_some, String.ofList_toList]
  exact hfound

/-- Every printed value begins as a value does. -/
theorem opens_pretty {d : Data} (hd : Faithful d) (depth : Nat) (rest : List Char) :
    Opens ((prettyAt depth d).toList ++ rest) := by
  cases d with
  | null =>
    rw [toList_null]
    exact ⟨'n', _, rfl, by decide, by decide, by decide⟩
  | flag b =>
    cases b with
    | false =>
      rw [toList_false]
      exact ⟨'f', _, rfl, by decide, by decide, by decide⟩
    | true =>
      rw [toList_true]
      exact ⟨'t', _, rfl, by decide, by decide, by decide⟩
  | number n =>
    cases n with
    | integer n =>
      obtain ⟨c, more, hcs, hc⟩ := startsNumber_signedDecimal n rest
      rw [prettyAt, number, hcs]
      exact hc.opens more
    | _ => exact hd.elim
  | text s =>
    rw [prettyAt, toList_quote]
    exact ⟨'"', _, rfl, by decide, by decide, by decide⟩
  | garbled => exact hd.elim
  | list items =>
    cases items with
    | nil =>
      rw [toList_emptyList]
      exact ⟨'[', _, rfl, by decide, by decide, by decide⟩
    | cons x items =>
      rw [toList_prettyList]
      exact ⟨'[', _, rfl, by decide, by decide, by decide⟩
  | record members =>
    cases members with
    | nil =>
      rw [toList_emptyRecord]
      exact ⟨'\x7b', _, rfl, by decide, by decide, by decide⟩
    | cons m members =>
      rw [toList_prettyRecord]
      exact ⟨'\x7b', _, rfl, by decide, by decide, by decide⟩

section Nested

variable {blanks : List Char} (h : ∀ c ∈ blanks, isBlank c = true) {cs : List Char}
  (hcs : Opens cs) (fuel : Nat)

include h hcs

theorem value?_list :
    value? (fuel + 1) ('[' :: (blanks ++ cs)) =
      (items? fuel cs).map fun (xs, rest) => (.list xs, rest) := by
  have hopen : skipBlanks ('[' :: (blanks ++ cs)) = '[' :: (blanks ++ cs) := rfl
  simp only [value?, hopen, skipBlanks_append h, hcs.skipBlanks]
  split
  · obtain ⟨c, more, heq, -, hc, -⟩ := hcs
    exact absurd (List.cons.inj heq).1.symm hc
  · rfl

theorem value?_record :
    value? (fuel + 1) ('\x7b' :: (blanks ++ cs)) =
      (members? fuel cs).map fun (ms, rest) => (.record ms, rest) := by
  have hopen : skipBlanks ('\x7b' :: (blanks ++ cs)) = '\x7b' :: (blanks ++ cs) := rfl
  simp only [value?, hopen, skipBlanks_append h, hcs.skipBlanks]
  split
  · obtain ⟨c, more, heq, -, -, hc⟩ := hcs
    exact absurd (List.cons.inj heq).1.symm hc
  · rfl

end Nested

mutual

theorem value?_pretty (d : Data) (depth fuel : Nat) (rest : List Char) (hd : Faithful d)
    (hfuel : weight d ≤ fuel) (hrest : EndsNumber rest) :
    value? fuel ((prettyAt depth d).toList ++ rest) = some (d, rest) := by
  match fuel, d with
  | 0, d => cases d <;> simp [weight] at hfuel
  | fuel + 1, .null =>
    rw [toList_null]
    simp [value?, skipBlanks, isBlank, word?]
  | fuel + 1, .flag false =>
    rw [toList_false]
    simp [value?, skipBlanks, isBlank, word?]
  | fuel + 1, .flag true =>
    rw [toList_true]
    simp [value?, skipBlanks, isBlank, word?]
  | fuel + 1, .number (.integer n) =>
    obtain ⟨c, more, hcs, hc⟩ := startsNumber_signedDecimal n rest
    have hnumber := number?_signedDecimal hd.1 hd.2 hrest
    rw [prettyAt, number]
    rw [hcs] at hnumber ⊢
    rw [value?_number fuel hc, hnumber]
    rfl
  | fuel + 1, .text s =>
    obtain ⟨ps, hps, hs⟩ := pieces?_quoted s.toList rest
    rw [prettyAt, toList_quote]
    simp [value?, skipBlanks, isBlank, hps, textOf_quoted hs]
  | fuel + 1, .list [] =>
    rw [toList_emptyList]
    simp [value?, skipBlanks, isBlank]
  | fuel + 1, .list (x :: items) =>
    have hopens := opens_pretty hd.1 (depth + 1)
    have hitems := items?_pretty x items (depth + 1) depth fuel rest hd
      (by rw [weight] at hfuel; omega)
    simp only [toList_prettyList, List.cons_append, List.append_assoc, List.nil_append]
    rw [value?_list (isBlank_newline _) (hopens _), hitems]
    rfl
  | fuel + 1, .record [] =>
    rw [toList_emptyRecord]
    simp [value?, skipBlanks, isBlank]
  | fuel + 1, .record ((key, x) :: members) =>
    have hmembers := members?_pretty key x members (depth + 1) depth fuel rest hd
      (by rw [weight] at hfuel; omega)
    simp only [toList_prettyRecord, List.cons_append, List.append_assoc, List.nil_append]
    rw [value?_record (isBlank_newline _), hmembers]
    · rfl
    · rw [toList_member]
      exact ⟨'"', _, rfl, by decide, by decide, by decide⟩
termination_by structural fuel

theorem items?_pretty (x : Data) (items : List Data) (depth outer fuel : Nat) (rest : List Char)
    (hd : FaithfulItems (x :: items)) (hfuel : weightItems (x :: items) ≤ fuel) :
    items? fuel ((prettyAt depth x).toList ++ (behind depth (prettyItems depth items) ++
      ((newline outer).toList ++ ']' :: rest))) = some (x :: items, rest) := by
  match fuel, items with
  | 0, items => simp [weightItems] at hfuel
  | fuel + 1, [] =>
    rw [weightItems] at hfuel
    rw [items?, value?_pretty x depth fuel _ hd.1 (by omega) (endsNumber_behind ..)]
    simp [prettyItems, behind, skipBlanks_append (isBlank_newline outer), skipBlanks, isBlank]
  | fuel + 1, y :: items =>
    rw [weightItems] at hfuel
    have hitems := items?_pretty y items depth outer fuel rest hd.2 (by omega)
    have hnext := behind_cons depth (prettyAt depth y) (prettyItems depth items)
      ((newline outer).toList ++ ']' :: rest)
    rw [items?, value?_pretty x depth fuel _ hd.1 (by omega) (endsNumber_behind ..)]
    simp only [prettyItems, hnext, skipBlanks_comma, items?_blanks (isBlank_newline depth), hitems,
      Option.bind_eq_bind, Option.bind_some]
termination_by structural fuel

theorem members?_pretty (key : String) (x : Data) (members : List (String × Data))
    (depth outer fuel : Nat) (rest : List Char) (hd : FaithfulMembers ((key, x) :: members))
    (hfuel : weightMembers ((key, x) :: members) ≤ fuel) :
    members? fuel ((member depth key x).toList ++ (behind depth (prettyMembers depth members) ++
      ((newline outer).toList ++ '\x7d' :: rest))) = some ((key, x) :: members, rest) := by
  match fuel, members with
  | 0, members => simp [weightMembers] at hfuel
  | fuel + 1, [] =>
    rw [weightMembers] at hfuel
    refine members?_member (value?_pretty x depth fuel _ hd.1 (by omega) (endsNumber_behind ..)) ?_
    simp [prettyMembers, behind, skipBlanks_append (isBlank_newline outer), skipBlanks, isBlank]
  | fuel + 1, (next, y) :: members =>
    rw [weightMembers] at hfuel
    have hmembers := members?_pretty next y members depth outer fuel rest hd.2 (by omega)
    have hnext := behind_cons depth (member depth next y) (prettyMembers depth members)
      ((newline outer).toList ++ '\x7d' :: rest)
    refine members?_member (value?_pretty x depth fuel _ hd.1 (by omega) (endsNumber_behind ..)) ?_
    rw [member] at hnext
    simp only [prettyMembers, hnext, skipBlanks_comma, members?_blanks (isBlank_newline depth)]
    rw [← member, hmembers]
    rfl
termination_by structural fuel

end

/-! ## Whole texts -/

theorem length_signedDecimal_pos (n : Int) : 0 < (Text.signedDecimal n).toList.length := by
  obtain ⟨c, more, hcs, -⟩ := startsNumber_signedDecimal n []
  rw [List.append_nil] at hcs
  rw [hcs]
  exact Nat.succ_pos _

mutual

/-- The text of a tree is at least as long as its reader needs. -/
theorem weight_le_length (d : Data) (depth : Nat) (hd : Faithful d) :
    weight d ≤ (prettyAt depth d).toList.length := by
  match d with
  | .null => simp [weight, toList_null]
  | .flag false => simp [weight, toList_false]
  | .flag true => simp [weight, toList_true]
  | .number (.integer n) =>
    rw [weight, prettyAt, number]
    exact length_signedDecimal_pos n
    all_goals simp
  | .text s => simp [weight, prettyAt, toList_quote]
  | .list [] => simp [weight, weightItems, toList_emptyList]
  | .list (x :: items) =>
    have hx := weight_le_length x (depth + 1) hd.1
    have hitems := weightItems_le_length items (depth + 1) hd.2
    simp only [weight, weightItems, toList_prettyList, List.length_cons, List.length_append]
    omega
  | .record [] => simp [weight, weightMembers, toList_emptyRecord]
  | .record ((key, x) :: members) =>
    have hx := weight_le_length x (depth + 1) hd.1
    have hmembers := weightMembers_le_length members (depth + 1) hd.2
    simp only [weight, weightMembers, toList_prettyRecord, toList_member, List.length_cons,
      List.length_append]
    omega

theorem weightItems_le_length (items : List Data) (depth : Nat) (hd : FaithfulItems items) :
    weightItems items ≤ (behind depth (prettyItems depth items)).length := by
  match items with
  | [] => simp [weightItems]
  | x :: items =>
    have hx := weight_le_length x depth hd.1
    have hitems := weightItems_le_length items depth hd.2
    have hcons := behind_cons depth (prettyAt depth x) (prettyItems depth items) []
    rw [List.append_nil, List.append_nil] at hcons
    rw [weightItems, prettyItems, hcons]
    simp only [List.length_cons, List.length_append]
    omega

theorem weightMembers_le_length (members : List (String × Data)) (depth : Nat)
    (hd : FaithfulMembers members) :
    weightMembers members ≤ (behind depth (prettyMembers depth members)).length := by
  match members with
  | [] => simp [weightMembers]
  | (key, x) :: members =>
    have hx := weight_le_length x depth hd.1
    have hmembers := weightMembers_le_length members depth hd.2
    have hcons := behind_cons depth (member depth key x) (prettyMembers depth members) []
    rw [List.append_nil, List.append_nil] at hcons
    rw [weightMembers, prettyMembers, ← member, hcons, toList_member]
    simp only [List.length_cons, List.length_append]
    omega

end

/-- Whatever is printed with a text of its own is read back. -/
theorem read?_pretty {d : Data} (hd : Faithful d) : read? (pretty d) = some d := by
  have hfuel := weight_le_length d 0 hd
  have hvalue := value?_pretty d 0 ((prettyAt 0 d).toList.length + 1) [] hd (by omega) trivial
  rw [List.append_nil] at hvalue
  rw [read?, pretty, hvalue]
  rfl

end SensorBench.Json
