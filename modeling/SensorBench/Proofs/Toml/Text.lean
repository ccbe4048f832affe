import SensorBench.Proofs.Text.Numeral
import SensorBench.Toml.Printer
import SensorBench.Toml.Text

/-!
# Written strings read back

Of six ways to write a string the printer takes the first that fits its characters. Each of
them is read back, whatever characters the string has (`string?_quoteChars`): characters that
stand for themselves, escapes, and runs of quotes inside long strings and at their end.
-/

set_option autoImplicit false

namespace SensorBench.Toml

/-- What may follow a string: no further quote. -/
def EndsString (rest : List Char) : Prop := ∀ c ∈ rest.head?, c ≠ '"' ∧ c ≠ '\''

/-- The characters that a string does not have to escape: no control character but a tab. -/
theorem isPlain_of_not_isControl {c : Char} (hc : isControl c = false) (hline : c ≠ '\n') :
    isPlain c = true := by
  by_cases htab : c = '\t'
  · rw [htab]
    rfl
  · simp [isControl, htab, hline] at hc
    simp [isPlain, htab]
    omega

theorem isControl_toNat {c : Char} (hc : isControl c = true) : c.toNat < 0x80 := by
  simp [isControl] at hc
  omega

theorem isControl_return : isControl '\r' = true := by
  decide

theorem lineEnd?_of_ne {c : Char} {rest : List Char} (hline : c ≠ '\n') (hreturn : c ≠ '\r') :
    lineEnd? (c :: rest) = none := by
  rw [lineEnd?.eq_def]
  split
  · next heq => exact absurd (List.cons.inj heq).1 hline
  · next heq => exact absurd (List.cons.inj heq).1 hreturn
  · rfl

/-! ## Escapes -/

/-- The code point of a control character is read back from its four digits. -/
theorem toList_upperHex {n : Nat} (hn : n < 0x80) :
    ∃ a b c d, (Text.upperHex 4 n).toList = [a, b, c, d] ∧
      Text.valueInBase? 16 [a, b, c, d] = some n := by
  have hlength : ∀ n < 0x80, (Nat.toDigits 16 n).length ≤ 2 := by decide
  have hchars := Text.toList_padLeft 4 '0' ((Nat.toDigits 16 n).map Char.toUpper)
  have hfour : (Text.upperHex 4 n).toList.length = 4 := by
    rw [Text.upperHex, hchars, List.length_append, List.length_replicate, List.length_map]
    have := hlength n hn
    omega
  match hcs : (Text.upperHex 4 n).toList, hfour with
  | [a, b, c, d], _ =>
    refine ⟨a, b, c, d, rfl, ?_⟩
    rw [← hcs, Text.upperHex, hchars, Text.valueInBase?_zeros (by decide)]
    exact Text.valueInBase?_map_toDigits (by decide) (by decide)
      (fun hd => Text.hexValue?_upperDigit hd) n

theorem escapedPoint?_toNat {ds : List Char} {c : Char}
    (h : Text.valueInBase? 16 ds = some c.toNat) : escapedPoint? ds = some c := by
  have hvalid : c.toNat.isValidChar := c.valid
  rw [escapedPoint?, h]
  show (if h : c.toNat.isValidChar then some (Char.ofNatAux c.toNat h) else none) = some c
  rw [dif_pos hvalid]
  rfl

/-- A character is written as itself, or as a backslash with an escape that is read back. -/
theorem escape_cases (c : Char) :
    (escape c = [c] ∧ c ≠ '"' ∧ c ≠ '\\' ∧ c ≠ '\n' ∧ isControl c = false) ∨
      ∃ l more, escape c = '\\' :: l :: more ∧ l ≠ ' ' ∧ l ≠ '\t' ∧ l ≠ '\n' ∧ l ≠ '\r' ∧
        ∀ rest, escape? (l :: more ++ rest) = some (c, rest) := by
  unfold escape
  split
  case h_8 hb ht hn hf hr hquote hslash =>
    cases hc : isControl c with
    | false => exact Or.inl ⟨rfl, hquote, hslash, hn, rfl⟩
    | true =>
      obtain ⟨x, y, z, w, hhex, hvalue⟩ := toList_upperHex (isControl_toNat hc)
      refine Or.inr ⟨'u', [x, y, z, w], by rw [hhex]; rfl, by decide, by decide, by decide,
        by decide, fun rest => ?_⟩
      show (escapedPoint? [x, y, z, w]).map _ = _
      rw [escapedPoint?_toNat hvalue]
      rfl
  all_goals
    exact Or.inr ⟨_, [], rfl, by decide, by decide, by decide, by decide, fun rest => rfl⟩

/-! ## Strings on one line -/

section Short

variable {c : Char} {cs rest : List Char} {fuel : Nat}

theorem basic?_plain (hquote : c ≠ '"') (hslash : c ≠ '\\') (hc : isPlain c = true) :
    basic? (fuel + 1) (c :: rest) = (basic? fuel rest).map fun (s, rest) => (c :: s, rest) := by
  rw [basic?, if_pos hc]
  · exact hquote
  · exact hslash

/-- A string is read back from parts each of which is read as one of its characters. -/
theorem basic?_parts {p : Char → List Char}
    (hp : ∀ c ∈ cs, ∀ fuel rest, basic? (fuel + 1) (p c ++ rest) =
      (basic? fuel rest).map fun (s, rest) => (c :: s, rest)) (hfuel : cs.length < fuel) :
    basic? fuel (cs.flatMap p ++ '"' :: rest) = some (cs, rest) := by
  induction cs generalizing fuel with
  | nil =>
    obtain ⟨fuel, rfl⟩ : ∃ k, fuel = k + 1 := ⟨fuel - 1, by omega⟩
    rfl
  | cons c cs ih =>
    obtain ⟨fuel, rfl⟩ : ∃ k, fuel = k + 1 := ⟨fuel - 1, by omega⟩
    rw [List.flatMap_cons, List.append_assoc, hp c List.mem_cons_self,
      ih (fun d hd => hp d (List.mem_cons_of_mem c hd)) (Nat.lt_of_succ_lt_succ hfuel)]
    rfl

theorem basic?_unescaped (hquote : '"' ∉ cs) (hslash : '\\' ∉ cs)
    (hcs : ∀ c ∈ cs, isPlain c = true) (hfuel : cs.length < fuel) :
    basic? fuel (cs ++ '"' :: rest) = some (cs, rest) := by
  have hread : basic? fuel (cs.flatMap (fun c => [c]) ++ '"' :: rest) = some (cs, rest) :=
    basic?_parts (fun c hc _ _ => basic?_plain (fun h => hquote (h ▸ hc))
      (fun h => hslash (h ▸ hc)) (hcs c hc)) hfuel
  rwa [List.flatMap_singleton'] at hread

theorem literal?_unescaped (hquote : '\'' ∉ cs) (hcs : ∀ c ∈ cs, isPlain c = true) :
    literal? (cs ++ '\'' :: rest) = some (cs, rest) := by
  induction cs with
  | nil => rfl
  | cons c cs ih =>
    rw [List.mem_cons, not_or] at hquote
    rw [List.cons_append, literal?, if_pos (hcs c List.mem_cons_self),
      ih hquote.2 fun d hd => hcs d (List.mem_cons_of_mem c hd)]
    · rfl
    · exact Ne.symm hquote.1

theorem basic?_escape (c : Char) :
    basic? (fuel + 1) (escape c ++ rest) =
      (basic? fuel rest).map fun (s, rest) => (c :: s, rest) := by
  rcases escape_cases c with ⟨hself, hquote, hslash, hline, hc⟩ |
    ⟨l, more, htext, -, -, -, -, hread⟩
  · rw [hself]
    exact basic?_plain hquote hslash (isPlain_of_not_isControl hc hline)
  · have hl := hread rest
    rw [htext]
    show basic? (fuel + 1) ('\\' :: (l :: more ++ rest)) = _
    simp only [basic?, hl, Option.bind_eq_bind, Option.bind_some]
    cases basic? fuel rest <;> rfl

theorem basic?_escaped (hfuel : cs.length < fuel) :
    basic? fuel (cs.flatMap escape ++ '"' :: rest) = some (cs, rest) :=
  basic?_parts (fun c _ _ _ => basic?_escape c) hfuel

end Short

/-! ## Strings over several lines -/

/-- The quotes that a text begins with. -/
def lead (quote : Char) (cs : List Char) : Nat := (cs.takeWhile (· == quote)).length

section Long

variable {quote c : Char} {cs body rest : List Char} {fuel : Nat}

theorem lead_cons_self (quote : Char) (cs : List Char) :
    lead quote (quote :: cs) = lead quote cs + 1 := by
  simp [lead]

theorem lead_cons_of_ne (hc : c ≠ quote) : lead quote (c :: cs) = 0 := by
  simp [lead, hc]

theorem lead_le_longestRun (quote : Char) (cs : List Char) :
    lead quote cs ≤ longestRun quote cs := by
  cases cs with
  | nil => exact Nat.le_refl 0
  | cons c cs =>
    rw [longestRun]
    split
    · next hc =>
      rw [hc, lead_cons_self, lead]
      omega
    · next hc =>
      rw [lead_cons_of_ne hc]
      exact Nat.zero_le _

theorem longestRun_le_cons (quote c : Char) (cs : List Char) :
    longestRun quote cs ≤ longestRun quote (c :: cs) := by
  rw [longestRun]
  split <;> omega

/-- Inside a string no two quotes close it. -/
theorem closing?_inside (hbody : lead quote body ≤ 2) (hall : ¬∀ c ∈ body, c = quote)
    (more : List Char) : closing? quote (body ++ more) = none := by
  have hlead : lead quote (body ++ more) = lead quote body := by
    clear hbody
    induction body with
    | nil => exact absurd (fun _ h => absurd h List.not_mem_nil) hall
    | cons c cs ih =>
      by_cases hc : c = quote
      · subst hc
        rw [List.cons_append, lead_cons_self, lead_cons_self, ih]
        intro hcs
        exact hall fun d hd => (List.mem_cons.1 hd).elim id (hcs d)
      · rw [List.cons_append, lead_cons_of_ne hc, lead_cons_of_ne hc]
  rw [closing?, if_neg]
  show ¬3 ≤ lead quote (body ++ more)
  omega

theorem lead_replicate (k : Nat) (hrest : ∀ c ∈ rest.head?, c ≠ quote) :
    lead quote (List.replicate k quote ++ rest) = k := by
  induction k with
  | zero =>
    cases rest with
    | nil => rfl
    | cons c rest => exact lead_cons_of_ne (hrest c rfl)
  | succ k ih => rw [List.replicate_succ, List.cons_append, lead_cons_self, ih]

/-- At the end of a string up to two quotes of its own stand before the closing three. -/
theorem closing?_end (hbody : lead quote body ≤ 2) (hall : ∀ c ∈ body, c = quote)
    (hrest : ∀ c ∈ rest.head?, c ≠ quote) :
    closing? quote (body ++ quote :: quote :: quote :: rest) = some (body, rest) := by
  obtain ⟨k, rfl⟩ : ∃ k, body = List.replicate k quote :=
    ⟨body.length, List.eq_replicate_of_mem hall⟩
  have htext : List.replicate k quote ++ quote :: quote :: quote :: rest =
      List.replicate (k + 3) quote ++ rest := by
    rw [← List.replicate_append_replicate, List.append_assoc]
    rfl
  have hk : k ≤ 2 := by
    have hlead : lead quote (List.replicate k quote ++ []) = k := lead_replicate k (by simp)
    rw [List.append_nil] at hlead
    omega
  have hrun := lead_replicate (k + 3) hrest
  rw [lead] at hrun
  rw [htext]
  simp only [closing?, hrun]
  rw [if_pos (by omega), show min (k + 3 - 3) 2 = k by omega, List.drop_left' (by simp)]

/-- How the characters of a long string stand in its text. A quote stands for itself and leads
a run of at most two, any other character is a part of the text that is read as it. -/
inductive Body (read : Nat → List Char → Option (List Char × List Char)) (quote : Char) :
    List Char → List Char → Prop
  | done : Body read quote [] []
  | quote {cs text : List Char} (hrun : lead quote (quote :: text) ≤ 2)
      (more : Body read quote cs text) : Body read quote (quote :: cs) (quote :: text)
  | part {c l : Char} (ls : List Char) {cs text : List Char} (hl : l ≠ quote)
      (hread : ∀ fuel rest, read (fuel + 1) (l :: ls ++ rest) =
        (read fuel rest).map fun (s, rest) => (c :: s, rest))
      (more : Body read quote cs text) : Body read quote (c :: cs) (l :: ls ++ text)

namespace Body

variable {read : Nat → List Char → Option (List Char × List Char)} {text : List Char}

theorem length_le (h : Body read quote cs text) : cs.length ≤ text.length := by
  induction h with
  | done => exact Nat.le_refl 0
  | quote _ _ ih => exact Nat.succ_le_succ ih
  | part _ _ _ _ ih =>
    rw [List.length_append, List.length_cons, List.length_cons]
    omega

/-- A text of nothing but quotes stands for itself. -/
theorem eq_of_quotes (h : Body read quote cs text) (hall : ∀ c ∈ text, c = quote) : cs = text := by
  induction h with
  | done => rfl
  | quote _ _ ih => rw [ih fun c hc => hall c (List.mem_cons_of_mem quote hc)]
  | part _ hl => exact absurd (hall _ List.mem_cons_self) hl

/-- A reader that looks for the closing delimiter at each quote reads a text back. -/
theorem read_back (h : Body read quote cs text)
    (hquote : ∀ fuel rest, read (fuel + 1) (quote :: rest) =
      match closing? quote (quote :: rest) with
      | some found => some found
      | none => (read fuel rest).map fun (s, rest) => (quote :: s, rest))
    (hrest : ∀ c ∈ rest.head?, c ≠ quote) (hfuel : cs.length < fuel) :
    read fuel (text ++ quote :: quote :: quote :: rest) = some (cs, rest) := by
  induction h generalizing fuel with
  | done =>
    obtain ⟨fuel, rfl⟩ : ∃ k, fuel = k + 1 := ⟨fuel - 1, by omega⟩
    have hend : closing? quote ([] ++ quote :: quote :: quote :: rest) = some ([], rest) :=
      closing?_end (Nat.zero_le 2) (by simp) hrest
    rw [List.nil_append] at hend ⊢
    rw [hquote, hend]
  | @quote cs text hrun more ih =>
    obtain ⟨fuel, rfl⟩ : ∃ k, fuel = k + 1 := ⟨fuel - 1, by omega⟩
    -- nothing but quotes is left where the closing delimiter is found
    by_cases hall : ∀ c ∈ quote :: text, c = quote
    · have hend := closing?_end hrun hall hrest
      rw [List.cons_append] at hend ⊢
      rw [hquote, hend, more.eq_of_quotes fun c hc => hall c (List.mem_cons_of_mem quote hc)]
    · have hinside := closing?_inside hrun hall (quote :: quote :: quote :: rest)
      rw [List.cons_append] at hinside ⊢
      rw [hquote, hinside, ih (Nat.lt_of_succ_lt_succ hfuel)]
      rfl
  | part _ _ hread _ ih =>
    obtain ⟨fuel, rfl⟩ : ∃ k, fuel = k + 1 := ⟨fuel - 1, by omega⟩
    rw [List.append_assoc, hread, ih (Nat.lt_of_succ_lt_succ hfuel)]
    rfl

/-- Characters that all stand for themselves, without three quotes in a row. -/
theorem unescaped (hrun : longestRun quote cs ≤ 2)
    (hread : ∀ c ∈ cs, c ≠ quote → ∀ fuel rest, read (fuel + 1) (c :: rest) =
      (read fuel rest).map fun (s, rest) => (c :: s, rest)) : Body read quote cs cs := by
  induction cs with
  | nil => exact done
  | cons c cs ih =>
    have hcs := ih (Nat.le_trans (longestRun_le_cons quote c cs) hrun)
      fun d hd => hread d (List.mem_cons_of_mem c hd)
    by_cases hc : c = quote
    · subst hc
      exact Body.quote (Nat.le_trans (lead_le_longestRun c (c :: cs)) hrun) hcs
    · exact part [] hc (hread c List.mem_cons_self hc) hcs

end Body

/-- What stands for itself in a string of several lines is no line end but a line feed. -/
theorem leadingLineEnd?_plain (hline : c ≠ '\n') (hc : isControl c = false) :
    leadingLineEnd? (c :: rest) = none := by
  rw [leadingLineEnd?.eq_def]
  split
  · next heq => exact absurd (List.cons.inj heq).1 hline
  · next heq =>
    rw [(List.cons.inj heq).1, isControl_return] at hc
    exact absurd hc (by decide)
  · rfl

theorem longLiteral?_plain (hquote : c ≠ '\'') (hc : isControl c = false) :
    longLiteral? (fuel + 1) (c :: rest) =
      (longLiteral? fuel rest).map fun (s, rest) => (c :: s, rest) := by
  by_cases hline : c = '\n'
  · subst hline
    rfl
  · rw [longLiteral?, leadingLineEnd?_plain hline hc, if_pos (isPlain_of_not_isControl hc hline)]
    exact hquote

theorem longBasic?_plain (hquote : c ≠ '"') (hslash : c ≠ '\\') (hc : isControl c = false) :
    longBasic? (fuel + 1) (c :: rest) =
      (longBasic? fuel rest).map fun (s, rest) => (c :: s, rest) := by
  by_cases hline : c = '\n'
  · subst hline
    rfl
  · rw [longBasic?, leadingLineEnd?_plain hline hc, if_pos (isPlain_of_not_isControl hc hline)]
    · exact hquote
    · exact hslash

/-- A backslash takes no line end away if an escape follows. -/
theorem longBasic?_backslash {l : Char} {more : List Char} (hblank : l ≠ ' ') (htab : l ≠ '\t')
    (hline : l ≠ '\n') (hreturn : l ≠ '\r') (hread : escape? (l :: more) = some (c, rest)) :
    longBasic? (fuel + 1) ('\\' :: l :: more) =
      (longBasic? fuel rest).map fun (s, rest) => (c :: s, rest) := by
  have hskip : skipBlanks (l :: more) = l :: more := by
    rw [skipBlanks, if_neg (by simp [hblank, htab])]
  rw [longBasic?, hskip, lineEnd?_of_ne hline hreturn]
  simp only [Option.isSome_none, Bool.false_eq_true, if_false, hread, Option.bind_eq_bind,
    Option.bind_some]
  cases longBasic? fuel rest <;> rfl

/-- A character of a basic string is a part of its own in a string of several lines. -/
theorem longBasic?_escape (c : Char) : ∃ l ls, escape c = l :: ls ∧ l ≠ '"' ∧
    ∀ fuel rest, longBasic? (fuel + 1) (l :: ls ++ rest) =
      (longBasic? fuel rest).map fun (s, rest) => (c :: s, rest) := by
  rcases escape_cases c with ⟨hself, hquote, hslash, -, hc⟩ |
    ⟨l, more, htext, hblank, htab, hline, hreturn, hread⟩
  · exact ⟨c, [], hself, hquote, fun _ _ => longBasic?_plain hquote hslash hc⟩
  · exact ⟨'\\', l :: more, htext, by decide, fun _ rest =>
      longBasic?_backslash hblank htab hline hreturn (hread rest)⟩

/-- Behind a run of quotes only so many more stand unescaped that there are at most two. -/
theorem lead_escapeLong {run : Nat} (hrun : run ≤ 2) (cs : List Char) :
    lead '"' (escapeLong run cs) ≤ 2 - run := by
  induction cs generalizing run with
  | nil => exact Nat.zero_le _
  | cons c cs ih =>
    unfold escapeLong
    split
    · next heq => cases heq
    · rw [lead_cons_of_ne (by decide)]
      exact Nat.zero_le _
    · next heq =>
      obtain rfl := (List.cons.inj heq).2
      split
      · have : lead '"' (escapeLong (run + 1) cs) ≤ 2 - (run + 1) := ih (by omega)
        rw [lead_cons_self]
        omega
      · rw [lead_cons_of_ne (by decide)]
        exact Nat.zero_le _
    · next heq =>
      obtain ⟨l, ls, htext, hl, -⟩ := longBasic?_escape c
      rw [← (List.cons.inj heq).1, htext, List.cons_append, lead_cons_of_ne hl]
      exact Nat.zero_le _

/-- A character, a line feed apart, is written as in a basic string, and a third quote in a row
gets a backslash, so that no run grows long. -/
theorem Body.escaped {run : Nat} (hrun : run ≤ 2) (cs : List Char) :
    Body longBasic? '"' cs (escapeLong run cs) := by
  induction cs generalizing run with
  | nil => exact done
  | cons c cs ih =>
    have hlead := lead_escapeLong hrun (c :: cs)
    revert hlead
    unfold escapeLong
    split
    · next heq => cases heq
    · next heq =>
      obtain ⟨rfl, rfl⟩ := List.cons.inj heq
      exact fun _ => part [] (by decide)
        (fun _ _ => longBasic?_plain (by decide) (by decide) (by decide)) (ih (Nat.zero_le 2))
    · next heq =>
      obtain ⟨rfl, rfl⟩ := List.cons.inj heq
      split
      · exact fun hlead => Body.quote (Nat.le_trans hlead (Nat.sub_le 2 run)) (ih (by omega))
      · exact fun _ => part ['"'] (by decide) (fun _ _ => longBasic?_backslash (by decide)
          (by decide) (by decide) (by decide) rfl) (ih (Nat.zero_le 2))
    · next heq =>
      obtain ⟨rfl, rfl⟩ := List.cons.inj heq
      obtain ⟨l, ls, htext, hl, hread⟩ := longBasic?_escape c
      exact fun _ => htext ▸ part ls hl hread (ih (Nat.zero_le 2))

end Long

/-! ## Strings of every kind -/

/-- The strings that a spelling is for. -/
def Suits (cs : List Char) : Spelling → Prop
  | .basic => '\n' ∉ cs ∧ '\\' ∉ cs ∧ '"' ∉ cs ∧ ∀ c ∈ cs, isControl c = false
  | .literal => '\n' ∉ cs ∧ '\'' ∉ cs ∧ ∀ c ∈ cs, isControl c = false
  | .longBasic => '\\' ∉ cs ∧ longestRun '"' cs ≤ 2 ∧ ∀ c ∈ cs, isControl c = false
  | .longLiteral => longestRun '\'' cs ≤ 2 ∧ ∀ c ∈ cs, isControl c = false
  | .escaped => True
  | .longEscaped => '\n' ∈ cs

theorem spelling_suits (cs : List Char) : Suits cs (spelling cs) := by
  unfold spelling
  dsimp only
  split_ifs <;> simp_all [Suits]

section Written

variable {quote : Char} {cs body rest : List Char}

/-- A string on one line is not taken for the beginning of a longer delimiter. -/
theorem opens_once (hbody : ∀ c ∈ body.head?, c ≠ quote) (hrest : ∀ c ∈ rest.head?, c ≠ quote)
    (more : List Char) : body ++ quote :: rest ≠ quote :: quote :: more := by
  intro h
  cases body with
  | nil => exact hrest quote (by rw [(List.cons.inj h).2]; rfl) rfl
  | cons c body => exact hbody c rfl (List.cons.inj h).1

theorem string?_basic (hbody : ∀ c ∈ body.head?, c ≠ '"') (hrest : ∀ c ∈ rest.head?, c ≠ '"') :
    string? ('"' :: (body ++ '"' :: rest)) =
      basic? ((body ++ '"' :: rest).length + 1) (body ++ '"' :: rest) := by
  rw [string?.eq_def]
  split
  · next heq => exact absurd (List.cons.inj heq).2 (opens_once hbody hrest _)
  · next heq => exact absurd (List.cons.inj heq).1 (by decide)
  · rfl

theorem string?_literal (hbody : ∀ c ∈ body.head?, c ≠ '\'')
    (hrest : ∀ c ∈ rest.head?, c ≠ '\'') :
    string? ('\'' :: (body ++ '\'' :: rest)) = literal? (body ++ '\'' :: rest) := by
  rw [string?.eq_def]
  split
  · next heq => exact absurd (List.cons.inj heq).1 (by decide)
  · next heq => exact absurd (List.cons.inj heq).2 (opens_once hbody hrest _)
  · rfl

/-- The line end behind an opening delimiter is no part of the string: one is written before a
string that has line feeds, and any other string begins with no line end. -/
theorem skipFirstLineEnd_long {lines : Bool} (more : List Char) (hquote : quote ≠ '\n')
    (hquote' : quote ≠ '\r') (hbody : lines = false → ∀ c ∈ body, c ≠ '\n' ∧ c ≠ '\r') :
    skipFirstLineEnd ((if lines then ['\n'] else []) ++ body ++ quote :: more) =
      body ++ quote :: more := by
  cases lines with
  | true => rfl
  | false =>
    cases body with
    | nil =>
      show (lineEnd? (quote :: more)).getD _ = _
      rw [lineEnd?_of_ne hquote hquote']
      rfl
    | cons c body =>
      obtain ⟨hline, hreturn⟩ := hbody rfl c List.mem_cons_self
      show (lineEnd? (c :: _)).getD _ = _
      rw [lineEnd?_of_ne hline hreturn]
      rfl

/-- A string without control characters has no line end if it has no line feed. -/
theorem no_lineEnd (hcs : ∀ c ∈ cs, isControl c = false) (hlines : cs.contains '\n' = false) :
    ∀ c ∈ cs, c ≠ '\n' ∧ c ≠ '\r' := by
  intro c hc
  constructor
  · rintro rfl
    rw [List.contains_iff_mem.2 hc] at hlines
    cases hlines
  · rintro rfl
    exact absurd (hcs _ hc) (by rw [isControl_return]; decide)

theorem long_append (quote : Char) (lines : Bool) (body rest : List Char) :
    long [quote, quote, quote] lines body ++ rest = quote :: quote :: quote ::
      ((if lines then ['\n'] else []) ++ body ++ quote :: quote :: quote :: rest) := by
  simp [long]

theorem string?_longBasic {lines : Bool} (h : Body longBasic? '"' cs body)
    (hbody : lines = false → ∀ c ∈ body, c ≠ '\n' ∧ c ≠ '\r')
    (hrest : ∀ c ∈ rest.head?, c ≠ '"') :
    string? (long ['"', '"', '"'] lines body ++ rest) = some (cs, rest) := by
  rw [long_append, string?, skipFirstLineEnd_long _ (by decide) (by decide) hbody]
  refine h.read_back (fun _ _ => rfl) hrest ?_
  have hlength := h.length_le
  simp only [List.length_append]
  omega

theorem string?_longLiteral {lines : Bool} (h : Body longLiteral? '\'' cs body)
    (hbody : lines = false → ∀ c ∈ body, c ≠ '\n' ∧ c ≠ '\r')
    (hrest : ∀ c ∈ rest.head?, c ≠ '\'') :
    string? (long ['\'', '\'', '\''] lines body ++ rest) = some (cs, rest) := by
  rw [long_append, string?, skipFirstLineEnd_long _ (by decide) (by decide) hbody]
  refine h.read_back (fun _ _ => rfl) hrest ?_
  have hlength := h.length_le
  simp only [List.length_append]
  omega

theorem length_le_escape (cs : List Char) : cs.length ≤ (cs.flatMap escape).length := by
  induction cs with
  | nil => exact Nat.le_refl 0
  | cons c cs ih =>
    obtain ⟨l, ls, htext, -⟩ := longBasic?_escape c
    rw [List.flatMap_cons, List.length_append, htext, List.length_cons, List.length_cons]
    omega

/-- Every written string is read back. -/
theorem string?_quoteChars (hrest : EndsString rest) (cs : List Char) :
    string? (quoteChars cs ++ rest) = some (cs, rest) := by
  have hdouble : ∀ c ∈ rest.head?, c ≠ '"' := fun c hc => (hrest c hc).1
  have hsingle : ∀ c ∈ rest.head?, c ≠ '\'' := fun c hc => (hrest c hc).2
  have hsuits := spelling_suits cs
  unfold quoteChars
  cases hs : spelling cs with
  | basic =>
    rw [hs] at hsuits
    obtain ⟨hline, hslash, hquote, hcs⟩ := hsuits
    have hhead : ∀ c ∈ cs.head?, c ≠ '"' := fun c hc h =>
      hquote (h ▸ List.mem_of_head? hc)
    have hplain : ∀ c ∈ cs, isPlain c = true := fun c hc =>
      isPlain_of_not_isControl (hcs c hc) fun h => hline (h ▸ hc)
    show string? ('"' :: (cs ++ ['"']) ++ rest) = _
    rw [List.cons_append, List.append_assoc, List.singleton_append, string?_basic hhead hdouble]
    exact basic?_unescaped hquote hslash hplain (by rw [List.length_append]; omega)
  | literal =>
    rw [hs] at hsuits
    obtain ⟨hline, hquote, hcs⟩ := hsuits
    have hhead : ∀ c ∈ cs.head?, c ≠ '\'' := fun c hc h =>
      hquote (h ▸ List.mem_of_head? hc)
    have hplain : ∀ c ∈ cs, isPlain c = true := fun c hc =>
      isPlain_of_not_isControl (hcs c hc) fun h => hline (h ▸ hc)
    show string? ('\'' :: (cs ++ ['\'']) ++ rest) = _
    rw [List.cons_append, List.append_assoc, List.singleton_append, string?_literal hhead hsingle]
    exact literal?_unescaped hquote hplain
  | longBasic =>
    rw [hs] at hsuits
    obtain ⟨hslash, hrun, hcs⟩ := hsuits
    exact string?_longBasic (Body.unescaped hrun fun c hc hquote _ _ =>
      longBasic?_plain hquote (fun h => hslash (h ▸ hc)) (hcs c hc)) (no_lineEnd hcs) hdouble
  | longLiteral =>
    rw [hs] at hsuits
    obtain ⟨hrun, hcs⟩ := hsuits
    exact string?_longLiteral (Body.unescaped hrun fun c hc hquote _ _ =>
      longLiteral?_plain hquote (hcs c hc)) (no_lineEnd hcs) hsingle
  | escaped =>
    have hhead : ∀ c ∈ (cs.flatMap escape).head?, c ≠ '"' := by
      cases cs with
      | nil => simp
      | cons c cs =>
        obtain ⟨l, ls, htext, hl, -⟩ := longBasic?_escape c
        rw [List.flatMap_cons, htext]
        simpa using hl
    show string? ('"' :: (cs.flatMap escape ++ ['"']) ++ rest) = _
    rw [List.cons_append, List.append_assoc, List.singleton_append, string?_basic hhead hdouble]
    have hlength := length_le_escape cs
    exact basic?_escaped (by rw [List.length_append]; omega)
  | longEscaped =>
    rw [hs] at hsuits
    have hlines : cs.contains '\n' = true := List.contains_iff_mem.2 hsuits
    refine string?_longBasic (Body.escaped (Nat.zero_le 2) cs) (fun h => ?_) hdouble
    rw [hlines] at h
    cases h

end Written

end SensorBench.Toml
