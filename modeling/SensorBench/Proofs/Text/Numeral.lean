import Mathlib.Data.List.TakeDrop
import SensorBench.Text.Numeral

/-!
# Numerals read back

The digits of a number have its value, in every base up to sixteen and with any number of
zeros in front. A decimal numeral has no zero in front unless it is zero. What a numeral or a
word is read from goes on with something else (`span_append`).
-/

set_option autoImplicit false

namespace SensorBench.Text

theorem hexValue?_digitChar : ∀ {d : Nat}, d < 16 → hexValue? d.digitChar = some d := by
  decide

theorem hexValue?_upperDigit : ∀ {d : Nat}, d < 16 → hexValue? d.digitChar.toUpper = some d := by
  decide

section Base

variable {b : Nat}

/-- The value of a sequence with one more digit. -/
theorem valueInBase?_concat {cs : List Char} {c : Char} {n d : Nat}
    (hcs : valueInBase? b cs = some n) (hc : hexValue? c = some d) (hd : d < b) :
    valueInBase? b (cs ++ [c]) = some (n * b + d) := by
  rw [valueInBase?] at hcs ⊢
  rw [List.foldlM_append, hcs]
  simp [hc, hd]

/-- Digits in a form in which they have their values name the number. -/
theorem valueInBase?_map_toDigits (hb : 1 < b) (hb' : b ≤ 16) {f : Char → Char}
    (hf : ∀ {d : Nat}, d < 16 → hexValue? (f d.digitChar) = some d) (n : Nat) :
    valueInBase? b ((Nat.toDigits b n).map f) = some n := by
  induction n using Nat.strongRecOn with
  | ind n ih =>
    by_cases hn : n < b
    · rw [Nat.toDigits_of_lt_base hn, List.map_singleton]
      have hempty : valueInBase? b [] = some 0 := rfl
      have hone := valueInBase?_concat hempty (hf (by omega : n < 16)) hn
      simpa using hone
    · have hlast : n % b < b := Nat.mod_lt n (by omega)
      have hrest := ih (n / b) (Nat.div_lt_self (by omega) hb)
      rw [Nat.toDigits_of_base_le hb (by omega), List.map_append, List.map_singleton,
        valueInBase?_concat hrest (hf (by omega)) hlast, Nat.mul_comm, Nat.div_add_mod]

theorem valueInBase?_toDigits (hb : 1 < b) (hb' : b ≤ 16) (n : Nat) :
    valueInBase? b (Nat.toDigits b n) = some n := by
  have h := valueInBase?_map_toDigits hb hb' (f := id) (fun hd => hexValue?_digitChar hd) n
  rwa [List.map_id] at h

/-- Zeros in front change no value. -/
theorem valueInBase?_zeros (hb : 0 < b) (k : Nat) (cs : List Char) :
    valueInBase? b (List.replicate k '0' ++ cs) = valueInBase? b cs := by
  induction k with
  | zero => rfl
  | succ k ih =>
    rw [List.replicate_succ, List.cons_append, ← ih]
    have hzero : hexValue? '0' = some 0 := rfl
    simp [valueInBase?, hzero, hb]

end Base

theorem valueInBase?_digits (n : Nat) : valueInBase? 10 (digits n) = some n :=
  valueInBase?_toDigits (by decide) (by decide) n

theorem digits_ne_nil (n : Nat) : digits n ≠ [] :=
  List.ne_nil_of_length_pos Nat.length_toDigits_pos

theorem isDigit_of_mem_digits {n : Nat} {c : Char} (h : c ∈ digits n) : isDigit c = true := by
  have hdigit := Nat.isDigit_of_mem_toDigits (by decide) (by decide) h
  rw [Char.isDigit, Bool.and_eq_true, decide_eq_true_iff, decide_eq_true_iff] at hdigit
  rw [isDigit, Bool.and_eq_true, decide_eq_true_iff, decide_eq_true_iff]
  exact hdigit

/-- A numeral begins with a zero only if it is zero. -/
theorem digits_head (n : Nat) :
    digits n = ['0'] ∨ ∃ c rest, digits n = c :: rest ∧ c ≠ '0' := by
  rw [digits]
  induction n using Nat.strongRecOn with
  | ind n ih =>
    by_cases hn : n < 10
    · rw [Nat.toDigits_of_lt_base hn]
      by_cases h0 : n = 0
      · exact Or.inl (by rw [h0]; rfl)
      · refine Or.inr ⟨n.digitChar, [], rfl, ?_⟩
        have hall : ∀ d < 10, d ≠ 0 → d.digitChar ≠ '0' := by decide
        exact hall n hn h0
    · rw [Nat.toDigits_of_base_le (by decide) (by omega)]
      rcases ih (n / 10) (by omega) with h | ⟨c, rest, h, hc⟩
      -- only zero has the numeral of zero
      · have hvalue := valueInBase?_digits (n / 10)
        rw [digits, h] at hvalue
        have hzero : n / 10 = 0 := (Option.some.inj hvalue).symm
        omega
      · exact Or.inr ⟨c, rest ++ [(n % 10).digitChar], by rw [h, List.cons_append], hc⟩

theorem toList_decimal (n : Nat) : (decimal n).toList = digits n := String.toList_ofList

theorem toList_signedDecimal (n : Int) :
    (signedDecimal n).toList = (if n < 0 then ['-'] else []) ++ digits n.natAbs := by
  rw [signedDecimal]
  split
  · rw [String.toList_append, toList_decimal]
    rfl
  · rw [toList_decimal]
    rfl

theorem toList_padLeft (width : Nat) (fill : Char) (cs : List Char) :
    (padLeft width fill (String.ofList cs)).toList =
      List.replicate (width - cs.length) fill ++ cs := by
  rw [padLeft, String.toList_append, String.toList_ofList, String.toList_ofList,
    String.length_ofList]

/-- Characters of one sort are read up to the first of another sort. -/
theorem span_append {p : Char → Bool} {cs rest : List Char} (hcs : ∀ c ∈ cs, p c = true)
    (hrest : ∀ c ∈ rest.head?, p c = false) : (cs ++ rest).span p = (cs, rest) := by
  rw [List.span_eq_takeWhile_dropWhile, List.takeWhile_append_of_pos hcs,
    List.dropWhile_append_of_pos hcs]
  cases rest with
  | nil => simp
  | cons c rest =>
    have hc := hrest c rfl
    rw [List.takeWhile_cons_of_neg (by simp [hc]), List.dropWhile_cons_of_neg (by simp [hc]),
      List.append_nil]

/-- What the texts joined with a separator begin with. -/
theorem toList_join_cons (separator part : String) (rest : List String) :
    (join separator (part :: rest)).toList =
      part.toList ++ rest.flatMap fun p => separator.toList ++ p.toList := by
  rw [join, String.toList_intercalate]
  induction rest generalizing part with
  | nil => simp
  | cons p rest ih =>
    rw [List.map_cons, List.map_cons, List.intercalate_cons_cons, List.flatMap_cons,
      ← List.map_cons, ih, List.append_assoc, List.append_assoc]

end SensorBench.Text
