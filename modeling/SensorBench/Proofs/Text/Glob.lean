import SensorBench.Config.Settings

/-!
# What globs select

A pattern means all texts that come of it when each star is replaced by some run of
characters (`Fills`). The matcher goes through a name once and takes every part between two
stars at its first occurrence. It misses nothing by that: the first occurrence leaves the
longest rest, and a star in front of what follows takes up whatever the rest has too much
(`fits_iff`). So a name is accepted exactly if it comes of the pattern, and a selection takes
exactly the names that its patterns say (`Settings.Filter.selects_exact`).
-/

set_option autoImplicit false

namespace SensorBench

namespace Text.Glob

/-- A text comes of a pattern: each star is replaced by some run of characters, and all other
characters stand for themselves. -/
inductive Fills : List Char → List Char → Prop
  | nil : Fills [] []
  | star {pattern text : List Char} (run : List Char) :
      Fills pattern text → Fills ('*' :: pattern) (run ++ text)
  | literal {c : Char} {pattern text : List Char} :
      c ≠ '*' → Fills pattern text → Fills (c :: pattern) (c :: text)

/-- A text holds some parts one after the other, each of them behind some run of characters,
and nothing behind the last. -/
inductive Holds : List (List Char) → List Char → Prop
  | nil : Holds [] []
  | cons {part : List Char} {parts : List (List Char)} {text : List Char} (run : List Char) :
      Holds parts text → Holds (part :: parts) (run ++ (part ++ text))

/-! ## Parts in a text -/

theorem after?_eq_some_iff (part text rest : List Char) :
    after? part text = some rest ↔ text = part ++ rest := by
  induction part generalizing text with
  | nil => simp [after?]
  | cons p part ih =>
    cases text with
    | nil => simp [after?]
    | cons c text =>
      rw [after?]
      split
      · next h => rw [ih, h, List.cons_append, List.cons.injEq, and_iff_right rfl]
      · next h =>
        constructor
        · intro hnone
          cases hnone
        · intro htext
          exact absurd (List.cons.inj htext).1.symm h

/-- What is left behind the first occurrence of a part is behind an occurrence. -/
theorem exists_of_afterFirst? {part text rest : List Char}
    (h : afterFirst? part text = some rest) : ∃ run, text = run ++ (part ++ rest) := by
  induction text with
  | nil => exact ⟨[], (after?_eq_some_iff part [] rest).1 h⟩
  | cons c text ih =>
    rw [afterFirst?] at h
    split at h
    · next found hfound =>
      cases h
      exact ⟨[], (after?_eq_some_iff part (c :: text) rest).1 hfound⟩
    · obtain ⟨run, hrun⟩ := ih h
      exact ⟨c :: run, congrArg (c :: ·) hrun⟩

/-- A part that occurs is found, and behind its first occurrence is left what is left behind
any, and maybe more in front of that. -/
theorem afterFirst?_of_occurs (part run rest : List Char) :
    ∃ more, afterFirst? part (run ++ (part ++ rest)) = some (more ++ rest) := by
  induction run with
  | nil =>
    have hhere := (after?_eq_some_iff part (part ++ rest) rest).2 rfl
    refine ⟨[], ?_⟩
    rw [List.nil_append, List.nil_append]
    cases hpart : part ++ rest with
    | nil => rw [afterFirst?, ← hpart, hhere]
    | cons c text => rw [afterFirst?, ← hpart, hhere]
  | cons c run ih =>
    rw [List.cons_append, afterFirst?]
    split
    · next found hfound =>
      -- both rests end the same text, and the one found is the longer one
      have htext := (after?_eq_some_iff _ _ _).1 hfound
      have hfrom : found <:+ c :: (run ++ (part ++ rest)) := ⟨part, htext.symm⟩
      have hto : rest <:+ c :: (run ++ (part ++ rest)) := by
        refine ⟨c :: (run ++ part), ?_⟩
        rw [List.cons_append, List.append_assoc]
      have hlength : rest.length ≤ found.length := by
        have hsame := congrArg List.length htext
        simp only [List.length_cons, List.length_append] at hsame
        omega
      obtain ⟨more, hmore⟩ := List.suffix_of_suffix_length_le hto hfrom hlength
      exact ⟨more, congrArg some hmore.symm⟩
    · exact ih

/-- The run in front of the first part takes up anything put in front of a text. -/
theorem Holds.append {part : List Char} {parts : List (List Char)} {text : List Char}
    (h : Holds (part :: parts) text) (more : List Char) : Holds (part :: parts) (more ++ text) := by
  cases h with
  | cons run hrest =>
    rw [← List.append_assoc]
    exact .cons (more ++ run) hrest

theorem holds_singleton_iff (last text : List Char) : Holds [last] text ↔ last <:+ text := by
  constructor
  · intro h
    cases h with
    | cons run hrest =>
      cases hrest with
      | nil => exact ⟨run, by rw [List.append_nil]⟩
  · rintro ⟨run, rfl⟩
    have h : Holds [last] (run ++ (last ++ [])) := .cons run .nil
    rwa [List.append_nil] at h

/-- Taking each part at its first occurrence finds the parts wherever they are. -/
theorem fits_iff (parts : List (List Char)) (text : List Char) :
    fits parts text = true ↔ Holds parts text := by
  induction parts generalizing text with
  | nil =>
    rw [fits, List.isEmpty_iff]
    constructor
    · rintro rfl
      exact .nil
    · intro h
      cases h
      rfl
  | cons part parts ih =>
    cases parts with
    | nil => rw [fits, List.isSuffixOf_iff_suffix, holds_singleton_iff]
    | cons next others =>
      have hne : next :: others ≠ [] := List.cons_ne_nil next others
      rw [fits.eq_3 _ _ _ hne]
      constructor
      · intro h
        split at h
        · next rest hrest =>
          obtain ⟨run, rfl⟩ := exists_of_afterFirst? hrest
          exact .cons run ((ih rest).1 h)
        · cases h
      · intro h
        cases h with
        | @cons _ _ rest run hrest =>
          obtain ⟨more, hmore⟩ := afterFirst?_of_occurs part run rest
          rw [hmore]
          exact (ih (more ++ rest)).2 (hrest.append more)

/-! ## Patterns and their parts -/

theorem parts_ne_nil (pattern : List Char) : parts pattern ≠ [] := by
  cases pattern with
  | nil => exact List.cons_ne_nil _ _
  | cons c pattern =>
    rw [parts]
    split
    · exact List.cons_ne_nil _ _
    · split <;> exact List.cons_ne_nil _ _

theorem parts_star (pattern : List Char) : parts ('*' :: pattern) = [] :: parts pattern := by
  rw [parts, if_pos rfl]

theorem parts_literal {c : Char} (hc : c ≠ '*') {pattern first : List Char}
    {others : List (List Char)} (h : parts pattern = first :: others) :
    parts (c :: pattern) = (c :: first) :: others := by
  rw [parts, if_neg hc, h]

/-- A text comes of a pattern if it begins with the first part and holds the others behind
that. -/
theorem fills_iff {pattern first : List Char} {others : List (List Char)}
    (hparts : parts pattern = first :: others) (text : List Char) :
    Fills pattern text ↔ ∃ rest, text = first ++ rest ∧ Holds others rest := by
  induction pattern generalizing first others text with
  | nil =>
    cases hparts
    constructor
    · intro h
      cases h
      exact ⟨[], rfl, .nil⟩
    · rintro ⟨rest, rfl, hrest⟩
      cases hrest
      exact .nil
  | cons c pattern ih =>
    obtain ⟨next, more, hrest⟩ := List.exists_cons_of_ne_nil (parts_ne_nil pattern)
    by_cases hc : c = '*'
    · subst hc
      rw [parts_star, hrest] at hparts
      cases hparts
      constructor
      · intro h
        cases h with
        | star run hfills =>
          obtain ⟨rest, rfl, hholds⟩ := (ih hrest _).1 hfills
          exact ⟨_, rfl, .cons run hholds⟩
        | literal hc => exact absurd rfl hc
      · rintro ⟨_, rfl, hholds⟩
        cases hholds with
        | cons run hholds => exact .star run ((ih hrest _).2 ⟨_, rfl, hholds⟩)
    · rw [parts_literal hc hrest] at hparts
      cases hparts
      constructor
      · intro h
        cases h with
        | star => exact absurd rfl hc
        | literal _ hfills =>
          obtain ⟨rest, rfl, hholds⟩ := (ih hrest _).1 hfills
          exact ⟨rest, rfl, hholds⟩
      · rintro ⟨rest, rfl, hholds⟩
        exact .literal hc ((ih hrest _).2 ⟨rest, rfl, hholds⟩)

/-- A name is accepted exactly if it comes of the pattern. -/
theorem accepts_iff (pattern name : String) :
    accepts pattern name = true ↔ Fills pattern.toList name.toList := by
  obtain ⟨first, others, hparts⟩ := List.exists_cons_of_ne_nil (parts_ne_nil pattern.toList)
  rw [fills_iff hparts, accepts, hparts]
  dsimp only
  constructor
  · intro h
    split at h
    · next rest hrest =>
      exact ⟨rest, (after?_eq_some_iff first name.toList rest).1 hrest, (fits_iff others rest).1 h⟩
    · cases h
  · rintro ⟨rest, htext, hholds⟩
    rw [(after?_eq_some_iff first name.toList rest).2 htext]
    exact (fits_iff others rest).2 hholds

end Text.Glob

namespace Settings.Filter

open Text.Glob

/-- A pattern accepts exactly the names that come of it when its stars are replaced, and a
selection takes exactly the names that come of one of its patterns, or any name if it has
none, unless they come of a pattern of names to leave out. -/
theorem selects_exact :
    (∀ pattern name : String, accepts pattern name = true ↔ Fills pattern.toList name.toList) ∧
      ∀ (f : Filter) (name : String), f.selects name = true ↔
        (f.takes = [] ∨ ∃ p ∈ f.takes, Fills p.toList name.toList) ∧
          ¬∃ p ∈ f.drops, Fills p.toList name.toList := by
  refine ⟨accepts_iff, fun f name => ?_⟩
  rw [selects, Bool.and_eq_true, Bool.or_eq_true, List.isEmpty_iff, Bool.not_eq_true',
    ← Bool.not_eq_true, List.any_eq_true, List.any_eq_true]
  simp only [accepts_iff]

/-- Greed is harmless: the part between the stars is taken at its first occurrence, and the
last part is found all the same. -/
example : accepts "a*ab*b" "aabab" = true := by decide

end Settings.Filter

end SensorBench
