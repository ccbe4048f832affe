import SensorBench.Proofs.Toml.Text
import SensorBench.Toml.Reader

/-!
# Written values read back

Integers, truth values, texts and lists of them are read back from what is printed for them
(`value?_value`), on one line or over several, if the line, an item or a list ends after them.
-/

set_option autoImplicit false

namespace SensorBench.Toml

/-- The scalars that documents have. -/
def IsScalar : Data → Prop
  | .number (.integer n) => -(Nat.pow 2 127 : Int) ≤ n ∧ n < Nat.pow 2 128
  | .flag _ | .text _ => True
  | _ => False

/-- The values that documents have. -/
def Fits : Data → Prop
  | .list items => ∀ x ∈ items, IsScalar x
  | x => IsScalar x

/-- What may follow a value: the end of the line, of an item or of a list. -/
def EndsValue (rest : List Char) : Prop := ∀ c ∈ rest.head?, c = '\n' ∨ c = ',' ∨ c = ']'

/-- The characters that stand for no layout. -/
def IsInk (c : Char) : Prop := c ≠ ' ' ∧ c ≠ '\t' ∧ c ≠ '#' ∧ c ≠ '\n' ∧ c ≠ '\r'

instance (c : Char) : Decidable (IsInk c) := inferInstanceAs (Decidable (_ ∧ _))

section Layout

variable {c : Char} {cs rest : List Char}

theorem EndsValue.endsString (h : EndsValue rest) : EndsString rest := by
  intro c hc
  rcases h c hc with rfl | rfl | rfl <;> decide

theorem EndsValue.endsScalar (h : EndsValue rest) : ∀ c ∈ rest.head?, (!endsScalar c) = false := by
  intro c hc
  rcases h c hc with rfl | rfl | rfl <;> decide

theorem skipBlanks_ink (hc : IsInk c) : skipBlanks (c :: rest) = c :: rest := by
  rw [skipBlanks, if_neg (by simp [hc.1, hc.2.1])]

theorem skipLayout?_ink (hc : IsInk c) (fuel : Nat) :
    skipLayout? (fuel + 1) (c :: rest) = some (c :: rest) := by
  obtain ⟨-, -, hcomment, hline, hreturn⟩ := id hc
  rw [skipLayout?, skipBlanks_ink hc]
  split
  · next heq => exact absurd (List.cons.inj heq).1 hcomment
  · rw [lineEnd?_of_ne hline hreturn]

theorem skipLayout?_blank (fuel : Nat) :
    skipLayout? (fuel + 1) (' ' :: rest) = skipLayout? (fuel + 1) rest := by
  rw [skipLayout?, skipLayout?, skipBlanks, if_pos (Or.inl rfl)]

theorem skipLayout?_lineFeed (fuel : Nat) :
    skipLayout? (fuel + 1) ('\n' :: rest) = skipLayout? fuel rest := by
  rw [skipLayout?, skipBlanks, if_neg (by decide)]
  rfl

end Layout

/-! ## Integers -/

section Integer

variable {c : Char} {cs : List Char} {n : Nat}

/-- A character of a sort is no character of another sort. -/
theorem ne_of_holds {p : Char → Bool} {d : Char} (hc : p c = true) (hd : p d = false) : c ≠ d := by
  rintro rfl
  rw [hc] at hd
  cases hd

theorem endsScalar_of_isDigit (hc : Text.isDigit c = true) : endsScalar c = false := by
  have hnone : [' ', '\t', '\n', '\r', '#', ',', '=', '[', ']', '\x7b', '\x7d', '"', '\''].all
      (fun d => !Text.isDigit d) = true := by decide
  cases h : endsScalar c with
  | false => rfl
  | true =>
    have hdigit := List.all_eq_true.1 hnone c (List.contains_iff_mem.1 h)
    rw [hc] at hdigit
    cases hdigit

theorem hexValue?_of_isDigit (hc : Text.isDigit c = true) :
    (Text.hexValue? c).any (· < 10) = true := by
  rw [Text.isDigit, Bool.and_eq_true, decide_eq_true_iff, decide_eq_true_iff] at hc
  have hhigh : c.toNat ≤ '9'.toNat := hc.2
  rw [Text.hexValue?, if_pos hc, Option.any_some, decide_eq_true_iff]
  have hzero : '0'.toNat = 48 := rfl
  have hnine : '9'.toNat = 57 := rfl
  omega

/-- Digits have no underscores to take away. -/
theorem ungroup?_digits (hne : cs ≠ []) (hcs : ∀ c ∈ cs, Text.isDigit c = true) :
    ungroup? 10 cs = some cs := by
  induction cs with
  | nil => exact absurd rfl hne
  | cons c cs ih =>
    have hc := hexValue?_of_isDigit (hcs c List.mem_cons_self)
    cases cs with
    | nil => rw [ungroup?, if_pos hc]
    | cons d cs =>
      have hd := hcs d (List.mem_cons_of_mem c List.mem_cons_self)
      rw [ungroup?, if_pos hc,
        ih (List.cons_ne_nil d cs) fun e he => hcs e (List.mem_cons_of_mem c he)]
      · rfl
      · exact List.cons_ne_nil d cs
      · exact fun _ h => ne_of_holds hd (by decide) (List.cons.inj h).1

theorem wholePart?_digits (n : Nat) : wholePart? (Text.digits n) = some (Text.digits n) := by
  have hungroup := ungroup?_digits (Text.digits_ne_nil n) fun _ => Text.isDigit_of_mem_digits
  rw [wholePart?.eq_def]
  split
  · next heq =>
    rcases Text.digits_head n with h | ⟨c, rest, h, hc⟩
    · rw [h] at heq
      cases heq
    · rw [h] at heq
      exact absurd (List.cons.inj heq).1 hc
  · exact hungroup

/-- Without the letter of a base an integer is read in decimal. -/
theorem integer?_decimal (hx : 'x' ∉ cs) (ho : 'o' ∉ cs) (hb : 'b' ∉ cs) :
    integer? cs = (wholePart? (sign cs).2).bind fun ds =>
      (Text.valueInBase? 10 ds).bind (integerOf? (sign cs).1) := by
  -- every other form has the letter of its base at the second place
  rw [integer?.eq_def]
  split
  · exact absurd (List.mem_cons_of_mem _ List.mem_cons_self) hx
  · exact absurd (List.mem_cons_of_mem _ List.mem_cons_self) ho
  · exact absurd (List.mem_cons_of_mem _ List.mem_cons_self) hb
  · rfl

theorem sign_digits (n : Nat) : sign (Text.digits n) = (false, Text.digits n) := by
  rw [sign.eq_def]
  split
  · next heq =>
    have hmem : '-' ∈ Text.digits n := heq ▸ List.mem_cons_self
    exact absurd (Text.isDigit_of_mem_digits hmem) (by decide)
  · next heq =>
    have hmem : '+' ∈ Text.digits n := heq ▸ List.mem_cons_self
    exact absurd (Text.isDigit_of_mem_digits hmem) (by decide)
  · rfl

/-- The characters of a decimal are digits, but for a sign. -/
theorem isDigit_of_mem_signedDecimal {n : Int} (hc : c ∈ (Text.signedDecimal n).toList) :
    c = '-' ∨ Text.isDigit c = true := by
  rw [Text.toList_signedDecimal, List.mem_append] at hc
  refine hc.imp (fun h => ?_) Text.isDigit_of_mem_digits
  split at h
  · exact List.mem_singleton.1 h
  · cases h

theorem not_mem_signedDecimal {n : Int} (hsign : c ≠ '-') (hc : Text.isDigit c = false) :
    c ∉ (Text.signedDecimal n).toList := by
  intro h
  rcases isDigit_of_mem_signedDecimal h with h | h
  · exact hsign h
  · rw [hc] at h
    cases h

theorem signedDecimal_ne_nil (n : Int) : (Text.signedDecimal n).toList ≠ [] := by
  rw [Text.toList_signedDecimal]
  exact List.append_ne_nil_of_right_ne_nil _ (Text.digits_ne_nil _)

theorem integer?_signedDecimal {n : Int} (hlow : -(Nat.pow 2 127 : Int) ≤ n)
    (hhigh : n < Nat.pow 2 128) :
    integer? (Text.signedDecimal n).toList = some (.integer n) := by
  rw [integer?_decimal (not_mem_signedDecimal (by decide) (by decide))
    (not_mem_signedDecimal (by decide) (by decide))
    (not_mem_signedDecimal (by decide) (by decide)), Text.toList_signedDecimal]
  by_cases hn : n < 0
  · have hsign : sign (['-'] ++ Text.digits n.natAbs) = (true, Text.digits n.natAbs) := rfl
    have hbound : n.natAbs ≤ Nat.pow 2 127 := by omega
    rw [if_pos hn, hsign, wholePart?_digits, Option.bind_some, Text.valueInBase?_digits,
      Option.bind_some, integerOf?, if_pos rfl, if_pos hbound]
    exact congrArg (some ∘ Number.integer) (by omega)
  · have hbound : n.natAbs < Nat.pow 2 128 := by omega
    rw [if_neg hn, List.nil_append, sign_digits, wholePart?_digits, Option.bind_some,
      Text.valueInBase?_digits, Option.bind_some, integerOf?, if_neg Bool.false_ne_true,
      if_pos hbound]
    exact congrArg (some ∘ Number.integer) (by omega)

theorem scalar?_signedDecimal {n : Int} (hlow : -(Nat.pow 2 127 : Int) ≤ n)
    (hhigh : n < Nat.pow 2 128) :
    scalar? (Text.signedDecimal n).toList = some (.number (.integer n)) := by
  have hword : 'e' ∉ (Text.signedDecimal n).toList :=
    not_mem_signedDecimal (by decide) (by decide)
  rw [scalar?.eq_def]
  split
  · next heq => exact absurd (heq ▸ by decide) hword
  · next heq => exact absurd (heq ▸ by decide) hword
  · rw [integer?_signedDecimal hlow hhigh]

end Integer

/-! ## Scalars -/

section Scalar

variable {run rest : List Char} {x : Data}

/-- A scalar without quotes is read from the characters up to the next separator. -/
theorem value?_run (hne : run ≠ []) (hrun : run.all (fun c => !endsScalar c) = true)
    (hrest : EndsValue rest) (hread : scalar? run = some x) (fuel depth : Nat) :
    value? (fuel + 1) depth (run ++ rest) = some (x, rest) := by
  have hspan : scalarSpan (run ++ rest) = (run, rest) := by
    rw [scalarSpan, Text.span_append (List.all_eq_true.1 hrun) hrest.endsScalar]
    dsimp only
    split
    · rcases hrest ' ' rfl with h | h | h <;> exact absurd h (by decide)
    · rfl
  have hhead : ∀ c cs, run ++ rest = c :: cs → endsScalar c = false := by
    intro c cs heq
    cases run with
    | nil => exact absurd rfl hne
    | cons d run =>
      obtain ⟨rfl, -⟩ := List.cons.inj heq
      have hd := List.all_eq_true.1 hrun d List.mem_cons_self
      rwa [Bool.not_eq_true'] at hd
  -- the brackets, braces and quotes that open other values all end a scalar
  rw [value?.eq_def]
  dsimp only
  split
  · next heq => exact absurd (hhead _ _ heq) (by decide)
  · next heq => exact absurd (hhead _ _ heq) (by decide)
  · next heq => exact absurd (hhead _ _ heq) (by decide)
  · next heq => exact absurd (hhead _ _ heq) (by decide)
  · rw [hspan]
    dsimp only
    rw [hread]
    rfl

/-- A written string begins with a quote. -/
theorem quoteChars_head (cs : List Char) :
    ∃ c more, quoteChars cs = c :: more ∧ (c = '"' ∨ c = '\'') := by
  rw [quoteChars]
  cases spelling cs with
  | basic | escaped => exact ⟨'"', _, rfl, Or.inl rfl⟩
  | literal => exact ⟨'\'', _, rfl, Or.inr rfl⟩
  | longBasic | longEscaped => exact ⟨'"', _, rfl, Or.inl rfl⟩
  | longLiteral => exact ⟨'\'', _, rfl, Or.inr rfl⟩

theorem toList_quote (s : String) : (quote s).toList = quoteChars s.toList :=
  String.toList_ofList

theorem value?_quote (hrest : EndsValue rest) (s : String) (fuel depth : Nat) :
    value? (fuel + 1) depth ((quote s).toList ++ rest) = some (.text s, rest) := by
  have hread := string?_quoteChars hrest.endsString s.toList
  rw [toList_quote]
  obtain ⟨c, more, htext, rfl | rfl⟩ := quoteChars_head s.toList
  · rw [htext, List.cons_append] at hread ⊢
    rw [value?, hread]
    exact congrArg (fun t => some (Data.text t, rest)) String.ofList_toList
  · rw [htext, List.cons_append] at hread ⊢
    rw [value?, hread]
    exact congrArg (fun t => some (Data.text t, rest)) String.ofList_toList

theorem value?_scalar (hx : IsScalar x) (hrest : EndsValue rest) (fuel depth : Nat) :
    value? (fuel + 1) depth ((scalar x).toList ++ rest) = some (x, rest) := by
  match x, hx with
  | .number (.integer n), ⟨hlow, hhigh⟩ =>
    refine value?_run (signedDecimal_ne_nil n) (List.all_eq_true.2 fun c hc => ?_) hrest
      (scalar?_signedDecimal hlow hhigh) _ _
    rcases isDigit_of_mem_signedDecimal hc with rfl | hc
    · decide
    · rw [endsScalar_of_isDigit hc]
      rfl
  | .flag true, _ => exact value?_run (by decide) (by decide) hrest (by rfl) _ _
  | .flag false, _ => exact value?_run (by decide) (by decide) hrest (by rfl) _ _
  | .text s, _ => exact value?_quote hrest s fuel depth

end Scalar

/-! ## Lists -/

section List

variable {x : Data} {items : List Data} {text rest : List Char} {fuel depth : Nat}

/-- A scalar begins with no layout and with no closing bracket. -/
theorem scalar_head (hx : IsScalar x) :
    ∃ c more, (scalar x).toList = c :: more ∧ IsInk c ∧ c ≠ ']' := by
  match x, hx with
  | .number (.integer n), _ =>
    cases htext : (Text.signedDecimal n).toList with
    | nil => exact absurd htext (signedDecimal_ne_nil n)
    | cons c more =>
      refine ⟨c, more, htext, ?_⟩
      rcases isDigit_of_mem_signedDecimal (htext ▸ List.mem_cons_self) with rfl | hc
      · decide
      · have hne : ∀ d, Text.isDigit d = false → c ≠ d := fun _ => ne_of_holds hc
        exact ⟨⟨hne _ rfl, hne _ rfl, hne _ rfl, hne _ rfl, hne _ rfl⟩, hne _ rfl⟩
  | .flag true, _ => exact ⟨'t', ['r', 'u', 'e'], by decide, by decide, by decide⟩
  | .flag false, _ => exact ⟨'f', ['a', 'l', 's', 'e'], by decide, by decide, by decide⟩
  | .text s, _ =>
    obtain ⟨c, more, htext, rfl | rfl⟩ := quoteChars_head s.toList
    · exact ⟨'"', more, (toList_quote s).trans htext, by decide, by decide⟩
    · exact ⟨'\'', more, (toList_quote s).trans htext, by decide, by decide⟩

theorem items?_close (htext : skipLayout? (text.length + 1) text = some (']' :: rest)) :
    items? (fuel + 1) depth text = some ([], rest) := by
  rw [items?, htext]
  rfl

/-- An item is read, and a bracket or a comma decides how the list goes on. -/
theorem items?_item (hx : IsScalar x) (hrest : EndsValue rest)
    (htext : skipLayout? (text.length + 1) text = some ((scalar x).toList ++ rest)) :
    items? (fuel + 2) depth text = (skipLayout? (rest.length + 1) rest).bind fun
      | ']' :: rest => some ([x], rest)
      | ',' :: rest => (items? (fuel + 1) depth rest).bind fun (xs, rest) => some (x :: xs, rest)
      | _ => none := by
  have hread := value?_scalar hx hrest fuel depth
  obtain ⟨c, more, hscalar, -, hc⟩ := scalar_head hx
  rw [hscalar, List.cons_append] at htext hread
  rw [items?, htext]
  simp only [Option.bind_eq_bind, Option.bind_some]
  split
  · next heq => exact absurd (List.cons.inj heq).1 hc
  · rw [hread]
    rfl

/-- The last item of a list on one line. -/
theorem items?_last (hx : IsScalar x) (htext : skipLayout? (text.length + 1) text =
      some ((scalar x).toList ++ ']' :: rest)) :
    items? (fuel + 2) depth text = some ([x], rest) := by
  have hends : EndsValue (']' :: rest) := by simp [EndsValue]
  rw [items?_item hx hends htext, skipLayout?_ink (by decide)]
  rfl

theorem items?_comma (hx : IsScalar x) (htext : skipLayout? (text.length + 1) text =
      some ((scalar x).toList ++ ',' :: rest)) :
    items? (fuel + 2) depth text =
      (items? (fuel + 1) depth rest).map fun (xs, rest) => (x :: xs, rest) := by
  have hends : EndsValue (',' :: rest) := by simp [EndsValue]
  rw [items?_item hx hends htext, skipLayout?_ink (by decide)]
  exact (Option.map_eq_bind ..).symm

/-- An item on a line of its own, its line end left to the next one. -/
def itemLine (x : Data) : List Char :=
  ['\n', ' ', ' ', ' ', ' '] ++ (scalar x).toList ++ [',']

theorem skipLayout?_itemLine (hx : IsScalar x) (fuel : Nat) (rest : List Char) :
    skipLayout? (fuel + 2) (itemLine x ++ rest) = some ((scalar x).toList ++ ',' :: rest) := by
  obtain ⟨c, more, hscalar, hc, -⟩ := scalar_head hx
  have htext : itemLine x ++ rest =
      '\n' :: ' ' :: ' ' :: ' ' :: ' ' :: ((scalar x).toList ++ ',' :: rest) := by
    simp [itemLine]
  rw [htext, skipLayout?_lineFeed, skipLayout?_blank, skipLayout?_blank, skipLayout?_blank,
    skipLayout?_blank, hscalar, List.cons_append, skipLayout?_ink hc]

/-- The items of a list with a line for each, up to the bracket on the last line. -/
theorem items?_lines (hitems : ∀ x ∈ items, IsScalar x)
    (hfuel : (items.flatMap itemLine ++ '\n' :: ']' :: rest).length < fuel) :
    items? fuel depth (items.flatMap itemLine ++ '\n' :: ']' :: rest) = some (items, rest) := by
  induction items generalizing fuel with
  | nil =>
    obtain ⟨fuel, rfl⟩ : ∃ k, fuel = k + 1 := ⟨fuel - 1, by omega⟩
    exact items?_close (by rw [List.flatMap_nil, List.nil_append, List.length_cons,
      skipLayout?_lineFeed, skipLayout?_ink (by decide)])
  | cons x items ih =>
    have hline : (itemLine x).length = (scalar x).toList.length + 6 := by simp [itemLine]
    rw [List.flatMap_cons, List.append_assoc, List.length_append, hline] at hfuel
    obtain ⟨fuel, rfl⟩ : ∃ k, fuel = k + 2 := ⟨fuel - 2, by omega⟩
    have hx := hitems x List.mem_cons_self
    have hskip := skipLayout?_itemLine hx
      ((scalar x).toList.length + 5 + (items.flatMap itemLine ++ '\n' :: ']' :: rest).length)
      (items.flatMap itemLine ++ '\n' :: ']' :: rest)
    rw [List.flatMap_cons, List.append_assoc, items?_comma hx, ih
      (fun y hy => hitems y (List.mem_cons_of_mem x hy)) (by omega)]
    · rfl
    · rw [← hskip, List.length_append, hline]
      congr 1
      omega

theorem toList_list_lines (x y : Data) (items : List Data) :
    (list (x :: y :: items)).toList =
      '[' :: ((x :: y :: items).flatMap itemLine ++ ['\n', ']']) := by
  -- each line feed is moved from the end of its line to the beginning of the next
  have hlines : ∀ xs : List Data,
      '\n' :: (String.join (xs.map fun x => "    " ++ scalar x ++ ",\n")).toList =
        xs.flatMap itemLine ++ ['\n'] := by
    intro xs
    induction xs with
    | nil => simp
    | cons x xs ih =>
      rw [List.map_cons, String.join_cons, List.flatMap_cons, List.append_assoc, ← ih]
      simp [itemLine]
  have htext := hlines (x :: y :: items)
  have hlist : list (x :: y :: items) = "[\n" ++
      String.join ((x :: y :: items).map fun x => "    " ++ scalar x ++ ",\n") ++ "]" := rfl
  rw [hlist, String.toList_append, String.toList_append]
  show '[' :: ('\n' :: (String.join _).toList ++ [']']) = _
  rw [htext, List.append_assoc]
  rfl

theorem value?_list (hitems : ∀ x ∈ items, IsScalar x)
    (hfuel : ((list items).toList ++ rest).length < fuel) :
    value? fuel (depth + 1) ((list items).toList ++ rest) = some (.list items, rest) := by
  obtain ⟨fuel, rfl⟩ : ∃ k, fuel = k + 1 := ⟨fuel - 1, by omega⟩
  match items, hitems with
  | [], _ =>
    have htext : (list []).toList ++ rest = '[' :: ']' :: rest := by simp [list]
    rw [htext] at hfuel ⊢
    obtain ⟨fuel, rfl⟩ : ∃ k, fuel = k + 1 := ⟨fuel - 1, by simp at hfuel; omega⟩
    rw [value?, items?_close (skipLayout?_ink (by decide) _)]
    rfl
  | [x], hitems =>
    have hx := hitems x List.mem_cons_self
    have htext : (list [x]).toList ++ rest = '[' :: ((scalar x).toList ++ ']' :: rest) := by
      simp [list]
    rw [htext] at hfuel ⊢
    obtain ⟨c, more, hscalar, hc, -⟩ := scalar_head hx
    have hskip : ∀ fuel, skipLayout? (fuel + 1) ((scalar x).toList ++ ']' :: rest) =
        some ((scalar x).toList ++ ']' :: rest) := fun fuel => by
      rw [hscalar, List.cons_append, skipLayout?_ink hc]
    obtain ⟨fuel, rfl⟩ : ∃ k, fuel = k + 2 := ⟨fuel - 2, by simp at hfuel; omega⟩
    rw [value?, items?_last hx (hskip _)]
    rfl
  | x :: y :: items, hitems =>
    have htext : (list (x :: y :: items)).toList ++ rest =
        '[' :: ((x :: y :: items).flatMap itemLine ++ '\n' :: ']' :: rest) := by
      rw [toList_list_lines, List.cons_append, List.append_assoc]
      rfl
    rw [htext] at hfuel ⊢
    rw [value?, items?_lines hitems (Nat.lt_of_succ_lt_succ hfuel)]
    rfl

end List

/-- A value begins with no layout. -/
theorem value_head {x : Data} (hx : Fits x) :
    ∃ c more, (value x).toList = c :: more ∧ IsInk c := by
  match x, hx with
  | .list [], _ => exact ⟨'[', [']'], by simp [value, list], by decide⟩
  | .list [x], _ => exact ⟨'[', _, by simp [value, list]; rfl, by decide⟩
  | .list (x :: y :: items), _ => exact ⟨'[', _, toList_list_lines x y items, by decide⟩
  | .number n, hx =>
    obtain ⟨c, more, htext, hc, -⟩ := scalar_head hx
    exact ⟨c, more, htext, hc⟩
  | .flag b, _ =>
    obtain ⟨c, more, htext, hc, -⟩ := scalar_head (x := .flag b) trivial
    exact ⟨c, more, htext, hc⟩
  | .text s, _ =>
    obtain ⟨c, more, htext, hc, -⟩ := scalar_head (x := .text s) trivial
    exact ⟨c, more, htext, hc⟩

/-- Every written value is read back. -/
theorem value?_value {x : Data} (hx : Fits x) {rest : List Char} (hrest : EndsValue rest)
    {fuel : Nat} (hfuel : ((value x).toList ++ rest).length < fuel) :
    value? fuel deepest ((value x).toList ++ rest) = some (x, rest) := by
  match x, hx with
  | .list items, hitems => exact value?_list hitems hfuel
  | .number n, hx =>
    obtain ⟨fuel, rfl⟩ : ∃ k, fuel = k + 1 := ⟨fuel - 1, by omega⟩
    exact value?_scalar hx hrest fuel deepest
  | .flag b, _ =>
    obtain ⟨fuel, rfl⟩ : ∃ k, fuel = k + 1 := ⟨fuel - 1, by omega⟩
    exact value?_scalar (x := .flag b) trivial hrest fuel deepest
  | .text s, _ =>
    obtain ⟨fuel, rfl⟩ : ∃ k, fuel = k + 1 := ⟨fuel - 1, by omega⟩
    exact value?_quote hrest s fuel deepest

end SensorBench.Toml
