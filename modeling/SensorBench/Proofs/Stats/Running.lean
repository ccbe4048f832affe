import Mathlib.Algebra.BigOperators.Group.List.Basic
import Mathlib.Algebra.Order.BigOperators.Group.List
import Mathlib.Algebra.Order.Field.Basic
import Mathlib.Data.List.Induction
import Mathlib.Algebra.Order.Ring.Rat
import Mathlib.Tactic.FieldSimp
import Mathlib.Tactic.Ring
import Mathlib.Tactic.Linarith
import SensorBench.Stats.Running

/-!
# What running statistics say of their values

Over exact rationals the statistics of a stream are those of the list of its values. The
deviations that an update multiplies are taken from two means, the old one and the new one; that
their product is what the sum of squares grows by comes of moving the centre of the sum from one
mean to the other (`sum_sq_sub`). So a push keeps the description of the values pushed so far
(`Describes.push`), every stream is described (`describes_ofList`), and as a description leaves
nothing open, the order of the values has no say (`Describes.unique`).
-/

set_option autoImplicit false

namespace SensorBench.Stats

/-- The arithmetic of exact rationals. -/
instance : Arithmetic ℚ where
  ofCount n := n
  least := min
  greatest := max

/-! ## Squares around a centre -/

/-- Around any centre the squares add up to those around the mean and the square of the distance
of the centre from it, once for each value. -/
theorem sum_sq_sub {values : List ℚ} {mean : ℚ} (hmean : mean * values.length = values.sum)
    (centre : ℚ) : (values.map fun x => (x - centre) ^ 2).sum =
      (values.map fun x => (x - mean) ^ 2).sum + values.length * (mean - centre) ^ 2 := by
  have hexpand (a : ℚ) : ∀ xs : List ℚ, (xs.map fun x => (x - a) ^ 2).sum =
      (xs.map fun x => x ^ 2).sum - 2 * a * xs.sum + xs.length * a ^ 2 := by
    intro xs
    induction xs with
    | nil => simp
    | cons x xs ih =>
      simp only [List.map_cons, List.sum_cons, ih, List.length_cons, Nat.cast_succ]
      ring
  rw [hexpand, hexpand, ← hmean]
  ring

namespace Running

/-- What statistics say of the values they are made of. -/
structure Describes (values : List ℚ) (s : Running ℚ) : Prop where
  count : s.count = values.length
  mean : s.mean * values.length = values.sum
  spread : s.spread = (values.map fun x => (x - s.mean) ^ 2).sum
  least : values ≠ [] → s.least ∈ values ∧ ∀ x ∈ values, s.least ≤ x
  greatest : values ≠ [] → s.greatest ∈ values ∧ ∀ x ∈ values, x ≤ s.greatest

section

variable {values other : List ℚ} {s t : Running ℚ}

theorem describes_empty : Describes [] empty where
  count := rfl
  mean := by simp [empty]
  spread := rfl
  least h := absurd rfl h
  greatest h := absurd rfl h

/-- The first value is all there is. -/
theorem describes_first (value : ℚ) : Describes [value] ((empty : Running ℚ).push value) := by
  have hpush : (empty : Running ℚ).push value = ⟨1, value, 0, value, value⟩ := rfl
  rw [hpush]
  constructor <;> simp

/-- Another value moves the mean by its share of the deviation. -/
theorem push_of_count {n : ℕ} (hn : s.count = n) (hpos : 0 < n) (value : ℚ) :
    s.push value = ⟨n + 1, s.mean + (value - s.mean) / (n + 1 : ℕ),
      s.spread + (value - s.mean) * (value - (s.mean + (value - s.mean) / (n + 1 : ℕ))),
      min s.least value, max s.greatest value⟩ := by
  rw [push, hn, if_neg (by omega)]
  rfl

/-- A push keeps the description of what was pushed. -/
theorem Describes.push (h : Describes values s) (hvalues : values ≠ []) (value : ℚ) :
    Describes (values ++ [value]) (s.push value) := by
  have hpos : 0 < values.length := List.length_pos_iff.2 hvalues
  have hn : (values.length : ℚ) + 1 ≠ 0 := by positivity
  rw [push_of_count h.count hpos]
  obtain ⟨hleast_mem, hleast⟩ := h.least hvalues
  obtain ⟨hgreatest_mem, hgreatest⟩ := h.greatest hvalues
  constructor
  case count => simp
  case mean =>
    simp only [List.length_append, List.length_singleton, List.sum_append, List.sum_singleton,
      ← h.mean, Nat.cast_succ]
    field_simp
    ring
  case spread =>
    rw [List.map_append, List.sum_append, sum_sq_sub h.mean, ← h.spread]
    simp only [List.map_singleton, List.sum_singleton, Nat.cast_succ]
    field_simp
    ring
  case least =>
    intro _
    refine ⟨?_, fun x hx => ?_⟩
    · rcases min_choice s.least value with hmin | hmin <;> simp [hmin, hleast_mem]
    · rcases List.mem_append.1 hx with hx | hx
      · exact (min_le_left _ _).trans (hleast x hx)
      · exact (min_le_right _ _).trans (List.mem_singleton.1 hx).ge
  case greatest =>
    intro _
    refine ⟨?_, fun x hx => ?_⟩
    · rcases max_choice s.greatest value with hmax | hmax <;> simp [hmax, hgreatest_mem]
    · rcases List.mem_append.1 hx with hx | hx
      · exact (hgreatest x hx).trans (le_max_left _ _)
      · exact (List.mem_singleton.1 hx).le.trans (le_max_right _ _)

/-- The statistics of a stream describe its values. -/
theorem describes_ofList (values : List ℚ) : Describes values (ofList values) := by
  induction values using List.reverseRecOn with
  | nil => exact describes_empty
  | append_singleton values value ih =>
    rw [ofList, List.foldl_append, ← ofList, List.foldl_cons, List.foldl_nil]
    cases values with
    | nil => exact describes_first value
    | cons first rest => exact ih.push (List.cons_ne_nil first rest) value

/-- The mean that is described is the sum divided by the number. -/
theorem Describes.mean_eq (h : Describes values s) (hvalues : values ≠ []) :
    s.mean = values.sum / values.length := by
  have hpos : (0 : ℚ) < values.length := Nat.cast_pos.2 (List.length_pos_iff.2 hvalues)
  rw [eq_div_iff hpos.ne', h.mean]

/-- No order of the values is left in what describes them. -/
theorem Describes.unique (h : Describes values s) (ht : Describes other t)
    (hperm : other.Perm values) (hvalues : values ≠ []) : t = s := by
  have hother : other ≠ [] := fun hnil => hvalues (hnil ▸ hperm).nil_eq.symm
  have hmean : t.mean = s.mean := by
    rw [h.mean_eq hvalues, ht.mean_eq hother, hperm.sum_eq, hperm.length_eq]
  have hspread : t.spread = s.spread := by
    rw [h.spread, ht.spread, hmean, (hperm.map _).sum_eq]
  have hleast : t.least = s.least := le_antisymm
    ((ht.least hother).2 _ (hperm.mem_iff.2 (h.least hvalues).1))
    ((h.least hvalues).2 _ (hperm.mem_iff.1 (ht.least hother).1))
  have hgreatest : t.greatest = s.greatest := le_antisymm
    ((h.greatest hvalues).2 _ (hperm.mem_iff.1 (ht.greatest hother).1))
    ((ht.greatest hother).2 _ (hperm.mem_iff.2 (h.greatest hvalues).1))
  have hcount : t.count = s.count := by rw [h.count, ht.count, hperm.length_eq]
  cases s
  cases t
  exact Running.mk.injEq .. ▸ ⟨hcount, hmean, hspread, hleast, hgreatest⟩

/-- The mean lies between the extremes. -/
theorem Describes.mean_between (h : Describes values s) (hvalues : values ≠ []) :
    s.least ≤ s.mean ∧ s.mean ≤ s.greatest := by
  have hpos : (0 : ℚ) < values.length := Nat.cast_pos.2 (List.length_pos_iff.2 hvalues)
  have hlow := List.card_nsmul_le_sum values s.least (h.least hvalues).2
  have hhigh := List.sum_le_card_nsmul values s.greatest (h.greatest hvalues).2
  rw [nsmul_eq_mul] at hlow hhigh
  rw [h.mean_eq hvalues, le_div_iff₀ hpos, div_le_iff₀ hpos]
  exact ⟨by linarith, by linarith⟩

end

/-- The statistics of a list of values, one pushed after the other, are those that its whole
gives: number, mean, sample variance and extremes, the mean between them, and the same for the
values in any other order. -/
theorem ofList_exact (values : List ℚ) (h : values ≠ []) :
    let s := ofList values
    let mean := values.sum / values.length
    s.count = values.length ∧ s.mean = mean ∧
      (values.length = 1 → s.variance = 0) ∧
      (values.length ≠ 1 → s.variance =
        (values.map fun x => (x - mean) ^ 2).sum / (values.length - 1)) ∧
      (s.least ∈ values ∧ ∀ x ∈ values, s.least ≤ x) ∧
      (s.greatest ∈ values ∧ ∀ x ∈ values, x ≤ s.greatest) ∧
      (s.least ≤ s.mean ∧ s.mean ≤ s.greatest) ∧
      ∀ other : List ℚ, other.Perm values → ofList other = s := by
  intro s mean
  have hs : Describes values s := describes_ofList values
  have hmean : s.mean = mean := hs.mean_eq h
  have hpos : 0 < values.length := List.length_pos_iff.2 h
  refine ⟨hs.count, hmean, fun hone => ?_, fun hmore => ?_, hs.least h, hs.greatest h,
    hs.mean_between h, fun other hperm => hs.unique (describes_ofList other) hperm h⟩
  · rw [variance, hs.count, if_pos (by omega)]
  · rw [variance, hs.count, if_neg (by omega), hs.spread, hmean, ← Nat.cast_pred hpos]
    rfl

theorem ofList_exact_uneven :
    let values : List ℚ := [3, -1/2, 3, 1/4]
    values ≠ [] ∧ (ofList values).mean = 23/16 ∧ (ofList values).variance = 643/192 ∧
      ofList [1/4, 3, -1/2, 3] = ofList values := by
  intro values
  have hne : values ≠ [] := List.cons_ne_nil _ _
  obtain ⟨-, hmean, -, hvariance, -, -, -, horder⟩ := ofList_exact values hne
  refine ⟨hne, ?_, ?_, horder _ (List.reverse_perm values)⟩
  · rw [hmean]
    norm_num [values]
  · rw [hvariance (by decide)]
    norm_num [values]

end Running

end SensorBench.Stats
