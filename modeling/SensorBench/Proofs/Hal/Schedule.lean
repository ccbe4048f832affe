import SensorBench.Hal.Schedule

/-!
# Due times

The due times up to a clock value are the points of the grid from the next due
time on that the clock has reached: none is left out, none is past the clock
(`mem_dueTimes_iff`), and the first point after the clock is due next
(`lt_dueAfter`).
-/

set_option autoImplicit false

namespace SensorBench.Hal

theorem mem_timesFrom_iff (next period t : Int) (n : Nat) :
    t ∈ timesFrom next period n ↔ ∃ k : Nat, k < n ∧ t = next + period * k := by
  induction n generalizing next with
  | zero => simp [timesFrom]
  | succ n ih =>
    rw [timesFrom, List.mem_cons, ih]
    constructor
    · rintro (rfl | ⟨k, hk, rfl⟩)
      · exact ⟨0, n.succ_pos, by simp⟩
      · refine ⟨k + 1, Nat.succ_lt_succ hk, ?_⟩
        push_cast
        rw [Int.mul_add, Int.mul_one]
        omega
    · rintro ⟨k, hk, rfl⟩
      cases k with
      | zero => exact Or.inl (by simp)
      | succ k =>
        refine Or.inr ⟨k, Nat.lt_of_succ_lt_succ hk, ?_⟩
        push_cast
        rw [Int.mul_add, Int.mul_one]
        omega

/-- What is due next is the first due time of all, or comes a period after another one. -/
theorem dueAfter_mem (next period now : Int) :
    dueAfter next period now = next ∨ ∃ k : Nat, k < dueCount next period now ∧
      dueAfter next period now = next + period * k + period := by
  rw [dueAfter]
  cases dueCount next period now with
  | zero => exact Or.inl (by simp)
  | succ k =>
    refine Or.inr ⟨k, k.lt_succ_self, ?_⟩
    push_cast
    rw [Int.mul_add, Int.mul_one]
    omega

section Positive

variable {period : Int} (hp : 0 < period)

include hp

theorem timesFrom_spaced (next : Int) (n : Nat) :
    (timesFrom next period n).Pairwise fun t u => t + period ≤ u := by
  induction n generalizing next with
  | zero => exact List.Pairwise.nil
  | succ n ih =>
    rw [timesFrom, List.pairwise_cons]
    refine ⟨fun u hu => ?_, ih (next + period)⟩
    obtain ⟨k, -, rfl⟩ := (mem_timesFrom_iff _ _ _ _).1 hu
    have h : 0 ≤ period * (k : Int) := Int.mul_nonneg (Int.le_of_lt hp) (Int.natCast_nonneg k)
    omega

/-- The clock lies before the first point that is not counted, and has reached
every point that is. -/
theorem lt_dueCount_iff (next now : Int) (k : Nat) :
    k < dueCount next period now ↔ next + period * k ≤ now := by
  have hnn : 0 ≤ period * (k : Int) := Int.mul_nonneg (Int.le_of_lt hp) (Int.natCast_nonneg k)
  rw [dueCount]
  by_cases h : next ≤ now
  · have hq : 0 ≤ (now - next) / period := Int.ediv_nonneg (by omega) (Int.le_of_lt hp)
    have hk : (k : Int) ≤ (now - next) / period ↔ k * period ≤ now - next :=
      Int.le_ediv_iff_mul_le hp
    rw [if_pos h, Nat.lt_succ_iff, ← Int.ofNat_le, Int.toNat_of_nonneg hq, hk, Int.mul_comm]
    omega
  · rw [if_neg h]
    constructor
    · intro hk
      exact absurd hk (Nat.not_lt_zero k)
    · intro hk
      omega

theorem mem_dueTimes_iff (next now t : Int) :
    t ∈ dueTimes next period now ↔ t ≤ now ∧ ∃ k : Nat, t = next + period * k := by
  rw [dueTimes, mem_timesFrom_iff]
  constructor
  · rintro ⟨k, hk, rfl⟩
    exact ⟨(lt_dueCount_iff hp next now k).1 hk, k, rfl⟩
  · rintro ⟨ht, k, rfl⟩
    exact ⟨k, (lt_dueCount_iff hp next now k).2 ht, rfl⟩

theorem le_of_mem_dueTimes {next now t : Int} (ht : t ∈ dueTimes next period now) :
    next ≤ t ∧ t ≤ now := by
  obtain ⟨hnow, k, rfl⟩ := (mem_dueTimes_iff hp next now t).1 ht
  have h : 0 ≤ period * (k : Int) := Int.mul_nonneg (Int.le_of_lt hp) (Int.natCast_nonneg k)
  omega

theorem lt_dueAfter (next now : Int) : now < dueAfter next period now := by
  have h := lt_dueCount_iff hp next now (dueCount next period now)
  have irrefl := Nat.lt_irrefl (dueCount next period now)
  rw [dueAfter]
  omega

/-- The first due time after the clock is at most a period ahead. -/
theorem dueAfter_le {next now : Int} (hnext : next ≤ now + period) :
    dueAfter next period now ≤ now + period := by
  rcases dueAfter_mem next period now with hsame | ⟨k, hk, hlast⟩
  · omega
  · -- the last due time that is counted is not after the clock
    have hreached := (lt_dueCount_iff hp next now k).1 hk
    omega

theorem le_dueAfter (next now : Int) : next ≤ dueAfter next period now := by
  have h : 0 ≤ period * (dueCount next period now : Int) :=
    Int.mul_nonneg (Int.le_of_lt hp) (Int.natCast_nonneg _)
  rw [dueAfter]
  omega

/-- What is due next lies at least a period after all that was due. -/
theorem dueTimes_before_dueAfter {next now t : Int} (ht : t ∈ dueTimes next period now) :
    t + period ≤ dueAfter next period now := by
  obtain ⟨k, hk, rfl⟩ := (mem_timesFrom_iff _ _ _ _).1 ht
  have h : period * ((k : Int) + 1) ≤ period * (dueCount next period now : Int) :=
    Int.mul_le_mul_of_nonneg_left (by omega) (Int.le_of_lt hp)
  rw [Int.mul_add, Int.mul_one] at h
  rw [dueAfter]
  omega

end Positive

/-! ## Time in two parts -/

theorem timesFrom_add (next period : Int) (m n : Nat) :
    timesFrom next period (m + n) =
      timesFrom next period m ++ timesFrom (next + period * m) period n := by
  induction m generalizing next with
  | zero => simp [timesFrom]
  | succ m ih =>
    have hsum : m + 1 + n = m + n + 1 := by omega
    have hstart : next + period * ((m + 1 : Nat) : Int) = next + period + period * m := by
      push_cast
      rw [Int.mul_add, Int.mul_one]
      omega
    rw [hsum, timesFrom, ih, timesFrom, hstart, List.cons_append]

theorem timesFrom_eq_map (next period : Int) (n : Nat) :
    timesFrom next period n = (List.range n).map fun k : Nat => next + period * k := by
  induction n with
  | zero => rfl
  | succ n ih =>
    rw [timesFrom_add, ih, List.range_succ, List.map_append]
    rfl

section Positive

variable {period : Int} (hp : 0 < period) (next : Int) {early late : Int} (hle : early ≤ late)

include hp hle

theorem dueCount_add :
    dueCount next period late =
      dueCount next period early + dueCount (dueAfter next period early) period late := by
  have hlate := fun k => lt_dueCount_iff hp next late k
  have hearly := fun k => lt_dueCount_iff hp next early k
  have hrest := fun k => lt_dueCount_iff hp (dueAfter next period early) late k
  rw [dueAfter] at hrest ⊢
  generalize dueCount next period early = m at hearly hrest ⊢
  generalize dueCount (next + period * m) period late = n at hrest ⊢
  -- the points of the second part are those of the whole grid, counted from the first on
  have hpoint : ∀ k : Nat,
      next + period * ((m + k : Nat) : Int) = next + period * m + period * k := by
    intro k
    push_cast
    rw [Int.mul_add]
    omega
  apply Nat.le_antisymm
  · apply Nat.le_of_not_lt
    intro hlt
    have hin := (hlate (m + n)).1 hlt
    rw [hpoint] at hin
    exact Nat.lt_irrefl n ((hrest n).2 hin)
  · apply Nat.le_of_not_lt
    intro hlt
    apply Nat.lt_irrefl (dueCount next period late)
    apply (hlate _).2
    rcases Nat.lt_or_ge (dueCount next period late) m with hfirst | hsecond
    · have hin := (hearly _).1 hfirst
      omega
    · obtain ⟨k, hk⟩ := Nat.exists_eq_add_of_le hsecond
      have hin := (hrest k).1 (by omega)
      rw [hk, hpoint]
      exact hin

/-- The due times up to a clock value are those up to an earlier one and those that come
after it. -/
theorem dueTimes_append :
    dueTimes next period late =
      dueTimes next period early ++ dueTimes (dueAfter next period early) period late := by
  rw [dueTimes, dueCount_add hp next hle, timesFrom_add]
  rfl

theorem dueAfter_dueAfter :
    dueAfter (dueAfter next period early) period late = dueAfter next period late := by
  have hsum := dueCount_add hp next hle
  rw [dueAfter, dueAfter.eq_1 next period late, hsum]
  generalize dueCount (dueAfter next period early) period late = n
  rw [dueAfter]
  push_cast
  rw [Int.mul_add]
  omega

end Positive

end SensorBench.Hal
