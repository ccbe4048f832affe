import Mathlib.Data.List.Induction
import Mathlib.Data.List.Nodup
import Mathlib.Data.List.Perm.Subperm
import SensorBench.Sensor.Stock

/-!
# A handle that no sensor has

The handle after the greatest one is free unless the greatest of all handles is listed. Then a
search goes down from there, and it has one try more than there are sensors: if all of these
tries met a listed handle, there would be more listed handles than sensors
(`length_le_of_taken`). So the search ends at a free handle, and nothing above it is free
(`invalidHandle_free`).
-/

set_option autoImplicit false

namespace SensorBench

namespace Handle

theorem toInt_injective {a b : Handle} (h : a.toInt = b.toInt) : a = b := by
  cases a
  cases b
  exact congrArg mk (Int32.toInt_inj.1 h)

theorem toInt_range (h : Handle) : -2147483648 ≤ h.toInt ∧ h.toInt ≤ 2147483647 :=
  ⟨h.raw.le_toInt, Int.le_of_lt_add_one h.raw.toInt_lt⟩

theorem toInt_ofInt {n : Int} (low : -2147483648 ≤ n) (high : n ≤ 2147483647) :
    (ofInt n).toInt = n :=
  Int32.toInt_ofInt_of_le low (Int.lt_add_one_of_le high)

/-- Every handle but the greatest is followed by the one with the next number. -/
theorem toInt_next {h : Handle} (hne : h ≠ greatest) : h.next.toInt = h.toInt + 1 := by
  have hrange := h.toInt_range
  have hbelow : h.toInt ≠ 2147483647 := fun heq => hne (toInt_injective heq)
  rw [next, if_neg hne, toInt_ofInt (by omega) (by omega)]

end Handle

namespace Catalog

variable {c : Catalog}

theorem sensor?_eq_none_iff (h : Handle) : c.sensor? h = none ↔ h ∉ c.map (·.handle) := by
  rw [sensor?, List.find?_eq_none]
  simp only [decide_eq_true_eq, List.mem_map, not_exists, not_and]

/-! ## The greatest handle -/

/-- The greatest handle is at least zero and at least every listed one, and no more than is
needed for that. -/
theorem greatestHandle_spec (c : Catalog) : 0 ≤ c.greatestHandle.toInt ∧
    (∀ h ∈ c.map (·.handle), h.toInt ≤ c.greatestHandle.toInt) ∧
    (c.greatestHandle.toInt = 0 ∨ c.greatestHandle ∈ c.map (·.handle)) := by
  induction c using List.reverseRecOn with
  | nil => exact ⟨Int.le_refl 0, fun h hh => absurd hh List.not_mem_nil, .inl rfl⟩
  | append_singleton c d ih =>
    obtain ⟨hzero, hbound, hleast⟩ := ih
    have hstep : greatestHandle (c ++ [d]) =
        if greatestHandle c < d.handle then d.handle else greatestHandle c := by
      rw [greatestHandle, List.foldl_append]
      rfl
    rw [hstep, List.map_append]
    split
    case isTrue hlt =>
      have hlt : (greatestHandle c).toInt < d.handle.toInt := hlt
      refine ⟨by omega, fun h hh => ?_, .inr (List.mem_append_right _ List.mem_cons_self)⟩
      rcases List.mem_append.1 hh with hh | hh
      · exact Int.le_trans (hbound h hh) (Int.le_of_lt hlt)
      · exact Int.le_of_eq (congrArg Handle.toInt (List.mem_singleton.1 hh))
    case isFalse hge =>
      have hge : d.handle.toInt ≤ (greatestHandle c).toInt := Int.not_lt.1 hge
      refine ⟨hzero, fun h hh => ?_, hleast.imp_right (List.mem_append_left _)⟩
      rcases List.mem_append.1 hh with hh | hh
      · exact hbound h hh
      · exact List.mem_singleton.1 hh ▸ hge

/-! ## The search -/

/-- As many handles in a row as are listed all have a sensor each. -/
theorem length_le_of_taken {n : Int} {tries : Nat} (high : n ≤ 2147483647)
    (low : -2147483648 ≤ n - tries + 1)
    (h : ∀ k : Nat, k < tries → Handle.ofInt (n - k) ∈ c.map (·.handle)) : tries ≤ c.length := by
  have hdistinct : ((List.range tries).map fun k : Nat => Handle.ofInt (n - k)).Nodup := by
    refine List.Nodup.map_on (fun j hj k hk heq => ?_) List.nodup_range
    rw [List.mem_range] at hj hk
    have hnumbers := congrArg Handle.toInt heq
    rw [Handle.toInt_ofInt (by omega) (by omega), Handle.toInt_ofInt (by omega) (by omega)]
      at hnumbers
    omega
  have hlisted : ((List.range tries).map fun k : Nat => Handle.ofInt (n - k)) ⊆
      c.map (·.handle) := by
    intro g hg
    obtain ⟨k, hk, rfl⟩ := List.mem_map.1 hg
    exact h k (List.mem_range.1 hk)
  simpa using (List.subperm_of_subset hdistinct hlisted).length_le

/-- A search that meets a free handle within its tries ends at the first one. -/
theorem freeBelow_spec {n : Int} {tries : Nat}
    (h : ∃ k : Nat, k < tries ∧ Handle.ofInt (n - k) ∉ c.map (·.handle)) :
    ∃ k : Nat, k < tries ∧ c.freeBelow tries n = Handle.ofInt (n - k) ∧
      Handle.ofInt (n - k) ∉ c.map (·.handle) ∧
      ∀ j : Nat, j < k → Handle.ofInt (n - j) ∈ c.map (·.handle) := by
  induction tries generalizing n with
  | zero =>
    obtain ⟨k, hk, -⟩ := h
    exact absurd hk (Nat.not_lt_zero k)
  | succ tries ih =>
    rw [freeBelow]
    split
    case isTrue hfree =>
      rw [Option.isNone_iff_eq_none, sensor?_eq_none_iff] at hfree
      exact ⟨0, Nat.succ_pos _, by simp, by simpa using hfree, fun j hj => absurd hj (by omega)⟩
    case isFalse htaken =>
      rw [Option.isNone_iff_eq_none, sensor?_eq_none_iff, not_not] at htaken
      have hshift : ∀ k : Nat, n - 1 - k = n - (k + 1 : Nat) := fun k => by omega
      have hlater : ∃ k : Nat, k < tries ∧ Handle.ofInt (n - 1 - k) ∉ c.map (·.handle) := by
        obtain ⟨k, hk, hfree⟩ := h
        cases k with
        | zero => exact absurd (by simpa using htaken) hfree
        | succ k => exact ⟨k, by omega, hshift k ▸ hfree⟩
      obtain ⟨k, hk, hfound, hfree, habove⟩ := ih hlater
      rw [hshift] at hfound hfree
      refine ⟨k + 1, by omega, hfound, hfree, fun j hj => ?_⟩
      cases j with
      | zero => simpa using htaken
      | succ j => exact hshift j ▸ habove j (by omega)

/-! ## The free handle -/

/-- Below the greatest handle there are more handles than sensors, so one of them is free. -/
theorem exists_free (h : c.length < 4294967295) : ∃ k : Nat, k < c.length + 1 ∧
    Handle.ofInt (Handle.greatest.toInt - 1 - k) ∉ c.map (·.handle) := by
  have hgreatest : Handle.greatest.toInt = 2147483647 := rfl
  by_contra hnone
  have htaken : ∀ k : Nat, k < c.length + 1 →
      Handle.ofInt (Handle.greatest.toInt - 1 - k) ∈ c.map (·.handle) := fun k hk =>
    not_not.1 fun hfree => hnone ⟨k, hk, hfree⟩
  have := length_le_of_taken (by omega) (by omega) htaken
  omega

/-- With the greatest handle listed the search is what is answered. -/
theorem invalidHandle_of_listed (h : Handle.greatest ∈ c.map (·.handle)) :
    c.invalidHandle = c.freeBelow (c.length + 1) (Handle.greatest.toInt - 1) := by
  obtain ⟨-, hbound, -⟩ := c.greatestHandle_spec
  have hgreatest : c.greatestHandle = Handle.greatest :=
    Handle.toInt_injective (Int.le_antisymm c.greatestHandle.toInt_range.2 (hbound _ h))
  have hnext : c.greatestHandle.next = Handle.greatest := by rw [hgreatest, Handle.next, if_pos rfl]
  rw [invalidHandle, hnext, if_neg]
  rwa [Option.isNone_iff_eq_none, sensor?_eq_none_iff, not_not]

/-- With the greatest handle free the one after the greatest listed is answered. -/
theorem invalidHandle_of_free (h : Handle.greatest ∉ c.map (·.handle)) :
    c.invalidHandle.toInt = c.greatestHandle.toInt + 1 := by
  obtain ⟨-, hbound, hleast⟩ := c.greatestHandle_spec
  have hne : c.greatestHandle ≠ Handle.greatest := by
    rintro heq
    rcases hleast with hzero | hlisted
    · exact absurd (heq ▸ hzero) (by decide)
    · exact h (heq ▸ hlisted)
  have hnext := Handle.toInt_next hne
  rw [invalidHandle, if_pos, hnext]
  rw [Option.isNone_iff_eq_none, sensor?_eq_none_iff]
  intro hlisted
  have := hbound _ hlisted
  omega

/-- No sensor has the handle that is given as invalid. Unless the greatest handle is listed, it is
the one after the greatest listed, or one if none is positive; else it is the greatest that is
not listed. -/
theorem invalidHandle_free (c : Catalog) (h : c.length < 4294967295) :
    c.invalidHandle ∉ c.map (·.handle) ∧
    (Handle.greatest ∉ c.map (·.handle) →
      (∀ g ∈ c.map (·.handle), 0 < g.toInt → (∀ f ∈ c.map (·.handle), f.toInt ≤ g.toInt) →
        c.invalidHandle.toInt = g.toInt + 1) ∧
      ((∀ g ∈ c.map (·.handle), g.toInt ≤ 0) → c.invalidHandle.toInt = 1)) ∧
    (Handle.greatest ∈ c.map (·.handle) →
      ∀ g : Handle, c.invalidHandle < g → g ∈ c.map (·.handle)) := by
  obtain ⟨hzero, hbound, hleast⟩ := c.greatestHandle_spec
  by_cases hlisted : Handle.greatest ∈ c.map (·.handle)
  · obtain ⟨k, hk, hfound, hfree, habove⟩ := freeBelow_spec (exists_free h)
    have hanswer := (invalidHandle_of_listed hlisted).trans hfound
    have hgreatest : Handle.greatest.toInt = 2147483647 := rfl
    refine ⟨hanswer ▸ hfree, fun hnot => absurd hlisted hnot, fun _ g hg => ?_⟩
    have hrange := g.toInt_range
    have hlt : c.invalidHandle.toInt < g.toInt := hg
    rw [hanswer, Handle.toInt_ofInt (by omega) (by omega)] at hlt
    -- what is above the answer was tried before it, or is the greatest
    rcases Int.lt_or_eq_of_le hrange.2 with hbelow | htop
    · have htried := habove (2147483646 - g.toInt).toNat (by omega)
      rwa [show Handle.ofInt (Handle.greatest.toInt - 1 - (2147483646 - g.toInt).toNat) = g from
        Handle.toInt_injective (by rw [Handle.toInt_ofInt (by omega) (by omega)]; omega)] at htried
    · exact Handle.toInt_injective (a := g) (htop.trans hgreatest.symm) ▸ hlisted
  · have hanswer := invalidHandle_of_free hlisted
    refine ⟨fun hmem => ?_, fun _ => ⟨fun g hg hpos hmost => ?_, fun hnone => ?_⟩,
      fun hmem => absurd hmem hlisted⟩
    · have := hbound _ hmem
      omega
    · have hge := hbound g hg
      rcases hleast with hleast | hleast
      · omega
      · have := hmost _ hleast
        omega
    · rcases hleast with hleast | hleast
      · omega
      · have := hnone _ hleast
        omega

/-- Sensors whose handles are the two greatest, one of them twice, the least and zero. -/
def crowded : Catalog :=
  stock.zipWith (fun d n => { d with handle := Handle.ofInt n })
    [2147483646, -2147483648, 2147483647, 2147483646, 0]

theorem invalidHandle_free_crowded : crowded.length < 4294967295 ∧
    Handle.greatest ∈ crowded.map (·.handle) ∧
    crowded.invalidHandle = Handle.ofInt 2147483645 ∧
    crowded.invalidHandle ∉ crowded.map (·.handle) ∧
    ∀ g : Handle, crowded.invalidHandle < g → g ∈ crowded.map (·.handle) := by
  have hlength : crowded.length < 4294967295 := by decide
  have hgreatest : Handle.greatest ∈ crowded.map (·.handle) := by decide
  obtain ⟨hfree, -, habove⟩ := invalidHandle_free crowded hlength
  exact ⟨hlength, hgreatest, by decide, hfree, habove hgreatest⟩

end Catalog

end SensorBench
