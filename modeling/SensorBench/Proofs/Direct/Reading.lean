import SensorBench.Proofs.Direct.Ring

/-!
# What is read from a region

Whatever bytes a region holds, reading gives the longest list of records that stand
freshly written in its first slots (`parse_longest`). What is read depends on the bytes up
to the end of the first slot that is not fresh and on no others, and records written one
after the other in front of such a slot are read back.
-/

set_option autoImplicit false

namespace SensorBench

theorem Region.slice_toArray (bs : List UInt8) (offset length : Nat) :
    Region.slice bs.toArray offset length = (bs.drop offset).take length := by
  rw [slice, Array.toList_extract, List.extract_eq_take_drop, Nat.add_sub_cancel_left]

namespace Record

/-- Records that stand in the first slots of a region as they are left there freshly written:
their counters start above zero and rise. -/
structure Stand (r : Region) (records : List Record) : Prop where
  inside : ∀ i < records.length, (i + 1) * width ≤ r.size
  spelled : ∀ (i : Nat) (x : Record), records[i]? = some x →
    decode (r.slice (i * width) width) = x
  sized : ∀ x ∈ records, x.size.toInt = 104
  positive : ∀ x, records[0]? = some x → 0 < x.counter.toNat
  rising : records.Pairwise fun x y => x.counter.toNat < y.counter.toNat

/-! ## Fresh records -/

theorem size_eq_iff (x : Record) : x.size = Int32.ofNat width ↔ x.size.toInt = 104 := by
  rw [← Int32.toInt_inj]
  exact Iff.rfl

/-- That each counter is above the one before it says that they rise. -/
theorem fresh_iff (previous : UInt32) (records : List Record) :
    Fresh previous records ↔ (∀ x ∈ records, x.size.toInt = 104) ∧
      (∀ x ∈ records, previous.toNat < x.counter.toNat) ∧
      records.Pairwise fun x y => x.counter.toNat < y.counter.toNat := by
  induction records generalizing previous with
  | nil => simp [Fresh]
  | cons y rest ih =>
    rw [Fresh, ih, size_eq_iff, UInt32.lt_iff_toNat_lt, List.pairwise_cons]
    constructor
    · rintro ⟨hsize, hlt, hsizes, habove, hrising⟩
      refine ⟨List.forall_mem_cons.2 ⟨hsize, hsizes⟩, List.forall_mem_cons.2 ⟨hlt, ?_⟩,
        habove, hrising⟩
      exact fun x hx => Nat.lt_trans hlt (habove x hx)
    · rintro ⟨hsizes, hlt, habove, hrising⟩
      obtain ⟨hsize, hsizes⟩ := List.forall_mem_cons.1 hsizes
      exact ⟨hsize, (List.forall_mem_cons.1 hlt).1, hsizes, habove, hrising⟩

/-- Counters that start above zero and rise are all above zero. -/
theorem fresh_of_rising {records : List Record} (hsized : ∀ x ∈ records, x.size.toInt = 104)
    (hpositive : ∀ x, records[0]? = some x → 0 < x.counter.toNat)
    (hrising : records.Pairwise fun x y => x.counter.toNat < y.counter.toNat) :
    Fresh 0 records := by
  refine (fresh_iff 0 records).2 ⟨hsized, fun x hx => ?_, hrising⟩
  cases records with
  | nil => exact absurd hx List.not_mem_nil
  | cons y rest =>
    have hfirst : 0 < y.counter.toNat := hpositive y rfl
    rcases List.mem_cons.1 hx with rfl | hx
    · exact hfirst
    · exact Nat.lt_trans hfirst ((List.pairwise_cons.1 hrising).1 x hx)

/-! ## Reading slot by slot -/

section Slots

variable {r s : Region} {records : List Record} {previous : UInt32} {index slots : Nat}

/-- What is read is fresh and stands in its slots, and the slot behind it is not fresh. -/
theorem freshFrom_facts (r : Region) (previous : UInt32) (index slots : Nat) :
    Fresh previous (freshFrom r previous index slots) ∧
      (freshFrom r previous index slots).length ≤ slots ∧
      (∀ i x, (freshFrom r previous index slots)[i]? = some x →
        readAt? r (index + i) = some x) ∧
      ((freshFrom r previous index slots).length < slots → ∀ x,
        readAt? r (index + (freshFrom r previous index slots).length) = some x →
          ¬(x.size = Int32.ofNat width ∧
            lastCounter previous (freshFrom r previous index slots) < x.counter)) := by
  induction slots generalizing previous index with
  | zero =>
    exact ⟨trivial, Nat.le_refl 0, fun i x hx => absurd hx (by simp [freshFrom]),
      fun h => absurd h (Nat.lt_irrefl 0)⟩
  | succ slots ih =>
    have hnone : ∀ i x, ([] : List Record)[i]? = some x → readAt? r (index + i) = some x :=
      fun i x hx => absurd hx (by simp)
    rw [freshFrom]
    split
    · next y hy =>
      split
      · next hfresh =>
        obtain ⟨hrest, hle, hread, hstop⟩ := @ih y.counter (index + 1)
        have hindex : ∀ i, index + (i + 1) = index + 1 + i := fun i => by omega
        refine ⟨⟨hfresh.1, hfresh.2, hrest⟩, Nat.succ_le_succ hle, fun i x hx => ?_,
          fun hlt x hx => ?_⟩
        · cases i with
          | zero =>
            cases hx
            exact hy
          | succ i =>
            rw [hindex]
            exact hread i x hx
        · rw [List.length_cons, hindex] at hx
          exact hstop (Nat.lt_of_succ_lt_succ hlt) x hx
      · next hstale =>
        refine ⟨trivial, Nat.zero_le _, hnone, fun _ x hx => ?_⟩
        -- the first slot itself is the one that is not fresh
        cases hy.symm.trans hx
        exact hstale
    · next hmissing =>
      exact ⟨trivial, Nat.zero_le _, hnone, fun _ x hx => by cases hmissing.symm.trans hx⟩

/-- Fresh records that stand in the slots are not left out. -/
theorem prefix_freshFrom (hslots : records.length ≤ slots)
    (hread : ∀ i x, records[i]? = some x → readAt? r (index + i) = some x)
    (hfresh : Fresh previous records) : records <+: freshFrom r previous index slots := by
  induction records generalizing previous index slots with
  | nil => exact List.nil_prefix
  | cons y rest ih =>
    obtain ⟨hsize, hcounter, hrest⟩ := hfresh
    cases slots with
    | zero => exact absurd hslots (by simp)
    | succ slots =>
      have hfirst : readAt? r index = some y := hread 0 y rfl
      rw [freshFrom, hfirst]
      dsimp only
      rw [if_pos ⟨hsize, hcounter⟩]
      refine List.cons_prefix_cons.2 ⟨rfl, ih (Nat.le_of_succ_le_succ hslots) ?_ hrest⟩
      intro i x hx
      have hindex : index + (i + 1) = index + 1 + i := by omega
      rw [← hindex]
      exact hread (i + 1) x hx

theorem readAt?_eq_some_iff {x : Record} :
    readAt? r index = some x ↔
      (index + 1) * width ≤ r.size ∧ decode (r.slice (index * width) width) = x := by
  rw [readAt?]
  split
  · next h => rw [Option.some_inj, and_iff_right h]
  · next h => exact iff_of_false (Option.some_ne_none x).symm fun hx => h hx.1

theorem lt_capacityOf_iff : index < capacityOf r.size ↔ (index + 1) * width ≤ r.size := by
  rw [capacityOf, Nat.lt_iff_add_one_le]
  exact Nat.le_div_iff_mul_le (by decide)

/-- A slot is read alike from regions that agree up to its end. -/
theorem readAt?_congr (h : ∀ i < (index + 1) * width, s[i]? = r[i]?) :
    readAt? s index = readAt? r index := by
  have hend : (index + 1) * width = index * width + 104 := Nat.succ_mul index width
  rw [hend] at h
  -- the last byte of the slot is in both regions or in neither
  have hsize : (index + 1) * width ≤ s.size ↔ (index + 1) * width ≤ r.size := by
    have hlast := h (index * width + 103) (by omega)
    have hs : s[index * width + 103]? = none ↔ s.size ≤ index * width + 103 :=
      Array.getElem?_eq_none_iff
    have hr : r[index * width + 103]? = none ↔ r.size ≤ index * width + 103 :=
      Array.getElem?_eq_none_iff
    rw [hlast, hr] at hs
    omega
  have hslice : s.slice (index * width) width = r.slice (index * width) width := by
    apply List.ext_getElem?
    intro i
    rw [Region.getElem?_slice, Region.getElem?_slice]
    split
    · next hi => exact h _ (Nat.add_lt_add_left hi _)
    · rfl
  rw [readAt?, readAt?, hslice]
  simp only [hsize]

/-- A record is read back from the beginning of a region. -/
theorem readAt?_front (x : Record) (rest : List UInt8) :
    readAt? (x.encode ++ rest).toArray 0 = some x := by
  have hlength := length_encode x
  have hinside : (0 + 1) * width ≤ (x.encode ++ rest).toArray.size := by
    rw [List.size_toArray, List.length_append, hlength, Nat.zero_add, Nat.one_mul]
    exact Nat.le_add_right _ _
  rw [readAt?_of_le hinside, Region.slice_toArray, Nat.zero_mul, List.drop_zero,
    List.take_left' hlength, decode_encode]

/-- Behind one record the slots lie one further back. -/
theorem readAt?_behind (x : Record) (rest : List UInt8) (index : Nat) :
    readAt? (x.encode ++ rest).toArray (index + 1) = readAt? rest.toArray index := by
  have hlength := length_encode x
  have hdrop : (x.encode ++ rest).drop ((index + 1) * width) = rest.drop (index * width) := by
    rw [Nat.succ_mul, Nat.add_comm, ← List.drop_drop, List.drop_left' hlength]
  have hinside : (index + 1 + 1) * width ≤ (x.encode ++ rest).length ↔
      (index + 1) * width ≤ rest.length := by
    rw [List.length_append, hlength, Nat.succ_mul]
    omega
  rw [readAt?, readAt?, Region.slice_toArray, Region.slice_toArray, hdrop]
  simp only [List.size_toArray, hinside]

/-- Records in a row are read from their slots, and what follows them from the slots behind. -/
theorem readAt?_row (records : List Record) (tail : List UInt8) :
    (∀ i x, records[i]? = some x →
      readAt? (records.flatMap encode ++ tail).toArray i = some x) ∧
      readAt? (records.flatMap encode ++ tail).toArray records.length =
        readAt? tail.toArray 0 := by
  induction records with
  | nil => exact ⟨fun i x hx => absurd hx (by simp), rfl⟩
  | cons y rest ih =>
    obtain ⟨hread, hbehind⟩ := ih
    rw [List.flatMap_cons, List.append_assoc]
    refine ⟨fun i x hx => ?_, ?_⟩
    · cases i with
      | zero =>
        cases hx
        exact readAt?_front y _
      | succ i =>
        rw [readAt?_behind]
        exact hread i x hx
    · rw [List.length_cons, readAt?_behind, hbehind]

end Slots

/-! ## What is read -/

section Parse

variable {r s : Region} {records : List Record}

theorem Stand.reads (h : Stand r records) {i : Nat} {x : Record} (hx : records[i]? = some x) :
    readAt? r i = some x :=
  readAt?_eq_some_iff.2 ⟨h.inside i (List.getElem?_eq_some_iff.1 hx).1, h.spelled i x hx⟩

theorem Stand.fresh (h : Stand r records) : Fresh 0 records :=
  fresh_of_rising h.sized h.positive h.rising

theorem Stand.length_le (h : Stand r records) : records.length ≤ capacityOf r.size := by
  cases hlength : records.length with
  | zero => exact Nat.zero_le _
  | succ n => exact lt_capacityOf_iff.2 (h.inside n (by omega))

/-- Fresh records that are read from the first slots stand there. -/
theorem stand_of_reads (hread : ∀ i x, records[i]? = some x → readAt? r i = some x)
    (hfresh : Fresh 0 records) : Stand r records := by
  obtain ⟨hsized, hpositive, hrising⟩ := (fresh_iff 0 records).1 hfresh
  have hslot := fun i x hx => readAt?_eq_some_iff.1 (hread i x hx)
  exact ⟨fun i hi => (hslot i _ (List.getElem?_eq_getElem hi)).1,
    fun i x hx => (hslot i x hx).2, hsized,
    fun x hx => hpositive x (List.mem_of_getElem? hx), hrising⟩

/-- What is read stands in the region. -/
theorem stand_parse (r : Region) : Stand r (parse r) := by
  obtain ⟨hfresh, -, hread, -⟩ := freshFrom_facts r 0 0 (capacityOf r.size)
  exact stand_of_reads (fun i x hx => Nat.zero_add i ▸ hread i x hx) hfresh

/-- Nothing longer stands there. -/
theorem Stand.prefix_parse (h : Stand r records) : records <+: parse r := by
  refine prefix_freshFrom h.length_le (fun i x hx => ?_) h.fresh
  rw [Nat.zero_add]
  exact h.reads hx

/-- Records that stand in a region are all that is read from it if the slot behind them is
not fresh. -/
theorem Stand.parse_eq (h : Stand r records)
    (hstop : ∀ x, readAt? r records.length = some x →
      ¬(x.size.toInt = 104 ∧ lastCounter 0 records < x.counter)) : parse r = records := by
  refine freshFrom_eq h.length_le (fun i x hx => ?_) h.fresh fun _ x hx => ?_
  · rw [Nat.zero_add]
    exact h.reads hx
  · rw [Nat.zero_add] at hx
    rw [size_eq_iff]
    exact hstop x hx

/-- The slot behind what is read is not fresh, if there is one. -/
theorem stale_behind_parse {x : Record} (hx : readAt? r (parse r).length = some x) :
    ¬(x.size.toInt = 104 ∧ lastCounter 0 (parse r) < x.counter) := by
  obtain ⟨-, -, -, hstop⟩ := freshFrom_facts r 0 0 (capacityOf r.size)
  rw [← size_eq_iff]
  apply hstop (lt_capacityOf_iff.2 (readAt?_eq_some_iff.1 hx).1) x
  rwa [Nat.zero_add]

/-- Bytes behind the first slot that is not fresh do not matter. -/
theorem parse_congr (h : ∀ i < ((parse r).length + 1) * width, s[i]? = r[i]?) :
    parse s = parse r := by
  have hslot : ∀ n ≤ (parse r).length, readAt? s n = readAt? r n := fun n hn =>
    readAt?_congr fun i hi => h i
      (Nat.lt_of_lt_of_le hi (Nat.mul_le_mul_right width (Nat.succ_le_succ hn)))
  have hstand : Stand s (parse r) := by
    refine stand_of_reads (fun i x hx => ?_) (stand_parse r).fresh
    rw [hslot i (Nat.le_of_lt (List.getElem?_eq_some_iff.1 hx).1)]
    exact (stand_parse r).reads hx
  apply hstand.parse_eq
  intro x hx
  rw [hslot _ (Nat.le_refl _)] at hx
  exact stale_behind_parse hx

/-- Records written in a row are read back if what follows them is no fresh slot. -/
theorem parse_row {tail : List UInt8} (hsized : ∀ x ∈ records, x.size.toInt = 104)
    (hpositive : ∀ x, records[0]? = some x → 0 < x.counter.toNat)
    (hrising : records.Pairwise fun x y => x.counter.toNat < y.counter.toNat)
    (htail : ∀ x, readAt? tail.toArray 0 = some x →
      ¬(x.size.toInt = 104 ∧ lastCounter 0 records < x.counter)) :
    parse (records.flatMap encode ++ tail).toArray = records := by
  obtain ⟨hread, hbehind⟩ := readAt?_row records tail
  apply (stand_of_reads hread (fresh_of_rising hsized hpositive hrising)).parse_eq
  intro x hx
  rw [hbehind] at hx
  exact htail x hx

/-- Of any region the longest list of records is read that stand in its first slots: every
other such list is a beginning of it. The slot behind them is not fresh, if there is one, and
regions that agree up to its end are read alike. Records in a row, of the right size and with
counters that start above zero and rise, are read back whatever follows them, unless that
begins with a fresh slot. -/
theorem parse_longest (r : Region) :
    Stand r (parse r) ∧
      (∀ records, Stand r records → records <+: parse r) ∧
      (∀ x, readAt? r (parse r).length = some x →
        ¬(x.size.toInt = 104 ∧ lastCounter 0 (parse r) < x.counter)) ∧
      (∀ s : Region, (∀ i < ((parse r).length + 1) * width, s[i]? = r[i]?) →
        parse s = parse r) ∧
      ∀ (records : List Record) (tail : List UInt8),
        (∀ x ∈ records, x.size.toInt = 104) →
        (∀ x, records[0]? = some x → 0 < x.counter.toNat) →
        (records.Pairwise fun x y => x.counter.toNat < y.counter.toNat) →
        (∀ x, readAt? tail.toArray 0 = some x →
          ¬(x.size.toInt = 104 ∧ lastCounter 0 records < x.counter)) →
        parse (records.flatMap encode ++ tail).toArray = records :=
  ⟨stand_parse r, fun _ => Stand.prefix_parse, fun _ => stale_behind_parse,
    fun _ => parse_congr, fun _ _ => parse_row⟩

/-- Two records in front of one that the lap before left behind, and of bytes that are no
whole slot. -/
theorem parse_longest_stale :
    let x := Record.of 1 1 5 100 []
    let y := Record.of 1 1 9 200 []
    let old := Record.of 1 1 3 50 []
    let region := fun rest : List UInt8 => ([x, y].flatMap encode ++ (old.encode ++ rest)).toArray
    parse (region [0xcc]) = [x, y] ∧ [x] <+: parse (region [0xcc]) ∧
      parse (region [0x68, 0, 0]) = parse (region [0xcc]) := by
  intro x y old region
  obtain ⟨-, hlongest, -, hcongr, hrow⟩ := parse_longest (region [0xcc])
  have hread : parse (region [0xcc]) = [x, y] := by
    refine hrow [x, y] (old.encode ++ [0xcc]) (by decide) (fun z hz => ?_) (by decide) ?_
    · cases hz
      decide
    · intro z hz
      rw [readAt?_front] at hz
      cases hz
      decide
  have hstand : Stand (region [0xcc]) [x] := by
    refine stand_of_reads (fun i z hz => ?_) ⟨rfl, by decide, trivial⟩
    cases i with
    | zero =>
      cases hz
      exact readAt?_front x _
    | succ i => exact absurd hz (by simp)
  -- the third slot ends with the old record
  have hagree : ∀ i < 3 * 104, (region [0x68, 0, 0])[i]? = (region [0xcc])[i]? := by
    intro i hi
    have hlength : ([x, y].flatMap encode ++ old.encode).length = 3 * 104 := by decide +kernel
    have hfront : ∀ rest, (region rest)[i]? = ([x, y].flatMap encode ++ old.encode)[i]? := by
      intro rest
      show ([x, y].flatMap encode ++ (old.encode ++ rest)).toArray[i]? = _
      rw [List.getElem?_toArray, ← List.append_assoc, List.getElem?_append_left (hlength ▸ hi)]
    rw [hfront, hfront]
  exact ⟨hread, hlongest [x] hstand, hcongr _ (hread ▸ hagree)⟩

end Parse

end Record

end SensorBench
