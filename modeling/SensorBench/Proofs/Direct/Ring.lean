import SensorBench.Hal.Channel
import SensorBench.Proofs.Direct.Codec

/-!
# Writing a ring and reading it

A slot of a ring holds the record written to it last (`readAt?_writeRing`). Reading
stops at the first slot that is not fresh, so that records numbered from one are read
back from the start of the last lap on (`parse_writeRing`): the slot behind the last
record is empty, outside, or left over from the lap before with a lower counter.
-/

set_option autoImplicit false

namespace SensorBench

namespace Hal.Channel

@[simp] theorem size_writeRing (capacity : Nat) (region : Region) (number : Nat)
    (records : List Record) :
    (writeRing capacity region number records).size = region.size := by
  induction records generalizing region number with
  | nil => rfl
  | cons x rest ih => rw [writeRing, ih, Region.size_put]

theorem writeRing_append (capacity : Nat) (region : Region) (number : Nat)
    (xs ys : List Record) :
    writeRing capacity region number (xs ++ ys) =
      writeRing capacity (writeRing capacity region number xs) (number + xs.length) ys := by
  induction xs generalizing region number with
  | nil => rfl
  | cons x rest ih =>
    have hnumber : number + (x :: rest).length = number + 1 + rest.length := by
      rw [List.length_cons]
      omega
    rw [hnumber, List.cons_append, writeRing, ih, writeRing]

/-- Two numbers less than a lap apart have different slots. -/
theorem slot_ne {capacity number later : Nat} (hlt : number < later)
    (hlap : later < number + capacity) : later % capacity ≠ number % capacity := by
  intro h
  have hzero : (later - number) % capacity = 0 := Nat.sub_mod_eq_zero_of_mod_eq h
  rw [Nat.mod_eq_of_lt (by omega)] at hzero
  omega

/-- After some records are written, each of the last lap is in its slot, and a slot that
none of them was written to is as before. -/
theorem readAt?_writeRing_from {capacity : Nat} (hc : 0 < capacity) {region : Region}
    (hsize : capacity * Record.width ≤ region.size) (number : Nat) (records : List Record) :
    (∀ n x, records[n]? = some x → records.length ≤ n + capacity →
        Record.readAt? (writeRing capacity region number records) ((number + n) % capacity) =
          some x) ∧
      ∀ index, (∀ n < records.length, (number + n) % capacity ≠ index) →
        Record.readAt? (writeRing capacity region number records) index =
          Record.readAt? region index := by
  induction records generalizing region number with
  | nil => exact ⟨fun n x hx => absurd hx (by simp), fun _ _ => rfl⟩
  | cons x rest ih =>
    have hslot : number % capacity < capacity := Nat.mod_lt number hc
    have hfits : (number % capacity + 1) * Record.width ≤ region.size :=
      Nat.le_trans (Nat.mul_le_mul_right _ hslot) hsize
    have hput := Record.readAt?_put_slot region x hfits
    have hsize' : capacity * Record.width ≤
        (region.put (number % capacity * Record.width) x.encode).size := by
      rwa [Region.size_put]
    -- the induction goes from the first record on, over any region
    obtain ⟨hlast, hother⟩ := ih hsize' (number + 1)
    constructor
    · intro n y hy hlap
      rw [List.length_cons] at hlap
      cases n with
      | zero =>
        -- the others of the lap leave the first slot alone
        cases hy
        rw [Nat.add_zero, writeRing, hother, hput, if_pos rfl]
        intro m hm
        exact slot_ne (by omega) (by omega)
      | succ n =>
        have hnumber : number + (n + 1) = number + 1 + n := by omega
        rw [hnumber, writeRing]
        exact hlast n y hy (by omega)
    · intro index hindex
      -- neither the first record nor a later one goes there
      have hfirst : index ≠ number % capacity := fun e => hindex 0 (by simp) e.symm
      rw [writeRing, hother, hput, if_neg hfirst]
      intro m hm
      have hnumber : number + 1 + m = number + (m + 1) := by omega
      rw [hnumber]
      exact hindex (m + 1) (by rw [List.length_cons]; omega)

/-- A ring that starts empty: the records of the last lap are in their slots, and nothing
is where no record has come yet. -/
theorem readAt?_writeRing {capacity size : Nat} (hc : 0 < capacity)
    (hsize : capacity * Record.width ≤ size) (records : List Record) :
    (∀ n x, records[n]? = some x → records.length ≤ n + capacity →
        Record.readAt? (writeRing capacity (Region.zero size) 0 records) (n % capacity) =
          some x) ∧
      ∀ index, records.length ≤ index ∨ capacity ≤ index →
        Record.readAt? (writeRing capacity (Region.zero size) 0 records) index =
          Record.readAt? (Region.zero size) index := by
  have hzero : capacity * Record.width ≤ (Region.zero size).size := by
    rwa [Region.zero, Array.size_replicate]
  obtain ⟨hlast, hother⟩ := readAt?_writeRing_from hc hzero 0 records
  constructor
  · intro n x hx hlap
    have hread := hlast n x hx hlap
    rwa [Nat.zero_add] at hread
  · intro index hindex
    apply hother index
    intro n hn e
    rw [Nat.zero_add] at e
    -- the slot of a number is neither above it nor outside the ring
    have hlt := Nat.mod_lt n hc
    have hle := Nat.mod_le n capacity
    omega

end Hal.Channel

namespace Record

/-- Records of the right size with counters that rise from a previous one. -/
def Fresh (previous : UInt32) : List Record → Prop
  | [] => True
  | r :: rest => r.size = Int32.ofNat width ∧ previous < r.counter ∧ Fresh r.counter rest

/-- The counter of the last record, the previous one if there is none. -/
def lastCounter (previous : UInt32) : List Record → UInt32
  | [] => previous
  | r :: rest => lastCounter r.counter rest

/-- Reading gives the fresh records that the slots hold, if the slot behind them is not
fresh. -/
theorem freshFrom_eq {r : Region} {records : List Record} {previous : UInt32}
    {index slots : Nat} (hslots : records.length ≤ slots)
    (hread : ∀ i x, records[i]? = some x → readAt? r (index + i) = some x)
    (hfresh : Fresh previous records)
    (hstop : records.length < slots → ∀ x, readAt? r (index + records.length) = some x →
      ¬(x.size = Int32.ofNat width ∧ lastCounter previous records < x.counter)) :
    freshFrom r previous index slots = records := by
  induction records generalizing previous index slots with
  | nil =>
    cases slots with
    | zero => rfl
    | succ slots =>
      rw [freshFrom]
      split
      -- reading stops here, at a record that is not fresh or at the end
      · next x hx => exact if_neg (hstop (Nat.succ_pos slots) x hx)
      · rfl
  | cons y rest ih =>
    obtain ⟨hsize, hcounter, hrest⟩ := hfresh
    cases slots with
    | zero => exact absurd hslots (by simp)
    | succ slots =>
      have hindex : ∀ i, index + (i + 1) = index + 1 + i := fun i => by omega
      have hfirst : readAt? r index = some y := hread 0 y rfl
      rw [freshFrom, hfirst]
      dsimp only
      rw [if_pos ⟨hsize, hcounter⟩, ih (Nat.le_of_succ_le_succ hslots) _ hrest]
      · intro hlt x hx
        refine hstop (Nat.succ_lt_succ hlt) x ?_
        rwa [List.length_cons, hindex]
      · intro i x hx
        rw [← hindex]
        exact hread (i + 1) x hx

/-- Records of the right size with the counters `start`, `start + 1`, …. -/
def Numbered (start : Nat) (records : List Record) : Prop :=
  ∀ n x, records[n]? = some x → x.size = Int32.ofNat width ∧ x.counter.toNat = start + n

theorem Numbered.drop {start : Nat} {records : List Record} (h : Numbered start records)
    (n : Nat) : Numbered (start + n) (records.drop n) := by
  intro i x hx
  rw [List.getElem?_drop] at hx
  rw [Nat.add_assoc]
  exact h (n + i) x hx

theorem Numbered.tail {start : Nat} {x : Record} {rest : List Record}
    (h : Numbered start (x :: rest)) : Numbered (start + 1) rest :=
  h.drop 1

theorem Numbered.fresh {start : Nat} {records : List Record} {previous : UInt32}
    (h : Numbered start records) (hstart : previous.toNat < start) : Fresh previous records := by
  induction records generalizing start previous with
  | nil => trivial
  | cons x rest ih =>
    obtain ⟨hsize, hcounter⟩ := h 0 x rfl
    refine ⟨hsize, ?_, ih h.tail (by omega)⟩
    rw [UInt32.lt_iff_toNat_lt]
    omega

theorem Numbered.lastCounter {start : Nat} {records : List Record} (previous : UInt32)
    (h : Numbered start records) (hne : records ≠ []) :
    (lastCounter previous records).toNat + 1 = start + records.length := by
  induction records generalizing start previous with
  | nil => exact absurd rfl hne
  | cons x rest ih =>
    obtain ⟨-, hcounter⟩ := h 0 x rfl
    cases rest with
    | nil => exact congrArg Nat.succ hcounter
    | cons y rest =>
      have hrest := ih x.counter h.tail (List.cons_ne_nil y rest)
      rw [List.length_cons]
      show (Record.lastCounter x.counter (y :: rest)).toNat + 1 = _
      omega

/-- What is read from a ring that started empty is the last lap of the records written to
it, if these are numbered from one. -/
theorem parse_writeRing {capacity size : Nat} (hc : 0 < capacity)
    (hsize : capacity * width ≤ size) {records : List Record} (hnumbered : Numbered 1 records) :
    parse (Hal.Channel.writeRing capacity (Region.zero size) 0 records) =
      records.drop (records.length - 1 - (records.length - 1) % capacity) := by
  obtain ⟨hlast, hempty⟩ := Hal.Channel.readAt?_writeRing hc hsize records
  -- the number of the first record of the last lap, a multiple of the capacity
  obtain ⟨lap, hlap⟩ : ∃ lap, records.length - 1 - (records.length - 1) % capacity =
      capacity * lap := ⟨(records.length - 1) / capacity, by
    have := Nat.div_add_mod (records.length - 1) capacity
    omega⟩
  have hmod := Nat.mod_lt (records.length - 1) hc
  have hle := Nat.mod_le (records.length - 1) capacity
  have hslot : ∀ i, i < capacity → (capacity * lap + i) % capacity = i := fun i hi => by
    rw [Nat.mul_add_mod, Nat.mod_eq_of_lt hi]
  rw [hlap]
  -- the last lap begins in slot zero, so its records stand in slots of their own numbers
  generalize hxs : records.drop (capacity * lap) = xs
  have hget : ∀ i, xs[i]? = records[capacity * lap + i]? := fun i => by
    rw [← hxs, List.getElem?_drop]
  have hlength : xs.length = records.length - capacity * lap := by
    rw [← hxs, List.length_drop]
  have hxsNumbered : Numbered (1 + capacity * lap) xs := hxs ▸ hnumbered.drop (capacity * lap)
  have hslots : capacity ≤ capacityOf (Hal.Channel.writeRing capacity (Region.zero size) 0
      records).size := by
    rw [Hal.Channel.size_writeRing, Region.zero, Array.size_replicate]
    exact (Nat.le_div_iff_mul_le (by decide)).2 hsize
  rw [parse]
  refine freshFrom_eq (by omega) (fun i x hx => ?_) (hxsNumbered.fresh ?_) fun _ x hx => ?_
  · have hi : i < xs.length := (List.getElem?_eq_some_iff.1 hx).1
    rw [hget] at hx
    have hread := hlast _ x hx (by omega)
    rwa [hslot i (by omega), ← Nat.zero_add i] at hread
  · show 0 < 1 + capacity * lap
    omega
  · rw [Nat.zero_add] at hx
    rintro ⟨hxsize, hxcounter⟩
    -- the slot behind the last record: outside, never written, or of the lap before
    by_cases hbehind : records.length ≤ xs.length ∨ capacity ≤ xs.length
    · rw [hempty _ hbehind] at hx
      exact size_of_readAt?_zero hx hxsize
    · -- the slot still holds a record of the lap before
      obtain ⟨before, rfl⟩ : ∃ before, lap = before + 1 := ⟨lap - 1, by
        cases lap with
        | zero => omega
        | succ lap => rfl⟩
      rw [Nat.mul_succ] at hlap hlength hxsNumbered
      have hlt : capacity * before + xs.length < records.length := by omega
      have hold := List.getElem?_eq_getElem hlt
      have hread := hlast _ _ hold (by omega)
      rw [Nat.mul_add_mod, Nat.mod_eq_of_lt (by omega), hx] at hread
      cases hread
      have hcounter := (hnumbered _ _ hold).2
      have hne : xs ≠ [] := fun e => by
        rw [e, List.length_nil] at hlength
        omega
      have hlastCounter := hxsNumbered.lastCounter 0 hne
      rw [UInt32.lt_iff_toNat_lt] at hxcounter
      omega

end Record

end SensorBench
