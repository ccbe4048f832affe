import Mathlib.Data.List.Induction
import SensorBench.Proofs.Direct.Ring

/-!
# The bytes of a ring

A ring that starts out with zeros is known byte by byte after any number of laps: a slot
spells the record that was written to it last, or zeros if there is none
(`slice_writeRing`), and what lies behind the last slot is left as it was
(`getElem?_writeRing_behind`).
-/

set_option autoImplicit false

namespace SensorBench.Hal.Channel

/-- The record that was written to a slot last: the last of those whose number falls on the
slot. -/
def latest? (capacity slot : Nat) (records : List Record) : Option Record :=
  (records.zipIdx.filter fun p => p.2 % capacity = slot).getLast?.map (·.1)

/-- The bytes of a slot that a record was written to, or none. -/
def slotBytes : Option Record → List UInt8
  | some x => x.encode
  | none => List.replicate Record.width 0

/-- One more record is the latest in its own slot and changes no other. -/
theorem latest?_concat (capacity slot : Nat) (records : List Record) (x : Record) :
    latest? capacity slot (records ++ [x]) =
      if records.length % capacity = slot then some x else latest? capacity slot records := by
  have hindex : (records ++ [x]).zipIdx = records.zipIdx ++ [(x, records.length)] := by
    rw [List.zipIdx_append, Nat.zero_add]
    rfl
  rw [latest?, hindex, List.filter_append]
  by_cases h : records.length % capacity = slot
  · rw [if_pos h, List.filter_cons_of_pos (by simpa using h), List.filter_nil,
      List.getLast?_concat]
    rfl
  · rw [if_neg h, List.filter_cons_of_neg (by simpa using h), List.filter_nil,
      List.append_nil, latest?]

theorem writeRing_concat (capacity : Nat) (region : Region) (number : Nat)
    (records : List Record) (x : Record) :
    writeRing capacity region number (records ++ [x]) =
      (writeRing capacity region number records).put
        ((number + records.length) % capacity * Record.width) x.encode := by
  rw [writeRing_append]
  rfl

/-- Each slot of a ring spells the record written to it last, however many laps ago. -/
theorem slice_writeRing {capacity size slot : Nat} (hslot : slot < capacity)
    (hsize : capacity * Record.width ≤ size) (records : List Record) :
    (writeRing capacity (Region.zero size) 0 records).slice (slot * Record.width)
      Record.width = slotBytes (latest? capacity slot records) := by
  have hend : ∀ i < capacity, i * Record.width + Record.width ≤ size := by
    intro i hi
    rw [← Nat.succ_mul]
    exact Nat.le_trans (Nat.mul_le_mul_right Record.width hi) hsize
  -- the induction is on the record written last
  induction records using List.reverseRecOn with
  | nil => exact Region.slice_zero (hend slot hslot)
  | append_singleton before x ih =>
    have hlength := Record.length_encode x
    rw [writeRing_concat, Nat.zero_add, latest?_concat]
    by_cases h : before.length % capacity = slot
    · have hfits : slot * Record.width + x.encode.length ≤
          (writeRing capacity (Region.zero size) 0 before).size := by
        rw [size_writeRing, Region.zero, Array.size_replicate, hlength]
        exact hend slot hslot
      have hput := Region.slice_put_self _ _ _ hfits
      rw [hlength] at hput
      rw [if_pos h, h, hput, slotBytes]
    · have hapart : slot * Record.width + Record.width ≤
            before.length % capacity * Record.width ∨
          before.length % capacity * Record.width + x.encode.length ≤ slot * Record.width := by
        rw [hlength]
        exact Record.slots_apart (Ne.symm h)
      rw [if_neg h, Region.slice_put_beside _ hapart, ih]

/-- No record reaches behind the last slot. -/
theorem getElem?_writeRing_behind {capacity : Nat} (hc : 0 < capacity) (region : Region)
    (number : Nat) (records : List Record) {i : Nat} (hi : capacity * Record.width ≤ i) :
    (writeRing capacity region number records)[i]? = region[i]? := by
  induction records generalizing region number with
  | nil => rfl
  | cons x rest ih =>
    have hslot : (number % capacity + 1) * Record.width ≤ i :=
      Nat.le_trans (Nat.mul_le_mul_right Record.width (Nat.mod_lt number hc)) hi
    rw [Nat.succ_mul] at hslot
    -- the record ends where its slot ends
    rw [writeRing, ih, Region.getElem?_put, Record.length_encode, if_neg (by omega)]

end SensorBench.Hal.Channel
