import SensorBench.Direct.Record

/-!
# Records as bytes

A record comes back bit for bit from its bytes (`decode_encode`). In a region the
bytes put in one slot are read back from that slot and leave the bytes of all other
slots alone (`readAt?_put_slot`).
-/

set_option autoImplicit false

namespace SensorBench

namespace Region

/-- A byte after some were put in place: one of them inside their span, and the old one
outside. -/
theorem getElem?_put (r : Region) (offset : Nat) (data : List UInt8) (i : Nat) :
    (r.put offset data)[i]? =
      if offset ≤ i ∧ i < offset + data.length ∧ i < r.size then data[i - offset]? else r[i]? := by
  induction data generalizing r offset with
  | nil =>
    rw [if_neg (by simp only [List.length_nil]; omega)]
    rfl
  | cons b rest ih =>
    rw [put, ih, Array.size_setIfInBounds, Array.getElem?_setIfInBounds, List.length_cons]
    by_cases hi : i = offset
    · subst hi
      -- the rest goes behind the first byte
      rw [if_pos rfl, if_neg (by omega)]
      by_cases hsize : i < r.size
      · rw [if_pos hsize, if_pos ⟨Nat.le_refl i, by omega, hsize⟩, Nat.sub_self]
        rfl
      · rw [if_neg hsize, if_neg fun h => hsize h.2.2]
        exact (Array.getElem?_eq_none (Nat.le_of_not_lt hsize)).symm
    · rw [if_neg (Ne.symm hi)]
      by_cases hin : offset + 1 ≤ i ∧ i < offset + 1 + rest.length ∧ i < r.size
      · have hpos : i - offset = i - (offset + 1) + 1 := by omega
        rw [if_pos hin, if_pos (by omega), hpos, List.getElem?_cons_succ]
      · rw [if_neg hin, if_neg (by omega)]

theorem getElem?_slice (r : Region) (offset length i : Nat) :
    (r.slice offset length)[i]? = if i < length then r[offset + i]? else none := by
  rw [slice, Array.getElem?_toList, Array.getElem?_extract]
  by_cases hi : i < length
  · rw [if_pos hi]
    split
    · rfl
    · exact (Array.getElem?_eq_none (by omega)).symm
  · rw [if_neg hi, if_neg (by omega)]

/-- Bytes that fit are read back from where they were put. -/
theorem slice_put_self (r : Region) (offset : Nat) (data : List UInt8)
    (h : offset + data.length ≤ r.size) : (r.put offset data).slice offset data.length = data := by
  apply List.ext_getElem?
  intro i
  rw [getElem?_slice, getElem?_put]
  by_cases hi : i < data.length
  · rw [if_pos hi, if_pos (by omega), Nat.add_sub_cancel_left]
  · rw [if_neg hi, List.getElem?_eq_none (by omega)]

/-- Zeros are all that a slice of zeros spells. -/
theorem slice_zero {size offset length : Nat} (h : offset + length ≤ size) :
    (zero size).slice offset length = List.replicate length 0 := by
  apply List.ext_getElem?
  intro i
  rw [getElem?_slice, zero, Array.getElem?_replicate, List.getElem?_replicate]
  by_cases hi : i < length
  · rw [if_pos hi, if_pos (by omega), if_pos hi]
  · rw [if_neg hi, if_neg hi]

/-- Bytes put beside a slice leave it alone. -/
theorem slice_put_beside (r : Region) {offset : Nat} {data : List UInt8} {first length : Nat}
    (h : first + length ≤ offset ∨ offset + data.length ≤ first) :
    (r.put offset data).slice first length = r.slice first length := by
  apply List.ext_getElem?
  intro i
  rw [getElem?_slice, getElem?_slice, getElem?_put]
  by_cases hi : i < length
  · rw [if_pos hi, if_pos hi, if_neg (by omega)]
  · rw [if_neg hi, if_neg hi]

end Region

namespace Record

theorem length_wordBytes (w : UInt32) : (wordBytes w).length = 4 := Wire.length_bytes 4 w.toNat

/-- The word whose bytes begin behind some others. -/
theorem wordAt_append {front : List UInt8} {offset : Nat} (h : front.length = offset) (w : UInt32)
    (rest : List UInt8) : wordAt (front ++ (wordBytes w ++ rest)) offset = w := by
  have hlt : w.toNat < Nat.pow 256 4 := w.toNat_lt
  rw [wordAt, List.drop_left' h, List.take_left' (length_wordBytes w), wordBytes,
    Wire.value_bytes, Nat.mod_eq_of_lt hlt]
  exact UInt32.ofNat_toNat

/-- Any word of a run of words that begins behind some bytes. -/
theorem wordAt_append_flatMap {front : List UInt8} {offset : Nat} (h : front.length = offset)
    (ws : List UInt32) (rest : List UInt8) {i : Nat} (hi : i < ws.length) :
    wordAt (front ++ (ws.flatMap wordBytes ++ rest)) (offset + 4 * i) = ws[i] := by
  induction ws generalizing front offset i with
  | nil => exact absurd hi (Nat.not_lt_zero i)
  | cons w ws ih =>
    rw [List.flatMap_cons, List.append_assoc]
    cases i with
    | zero => exact wordAt_append h w _
    | succ i =>
      -- the first word joins the bytes in front
      have hfront : (front ++ wordBytes w).length = offset + 4 := by
        rw [List.length_append, length_wordBytes, h]
      have hoffset : offset + 4 * (i + 1) = offset + 4 + 4 * i := by omega
      rw [← List.append_assoc, hoffset]
      exact ih hfront (Nat.lt_of_succ_lt_succ hi)

theorem value_drop_append {front : List UInt8} {offset : Nat} (h : front.length = offset)
    (w : UInt64) (rest : List UInt8) :
    (Wire.value (((front ++ (Wire.bytes 8 w.toNat ++ rest)).drop offset).take 8)).toUInt64 = w := by
  have hlt : w.toNat < Nat.pow 256 8 := w.toNat_lt
  rw [List.drop_left' h, List.take_left' (Wire.length_bytes 8 _), Wire.value_bytes,
    Nat.mod_eq_of_lt hlt]
  exact UInt64.ofNat_toNat

/-- A record is what its bytes spell. -/
theorem decode_encode (r : Record) : decode r.encode = r := by
  have hsize : wordAt r.encode 0 = r.size.toUInt32 := by
    simp only [encode, List.append_assoc]
    exact wordAt_append List.length_nil _ _
  have htoken : wordAt r.encode 4 = r.token.toUInt32 := by
    simp only [encode, List.append_assoc]
    exact wordAt_append (length_wordBytes _) _ _
  have hkind : wordAt r.encode 8 = r.kindCode.toUInt32 := by
    have hfront : (wordBytes r.size.toUInt32 ++ wordBytes r.token.toUInt32).length = 8 := by
      simp [length_wordBytes]
    simpa only [encode, List.append_assoc] using wordAt_append hfront r.kindCode.toUInt32 _
  have hcounter : wordAt r.encode 12 = r.counter := by
    have hfront : (wordBytes r.size.toUInt32 ++ wordBytes r.token.toUInt32 ++
        wordBytes r.kindCode.toUInt32).length = 12 := by
      simp [length_wordBytes]
    simpa only [encode, List.append_assoc] using wordAt_append hfront r.counter _
  have htime : (Wire.value ((r.encode.drop 16).take 8)).toUInt64 = r.time.toUInt64 := by
    have hfront : (wordBytes r.size.toUInt32 ++ wordBytes r.token.toUInt32 ++
        wordBytes r.kindCode.toUInt32 ++ wordBytes r.counter).length = 16 := by
      simp [length_wordBytes]
    simpa only [encode, List.append_assoc] using value_drop_append hfront r.time.toUInt64 _
  -- the values and the reserved words are runs of words behind the fixed fields
  have hfront : (wordBytes r.size.toUInt32 ++ wordBytes r.token.toUInt32 ++
      wordBytes r.kindCode.toUInt32 ++ wordBytes r.counter ++
      Wire.bytes 8 r.time.toUInt64.toNat).length = 24 := by
    simp [length_wordBytes]
  have hdata : ∀ i : Fin 16, wordAt r.encode (24 + 4 * i.val) = r.data[i] := by
    intro i
    have hi : i.val < r.data.toList.length := by simp
    have hword := wordAt_append_flatMap hfront r.data.toList
      (r.reserved.toList.flatMap wordBytes) hi
    rw [← List.append_assoc] at hword
    exact hword.trans (Vector.getElem_toList hi)
  have hreserved : ∀ i : Fin 4, wordAt r.encode (88 + 4 * i.val) = r.reserved[i] := by
    intro i
    have hi : i.val < r.reserved.toList.length := by simp
    have hlong : (wordBytes r.size.toUInt32 ++ wordBytes r.token.toUInt32 ++
        wordBytes r.kindCode.toUInt32 ++ wordBytes r.counter ++
        Wire.bytes 8 r.time.toUInt64.toNat ++ r.data.toList.flatMap wordBytes).length = 88 := by
      rw [List.length_append, hfront, length_flatMap_wordBytes, Vector.length_toList]
    have hword := wordAt_append_flatMap hlong r.reserved.toList [] hi
    rw [List.append_nil] at hword
    exact hword.trans (Vector.getElem_toList hi)
  simp only [decode, hsize, htoken, hkind, hcounter, htime, hdata, hreserved]
  simp

/-! ## Slots -/

/-- Of two slots, one ends before the other begins. -/
theorem slots_apart {i j : Nat} (h : i ≠ j) :
    i * width + width ≤ j * width ∨ j * width + width ≤ i * width := by
  rw [← Nat.succ_mul, ← Nat.succ_mul]
  rcases Nat.lt_or_gt_of_ne h with hlt | hlt
  · exact Or.inl (Nat.mul_le_mul_right width hlt)
  · exact Or.inr (Nat.mul_le_mul_right width hlt)

/-- A slot that lies wholly inside a region holds the record that its bytes spell. -/
theorem readAt?_of_le {r : Region} {index : Nat} (h : (index + 1) * width ≤ r.size) :
    readAt? r index = some (decode (r.slice (index * width) width)) :=
  if_pos h

/-- A record put in a slot is read back from it, and the other slots are as before. -/
theorem readAt?_put_slot (r : Region) (x : Record) {slot : Nat}
    (h : (slot + 1) * width ≤ r.size) (index : Nat) :
    readAt? (r.put (slot * width) x.encode) index =
      if index = slot then some x else readAt? r index := by
  have hlength := length_encode x
  split
  · next hi =>
    subst hi
    have hfits : index * width + x.encode.length ≤ r.size := by
      rw [hlength, ← Nat.succ_mul]
      exact h
    have hslice := Region.slice_put_self r (index * width) x.encode hfits
    rw [hlength] at hslice
    rw [readAt?_of_le (by rw [Region.size_put]; exact h), hslice, decode_encode]
  · next hi =>
    have hbeside : index * width + width ≤ slot * width ∨
        slot * width + x.encode.length ≤ index * width := by
      rw [hlength]
      exact slots_apart hi
    rw [readAt?, readAt?, Region.size_put, Region.slice_put_beside r hbeside]

/-- A slot of zero bytes holds no record of the right size. -/
theorem size_of_readAt?_zero {size index : Nat} {x : Record}
    (h : readAt? (Region.zero size) index = some x) : x.size ≠ Int32.ofNat width := by
  rw [readAt?] at h
  split at h
  · next hle =>
    cases h
    rw [Region.zero, Array.size_replicate, Nat.succ_mul] at hle
    -- zero bytes spell a record of size zero
    rw [Region.slice_zero hle]
    decide
  · cases h

end Record

end SensorBench
