import SensorBench.Direct.Memory
import SensorBench.Proofs.Direct.Codec

/-!
# Records in shared memories

Any 104 bytes are the bytes of the record that they spell (`encode_decode`), so that the
record read from a slot says all about the bytes there. A clone stands for the same region
as the memory it was made of, whatever is done later (`shares_clone`), and what is written
through one memory is seen through those that share its region and through no others.
`record_frame` puts these together: records written and read back, what a write leaves
alone, what is refused, and where nothing is read.
-/

set_option autoImplicit false

namespace SensorBench

namespace Record

/-! ## Bytes as records -/

/-- A word is made of the four bytes that it was read from. -/
theorem wordBytes_wordAt {bs : List UInt8} {offset : Nat} (h : offset + 4 ≤ bs.length) :
    wordBytes (wordAt bs offset) = (bs.drop offset).take 4 := by
  have hlength : ((bs.drop offset).take 4).length = 4 := by
    rw [List.length_take, List.length_drop]
    omega
  have hlt := Wire.value_lt ((bs.drop offset).take 4)
  have hbytes := Wire.bytes_value ((bs.drop offset).take 4)
  rw [hlength] at hlt hbytes
  rw [wordBytes, wordAt, Nat.toUInt32, UInt32.toNat_ofNat_of_lt' hlt, hbytes]

/-- A run of words is made of the bytes that they were read from. -/
theorem flatMap_wordBytes_wordAt {bs : List UInt8} {offset count : Nat}
    (h : offset + 4 * count ≤ bs.length) :
    (List.ofFn fun i : Fin count => wordAt bs (offset + 4 * i.val)).flatMap wordBytes =
      (bs.drop offset).take (4 * count) := by
  induction count with
  | zero => rfl
  | succ count ih =>
    -- the last word stands behind the bytes of the others
    have hfront := ih (by omega)
    have hlast : wordBytes (wordAt bs (offset + 4 * count)) =
        (bs.drop (offset + 4 * count)).take 4 := wordBytes_wordAt (by omega)
    rw [List.ofFn_succ_last, List.flatMap_append, List.flatMap_singleton, Nat.mul_succ,
      List.take_add, List.drop_drop, ← hlast]
    exact congrArg (· ++ _) hfront

/-- Bytes are those of the record that they spell. -/
theorem encode_decode {bs : List UInt8} (h : bs.length = width) : (decode bs).encode = bs := by
  have hlength : bs.length = 104 := h
  have hword : ∀ offset, offset + 4 ≤ 104 →
      wordBytes (wordAt bs offset) = (bs.drop offset).take 4 :=
    fun offset ho => wordBytes_wordAt (by omega)
  have htime : Wire.bytes 8 (Wire.value ((bs.drop 16).take 8)).toUInt64.toNat =
      (bs.drop 16).take 8 := by
    have height : ((bs.drop 16).take 8).length = 8 := by
      rw [List.length_take, List.length_drop]
      omega
    have hlt := Wire.value_lt ((bs.drop 16).take 8)
    have hbytes := Wire.bytes_value ((bs.drop 16).take 8)
    rw [height] at hlt hbytes
    rw [Nat.toUInt64, UInt64.toNat_ofNat_of_lt' hlt, hbytes]
  have hwords : ∀ offset count, offset + 4 * count ≤ 104 →
      (List.ofFn fun i : Fin count => wordAt bs (offset + 4 * i.val)).flatMap wordBytes =
        (bs.drop offset).take (4 * count) :=
    fun offset count ho => flatMap_wordBytes_wordAt (by omega)
  -- each field covers the bytes from where the one before it ended
  have hjoin : ∀ a b, bs.take a ++ (bs.drop a).take b = bs.take (a + b) :=
    fun a b => List.take_add.symm
  simp only [encode, decode, UInt32.toUInt32_toInt32, UInt64.toUInt64_toInt64,
    Vector.toList_ofFn, hword 0 (by decide), hword 4 (by decide), hword 8 (by decide),
    hword 12 (by decide), htime, hwords 24 16 (by decide), hwords 88 4 (by decide),
    List.drop_zero, hjoin]
  exact List.take_of_length_le (by omega)

/-! ## Bounds in machine words -/

/-- A place in memory, if it is a number of 64 bits. -/
def place? (n : Nat) : Option Nat := if n < UInt64.size then some n else none

/-- The record in a slot of a region, with each place on the way held to 64 bits. -/
def readPlaced? (r : Region) (index : Nat) : Option Record := do
  let first ← place? (index * width)
  let last ← place? (first + width)
  if last ≤ r.size then some (decode (r.slice first width)) else none

/-- The slots whose places do not fit in 64 bits lie outside anyway. -/
theorem readPlaced?_eq {r : Region} (hr : r.size < UInt64.size) (index : Nat) :
    readPlaced? r index = readAt? r index := by
  rw [readPlaced?, readAt?, Nat.succ_mul]
  by_cases hlast : index * width + width < UInt64.size
  · have hfirst : index * width < UInt64.size := by omega
    rw [place?, if_pos hfirst]
    simp only [Option.bind_eq_bind, Option.bind_some, place?, if_pos hlast]
  · rw [if_neg (by omega), place?]
    split
    · simp only [Option.bind_eq_bind, Option.bind_some, place?, if_neg hlast, Option.bind_none]
    · rfl

/-! ## Slots -/

theorem readAt?_eq_none_iff (r : Region) (index : Nat) :
    readAt? r index = none ↔ r.size < (index + 1) * width := by
  rw [readAt?, ← Nat.not_le]
  split
  · next h => exact iff_of_false (Option.some_ne_none _) (not_not_intro h)
  · next h => exact iff_of_true rfl h

/-- The bytes of a record that was read are those in its slot. -/
theorem encode_of_readAt? {r : Region} {index : Nat} {x : Record}
    (h : readAt? r index = some x) : x.encode = r.slice (index * width) width := by
  rw [readAt?] at h
  split at h
  · next hle =>
    cases h
    rw [Nat.succ_mul] at hle
    apply encode_decode
    rw [Region.slice, Array.length_toList, Array.size_extract]
    omega
  · cases h

end Record

namespace Region

/-- The region with data copied to an offset, where the end is held to 64 bits. -/
def writePlaced (r : Region) (offset : Nat) (data : List UInt8) : Except OutOfBounds Region :=
  match Record.place? (offset + data.length) with
  | some last =>
    if last ≤ r.size then .ok (r.put offset data) else .error ⟨offset, data.length, r.size⟩
  | none => .error ⟨offset, data.length, r.size⟩

theorem writePlaced_eq {r : Region} (hr : r.size < UInt64.size) (offset : Nat)
    (data : List UInt8) : r.writePlaced offset data = r.write offset data := by
  rw [writePlaced, write, Record.place?]
  by_cases hlast : offset + data.length < UInt64.size
  · rw [if_pos hlast]
  · rw [if_neg hlast, if_neg (by omega)]

end Region

namespace Memories

variable {m : Memories} {a b : Nat}

/-! ## Memories that share a region -/

/-- Two memories that stand for one region. -/
def Shares (m : Memories) (a b : Nat) : Prop :=
  ∃ p, m.places[a]? = some p ∧ m.places[b]? = some p

theorem region_of_place {p : Nat} (h : m.places[a]? = some p) :
    m.region a = m.regions.getD p #[] := by
  rw [region, h]

/-- Memories that share a region have the same bytes. -/
theorem Shares.region_eq (h : m.Shares a b) : m.region b = m.region a := by
  obtain ⟨p, ha, hb⟩ := h
  rw [region_of_place ha, region_of_place hb]

@[simp] theorem places_put (m : Memories) (a : Nat) (r : Region) :
    (m.put a r).places = m.places := by
  rw [put]
  split <;> rfl

theorem Shares.put (h : m.Shares a b) (c : Nat) (r : Region) : (m.put c r).Shares a b := by
  rw [Shares, places_put]
  exact h

/-- A region that is replaced is so for the memory that it was replaced through, and for no
memory that does not share it. -/
theorem region_put_self (r : Region) (ha : a < m.places.size) : (m.put a r).region a = r := by
  have hplace : m.places[a]? = some m.places[a] := Array.getElem?_eq_getElem ha
  have hp : m.places[a] < m.regions.size := m.placed _ (Array.getElem_mem ha)
  have hkept : (m.put a r).places[a]? = some m.places[a] := by rw [places_put, hplace]
  rw [region_of_place hkept, put, hplace]
  simp only [Array.getD_eq_getD_getElem?, Array.getElem?_setIfInBounds_self_of_lt hp,
    Option.getD_some]

theorem region_put_of_not_shares (r : Region) (h : ¬m.Shares a b) :
    (m.put a r).region b = m.region b := by
  rw [put]
  split
  · next p ha =>
    rw [region, region]
    cases hb : m.places[b]? with
    | none => rfl
    | some q =>
      -- the places differ, or the two would share
      have hne : p ≠ q := by
        rintro rfl
        exact h ⟨p, ha, hb⟩
      simp only [Array.getD_eq_getD_getElem?, Array.getElem?_setIfInBounds_ne hne]
  · rfl

/-- A write that does not fit says so and changes nothing. -/
theorem write_of_lt {offset : Nat} {data : List UInt8}
    (h : (m.region a).size < offset + data.length) :
    m.write a offset data = (.error ⟨offset, data.length, (m.region a).size⟩, m) := by
  rw [write, Region.write, if_neg (Nat.not_le_of_lt h)]

/-- A write that fits puts the data in the region. -/
theorem write_of_le {offset : Nat} {data : List UInt8}
    (h : offset + data.length ≤ (m.region a).size) :
    m.write a offset data = (.ok (), m.put a ((m.region a).put offset data)) := by
  rw [write, Region.write, if_pos h]

/-! ## Clones -/

/-- What can be done with memories. -/
inductive Op where
  | allocate (r : Region)
  | clone (a : Nat)
  | fill (a : Nat) (b : UInt8)
  | write (a offset : Nat) (data : List UInt8)

/-- The memories after one operation. -/
def step (m : Memories) : Op → Memories
  | .allocate r => m.allocate r
  | .clone a => m.clone a
  | .fill a b => m.fill a b
  | .write a offset data => (m.write a offset data).2

/-- The memories after operations in turn. -/
def run (m : Memories) (ops : List Op) : Memories := ops.foldl step m

/-- No operation moves a memory to another region. -/
theorem places_step {p : Nat} (h : m.places[a]? = some p) (op : Op) :
    (m.step op).places[a]? = some p := by
  have hlt : a < m.places.size := (Array.getElem?_eq_some_iff.1 h).1
  have hpush : ∀ q, (m.places.push q)[a]? = some p := by
    intro q
    rw [Array.getElem?_push_lt hlt, ← h, Array.getElem?_eq_getElem hlt]
  cases op with
  | allocate r => exact hpush m.regions.size
  | clone c =>
    rw [step, clone]
    split
    · next q _ => exact hpush q
    · exact h
  | fill c byte => rw [step, fill, places_put, h]
  | write c offset data =>
    rw [step, write]
    split
    · rw [places_put, h]
    · exact h

/-- Memories that share a region go on to share it. -/
theorem Shares.run (h : m.Shares a b) (ops : List Op) : (m.run ops).Shares a b := by
  induction ops generalizing m with
  | nil => exact h
  | cons op rest ih =>
    obtain ⟨p, ha, hb⟩ := h
    exact ih ⟨p, places_step ha op, places_step hb op⟩

/-- A clone shares the region of its original, whatever is done afterwards. -/
theorem shares_clone (ha : a < m.places.size) (ops : List Op) :
    ((m.clone a).run ops).Shares a m.places.size := by
  apply Shares.run
  have hplace : m.places[a]? = some m.places[a] := Array.getElem?_eq_getElem ha
  refine ⟨m.places[a], places_step hplace (.clone a), ?_⟩
  rw [clone]
  split
  · next p hp => exact Array.getElem?_push_size.trans (hp.symm.trans hplace)
  · next hnone => rw [hplace] at hnone; cases hnone

/-! ## The frame of a record -/

/-- Where the whole record fits, writing it succeeds, it is read back from its slot, the
other slots and the bytes beside it are as before, and the same is seen through all that
share the region and nothing through the others. -/
theorem write_record (x : Record) {index : Nat} (ha : a < m.places.size)
    (h : (index + 1) * Record.width ≤ (m.region a).size) :
    ∃ after, m.write a (index * Record.width) x.encode = (.ok (), after) ∧
      Record.readAt? (after.region a) index = some x ∧
      (∀ other, other ≠ index →
        Record.readAt? (after.region a) other = Record.readAt? (m.region a) other) ∧
      (after.region a).size = (m.region a).size ∧
      (∀ i, i < index * Record.width ∨ (index + 1) * Record.width ≤ i →
        (after.region a)[i]? = (m.region a)[i]?) ∧
      (∀ b, m.Shares a b → after.region b = after.region a) ∧
      ∀ b, ¬m.Shares a b → after.region b = m.region b := by
  have hlength := Record.length_encode x
  have hfits : index * Record.width + x.encode.length ≤ (m.region a).size := by
    rw [hlength, ← Nat.succ_mul]
    exact h
  have hself := region_put_self ((m.region a).put (index * Record.width) x.encode) ha
  refine ⟨_, write_of_le hfits, ?_, ?_, ?_, ?_, ?_, ?_⟩
  · rw [hself, Record.readAt?_put_slot _ x h, if_pos rfl]
  · intro other hne
    rw [hself, Record.readAt?_put_slot _ x h, if_neg hne]
  · rw [hself, Region.size_put]
  · intro i hi
    rw [Nat.succ_mul] at hi
    rw [hself, Region.getElem?_put, hlength, if_neg (by omega)]
  · intro b hb
    exact (hb.put a _).region_eq
  · intro b hb
    exact region_put_of_not_shares _ hb

/-- Records in a memory: written where they fit, they are read back and disturb nothing
else, and every clone sees them. What does not fit is refused and changes nothing. What is
read spells the bytes that are there, and nothing is read where a slot is not wholly
inside, also where its place would not fit in 64 bits. -/
theorem record_frame (m : Memories) (a : Nat) (ha : a < m.places.size) :
    (∀ (x : Record) (index : Nat), (index + 1) * Record.width ≤ (m.region a).size →
      ∃ after, m.write a (index * Record.width) x.encode = (.ok (), after) ∧
        Record.readAt? (after.region a) index = some x ∧
        (∀ other, other ≠ index →
          Record.readAt? (after.region a) other = Record.readAt? (m.region a) other) ∧
        (after.region a).size = (m.region a).size ∧
        (∀ i, i < index * Record.width ∨ (index + 1) * Record.width ≤ i →
          (after.region a)[i]? = (m.region a)[i]?) ∧
        (∀ b, m.Shares a b → after.region b = after.region a) ∧
        ∀ b, ¬m.Shares a b → after.region b = m.region b) ∧
      (∀ ops, ((m.clone a).run ops).Shares a m.places.size) ∧
      (∀ (offset : Nat) (data : List UInt8), (m.region a).size < offset + data.length →
        m.write a offset data = (.error ⟨offset, data.length, (m.region a).size⟩, m)) ∧
      ∀ (r : Region) (index : Nat),
        (∀ x, Record.readAt? r index = some x →
          x.encode = r.slice (index * Record.width) Record.width) ∧
        (Record.readAt? r index = none ↔ r.size < (index + 1) * Record.width) ∧
        (r.size < UInt64.size → Record.readPlaced? r index = Record.readAt? r index ∧
          ∀ data, r.writePlaced index data = r.write index data) :=
  ⟨fun x _ => write_record x ha, shares_clone ha, fun _ _ => write_of_lt,
    fun r index => ⟨fun _ => Record.encode_of_readAt?, Record.readAt?_eq_none_iff r index,
      fun hr => ⟨Record.readPlaced?_eq hr index, r.writePlaced_eq hr index⟩⟩⟩

/-- The second slot of a fresh memory written, and read through a clone; a third slot does
not fit and is neither written nor read. -/
theorem record_frame_fresh :
    let m := (empty.allocate (Region.zero 230)).clone 0
    let x := Record.of 7 1 1 1000 []
    0 < m.places.size ∧
      (∃ after, m.write 0 104 x.encode = (.ok (), after) ∧
        Record.readAt? (after.region 1) 1 = some x ∧
        Record.readAt? (after.region 1) 0 = Record.readAt? (Region.zero 230) 0) ∧
      m.write 0 208 x.encode = (.error ⟨208, 104, 230⟩, m) ∧
      Record.readAt? (Region.zero 230) 2 = none := by
  intro m x
  have hm : 0 < m.places.size := by decide
  have hsize : (Region.zero 230).size = 230 := Array.size_replicate
  obtain ⟨hwrite, -, hrefused, hread⟩ := record_frame m 0 hm
  obtain ⟨after, hafter, hslot, hother, -, -, hshared, -⟩ :=
    hwrite x 1 (hsize.symm ▸ by decide)
  have hclone : after.region 1 = after.region 0 := hshared 1 ⟨0, rfl, rfl⟩
  refine ⟨hm, ⟨after, hafter, ?_, ?_⟩, ?_, ?_⟩
  · rw [hclone, hslot]
  · rw [hclone, hother 0 (by decide)]
    rfl
  · exact hrefused 208 x.encode (by rw [Record.length_encode]; exact hsize.symm ▸ by decide)
  · exact (hread (Region.zero 230) 2).2.1.2 (hsize.symm ▸ by decide)

end Memories

end SensorBench
