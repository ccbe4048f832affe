/-!
# Byte regions

A region of shared memory as the bytes it holds. A write that does not fit
changes nothing and says where it was aimed.
-/

set_option autoImplicit false

namespace SensorBench

/-- The bytes of a region of memory. -/
abbrev Region := Array UInt8

/-- A write outside a region: its place and length and the size of the region. -/
structure OutOfBounds where
  offset : Nat
  length : Nat
  size : Nat
  deriving DecidableEq, Repr

namespace Region

/-- A region of zero bytes. -/
def zero (size : Nat) : Region := Array.replicate size 0

/-- The region with every byte overwritten. -/
def fill (r : Region) (b : UInt8) : Region := Array.replicate r.size b

/-- The region with bytes put in place one after the other from an offset. -/
def put (r : Region) (offset : Nat) : List UInt8 → Region
  | [] => r
  | b :: rest => put (r.setIfInBounds offset b) (offset + 1) rest

/-- The region with data copied to an offset. -/
def write (r : Region) (offset : Nat) (data : List UInt8) : Except OutOfBounds Region :=
  if offset + data.length ≤ r.size then .ok (r.put offset data)
  else .error ⟨offset, data.length, r.size⟩

/-- The bytes from an offset, as many as are asked for and there. -/
def slice (r : Region) (offset length : Nat) : List UInt8 :=
  (r.extract offset (offset + length)).toList

/-- The place of the first byte that is not zero. -/
def firstNonzero? (r : Region) : Option Nat := r.findIdx? (· != 0)

@[simp] theorem size_put (r : Region) (offset : Nat) (data : List UInt8) :
    (r.put offset data).size = r.size := by
  induction data generalizing r offset with
  | nil => rfl
  | cons b rest ih => rw [put, ih, Array.size_setIfInBounds]

theorem size_of_write {r s : Region} {offset : Nat} {data : List UInt8}
    (h : r.write offset data = .ok s) : s.size = r.size := by
  unfold write at h
  split at h
  · cases h; exact size_put r offset data
  · cases h

end Region

end SensorBench
