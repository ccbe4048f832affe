import SensorBench.Direct.Region
import SensorBench.Direct.Wire
import SensorBench.Number.Word

/-!
# Direct report records

One report in shared memory, 104 bytes in little-endian order: size, token and
sensor type at 0, 4 and 8, the counter at 12, the time at 16, sixteen 32-bit
values at 24 and four reserved words at 88. The values are kept as bit patterns,
so that every pattern survives a trip through memory.
-/

set_option autoImplicit false

namespace SensorBench

/-- One direct report. -/
structure Record where
  size : Int32
  token : Int32
  kindCode : Int32
  counter : UInt32
  time : Int64
  data : Vector UInt32 16
  reserved : Vector UInt32 4
  deriving DecidableEq

namespace Record

/-- The bytes of a record. -/
def width : Nat := 104

/-- The bytes of a region that holds some records, unless they are too many to be counted. -/
def sizeFor (records : Nat) : Except String Nat :=
  Number.inWord (records * width) Number.productOverflow

/-- The whole records that a region of some bytes holds. -/
def capacityOf (size : Nat) : Nat := size / width

/-- A record with its size set and its first values filled in; values beyond the
sixteenth are dropped. -/
def of (token kindCode : Int) (counter : UInt32) (time : Int) (values : List Float32) : Record :=
  { size := Int32.ofNat width, token := Int32.ofInt token, kindCode := Int32.ofInt kindCode
    counter, time := Int64.ofInt time
    data := Vector.ofFn fun i => match values[i.val]? with
      | some x => x.toBits
      | none => 0
    reserved := Vector.replicate 4 0 }

/-- The values of a record. -/
def values (r : Record) : List Float32 := r.data.toList.map Float32.ofBits

/-- The bytes of a word. -/
def wordBytes (w : UInt32) : List UInt8 := Wire.bytes 4 w.toNat

/-- The bytes of a record. -/
def encode (r : Record) : List UInt8 :=
  wordBytes r.size.toUInt32 ++ wordBytes r.token.toUInt32 ++ wordBytes r.kindCode.toUInt32 ++
    wordBytes r.counter ++ Wire.bytes 8 r.time.toUInt64.toNat ++
    r.data.toList.flatMap wordBytes ++ r.reserved.toList.flatMap wordBytes

/-- The word at an offset of a run of bytes. -/
def wordAt (bs : List UInt8) (offset : Nat) : UInt32 :=
  (Wire.value ((bs.drop offset).take 4)).toUInt32

/-- The record that a run of 104 bytes spells. -/
def decode (bs : List UInt8) : Record :=
  { size := (wordAt bs 0).toInt32, token := (wordAt bs 4).toInt32
    kindCode := (wordAt bs 8).toInt32, counter := wordAt bs 12
    time := (Wire.value ((bs.drop 16).take 8)).toUInt64.toInt64
    data := Vector.ofFn fun i => wordAt bs (24 + 4 * i.val)
    reserved := Vector.ofFn fun i => wordAt bs (88 + 4 * i.val) }

/-- The record in a slot of a region, if the slot lies wholly inside. -/
def readAt? (r : Region) (index : Nat) : Option Record :=
  if (index + 1) * width ≤ r.size then some (decode (r.slice (index * width) width)) else none

theorem length_flatMap_wordBytes (ws : List UInt32) :
    (ws.flatMap wordBytes).length = 4 * ws.length := by
  induction ws with
  | nil => rfl
  | cons w rest ih => simp [List.flatMap_cons, wordBytes, ih]; omega

@[simp] theorem length_encode (r : Record) : r.encode.length = width := by
  simp only [encode, List.length_append, length_flatMap_wordBytes, Vector.length_toList, width]
  simp [wordBytes]

/-- The slots that a region has from an index on, as long as each is freshly
written: it has the right size and a counter above the one before. -/
def freshFrom (r : Region) (previous : UInt32) (index : Nat) : Nat → List Record
  | 0 => []
  | slots + 1 =>
    match readAt? r index with
    | some record =>
      if record.size = Int32.ofNat width ∧ previous < record.counter then
        record :: freshFrom r record.counter (index + 1) slots
      else []
    | none => []

/-- The records written so far: those before the first slot that is not fresh.
Counters start above zero. -/
def parse (r : Region) : List Record := freshFrom r 0 0 (capacityOf r.size)

end Record

end SensorBench
