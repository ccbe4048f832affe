import SensorBench.Direct.Record
import SensorBench.Proofs.Config.Validity

/-!
# What accepted settings leave room for

The length of a direct report and the size of its memory are counted in words of 64 bits, and no
rule bounds their parts from above. The check itself ends where the length does not fit. Accepted
settings have a memory for every record of the whole run, but the size of that memory is counted
only when it is allocated, and it need not fit either (`accepted_room`). Both happen
(`accepted_beyond_words`).
-/

set_option autoImplicit false

namespace SensorBench

/-- A region whose size fits has the records asked for, and no other can be had. -/
theorem Record.sizeFor_eq_ok_iff {records size : Nat} : sizeFor records = .ok size ↔
    records * width < UInt64.size ∧ size = records * width ∧ capacityOf size = records := by
  have hcapacity : capacityOf (records * width) = records :=
    Nat.mul_div_cancel records (by decide)
  rw [sizeFor]
  rcases Nat.lt_or_ge (records * width) UInt64.size with h | h
  · rw [Number.inWord_of_lt h, Except.ok.injEq]
    constructor
    · rintro rfl
      exact ⟨h, rfl, hcapacity⟩
    · exact fun hsize => hsize.2.1.symm
  · rw [Number.inWord_of_le h]
    exact iff_of_false nofun fun hsize => Nat.not_lt.2 h hsize.1

namespace Settings

variable {s : Settings}

/-- The memory of settings that break no rule holds every record of the whole report. -/
theorem recordsIn_length_le (h : s.fault? = none) :
    recordsIn s.directReport.length ≤ s.directReport.ringCapacity.toNat := by
  have hclean := (fault?_answersFrom (s := s)).clean h
  exact Nat.not_lt.1 fun hlt => Nat.not_lt_zero _ (hclean _ (.ring hlt))

/-- No fault is told as an overflow. -/
theorem check_eq_panic_iff {text : String} : s.check = .error (.panic text) ↔
    text = Number.sumOverflow ∧ s.minimumFault? = none ∧
      UInt64.size ≤ s.directReport.length := by
  rcases Nat.lt_or_ge s.directReport.length UInt64.size with h | h
  · refine iff_of_false ?_ fun hover => Nat.not_lt.2 hover.2.2 h
    rw [check_of_lt h]
    cases s.fault? <;> exact nofun
  · rw [check_of_le h]
    cases s.minimumFault? with
    | some f => exact iff_of_false nofun nofun
    | none => simp [h, eq_comm]

/-- The check ends in an overflow exactly if no minimum is broken and the length of the direct
report does not fit. Settings that it accepts have room for all records of that length, and their
memory is had with just the records asked for exactly if its size fits; else its allocation ends in
an overflow. -/
theorem accepted_room (s : Settings) :
    let d := s.directReport
    let records := d.ringCapacity.toNat
    (∀ text, s.check = .error (.panic text) ↔
      text = Number.sumOverflow ∧ s.minimumFault? = none ∧ UInt64.size ≤ d.length) ∧
    (s.check = .ok s → d.length < UInt64.size ∧ recordsIn d.length ≤ records) ∧
    (∀ size, Record.sizeFor records = .ok size ↔ records * Record.width < UInt64.size ∧
      size = records * Record.width ∧ Record.capacityOf size = records) ∧
    ∀ text, Record.sizeFor records = .error text ↔
      text = Number.productOverflow ∧ UInt64.size ≤ records * Record.width := by
  intro d records
  refine ⟨fun text => check_eq_panic_iff, fun h => ?_, fun size => Record.sizeFor_eq_ok_iff,
    fun text => ?_⟩
  · obtain ⟨hclean, hfits⟩ := check_eq_ok_iff.1 h
    exact ⟨hfits, recordsIn_length_le hclean⟩
  · rw [Record.sizeFor]
    rcases Nat.lt_or_ge (records * Record.width) UInt64.size with h | h
    · rw [Number.inWord_of_lt h]
      exact iff_of_false nofun fun hover => Nat.not_lt.2 hover.2 h
    · simp [Number.inWord_of_le h, h, eq_comm]

/-- A direct report whose length is one more than the greatest word, and the least memory. -/
def overlong : Settings := { directReport := ⟨0xffffffffffffffff, 1, 16⟩ }

/-- A memory whose size is a multiple of the number of words. -/
def oversized : Settings := { directReport := ⟨1000, 500, 0x2000000000000000⟩ }

theorem oversized_accepted : oversized.check = .ok oversized :=
  check_eq_ok_iff.2 ⟨Option.isNone_iff_eq_none.1 (by decide +kernel), by decide⟩

theorem accepted_room_oversized : oversized.check = .ok oversized ∧
    recordsIn oversized.directReport.length ≤ oversized.directReport.ringCapacity.toNat ∧
    Record.sizeFor oversized.directReport.ringCapacity.toNat = .error Number.productOverflow := by
  obtain ⟨-, hroom, -, hsize⟩ := accepted_room oversized
  exact ⟨oversized_accepted, (hroom oversized_accepted).2, (hsize _).2 ⟨rfl, by decide⟩⟩

/-- The check of some settings ends in an overflow, and others are accepted though the allocation
of their memory does. -/
theorem accepted_beyond_words :
    overlong.check = .error (.panic "attempt to add with overflow") ∧
    oversized.check = .ok oversized ∧
      Record.sizeFor oversized.directReport.ringCapacity.toNat =
        .error "attempt to multiply with overflow" := by
  have hminimum : overlong.minimumFault? = none := Option.isNone_iff_eq_none.1 (by decide +kernel)
  have hlength : UInt64.size ≤ overlong.directReport.length := by decide
  exact ⟨check_eq_panic_iff.2 ⟨rfl, hminimum, hlength⟩, oversized_accepted,
    Number.inWord_of_le (by decide)⟩

end Settings

end SensorBench
