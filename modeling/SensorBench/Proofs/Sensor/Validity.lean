import SensorBench.Sensor.Stock

/-!
# What a sensor list accepts

A descriptor is checked by asking for each rule whether it is broken. For the two numbers the
broken rule is not the opposite of the rule: a number that is none is neither below zero nor
at least zero (`not_below_zero_iff`). So a list is accepted exactly if all its
descriptors are well-formed, their powers and ranges in order or no numbers at all
(`accepted_iff`), and what is no number does get through (`accepted_without_number`).
-/

set_option autoImplicit false

namespace SensorBench

/-! ## Numbers and zero -/

section Zero

open Float.Model

theorem unpack_zero : (0 : Float32).toModel.unpack = .zero .positive := rfl

theorem lt_iff_compare (x y : Float32) :
    x < y ↔ x.toModel.unpack.compare y.toModel.unpack = some .lt :=
  decide_eq_true_iff.trans beq_iff_eq

theorem le_iff_compare (x y : Float32) :
    x ≤ y ↔ (x.toModel.unpack.compare y.toModel.unpack).any (·.isLE) = true :=
  decide_eq_true_iff

/-- A float is below zero, zero or above zero, unless it is no number. -/
theorem compare_zero (u : UnpackedFloat) (s : UnpackedFloat.Sign) :
    u.isNaN = true ∧ u.compare (.zero s) = none ∧ UnpackedFloat.compare (.zero s) u = none ∨
      u.isNaN = false ∧ ∃ o, u.compare (.zero s) = some o ∧
        UnpackedFloat.compare (.zero s) u = some o.swap := by
  cases u with
  | notANumber => exact .inl ⟨rfl, rfl, rfl⟩
  | infinity sign => cases sign <;> exact .inr ⟨rfl, _, rfl, rfl⟩
  | zero sign => exact .inr ⟨rfl, _, rfl, rfl⟩
  | finite sign => cases sign <;> exact .inr ⟨rfl, _, rfl, rfl⟩

/-- What is not below zero is at least zero or no number, and what is not at most zero is above
zero or no number. -/
theorem not_below_zero_iff (x : Float32) :
    (¬ x < 0 ↔ 0 ≤ x ∨ x.isNaN = true) ∧ (¬ x ≤ 0 ↔ 0 < x ∨ x.isNaN = true) := by
  have hisNaN : x.isNaN = x.toModel.unpack.isNaN := rfl
  rw [lt_iff_compare, le_iff_compare, lt_iff_compare, le_iff_compare, unpack_zero, hisNaN]
  rcases compare_zero x.toModel.unpack .positive with ⟨hnan, hx, hzero⟩ | ⟨hnan, o, hx, hzero⟩
  · rw [hx, hzero, hnan]
    decide
  · rw [hx, hzero, hnan]
    cases o <;> decide

end Zero

/-! ## Kinds -/

namespace SensorKind

/-- The private kinds are those without a canonical name. -/
theorem canonicalName?_eq_none_iff (k : SensorKind) :
    k.canonicalName? = none ↔ k.isPrivate = true := by
  cases k with
  | devicePrivate code => exact iff_of_true rfl rfl
  | _ => decide

theorem canonicalName?_ne_empty {k : SensorKind} {name : String}
    (h : k.canonicalName? = some name) : name ≠ "" := by
  obtain ⟨s, -, rfl⟩ := Option.map_eq_some_iff.1 h
  intro hempty
  have hlead : (reservedLead ++ s.name).toList = [] := congrArg String.toList hempty
  rw [String.toList_append] at hlead
  exact absurd (List.append_eq_nil_iff.1 hlead).1 (by decide)

theorem isMeta_eq_false_iff (k : SensorKind) :
    k.isMeta = false ↔ k ≠ metaData ∧ k ≠ additionalInfo := by
  rw [isMeta, Bool.or_eq_false_iff, decide_eq_false_iff_not, decide_eq_false_iff_not]

end SensorKind

namespace Descriptor

/-! ## The rules -/

/-- What is promised of a listed sensor, apart from its numbers. -/
structure WellFormed (d : Descriptor) : Prop where
  name : d.name ≠ ""
  vendor : d.vendor ≠ ""
  listed : d.kind ≠ .metaData ∧ d.kind ≠ .additionalInfo
  fifo : d.fifoReserved.toNat ≤ d.fifoMax.toNat
  delays : d.minDelay.toInt ≤ d.maxDelay.toInt
  mode : ∀ mode, d.kind.requiredMode? = some mode → d.mode = mode
  continuous : d.mode = .continuous → 0 < d.minDelay.toInt ∧ 0 ≤ d.maxDelay.toInt
  onChange : d.mode = .onChange → 0 ≤ d.minDelay.toInt ∧ 0 ≤ d.maxDelay.toInt
  oneShot : d.mode = .oneShot → d.minDelay.toInt = -1 ∧ d.maxDelay.toInt = 0
  canonical : ∀ name, d.kind.canonicalName? = some name → d.kindName = name
  own : d.kind.isPrivate = true →
    d.kindName ≠ "" ∧ ¬ "android.sensor.".toList <+: d.kindName.toList

section Rules

variable (d : Descriptor)

theorem ifBroken_eq_none_iff {p : Prop} [Decidable p] (f : Fault) (rest : Option Fault) :
    (if p then some f else rest) = none ↔ ¬ p ∧ rest = none := by
  by_cases hp : p
  · rw [if_pos hp]
    exact iff_of_false (Option.some_ne_none f) fun h => h.1 hp
  · rw [if_neg hp]
    exact (and_iff_right hp).symm

theorem unlessMet_eq_none_iff {p : Prop} [Decidable p] (f : Fault) :
    (if p then none else some f) = none ↔ p := by
  by_cases hp : p
  · rw [if_pos hp]
    exact iff_of_true rfl hp
  · rw [if_neg hp]
    exact iff_of_false (Option.some_ne_none f) hp

theorem kindNameFault?_eq_none_iff : d.kindNameFault? = none ↔
    (∀ name, d.kind.canonicalName? = some name → d.kindName = name) ∧
      (d.kind.isPrivate = true →
        d.kindName ≠ "" ∧ ¬ "android.sensor.".toList <+: d.kindName.toList) := by
  rw [kindNameFault?, ← SensorKind.canonicalName?_eq_none_iff]
  cases hname : d.kind.canonicalName? with
  | some name =>
    have hne : name ≠ "" := SensorKind.canonicalName?_ne_empty hname
    simp only [ifBroken_eq_none_iff, unlessMet_eq_none_iff, Option.some.injEq, forall_eq',
      reduceCtorEq, false_implies, and_true]
    exact ⟨fun h => h.2, fun hsame => ⟨hsame ▸ hne, hsame⟩⟩
  | none =>
    have hlead : Text.startsWith d.kindName SensorKind.reservedLead = true ↔
        "android.sensor.".toList <+: d.kindName.toList := List.isPrefixOf_iff_prefix
    simp only [ifBroken_eq_none_iff, hlead, reduceCtorEq, false_implies, implies_true, true_and,
      true_implies, and_true, ne_eq]

theorem modeFault?_eq_none_iff : d.modeFault? = none ↔
    ∀ mode, d.kind.requiredMode? = some mode → d.mode = mode := by
  rw [modeFault?]
  cases d.kind.requiredMode? with
  | none => simp only [reduceCtorEq, false_implies, implies_true]
  | some expected => simp only [unlessMet_eq_none_iff, Option.some.injEq, forall_eq']

theorem delaysFit_iff (mode : ReportingMode) (minDelay maxDelay : Int32) :
    delaysFit mode minDelay maxDelay = true ↔
      (mode = .continuous → 0 < minDelay.toInt ∧ 0 ≤ maxDelay.toInt) ∧
      (mode = .onChange → 0 ≤ minDelay.toInt ∧ 0 ≤ maxDelay.toInt) ∧
      (mode = .oneShot → minDelay.toInt = -1 ∧ maxDelay.toInt = 0) := by
  cases mode <;> simp [delaysFit]

/-- No rule is broken, whichever would be asked first. -/
theorem fault?_eq_none_iff_rules : d.fault? = none ↔
    d.kindNameFault? = none ∧ ¬ d.name = "" ∧ ¬ d.vendor = "" ∧ ¬ d.power < 0 ∧ ¬ d.maxRange ≤ 0 ∧
      ¬ d.kind.isMeta = true ∧ ¬ d.fifoMax < d.fifoReserved ∧ d.modeFault? = none ∧
      ¬ d.maxDelay.toInt < d.minDelay.toInt ∧ delaysFit d.mode d.minDelay d.maxDelay = true := by
  rw [fault?]
  cases d.kindNameFault? with
  | some f => exact iff_of_false (Option.some_ne_none f) fun h => Option.some_ne_none f h.1
  | none =>
    cases d.modeFault? with
    | some f => simp only [ifBroken_eq_none_iff, reduceCtorEq, false_and, and_false]
    | none => simp only [ifBroken_eq_none_iff, unlessMet_eq_none_iff, true_and]

/-- A descriptor has no fault exactly if it is well-formed and its numbers are in order or no
numbers. -/
theorem fault?_eq_none_iff : d.fault? = none ↔ d.WellFormed ∧
    (0 ≤ d.power ∨ d.power.isNaN = true) ∧ (0 < d.maxRange ∨ d.maxRange.isNaN = true) := by
  rw [fault?_eq_none_iff_rules, kindNameFault?_eq_none_iff, (not_below_zero_iff d.power).1,
    (not_below_zero_iff d.maxRange).2, Bool.not_eq_true, SensorKind.isMeta_eq_false_iff,
    UInt32.not_lt, UInt32.le_iff_toNat_le, modeFault?_eq_none_iff, Int.not_lt, delaysFit_iff]
  constructor
  · rintro ⟨⟨hcanonical, hown⟩, hname, hvendor, hpower, hrange, hlisted, hfifo, hmode, hdelays,
      hcontinuous, honChange, honeShot⟩
    exact ⟨⟨hname, hvendor, hlisted, hfifo, hdelays, hmode, hcontinuous, honChange, honeShot,
      hcanonical, hown⟩, hpower, hrange⟩
  · rintro ⟨h, hpower, hrange⟩
    exact ⟨⟨h.canonical, h.own⟩, h.name, h.vendor, hpower, hrange, h.listed, h.fifo, h.mode,
      h.delays, h.continuous, h.onChange, h.oneShot⟩

end Rules

end Descriptor

/-! ## The list -/

/-- A list is accepted exactly if all its descriptors are well-formed and their numbers in
order, where what is no number counts as in order. -/
theorem Catalog.accepted_iff (c : Catalog) : c.fault? = none ↔ ∀ d ∈ c, d.WellFormed ∧
    (0 ≤ d.power ∨ d.power.isNaN = true) ∧ (0 < d.maxRange ∨ d.maxRange.isNaN = true) := by
  rw [fault?, List.findSome?_eq_none_iff]
  simp only [Option.map_eq_none_iff, Descriptor.fault?_eq_none_iff]

/-- The stock sensors are accepted with powers that are no numbers, and so not at least zero,
and with ranges that are no numbers, and so not above zero. -/
theorem Catalog.accepted_without_number :
    let nan := Float32.ofBits 0x7fc00000
    let powerless : Catalog := stock.map fun d => { d with power := nan }
    let rangeless : Catalog := stock.map fun d => { d with maxRange := nan }
    (powerless.fault? = none ∧ ∀ d ∈ powerless, ¬ 0 ≤ d.power) ∧
      rangeless.fault? = none ∧ ∀ d ∈ rangeless, ¬ 0 < d.maxRange := by
  refine ⟨⟨Option.isNone_iff_eq_none.1 ?_, ?_⟩, Option.isNone_iff_eq_none.1 ?_, ?_⟩ <;> decide

end SensorBench
