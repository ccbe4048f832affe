import SensorBench.Direct.Audit

/-!
# What the audit of a report accepts

The audit compares a record with the one before it. What is asked of a report is about all
of its records: times rise from each to each, and counters go up from the first. As long as
the records before break no rule the two agree (`time_broken_iff`, `counter_broken_iff`). So
the audit passes exactly the reports in which no record breaks a rule and whose number is in
bounds, and else says what the first record at fault breaks first (`audit_exact`).
-/

set_option autoImplicit false

namespace SensorBench.Direct

/-- What is asked of each record of a report. -/
inductive Rule where
  | token | kind | time | counter | sample
  deriving DecidableEq

/-- The place of a rule in the order in which they are asked. -/
def Rule.place : Rule → Nat
  | token => 0
  | kind => 1
  | time => 2
  | counter => 3
  | sample => 4

section

variable (report : Report) (objection? : List Float32 → Option String) (records : List Record)

/-- The record at an index breaks a rule, and what is said of it. Times and counters are
judged against all records before it, though what is said names the one just before. -/
inductive Broken (index : Nat) : Rule → Violation → Prop
  | token {x : Record} (hx : records[index]? = some x) (h : x.token.toInt ≠ report.token) :
    Broken index .token (.directRecord report.sensor.handle index
      ("token " ++ Text.signedDecimal x.token.toInt ++ " instead of " ++
        Text.signedDecimal report.token))
  | kind {x : Record} (hx : records[index]? = some x)
      (h : x.kindCode.toInt ≠ report.sensor.kind.code) :
    Broken index .kind (.directRecord report.sensor.handle index
      ("sensor type " ++ Text.signedDecimal x.kindCode.toInt ++ " instead of " ++
        Text.signedDecimal report.sensor.kind.code))
  | time {x y p : Record} {j : Nat} (hx : records[index]? = some x) (hj : j < index)
      (hy : records[j]? = some y) (h : x.time.toInt ≤ y.time.toInt)
      (hp : records[index - 1]? = some p) :
    Broken index .time (.timeNotIncreasing report.sensor.handle index p.time.toInt x.time.toInt)
  | counter {x first p : Record} (hx : records[index]? = some x)
      (hfirst : records[0]? = some first)
      (h : x.counter.toNat ≠ (first.counter.toNat + index) % 4294967296)
      (hp : records[index - 1]? = some p) :
    Broken index .counter (.directRecord report.sensor.handle index
      ("counter " ++ Text.decimal x.counter.toNat ++ " after " ++
        Text.decimal p.counter.toNat))
  | sample {x : Record} {reason : String} (hx : records[index]? = some x)
      (h : objection? x.values = some reason) :
    Broken index .sample (.checkFailed report.sensor.handle x.time.toInt reason)

/-- The first thing at fault: no record before breaks a rule, nor does this one break a rule
that is asked sooner. -/
def FirstBroken (index : Nat) (rule : Rule) (v : Violation) : Prop :=
  Broken report objection? records index rule v ∧
    ∀ j r w, Broken report objection? records j r w →
      index < j ∨ index = j ∧ rule.place ≤ r.place

/-- Each record is what the report asks for: its token and its sensor's type, counters that
go up by one from the first, samples without objection and times that rise. -/
structure WellFormed : Prop where
  token : ∀ x ∈ records, x.token.toInt = report.token
  kind : ∀ x ∈ records, x.kindCode.toInt = report.sensor.kind.code
  counter : ∀ (i : Nat) (x first : Record), records[i]? = some x → records[0]? = some first →
    x.counter.toNat = (first.counter.toNat + i) % 4294967296
  sample : ∀ x ∈ records, objection? x.values = none
  time : ∀ (i j : Nat) (x y : Record), i < j → records[i]? = some x → records[j]? = some y →
    x.time.toInt < y.time.toInt

end

section

variable {report : Report} {objection? : List Float32 → Option String} {records : List Record}
  {index : Nat} {rule : Rule} {v w : Violation} {x p : Record}

/-- What is said of a broken rule is settled by the record. -/
theorem Broken.unique (hv : Broken report objection? records index rule v)
    (hw : Broken report objection? records index rule w) : v = w := by
  cases hv <;> cases hw <;> grind

theorem Rule.place_injective {r s : Rule} (h : r.place = s.place) : r = s := by
  cases r <;> cases s <;> grind [Rule.place]

theorem FirstBroken.unique {j : Nat} {r : Rule}
    (hv : FirstBroken report objection? records index rule v)
    (hw : FirstBroken report objection? records j r w) : v = w := by
  have hforth := hv.2 j r w hw.1
  have hback := hw.2 index rule v hv.1
  obtain rfl : index = j := by omega
  obtain rfl : rule = r := Rule.place_injective (by omega)
  exact hv.1.unique hw.1

/-- No record breaks a rule if and only if the report is well-formed. -/
theorem wellFormed_iff : WellFormed report objection? records ↔
    ∀ i r w, ¬ Broken report objection? records i r w := by
  constructor
  · intro hw i r v hv
    cases hv with
    | token hx h => exact h (hw.token _ (List.mem_of_getElem? hx))
    | kind hx h => exact h (hw.kind _ (List.mem_of_getElem? hx))
    | time hx hj hy h hp => exact absurd (hw.time _ i _ _ hj hy hx) (by omega)
    | counter hx hfirst h hp => exact h (hw.counter i _ _ hx hfirst)
    | sample hx h => simp [hw.sample _ (List.mem_of_getElem? hx)] at h
  · intro hclean
    have hbefore {i : Nat} {x : Record} (hx : records[i]? = some x) :
        ∃ p, records[i - 1]? = some p := by
      have hlt := (List.getElem?_eq_some_iff.1 hx).1
      exact ⟨_, List.getElem?_eq_getElem (by omega)⟩
    refine ⟨fun x hx => ?_, fun x hx => ?_, fun i x first hx hfirst => ?_, fun x hx => ?_,
      fun i j x y hij hx hy => ?_⟩
    · obtain ⟨i, hi⟩ := List.getElem?_of_mem hx
      exact Classical.byContradiction fun h => hclean _ _ _ (.token hi h)
    · obtain ⟨i, hi⟩ := List.getElem?_of_mem hx
      exact Classical.byContradiction fun h => hclean _ _ _ (.kind hi h)
    · obtain ⟨p, hp⟩ := hbefore hx
      exact Classical.byContradiction fun h => hclean _ _ _ (.counter hx hfirst h hp)
    · obtain ⟨i, hi⟩ := List.getElem?_of_mem hx
      refine Option.eq_none_iff_forall_ne_some.2 fun reason h => ?_
      exact hclean _ _ _ (.sample hi h)
    · obtain ⟨p, hp⟩ := hbefore hy
      exact Classical.byContradiction fun h => hclean _ _ _ (.time hy hij hx (Int.not_lt.1 h) hp)

/-! ## Neighbours and all pairs -/

/-- Behind records that break no rule, a time that is not above some time before is not
above the one just before. -/
theorem time_broken_iff
    (hclean : ∀ j < index + 1, ∀ r w, ¬ Broken report objection? records j r w)
    (hp : records[index]? = some p) :
    (∃ j y, j < index + 1 ∧ records[j]? = some y ∧ x.time.toInt ≤ y.time.toInt) ↔
      x.time.toInt ≤ p.time.toInt := by
  refine ⟨?_, fun h => ⟨index, p, by omega, hp, h⟩⟩
  rintro ⟨j, y, hj, hy, h⟩
  rcases Nat.lt_succ_iff_lt_or_eq.1 hj with hlt | rfl
  · -- the record just before is itself above all records before it
    have hbound := (List.getElem?_eq_some_iff.1 hp).1
    have hbefore := List.getElem?_eq_getElem (show index - 1 < records.length by omega)
    have hyp : ¬ p.time.toInt ≤ y.time.toInt := fun hle =>
      hclean index (by omega) _ _ (.time hp hlt hy hle hbefore)
    omega
  · obtain rfl : p = y := Option.some.inj (hp.symm.trans hy)
    exact h

/-- Behind records that break no rule, a counter is the one due by the first exactly if it
is one above the counter just before. -/
theorem counter_broken_iff {first : Record}
    (hclean : ∀ j < index + 1, ∀ r w, ¬ Broken report objection? records j r w)
    (hp : records[index]? = some p) (hfirst : records[0]? = some first) :
    x.counter.toNat = (first.counter.toNat + (index + 1)) % 4294967296 ↔
      x.counter = p.counter + 1 := by
  have hbound := (List.getElem?_eq_some_iff.1 hp).1
  have hbefore := List.getElem?_eq_getElem (show index - 1 < records.length by omega)
  have hdue : p.counter.toNat = (first.counter.toNat + index) % 4294967296 :=
    Classical.byContradiction fun h => hclean index (by omega) _ _ (.counter hp hfirst h hbefore)
  rw [← UInt32.toNat_inj, UInt32.toNat_add, hdue, show (1 : UInt32).toNat = 1 from rfl,
    Nat.mod_add_mod, Nat.add_assoc]

/-! ## One record -/

/-- All rules, in their order. -/
def Rule.all : List Rule := [.token, .kind, .time, .counter, .sample]

theorem Rule.mem_all (r : Rule) : r ∈ Rule.all := by
  cases r <;> decide

theorem Rule.all_inOrder : Rule.all.Pairwise fun r s => r.place < s.place := by
  decide

/-- The record before an index, if there is one. -/
def before? (records : List Record) : Nat → Option Record
  | 0 => none
  | index + 1 => records[index]?

/-- What is said of a record by one rule, the record before it given. -/
def said? (report : Report) (objection? : List Float32 → Option String) (index : Nat)
    (previous : Option Record) (x : Record) : Rule → Option Violation
  | .token =>
    if x.token.toInt ≠ report.token then
      some (.directRecord report.sensor.handle index
        ("token " ++ Text.signedDecimal x.token.toInt ++ " instead of " ++
          Text.signedDecimal report.token))
    else none
  | .kind =>
    if x.kindCode.toInt ≠ report.sensor.kind.code then
      some (.directRecord report.sensor.handle index
        ("sensor type " ++ Text.signedDecimal x.kindCode.toInt ++ " instead of " ++
          Text.signedDecimal report.sensor.kind.code))
    else none
  | .time => previous.bind fun p =>
    if x.time.toInt ≤ p.time.toInt then
      some (.timeNotIncreasing report.sensor.handle index p.time.toInt x.time.toInt)
    else none
  | .counter => previous.bind fun p =>
    if x.counter = p.counter + 1 then none
    else some (.directRecord report.sensor.handle index
      ("counter " ++ Text.decimal x.counter.toNat ++ " after " ++ Text.decimal p.counter.toNat))
  | .sample => (objection? x.values).map (.checkFailed report.sensor.handle x.time.toInt)

/-- The audit of a record asks rule after rule. -/
theorem recordFault?_eq (previous : Option Record) :
    recordFault? report objection? index previous x =
      Rule.all.findSome? (said? report objection? index previous x) := by
  rw [recordFault?]
  cases previous with
  | none => simp only [Rule.all, List.findSome?, said?, Option.bind_none]; grind
  | some p =>
    simp only [Rule.all, List.findSome?, said?, Option.bind_some, successionFault?]
    grind

/-- Behind records that break no rule, the audit says so of each rule that a record breaks. -/
theorem said?_of_broken (hx : records[index]? = some x)
    (hclean : ∀ j < index, ∀ r w, ¬ Broken report objection? records j r w)
    (hw : Broken report objection? records index rule w) :
    said? report objection? index (before? records index) x rule = some w := by
  have hsame {y : Record} (hy : records[index]? = some y) : y = x :=
    Option.some.inj (hy.symm.trans hx)
  cases hw with
  | token hz h =>
    obtain rfl := hsame hz
    exact if_pos h
  | kind hz h =>
    obtain rfl := hsame hz
    exact if_pos h
  | sample hz h =>
    obtain rfl := hsame hz
    exact congrArg (Option.map _) h
  | time hz hj hy h hp =>
    obtain rfl := hsame hz
    cases index with
    | zero => exact absurd hj (Nat.not_lt_zero _)
    | succ index =>
      rw [said?, before?, show records[index]? = _ from hp, Option.bind_some]
      exact if_pos ((time_broken_iff hclean hp).1 ⟨_, _, hj, hy, h⟩)
  | counter hz hfirst h hp =>
    obtain rfl := hsame hz
    cases index with
    | zero =>
      -- the first counter is due by itself
      obtain rfl := hsame hfirst
      exact absurd (Nat.mod_eq_of_lt (UInt32.toNat_lt _)).symm h
    | succ index =>
      rw [said?, before?, show records[index]? = _ from hp, Option.bind_some]
      exact if_neg (mt (counter_broken_iff hclean hp hfirst).2 h)

/-- Behind records that break no rule, the audit says nothing else. -/
theorem broken_of_said? (hx : records[index]? = some x)
    (hclean : ∀ j < index, ∀ r w, ¬ Broken report objection? records j r w)
    (hw : said? report objection? index (before? records index) x rule = some w) :
    Broken report objection? records index rule w := by
  cases rule with
  | token =>
    obtain ⟨h, rfl⟩ : _ ∧ _ = w := by
      simpa only [said?, Option.ite_none_right_eq_some, Option.some.injEq] using hw
    exact .token hx h
  | kind =>
    obtain ⟨h, rfl⟩ : _ ∧ _ = w := by
      simpa only [said?, Option.ite_none_right_eq_some, Option.some.injEq] using hw
    exact .kind hx h
  | sample =>
    obtain ⟨reason, h, rfl⟩ := Option.map_eq_some_iff.1 hw
    exact .sample hx h
  | time =>
    obtain ⟨p, hp, hp'⟩ := Option.bind_eq_some_iff.1 hw
    cases index with
    | zero => cases hp
    | succ index =>
      obtain ⟨h, rfl⟩ : _ ∧ _ = w := by
        simpa only [Option.ite_none_right_eq_some, Option.some.injEq] using hp'
      exact .time hx (Nat.lt_succ_self index) hp h hp
  | counter =>
    obtain ⟨p, hp, hp'⟩ := Option.bind_eq_some_iff.1 hw
    cases index with
    | zero => cases hp
    | succ index =>
      obtain ⟨h, rfl⟩ : _ ∧ _ = w := by
        simpa only [Option.ite_none_left_eq_some, Option.some.injEq] using hp'
      have hzero := List.getElem?_eq_getElem
        (Nat.zero_lt_of_lt (List.getElem?_eq_some_iff.1 hp).1)
      exact .counter hx hzero (mt (counter_broken_iff hclean hp hzero).1 h) hp

/-- Behind records that break no rule, a record without fault breaks none. -/
theorem not_broken_of_recordFault? (hx : records[index]? = some x)
    (hclean : ∀ j < index, ∀ r w, ¬ Broken report objection? records j r w)
    (h : recordFault? report objection? index (before? records index) x = none) (rule : Rule)
    (w : Violation) : ¬ Broken report objection? records index rule w := by
  rw [recordFault?_eq, List.findSome?_eq_none_iff] at h
  intro hw
  have hsaid := said?_of_broken hx hclean hw
  rw [h rule rule.mem_all] at hsaid
  cases hsaid

/-- Behind records that break no rule, the fault of a record is what it breaks first. -/
theorem firstBroken_of_recordFault? (hx : records[index]? = some x)
    (hclean : ∀ j < index, ∀ r w, ¬ Broken report objection? records j r w)
    (h : recordFault? report objection? index (before? records index) x = some v) :
    ∃ rule, FirstBroken report objection? records index rule v := by
  rw [recordFault?_eq, List.findSome?_eq_some_iff] at h
  obtain ⟨sooner, rule, later, hall, hv, hnone⟩ := h
  refine ⟨rule, broken_of_said? hx hclean hv, fun j r w hw => ?_⟩
  rcases Nat.lt_trichotomy index j with hlt | rfl | hgt
  · exact .inl hlt
  · refine .inr ⟨rfl, ?_⟩
    have hr : r ∈ sooner ++ rule :: later := hall ▸ r.mem_all
    rcases List.mem_append.1 hr with hr | hr
    · have hsaid := said?_of_broken hx hclean hw
      rw [hnone r hr] at hsaid
      cases hsaid
    · rcases List.mem_cons.1 hr with rfl | hr
      · exact Nat.le_refl _
      · have horder := (List.pairwise_append.1 (hall ▸ Rule.all_inOrder)).2.1
        exact Nat.le_of_lt ((List.pairwise_cons.1 horder).1 r hr)
  · exact absurd hw (hclean j hgt r w)

/-! ## All records -/

/-- An audit that goes on behind records that break no rule finds a fault exactly if some
record breaks a rule, and then what is broken first. -/
theorem recordsFault?_spec (rest : List Record) (hrest : records.drop index = rest)
    (hclean : ∀ j < index, ∀ r w, ¬ Broken report objection? records j r w) :
    (recordsFault? report objection? index (before? records index) rest = none →
      ∀ i r w, ¬ Broken report objection? records i r w) ∧
    ∀ v, recordsFault? report objection? index (before? records index) rest = some v →
      ∃ i rule, FirstBroken report objection? records i rule v := by
  induction rest generalizing index with
  | nil =>
    refine ⟨fun _ i r w hw => ?_, fun v => nofun⟩
    have hlength : records.length ≤ index := List.drop_eq_nil_iff.1 hrest
    have hi : i < records.length := by
      cases hw with
      | token hx _ | kind hx _ | time hx _ _ _ _ | counter hx _ _ _ | sample hx _ =>
        exact (List.getElem?_eq_some_iff.1 hx).1
    exact hclean i (by omega) r w hw
  | cons x rest ih =>
    have hx : records[index]? = some x := by
      rw [← Nat.add_zero index, ← List.getElem?_drop, hrest]
      rfl
    have hnext : records.drop (index + 1) = rest := by
      rw [← List.drop_drop, hrest]
      rfl
    rw [recordsFault?]
    cases hfault : recordFault? report objection? index (before? records index) x with
    | some v =>
      refine ⟨nofun, fun u hu => ?_⟩
      obtain rfl : v = u := Option.some.inj hu
      exact ⟨index, firstBroken_of_recordFault? hx hclean hfault⟩
    | none =>
      have hclean' : ∀ j < index + 1, ∀ r w, ¬ Broken report objection? records j r w := by
        intro j hj r w
        rcases Nat.lt_succ_iff_lt_or_eq.1 hj with hlt | rfl
        · exact hclean j hlt r w
        · exact not_broken_of_recordFault? hx hclean hfault r w
      rw [show some x = before? records (index + 1) from hx.symm]
      exact ih hnext hclean'

/-- The audit passes exactly the well-formed reports whose number of records is in bounds.
Of any other it says what is broken first, by the first record at fault and then by the
order of the rules; the number is complained of only if no record breaks a rule. -/
theorem audit_exact (report : Report) (objection? : List Float32 → Option String)
    (nominalSeconds totalSeconds : Float) (records : List Record) :
    (audit? report objection? nominalSeconds totalSeconds records = none ↔
      WellFormed report objection? records ∧
        lowestCount report.rate nominalSeconds < records.length ∧
        records.length < highestCount report.rate totalSeconds) ∧
    ∀ v, audit? report objection? nominalSeconds totalSeconds records = some v ↔
      (∃ index rule, FirstBroken report objection? records index rule v) ∨
      (∀ index rule w, ¬ Broken report objection? records index rule w) ∧
        ¬ (lowestCount report.rate nominalSeconds < records.length ∧
          records.length < highestCount report.rate totalSeconds) ∧
        v = .directRateOutOfRange report.sensor.handle report.rate records.length
          (lowestCount report.rate nominalSeconds) (highestCount report.rate totalSeconds) := by
  obtain ⟨hnone, hsome⟩ := @recordsFault?_spec report objection? records 0 records rfl
    fun j hj => absurd hj (Nat.not_lt_zero j)
  rw [wellFormed_iff, audit?]
  change (recordsFault? report objection? 0 none records = none → _) at hnone
  cases hfault : recordsFault? report objection? 0 none records with
  | some u =>
    obtain ⟨i, rule, hfirst⟩ := hsome u hfault
    refine ⟨⟨nofun, fun h => absurd hfirst.1 (h.1 i rule u)⟩, fun v => ?_⟩
    constructor
    · intro h
      obtain rfl : u = v := Option.some.inj h
      exact .inl ⟨i, rule, hfirst⟩
    · rintro (⟨j, r, hv⟩ | ⟨hclean, -⟩)
      · exact congrArg some (hfirst.unique hv)
      · exact absurd hfirst.1 (hclean i rule u)
  | none =>
    have hclean := hnone hfault
    dsimp only
    by_cases hcount : lowestCount report.rate nominalSeconds < records.length ∧
        records.length < highestCount report.rate totalSeconds
    · rw [if_pos hcount]
      refine ⟨iff_of_true rfl ⟨hclean, hcount⟩, fun v => iff_of_false nofun ?_⟩
      rintro (⟨i, r, hv⟩ | ⟨-, hout, -⟩)
      · exact hclean i r v hv.1
      · exact hout hcount
    · rw [if_neg hcount]
      refine ⟨iff_of_false nofun fun h => hcount h.2, fun v => ?_⟩
      constructor
      · intro h
        exact .inr ⟨hclean, hcount, (Option.some.inj h).symm⟩
      · rintro (⟨i, r, hv⟩ | ⟨-, -, rfl⟩)
        · exact absurd hv.1 (hclean i r v)
        · rfl

end

end SensorBench.Direct
