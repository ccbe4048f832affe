import Mathlib.Data.List.Nodup
import SensorBench.Config.Format
import SensorBench.Proofs.Config.Validity
import SensorBench.Proofs.Json.RoundTrip
import SensorBench.Proofs.Toml.Document

/-!
# Written settings read back

Settings are read back from the text that is written for them in either format
(`Settings.parse_written`), whatever their counts and patterns are, and are accepted again if
they were accepted before (`Settings.load_written`).
-/

set_option autoImplicit false

namespace SensorBench

/-! ## Decoding -/

namespace Decode

/-- A record without repeated keys has its members as slots. -/
theorem slots_record {members : List (String × Data)} (names : List String) (surplus : Bool)
    (h : (members.map Prod.fst).Nodup) :
    slots names surplus (.record members) = some fun n => members.lookup n := by
  have hone : ∀ n, (members.filter (·.1 == n)).length ≤ 1 := by
    intro n
    rw [← List.countP_eq_length_filter]
    have hcount := List.nodup_iff_count_le_one.1 h n
    rwa [List.count, List.countP_map] at hcount
  rw [slots, if_neg]
  rw [Bool.not_eq_true, List.any_eq_false]
  intro n _
  have := hone n
  simp only [decide_eq_true_eq]
  omega

/-- A reader of a record goes on with the members as slots. -/
theorem slots_then {β : Type} {members : List (String × Data)} {names : List String}
    {surplus : Bool} {f : Slots → Option β} {r : Option β} (h : (members.map Prod.fst).Nodup)
    (hf : f (fun n => members.lookup n) = r) :
    (slots names surplus (.record members) >>= f) = r := by
  rw [slots_record names surplus h]
  exact hf

/-- A reader of a field that is there goes on with its value. -/
theorem optional_then {α β : Type} {s : Slots} {name : String} {default a : α} {d : Decoder α}
    {x : Data} {f : α → Option β} {r : Option β} (h : s name = some x) (hx : d x = some a)
    (hf : f a = r) : (optional s name default d >>= f) = r := by
  rw [optional, h, ← hf]
  show (d x).bind f = f a
  rw [hx, Option.bind_some]

theorem unsigned_nat {bits n : Nat} (hn : n < Nat.pow 2 bits) :
    unsigned bits (.nat n) = some n := by
  have hbound : (0 : Int) ≤ n ∧ (n : Int) < Nat.pow 2 bits :=
    ⟨Int.natCast_nonneg n, Int.ofNat_lt.2 hn⟩
  rw [Data.nat, unsigned, if_pos hbound]
  rfl

theorem list_text (texts : List String) : list text (.list (texts.map .text)) = some texts := by
  show (texts.map Data.text).mapM text = some texts
  induction texts with
  | nil => rfl
  | cons t texts ih =>
    rw [List.map_cons, List.mapM_cons, ih]
    rfl

end Decode

namespace Settings

theorem word64_count (n : UInt64) : word64 (count n) = some n := by
  rw [word64, count, Decode.unsigned_nat n.toNat_lt, Option.map_some]
  exact congrArg some (UInt64.ofNat_toNat)

theorem word32_count (n : UInt32) : word32 (.nat n.toNat) = some n := by
  rw [word32, Decode.unsigned_nat n.toNat_lt, Option.map_some]
  exact congrArg some (UInt32.ofNat_toNat)

/-- Settings are read back from their data, whatever a format makes of too long lists. -/
theorem decode_toData (surplus : Bool) (s : Settings) : decode surplus s.toData = some s := by
  refine Decode.slots_then (by simp) ?_
  -- for each section its record is taken apart, then its fields are read in their order
  refine Decode.optional_then rfl (a := s.timeouts) ?_ ?_
  · refine Decode.slots_then (by simp) ?_
    refine Decode.optional_then rfl (word64_count _) ?_
    refine Decode.optional_then rfl (word64_count _) ?_
    refine Decode.optional_then rfl (word64_count _) ?_
    refine Decode.optional_then rfl (word64_count _) ?_
    rfl
  refine Decode.optional_then rfl (a := s.streaming) ?_ ?_
  · refine Decode.slots_then (by simp) ?_
    refine Decode.optional_then rfl (word64_count _) ?_
    rfl
  refine Decode.optional_then rfl (a := s.hotSwitch) ?_ ?_
  · refine Decode.slots_then (by simp) ?_
    refine Decode.optional_then rfl (word64_count _) ?_
    refine Decode.optional_then rfl (word32_count _) ?_
    rfl
  refine Decode.optional_then rfl (a := s.batching) ?_ ?_
  · refine Decode.slots_then (by simp) ?_
    refine Decode.optional_then rfl (word64_count _) ?_
    refine Decode.optional_then rfl (word64_count _) ?_
    rfl
  refine Decode.optional_then rfl (a := s.directReport) ?_ ?_
  · refine Decode.slots_then (by simp) ?_
    refine Decode.optional_then rfl (word64_count _) ?_
    refine Decode.optional_then rfl (word64_count _) ?_
    refine Decode.optional_then rfl (word64_count _) ?_
    rfl
  refine Decode.optional_then rfl (a := s.staleness) ?_ ?_
  · refine Decode.slots_then (by simp) ?_
    refine Decode.optional_then rfl (word64_count _) ?_
    refine Decode.optional_then rfl (word64_count _) ?_
    rfl
  refine Decode.optional_then rfl (a := s.injection) ?_ ?_
  · refine Decode.slots_then (by simp) ?_
    refine Decode.optional_then rfl (word64_count _) ?_
    rfl
  refine Decode.optional_then rfl (a := s.session) ?_ ?_
  · refine Decode.slots_then (by simp) ?_
    refine Decode.optional_then rfl (word64_count _) ?_
    rfl
  refine Decode.optional_then rfl (a := s.filter) ?_ ?_
  · refine Decode.slots_then (by simp) ?_
    refine Decode.optional_then rfl (Decode.list_text _) ?_
    refine Decode.optional_then rfl (Decode.list_text _) ?_
    rfl
  rfl

/-! ## Printing -/

theorem fits_nat {n : Nat} (hn : n < UInt64.size) : Toml.Fits (.nat n) := by
  have hsize : UInt64.size < Nat.pow 2 128 := by decide
  exact ⟨by omega, Int.ofNat_lt.2 (Nat.lt_trans hn hsize)⟩

theorem fits_texts (texts : List String) : Toml.Fits (.list (texts.map .text)) := by
  intro x hx
  obtain ⟨t, -, rfl⟩ := List.mem_map.1 hx
  trivial

/-- Settings are a document of tables, their names being plain keys. -/
theorem tabular_toData (s : Settings) : Toml.Tabular s.toData := by
  have hcount : ∀ n, Toml.Fits (count n) := fun n => fits_nat n.toNat_lt_size
  have hword : ∀ n : UInt32, Toml.Fits (.nat n.toNat) := fun n =>
    fits_nat (Nat.lt_trans n.toNat_lt_size (by decide))
  have htexts := fits_texts
  refine .of_keys ["timeouts", "streaming", "hot_switch", "batching", "direct_report",
    "staleness", "injection", "session", "filter"] rfl (by decide +kernel) ?_
  simp only [List.forall_mem_cons]
  refine ⟨⟨_, rfl, ?_⟩, ⟨_, rfl, ?_⟩, ⟨_, rfl, ?_⟩, ⟨_, rfl, ?_⟩, ⟨_, rfl, ?_⟩, ⟨_, rfl, ?_⟩,
    ⟨_, rfl, ?_⟩, ⟨_, rfl, ?_⟩, ⟨_, rfl, ?_⟩, by simp⟩
  · exact .of_keys ["flush_wait_ms", "first_event_ms", "isolation_collection_ms",
      "batch_delivery_ms"] rfl (by decide +kernel) (by simp [hcount])
  · exact .of_keys ["duration_ms"] rfl (by decide +kernel) (by simp [hcount])
  · exact .of_keys ["settle_ms", "sample_count"] rfl (by decide +kernel) (by simp [hcount, hword])
  · exact .of_keys ["init_ms", "max_period_ms"] rfl (by decide +kernel) (by simp [hcount])
  · exact .of_keys ["nominal_test_ms", "init_slack_ms", "ring_capacity"] rfl (by decide +kernel)
      (by simp [hcount])
  · exact .of_keys ["quiescent_ms", "min_gap_ms"] rfl (by decide +kernel) (by simp [hcount])
  · exact .of_keys ["delay_ms"] rfl (by decide +kernel) (by simp [hcount])
  · exact .of_keys ["queue_capacity"] rfl (by decide +kernel) (by simp [hcount])
  · exact .of_keys ["include", "exclude"] rfl (by decide +kernel) (by simp [htexts])

theorem faithful_nat {n : Nat} (hn : n < UInt64.size) : Json.Faithful (.nat n) := by
  rw [Data.nat, Json.Faithful]
  exact ⟨by omega, Int.ofNat_lt.2 hn⟩

theorem faithful_texts (texts : List String) : Json.FaithfulItems (texts.map .text) := by
  induction texts with
  | nil => trivial
  | cons t texts ih => exact ⟨trivial, ih⟩

theorem faithful_toData (s : Settings) : Json.Faithful s.toData := by
  have hcount : ∀ n, Json.Faithful (count n) := fun n => faithful_nat n.toNat_lt_size
  have hword : ∀ n : UInt32, Json.Faithful (.nat n.toNat) := fun n =>
    faithful_nat (Nat.lt_trans n.toNat_lt_size (by decide))
  simp only [toData, Json.Faithful, Json.FaithfulMembers, hcount, hword, faithful_texts, and_self]

/-! ## Both formats -/

/-- The text of settings in a format. -/
def written (s : Settings) : ConfigFormat → String
  | .toml => s.toToml
  | .json => s.toJson

/-- All settings are read back from both of their texts. -/
theorem parse_written (s : Settings) (f : ConfigFormat) : parse f (s.written f) = .ok s := by
  have hread : f.read? (s.written f) = some s.toData := by
    cases f with
    | toml => rw [written, toToml, ConfigFormat.read?, Toml.read?_pretty (tabular_toData s)]
    | json => rw [written, toJson, ConfigFormat.read?, Json.read?_pretty (faithful_toData s)]
  rw [parse, hread, Option.bind_some, decode_toData]

/-- What is accepted is accepted again from its text, unchanged. -/
theorem load_written (s : Settings) (h : s.check = .ok s) :
    load .json s.toJson = .ok s ∧ load .toml s.toToml = .ok s := by
  have hload : ∀ f, load f (s.written f) = .ok s := fun f => by
    rw [load, parse_written]
    exact h
  exact ⟨hload .json, hload .toml⟩

/-- Greatest counts, and patterns that fit no spelling without escapes. -/
def extreme : Settings where
  timeouts := ⟨0xffffffffffffffff, 0xffffffffffffffff, 0xffffffffffffffff, 0xffffffffffffffff⟩
  hotSwitch := ⟨0xffffffffffffffff, 0xffffffff⟩
  directReport := ⟨0xffffffffffffffff, 0, 0xffffffffffffffff⟩
  staleness := ⟨0xffffffffffffffff, 0xffffffffffffffff⟩
  filter := {
    takes := [String.ofList ['*', '\\', '"', '"', '"', '\'', '\'', '\'', '\n', '\r', '\x00', 'é']]
    drops := ["a\n\\", "\"\"\"", "\x1f\x7f"] }

theorem load_written_extreme : extreme.check = .ok extreme ∧
    load .json extreme.toJson = .ok extreme ∧ load .toml extreme.toToml = .ok extreme := by
  have hnone : extreme.fault?.isNone = true := by decide +kernel
  have hcheck : extreme.check = .ok extreme :=
    check_eq_ok_iff.2 ⟨Option.isNone_iff_eq_none.1 hnone, by decide⟩
  exact ⟨hcheck, load_written extreme hcheck⟩

end Settings

end SensorBench
