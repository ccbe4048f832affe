import Mathlib.Data.Prod.Lex
import Mathlib.Data.String.Basic
import SensorBench.Config.Validity

/-!
# Least values by section

Sections declare least values for their fields. What they find broken is a tree whose branches
come in no certain order. Its lines, each a path and what is said of it, are sorted, so the order
has no say (`Reordered.leastLine?_eq`), and the first line is that of the first broken entry in
the table of least values (`leastLine?_breaches`).
-/

set_option autoImplicit false

namespace SensorBench.Settings

/-! ## Declared least values -/

/-- The least values that each section declares, with the names of their fields as paths. -/
def declared : List (String × List Minimum) := [
  ("timeouts", [
    ⟨"flush_wait_ms", 1, (·.timeouts.flushWait.toNat)⟩,
    ⟨"first_event_ms", 1, (·.timeouts.firstEvent.toNat)⟩,
    ⟨"isolation_collection_ms", 1, (·.timeouts.isolationCollection.toNat)⟩,
    ⟨"batch_delivery_ms", 1, (·.timeouts.batchDelivery.toNat)⟩]),
  ("streaming", [⟨"duration_ms", 10, (·.streaming.duration.toNat)⟩]),
  ("hot_switch", [⟨"sample_count", 3, (·.hotSwitch.sampleCount.toNat)⟩]),
  ("batching", [⟨"max_period_ms", 1000, (·.batching.maxPeriod.toNat)⟩]),
  ("direct_report", [
    ⟨"nominal_test_ms", 100, (·.directReport.nominalTest.toNat)⟩,
    ⟨"ring_capacity", 16, (·.directReport.ringCapacity.toNat)⟩]),
  ("staleness", [
    ⟨"quiescent_ms", 1, (·.staleness.quiescent.toNat)⟩,
    ⟨"min_gap_ms", 1, (·.staleness.minGap.toNat)⟩]),
  ("session", [⟨"queue_capacity", 1, (·.session.queueCapacity.toNat)⟩])]

/-- A declared least value under the path that leads to it through its section. -/
def Minimum.under (name : String) (m : Minimum) : Minimum :=
  { m with path := name ++ "." ++ m.path }

/-- All declared least values with their paths. -/
def declaredMinimums : List Minimum := declared.flatMap fun p => p.2.map (.under p.1)

/-- The table has what the sections declare, in the order of the paths. -/
theorem minimums_perm : declaredMinimums.Perm minimums := by
  -- the places in the table of what is declared
  have hdeclared : declaredMinimums =
      [10, 9, 11, 8, 7, 3, 0, 1, 2, 6, 5, 4].filterMap (minimums[·]?) := rfl
  have htable : minimums = (List.range 12).filterMap (minimums[·]?) := rfl
  rw [hdeclared, htable]
  exact List.Perm.filterMap _ (by decide)

theorem minimums_ordered : minimums.Pairwise fun m n => m.path < n.path := by
  decide +kernel

/-! ## What sections find broken -/

/-- What is found broken: the least values that a field stays below, or what is found in the
parts of a section, each under its name. -/
inductive Breach where
  | field (leasts : List Nat)
  | parts (entries : List (String × Breach))

mutual

/-- What is found at a path as lines of the path and what the field has to satisfy. -/
def Breach.lines (path : String) : Breach → List (String × String)
  | .field leasts => leasts.map fun least => (path, "must be >= " ++ Text.decimal least)
  | .parts entries => linesOf path entries

/-- What is found in the parts of a section as lines. -/
def linesOf (path : String) : List (String × Breach) → List (String × String)
  | [] => []
  | (name, b) :: rest =>
    b.lines (if path.isEmpty then name else path ++ "." ++ name) ++ linesOf path rest

end

/-- Parts that differ in their order only, at every depth. -/
inductive Reordered : List (String × Breach) → List (String × Breach) → Prop
  | nil : Reordered [] []
  | field (name : String) (leasts : List Nat) {ps qs : List (String × Breach)} :
      Reordered ps qs → Reordered ((name, .field leasts) :: ps) ((name, .field leasts) :: qs)
  | parts (name : String) {ps qs ps' qs' : List (String × Breach)} : Reordered ps qs →
      Reordered ps' qs' → Reordered ((name, .parts ps) :: ps') ((name, .parts qs) :: qs')
  | swap (p q : String × Breach) (ps : List (String × Breach)) :
      Reordered (p :: q :: ps) (q :: p :: ps)
  | trans {ps qs rs : List (String × Breach)} :
      Reordered ps qs → Reordered qs rs → Reordered ps rs

/-- What the sections find broken in settings; sections without a finding are left out. -/
def breaches (s : Settings) : List (String × Breach) :=
  declared.filterMap fun p =>
    match p.2.filter fun m => m.value s < m.least with
    | [] => none
    | broken => some (p.1, .parts (broken.map fun m => (m.path, .field [m.least])))

/-- Lines are sorted by paths, and those of one path by what they say. -/
def lineBefore (a b : String × String) : Bool := a.1 < b.1 || a.1 == b.1 && a.2 ≤ b.2

/-- The first line once all are sorted. -/
def leastLine? (lines : List (String × String)) : Option (String × String) :=
  (lines.mergeSort lineBefore).head?

theorem Reordered.lines_perm {found other : List (String × Breach)} (h : Reordered found other)
    (path : String) : (linesOf path found).Perm (linesOf path other) := by
  induction h generalizing path with
  | nil => exact .refl _
  | field name leasts _ ih => exact (ih path).append_left _
  | parts name _ _ ihparts ihrest => exact (ihparts _).append (ihrest path)
  | swap p q ps =>
    simp only [linesOf, ← List.append_assoc]
    exact List.perm_append_comm.append_right _
  | trans _ _ ihleft ihright => exact (ihleft path).trans (ihright path)

theorem lineBefore_iff (a b : String × String) : lineBefore a b = true ↔ toLex a ≤ toLex b := by
  rw [Prod.Lex.toLex_le_toLex]
  simp [lineBefore]

/-- Lines in any order are sorted to the same list. -/
theorem mergeSort_lines_eq {lines other : List (String × String)} (h : lines.Perm other) :
    lines.mergeSort lineBefore = other.mergeSort lineBefore := by
  have htrans (a b c : String × String) (hab : lineBefore a b = true)
      (hbc : lineBefore b c = true) : lineBefore a c = true := by
    rw [lineBefore_iff] at hab hbc ⊢
    exact hab.trans hbc
  have htotal (a b : String × String) : (lineBefore a b || lineBefore b a) = true := by
    rw [Bool.or_eq_true, lineBefore_iff, lineBefore_iff]
    exact le_total _ _
  have hantisymm (a b : String × String) (hab : lineBefore a b = true)
      (hba : lineBefore b a = true) : a = b := by
    rw [lineBefore_iff] at hab hba
    exact toLex.injective (hab.antisymm hba)
  refine List.Perm.eq_of_pairwise (fun a b _ _ => hantisymm a b)
    (List.pairwise_mergeSort htrans htotal lines) (List.pairwise_mergeSort htrans htotal other) ?_
  exact ((List.mergeSort_perm _ _).trans h).trans (List.mergeSort_perm _ _).symm

theorem leastLine?_perm {lines other : List (String × String)} (h : lines.Perm other) :
    leastLine? lines = leastLine? other :=
  congrArg List.head? (mergeSort_lines_eq h)

theorem Reordered.leastLine?_eq {found other : List (String × Breach)}
    (h : Reordered found other) : leastLine? (linesOf "" found) = leastLine? (linesOf "" other) :=
  leastLine?_perm (h.lines_perm "")

/-- The line of a broken least value. -/
def Minimum.line (m : Minimum) : String × String := (m.path, "must be >= " ++ Text.decimal m.least)

/-- A section finds broken what it declares and its fields stay below, in its order. -/
theorem lines_section {name : String} (hname : name.isEmpty = false) (broken : List Minimum) :
    linesOf name (broken.map fun m => (m.path, .field [m.least])) =
      (broken.map (.under name)).map Minimum.line := by
  induction broken with
  | nil => rfl
  | cons m broken ih =>
    rw [List.map_cons, linesOf, ih, hname]
    rfl

/-- All sections find broken what they declare and settings stay below. -/
theorem linesOf_breaches (s : Settings) : linesOf "" s.breaches =
    (declaredMinimums.filter fun m => m.value s < m.least).map Minimum.line := by
  have hnames : ∀ p ∈ declared, p.1.isEmpty = false := by decide +kernel
  rw [breaches, declaredMinimums]
  generalize declared = sections at hnames
  induction sections with
  | nil => rfl
  | cons p sections ih =>
    have hsection : ((p.2.map (Minimum.under p.1)).filter fun m => m.value s < m.least) =
        (p.2.filter fun m => m.value s < m.least).map (Minimum.under p.1) := List.filter_map
    obtain ⟨hname, hrest⟩ := List.forall_mem_cons.1 hnames
    rw [List.flatMap_cons, List.filter_append, hsection, List.map_append, ← lines_section hname,
      ← ih hrest, List.filterMap_cons]
    cases p.2.filter fun m => m.value s < m.least with
    | nil => rfl
    | cons m broken => rfl

/-- The first line is the first broken entry in the table. -/
theorem leastLine?_breaches (s : Settings) : leastLine? (linesOf "" s.breaches) =
    s.minimumFault?.map fun f => (f.field, f.reason) := by
  have hsorted : ((minimums.filter fun m => m.value s < m.least).map Minimum.line).Pairwise
      fun a b => lineBefore a b = true := by
    refine List.pairwise_map.2 ((minimums_ordered.filter _).imp fun h => ?_)
    exact (lineBefore_iff _ _).2 (Prod.Lex.toLex_le_toLex.2 (.inl h))
  rw [linesOf_breaches, leastLine?_perm ((minimums_perm.filter _).map _), leastLine?,
    List.mergeSort_of_pairwise hsorted, List.head?_map, List.head?_filter, minimumFault?,
    Option.map_map]
  rfl

end SensorBench.Settings
