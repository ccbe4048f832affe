import Mathlib.Data.List.DropRight
import Mathlib.Data.List.Nodup
import SensorBench.Proofs.Config.Minimums

/-!
# The first rule that settings break

The least values of fields come first, then the rules that tie fields together, in stages. Each
stage answers for its own rules (`Answers`), so the first answer is of the rule that is broken
first, and settings pass exactly if no stage has an answer (`fault?_answersFrom`). The check is
that, whatever order the findings of the sections come in (`check_exact`).
-/

set_option autoImplicit false

namespace SensorBench

/-! ## Blanks at the ends -/

/-- A text without the blanks at its ends. -/
def Text.trim (s : String) : String :=
  String.ofList ((s.toList.dropWhile isBlank).rdropWhile isBlank)

/-- Nothing is left of a text exactly if it is made of blanks. -/
theorem Text.trim_eq_empty_iff (s : String) : trim s = "" ↔ isBlankText s = true := by
  rw [trim, String.ofList_eq_empty_iff, List.rdropWhile_eq_nil_iff, ← List.dropWhile_eq_nil_iff,
    List.dropWhile_idempotent, List.dropWhile_eq_nil_iff, isBlankText, List.all_eq_true]

namespace Settings

/-! ## The rules -/

/-- The two lists of patterns by their names. -/
def Filter.lists (f : Filter) : List (String × List String) :=
  [("include", f.takes), ("exclude", f.drops)]

/-- Settings that satisfy every rule. -/
structure Sound (s : Settings) : Prop where
  minimum : ∀ m ∈ declaredMinimums, m.least ≤ m.value s
  ring : recordsIn s.directReport.length ≤ s.directReport.ringCapacity.toNat
  gap : s.staleness.minGap.toNat ≤ s.staleness.quiescent.toNat
  takes : ∀ p ∈ s.filter.takes, Text.trim p ≠ ""
  drops : ∀ p ∈ s.filter.drops, Text.trim p ≠ ""

/-- Settings break a rule, and what is said of it. -/
inductive Broken (s : Settings) : Fault → Prop
  | minimum {m : Minimum} (hm : m ∈ declaredMinimums) (h : m.value s < m.least) :
    Broken s (.tooSmall m.path m.least)
  | ring (h : s.directReport.ringCapacity.toNat < recordsIn s.directReport.length) :
    Broken s (.ringTooSmall s.directReport.ringCapacity (secondsIn s.directReport.length)
      (recordsIn s.directReport.length))
  | gap (h : s.staleness.quiescent.toNat < s.staleness.minGap.toNat) :
    Broken s (.gapTooLong s.staleness.minGap s.staleness.quiescent)
  | pattern {list : String} {patterns : List String} (hlist : (list, patterns) ∈ s.filter.lists)
      {i : Nat} {p : String} (hp : patterns[i]? = some p) (h : Text.trim p = "") :
    Broken s (.blankPattern list i)

/-- The place of a rule among the others: least values, the memory, the gap, the patterns to take
and those to leave out. -/
def Fault.stage : Fault → Nat
  | tooSmall .. => 0
  | ringTooSmall .. => 1
  | gapTooLong .. => 2
  | blankPattern list _ => if list = "include" then 3 else 4

/-- Of the faults of one stage one is not after the other: paths go by the alphabet and patterns
by their places. -/
def Fault.within : Fault → Fault → Prop
  | tooSmall p _, tooSmall q _ => p ≤ q
  | blankPattern _ i, blankPattern _ j => i ≤ j
  | _, _ => True

/-- Faults go by their stages first. -/
def Fault.NotAfter (f g : Fault) : Prop := f.stage < g.stage ∨ f.stage = g.stage ∧ f.within g

/-- The rule that is broken first. -/
def FirstBroken (s : Settings) (f : Fault) : Prop := s.Broken f ∧ ∀ g, s.Broken g → f.NotAfter g

/-! ## Stages -/

/-- An answer about the rules of a stage: the first one broken, or that none is. -/
structure Answers (s : Settings) (stage : Nat) (answer : Option Fault) : Prop where
  first : ∀ f, answer = some f → s.Broken f ∧ f.stage = stage ∧
    ∀ g, s.Broken g → g.stage = stage → f.within g
  clean : answer = none → ∀ g, s.Broken g → g.stage ≠ stage

/-- An answer about the rules from a stage on. -/
structure AnswersFrom (s : Settings) (stage : Nat) (answer : Option Fault) : Prop where
  first : ∀ f, answer = some f → s.Broken f ∧ stage ≤ f.stage ∧
    ∀ g, s.Broken g → stage ≤ g.stage → f.NotAfter g
  clean : answer = none → ∀ g, s.Broken g → g.stage < stage

section

variable {s : Settings} {stage : Nat} {answer later : Option Fault} {f g : Fault}

theorem Fault.stage_blankPattern (list : String) (i : Nat) :
    3 ≤ (blankPattern list i).stage ∧ (blankPattern list i).stage < 5 := by
  rw [stage]
  split <;> decide

theorem Fault.stage_lt (f : Fault) : f.stage < 5 := by
  cases f with
  | tooSmall | ringTooSmall | gapTooLong => simp [stage]
  | blankPattern list i => exact (stage_blankPattern list i).2

/-- What the stage of a broken rule says about the rule. -/
theorem Broken.byStage (h : s.Broken f) :
    (f.stage = 0 ∧ ∃ m ∈ minimums, m.value s < m.least ∧ f = .tooSmall m.path m.least) ∨
    (f.stage = 1 ∧ s.directReport.ringCapacity.toNat < recordsIn s.directReport.length ∧
      f = .ringTooSmall s.directReport.ringCapacity (secondsIn s.directReport.length)
        (recordsIn s.directReport.length)) ∨
    (f.stage = 2 ∧ s.staleness.quiescent.toNat < s.staleness.minGap.toNat ∧
      f = .gapTooLong s.staleness.minGap s.staleness.quiescent) ∨
    (3 ≤ f.stage ∧ ∃ list patterns i p, (list, patterns) ∈ s.filter.lists ∧
      patterns[i]? = some p ∧ Text.trim p = "" ∧ f = .blankPattern list i) := by
  cases h with
  | minimum hm h => exact .inl ⟨rfl, _, minimums_perm.mem_iff.1 hm, h, rfl⟩
  | ring h => exact .inr (.inl ⟨rfl, h, rfl⟩)
  | gap h => exact .inr (.inr (.inl ⟨rfl, h, rfl⟩))
  | pattern hlist hp h =>
    exact .inr (.inr (.inr ⟨(Fault.stage_blankPattern _ _).1, _, _, _, _, hlist, hp, h, rfl⟩))

/-- There are no rules from the fifth stage on. -/
theorem answersFrom_end : s.AnswersFrom 5 none where
  first _ := nofun
  clean _ g _ := g.stage_lt

/-- What a stage leaves unanswered is for the later ones. -/
theorem Answers.orElse (h : s.Answers stage answer) (hlater : s.AnswersFrom (stage + 1) later) :
    s.AnswersFrom stage (answer <|> later) := by
  cases answer with
  | some f =>
    obtain ⟨hbroken, hstage, hfirst⟩ := h.first f rfl
    constructor
    case first =>
      intro u hu
      obtain rfl : f = u := Option.some.inj hu
      refine ⟨hbroken, hstage.ge, fun g hg hle => ?_⟩
      rcases hle.lt_or_eq with hlt | heq
      · exact .inl (hstage ▸ hlt)
      · exact .inr ⟨hstage.trans heq, hfirst g hg heq.symm⟩
    case clean => nofun
  | none =>
    have hclean := h.clean rfl
    constructor
    case first =>
      intro f hf
      obtain ⟨hbroken, hstage, hfirst⟩ := hlater.first f hf
      refine ⟨hbroken, Nat.le_of_succ_le hstage, fun g hg hle => hfirst g hg ?_⟩
      exact Nat.lt_of_le_of_ne hle (hclean g hg).symm
    case clean =>
      intro hlast g hg
      have hlt := hlater.clean hlast g hg
      exact Nat.lt_of_le_of_ne (Nat.le_of_lt_succ hlt) (hclean g hg)

/-- The last stage leaves nothing to later ones. -/
theorem Answers.last (h : s.Answers 4 answer) : s.AnswersFrom 4 answer := by
  have hend := h.orElse answersFrom_end
  cases answer <;> exact hend

/-- The table is asked in the order of the paths. -/
theorem minimumFault?_answers : s.Answers 0 s.minimumFault? := by
  have htable {g : Fault} (hg : s.Broken g) (hstage : g.stage = 0) :
      ∃ m ∈ minimums, m.value s < m.least ∧ g = .tooSmall m.path m.least := by
    rcases hg.byStage with ⟨-, hm⟩ | ⟨hone, -⟩ | ⟨htwo, -⟩ | ⟨hthree, -⟩
    · exact hm
    · omega
    · omega
    · omega
  constructor
  case first =>
    intro f hf
    obtain ⟨m, hfind, rfl⟩ := Option.map_eq_some_iff.1 hf
    obtain ⟨hbroken, sooner, rest, htable', hsooner⟩ := List.find?_eq_some_iff_append.1 hfind
    have hmem : m ∈ minimums := List.mem_of_find?_eq_some hfind
    refine ⟨.minimum (minimums_perm.mem_iff.2 hmem) (of_decide_eq_true hbroken), rfl,
      fun g hg hstage => ?_⟩
    obtain ⟨n, hn, hnbroken, rfl⟩ := htable hg hstage
    rw [htable', List.mem_append, List.mem_cons] at hn
    have horder := (List.pairwise_append.1 (htable' ▸ minimums_ordered)).2.1
    rcases hn with hn | rfl | hn
    · exact absurd hnbroken (by simpa using hsooner n hn)
    · exact String.le_refl _
    · exact le_of_lt ((List.pairwise_cons.1 horder).1 n hn)
  case clean =>
    intro hnone g hg hstage
    obtain ⟨m, hm, hbroken, -⟩ := htable hg hstage
    have hsound := List.find?_eq_none.1 (Option.map_eq_none_iff.1 hnone) m hm
    exact hsound (decide_eq_true hbroken)

/-- A rule that is the only one of its stage answers for it. -/
theorem answers_single {p : Prop} [Decidable p] (hp : p → s.Broken f) (hstage : f.stage = stage)
    (honly : ∀ g, s.Broken g → g.stage = stage → p ∧ f.within g) :
    s.Answers stage (if p then some f else none) := by
  by_cases h : p
  · rw [if_pos h]
    refine ⟨fun u hu => ?_, nofun⟩
    obtain rfl : f = u := Option.some.inj hu
    exact ⟨hp h, hstage, fun g hg hsame => (honly g hg hsame).2⟩
  · rw [if_neg h]
    exact ⟨nofun, fun _ g hg hsame => h (honly g hg hsame).1⟩

theorem ringFault?_answers : s.Answers 1 s.ringFault? := by
  refine answers_single .ring rfl fun g hg hstage => ?_
  rcases hg.byStage with ⟨hzero, -⟩ | ⟨-, hring, rfl⟩ | ⟨htwo, -⟩ | ⟨hthree, -⟩
  · omega
  · exact ⟨hring, trivial⟩
  · omega
  · omega

theorem gapFault?_answers : s.Answers 2 s.gapFault? := by
  refine answers_single (fun h => .gap (UInt64.lt_iff_toNat_lt.1 h)) rfl fun g hg hstage => ?_
  rcases hg.byStage with ⟨hzero, -⟩ | ⟨hone, -⟩ | ⟨-, hgap, rfl⟩ | ⟨hthree, -⟩
  · omega
  · omega
  · exact ⟨UInt64.lt_iff_toNat_lt.2 hgap, trivial⟩
  · omega

/-- The lists have their names and stages to themselves. -/
theorem Filter.lists_eq {filter : Filter} {list other : String} {patterns others : List String}
    (h : (list, patterns) ∈ filter.lists) (h' : (other, others) ∈ filter.lists) {i j : Nat}
    (hstage : (Fault.blankPattern list i).stage = (Fault.blankPattern other j).stage) :
    list = other ∧ patterns = others := by
  simp only [lists, List.mem_cons, List.not_mem_nil, or_false, Prod.mk.injEq] at h h'
  rcases h with ⟨rfl, rfl⟩ | ⟨rfl, rfl⟩ <;> rcases h' with ⟨rfl, rfl⟩ | ⟨rfl, rfl⟩
  · exact ⟨rfl, rfl⟩
  · simp [Fault.stage] at hstage
  · simp [Fault.stage] at hstage
  · exact ⟨rfl, rfl⟩

/-- A list of patterns is asked from its first on. -/
theorem blankFault?_answers {list : String} {patterns : List String}
    (hlist : (list, patterns) ∈ s.filter.lists)
    (hstage : (Fault.blankPattern list 0).stage = stage) :
    s.Answers stage (blankFault? list patterns) := by
  have hpattern {g : Fault} (hg : s.Broken g) (hsame : g.stage = stage) :
      ∃ i p, patterns[i]? = some p ∧ Text.trim p = "" ∧ g = .blankPattern list i := by
    have hthird := (Fault.stage_blankPattern list 0).1
    rcases hg.byStage with ⟨hzero, -⟩ | ⟨hone, -⟩ | ⟨htwo, -⟩ |
      ⟨-, other, others, i, p, hother, hp, hempty, rfl⟩
    · omega
    · omega
    · omega
    · obtain ⟨rfl, rfl⟩ := Filter.lists_eq hother hlist (hsame.trans hstage.symm)
      exact ⟨i, p, hp, hempty, rfl⟩
  constructor
  case first =>
    intro f hf
    obtain ⟨i, hfind, rfl⟩ := Option.map_eq_some_iff.1 hf
    obtain ⟨hi, hblank, hsooner⟩ := List.findIdx?_eq_some_iff_getElem.1 hfind
    refine ⟨.pattern hlist (List.getElem?_eq_getElem hi) ((Text.trim_eq_empty_iff _).2 hblank),
      hstage, fun g hg hsame => ?_⟩
    obtain ⟨j, p, hp, hempty, rfl⟩ := hpattern hg hsame
    obtain ⟨hj, rfl⟩ := List.getElem?_eq_some_iff.1 hp
    refine Nat.not_lt.1 fun hlt => hsooner j hlt ?_
    exact (Text.trim_eq_empty_iff _).1 hempty
  case clean =>
    intro hnone g hg hsame
    obtain ⟨j, p, hp, hempty, -⟩ := hpattern hg hsame
    have hsound := List.findIdx?_eq_none_iff.1 (Option.map_eq_none_iff.1 hnone) p
      (List.mem_of_getElem? hp)
    rw [(Text.trim_eq_empty_iff p).1 hempty] at hsound
    cases hsound

/-- The stages together answer for all rules. -/
theorem fault?_answersFrom : s.AnswersFrom 0 s.fault? := by
  have htakes : s.Answers 3 (blankFault? "include" s.filter.takes) :=
    blankFault?_answers List.mem_cons_self rfl
  have hdrops : s.Answers 4 (blankFault? "exclude" s.filter.drops) :=
    blankFault?_answers (List.mem_cons_of_mem _ List.mem_cons_self) rfl
  exact minimumFault?_answers.orElse <| ringFault?_answers.orElse <| gapFault?_answers.orElse <|
    htakes.orElse hdrops.last

theorem sound_iff : s.Sound ↔ ∀ f, ¬ s.Broken f := by
  constructor
  · intro h f hf
    cases hf with
    | minimum hm hlt => exact absurd (h.minimum _ hm) (Nat.not_le.2 hlt)
    | ring hlt => exact absurd h.ring (Nat.not_le.2 hlt)
    | gap hlt => exact absurd h.gap (Nat.not_le.2 hlt)
    | pattern hlist hp hempty =>
      simp only [Filter.lists, List.mem_cons, List.not_mem_nil, or_false, Prod.mk.injEq] at hlist
      rcases hlist with ⟨-, rfl⟩ | ⟨-, rfl⟩
      · exact h.takes _ (List.mem_of_getElem? hp) hempty
      · exact h.drops _ (List.mem_of_getElem? hp) hempty
  · intro h
    have hpatterns {list : String} {patterns : List String}
        (hlist : (list, patterns) ∈ s.filter.lists) : ∀ p ∈ patterns, Text.trim p ≠ "" := by
      intro p hp hempty
      obtain ⟨i, hi⟩ := List.getElem?_of_mem hp
      exact h _ (.pattern hlist hi hempty)
    exact ⟨fun m hm => Nat.not_lt.1 fun hlt => h _ (.minimum hm hlt),
      Nat.not_lt.1 fun hlt => h _ (.ring hlt), Nat.not_lt.1 fun hlt => h _ (.gap hlt),
      hpatterns List.mem_cons_self, hpatterns (List.mem_cons_of_mem _ List.mem_cons_self)⟩

/-- Only one rule is broken first, and one thing is said of it. -/
theorem FirstBroken.unique (hf : s.FirstBroken f) (hg : s.FirstBroken g) : f = g := by
  obtain ⟨hf, hfirst⟩ := hf
  obtain ⟨hg, hgfirst⟩ := hg
  obtain ⟨hstage, hwithin, hwithin'⟩ : f.stage = g.stage ∧ f.within g ∧ g.within f := by
    rcases hfirst g hg with hlt | ⟨heq, hwithin⟩ <;>
      rcases hgfirst f hf with hlt' | ⟨heq', hwithin'⟩
    · omega
    · omega
    · omega
    · exact ⟨heq, hwithin, hwithin'⟩
  have hpaths : (minimums.map (·.path)).Nodup :=
    List.pairwise_map.2 (minimums_ordered.imp ne_of_lt)
  rcases hf.byStage with ⟨hf0, m, hm, -, rfl⟩ | ⟨hf1, -, rfl⟩ | ⟨hf2, -, rfl⟩ |
      ⟨hf3, list, patterns, i, p, hlist, -, -, rfl⟩ <;>
    rcases hg.byStage with ⟨hg0, n, hn, -, rfl⟩ | ⟨hg1, -, rfl⟩ | ⟨hg2, -, rfl⟩ |
      ⟨hg3, other, others, j, q, hother, -, -, rfl⟩ <;> try omega
  · obtain rfl := List.inj_on_of_nodup_map hpaths hm hn (String.le_antisymm hwithin hwithin')
    rfl
  · rfl
  · rfl
  · obtain ⟨rfl, -⟩ := Filter.lists_eq hlist hother hstage
    obtain rfl : i = j := Nat.le_antisymm hwithin hwithin'
    rfl

/-- Settings checked by what their sections find broken, in whatever order it comes, and then by
the rules that tie fields together. -/
def checkBy (found : List (String × Breach)) (s : Settings) : Except Failure Settings :=
  match leastLine? (linesOf "" found) with
  | some (path, reason) => .error (.invalidSetting path reason)
  | none => s.checkLater

/-- The check is the same in whatever order the findings of the sections come. -/
theorem checkBy_eq {s : Settings} {found : List (String × Breach)}
    (h : Reordered s.breaches found) : s.checkBy found = s.check := by
  rw [checkBy, ← h.leastLine?_eq, leastLine?_breaches, check]
  cases s.minimumFault? <;> rfl

/-- The length of a direct report that fits its word does not end the check. -/
theorem check_of_lt (h : s.directReport.length < UInt64.size) :
    s.check = match s.fault? with
      | some f => .error f.failure
      | none => .ok s := by
  have htotal : s.directReport.total = .ok s.directReport.length := Number.inWord_of_lt h
  rw [check, fault?]
  cases s.minimumFault? with
  | some f => rfl
  | none =>
    rw [checkLater, htotal]
    cases s.laterFault? <;> rfl

/-- A length that does not fit ends the check once no minimum is broken. -/
theorem check_of_le (h : UInt64.size ≤ s.directReport.length) :
    s.check = match s.minimumFault? with
      | some f => .error f.failure
      | none => .error (.panic Number.sumOverflow) := by
  have htotal : s.directReport.total = .error Number.sumOverflow := Number.inWord_of_le h
  cases hminimum : s.minimumFault? with
  | some f => simp only [check, hminimum]
  | none => simp only [check, checkLater, hminimum, htotal]

/-- Settings are accepted exactly if they break no rule and the length of their direct report
fits. -/
theorem check_eq_ok_iff : s.check = .ok s ↔
    s.fault? = none ∧ s.directReport.length < UInt64.size := by
  rcases Nat.lt_or_ge s.directReport.length UInt64.size with h | h
  · rw [check_of_lt h]
    cases s.fault? <;> simp [h]
  · rw [check_of_le h]
    cases s.minimumFault? <;> simp [h]

/-- Settings pass as they are exactly if they satisfy every rule, and else fail with the path and
the reason of the rule that is broken first, in whatever order the sections bring what they find
broken. -/
theorem check_exact (s : Settings) (found : List (String × Breach))
    (h : s.directReport.length < UInt64.size) (hfound : Reordered s.breaches found) :
    s.checkBy found = s.check ∧ (∀ t, s.check = .ok t ↔ t = s ∧ s.Sound) ∧
      ∀ e, s.check = .error e ↔
        ∃ f, s.FirstBroken f ∧ e = .invalidSetting f.field f.reason := by
  obtain ⟨hfirst, hnone⟩ := fault?_answersFrom (s := s)
  refine ⟨checkBy_eq hfound, ?_⟩
  rw [check_of_lt h, sound_iff]
  cases hfault : s.fault? with
  | some f =>
    obtain ⟨hbroken, -, hleast⟩ := hfirst f hfault
    have hf : s.FirstBroken f := ⟨hbroken, fun g hg => hleast g hg (Nat.zero_le _)⟩
    refine ⟨fun t => iff_of_false nofun fun hsound => hsound.2 f hbroken, fun e => ?_⟩
    constructor
    · intro he
      exact ⟨f, hf, (Except.error.inj he).symm⟩
    · rintro ⟨g, hg, rfl⟩
      rw [hf.unique hg]
      rfl
  | none =>
    have hclean : ∀ f, ¬ s.Broken f := fun f hf => Nat.not_lt_zero _ (hnone hfault f hf)
    refine ⟨fun t => ?_, fun e => iff_of_false nofun ?_⟩
    · exact ⟨fun ht => ⟨(Except.ok.inj ht).symm, hclean⟩, fun ht => congrArg Except.ok ht.1.symm⟩
    · rintro ⟨f, hf, -⟩
      exact hclean f hf.1

end

/-- Settings that break rules of every stage, three of them in sections. -/
def muddled : Settings where
  timeouts := { flushWait := 0, batchDelivery := 0 }
  batching := { maxPeriod := 999 }
  directReport := { ringCapacity := 16 }
  staleness := { quiescent := 1, minGap := 2 }
  filter := { takes := ["*", " \t"], drops := [""] }

/-- What is found broken there, the sections and the fields of one of them in another order. -/
def muddledFound : List (String × Breach) := [
  ("batching", .parts [("max_period_ms", .field [1000])]),
  ("timeouts", .parts [("batch_delivery_ms", .field [1]), ("flush_wait_ms", .field [1])])]

theorem check_exact_muddled : muddled.directReport.length < UInt64.size ∧
    Reordered muddled.breaches muddledFound ∧
    muddled.checkBy muddledFound =
      .error (.invalidSetting "batching.max_period_ms" "must be >= 1000") ∧
    ∃ f, muddled.FirstBroken f ∧
      Failure.invalidSetting "batching.max_period_ms" "must be >= 1000" =
        .invalidSetting f.field f.reason := by
  have hlength : muddled.directReport.length < UInt64.size := by decide
  have hreordered : Reordered muddled.breaches muddledFound := by
    refine .trans (.parts "timeouts" (.swap _ _ _) (.parts "batching" ?_ .nil)) (.swap _ _ _)
    exact .field "max_period_ms" [1000] .nil
  obtain ⟨hsame, -, herror⟩ := check_exact muddled muddledFound hlength hreordered
  have hcheck : muddled.check =
      .error (.invalidSetting "batching.max_period_ms" "must be >= 1000") := by decide +kernel
  exact ⟨hlength, hreordered, hsame.trans hcheck, (herror _).1 hcheck⟩

end Settings

end SensorBench
