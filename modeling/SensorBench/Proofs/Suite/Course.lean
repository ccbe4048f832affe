import Mathlib.Data.List.TakeWhile
import SensorBench.Suite.Run

/-!
# The course of a run and its report

A run walks over all rows of a suite and decides at each one whether it is selected and, if
so, whether the flag was set by then; other threads may change the state as each row comes up.
`approach` gives the selected rows with the states in which they come up, and a run is the
part of that before the flag is found set (`walk_eq`). The report has one entry for each of
these rows, and its two ways of counting agree (`SuiteReport.consistent`).
-/

set_option autoImplicit false

namespace SensorBench

/-! ## Counts -/

namespace Stats

theorem Tally.count_bump (status other : String) (statuses : List (String × Nat)) :
    ((Tally.bump status statuses).lookup other).getD 0 =
      (statuses.lookup other).getD 0 + if status = other then 1 else 0 := by
  induction statuses with
  | nil =>
    by_cases h : status = other
    · simp [Tally.bump, h]
    · simp [Tally.bump, h, List.lookup_cons, beq_false_of_ne (Ne.symm h)]
  | cons p rest ih =>
    obtain ⟨s, n⟩ := p
    rw [Tally.bump]
    by_cases hs : s = status
    · subst hs
      rw [if_pos rfl, List.lookup_cons, List.lookup_cons]
      by_cases h : s = other
      · simp [h]
      · simp [h, beq_false_of_ne (Ne.symm h)]
    · rw [if_neg hs, List.lookup_cons, List.lookup_cons]
      by_cases h : other = s
      · subst h
        simp [Ne.symm hs]
      · rw [beq_false_of_ne h]
        exact ih

theorem Tally.count_add (t : Tally) (name status other : String) (duration : Float) :
    (t.add name status duration).count other =
      t.count other + if status = other then 1 else 0 :=
  Tally.count_bump status other t.statuses

theorem Running.count_push {α : Type} [Arithmetic α] (s : Running α) (value : α) :
    (s.push value).count = s.count + 1 := by
  rw [Running.push]
  split
  · next h => exact h.symm
  · rfl

end Stats

theorem Verdict.name_inj {v w : Verdict} : v.name = w.name ↔ v = w := by
  cases v <;> cases w <;> decide

namespace SuiteReport

/-- The tally of some entries on top of one. -/
def tallied (t : Stats.Tally) (entries : List Entry) : Stats.Tally :=
  entries.foldl (fun t e => t.add e.name e.verdict.name e.duration) t

theorem count_tallied (v : Verdict) (t : Stats.Tally) (entries : List Entry) :
    (tallied t entries).count v.name =
      t.count v.name + (entries.filter (·.verdict = v)).length := by
  induction entries generalizing t with
  | nil => rfl
  | cons e rest ih =>
    show (tallied (t.add _ _ _) rest).count v.name = _
    rw [ih, Stats.Tally.count_add]
    by_cases h : e.verdict = v
    · rw [List.filter_cons_of_pos (by simpa using h), if_pos (Verdict.name_inj.2 h),
        List.length_cons]
      omega
    · rw [List.filter_cons_of_neg (by simpa using h), if_neg (mt Verdict.name_inj.1 h)]
      omega

theorem durations_tallied (t : Stats.Tally) (entries : List Entry) :
    (tallied t entries).durations.count = t.durations.count + entries.length := by
  induction entries generalizing t with
  | nil => rfl
  | cons e rest ih =>
    show (tallied (t.add _ _ _) rest).durations.count = _
    rw [ih, List.length_cons]
    show (t.durations.push e.duration).count + _ = _
    rw [Stats.Running.count_push]
    omega

/-- The counts of a report agree with each other and with its summary, and it is a success
where nothing failed. -/
structure Consistent (r : SuiteReport) : Prop where
  all : r.passed + r.failed + r.skipped = r.entries.length
  total : r.summary.total = r.entries.length
  passed : r.summary.passed = r.passed
  failed : r.summary.failed = r.failed
  skipped : r.summary.skipped = r.skipped
  success : r.isSuccess = true ↔ r.failures = [] ∧ r.summary.failed = 0

theorem count_eq (r : SuiteReport) (v : Verdict) :
    (tallied .empty r.entries).count v.name = r.count v := by
  rw [count_tallied, count]
  exact Nat.zero_add _

theorem consistent (r : SuiteReport) : r.Consistent where
  all := by
    simp only [passed, failed, skipped, count]
    induction r.entries with
    | nil => rfl
    | cons e rest ih =>
      cases h : e.verdict <;> simp [h] <;> omega
  total := (durations_tallied .empty r.entries).trans (Nat.zero_add _)
  passed := count_eq r .passed
  failed := count_eq r .failed
  skipped := count_eq r .skipped
  success := by
    have hfailed : r.summary.failed = r.failed := count_eq r .failed
    rw [isSuccess, hfailed, decide_eq_true_iff]
    exact ⟨fun h => ⟨List.length_eq_zero_iff.1 h, h⟩, fun h => h.2⟩

end SuiteReport

/-! ## The course of a run -/

namespace Suite

variable {σ : Type}

/-- The names of the rows that a filter selects. -/
def selectedNames (f : Settings.Filter) (rows : List (Row σ)) : List String :=
  (rows.map (·.name)).filter f.selects

/-- The rows walked over in order: `meanwhile` is what other threads do to the state as a row
comes up, and the flag is looked for where a row is selected. -/
def walk (f : Settings.Filter) (cancel : σ → Bool) (clock : σ → Int) (meanwhile : Row σ → σ → σ)
    (s : σ) : List (Row σ) → (List (String × Ending × Int × Int) × Bool) × σ
  | [] => (([], false), s)
  | row :: rest =>
    let s := meanwhile row s
    if !f.selects row.name then walk f cancel clock meanwhile s rest
    else if cancel s then (([], true), s)
    else
      let start := clock s
      let (result, s) := row.act s
      let stop := clock s
      let ((entries, cancelled), s) := walk f cancel clock meanwhile s rest
      (((row.name, .ofResult result, start, stop) :: entries, cancelled), s)

/-- The report of a walk by a run that began at some time, and the last state. -/
def walked (f : Settings.Filter) (cancel : σ → Bool) (clock : σ → Int)
    (meanwhile : Row σ → σ → σ) (started : Moment) (start : Int) (s : σ) (rows : List (Row σ)) :
    SuiteReport × σ :=
  let ((entries, cancelled), s) := walk f cancel clock meanwhile s rows
  (⟨started, millis start (clock s), cancelled, entries.map entryOf⟩, s)

/-- The selected rows, each with the state in which it comes up if the run gets that far. -/
def approach (f : Settings.Filter) (meanwhile : Row σ → σ → σ) (s : σ) :
    List (Row σ) → List (Row σ × σ)
  | [] => []
  | row :: rest =>
    let s := meanwhile row s
    if f.selects row.name then (row, s) :: approach f meanwhile (row.act s).2 rest
    else approach f meanwhile s rest

/-- An entry tells how an act ended: a skip with its reason, an error or a panic as a failure
with its text. -/
def Tells (e : Entry) : Except Halt Outcome → Prop
  | .ok .passed => e.verdict = .passed ∧ e.message = none
  | .ok (.skipped reason) => e.verdict = .skipped ∧ e.message = some reason
  | .error (.violation v) => e.verdict = .failed ∧ e.message = some v.message
  | .error (.panic text) => e.verdict = .failed ∧ e.message = some ("panicked: " ++ text)

/-- What is kept of a row run from a state on. -/
def record (clock : σ → Int) : Row σ × σ → String × Ending × Int × Int
  | (row, s) => (row.name, .ofResult (row.act s).1, clock s, clock (row.act s).2)

theorem tells_entryOf (name : String) (result : Except Halt Outcome) (start stop : Int) :
    Tells (entryOf (name, .ofResult result, start, stop)) result := by
  cases result with
  | ok outcome => cases outcome <;> exact ⟨rfl, rfl⟩
  | error halt => cases halt <;> exact ⟨rfl, rfl⟩

theorem selectedNames_eq (f : Settings.Filter) (rows : List (Row σ)) :
    selectedNames f rows = (select f rows).map (·.name) :=
  List.filter_map

theorem approach_rows (f : Settings.Filter) (meanwhile : Row σ → σ → σ) (s : σ)
    (rows : List (Row σ)) : (approach f meanwhile s rows).map (·.1) = select f rows := by
  induction rows generalizing s with
  | nil => rfl
  | cons row rest ih =>
    rw [approach, select, List.filter_cons]
    split
    · exact congrArg (row :: ·) (ih _)
    · exact ih _

/-- A run is the part of its course before the flag is found set. -/
theorem walk_eq (f : Settings.Filter) (cancel : σ → Bool) (clock : σ → Int)
    (meanwhile : Row σ → σ → σ) (s : σ) (rows : List (Row σ)) :
    let course := approach f meanwhile s rows
    let run := course.takeWhile fun p => !cancel p.2
    (walk f cancel clock meanwhile s rows).1 =
      (run.map (record clock), decide (run.length < course.length)) := by
  induction rows generalizing s with
  | nil => rfl
  | cons row rest ih =>
    dsimp only at ih ⊢
    rw [walk, approach]
    dsimp only
    cases hsel : f.selects row.name with
    | false => exact ih _
    | true =>
      simp only [Bool.not_true, Bool.false_eq_true, if_false, if_true, List.takeWhile_cons]
      cases hc : cancel (meanwhile row s) with
      | true => simp
      | false => simp [ih, record]

/-- Where a list goes on after its first part, the next element ends that part. -/
theorem getElem?_length_takeWhile {α : Type} {p : α → Bool} {l : List α}
    (h : (l.takeWhile p).length < l.length) :
    ∃ a, l[(l.takeWhile p).length]? = some a ∧ p a = false := by
  induction l with
  | nil => exact absurd h (Nat.lt_irrefl 0)
  | cons a rest ih =>
    cases ha : p a with
    | true =>
      rw [List.takeWhile_cons_of_pos ha] at h ⊢
      exact ih (Nat.lt_of_succ_lt_succ h)
    | false =>
      rw [List.takeWhile_cons_of_neg (by simp [ha])]
      exact ⟨a, rfl, ha⟩

/-- Without other threads a walk is the run of the selected rows. -/
theorem walk_undisturbed (f : Settings.Filter) (cancel : σ → Bool) (clock : σ → Int) (s : σ)
    (rows : List (Row σ)) :
    walk f cancel clock (fun _ s => s) s rows = runRows cancel clock s (select f rows) := by
  induction rows generalizing s with
  | nil => rfl
  | cons row rest ih =>
    rw [walk, select, List.filter_cons]
    cases f.selects row.name with
    | false => exact ih s
    | true =>
      simp only [Bool.not_true, Bool.false_eq_true, if_false, if_true, runRows]
      split
      · rfl
      · rw [ih]
        rfl

theorem walked_undisturbed (f : Settings.Filter) (cancel : σ → Bool) (clock : σ → Int)
    (started : Moment) (start : Int) (s : σ) (rows : List (Row σ)) :
    walked f cancel clock (fun _ s => s) started start s rows =
      report cancel clock started start s (select f rows) := by
  rw [walked, walk_undisturbed, report]

section Runs

variable {host : Host σ} {settings : Settings} {rows : List (Row σ)} {cancel : σ → Bool}
  {clock : σ → Int} {started : Moment} {s connected t : σ} {n : Nat} {r : SuiteReport}

/-- A run whose session connects walks over its rows and gives a report. -/
theorem runWith_connected
    (h : host.ask (.connect settings.session.queueCapacity) s = (.ok (.ok n), connected)) :
    runWith host settings rows cancel clock started s =
      let (r, t) :=
        walked settings.filter cancel clock (fun _ s => s) started (clock s) connected rows
      (.ok r, t) := by
  rw [runWith]
  dsimp only
  rw [h, walked_undisturbed]

/-- A run gives a report if and only if its session connects. -/
theorem runWith_iff :
    runWith host settings rows cancel clock started s = (.ok r, t) ↔
      ∃ n connected,
        host.ask (.connect settings.session.queueCapacity) s = (.ok (.ok n), connected) ∧
          walked settings.filter cancel clock (fun _ s => s) started (clock s) connected rows =
            (r, t) := by
  constructor
  · intro h
    cases hconnect : host.ask (.connect settings.session.queueCapacity) s with
    | mk answer connected =>
      match answer with
      | .error halt =>
        rw [runWith, hconnect] at h
        cases h
      | .ok (.error status) =>
        rw [runWith, hconnect] at h
        cases h
      | .ok (.ok n) =>
        rw [runWith_connected hconnect] at h
        cases h
        exact ⟨n, connected, rfl, rfl⟩
  · rintro ⟨n, connected, hconnect, hwalk⟩
    rw [runWith_connected hconnect, hwalk]

end Runs

section Course

variable (f : Settings.Filter) (cancel : σ → Bool) (clock : σ → Int)
  (meanwhile : Row σ → σ → σ) (started : Moment) (start : Int) (s : σ) (rows : List (Row σ))

/-- The entries of a report are those of the rows before the flag was found set. -/
theorem entries_walked :
    (walked f cancel clock meanwhile started start s rows).1.entries =
      ((approach f meanwhile s rows).takeWhile fun p => !cancel p.2).map
        (entryOf ∘ record clock) := by
  have hwalk := congrArg Prod.fst (walk_eq f cancel clock meanwhile s rows)
  show (walk f cancel clock meanwhile s rows).1.1.map entryOf = _
  rw [hwalk, List.map_map]

theorem cancelled_walked :
    (walked f cancel clock meanwhile started start s rows).1.cancelled =
      decide (((approach f meanwhile s rows).takeWhile fun p => !cancel p.2).length <
        (approach f meanwhile s rows).length) :=
  congrArg Prod.snd (walk_eq f cancel clock meanwhile s rows)

end Course

/-- The rows of a suite walked over with any filter, any flag and anything that other threads
do in the meantime. The names in the report begin the selected names, and the run counts as
cancelled where some of these are left out. Each entry tells how its act ended, and the flag
was not set when the row came up; after a cancelled run it was set when the next selected row
came up. The counts of the report agree with each other and with its summary. A walk without
other threads is the run of the selected rows. A run gives a report if and only if its session
connects, and the report is that of a walk over its rows, from the state in which the session was
connected and timed from the state before; so it is for a run of all scenarios. -/
theorem walked_reported (f : Settings.Filter) (cancel : σ → Bool) (clock : σ → Int)
    (meanwhile : Row σ → σ → σ) (started : Moment) (start : Int) (s : σ) (rows : List (Row σ)) :
    let r := (walked f cancel clock meanwhile started start s rows).1
    let course := approach f meanwhile s rows
    course.map (·.1) = select f rows ∧
      r.entries.map (·.name) <+: selectedNames f rows ∧
      (r.cancelled = true ↔ r.entries.map (·.name) ≠ selectedNames f rows) ∧
      (∀ (i : Nat) (e : Entry), r.entries[i]? = some e →
        ∃ (row : Row σ) (before : σ), course[i]? = some (row, before) ∧
          cancel before = false ∧ e.name = row.name ∧ Tells e (row.act before).1) ∧
      (r.cancelled = true → ∃ (row : Row σ) (before : σ),
        course[r.entries.length]? = some (row, before) ∧ cancel before = true) ∧
      r.Consistent ∧
      walked f cancel clock (fun _ s => s) started start s rows =
        report cancel clock started start s (select f rows) ∧
      (∀ host settings report last,
        runWith host settings rows cancel clock started s = (.ok report, last) ↔
          ∃ n connected,
            host.ask (.connect settings.session.queueCapacity) s = (.ok (.ok n), connected) ∧
              walked settings.filter cancel clock (fun _ s => s) started (clock s) connected rows =
                (report, last)) ∧
      ∀ host settings report last,
        Suite.run host settings cancel clock started s = (.ok report, last) ↔
          ∃ n connected,
            host.ask (.connect settings.session.queueCapacity) s = (.ok (.ok n), connected) ∧
              walked settings.filter cancel clock (fun _ s => s) started (clock s) connected
                (Suite.rows host settings) = (report, last) := by
  intro r course
  have hentries : r.entries = (course.takeWhile fun p => !cancel p.2).map
      (entryOf ∘ record clock) := entries_walked f cancel clock meanwhile started start s rows
  have hcancelled : r.cancelled =
      decide ((course.takeWhile fun p => !cancel p.2).length < course.length) :=
    cancelled_walked f cancel clock meanwhile started start s rows
  have hrows : course.map (·.1) = select f rows := approach_rows f meanwhile s rows
  have hnames : r.entries.map (·.name) =
      (course.takeWhile fun p => !cancel p.2).map (·.1.name) := by
    rw [hentries, List.map_map]
    rfl
  have hselected : selectedNames f rows = course.map (·.1.name) := by
    rw [selectedNames_eq, ← hrows, List.map_map]
    rfl
  have hfront : (course.takeWhile fun p => !cancel p.2) <+: course := List.takeWhile_prefix _
  refine ⟨hrows, ?_, ?_, ?_, ?_, r.consistent,
    walked_undisturbed f cancel clock started start s rows, fun _ _ _ _ => runWith_iff,
    fun _ _ _ _ => runWith_iff⟩
  · rw [hnames, hselected]
    exact hfront.map _
  · rw [hcancelled, decide_eq_true_iff, hnames, hselected]
    constructor
    · intro hlt heq
      have hlength := congrArg List.length heq
      rw [List.length_map, List.length_map] at hlength
      omega
    · intro hne
      refine Nat.lt_of_le_of_ne hfront.length_le fun heq => hne ?_
      rw [hfront.eq_of_length heq]
  · intro i e he
    rw [hentries, List.getElem?_map, Option.map_eq_some_iff] at he
    obtain ⟨⟨row, before⟩, hp, rfl⟩ := he
    have hflag := List.mem_takeWhile_imp (List.mem_of_getElem? hp)
    obtain ⟨hi, hget⟩ := List.getElem?_eq_some_iff.1 hp
    have hplace := List.prefix_iff_getElem?.1 hfront i hi
    exact ⟨row, before, hget ▸ hplace, by simpa using hflag, rfl, tells_entryOf ..⟩
  · intro hc
    rw [hcancelled, decide_eq_true_iff] at hc
    obtain ⟨⟨row, before⟩, hnext, hflag⟩ := getElem?_length_takeWhile hc
    have hlength : r.entries.length = (course.takeWhile fun p => !cancel p.2).length := by
      rw [hentries, List.length_map]
    exact ⟨row, before, hlength ▸ hnext, by simpa using hflag⟩

/-- A run of three rows in which the second panics and sets the flag: both have their entries, the
third has none, and the report says so. -/
theorem walked_reported_halfway :
    let host : Host Nat := fun q s => match q with
      | .connect _ => (.ok (.ok 0), s)
      | _ => (.error "no answer", s)
    let rows : List (Row Nat) := [⟨"first", fun s => (.ok .passed, s + 1)⟩,
      ⟨"second", fun s => (.error (.panic "lost"), s + 1)⟩,
      ⟨"third", fun s => (.ok .passed, s + 1)⟩]
    ∃ r, runWith host {} rows (fun s => decide (2 ≤ s)) (fun _ => 0) (.since1970 0) 0 = (.ok r, 2) ∧
      r.cancelled = true ∧ r.entries.map (·.name) = ["first", "second"] ∧
      r.failures.map (·.message) = [some "panicked: lost"] ∧ r.Consistent := by
  intro host rows
  obtain ⟨-, -, hcancelled, -, -, hconsistent, -, hrun, -⟩ := walked_reported
    ({} : Settings).filter (fun s : Nat => decide (2 ≤ s)) (fun _ => 0) (fun _ s => s)
    (.since1970 0) 0 0 rows
  refine ⟨_, (hrun host {} _ 2).2 ⟨0, 0, rfl, rfl⟩, ?_, rfl, rfl, hconsistent⟩
  exact hcancelled.2 (by decide)

end Suite

end SensorBench
