import SensorBench.Proofs.Hal.InPlace
import SensorBench.Proofs.Hal.Numbers

/-!
# The tokens of direct reports

The table of channels holds at most one report for each channel and sensor. A turn ends
reports, or starts one with the next token; whatever else it does, reports keep their
tokens (`token_step`). So in every reachable state the tokens of all reports differ
(`liveReports_facts`), and two calls give the same token if and only if they are about
the same report, which has not ended in between (`tokens_identify_reports`).
-/

set_option autoImplicit false

namespace SensorBench.Hal

/-- The token of the report of a sensor. -/
def Channel.token? (c : Channel) (h : Handle) : Option Int := (c.report? h).map (·.token)

/-- The token of the report of a sensor on the channel with a number. -/
def token? (hal : Hal) (n : Int) (h : Handle) : Option Int := (hal.channel? n).bind (·.token? h)

/-- A report as the client knows it. -/
structure LiveReport where
  channel : Int
  sensor : Handle
  token : Int

/-- All reports of all channels. -/
def liveReports (hal : Hal) : List LiveReport :=
  hal.channels.flatMap fun p => p.2.reports.map fun q => ⟨p.1, q.1, q.2.token⟩

/-- The token that a turn gives to a new report. -/
def tokensIn (hal : Hal) (m : Turn) : List Int :=
  match m.input with
  | .call (.report h n rate) =>
    match hal.token? n h, hal.configReport m.time h n rate with
    | none, .ok (token, _) => if rate = .stop then [] else [token]
    | _, _ => []
  | _ => []

/-- The turn ends the report of a sensor on a channel: it removes the channel or stops the
report. -/
def Turn.Ends (n : Int) (h : Handle) (m : Turn) : Prop :=
  m.input = .call (.unregister n) ∨ m.input = .call (.report h n .stop)

/-! ## The reports of one channel -/

section Reports

variable {h k : Handle} {r : DirectReport} {reports : List (Handle × DirectReport)}

theorem lookup_setReport_of_ne (hne : h ≠ k) (r : DirectReport)
    (reports : List (Handle × DirectReport)) :
    (Channel.setReport k r reports).lookup h = reports.lookup h := by
  induction reports with
  | nil => exact lookup_cons_of_ne hne r []
  | cons p rest ih =>
    obtain ⟨j, q⟩ := p
    rw [Channel.setReport]
    split
    · next hkj =>
      subst hkj
      rw [lookup_cons_of_ne hne, lookup_cons_of_ne hne]
    · split
      · rw [lookup_cons_of_ne hne]
      · by_cases hj : h = j
        · subst hj
          rw [List.lookup_cons_self, List.lookup_cons_self]
        · rw [lookup_cons_of_ne hj, lookup_cons_of_ne hj, ih]

/-- Reports stay in the order of their sensors' handles. -/
theorem setReport_sorted (k : Handle) (r : DirectReport)
    (hsorted : (reports.map (·.1)).Pairwise (· < ·)) :
    ((Channel.setReport k r reports).map (·.1)).Pairwise (· < ·) := by
  induction reports with
  | nil => exact List.pairwise_singleton _ _
  | cons p rest ih =>
    obtain ⟨j, q⟩ := p
    obtain ⟨hfirst, hrest⟩ := List.pairwise_cons.1 hsorted
    rw [Channel.setReport]
    split
    · next hkj =>
      subst hkj
      exact hsorted
    · next hne =>
      split
      · next hlt =>
        refine List.pairwise_cons.2 ⟨fun i hi => ?_, hsorted⟩
        rcases List.mem_cons.1 hi with rfl | hi
        · exact hlt
        · exact Int.lt_trans hlt (hfirst i hi)
      · next hnlt =>
        refine List.pairwise_cons.2 ⟨fun i hi => ?_, ih hrest⟩
        obtain ⟨s, hs, rfl⟩ := List.mem_map.1 hi
        rcases mem_setReport hs with rfl | hs
        · exact Handle.lt_of_not_lt hne hnlt
        · exact hfirst _ (List.mem_map_of_mem hs)

theorem handles_reportsAdvance (now : Int) (signal : Signal)
    (reports : List (Handle × DirectReport)) :
    (Channel.reportsAdvance now signal reports).2.1.map (·.1) = reports.map (·.1) := by
  induction reports generalizing signal with
  | nil => rfl
  | cons p rest ih => simp only [Channel.reportsAdvance, List.map_cons, ih]

theorem lookup_reportsAdvance (now : Int) (signal : Signal)
    (reports : List (Handle × DirectReport)) (h : Handle) :
    ((Channel.reportsAdvance now signal reports).2.1.lookup h).map (·.token) =
      (reports.lookup h).map (·.token) := by
  induction reports generalizing signal with
  | nil => rfl
  | cons p rest ih =>
    obtain ⟨k, r⟩ := p
    simp only [Channel.reportsAdvance]
    by_cases hk : h = k
    · subst hk
      rw [List.lookup_cons_self, List.lookup_cons_self]
      rfl
    · rw [lookup_cons_of_ne hk, lookup_cons_of_ne hk]
      exact ih _

theorem Channel.token?_advance (c : Channel) (now : Int) (signal : Signal) (h : Handle) :
    (c.advance now signal).2.1.token? h = c.token? h := by
  rw [Channel.advance]
  split
  · rfl
  · exact lookup_reportsAdvance now signal c.reports h

theorem Channel.token?_setReport (c : Channel) (k : Handle) (r : DirectReport) (h : Handle) :
    Channel.token? { c with reports := setReport k r c.reports } h =
      if h = k then some r.token else c.token? h := by
  rw [token?, report?]
  split
  · next hk =>
    subst hk
    rw [lookup_setReport]
    rfl
  · next hk =>
    rw [lookup_setReport_of_ne hk]
    rfl

theorem Channel.token?_filter (c : Channel) (k h : Handle) :
    Channel.token? { c with reports := c.reports.filter (·.1 ≠ k) } h =
      if h = k then none else c.token? h := by
  rw [token?, report?]
  split
  · next hk =>
    subst hk
    rw [lookup_filter_self]
    rfl
  · next hk =>
    rw [lookup_filter_ne hk]
    rfl

end Reports

/-! ## What a turn does to tokens -/

section Steps

variable {hal next : Hal} {n : Int} {h : Handle} {c : Channel}

theorem token?_of_channel? (hc : hal.channel? n = some c) (h : Handle) :
    hal.token? n h = c.token? h := by
  rw [token?, hc]
  rfl

theorem token?_of_report? (hc : hal.channel? n = some c) {r? : Option DirectReport}
    (hreport : c.report? h = r?) : hal.token? n h = r?.map (·.token) := by
  rw [token?_of_channel? hc, Channel.token?, hreport]

/-- A report set on a channel is all that changes. -/
theorem token?_set (hc : hal.channel? n = some c) (r : DirectReport) (k : Int) (j : Handle) :
    (hal.setChannel n { c with reports := Channel.setReport h r c.reports }).token? k j =
      if k = n ∧ j = h then some r.token else hal.token? k j := by
  rw [token?, channel?_setChannel]
  by_cases hk : k = n
  · subst hk
    simp only [hc, Option.map_some, Option.bind_some, if_true, Channel.token?_setReport, true_and,
      token?_of_channel? hc]
  · simp [hk, token?]

theorem token?_set_self (hc : hal.channel? n = some c) (r : DirectReport) :
    (hal.setChannel n { c with reports := Channel.setReport h r c.reports }).token? n h =
      some r.token :=
  (token?_set hc r n h).trans (if_pos ⟨rfl, rfl⟩)

/-- A report taken from a channel is all that changes. -/
theorem token?_remove (hc : hal.channel? n = some c) (k : Int) (j : Handle) :
    (hal.setChannel n { c with reports := c.reports.filter (·.1 ≠ h) }).token? k j =
      if k = n ∧ j = h then none else hal.token? k j := by
  rw [token?, channel?_setChannel]
  by_cases hk : k = n
  · subst hk
    simp only [hc, Option.map_some, Option.bind_some, if_true, Channel.token?_filter, true_and,
      token?_of_channel? hc]
  · simp [hk, token?]

/-- What a turn does to the tokens of reports: it starts one report with the next token, or
each report keeps its token or is ended. -/
inductive TokenStep (hal : Hal) (m : Turn) (next : Hal) : Prop
  | kept : next.nextToken = hal.nextToken →
      (∀ n h, next.token? n h = hal.token? n h ∨ m.Ends n h ∧ next.token? n h = none) →
      TokenStep hal m next
  | started (n : Int) (h : Handle) (rate : Rate) : m.input = .call (.report h n rate) →
      rate ≠ .stop → hal.token? n h = none → next.token? n h = some hal.nextToken →
      next.nextToken = hal.nextToken + 1 →
      (∀ k j, ¬(k = n ∧ j = h) → next.token? k j = hal.token? k j) → TokenStep hal m next

/-- A turn does to tokens what is listed, and nothing else. -/
theorem token_step (b : Behaviour) (hal : Hal) (m : Turn) : TokenStep hal m (hal.step b m) := by
  have hstep := table_step b hal m
  generalize hal.step b m = next at hstep
  -- where the table of channels is the same, so are the tokens
  have hsame : next.channels = hal.channels → next.nextToken = hal.nextToken →
      TokenStep hal m next := fun hchannels hnext =>
    .kept hnext fun n h => Or.inl (by rw [token?, channel?, hchannels, token?, channel?])
  cases hstep with
  | kept _ _ hchannels _ hnext => exact hsame hchannels hnext
  | allocated region _ heq => exact hsame (by rw [heq]; rfl) (by rw [heq]; rfl)
  | wrote k offset bytes _ heq => exact hsame (by rw [heq]) (by rw [heq])
  | advanced _ heq =>
    subst heq
    refine .kept rfl fun n h => Or.inl ?_
    show ((advanceChannels m.time _ _ hal.channels).1.lookup n).bind _ = _
    rw [lookup_advanceChannels, token?, channel?]
    cases hal.channels.lookup n with
    | none => rfl
    | some c => exact c.token?_advance m.time _ h
  | registered kind size k _ _ heq =>
    subst heq
    refine .kept rfl fun n h => Or.inl ?_
    rw [token?, channel?, List.lookup_append, token?, channel?]
    cases hal.channels.lookup n with
    | some c => rfl
    | none =>
      -- a new channel has no reports
      rw [Option.none_or]
      by_cases hn : n = hal.nextChannel
      · rw [hn, List.lookup_cons_self]
        rfl
      · rw [lookup_cons_of_ne hn]
        rfl
  | unregistered i hi heq =>
    subst heq
    refine .kept rfl fun n h => ?_
    rw [token?, channel?]
    by_cases hn : n = i
    · subst hn
      refine Or.inr ⟨Or.inl hi, ?_⟩
      rw [lookup_filter_self]
      rfl
    · left
      rw [lookup_filter_ne hn, token?, channel?]
  | reported h n rate token hi _ hr =>
    cases hr with
    | stopped s c hs hc hrate =>
      refine .kept rfl fun k j => ?_
      rw [token?_remove hc]
      split
      · next hkj =>
        obtain ⟨rfl, rfl⟩ := hkj
        exact Or.inr ⟨Or.inr (by rw [hi, period?_eq_none.1 hrate]), rfl⟩
      · exact Or.inl rfl
    | retuned s c period r hs hc hrate hreport =>
      refine .kept rfl fun k j => Or.inl ?_
      rw [token?_set hc]
      split
      · next hkj =>
        obtain ⟨rfl, rfl⟩ := hkj
        exact (token?_of_report? hc hreport).symm
      · rfl
    | started s c period hs hc hrate hreport =>
      refine .started n h rate hi ?_ ?_ ?_ rfl fun k j hne => ?_
      · rintro rfl
        cases hrate
      · exact token?_of_report? hc hreport
      · exact token?_set_self hc _
      · exact (token?_set hc _ k j).trans (if_neg hne)

/-- The report of a known sensor is gone after a turn that ends it. -/
theorem token?_step_of_ends {s : Sampler} (hs : hal.sensor? h = some s) (b : Behaviour)
    {m : Turn} (hm : m.Ends n h) : (hal.step b m).token? n h = none := by
  obtain ⟨now, input⟩ := m
  rcases hm with hi | hi
  · cases hi
    rw [step_unregister, token?, channel?, lookup_filter_self]
    rfl
  · cases hi
    rw [step_call, perform, configReport, hs]
    cases hc : hal.channel? n with
    | none =>
      show hal.token? n h = none
      rw [token?, hc]
      rfl
    | some c => exact (token?_remove hc n h).trans (if_pos ⟨rfl, rfl⟩)

/-- An accepted call for a running rate replies with the token that the report has, or with
the next one if there is no report yet. -/
theorem reported_token {now token : Int} {rate : Rate}
    (hok : hal.configReport now h n rate = .ok (token, next)) (hrate : rate ≠ .stop) :
    next.token? n h = some token ∧
      (hal.token? n h = some token ∧ next.nextToken = hal.nextToken ∨
        hal.token? n h = none ∧ token = hal.nextToken ∧
          next.nextToken = hal.nextToken + 1) := by
  cases reported_of_ok hok with
  | stopped s c hs hc hstop => exact absurd (period?_eq_none.1 hstop) hrate
  | retuned s c period r hs hc _ hreport =>
    have hold : hal.token? n h = some r.token := token?_of_report? hc hreport
    exact ⟨token?_set_self hc _, Or.inl ⟨hold, rfl⟩⟩
  | started s c period hs hc _ hreport =>
    have hnone : hal.token? n h = none := token?_of_report? hc hreport
    exact ⟨token?_set_self hc _, Or.inr ⟨hnone, rfl, rfl⟩⟩

/-- Tokens are given out by their counter. -/
theorem tokens_counts (b : Behaviour) : Counts b (·.nextToken) tokensIn := by
  intro hal m
  by_cases hreport : ∃ n h rate, m.input = .call (.report h n rate) ∧ rate ≠ .stop
  · obtain ⟨n, h, rate, hi, hrate⟩ := hreport
    obtain ⟨now, input⟩ := m
    cases hi
    rw [step_call, perform, tokensIn]
    dsimp only
    cases hok : hal.configReport now h n rate with
    | error status => exact Or.inl ⟨by cases hal.token? n h <;> rfl, rfl⟩
    | ok reply =>
      obtain ⟨token, next⟩ := reply
      rcases (reported_token hok hrate).2 with ⟨hold, hsame⟩ | ⟨hnone, rfl, hnext⟩
      · rw [hold]
        exact Or.inl ⟨rfl, hsame⟩
      · rw [hnone]
        exact Or.inr ⟨if_neg hrate, hnext⟩
  · have hnone : hal.tokensIn m = [] := by
      rw [tokensIn]
      split
      · next h n rate hi =>
        split
        · by_cases hrate : rate = .stop
          · rw [if_pos hrate]
          · exact absurd ⟨n, h, rate, hi, hrate⟩ hreport
        · rfl
      · rfl
    -- only a call for a running rate starts a report
    cases token_step b hal m with
    | kept hsame => exact Or.inl ⟨hnone, hsame⟩
    | started n h rate hi hrate => exact absurd ⟨n, h, rate, hi, hrate⟩ hreport

end Steps

/-! ## Tokens in reachable states -/

/-- Every report has a token of its own, given out before. -/
structure TokensSound (hal : Hal) : Prop where
  positive : 0 < hal.nextToken
  given : ∀ n h t, hal.token? n h = some t → 0 < t ∧ t < hal.nextToken
  apart : ∀ n h k j t, hal.token? n h = some t → hal.token? k j = some t → n = k ∧ h = j

/-- A token was given out before, and no report has it any more. -/
structure Retired (hal : Hal) (t : Int) : Prop where
  given : t < hal.nextToken
  missing : ∀ n h, hal.token? n h ≠ some t

section Sound

variable {hal : Hal} {b : Behaviour} {m : Turn} {n t : Int} {h : Handle}

/-- A token that a report has after a turn it had before, or it is the next one. -/
theorem TokenStep.origin {next : Hal} (hstep : TokenStep hal m next)
    (ht : next.token? n h = some t) :
    hal.token? n h = some t ∨ t = hal.nextToken ∧ next.nextToken = hal.nextToken + 1 ∧
      ∀ k j, ¬(k = n ∧ j = h) → next.token? k j = hal.token? k j := by
  cases hstep with
  | kept _ hkept =>
    rcases hkept n h with hsame | ⟨-, hnone⟩
    · exact Or.inl (hsame ▸ ht)
    · rw [hnone] at ht
      cases ht
  | started k j rate _ _ _ hfresh hnext hothers =>
    by_cases hkj : n = k ∧ h = j
    · obtain ⟨rfl, rfl⟩ := hkj
      rw [hfresh] at ht
      exact Or.inr ⟨(Option.some.inj ht).symm, hnext, hothers⟩
    · rw [hothers n h hkj] at ht
      exact Or.inl ht

theorem TokensSound.step (hsound : hal.TokensSound) (b : Behaviour) (m : Turn) :
    (hal.step b m).TokensSound := by
  have hstep := token_step b hal m
  have hle := (tokens_counts b).le_step hal m
  have hpositive := hsound.positive
  refine ⟨Int.lt_of_lt_of_le hpositive hle, fun n h t ht => ?_, fun n h k j t ht ht' => ?_⟩
  · rcases hstep.origin ht with hold | ⟨rfl, hnext, -⟩
    · obtain ⟨hpos, hlt⟩ := hsound.given n h t hold
      exact ⟨hpos, Int.lt_of_lt_of_le hlt hle⟩
    · exact ⟨hpositive, by omega⟩
  · by_contra hne
    have hne' : ¬(k = n ∧ j = h) := fun e => hne ⟨e.1.symm, e.2.symm⟩
    -- an older token is below the next one, and two older ones were apart before
    rcases hstep.origin ht with hold | ⟨rfl, -, hothers⟩
    · rcases hstep.origin ht' with hold' | ⟨rfl, -, -⟩
      · exact hne (hsound.apart n h k j t hold hold')
      · exact Int.lt_irrefl _ (hsound.given n h _ hold).2
    · rw [hothers k j hne'] at ht'
      exact Int.lt_irrefl _ (hsound.given k j _ ht').2

theorem TokensSound.run (hsound : hal.TokensSound) (b : Behaviour) (ms : List Turn) :
    (hal.run b ms).TokensSound :=
  run_keeps (fun hal m (hs : hal.TokensSound) => hs.step b m) ms hsound

theorem ofCatalog_tokensSound (c : Catalog) (signal : Signal) :
    (ofCatalog c signal).TokensSound := by
  refine ⟨Int.zero_lt_one, fun n h t ht => ?_, fun n h k j t ht => ?_⟩
  · cases ht
  · cases ht

/-- A token that is retired stays away: only the next token is given out. -/
theorem Retired.step (hretired : hal.Retired t) (b : Behaviour) (m : Turn) :
    (hal.step b m).Retired t := by
  constructor
  · exact Int.lt_of_lt_of_le hretired.given ((tokens_counts b).le_step hal m)
  · intro n h ht
    rcases (token_step b hal m).origin ht with hold | ⟨rfl, -, -⟩
    · exact hretired.missing n h hold
    · exact Int.lt_irrefl _ hretired.given

/-- A report that has not been ended has its token still. -/
theorem token?_step_of_not_ends (ht : hal.token? n h = some t) (b : Behaviour)
    (hm : ¬m.Ends n h) : (hal.step b m).token? n h = some t := by
  cases token_step b hal m with
  | kept _ hkept =>
    rcases hkept n h with hsame | ⟨hends, -⟩
    · exact hsame.trans ht
    · exact absurd hends hm
  | started k j rate _ _ hnone _ _ hothers =>
    by_cases hkj : n = k ∧ h = j
    · obtain ⟨rfl, rfl⟩ := hkj
      rw [hnone] at ht
      cases ht
    · exact (hothers n h hkj).trans ht

/-- The turn that ends a report retires its token. -/
theorem retired_of_ends (hsound : hal.TokensSound) {s : Sampler} (hs : hal.sensor? h = some s)
    (ht : hal.token? n h = some t) (b : Behaviour) (hm : m.Ends n h) :
    (hal.step b m).Retired t := by
  have hlt := (hsound.given n h t ht).2
  constructor
  · exact Int.lt_of_lt_of_le hlt ((tokens_counts b).le_step hal m)
  · intro k j htoken
    rcases (token_step b hal m).origin htoken with hold | ⟨rfl, -, -⟩
    · obtain ⟨rfl, rfl⟩ := hsound.apart n h k j t ht hold
      rw [token?_step_of_ends hs b hm] at htoken
      cases htoken
    · exact Int.lt_irrefl _ hlt

/-- Sensors stay known. -/
theorem exists_sensor?_run (hs : ∃ s, hal.sensor? h = some s) (b : Behaviour) (ms : List Turn) :
    ∃ s, (hal.run b ms).sensor? h = some s := by
  refine run_keeps (P := fun hal => ∃ s, hal.sensor? h = some s) (fun hal m hs => ?_) ms hs
  obtain ⟨s, hs⟩ := hs
  obtain ⟨t, ht, -⟩ := change_step hs b m
  exact ⟨t, ht⟩

/-- A report keeps its token as long as no turn ends it; once one does, no report has the
token again. -/
theorem token?_run (hsound : hal.TokensSound) (hs : ∃ s, hal.sensor? h = some s)
    (ht : hal.token? n h = some t) (b : Behaviour) (ms : List Turn) :
    (∀ m ∈ ms, ¬m.Ends n h) ∧ (hal.run b ms).token? n h = some t ∨
      (∃ m ∈ ms, m.Ends n h) ∧ (hal.run b ms).Retired t := by
  induction ms using List.reverseRecOn with
  | nil => exact Or.inl ⟨fun m hm => absurd hm List.not_mem_nil, ht⟩
  | append_singleton before m ih =>
    rw [run_concat]
    -- the report is alive before the last turn, or its token is retired already
    rcases ih with ⟨hnone, hlive⟩ | ⟨⟨k, hk, hends⟩, hretired⟩
    · by_cases hm : m.Ends n h
      · obtain ⟨s, hknown⟩ := exists_sensor?_run hs b before
        refine Or.inr ⟨⟨m, List.mem_append_right before List.mem_cons_self, hm⟩, ?_⟩
        exact retired_of_ends (hsound.run b before) hknown hlive b hm
      · refine Or.inl ⟨fun k hk => ?_, token?_step_of_not_ends hlive b hm⟩
        rcases List.mem_append.1 hk with hk | hk
        · exact hnone k hk
        · exact List.mem_singleton.1 hk ▸ hm
    · exact Or.inr ⟨⟨k, List.mem_append_left [m] hk, hends⟩, hretired.step b m⟩

end Sound

/-! ## All reports -/

/-- Each channel has its reports in the order of their sensors' handles, each sensor once. -/
def Filed (hal : Hal) : Prop := ∀ p ∈ hal.channels, (p.2.reports.map (·.1)).Pairwise (· < ·)

section Reachable

variable {hal : Hal}

theorem Filed.setChannel (hfiled : hal.Filed) (n : Int) {c : Channel}
    (hc : (c.reports.map (·.1)).Pairwise (· < ·)) : (hal.setChannel n c).Filed := by
  intro p hp
  obtain ⟨q, hq, rfl⟩ := List.mem_map.1 hp
  dsimp only
  split
  · exact hc
  · exact hfiled q hq

theorem Filed.step (hfiled : hal.Filed) (b : Behaviour) (m : Turn) : (hal.step b m).Filed := by
  have hstep := table_step b hal m
  generalize hal.step b m = next at hstep
  cases hstep with
  | kept _ _ hchannels => exact fun p hp => hfiled p (hchannels ▸ hp)
  | allocated region _ heq =>
    subst heq
    exact hfiled
  | wrote k offset bytes _ heq =>
    subst heq
    exact hfiled
  | advanced _ heq =>
    subst heq
    intro p hp
    obtain ⟨q, hq, before, hadvance⟩ := mem_advanceChannels hp
    rw [hadvance, Channel.advance]
    split
    · exact hfiled q hq
    · dsimp only
      rw [handles_reportsAdvance]
      exact hfiled q hq
  | registered kind size k _ _ heq =>
    subst heq
    intro p hp
    rcases List.mem_append.1 hp with hp | hp
    · exact hfiled p hp
    · cases List.mem_singleton.1 hp
      exact List.Pairwise.nil
  | unregistered n _ heq =>
    subst heq
    exact fun p hp => hfiled p (List.mem_filter.1 hp).1
  | reported h n rate token _ _ hr =>
    cases hr with
    | stopped s c hs hc =>
      have hsub : ((c.reports.filter (·.1 ≠ h)).map (·.1)).Sublist (c.reports.map (·.1)) :=
        List.filter_sublist.map _
      exact hfiled.setChannel n ((hfiled _ (mem_of_channel? hc)).sublist hsub)
    | retuned s c period r hs hc =>
      exact hfiled.setChannel n (setReport_sorted h _ (hfiled _ (mem_of_channel? hc)))
    | started s c period hs hc =>
      exact hfiled.setChannel n (setReport_sorted h _ (hfiled _ (mem_of_channel? hc)))

/-- What keeps reports and their tokens apart. -/
structure ReportsSound (hal : Hal) : Prop where
  orderly : hal.Orderly
  filed : hal.Filed
  tokens : hal.TokensSound

theorem ReportsSound.step (h : hal.ReportsSound) (b : Behaviour) (m : Turn) :
    (hal.step b m).ReportsSound :=
  ⟨h.orderly.step b m, h.filed.step b m, h.tokens.step b m⟩

theorem ReportsSound.run (h : hal.ReportsSound) (b : Behaviour) (ms : List Turn) :
    (hal.run b ms).ReportsSound :=
  run_keeps (fun hal m (hs : hal.ReportsSound) => hs.step b m) ms h

theorem ofCatalog_reportsSound (c : Catalog) (signal : Signal) :
    (ofCatalog c signal).ReportsSound :=
  ⟨ofCatalog_orderly c signal, fun _ hp => absurd hp List.not_mem_nil,
    ofCatalog_tokensSound c signal⟩

theorem token?_of_mem (hsound : hal.ReportsSound) {r : LiveReport} (hr : r ∈ hal.liveReports) :
    hal.token? r.channel r.sensor = some r.token := by
  obtain ⟨p, hp, hr⟩ := List.mem_flatMap.1 hr
  obtain ⟨q, hq, rfl⟩ := List.mem_map.1 hr
  have hchannel : hal.channel? p.1 = some p.2 :=
    lookup_of_mem (hsound.orderly.channels.numbered.imp Int.ne_of_lt) hp
  have hreport : p.2.report? q.1 = some q.2 :=
    lookup_of_mem ((hsound.filed p hp).imp Handle.ne_of_lt) hq
  exact token?_of_report? hchannel hreport

/-- There is at most one report for each channel and sensor, and no two reports have the
same token. -/
theorem liveReports_facts (hsound : hal.ReportsSound) :
    (hal.liveReports.map fun r => (r.channel, r.sensor)).Nodup ∧
      (hal.liveReports.map (·.token)).Nodup ∧
      ∀ r ∈ hal.liveReports, 0 < r.token ∧ r.token < hal.nextToken := by
  have hkeys : (hal.liveReports.map fun r => (r.channel, r.sensor)).Nodup := by
    rw [liveReports, List.map_flatMap, List.nodup_flatMap]
    constructor
    · intro p hp
      have hhandles : (p.2.reports.map (·.1)).Nodup :=
        (hsound.filed p hp).imp Handle.ne_of_lt
      have hinjective : Function.Injective (Prod.mk p.1 : Handle → Int × Handle) :=
        fun i j e => (Prod.mk.inj e).2
      have hpairs := hhandles.map hinjective
      rw [List.map_map] at hpairs ⊢
      exact hpairs
    · -- keys of two channels differ in the channel
      apply (List.pairwise_map.1 hsound.orderly.channels.numbered).imp
      intro p q hlt x hx hx'
      obtain ⟨r, hr, rfl⟩ := List.mem_map.1 hx
      obtain ⟨s, hs, heq⟩ := List.mem_map.1 hx'
      obtain ⟨i, -, rfl⟩ := List.mem_map.1 hr
      obtain ⟨j, -, rfl⟩ := List.mem_map.1 hs
      have hchannel : q.1 = p.1 := (Prod.mk.inj heq).1
      omega
  refine ⟨hkeys, ?_, fun r hr => hsound.tokens.given _ _ _ (token?_of_mem hsound hr)⟩
  -- the token of a report gives its channel and sensor, and with them all of it
  apply List.Nodup.map_on _ (List.Nodup.of_map _ hkeys)
  intro r hr s hs htoken
  have hr' := token?_of_mem hsound hr
  have hs' := token?_of_mem hsound hs
  rw [← htoken] at hs'
  obtain ⟨hchannel, hsensor⟩ := hsound.tokens.apart _ _ _ _ _ hr' hs'
  cases r
  cases s
  simp_all

/-- An accepted call in place for a running rate. -/
theorem configReport_of_carryOut (hsound : hal.ReportsSound) {b : Behaviour} {now n token : Int}
    {h : Handle} {rate : Rate} {next : Hal}
    (hok : Command.carryOut b now (.report h n rate) hal = (.ok token, next)) :
    hal.configReport now h n rate = .ok (token, next) := by
  rw [carryOut_eq hsound.orderly, perform] at hok
  cases hreply : hal.configReport now h n rate with
  | error status =>
    rw [hreply, settled] at hok
    cases hok
  | ok reply =>
    rw [hreply, settled] at hok
    cases hok
    rfl

theorem step_of_configReport {now n token : Int} {h : Handle} {rate : Rate} {next : Hal}
    (hok : hal.configReport now h n rate = .ok (token, next)) (b : Behaviour) :
    hal.step b ⟨now, .call (.report h n rate)⟩ = next := by
  rw [step_call, perform, hok]
  rfl

/-- A later call for a running rate gives the token of an earlier one if and only if it is
about the same report and this has not ended in between. -/
theorem token_eq_iff (hsound : hal.ReportsSound) (b : Behaviour) {now later n k token token' : Int}
    {h j : Handle} {rate rate' : Rate} {next last : Hal} {mid : List Turn}
    (hok : hal.configReport now h n rate = .ok (token, next)) (hrate : rate ≠ .stop)
    (hok' : (next.run b mid).configReport later j k rate' = .ok (token', last))
    (hrate' : rate' ≠ .stop) :
    token' = token ↔ (k = n ∧ j = h) ∧ ∀ m ∈ mid, ¬m.Ends n h := by
  have hnext := step_of_configReport hok b
  have hsound' : next.ReportsSound := hnext ▸ hsound.step b _
  have hknown : ∃ s, next.sensor? h = some s := by
    have hs : ∃ s, hal.sensor? h = some s := by
      cases reported_of_ok hok with
      | stopped s c hs => exact ⟨s, hs⟩
      | retuned s c period r hs => exact ⟨s, hs⟩
      | started s c period hs => exact ⟨s, hs⟩
    exact hnext ▸ exists_sensor?_run hs b [_]
  obtain ⟨hlive, -⟩ := reported_token hok hrate
  obtain ⟨-, hreply⟩ := reported_token hok' hrate'
  rcases token?_run hsound'.tokens hknown hlive b mid with ⟨hnone, hstill⟩ | ⟨hends, hretired⟩
  · -- the report is still there under its token
    have hlt := ((hsound'.run b mid).tokens.given n h token hstill).2
    constructor
    · rintro rfl
      rcases hreply with ⟨hold, -⟩ | ⟨-, rfl, -⟩
      · exact ⟨(hsound'.run b mid).tokens.apart k j n h token' hold hstill, hnone⟩
      · exact absurd hlt (Int.lt_irrefl _)
    · rintro ⟨⟨rfl, rfl⟩, -⟩
      rcases hreply with ⟨hold, -⟩ | ⟨hmissing, -⟩
      · exact Option.some.inj (hold.symm.trans hstill)
      · rw [hmissing] at hstill
        cases hstill
  · obtain ⟨m, hm, hends⟩ := hends
    refine iff_of_false ?_ fun hsame => hsame.2 m hm hends
    -- a retired token is neither found with a report nor the next one
    rintro rfl
    rcases hreply with ⟨hold, -⟩ | ⟨-, rfl, -⟩
    · exact hretired.missing k j hold
    · exact Int.lt_irrefl _ hretired.given

end Reachable

/-- In every reachable state: no number of a channel was given out twice, and all of them are
positive; there is at most one report for each channel and sensor, and their tokens differ
and are below the next one. A call for a running rate, carried out in place, gives a positive
token, and a later one gives the same token if and only if it is about the same channel and
sensor, and neither was the report stopped in between nor the channel removed. Numbers and
tokens count registrations and starts, so that they fit wherever these counts do. -/
theorem tokens_identify_reports (catalog : Catalog) (signal : Signal) (b : Behaviour)
    (early : List Turn) :
    let start := ofCatalog catalog signal
    let hal := start.run b early
    let numbers := along b numbersIn start early
    let tokens := along b tokensIn start early
    (numbers.Nodup ∧ ∀ n ∈ numbers, 0 < n ∧ n ≤ numbers.length) ∧
      ((hal.liveReports.map fun r => (r.channel, r.sensor)).Nodup ∧
        (hal.liveReports.map (·.token)).Nodup ∧
        ∀ r ∈ hal.liveReports, 0 < r.token ∧ r.token < hal.nextToken) ∧
      hal.nextToken = 1 + tokens.length ∧
      ∀ now n h rate token next,
        Command.carryOut b now (.report h n rate) hal = (.ok token, next) → rate ≠ .stop →
        0 < token ∧ ∀ mid later k j rate' token' last,
          Command.carryOut b later (.report j k rate') (next.run b mid) = (.ok token', last) →
          rate' ≠ .stop →
          (token' = token ↔ (k = n ∧ j = h) ∧ ∀ m ∈ mid, ¬m.Ends n h) := by
  intro start hal numbers tokens
  have hsound : hal.ReportsSound := (ofCatalog_reportsSound catalog signal).run b early
  refine ⟨⟨(numbers_counts b).nodup start early, fun n hn => ?_⟩, liveReports_facts hsound,
    ((tokens_counts b).run start early).2, ?_⟩
  · -- the counter of channels starts with one
    have hbounds : 1 ≤ n ∧ n < hal.nextChannel := (numbers_counts b).bounds start early n hn
    have hnext : hal.nextChannel = 1 + numbers.length := ((numbers_counts b).run start early).2
    omega
  · intro now n h rate token next hcall hrate
    have hok := configReport_of_carryOut hsound hcall
    have hsound' : next.ReportsSound := step_of_configReport hok b ▸ hsound.step b _
    constructor
    · exact (hsound'.tokens.given n h token (reported_token hok hrate).1).1
    · intro mid later k j rate' token' last hcall' hrate'
      have hok' := configReport_of_carryOut (hsound'.run b mid) hcall'
      exact token_eq_iff hsound b hok hrate hok' hrate'

/-- Two channels over regions of their own. -/
def twoChannels : List Turn :=
  [⟨0, .allocate (Region.zero 104)⟩, ⟨0, .allocate (Region.zero 104)⟩,
    ⟨0, .call (.register .ashmem 104 0)⟩, ⟨0, .call (.register .ashmem 104 1)⟩]

/-- A report on the second channel. -/
def besideRun : List Turn := [⟨1, .call (.report barometer.handle 2 .normal)⟩]

/-- The same, and the report on the first channel stopped. -/
def stoppedRun : List Turn := besideRun ++ [⟨2, .call (.report barometer.handle 1 .stop)⟩]

theorem tokens_identify_reports_stopped :
    let hal := (ofCatalog [barometer] silence).run {} twoChannels
    let call := Call.report barometer.handle 1 .normal
    let first := Command.carryOut {} 0 call hal
    let kept := Command.carryOut {} 3 call (first.2.run {} besideRun)
    let anew := Command.carryOut {} 3 call (first.2.run {} stoppedRun)
    (first.1 = .ok 1 ∧ kept.1 = .ok 1 ∧ anew.1 = .ok 3) ∧
      (∀ m ∈ besideRun, ¬m.Ends 1 barometer.handle) ∧
      ∃ m ∈ stoppedRun, m.Ends 1 barometer.handle := by
  intro hal call first kept anew
  have hpair : ∀ (reply : Except Status Int × Hal) (v : Int), reply.1 = .ok v →
      reply = (.ok v, reply.2) := by
    intro reply v hv
    rw [← hv]
  have hfirst := hpair first 1 (by decide +kernel)
  have hkept := hpair kept 1 (by decide +kernel)
  have hanew := hpair anew 3 (by decide +kernel)
  have hrate : Rate.normal ≠ .stop := Rate.noConfusion
  obtain ⟨-, -, -, hcalls⟩ := tokens_identify_reports [barometer] silence {} twoChannels
  obtain ⟨-, hlater⟩ := hcalls 0 1 barometer.handle .normal 1 first.2 hfirst hrate
  have hsame := hlater besideRun 3 1 barometer.handle .normal 1 kept.2 hkept hrate
  have hother := hlater stoppedRun 3 1 barometer.handle .normal 3 anew.2 hanew hrate
  refine ⟨⟨congrArg Prod.fst hfirst, congrArg Prod.fst hkept, congrArg Prod.fst hanew⟩,
    (hsame.1 rfl).2, ?_⟩
  by_contra hnone
  -- were the report not ended, its token would still be the first
  have hthree : (3 : Int) = 1 :=
    hother.2 ⟨⟨rfl, rfl⟩, fun m hm hends => hnone ⟨m, hm, hends⟩⟩
  exact absurd hthree (by decide)

end SensorBench.Hal
