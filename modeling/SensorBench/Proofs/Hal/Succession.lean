import SensorBench.Direct.Audit
import SensorBench.Proofs.Hal.Buffering
import SensorBench.Proofs.Hal.DirectChannel
import SensorBench.Proofs.Hal.Tokens
import SensorBench.Proofs.Hal.Words

/-!
# The records of one report in a row

What a channel brings is shared out among its reports (`recordsIn_eq_shares`), so that the
records of one report can be followed through a run, from its start with a token of its own
over every change of its rate (`Writing.run`). Two of them in a row have the report's token,
its sensor's type and rising times. Their counters go from one up to the greatest and then to
one again, while the audit of a report expects zero there: it passes all records in a row but
those two (`succession_audited`, `counter_starts_over`).
-/

set_option autoImplicit false

namespace SensorBench.Hal

open DirectReport (counterAfter nextCounter)

/-! ## The cycle of counters -/

/-- The number of counters that a report uses: all but zero. -/
def counterCycle : Nat := 4294967295

/-- Counters go round without zero. -/
theorem toNat_nextCounter_cycle (c : UInt32) :
    (nextCounter c).toNat = c.toNat % counterCycle + 1 := by
  have hlt : c.toNat < 4294967296 := c.toNat_lt
  by_cases hlast : c.toNat = counterCycle
  · obtain rfl : c = 4294967295 := UInt32.toNat_inj.1 hlast
    rfl
  · rw [counterCycle] at hlast ⊢
    rw [DirectReport.toNat_nextCounter (by omega), Nat.mod_eq_of_lt (by omega)]

/-- The counter of a record of a report is its place in the cycle. -/
theorem toNat_counterAfter_cycle (n : Nat) :
    (counterAfter 1 n).toNat = n % counterCycle + 1 := by
  induction n with
  | zero => rfl
  | succ n ih =>
    rw [DirectReport.counterAfter_add, counterAfter, counterAfter, toNat_nextCounter_cycle, ih,
      counterCycle]
    omega

/-- The next counter is one above, as the audit wants it, unless the cycle is at its end. -/
theorem counterAfter_succ_iff (n : Nat) :
    counterAfter 1 (n + 1) = counterAfter 1 n + 1 ↔ (n + 1) % counterCycle ≠ 0 := by
  rw [← UInt32.toNat_inj, UInt32.toNat_add, toNat_counterAfter_cycle, toNat_counterAfter_cycle,
    show (1 : UInt32).toNat = 1 from rfl, counterCycle]
  omega

/-- Type codes fit in the words of a record. -/
theorem toInt_ofInt_code (kind : SensorKind) : (Int32.ofInt kind.code).toInt = kind.code := by
  cases kind with
  | devicePrivate code => exact congrArg Int32.toInt (Int32.ofInt_toInt code)
  | _ => decide

/-! ## The share of a report -/

/-- The report of a sensor on the channel with a number. -/
def report? (hal : Hal) (n : Int) (h : Handle) : Option DirectReport :=
  (hal.channel? n).bind (·.report? h)

/-- The signal when the turn of the report of a sensor comes. -/
def reportSignalBefore (now : Int) (h : Handle) : Signal → List (Handle × DirectReport) → Signal
  | signal, [] => signal
  | signal, (k, r) :: rest =>
    if k = h then signal else reportSignalBefore now h (r.advance now signal).2.2 rest

/-- The records that the report of a sensor brings in a turn of its channel. -/
def Channel.share (c : Channel) (h : Handle) (m : Turn) (signal : Signal) : List Record :=
  match m.input, c.report? h with
  | .advance, some r =>
    if c.capacity = 0 then []
    else (r.advance m.time (reportSignalBefore m.time h signal c.reports)).1
  | _, _ => []

/-- The records that a turn brings for the report of a sensor on the channel with a number. -/
def shareIn (b : Behaviour) (n : Int) (h : Handle) (hal : Hal) (m : Turn) : List Record :=
  match hal.channel? n with
  | some c => c.share h m (hal.channelSignal b m.time n)
  | none => []

/-- The records that a turn brings for the report with a token. -/
def recordsOf (b : Behaviour) (n : Int) (h : Handle) (token : Int) (hal : Hal) (m : Turn) :
    List Record :=
  if hal.token? n h = some token then hal.shareIn b n h m else []

section Shares

variable {hal : Hal} {b : Behaviour} {m : Turn} {n token : Int} {h : Handle} {c : Channel}
  {r : DirectReport}

theorem token?_eq_map_report? (hal : Hal) (n : Int) (h : Handle) :
    hal.token? n h = (hal.report? n h).map (·.token) := by
  rw [token?, report?]
  cases hal.channel? n <;> rfl

theorem report?_of_channel? (hc : hal.channel? n = some c) (h : Handle) :
    hal.report? n h = c.report? h := by
  rw [report?, hc, Option.bind_some]

theorem Channel.share_of_ne_advance (hm : m.input ≠ .advance) (signal : Signal) :
    c.share h m signal = [] := by
  rw [Channel.share]
  split
  · next hi _ => exact absurd hi hm
  · rfl

theorem shareIn_of_ne_advance (hm : m.input ≠ .advance) (b : Behaviour) (n : Int) (h : Handle)
    (hal : Hal) : hal.shareIn b n h m = [] := by
  rw [shareIn]
  split
  · exact Channel.share_of_ne_advance hm _
  · rfl

theorem Channel.share_of_no_slots (hslots : c.capacity = 0) (h : Handle) (m : Turn)
    (signal : Signal) : c.share h m signal = [] := by
  rw [share]
  split
  · exact if_pos hslots
  · rfl

theorem Channel.share_of_report? (hr : c.report? h = some r) (hslots : c.capacity ≠ 0)
    (hm : m.input = .advance) (signal : Signal) :
    c.share h m signal = (r.advance m.time (reportSignalBefore m.time h signal c.reports)).1 := by
  rw [share, hm, hr]
  exact if_neg hslots

/-- Up to a clock value a report brings as many records as times were due. -/
theorem length_recordsOf (hc : hal.channel? n = some c) (hr : c.report? h = some r)
    (hslots : c.capacity ≠ 0) (b : Behaviour) (now : Int) :
    (hal.recordsOf b n h r.token ⟨now, .advance⟩).length = dueCount r.nextDue r.period now := by
  have htoken : hal.token? n h = some r.token := token?_of_report? hc hr
  rw [recordsOf, if_pos htoken, shareIn, hc]
  dsimp only
  rw [Channel.share_of_report? hr hslots rfl, ← length_dueTimes]
  exact DirectReport.length_recordsAt r _ (Signal.length_payloads _ _ _)

/-- Each report is brought up to the clock with the signal of its turn. -/
theorem lookup_reportsAdvance_eq (now : Int) (signal : Signal)
    (reports : List (Handle × DirectReport)) (h : Handle) :
    (Channel.reportsAdvance now signal reports).2.1.lookup h =
      (reports.lookup h).map fun r =>
        (r.advance now (reportSignalBefore now h signal reports)).2.1 := by
  induction reports generalizing signal with
  | nil => rfl
  | cons p rest ih =>
    obtain ⟨k, r⟩ := p
    simp only [Channel.reportsAdvance, reportSignalBefore]
    by_cases hk : h = k
    · subst hk
      rw [List.lookup_cons_self, List.lookup_cons_self, if_pos rfl, Option.map_some]
    · rw [lookup_cons_of_ne hk, lookup_cons_of_ne hk, if_neg (Ne.symm hk)]
      exact ih _

/-- What several reports bring is what each of them brings. -/
theorem reportsAdvance_eq_flatMap (now : Int) (signal : Signal)
    {reports : List (Handle × DirectReport)} (hapart : (reports.map (·.1)).Nodup) :
    (Channel.reportsAdvance now signal reports).1 = reports.flatMap fun p =>
      (p.2.advance now (reportSignalBefore now p.1 signal reports)).1 := by
  induction reports generalizing signal with
  | nil => rfl
  | cons p rest ih =>
    obtain ⟨k, r⟩ := p
    obtain ⟨hk, hrest⟩ := List.nodup_cons.1 hapart
    rw [Channel.reportsAdvance, List.flatMap_cons, reportSignalBefore, if_pos rfl]
    refine congrArg ((r.advance now signal).1 ++ ·) ((ih _ hrest).trans ?_)
    apply List.flatMap_congr
    intro q hq
    have hne : k ≠ q.1 := by
      rintro rfl
      exact hk (List.mem_map.2 ⟨q, hq, rfl⟩)
    rw [reportSignalBefore, if_neg hne]

/-- What a turn brings into a channel is shared out among the channel's reports. -/
theorem recordsIn_eq_shares (hsound : hal.ReportsSound) (hc : hal.channel? n = some c)
    (b : Behaviour) (m : Turn) :
    hal.recordsIn b n m = c.reports.flatMap fun p => hal.recordsOf b n p.1 p.2.token m := by
  have hapart : (c.reports.map (·.1)).Nodup :=
    (hsound.filed _ (mem_of_channel? hc)).imp Handle.ne_of_lt
  have hshare : ∀ p ∈ c.reports, hal.recordsOf b n p.1 p.2.token m =
      c.share p.1 m (hal.channelSignal b m.time n) := by
    intro p hp
    have hreport : c.report? p.1 = some p.2 := lookup_of_mem hapart hp
    have htoken : hal.token? n p.1 = some p.2.token := token?_of_report? hc hreport
    rw [recordsOf, if_pos htoken, shareIn, hc]
  rw [List.flatMap_congr hshare, recordsIn_of_channel? hc]
  have hempty : (∀ h, c.share h m (hal.channelSignal b m.time n) = []) →
      c.brought m (hal.channelSignal b m.time n) = [] →
      c.brought m (hal.channelSignal b m.time n) =
        c.reports.flatMap fun p => c.share p.1 m (hal.channelSignal b m.time n) := by
    intro hshares hbrought
    rw [hbrought]
    exact (List.flatMap_eq_nil_iff.2 fun p _ => hshares p.1).symm
  by_cases hm : m.input = .advance
  · by_cases hslots : c.capacity = 0
    · refine hempty (fun h => Channel.share_of_no_slots hslots h m _) ?_
      rw [Channel.brought, hm, Channel.advance]
      exact congrArg Prod.fst (if_pos hslots)
    · rw [Channel.brought, hm, Channel.advance, if_neg hslots]
      refine (reportsAdvance_eq_flatMap m.time _ hapart).trans (List.flatMap_congr fun p hp => ?_)
      exact (Channel.share_of_report? (lookup_of_mem hapart hp) hslots hm _).symm
  · exact hempty (fun h => Channel.share_of_ne_advance hm _) (Channel.brought_of_ne_advance hm _)

end Shares

/-! ## What a turn does to a report -/

/-- How a report that is there after a turn came about: from the report that was there
before, if any, and with the records that the turn brought for it. -/
inductive Origin (hal : Hal) (m : Turn) (h : Handle) :
    Option DirectReport → List Record → DirectReport → Prop
  | kept (r : DirectReport) : Origin hal m h (some r) [] r
  | retuned (r : DirectReport) (period : Int) : 0 < period →
      Origin hal m h (some r) [] { r with period }
  | started (s : Sampler) (period : Int) : hal.sensor? h = some s → 0 < period →
      Origin hal m h none [] ⟨hal.nextToken, s.descriptor.kind, period, m.time + period, 1⟩
  | advanced (r : DirectReport) (signal : Signal) :
      Origin hal m h (some r) (r.advance m.time signal).1 (r.advance m.time signal).2.1

section Origin

variable {hal : Hal} {b : Behaviour} {m : Turn} {n : Int} {h : Handle} {c d : Channel}
  {r : DirectReport}

/-- A channel that was not there before a turn has no reports after it. -/
theorem reports_of_channel?_eq_none (hnone : hal.channel? n = none)
    (hd : (hal.step b m).channel? n = some d) : d.reports = [] := by
  have hlookup : hal.channels.lookup n = none := hnone
  have hstep := table_step b hal m
  generalize hal.step b m = next at hstep hd
  -- where no channel is added, there is still none
  have habsent : next.channels.lookup n = none → d.reports = [] := fun hno => by
    rw [channel?, hno] at hd
    cases hd
  cases hstep with
  | kept _ _ hchannels => exact habsent (hchannels ▸ hlookup)
  | allocated region _ heq =>
    subst heq
    exact habsent hlookup
  | wrote k offset bytes _ heq =>
    subst heq
    exact habsent hlookup
  | advanced _ heq =>
    subst heq
    refine habsent ((lookup_advanceChannels m.time _ _ _ n).trans ?_)
    rw [hlookup, Option.map_none]
  | registered kind size k _ _ heq =>
    subst heq
    rw [channel?, List.lookup_append, hlookup, Option.none_or] at hd
    obtain ⟨-, rfl⟩ := Prod.mk.inj (List.mem_singleton.1 (mem_of_lookup hd))
    rfl
  | unregistered i _ heq =>
    subst heq
    apply habsent
    by_cases hi : n = i
    · subst hi
      exact lookup_filter_self n _
    · exact (lookup_filter_ne hi _).trans hlookup
  | reported k i rate token _ _ hr =>
    by_cases hi : n = i
    · subst hi
      cases hr with
      | stopped s c hs hc | retuned s c period r hs hc | started s c period hs hc =>
        rw [hnone] at hc
        cases hc
    · exact habsent ((hr.facts.2.2.2 n hi).trans hnone)

/-- A report that is set on a channel leaves those of other sensors as they are. -/
theorem Origin.of_setReport {k : Handle} {q : DirectReport} {shares : List Record}
    (hshares : shares = [])
    (hsame : h = k → Origin hal m h (c.report? h) [] q)
    (hr : Channel.report? { c with reports := Channel.setReport k q c.reports } h = some r) :
    Origin hal m h (c.report? h) shares r := by
  subst hshares
  rw [Channel.report?] at hr
  by_cases hk : h = k
  · subst hk
    rw [lookup_setReport] at hr
    exact Option.some.inj hr ▸ hsame rfl
  · rw [lookup_setReport_of_ne hk] at hr
    rw [show c.report? h = some r from hr]
    exact .kept r

/-- A report after a turn came about in one of the ways that are listed. -/
theorem origin (hr : (hal.step b m).report? n h = some r) :
    Origin hal m h (hal.report? n h) (hal.shareIn b n h m) r := by
  obtain ⟨d, hd, hr⟩ := Option.bind_eq_some_iff.1 hr
  cases hc : hal.channel? n with
  | none =>
    rw [Channel.report?, reports_of_channel?_eq_none hc hd] at hr
    cases hr
  | some c =>
    have hquiet := fun hm : m.input ≠ .advance => shareIn_of_ne_advance hm b n h hal
    rw [report?_of_channel? hc]
    rcases change_channel hc b m with hremoved | ⟨e, he, hchange⟩
    · obtain ⟨now, input⟩ := m
      cases hremoved
      rw [step_unregister, channel?, lookup_filter_self] at hd
      cases hd
    cases he.symm.trans hd
    generalize hal.repliesIn n m = replies at hchange
    cases hchange with
    | passed hm =>
      rw [hr, hquiet hm]
      exact .kept r
    | stopped k rate hi =>
      have hne : h ≠ k := by
        rintro rfl
        rw [Channel.report?, lookup_filter_self] at hr
        cases hr
      rw [Channel.report?, lookup_filter_ne hne] at hr
      rw [hquiet (by rw [hi]; exact Input.noConfusion), show c.report? h = some r from hr]
      exact .kept r
    | retuned k rate period q hi hrate hreport =>
      refine .of_setReport (hquiet (by rw [hi]; exact Input.noConfusion)) (fun hk => ?_) hr
      rw [hk, hreport]
      exact .retuned q period (period?_pos hrate)
    | started k rate period s hi hrate hs hreport =>
      refine .of_setReport (hquiet (by rw [hi]; exact Input.noConfusion)) (fun hk => ?_) hr
      rw [hk, hreport]
      exact .started s period hs (period?_pos hrate)
    | advanced hm =>
      rw [shareIn, hc]
      dsimp only
      by_cases hslots : c.capacity = 0
      · rw [Channel.advance, if_pos hslots] at hr
        rw [Channel.share_of_no_slots hslots, show c.report? h = some r from hr]
        exact .kept r
      · rw [Channel.advance, if_neg hslots, Channel.report?, lookup_reportsAdvance_eq] at hr
        obtain ⟨q, hq, rfl⟩ := Option.map_eq_some_iff.1 hr
        rw [Channel.share_of_report? hq hslots hm, show c.report? h = some q from hq]
        exact .advanced q _

/-- What a turn brings for a report are records of it up to the clock. -/
theorem shareIn_cases (hal : Hal) (b : Behaviour) (n : Int) (h : Handle) (m : Turn) :
    hal.shareIn b n h m = [] ∨ ∃ r signal, hal.report? n h = some r ∧
      hal.shareIn b n h m = (r.advance m.time signal).1 := by
  cases hc : hal.channel? n with
  | none => exact Or.inl (by rw [shareIn, hc])
  | some c =>
    rw [report?_of_channel? hc, shareIn, hc]
    dsimp only
    by_cases hm : m.input = .advance
    · cases hr : c.report? h with
      | none => exact Or.inl (by rw [Channel.share, hm, hr])
      | some r =>
        by_cases hslots : c.capacity = 0
        · exact Or.inl (Channel.share_of_no_slots hslots h m _)
        · exact Or.inr ⟨r, _, rfl, Channel.share_of_report? hr hslots hm _⟩
    · exact Or.inl (Channel.share_of_ne_advance hm _)

end Origin

/-! ## The records of a report so far -/

/-- The records that a report with a token has brought so far: all are built from its token
and from its sensor's kind, numbered from one, and their times rise. -/
structure Written (token : Int) (d? : Option Descriptor) (records : List Record) : Prop where
  known : records ≠ [] → ∃ d, d? = some d
  built : ∀ d, d? = some d → Built token d.kind records
  rising : records.Pairwise fun x y => x.time.toInt < y.time.toInt

/-- A report goes on from the records that it has brought. -/
structure GoesOn (token : Int) (d? : Option Descriptor) (records : List Record)
    (r : DirectReport) : Prop where
  token : r.token = token
  kind : d?.map (·.kind) = some r.kind
  period : 0 < r.period
  due : leastTime ≤ r.nextDue
  counter : r.counter = counterAfter 1 records.length
  later : ∀ x ∈ records, x.time.toInt < r.nextDue

/-- What is kept of a report and its records along a run; a token that is not given out yet
has brought none. -/
structure Writing (hal : Hal) (n : Int) (h : Handle) (token : Int) (d? : Option Descriptor)
    (records : List Record) : Prop where
  sound : hal.ReportsSound
  sensor : (hal.sensor? h).map (·.descriptor) = d?
  fresh : hal.nextToken ≤ token → records = []
  written : Written token d? records
  goesOn : ∀ r, hal.report? n h = some r → r.token = token → GoesOn token d? records r

/-- The records of a report carry the times at which they were due. -/
theorem times_recordsAt (r : DirectReport) (counter : UInt32) {times : List Int}
    {payloads : List Payload} (hlength : payloads.length = times.length)
    (hfits : ∀ t ∈ times, FitsWord t) :
    (r.recordsAt counter times payloads).map (·.time.toInt) = times := by
  induction times generalizing counter payloads with
  | nil => rfl
  | cons t times ih =>
    cases payloads with
    | nil => cases hlength
    | cons p payloads =>
      rw [DirectReport.recordsAt, List.map_cons,
        ih _ (Nat.succ.inj hlength) fun u hu => hfits u (List.mem_cons_of_mem t hu)]
      exact congrArg (· :: times) (toInt_ofInt (hfits t List.mem_cons_self))

section Writing

variable {hal : Hal} {b : Behaviour} {n token : Int} {h : Handle} {d? : Option Descriptor}
  {records : List Record} {r : DirectReport}

/-- What a report brings up to the clock goes on where its records end. -/
theorem GoesOn.advance (hr : GoesOn token d? records r) (hw : Written token d? records)
    {now : Int} (hnow : FitsWord now) (signal : Signal) :
    Written token d? (records ++ (r.advance now signal).1) ∧
      GoesOn token d? (records ++ (r.advance now signal).1) (r.advance now signal).2.1 := by
  have hmore : (r.advance now signal).1.map (·.time.toInt) = dueTimes r.nextDue r.period now := by
    refine times_recordsAt r r.counter (Signal.length_payloads _ _ _) fun t ht => ?_
    obtain ⟨hfrom, hto⟩ := le_of_mem_dueTimes hr.period ht
    exact ⟨Int.le_trans hr.due hfrom, Int.le_trans hto hnow.2⟩
  have hmem : ∀ x ∈ (r.advance now signal).1,
      x.time.toInt ∈ dueTimes r.nextDue r.period now :=
    fun x hx => hmore ▸ List.mem_map.2 ⟨x, hx, rfl⟩
  obtain ⟨-, -, hcounter⟩ := r.advance_facts now signal
  refine ⟨⟨fun _ => ?_, fun d hd => ?_, ?_⟩, hr.token, hr.kind, hr.period, ?_, ?_, fun x hx => ?_⟩
  · obtain ⟨d, hd, -⟩ := Option.map_eq_some_iff.1 hr.kind
    exact ⟨d, hd⟩
  · have hkind : d.kind = r.kind := by
      have hmap := hr.kind
      rw [hd] at hmap
      exact Option.some.inj hmap
    refine (hw.built d hd).append fun i x hx => ?_
    obtain ⟨t, p, -, -, rfl⟩ := DirectReport.recordsAt_spec r hx
    exact ⟨t, p.values, by rw [hr.token, hkind, hr.counter, DirectReport.counterAfter_add]⟩
  · refine List.pairwise_append.2 ⟨hw.rising, ?_, fun x hx y hy => ?_⟩
    · have hspaced := timesFrom_spaced hr.period r.nextDue (dueCount r.nextDue r.period now)
      rw [← dueTimes, ← hmore, List.pairwise_map] at hspaced
      have hperiod := hr.period
      exact hspaced.imp fun hle => by omega
    · have hlt := hr.later x hx
      have hle := (le_of_mem_dueTimes hr.period (hmem y hy)).1
      omega
  · exact Int.le_trans hr.due (le_dueAfter hr.period r.nextDue now)
  · rw [hcounter, hr.counter, ← DirectReport.counterAfter_add, List.length_append]
  · show x.time.toInt < dueAfter r.nextDue r.period now
    rcases List.mem_append.1 hx with hx | hx
    · exact Int.lt_of_lt_of_le (hr.later x hx) (le_dueAfter hr.period r.nextDue now)
    · have hle := dueTimes_before_dueAfter hr.period (hmem x hx)
      have hperiod := hr.period
      omega

/-- A report that starts has no records to go on from. -/
theorem GoesOn.start {s : Sampler} (hs : (hal.sensor? h).map (·.descriptor) = d?)
    (hsensor : hal.sensor? h = some s) {now period : Int} (hnow : FitsWord now)
    (hperiod : 0 < period) :
    GoesOn hal.nextToken d? [] ⟨hal.nextToken, s.descriptor.kind, period, now + period, 1⟩ := by
  refine ⟨rfl, ?_, hperiod, ?_, rfl, fun x hx => absurd hx List.not_mem_nil⟩
  · rw [← hs, hsensor]
    rfl
  · have hleast := hnow.1
    show leastTime ≤ now + period
    omega

/-- A turn adds to the records of a report what it brings for it. -/
theorem Writing.step (hw : hal.Writing n h token d? records) (b : Behaviour) {m : Turn}
    (hm : FitsWord m.time) :
    (hal.step b m).Writing n h token d? (records ++ hal.recordsOf b n h token m) := by
  have hlive : ∀ r, hal.report? n h = some r →
      (hal.token? n h = some token ↔ r.token = token) := fun r hr => by
    rw [token?_eq_map_report?, hr, Option.map_some, Option.some.injEq]
  refine ⟨hw.sound.step b m, (descriptor_step hal b m h).trans hw.sensor, fun hle => ?_, ?_,
    fun r hr htoken => ?_⟩
  · -- a token that is still to be given out no report has
    have hle' := Int.le_trans ((tokens_counts b).le_step hal m) hle
    have hnot : hal.token? n h ≠ some token := fun ht =>
      absurd (hw.sound.tokens.given n h token ht).2 (Int.not_lt.2 hle')
    rw [hw.fresh hle', recordsOf, if_neg hnot, List.append_nil]
  · rw [recordsOf]
    split
    · next ht =>
      rcases shareIn_cases hal b n h m with hnil | ⟨r, signal, hr, hshare⟩
      · rw [hnil, List.append_nil]
        exact hw.written
      · rw [hshare]
        exact ((hw.goesOn r hr ((hlive r hr).1 ht)).advance hw.written hm signal).1
    · rw [List.append_nil]
      exact hw.written
  · have horigin := origin hr
    generalize hbefore : hal.report? n h = before at horigin
    generalize hshare : hal.shareIn b n h m = shares at horigin
    rw [recordsOf, hshare]
    cases horigin with
    | kept =>
      rw [ite_self, List.append_nil]
      exact hw.goesOn r hbefore htoken
    | retuned q period hperiod =>
      have hq := hw.goesOn q hbefore htoken
      rw [ite_self, List.append_nil]
      exact ⟨hq.token, hq.kind, hperiod, hq.due, hq.counter, hq.later⟩
    | started s period hs hperiod =>
      obtain rfl : hal.nextToken = token := htoken
      rw [ite_self, List.append_nil, hw.fresh (Int.le_refl _)]
      exact GoesOn.start hw.sensor hs hm hperiod
    | advanced q signal =>
      have hq : q.token = token := htoken
      rw [if_pos ((hlive q hbefore).2 hq)]
      exact ((hw.goesOn q hbefore hq).advance hw.written hm signal).2

/-- A run adds to the records of a report what its turns bring for it. -/
theorem Writing.run (hw : hal.Writing n h token d? records) (b : Behaviour) {ms : List Turn}
    (hms : ∀ m ∈ ms, FitsWord m.time) :
    (hal.run b ms).Writing n h token d? (records ++ along b (recordsOf b n h token) hal ms) := by
  induction ms generalizing hal records with
  | nil =>
    rw [along_nil, List.append_nil]
    exact hw
  | cons m rest ih =>
    obtain ⟨hm, hrest⟩ := List.forall_mem_cons.1 hms
    have hlater := ih (hw.step b hm) hrest
    rw [List.append_assoc] at hlater
    exact hlater

theorem ofCatalog_writing (c : Catalog) (signal : Signal) (n : Int) (h : Handle) (token : Int) :
    (ofCatalog c signal).Writing n h token
      (((ofCatalog c signal).sensor? h).map (·.descriptor)) [] :=
  ⟨ofCatalog_reportsSound c signal, rfl, fun _ => rfl,
    ⟨fun hne => absurd rfl hne, fun _ _ _ _ => nofun, List.Pairwise.nil⟩, fun _ => nofun⟩

end Writing

/-! ## Two records in a row -/

/-- What holds of two records in a row that the report with a token brings for a sensor, the
first of them behind `k` others. Behind the first the audit has nothing to say of the second,
unless the cycle of counters starts over in between. -/
structure InARow (d : Descriptor) (token : Int) (k : Nat) (x y : Record) : Prop where
  tokens : x.token = Int32.ofInt token ∧ y.token = Int32.ofInt token
  kinds : x.kindCode.toInt = d.kind.code ∧ y.kindCode.toInt = d.kind.code
  rising : x.time.toInt < y.time.toInt
  counters : x.counter.toNat = k % counterCycle + 1 ∧ y.counter.toNat = (k + 1) % counterCycle + 1
  audited : ∀ (rate : Rate) (objection? : List Float32 → Option String) (index : Nat),
    objection? y.values = none →
      Direct.recordFault? ⟨d, (Int32.ofInt token).toInt, rate⟩ objection? index (some x) y =
        if (k + 1) % counterCycle = 0 then
          some (.directRecord d.handle index "counter 1 after 4294967295")
        else none

/-- Where token, type, time and sample are in order, the audit looks at the counters only. -/
theorem recordFault?_of_counters {report : Direct.Report} {x y : Record}
    {objection? : List Float32 → Option String} (index : Nat)
    (htoken : y.token.toInt = report.token) (hkind : y.kindCode.toInt = report.sensor.kind.code)
    (hrising : x.time.toInt < y.time.toInt) (hpass : objection? y.values = none) :
    Direct.recordFault? report objection? index (some x) y =
      if y.counter = x.counter + 1 then none
      else some (.directRecord report.sensor.handle index ("counter " ++
        Text.decimal y.counter.toNat ++ " after " ++ Text.decimal x.counter.toNat)) := by
  rw [Direct.recordFault?, if_neg (fun hne => hne htoken), if_neg (fun hne => hne hkind),
    Option.bind_some, Direct.successionFault?, if_neg (Int.not_le.2 hrising)]
  by_cases hnext : y.counter = x.counter + 1
  · rw [if_pos hnext]
    dsimp only
    rw [hpass, Option.map_none]
  · rw [if_neg hnext]

theorem Written.inARow {token : Int} {d? : Option Descriptor} {records : List Record}
    (hw : Written token d? records) {k : Nat} {x y : Record} (hx : records[k]? = some x)
    (hy : records[k + 1]? = some y) : ∃ d, d? = some d ∧ InARow d token k x y := by
  obtain ⟨d, hd⟩ := hw.known (List.ne_nil_of_mem (List.mem_of_getElem? hx))
  have hrising : x.time.toInt < y.time.toInt := by
    obtain ⟨hk, rfl⟩ := List.getElem?_eq_some_iff.1 hx
    obtain ⟨hk', rfl⟩ := List.getElem?_eq_some_iff.1 hy
    exact List.pairwise_iff_getElem.1 hw.rising k (k + 1) hk hk' (Nat.lt_succ_self k)
  obtain ⟨t, values, hx⟩ := hw.built d hd k x hx
  obtain ⟨u, values', hy⟩ := hw.built d hd (k + 1) y hy
  have hxcounter : x.counter = counterAfter 1 k := by rw [hx]; rfl
  have hycounter : y.counter = counterAfter 1 (k + 1) := by rw [hy]; rfl
  have hytoken : y.token = Int32.ofInt token := by rw [hy]; rfl
  have hykind : y.kindCode.toInt = d.kind.code := by
    rw [hy]
    exact toInt_ofInt_code d.kind
  refine ⟨d, hd, ⟨?_, hytoken⟩, ⟨?_, hykind⟩, hrising, ⟨?_, ?_⟩,
    fun rate objection? index hpass => ?_⟩
  · rw [hx]
    rfl
  · rw [hx]
    exact toInt_ofInt_code d.kind
  · rw [hxcounter, toNat_counterAfter_cycle]
  · rw [hycounter, toNat_counterAfter_cycle]
  · rw [recordFault?_of_counters index (congrArg Int32.toInt hytoken) hykind hrising hpass,
      hxcounter, hycounter]
    by_cases hlast : (k + 1) % counterCycle = 0
    · have hone : (counterAfter 1 (k + 1)).toNat = 1 := by rw [toNat_counterAfter_cycle, hlast]
      have hgreatest : (counterAfter 1 k).toNat = 4294967295 := by
        rw [counterCycle] at hlast
        rw [toNat_counterAfter_cycle, counterCycle]
        omega
      rw [if_neg fun heq => (counterAfter_succ_iff k).1 heq hlast, if_pos hlast, hone, hgreatest]
      rfl
    · rw [if_pos ((counterAfter_succ_iff k).2 hlast), if_neg hlast]

/-- Along every run with clock values in words of 64 bits, what a channel brings is what its
reports bring, each known by its token. Two records in a row of one report carry its token and
its sensor's type, their times rise, and the audit passes the second behind the first, however
the rate was changed in between. The exception is the end of the cycle of counters: where one
follows the greatest counter, the audit finds fault. -/
theorem succession_audited (c : Catalog) (signal : Signal) (b : Behaviour) (ms : List Turn)
    (hms : ∀ m ∈ ms, FitsWord m.time) :
    let start := ofCatalog c signal
    (∀ n channel m, (start.run b ms).channel? n = some channel →
      (start.run b ms).recordsIn b n m = channel.reports.flatMap fun p =>
        (start.run b ms).recordsOf b n p.1 p.2.token m) ∧
    ∀ n h token k x y,
      (along b (recordsOf b n h token) start ms)[k]? = some x →
      (along b (recordsOf b n h token) start ms)[k + 1]? = some y →
      ∃ s, start.sensor? h = some s ∧ InARow s.descriptor token k x y := by
  intro start
  refine ⟨fun n channel m hchannel => ?_, fun n h token k x y hx hy => ?_⟩
  · exact recordsIn_eq_shares ((ofCatalog_reportsSound c signal).run b ms) hchannel b m
  · have hwriting := (ofCatalog_writing c signal n h token).run b hms
    rw [List.nil_append] at hwriting
    obtain ⟨d, hd, hrow⟩ := hwriting.written.inARow hx hy
    obtain ⟨s, hs, rfl⟩ := Option.map_eq_some_iff.1 hd
    exact ⟨s, hs, hrow⟩

/-- A barometer that may report at every rate. -/
def swiftBarometer : Descriptor := { barometer with flags := ⟨0x590⟩ }

/-- The turns after which a barometer reports into a channel of its own. -/
def reportingRun : List Turn :=
  [⟨1, .allocate (Region.zero 104)⟩, ⟨1, .call (.register .ashmem 104 0)⟩,
    ⟨1, .call (.report barometer.handle 1 .normal)⟩]

/-- A report that brings two records, is made faster, and brings two more. -/
def quickenedRun : List Turn :=
  reportingRun ++ [⟨45000000, .advance⟩, ⟨50000000, .call (.report barometer.handle 1 .fast)⟩,
    ⟨70000000, .advance⟩]

theorem succession_audited_quickened :
    let start := ofCatalog [swiftBarometer] silence
    let records := along {} (recordsOf {} 1 barometer.handle 1) start quickenedRun
    (∀ m ∈ quickenedRun, FitsWord m.time) ∧
      ∃ x y, records[1]? = some x ∧ records[2]? = some y ∧ x.time.toInt < y.time.toInt ∧
        Direct.recordFault? ⟨swiftBarometer, 1, .fast⟩ (fun _ => none) 2 (some x) y = none := by
  intro start records
  have hfits : ∀ m ∈ quickenedRun, FitsWord m.time := by decide
  have hlength : records.length = 4 := by decide +kernel
  have hx := List.getElem?_eq_getElem (show 1 < records.length by omega)
  have hy := List.getElem?_eq_getElem (show 2 < records.length by omega)
  obtain ⟨s, hs, hrow⟩ := (succession_audited [swiftBarometer] silence {} quickenedRun hfits).2
    1 barometer.handle 1 1 _ _ hx hy
  obtain rfl : Sampler.initial swiftBarometer = s := Option.some.inj hs
  exact ⟨hfits, _, _, hx, hy, hrow.rising, hrow.audited .fast (fun _ => none) 2 rfl⟩

/-- Until one record after the end of the cycle of counters. -/
def longRun : List Turn := reportingRun ++ [⟨85899345920000001, .advance⟩]

theorem counter_starts_over :
    let start := ofCatalog [barometer] silence
    let records := along {} (recordsOf {} 1 barometer.handle 1) start longRun
    (∀ m ∈ longRun, 0 < m.time ∧ FitsWord (m.time + 20000000)) ∧
      ∃ x y, records[4294967294]? = some x ∧ records[4294967295]? = some y ∧
        x.counter.toNat = 4294967295 ∧ y.counter.toNat = 1 ∧
        Direct.recordFault? ⟨barometer, 1, .normal⟩ (fun _ => none) 1 (some x) y =
          some (.directRecord barometer.handle 1 "counter 1 after 4294967295") := by
  intro start records
  have hfits : ∀ m ∈ longRun, FitsWord m.time := by decide
  have hlength : records.length = 4294967296 := by
    let r : DirectReport := ⟨1, .pressure, 20000000, 20000001, 1⟩
    have hc : (start.run {} reportingRun).channel? 1 =
        some ⟨.ashmem, 104, 0, 0, [(barometer.handle, r)]⟩ := rfl
    have hr : Channel.report? ⟨.ashmem, 104, 0, 0, [(barometer.handle, r)]⟩ barometer.handle =
        some r := List.lookup_cons_self
    have hsetup : along {} (recordsOf {} 1 barometer.handle 1) start reportingRun = [] := rfl
    -- the length is computed from the schedule, the records are not
    rw [show records = _ from along_concat {} _ start reportingRun _, hsetup, List.nil_append]
    exact length_recordsOf hc hr (by decide) {} 85899345920000001
  have hwriting := (ofCatalog_writing [barometer] silence 1 barometer.handle 1).run {} hfits
  rw [List.nil_append] at hwriting
  obtain ⟨x, hx⟩ : ∃ x, records[4294967294]? = some x :=
    ⟨_, List.getElem?_eq_getElem (show 4294967294 < records.length by omega)⟩
  obtain ⟨y, hy⟩ : ∃ y, records[4294967295]? = some y :=
    ⟨_, List.getElem?_eq_getElem (show 4294967295 < records.length by omega)⟩
  obtain ⟨d, hd, hrow⟩ := hwriting.written.inARow hx hy
  obtain rfl : barometer = d := Option.some.inj hd
  have haudited := hrow.audited .normal (fun _ => none) 1 rfl
  rw [if_pos (by decide)] at haudited
  exact ⟨by decide, x, y, hx, hy, hrow.counters.1, hrow.counters.2, haudited⟩

end SensorBench.Hal
