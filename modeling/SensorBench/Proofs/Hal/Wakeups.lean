import SensorBench.Proofs.Hal.Conservation
import SensorBench.Proofs.Hal.Deadline
import SensorBench.Proofs.Hal.DirectChannel
import SensorBench.Proofs.Hal.Quiet

/-!
# When a HAL is woken up

A delivery thread may wake up at any times. Without noise what it delivers does not depend
on them (`wakeups_irrelevant`): for each handle the same events go out or stay in the
buffer, flush markers left out, every sensor ends on the same course, and a channel with at
most one report ends with the same records. Each of these is proved for a step of time in
two parts (`Advanced.trans`, `dueIn_append`, `Channel.advance_twice`), and by induction for
a step in any number of parts.
-/

set_option autoImplicit false

namespace SensorBench.Hal

/-- Turns of the clock alone. -/
def wakeups (times : List Int) : List Turn := times.map (⟨·, .advance⟩)

/-- The events for a handle among some items, flush markers left out. -/
def contentOf (h : Handle) (items : List Item) : List Event :=
  ((itemsOf h items).map (·.event)).filter (!·.isFlushMarker)

/-- The events that a turn delivers for a handle, flush markers left out. -/
def content (b : Behaviour) (h : Handle) (hal : Hal) (m : Turn) : List Event :=
  contentOf h (hal.items b m)

/-- What a HAL has for a handle before it samples: what waits, an event to replay, and the
buffer. -/
def inHand (hal : Hal) (h : Handle) : List Event :=
  contentOf h hal.waiting ++ match hal.sensor? h with
    | some s => s.replay.toList ++ s.buffer
    | none => []

/-- No other channel has a report and writes to a region. -/
def SoleWriter (hal : Hal) (number : Int) (memory : Nat) : Prop :=
  ∀ n d, n ≠ number → hal.channel? n = some d → d.memory = memory → d.reports = []

/-! ## One sensor -/

namespace Sampler

/-- Whether a sensor is on, when it is due next, and its last event. -/
def course (s : Sampler) : Bool × Int × Option Event := (s.enabled, s.nextDue, s.lastEvent)

/-- The times up to `now` at which a sensor takes a sample if it is on and the HAL
measures. -/
def dueIn (s : Sampler) (measuring : Bool) (now : Int) : List Int :=
  if s.enabled && measuring then s.due now else []

/-- What a step of time makes of a sensor's course: a one-shot sensor that is due goes off,
any other sensor moves on along its grid, and the last sample is remembered. -/
structure Advanced (s t : Sampler) (measuring : Bool) (now : Int) (signal : Signal) : Prop where
  descriptor : t.descriptor = s.descriptor
  period : t.period = s.period
  enabled : t.enabled =
    (s.enabled && !(measuring && s.descriptor.isOneShot && decide (s.nextDue ≤ now)))
  nextDue : t.nextDue =
    if s.enabled && measuring && !s.descriptor.isOneShot then dueAfter s.nextDue s.period now
    else s.nextDue
  lastEvent : t.lastEvent =
    (((s.dueIn measuring now).map (s.measure signal)).getLast? <|> s.lastEvent)

section Advanced

variable {s t u : Sampler} {measuring : Bool} {now early late : Int} {signal : Signal}

theorem emitted_eq_measure (hq : signal.Quiet) (s : Sampler) (measuring : Bool) (now : Int) :
    s.emitted measuring now signal = (s.dueIn measuring now).map (s.measure signal) := by
  rw [emitted_eq_map hq, dueIn]
  split <;> rfl

theorem Sampling.advanced {taken out : List Event} (h : Sampling s measuring now taken out t)
    (htaken : taken = (s.dueIn measuring now).map (s.measure signal)) :
    s.Advanced t measuring now signal := by
  obtain ⟨hd, hp, -⟩ := h.facts
  have hlast := h.lastEvent
  rw [htaken] at hlast
  cases h with
  | idle hm =>
    refine ⟨hd, hp, ?_, by simp [hm], hlast⟩
    cases hon : s.enabled with
    | false => rfl
    | true =>
      have hoff : measuring = false := by simpa [hon] using hm
      simp [hoff]
  | early hm hone hearly => exact ⟨hd, hp, by simp [Int.not_le.2 hearly], by simp [hone], hlast⟩
  | fired e hm hone hdue =>
    have hmeasuring := (Bool.and_eq_true_iff.1 hm).2
    exact ⟨hd, hp, by simp [hmeasuring, hone, hdue], by simp [hone], hlast⟩
  | passed taken hm hone =>
    exact ⟨hd, hp, by simp [hone, scheduled], by simp [hm, hone, scheduled], hlast⟩
  | kept taken hm hone =>
    exact ⟨hd, hp, by simp [hone, loaded, scheduled], by simp [hm, hone, loaded, scheduled], hlast⟩
  | ripened taken hm hone =>
    exact ⟨hd, hp, by simp [hone, loaded, scheduled, clearBuffer],
      by simp [hm, hone, loaded, scheduled, clearBuffer], hlast⟩

theorem advanced_advance (hq : signal.Quiet) (s : Sampler) (b : Behaviour) (measuring : Bool)
    (now : Int) : s.Advanced (s.advance b measuring now signal).2.1 measuring now signal := by
  have hsampling := sampling { s with replay := none } measuring now signal
  have h := hsampling.advanced (emitted_eq_measure hq _ measuring now)
  obtain ⟨hd, hp, -⟩ := advance_facts (s := s) b measuring now signal
  obtain ⟨hon, hnext, hlast⟩ := advance_schedule_facts (s := s) b measuring now signal
  exact ⟨hd, hp, hon.trans h.enabled, hnext.trans h.nextDue, hlast.trans h.lastEvent⟩

theorem Advanced.course_eq (ht : s.Advanced t measuring now signal)
    (hu : s.Advanced u measuring now signal) : t.course = u.course := by
  rw [course, course, ht.enabled, ht.nextDue, ht.lastEvent, hu.enabled, hu.nextDue, hu.lastEvent]

theorem Advanced.measure (h : s.Advanced t measuring now signal) :
    t.measure signal = s.measure signal := by
  funext time
  rw [Sampler.measure, Sampler.measure, handle, handle, h.descriptor]

section Twice

variable (hp : 0 < s.period) (hle : early ≤ late) (h : s.Advanced t measuring early signal)

include hp hle h

/-- The sampling times up to a clock value are those up to an earlier one and those that
the sensor has from there on. -/
theorem dueIn_append :
    s.dueIn measuring late = s.dueIn measuring early ++ t.dueIn measuring late := by
  cases hm : s.enabled && measuring with
  | false =>
    -- a sensor that is off, or does not measure, does so later too
    have hm' : (t.enabled && measuring) = false := by
      rw [h.enabled]
      cases hon : s.enabled with
      | false => rfl
      | true =>
        rw [hon, Bool.true_and] at hm
        rw [hm]
        exact Bool.and_false _
    simp only [dueIn, hm, hm', Bool.false_eq_true, if_false, List.append_nil]
  | true =>
    obtain ⟨hon, hmeasuring⟩ := Bool.and_eq_true_iff.1 hm
    subst hmeasuring
    have henabled := h.enabled
    have hnext := h.nextDue
    cases hone : s.descriptor.isOneShot with
    | true =>
      by_cases hdue : s.nextDue ≤ early
      -- the one event came in the first part, and the sensor is off since
      · have hoff : t.enabled = false := by simp [henabled, hone, hdue]
        simp [dueIn, due, hon, hone, hoff, hdue, Int.le_trans hdue hle]
      · have hon' : t.enabled = true := by simp [henabled, hon, hdue]
        have hsame : t.nextDue = s.nextDue := by simp [hnext, hone]
        simp [dueIn, due, hon, hone, hon', hsame, hdue, h.descriptor]
    | false =>
      have hon' : t.enabled = true := by simp [henabled, hon, hone]
      have hmoved : t.nextDue = dueAfter s.nextDue s.period early := by simp [hnext, hon, hone]
      simp [dueIn, due, hon, hone, hon', hmoved, h.descriptor, h.period,
        dueTimes_append hp s.nextDue hle]

theorem emitted_append (hq : signal.Quiet) :
    s.emitted measuring late signal =
      s.emitted measuring early signal ++ t.emitted measuring late signal := by
  simp only [emitted_eq_measure hq, h.measure, dueIn_append hp hle h, List.map_append]

/-- Two steps of time leave a sensor on the course of one step to the later time. -/
theorem Advanced.trans (hu : t.Advanced u measuring late signal) :
    s.Advanced u measuring late signal where
  descriptor := hu.descriptor.trans h.descriptor
  period := hu.period.trans h.period
  enabled := by
    rw [hu.enabled, h.descriptor, h.enabled]
    cases hone : s.descriptor.isOneShot with
    | false => simp
    | true =>
      have hsame : t.nextDue = s.nextDue := by simp [h.nextDue, hone]
      rw [hsame]
      by_cases hdue : s.nextDue ≤ early
      · have hlate := Int.le_trans hdue hle
        cases s.enabled <;> cases measuring <;> simp [hdue, hlate]
      · simp [hdue]
  nextDue := by
    rw [hu.nextDue, h.descriptor, h.period, h.enabled, h.nextDue]
    cases hone : s.descriptor.isOneShot with
    | true => simp
    | false =>
      cases hm : s.enabled && measuring with
      | false => simp [hm]
      | true => simpa [hm] using dueAfter_dueAfter hp s.nextDue hle
  lastEvent := by
    rw [hu.lastEvent, h.lastEvent, h.measure, dueIn_append hp hle h, List.map_append,
      List.getLast?_append]
    cases (((t.dueIn measuring late).map (s.measure signal)).getLast?) <;> rfl

end Twice

end Advanced

end Sampler

/-! ## What goes out for a handle -/

/-- After a step of time only the buffer is left in hand. -/
theorem inHand_advance (hal : Hal) (b : Behaviour) (h : Handle) (now : Int) :
    (hal.step b ⟨now, .advance⟩).inHand h = (hal.step b ⟨now, .advance⟩).buffered h := by
  show (hal.advance b now).2.inHand h = (hal.advance b now).2.buffered h
  rw [inHand, buffered, sensor?_advance]
  cases hal.sensor? h with
  | none => rfl
  | some s =>
    have hreplay := (Sampler.advance_facts (s := s) b hal.measuring now
      (hal.signalFor b now h)).2.2.2.2
    show [] ++ (_ ++ _) = _
    rw [hreplay]
    rfl

section Content

variable {hal : Hal} (hsound : hal.Sound) (b : Behaviour) (h : Handle)

include hsound

/-- What a step of time delivers for a handle and leaves in its buffer is what was in hand
and what is generated. -/
theorem content_advance (now : Int) :
    content b h hal ⟨now, .advance⟩ ++ (hal.step b ⟨now, .advance⟩).buffered h =
      hal.inHand h ++ generated b h hal ⟨now, .advance⟩ := by
  show contentOf h (hal.advance b now).1 ++ (hal.advance b now).2.buffered h = _
  cases hs : hal.sensor? h with
  | none =>
    have hitems : contentOf h (hal.advance b now).1 = contentOf h hal.waiting := by
      rw [contentOf, itemsOf_advance_of_none hsound hs, contentOf]
    rw [hitems, generated_of_none hs, buffered, sensor?_advance, inHand, hs]
    exact (List.append_nil _).symm
  | some s =>
    have hown := hsound.of_sensor? hs
    obtain ⟨out, hitems, hbal, -⟩ :=
      hown.advance_spec b hal.measuring now (hal.signalFor b now h)
    -- markers are left out, and nothing that a sensor measures is one
    have hreplay : s.replay.toList.filter (!·.isFlushMarker) = s.replay.toList :=
      List.filter_eq_self.2 fun e he => by
        rw [(hown.replayed e (Option.mem_toList.1 he)).not_isFlushMarker]
        rfl
    have hout : out.filter (!·.isFlushMarker) = out :=
      List.filter_eq_self.2 fun e he => by
        rw [(hown.advance_out_measured _ _ _ hbal e he).not_isFlushMarker]
        rfl
    have hmarkers : ∀ n, (List.replicate n (Event.flushMarker s.handle now)).filter
        (!·.isFlushMarker) = [] := fun n => List.filter_eq_nil_iff.2 fun e he => by
      rw [List.eq_of_mem_replicate he]
      simp [Event.flushMarker, Event.isFlushMarker, Payload.isMeta]
    have hcontent : contentOf h (hal.advance b now).1 =
        contentOf h hal.waiting ++ (s.replay.toList ++ out) := by
      rw [contentOf, itemsOf_advance hsound hs, hitems, List.map_append, List.filter_append]
      simp only [List.map_append, List.filter_append, List.map_map, List.map_replicate]
      simp only [Function.comp_def, List.map_id', hreplay, hout, hmarkers, List.append_nil]
      rfl
    have hbuffer : (hal.advance b now).2.buffered h =
        (s.advance b hal.measuring now (hal.signalFor b now h)).2.1.buffer := by
      rw [buffered, sensor?_advance, hs]
      rfl
    rw [hcontent, hbuffer, generated_of_sensor? hs, inHand, hs]
    show _ = _ ++ (s.replay.toList ++ s.buffer) ++ s.emitted hal.measuring now _
    simp only [List.append_assoc, hbal]

end Content

/-! ## Channels -/

namespace DirectReport

theorem recordsAt_congr {r q : DirectReport} (htoken : r.token = q.token)
    (hkind : r.kind = q.kind) (counter : UInt32) (times : List Int) (payloads : List Payload) :
    r.recordsAt counter times payloads = q.recordsAt counter times payloads := by
  induction times generalizing counter payloads with
  | nil => rfl
  | cons t times ih =>
    cases payloads with
    | nil => rfl
    | cons p payloads => rw [recordsAt, recordsAt, ih, htoken, hkind]

theorem recordsAt_append (r : DirectReport) (f : Int → Payload) (counter : UInt32)
    (xs ys : List Int) :
    r.recordsAt counter (xs ++ ys) ((xs ++ ys).map f) =
      r.recordsAt counter xs (xs.map f) ++
        r.recordsAt (counterAfter counter xs.length) ys (ys.map f) := by
  induction xs generalizing counter with
  | nil => rfl
  | cons x xs ih =>
    rw [List.cons_append, List.map_cons, recordsAt, ih, List.map_cons, recordsAt, List.length_cons,
      counterAfter, List.cons_append]

/-- Two steps of time bring the records of one, and leave the report as one does. -/
theorem advance_twice {signal : Signal} (hq : signal.Quiet) {r : DirectReport}
    (hp : 0 < r.period) {early late : Int} (hle : early ≤ late) :
    (r.advance late signal).1 = (r.advance early signal).1 ++
        ((r.advance early signal).2.1.advance late signal).1 ∧
      ((r.advance early signal).2.1.advance late signal).2.1 =
        (r.advance late signal).2.1 := by
  have htimes := dueTimes_append hp r.nextDue hle
  have hnext := dueAfter_dueAfter hp r.nextDue hle
  unfold advance
  simp only [hq.payloads]
  constructor
  · rw [htimes, recordsAt_append]
    -- the report after the first part writes with the same token and kind
    refine congrArg _ (recordsAt_congr ?_ ?_ _ _ _) <;> rfl
  · rw [hnext, htimes, List.length_append, counterAfter_add]

end DirectReport

namespace Channel

variable {c : Channel} {signal : Signal}

theorem length_reports_advance (c : Channel) (now : Int) (signal : Signal) :
    (c.advance now signal).2.1.reports.length = c.reports.length := by
  have hreports : ∀ (reports : List (Handle × DirectReport)) (signal : Signal),
      (reportsAdvance now signal reports).2.1.length = reports.length := by
    intro reports
    induction reports with
    | nil => exact fun _ => rfl
    | cons p rest ih => exact fun signal => congrArg Nat.succ (ih _)
  rw [advance]
  split
  · rfl
  · exact hreports c.reports signal

theorem advance_of_slots (hslots : 0 < c.capacity) (now : Int) (signal : Signal) :
    c.advance now signal = ((reportsAdvance now signal c.reports).1,
      { c with
        written := c.written + (reportsAdvance now signal c.reports).1.length
        reports := (reportsAdvance now signal c.reports).2.1 },
      (reportsAdvance now signal c.reports).2.2) :=
  if_neg (Nat.ne_of_gt hslots)

/-- With one report the records of two steps of time come in the order of one step. -/
theorem advance_twice (hq : signal.Quiet) {memory : Array Region} (hc : c.Ready memory)
    (hone : c.reports.length ≤ 1) {early late : Int} (hle : early ≤ late) :
    (c.advance late signal).1 = (c.advance early signal).1 ++
        ((c.advance early signal).2.1.advance late signal).1 ∧
      ((c.advance early signal).2.1.advance late signal).2.1 =
        (c.advance late signal).2.1 := by
  have hslots := (hc.advance early signal).slots
  rw [advance_of_slots hc.slots early] at hslots ⊢
  rw [advance_of_slots hc.slots late]
  dsimp only at hslots ⊢
  rw [advance_of_slots hslots late]
  dsimp only
  match hreports : c.reports with
  | [] => exact ⟨rfl, rfl⟩
  | [(h, r)] =>
    have hperiod := hc.periods (h, r) (by rw [hreports]; exact List.mem_cons_self)
    obtain ⟨hrecords, hreport⟩ := DirectReport.advance_twice hq hperiod hle
    simp only [reportsAdvance_singleton]
    rw [hrecords, hreport, List.length_append, Nat.add_assoc]
    exact ⟨rfl, rfl⟩
  -- two reports would take their turns in each step
  | _ :: _ :: _ =>
    rw [hreports] at hone
    exact absurd hone (by simp)

end Channel

/-! ## Any number of steps of time -/

section Wakeups

variable {hal : Hal} {b : Behaviour} {last : Int}

theorem advanced_step (hq : hal.signal.Quiet) {h : Handle} {s : Sampler}
    (hs : hal.sensor? h = some s) (now : Int) :
    ∃ t, (hal.step b ⟨now, .advance⟩).sensor? h = some t ∧
      s.Advanced t hal.measuring now hal.signal := by
  refine ⟨(s.advance b hal.measuring now hal.signal).2.1, ?_,
    Sampler.advanced_advance hq s b hal.measuring now⟩
  show (hal.advance b now).2.sensor? h = _
  rw [sensor?_advance, hs, signalFor_eq hq]
  rfl

theorem generated_append (hsound : hal.Sound) (hq : hal.signal.Quiet) (h : Handle) {now : Int}
    (hle : now ≤ last) :
    generated b h hal ⟨last, .advance⟩ = generated b h hal ⟨now, .advance⟩ ++
      generated b h (hal.step b ⟨now, .advance⟩) ⟨last, .advance⟩ := by
  have hsignal := signal_step hq b ⟨now, .advance⟩
  cases hs : hal.sensor? h with
  | none =>
    rw [generated_of_none hs, generated_of_none hs,
      generated_of_none (sensor?_step_eq_none hs b _)]
    rfl
  | some s =>
    obtain ⟨t, ht, hadvanced⟩ := advanced_step (b := b) hq hs now
    rw [generated_of_sensor? hs, generated_of_sensor? hs, generated_of_sensor? ht,
      signalFor_eq hq, signalFor_eq hq, signalFor_eq (hsignal ▸ hq), hsignal]
    exact Sampler.emitted_append (hsound.of_sensor? hs).period_pos hle hadvanced hq

/-- However often a HAL is woken up, what it delivers for a handle and holds at the end is
what was in hand and what is generated by the end. -/
theorem content_wakeups (hsound : hal.Sound) (hq : hal.signal.Quiet) (h : Handle)
    {times : List Int} (hlast : ∀ t ∈ times, t ≤ last) :
    along b (content b h) hal (wakeups (times ++ [last])) ++
        (hal.run b (wakeups (times ++ [last]))).buffered h =
      hal.inHand h ++ generated b h hal ⟨last, .advance⟩ := by
  induction times generalizing hal with
  | nil =>
    show (content b h hal ⟨last, .advance⟩ ++ []) ++ _ = _
    rw [List.append_nil]
    exact content_advance hsound b h last
  | cons now rest ih =>
    have hsignal := signal_step hq b ⟨now, .advance⟩
    have hrest := ih (hsound.step b ⟨now, .advance⟩) (hsignal ▸ hq)
      fun t ht => hlast t (List.mem_cons_of_mem now ht)
    rw [inHand_advance] at hrest
    show (content b h hal ⟨now, .advance⟩ ++ along b (content b h)
      (hal.step b ⟨now, .advance⟩) (wakeups (rest ++ [last]))) ++ _ = _
    -- what the first step leaves in the buffer is in hand for the others
    calc
      _ = content b h hal ⟨now, .advance⟩ ++ ((hal.step b ⟨now, .advance⟩).buffered h ++
          generated b h (hal.step b ⟨now, .advance⟩) ⟨last, .advance⟩) := by
        rw [List.append_assoc]
        exact congrArg _ hrest
      _ = hal.inHand h ++ generated b h hal ⟨now, .advance⟩ ++
          generated b h (hal.step b ⟨now, .advance⟩) ⟨last, .advance⟩ := by
        rw [← List.append_assoc, content_advance hsound]
      _ = hal.inHand h ++ generated b h hal ⟨last, .advance⟩ := by
        rw [generated_append hsound hq h (hlast now List.mem_cons_self), List.append_assoc]

theorem advanced_wakeups (hsound : hal.Sound) (hq : hal.signal.Quiet) {h : Handle}
    {s : Sampler} (hs : hal.sensor? h = some s) {times : List Int}
    (hlast : ∀ t ∈ times, t ≤ last) :
    ∃ t, (hal.run b (wakeups (times ++ [last]))).sensor? h = some t ∧
      s.Advanced t hal.measuring last hal.signal := by
  induction times generalizing hal s with
  | nil => exact advanced_step hq hs last
  | cons now rest ih =>
    have hsignal := signal_step hq b ⟨now, .advance⟩
    obtain ⟨t, ht, hfirst⟩ := advanced_step (b := b) hq hs now
    obtain ⟨u, hu, hrest⟩ := ih (hsound.step b ⟨now, .advance⟩) (hsignal ▸ hq) ht
      fun t ht => hlast t (List.mem_cons_of_mem now ht)
    rw [hsignal] at hrest
    exact ⟨u, hu, hfirst.trans (hsound.of_sensor? hs).period_pos
      (hlast now List.mem_cons_self) hrest⟩

theorem channel?_advance (hq : hal.signal.Quiet) (b : Behaviour) (number now : Int) :
    (hal.step b ⟨now, .advance⟩).channel? number =
      (hal.channel? number).map fun c => (c.advance now hal.signal).2.1 := by
  show (advanceChannels now (hal.signalLeft b now) hal.memory hal.channels).1.lookup number = _
  rw [lookup_advanceChannels, signalLeft_eq hq]
  simp only [channelSignalBefore_eq hq]
  rfl

theorem recordsIn_advance (hq : hal.signal.Quiet) {number : Int} {c : Channel}
    (hc : hal.channel? number = some c) (now : Int) :
    hal.recordsIn b number ⟨now, .advance⟩ = (c.advance now hal.signal).1 := by
  rw [recordsIn_of_channel? hc, channelSignal_eq hq]
  rfl

/-- However often a HAL is woken up, a channel with at most one report gets the records of
one step of time, and ends as after it. -/
theorem records_wakeups (hready : hal.Ready) (hq : hal.signal.Quiet) {number : Int}
    {c : Channel} (hc : hal.channel? number = some c) (hone : c.reports.length ≤ 1)
    {times : List Int} (hlast : ∀ t ∈ times, t ≤ last) :
    along b (recordsIn b number) hal (wakeups (times ++ [last])) =
        (c.advance last hal.signal).1 ∧
      (hal.run b (wakeups (times ++ [last]))).channel? number =
        some (c.advance last hal.signal).2.1 := by
  induction times generalizing hal c with
  | nil =>
    constructor
    · show hal.recordsIn b number ⟨last, .advance⟩ ++ [] = _
      rw [List.append_nil, recordsIn_advance hq hc]
    · show (hal.step b ⟨last, .advance⟩).channel? number = _
      rw [channel?_advance hq, hc]
      rfl
  | cons now rest ih =>
    have hsignal := signal_step hq b ⟨now, .advance⟩
    have hc' : (hal.step b ⟨now, .advance⟩).channel? number =
        some (c.advance now hal.signal).2.1 := by
      rw [channel?_advance hq, hc]
      rfl
    obtain ⟨hrecords, hchannel⟩ := ih (hready.step b ⟨now, .advance⟩) (hsignal ▸ hq) hc'
      (Nat.le_trans (Nat.le_of_eq (Channel.length_reports_advance c now hal.signal)) hone)
      fun t ht => hlast t (List.mem_cons_of_mem now ht)
    rw [hsignal] at hrecords hchannel
    obtain ⟨hboth, hend⟩ := Channel.advance_twice hq (hready _ (mem_of_channel? hc)) hone
      (hlast now List.mem_cons_self)
    constructor
    · show hal.recordsIn b number ⟨now, .advance⟩ ++ along b (recordsIn b number)
        (hal.step b ⟨now, .advance⟩) (wakeups (rest ++ [last])) = _
      rw [hrecords, recordsIn_advance hq hc, hboth]
    · show ((hal.step b ⟨now, .advance⟩).run b (wakeups (rest ++ [last]))).channel? number = _
      rw [hchannel, hend]

theorem Channel.inside_of_ready {memory : Array Region} {c : Channel} (hc : c.Ready memory) :
    c.memory < memory.size := by
  by_cases hlt : c.memory < memory.size
  · exact hlt
  -- a region that is not there is too small for a slot
  · have hnone : memory.getD c.memory #[] = #[] := by
      rw [Array.getD_eq_getD_getElem?, Array.getElem?_eq_none (Nat.le_of_not_lt hlt)]
      rfl
    have hfits := hc.fits
    have hslots := hc.slots
    rw [hnone, Array.size_empty] at hfits
    have hzero : c.capacity = 0 := by
      rw [Channel.capacity, Nat.le_zero.1 hfits]
      decide
    omega

theorem SoleWriter.step (hq : hal.signal.Quiet) {number : Int} {memory : Nat}
    (hsole : hal.SoleWriter number memory) (b : Behaviour) (now : Int) :
    (hal.step b ⟨now, .advance⟩).SoleWriter number memory := by
  intro n d hn hd hmem
  rw [channel?_advance hq] at hd
  obtain ⟨e, he, rfl⟩ := Option.map_eq_some_iff.1 hd
  obtain ⟨-, -, hsame, -⟩ := Channel.advance_facts e now hal.signal
  have hnone := hsole n e hn he (hsame.symm.trans hmem)
  apply List.eq_nil_of_length_eq_zero
  rw [Channel.length_reports_advance, hnone]
  rfl

theorem SoleWriter.not_writesBeside (hq : hal.signal.Quiet) {number : Int} {memory : Nat}
    (hsole : hal.SoleWriter number memory) (b : Behaviour) (now : Int) :
    ¬hal.WritesBeside b number memory ⟨now, .advance⟩ := by
  rintro ⟨n, d, hn, hd, hmem, hrecords⟩
  apply hrecords
  rw [recordsIn_advance hq hd, Channel.advance, hsole n d hn hd hmem]
  split <;> rfl

/-- A region with one writer gets the records of all steps of time into its ring. -/
theorem region_wakeups (hsound : hal.ChannelsSound) (hready : hal.Ready)
    (hq : hal.signal.Quiet) {number : Int} {c : Channel} (hc : hal.channel? number = some c)
    (hsole : hal.SoleWriter number c.memory) (times : List Int) :
    (hal.run b (wakeups times)).region c.memory =
      Channel.writeRing c.capacity (hal.region c.memory) c.written
        (along b (recordsIn b number) hal (wakeups times)) := by
  induction times generalizing hal c with
  | nil => rfl
  | cons now rest ih =>
    have hsignal := signal_step hq b ⟨now, .advance⟩
    obtain ⟨-, hsize, hmemory, hwritten⟩ := Channel.advance_facts c now hal.signal
    have hcapacity : (c.advance now hal.signal).2.1.capacity = c.capacity := by
      rw [Channel.capacity, hsize, Channel.capacity]
    have hc' : (hal.step b ⟨now, .advance⟩).channel? number =
        some (c.advance now hal.signal).2.1 := by
      rw [channel?_advance hq, hc]
      rfl
    have hrest := ih (hsound.step b ⟨now, .advance⟩) (hready.step b ⟨now, .advance⟩)
      (hsignal ▸ hq) hc' (hmemory ▸ hsole.step hq b now)
    have hfirst := region_step hsound hc rfl
      (Channel.inside_of_ready (hready _ (mem_of_channel? hc))) b
      (hsole.not_writesBeside hq b now)
    rw [hmemory, hcapacity, hwritten, hfirst, recordsIn_advance hq hc] at hrest
    show ((hal.step b ⟨now, .advance⟩).run b (wakeups rest)).region c.memory =
      Channel.writeRing c.capacity (hal.region c.memory) c.written
        (hal.recordsIn b number ⟨now, .advance⟩ ++ along b (recordsIn b number)
          (hal.step b ⟨now, .advance⟩) (wakeups rest))
    rw [hrest, Channel.writeRing_append, recordsIn_advance hq hc]

end Wakeups

/-- From every reachable state of a HAL without noise, and for every rising sequence of
clock values, stepping through all of them comes to the same as one step to the last. For
each handle the events delivered, flush markers left out, followed by what is left in the
buffer are the same, and so is the course on which its sensor ends. A channel with at most
one report ends the same after the same records; its region too, unless another channel
writes to it. -/
theorem wakeups_irrelevant (c : Catalog) {signal : Signal} (hq : signal.Quiet) (b : Behaviour)
    (ms : List Turn) {times : List Int} {last : Int}
    (hrising : (times ++ [last]).Pairwise (· ≤ ·)) :
    let hal := (ofCatalog c signal).run b ms
    let often := hal.run b (wakeups (times ++ [last]))
    let once := hal.step b ⟨last, .advance⟩
    (∀ h, along b (content b h) hal (wakeups (times ++ [last])) ++ often.buffered h =
        content b h hal ⟨last, .advance⟩ ++ once.buffered h) ∧
      (∀ h, (often.sensor? h).map (·.course) = (once.sensor? h).map (·.course)) ∧
      ∀ number d, hal.channel? number = some d → d.reports.length ≤ 1 →
        along b (recordsIn b number) hal (wakeups (times ++ [last])) =
            hal.recordsIn b number ⟨last, .advance⟩ ∧
          often.channel? number = once.channel? number ∧
          (hal.SoleWriter number d.memory → often.region d.memory = once.region d.memory) := by
  intro hal often once
  have hsound : hal.Sound := (ofCatalog_sound c signal).run b ms
  have hchannels : hal.ChannelsSound := (ofCatalog_channelsSound c signal).run b ms
  have hready : hal.Ready := (ofCatalog_ready c signal).run b ms
  have hsignal : hal.signal = signal := @signal_run (ofCatalog c signal) hq b ms
  have hquiet : hal.signal.Quiet := hsignal ▸ hq
  have hlast : ∀ t ∈ times, t ≤ last := fun t ht =>
    (List.pairwise_append.1 hrising).2.2 t ht last List.mem_cons_self
  have hnone : ∀ t ∈ ([] : List Int), t ≤ last := fun t ht => absurd ht List.not_mem_nil
  refine ⟨fun h => ?_, fun h => ?_, fun number d hd hone => ?_⟩
  · rw [content_advance hsound]
    exact content_wakeups hsound hquiet h hlast
  · cases hs : hal.sensor? h with
    | none =>
      have honce : once.sensor? h = none := sensor?_step_eq_none hs b _
      have hoften : often.sensor? h = none :=
        run_keeps (P := fun next => next.sensor? h = none)
          (fun _ m hnext => sensor?_step_eq_none hnext b m) _ hs
      rw [honce, hoften]
    | some s =>
      obtain ⟨t, ht, hadvanced⟩ := advanced_wakeups (b := b) hsound hquiet hs hlast
      obtain ⟨u, hu, honce⟩ := advanced_step (b := b) hquiet hs last
      rw [ht, hu, Option.map_some, Option.map_some, hadvanced.course_eq honce]
  · obtain ⟨hrecords, hchannel⟩ := records_wakeups (b := b) hready hquiet hd hone hlast
    obtain ⟨hrecords', hchannel'⟩ := records_wakeups (b := b) hready hquiet hd hone hnone
    have hsame : along b (recordsIn b number) hal (wakeups (times ++ [last])) =
        along b (recordsIn b number) hal (wakeups [last]) := hrecords.trans hrecords'.symm
    refine ⟨hrecords.trans (recordsIn_advance hquiet hd last).symm,
      hchannel.trans hchannel'.symm, fun hsole => ?_⟩
    -- the ring is written from the same slot on with the same records
    rw [region_wakeups hchannels hready hquiet hd hsole, hsame]
    exact (region_wakeups hchannels hready hquiet hd hsole [last]).symm

/-- Waking up in between delivers a full buffer and starts a new one, which one long step
does not; all else is the same. -/
theorem wakeups_irrelevant_holding :
    let hal := (ofCatalog [barometer] silence).run {} holdingRun
    let h := barometer.handle
    let often := hal.run {} (wakeups ([13000000, 16000000] ++ [21000000]))
    let once := hal.step {} ⟨21000000, .advance⟩
    silence.Quiet ∧ ([13000000, 16000000] ++ [21000000] : List Int).Pairwise (· ≤ ·) ∧
      (often.buffered h).map (·.time) = [20000000] ∧ (once.buffered h).map (·.time) = [] ∧
      along {} (content {} h) hal (wakeups ([13000000, 16000000] ++ [21000000])) ++
          often.buffered h = content {} h hal ⟨21000000, .advance⟩ ++ once.buffered h ∧
      (often.sensor? h).map (·.course) = (once.sensor? h).map (·.course) ∧
      (hal.recordsIn {} 1 ⟨21000000, .advance⟩).length = 1 ∧ often.region 0 = once.region 0 := by
  intro hal h often once
  have hq : silence.Quiet := by decide
  have hrising : ([13000000, 16000000] ++ [21000000] : List Int).Pairwise (· ≤ ·) := by decide
  obtain ⟨hcontent, hcourse, hchannel⟩ :=
    wakeups_irrelevant [barometer] hq {} holdingRun hrising
  have hkeys : hal.channels.map (·.1) = [1] := by decide +kernel
  have hfacts : (hal.channel? 1).map (fun d => (d.reports.length, d.memory)) = some (1, 0) := by
    decide +kernel
  obtain ⟨d, hd, hpair⟩ := Option.map_eq_some_iff.1 hfacts
  obtain ⟨hreports, hmemory⟩ := Prod.mk.inj hpair
  have hsole : hal.SoleWriter 1 d.memory := fun n e hn he => by
    have hmem := mem_keys_of_lookup he
    rw [hkeys] at hmem
    exact absurd (List.mem_singleton.1 hmem) hn
  have hregion := (hchannel 1 d hd (Nat.le_of_eq hreports)).2.2 hsole
  rw [hmemory] at hregion
  exact ⟨hq, hrising, by decide +kernel, by decide +kernel, hcontent h, hcourse h,
    by decide +kernel, hregion⟩

/-- Two channels of one slot over one region, with reports that start 5 ms apart. -/
def sharingRun : List Turn :=
  [⟨0, .allocate (Region.zero Record.width)⟩,
    ⟨0, .call (.register .ashmem Record.width 0)⟩, ⟨0, .call (.register .ashmem Record.width 0)⟩,
    ⟨0, .call (.report barometer.handle 1 .normal)⟩,
    ⟨5000000, .call (.report barometer.handle 2 .normal)⟩]

/-- Where two channels write to one region, its bytes depend on the wakeups: after an earlier
wakeup the last record is that of 40 ms through the first channel, after one long step it is that
of 25 ms through the second. -/
theorem wakeups_seen_in_shared_region :
    let hal := (ofCatalog [barometer] silence).run {} sharingRun
    let often := hal.run {} (wakeups ([30000000] ++ [40000000]))
    let once := hal.step {} ⟨40000000, .advance⟩
    silence.Quiet ∧ ([30000000] ++ [40000000] : List Int).Pairwise (· ≤ ·) ∧
      hal.channels.map (fun d => (d.1, d.2.reports.length, d.2.memory)) = [(1, 1, 0), (2, 1, 0)] ∧
      often.region 0 ≠ once.region 0 := by
  decide +kernel

end SensorBench.Hal
