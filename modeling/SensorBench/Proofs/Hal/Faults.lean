import SensorBench.Proofs.Hal.FlushMarkers
import SensorBench.Proofs.Hal.View

/-!
# Each fault breaks its own part

A HAL that drops or doubles markers, replays old events or tolerates unknown handles is
compared with one that does none of it, over any sequence of calls at the front and steps of
time (`faults_confined`). The state of the faulty HAL, seen without the events that it is
about to replay, is the state of the other; calls get the same reply unless they name a
handle outside the catalog and such handles are tolerated; and a batch is the other's batch
with events replayed and each marker left out or given twice.
-/

set_option autoImplicit false

namespace SensorBench

/-- A behaviour without the faults that drop or double markers, replay old events or tolerate
unknown handles. -/
structure Behaviour.Sober (b : Behaviour) : Prop where
  answers : Hal.Answers b
  replays_none : b.replayStaleEvents = false
  tolerates_none : b.acceptInvalidHandles = false

/-- The behaviour with each of these four faults set or not. -/
def Behaviour.withFaults (b : Behaviour) (drop duplicate replay accept : Bool) : Behaviour :=
  { b with
    dropFlushMarkers := drop, duplicateFlushMarkers := duplicate
    replayStaleEvents := replay, acceptInvalidHandles := accept }

namespace Hal

/-- The HAL after a turn whose calls pass the front. -/
def stepAtFront (b : Behaviour) (hal : Hal) (m : Turn) : Hal :=
  match m.input with
  | .call c => hal.afterCall (hal.performAtFront b m.time c)
  | _ => hal.step b m

/-- The HAL after some turns whose calls pass the front. -/
def runAtFront (b : Behaviour) : Hal → List Turn → Hal
  | hal, [] => hal
  | hal, m :: rest => runAtFront b (hal.stepAtFront b m) rest

/-- The call is about a handle that no sensor of a catalog has. -/
def NamesUnknown (catalog : Catalog) (c : Call) : Prop :=
  ∃ h, toleratedHandle? c = some h ∧ h ∉ catalog.map (·.handle)

/-- The sensor without the event that it is about to replay. -/
def Sampler.forget (s : Sampler) : Sampler := { s with replay := none }

/-- The items that come of an item with each marker given some number of times. -/
def Item.markersTimes (n : Nat) (i : Item) : List Item :=
  if i.event.isFlushMarker then List.replicate n i else [i]

/-- Nothing that waits is a replayed event. -/
def QueuesNoReplay (hal : Hal) : Prop := ∀ i ∈ hal.waiting, i.source ≠ .replay

/-! ## The front -/

theorem afterCall_passed {b : Behaviour} {c : Call}
    (hc : (∀ kind size memory, c ≠ .register kind size memory) ∨ b.rejectDirectChannels = false)
    (hal : Hal) (now : Int) :
    hal.afterCall (hal.performAtFront b now c) = hal.step b ⟨now, .call c⟩ := by
  rw [performAtFront_passed hc, step_call]
  cases hal.perform b now c with
  | ok r => rfl
  -- a tolerated call leaves the HAL as a rejected one does
  | error status =>
    dsimp only
    split <;> rfl

/-- A turn at the front is refused, and changes nothing, or it passes. -/
theorem stepAtFront_eq (b : Behaviour) (hal : Hal) (m : Turn) :
    hal.stepAtFront b m =
      match m.input, b.rejectDirectChannels with
      | .call (.register ..), true => hal
      | _, _ => hal.step b m := by
  obtain ⟨now, input⟩ := m
  cases input with
  | call c =>
    by_cases hc : ∀ kind size memory, c ≠ .register kind size memory
    · have hpass := afterCall_passed (b := b) (Or.inl hc) hal now
      cases c with
      | register kind size memory => exact absurd rfl (hc kind size memory)
      | _ => exact hpass
    · cases c with
      | register kind size memory =>
        cases hr : b.rejectDirectChannels with
        | false => exact afterCall_passed (Or.inr hr) hal now
        | true => simp only [stepAtFront, performAtFront, hr, afterCall]
      | _ => exact absurd (fun _ _ _ => Call.noConfusion) hc
  | _ => rfl

/-- What every turn keeps, a turn at the front keeps. -/
theorem stepAtFront_keeps {b : Behaviour} {P : Hal → Prop} {hal : Hal} {m : Turn}
    (h : P hal) (hstep : P (hal.step b m)) : P (hal.stepAtFront b m) := by
  rw [stepAtFront_eq]
  split
  · exact h
  · exact hstep

theorem stepAtFront_seenThrough {f : Sampler → Sampler} {b b' : Behaviour}
    (hf : Sampler.View f b b') (hreject : b.rejectDirectChannels = b'.rejectDirectChannels)
    (hal : Hal) (m : Turn) :
    (hal.stepAtFront b m).seenThrough f =
      ((hal.seenThrough f).stepAtFront b' m).seenThrough f := by
  rw [stepAtFront_eq, stepAtFront_eq, hreject]
  split
  · exact (seenThrough_again hf hal).symm
  · exact step_seenThrough hf hal m

/-! ## Faults and single sensors -/

section Sensors

variable (b : Behaviour) (drop duplicate replay accept : Bool)

theorem Sampler.answerFlushes_snd (s : Sampler) (b b' : Behaviour) (now : Int) :
    (s.answerFlushes b now).2 = (s.answerFlushes b' now).2 := by
  unfold Sampler.answerFlushes
  split <;> rfl

/-- Forgetting what is about to be replayed is a view from the faulty behaviour to the
other. -/
theorem Sampler.forget_view :
    Sampler.View Sampler.forget (b.withFaults drop duplicate replay accept) b where
  reconnect := rfl
  again := fun _ => rfl
  descriptor := fun _ => rfl
  enabled := fun _ => rfl
  buffer := fun _ => rfl
  disconnect := fun _ => rfl
  switchOn := fun _ _ => rfl
  switchOff := fun _ => rfl
  retune := by
    intro s now period latency
    have hrelease : ∀ t : Sampler, t.release.forget = t.forget.release := by
      intro t
      have hbatching : t.forget.batching = t.batching := rfl
      have hbuffer : t.forget.buffer = t.buffer := rfl
      rw [Sampler.release, Sampler.release, hbatching, hbuffer]
      split <;> rfl
    rw [hrelease, hrelease]
    rfl
  requestFlush := fun _ => rfl
  advance := by
    intro s measuring now signal
    have hsame : { s.forget with replay := none } = { s with replay := none } := rfl
    rw [Sampler.advance_eq, Sampler.advance_eq, hsame]
    exact ⟨congrArg Sampler.forget (Sampler.answerFlushes_snd _ _ _ _), rfl⟩

end Sensors

section Markers

variable {n : Nat}

theorem flatMap_markersTimes_of_unmarked {items : List Item}
    (h : ∀ i ∈ items, i.event.isFlushMarker = false) :
    items.flatMap (Item.markersTimes n) = items := by
  induction items with
  | nil => rfl
  | cons i rest ih =>
    rw [List.flatMap_cons, Item.markersTimes, h i List.mem_cons_self,
      ih fun j hj => h j (List.mem_cons_of_mem i hj)]
    rfl

theorem flatMap_markersTimes_replicate (h : Handle) (now : Int) (k : Nat) :
    (List.replicate k ⟨.marker, .flushMarker h now⟩).flatMap (Item.markersTimes n) =
      List.replicate (k * n) (⟨.marker, .flushMarker h now⟩ : Item) := by
  induction k with
  | zero => simp
  | succ k ih =>
    have hmarker : (Event.flushMarker h now).isFlushMarker = true := rfl
    rw [List.replicate_succ, List.flatMap_cons, ih, Item.markersTimes, hmarker, if_pos rfl,
      List.replicate_append_replicate, Nat.add_mul, Nat.one_mul, Nat.add_comm]

/-- Without markers nothing is left of what became of a marker. -/
theorem filter_markersTimes (items : List Item) :
    (items.flatMap (Item.markersTimes n)).filter (!·.event.isFlushMarker) =
      items.filter (!·.event.isFlushMarker) := by
  induction items with
  | nil => rfl
  | cons i rest ih =>
    rw [List.flatMap_cons, List.filter_append, ih, Item.markersTimes]
    cases hi : i.event.isFlushMarker with
    | false => simp [hi]
    | true => simp [hi]

end Markers

/-! ## Batches -/

section Batches

variable {b : Behaviour} (hb : b.Sober) (drop duplicate replay accept : Bool)

include hb

/-- What a faulty sensor delivers, replayed events left out, is what the other delivers with
markers left out or doubled. -/
theorem Sampler.Sound.advance_faulty {s : Sampler} (hs : s.Sound) (measuring : Bool) (now : Int)
    (signal : Signal) :
    (s.advance (b.withFaults drop duplicate replay accept) measuring now signal).1.filter
        (·.source ≠ .replay) =
      (s.forget.advance b measuring now signal).1.flatMap (Item.markersTimes
        (Sampler.markerCount (b.withFaults drop duplicate replay accept) 1)) := by
  have hview := Sampler.forget_view b drop duplicate replay accept
  generalize b.withFaults drop duplicate replay accept = faulty at hview ⊢
  obtain ⟨out, hitems, hbal, -⟩ := hs.advance_spec faulty measuring now signal
  obtain ⟨out', hitems', hbal', -⟩ := hs.of_replay_eq_none.advance_spec b measuring now signal
  have hbuffer : (s.advance faulty measuring now signal).2.1.buffer =
      (s.forget.advance b measuring now signal).2.1.buffer := by
    have hseen := (hview.advance s measuring now signal).1
    exact (Sampler.mk.inj hseen).2.2.2.2.2.1
  -- both let go of the same samples, since they keep the same ones
  have hout : out = out' := by
    have hsame : out ++ (s.advance faulty measuring now signal).2.1.buffer =
        out' ++ (s.forget.advance b measuring now signal).2.1.buffer := hbal.symm.trans hbal'
    rw [hbuffer] at hsame
    exact List.append_cancel_right hsame
  have hmeasured : ∀ i ∈ out.map (Item.mk .sample), i.event.isFlushMarker = false := by
    intro i hi
    obtain ⟨e, he, rfl⟩ := List.mem_map.1 hi
    exact (hs.advance_out_measured measuring now signal hbal e he).not_isFlushMarker
  have hcount : Sampler.markerCount b s.pendingFlushes = s.pendingFlushes :=
    hb.answers.markerCount _
  have hreplayed : (s.replay.toList.map (Item.mk .replay)).filter (·.source ≠ .replay) = [] := by
    apply List.filter_eq_nil_iff.2
    intro i hi
    obtain ⟨e, -, rfl⟩ := List.mem_map.1 hi
    simp
  have hsamples : (out.map (Item.mk .sample)).filter (·.source ≠ .replay) =
      out.map (Item.mk .sample) := by
    apply List.filter_eq_self.2
    intro i hi
    obtain ⟨e, -, rfl⟩ := List.mem_map.1 hi
    rfl
  have hmarkers : ∀ k, (List.replicate k (Item.mk .marker (.flushMarker s.handle now))).filter
      (·.source ≠ .replay) = List.replicate k ⟨.marker, .flushMarker s.handle now⟩ := by
    intro k
    apply List.filter_eq_self.2
    intro i hi
    rw [List.eq_of_mem_replicate hi]
    rfl
  have hforgot : (s.forget.advance b measuring now signal).1 = out.map (Item.mk .sample) ++
      List.replicate s.pendingFlushes ⟨.marker, .flushMarker s.handle now⟩ := by
    rw [hout, ← hcount]
    exact hitems'
  rw [hitems, List.filter_append, List.filter_append, hreplayed, hsamples, hmarkers,
    List.nil_append, hforgot, List.flatMap_append, flatMap_markersTimes_of_unmarked hmeasured,
    flatMap_markersTimes_replicate, Sampler.markerCount_eq_mul]

theorem advanceSensors_faulty (measuring : Bool) (now : Int) (signal : Signal)
    {sensors : List Sampler} (hs : ∀ s ∈ sensors, s.Sound) :
    (advanceSensors (b.withFaults drop duplicate replay accept) measuring now signal
        sensors).1.filter (·.source ≠ .replay) =
      (advanceSensors b measuring now signal (sensors.map Sampler.forget)).1.flatMap
        (Item.markersTimes
          (Sampler.markerCount (b.withFaults drop duplicate replay accept) 1)) := by
  induction sensors generalizing signal with
  | nil => rfl
  | cons s rest ih =>
    have hfirst := (hs s List.mem_cons_self).advance_faulty hb drop duplicate replay accept
      measuring now signal
    have hsignal := ((Sampler.forget_view b drop duplicate replay accept).advance s measuring now
      signal).2
    simp only [advanceSensors, List.map_cons, List.filter_append, List.flatMap_append, hfirst,
      hsignal, ih _ fun t ht => hs t (List.mem_cons_of_mem s ht)]

/-- A batch of the faulty HAL, replayed events left out, is the other's batch with each
marker left out or doubled. -/
theorem batch_faulty {hal : Hal} (hsound : hal.Sound) (hunmarked : hal.Unmarked)
    (hqueue : hal.QueuesNoReplay) (now : Int) :
    (hal.advance (b.withFaults drop duplicate replay accept) now).1.filter
        (·.source ≠ .replay) =
      ((hal.seenThrough Sampler.forget).advance b now).1.flatMap (Item.markersTimes
        (Sampler.markerCount (b.withFaults drop duplicate replay accept) 1)) := by
  have hwaiting : hal.waiting.filter (·.source ≠ .replay) = hal.waiting :=
    List.filter_eq_self.2 fun i hi => decide_eq_true (hqueue i hi)
  show (hal.waiting ++ _).filter _ = (hal.waiting ++ _).flatMap _
  rw [List.filter_append, List.flatMap_append, hwaiting,
    flatMap_markersTimes_of_unmarked hunmarked]
  exact congrArg _ (advanceSensors_faulty hb drop duplicate replay accept hal.measuring now
    hal.signal hsound.sensors)

end Batches

/-! ## Replies -/

/-- The call injects additional information. -/
def IsAdditional (c : Call) : Prop := ∃ e, c = .inject e ∧ e.kind = .additionalInfo

theorem not_isAdditional {c : Call} (hc : ∀ e, c ≠ .inject e) : ¬IsAdditional c := by
  rintro ⟨e, he, -⟩
  exact hc e he

/-- A call about an unknown handle is rejected, additional information apart. -/
theorem perform_unknown {hal : Hal} {c : Call} {h : Handle} (hc : toleratedHandle? c = some h)
    (hs : hal.sensor? h = none) (b : Behaviour) (now : Int) :
    (¬IsAdditional c → hal.perform b now c = .error .badValue) ∧
      (IsAdditional c → hal.perform b now c = .ok (0, hal)) := by
  cases c with
  | activate k on =>
    cases hc
    refine ⟨fun _ => ?_, fun hc => absurd hc (not_isAdditional fun _ => Call.noConfusion)⟩
    rw [perform, activate, hs]
    rfl
  | batch k period latency =>
    cases hc
    refine ⟨fun _ => ?_, fun hc => absurd hc (not_isAdditional fun _ => Call.noConfusion)⟩
    rw [perform, batch, hs]
    split <;> rfl
  | flush k =>
    cases hc
    refine ⟨fun _ => ?_, fun hc => absurd hc (not_isAdditional fun _ => Call.noConfusion)⟩
    rw [perform, flush, hs]
    rfl
  | inject e =>
    cases hc
    constructor
    · intro hadditional
      rw [perform, inject, if_neg fun hk => hadditional ⟨e, rfl, hk⟩, hs]
      rfl
    · rintro ⟨f, hf, hk⟩
      cases hf
      rw [perform, inject, if_pos hk]
      rfl
  | _ => cases hc

section Replies

variable {b : Behaviour} (hb : b.Sober) (drop duplicate replay accept : Bool)

include hb

theorem reply_unknown {hal : Hal} {c : Call} {h : Handle} (hc : toleratedHandle? c = some h)
    (hs : hal.sensor? h = none) (now : Int) :
    (¬IsAdditional c → hal.reply b now c = .error .badValue) ∧
      (IsAdditional c → hal.reply b now c = .ok 0) := by
  have hpass : ∀ kind size memory, c ≠ .register kind size memory := by
    rintro kind size memory rfl
    cases hc
  obtain ⟨hrejected, haccepted⟩ := perform_unknown hc hs b now
  rw [reply, performAtFront_passed (Or.inl hpass)]
  constructor
  · intro hadditional
    rw [hrejected hadditional]
    simp only [tolerates, hb.tolerates_none, Bool.false_and]
    rfl
  · intro hadditional
    rw [haccepted hadditional]
    rfl

omit hb in
theorem reply_tolerated {hal : Hal} {c : Call} {h : Handle} (hc : toleratedHandle? c = some h)
    (hs : hal.sensor? h = none) (now : Int) :
    hal.reply (b.withFaults drop duplicate replay true) now c = .ok 0 := by
  have hpass : ∀ kind size memory, c ≠ .register kind size memory := by
    rintro kind size memory rfl
    cases hc
  obtain ⟨hrejected, haccepted⟩ :=
    perform_unknown hc hs (b.withFaults drop duplicate replay true) now
  rw [reply, performAtFront_passed (Or.inl hpass)]
  by_cases hadditional : IsAdditional c
  · rw [haccepted hadditional]
    rfl
  · have htolerates :
        hal.tolerates (b.withFaults drop duplicate replay true) c .badValue = true := by
      simp [tolerates, hc, hs, Behaviour.withFaults]
    rw [hrejected hadditional]
    simp only [htolerates, if_true]
    rfl

/-- The faulty HAL replies as the other, unless it tolerates the handle of the call. -/
theorem reply_faulty {hal : Hal} {c : Call}
    (hknown : accept = true → ∀ h, toleratedHandle? c = some h → hal.sensor? h ≠ none)
    (now : Int) :
    hal.reply (b.withFaults drop duplicate replay accept) now c =
      (hal.seenThrough Sampler.forget).reply b now c := by
  have hthrough :=
    perform_seenThrough (Sampler.forget_view b drop duplicate replay accept) hal now c
  by_cases hpass : (∀ kind size memory, c ≠ .register kind size memory) ∨
      b.rejectDirectChannels = false
  · have hpass' : (∀ kind size memory, c ≠ .register kind size memory) ∨
        (b.withFaults drop duplicate replay accept).rejectDirectChannels = false := hpass
    -- no rejection is tolerated on either side
    have htolerates : ∀ status,
        hal.tolerates (b.withFaults drop duplicate replay accept) c status = false := by
      intro status
      cases haccept : accept with
      | false => rfl
      | true =>
        have hnone : ((toleratedHandle? c).any fun h => (hal.sensor? h).isNone) = false := by
          cases hc : toleratedHandle? c with
          | none => rfl
          | some h => simpa [Option.isSome_iff_ne_none] using hknown haccept h hc
        rw [tolerates, hnone]
        exact Bool.and_false _
    have htolerates' : ∀ status,
        (hal.seenThrough Sampler.forget).tolerates b c status = false := fun status => by
      simp only [tolerates, hb.tolerates_none, Bool.false_and]
    rw [reply, reply, performAtFront_strict hpass' htolerates,
      performAtFront_strict hpass htolerates']
    exact reply_of_outcomeThrough hthrough
  -- both refuse a channel outright
  · obtain ⟨hregister, hreject⟩ := not_or.1 hpass
    have hrejects : b.rejectDirectChannels = true := by simpa using hreject
    have hrejects' : (b.withFaults drop duplicate replay accept).rejectDirectChannels = true :=
      hrejects
    cases c with
    | register kind size memory => simp only [reply, performAtFront, hrejects, hrejects']
    | _ => exact absurd (fun _ _ _ => Call.noConfusion) hregister

end Replies

/-! ## Runs -/

/-- What makes the batches of a HAL comparable: its sensors are sound, and among what waits
there is neither a marker nor a replayed event. -/
structure Comparable (hal : Hal) : Prop where
  sound : hal.Sound
  unmarked : hal.Unmarked
  queue : hal.QueuesNoReplay

theorem Comparable.step {hal : Hal} (h : hal.Comparable) (b : Behaviour) {m : Turn}
    (hm : m.InjectsNoMarker) : (hal.step b m).Comparable := by
  refine ⟨h.sound.step b m, h.unmarked.step h.sound b hm, fun i hi => ?_⟩
  rw [waiting_step] at hi
  rcases List.mem_append.1 hi with hi | hi
  · rcases List.mem_append.1 hi with hi | hi
    · split at hi
      · exact absurd hi List.not_mem_nil
      · exact h.queue i hi
    · obtain ⟨e, -, rfl⟩ := List.mem_map.1 hi
      exact Source.noConfusion
  · obtain ⟨e, -, rfl⟩ := List.mem_map.1 hi
    exact Source.noConfusion

theorem ofCatalog_comparable (c : Catalog) (signal : Signal) :
    (ofCatalog c signal).Comparable :=
  ⟨ofCatalog_sound c signal, ofCatalog_unmarked c signal, fun _ hi => absurd hi List.not_mem_nil⟩

section Runs

variable {b : Behaviour}

theorem runAtFront_keeps {P : Hal → Prop} {ms : List Turn}
    (keeps : ∀ hal, ∀ m ∈ ms, P hal → P (hal.step b m)) {hal : Hal} (h : P hal) :
    P (hal.runAtFront b ms) := by
  induction ms generalizing hal with
  | nil => exact h
  | cons m rest ih =>
    exact ih (fun next n hn => keeps next n (List.mem_cons_of_mem m hn))
      (stepAtFront_keeps h (keeps hal m List.mem_cons_self h))

theorem seenThrough_forget {hal : Hal} (hsound : hal.Sound) (hreplay : hal.NoReplay) :
    hal.seenThrough Sampler.forget = hal := by
  have hsensors : hal.sensors.map Sampler.forget = hal.sensors := by
    have hsame : ∀ s ∈ hal.sensors, s.forget = id s := by
      intro s hs
      have hnone := hreplay s.handle s (hsound.sensor?_of_mem hs)
      rw [Sampler.forget, ← hnone]
      rfl
    rw [List.map_congr_left hsame, List.map_id]
  rw [seenThrough, hsensors]

/-- After the same turns the faulty HAL, seen without what it is about to replay, is the
other one. -/
theorem runAtFront_faulty (hb : b.Sober) (drop duplicate replay accept : Bool) {hal hal' : Hal}
    (hseen : hal'.seenThrough Sampler.forget = hal) (hsound : hal.Sound)
    (hreplay : hal.NoReplay) (ms : List Turn) :
    (hal'.runAtFront (b.withFaults drop duplicate replay accept) ms).seenThrough Sampler.forget =
      hal.runAtFront b ms := by
  induction ms generalizing hal hal' with
  | nil => exact hseen
  | cons m rest ih =>
    have hsound' := stepAtFront_keeps (P := Hal.Sound) hsound (hsound.step b m)
    have hreplay' := stepAtFront_keeps (P := Hal.NoReplay) hreplay
      (hreplay.step hb.replays_none m)
    refine ih ?_ hsound' hreplay'
    rw [stepAtFront_seenThrough (Sampler.forget_view b drop duplicate replay accept) rfl, hseen]
    -- the healthy HAL has nothing to forget
    exact seenThrough_forget hsound' hreplay'

theorem sensor?_runAtFront_eq_none_iff (b : Behaviour) (c : Catalog) (signal : Signal)
    (ms : List Turn) (h : Handle) :
    ((ofCatalog c signal).runAtFront b ms).sensor? h = none ↔ h ∉ c.map (·.handle) := by
  have hhandles : ((ofCatalog c signal).runAtFront b ms).sensors.map (·.handle) =
      (ofCatalog c signal).sensors.map (·.handle) :=
    runAtFront_keeps
      (P := fun hal => hal.sensors.map (·.handle) = (ofCatalog c signal).sensors.map (·.handle))
      (fun hal m _ h => (handles_step hal b m).trans h) rfl
  rw [sensor?_eq_none_iff, hhandles, mem_handles_ofCatalog]

end Runs

/-- On one catalog, with one signal and the same turns, none of which injects a marker, a HAL
with any of four faults is compared with one that has none of them. Its state, seen without
what it is about to replay, is the other's state. A call about a handle outside the catalog
succeeds if such handles are tolerated, where it is rejected without the fault unless it injects
additional information, which always succeeds; any other call gets the same reply. A batch, events
replayed left out, is the other's batch with each marker left out, given twice or given once;
without markers the two are the same. -/
theorem faults_confined (c : Catalog) (signal : Signal) {b : Behaviour} (hb : b.Sober)
    (drop duplicate replay accept : Bool) {ms : List Turn}
    (hms : ∀ m ∈ ms, m.InjectsNoMarker) :
    let faulty := b.withFaults drop duplicate replay accept
    let hal := (ofCatalog c signal).runAtFront b ms
    let hal' := (ofCatalog c signal).runAtFront faulty ms
    let times := if drop then 0 else if duplicate then 2 else 1
    hal'.seenThrough Sampler.forget = hal ∧
      (∀ now call, NamesUnknown c call →
        (accept = true → hal'.reply faulty now call = .ok 0) ∧
          (¬IsAdditional call → hal.reply b now call = .error .badValue) ∧
          (IsAdditional call → hal.reply b now call = .ok 0)) ∧
      (∀ now call, ¬(accept = true ∧ NamesUnknown c call) →
        hal'.reply faulty now call = hal.reply b now call) ∧
      ∀ now,
        (hal'.advance faulty now).1.filter (·.source ≠ .replay) =
            (hal.advance b now).1.flatMap (Item.markersTimes times) ∧
          ((hal'.advance faulty now).1.filter (·.source ≠ .replay)).filter
              (!·.event.isFlushMarker) =
            (hal.advance b now).1.filter (!·.event.isFlushMarker) := by
  intro faulty hal hal' times
  have hseen : hal'.seenThrough Sampler.forget = hal :=
    runAtFront_faulty hb drop duplicate replay accept
      (seenThrough_forget (ofCatalog_sound c signal) (ofCatalog_noReplay c signal))
      (ofCatalog_sound c signal) (ofCatalog_noReplay c signal) ms
  have hcomparable : hal'.Comparable :=
    runAtFront_keeps (fun next m hm h => h.step faulty (hms m hm))
      (ofCatalog_comparable c signal)
  have hunknown := sensor?_runAtFront_eq_none_iff b c signal ms
  have hunknown' := sensor?_runAtFront_eq_none_iff faulty c signal ms
  have hbatch : ∀ now, (hal'.advance faulty now).1.filter (·.source ≠ .replay) =
      (hal.advance b now).1.flatMap (Item.markersTimes times) := by
    intro now
    have htimes : times = Sampler.markerCount faulty 1 := rfl
    rw [htimes, ← hseen]
    exact batch_faulty hb drop duplicate replay accept hcomparable.sound hcomparable.unmarked
      hcomparable.queue now
  refine ⟨hseen, ?_, ?_, fun now => ⟨hbatch now, ?_⟩⟩
  · rintro now call ⟨h, hcall, hh⟩
    constructor
    · rintro rfl
      exact reply_tolerated drop duplicate replay hcall ((hunknown' h).2 hh) now
    · exact reply_unknown hb hcall ((hunknown h).2 hh) now
  · intro now call hcall
    rw [← hseen]
    apply reply_faulty hb
    intro haccept h hh hnone
    exact hcall ⟨haccept, h, hh, (hunknown' h).1 hnone⟩
  · rw [hbatch, filter_markersTimes]

/-- A barometer switched on again after a sample, with a flush that is not yet answered. -/
def restartedRun : List Turn :=
  let h := barometer.handle
  [⟨0, .call (.activate h true)⟩, ⟨6000000, .advance⟩, ⟨6000000, .call (.activate h false)⟩,
    ⟨7000000, .call (.activate h true)⟩, ⟨7000000, .call (.flush (Handle.ofInt 8))⟩,
    ⟨8000000, .call (.flush h)⟩]

theorem faults_confined_restarted :
    let b : Behaviour := {}
    let faulty := b.withFaults false true true true
    let hal := (ofCatalog [barometer] silence).runAtFront b restartedRun
    let hal' := (ofCatalog [barometer] silence).runAtFront faulty restartedRun
    let stray := Call.activate (Handle.ofInt 8) true
    b.Sober ∧ (∀ m ∈ restartedRun, m.InjectsNoMarker) ∧
      (hal'.advance faulty 9000000).1.map (·.source) = [.replay, .marker, .marker] ∧
      (hal.advance b 9000000).1.map (·.source) = [.marker] ∧
      hal'.seenThrough Sampler.forget = hal ∧
      hal'.reply faulty 9000000 stray = .ok 0 ∧ hal.reply b 9000000 stray = .error .badValue ∧
      hal'.reply faulty 9000000 (.flush barometer.handle) =
        hal.reply b 9000000 (.flush barometer.handle) ∧
      (hal'.advance faulty 9000000).1.filter (·.source ≠ .replay) =
        (hal.advance b 9000000).1.flatMap (Item.markersTimes 2) := by
  intro b faulty hal hal' stray
  have hb : b.Sober := ⟨⟨rfl, rfl⟩, rfl, rfl⟩
  have hms : ∀ m ∈ restartedRun, m.InjectsNoMarker := by
    intro m hm e he
    simp only [restartedRun, List.mem_cons, List.not_mem_nil, or_false] at hm
    rcases hm with rfl | rfl | rfl | rfl | rfl | rfl <;> cases he
  obtain ⟨hseen, hunknown, hknown, hbatch⟩ :=
    faults_confined [barometer] silence hb false true true true hms
  have hstray : NamesUnknown [barometer] stray := ⟨Handle.ofInt 8, rfl, by decide⟩
  have hflush : ¬(true = true ∧ NamesUnknown [barometer] (.flush barometer.handle)) := by
    rintro ⟨-, h, hh, hout⟩
    cases hh
    exact hout List.mem_cons_self
  refine ⟨hb, hms, by decide +kernel, by decide +kernel, hseen, (hunknown _ _ hstray).1 rfl,
    (hunknown _ _ hstray).2.1 ?_, hknown _ _ hflush, (hbatch 9000000).1⟩
  rintro ⟨e, he, -⟩
  exact Call.noConfusion he

end Hal

end SensorBench
