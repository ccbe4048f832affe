import SensorBench.Proofs.Hal.Conservation
import SensorBench.Proofs.Hal.Quiet
import SensorBench.Proofs.Hal.View

/-!
# Sessions are isolated

Connecting a client leaves of an earlier session nothing but the period and the latency of
each sensor that a later session could see (`sessions_isolated`). Two things are left
besides, and both are dead: the last event of a sensor, which only a HAL that replays looks
at, and the due time of a sensor that is off. `Sampler.veil` takes them away, and channels,
memory and the words of a signal without noise are taken away by `sensorPart`; what is left
after connecting is a function of the settings, and it decides all that a session sees.
-/

set_option autoImplicit false

namespace SensorBench

/-- A behaviour that adds no noise to its samples. -/
def Behaviour.Noiseless (b : Behaviour) : Prop := (b.noise.abs == 0.0) = true

instance (b : Behaviour) : Decidable b.Noiseless := inferInstanceAs (Decidable (_ = true))

theorem Behaviour.Noiseless.quiet {b : Behaviour} (h : b.Noiseless) (words : Nat → UInt32) :
    (Hal.Signal.ofBehaviour b words).Quiet := h

namespace Hal

/-- The inputs of a session that are about sensors, events and time. -/
def Input.InSession : Input → Prop
  | .advance | .call (.activate ..) | .call (.batch ..) | .call (.flush _) | .call (.mode _)
  | .call (.inject _) => True
  | _ => False

/-- What a client sees of a turn: the reply to a call, or a batch of events. -/
inductive Seen where
  | reply (r : Except Status Int)
  | batch (items : List Item)

/-- What a client sees of a turn. -/
def seen (b : Behaviour) (hal : Hal) (m : Turn) : List Seen :=
  match m.input with
  | .call c => [.reply (hal.reply b m.time c)]
  | .advance => [.batch (hal.advance b m.time).1]
  | _ => []

/-- The period and the report latency of a sensor. -/
def Sampler.tuning (s : Sampler) : Int × Int := (s.period, s.latency)

/-- The sensor without what shows in no later session: its last event, and the due time
that it keeps when it is off. -/
def Sampler.veil (s : Sampler) : Sampler :=
  { s with nextDue := if s.enabled then s.nextDue else 0, lastEvent := none }

/-- The signal with all words zero. -/
def Signal.calm (s : Signal) : Signal := { s with words := fun _ => 0, drawn := 0 }

/-- The HAL without its client, its channels and the words of its signal. -/
def sensorPart (hal : Hal) : Hal :=
  { hal with
    queue := none, channels := [], nextChannel := 1, nextToken := 1, memory := #[]
    signal := hal.signal.calm }

/-- What of a HAL a session can see. -/
def visible (hal : Hal) : Hal := (hal.seenThrough Sampler.veil).sensorPart

/-! ## Sensors -/

namespace Sampler

theorem stream_eq (s : Sampler) (now : Int) (signal : Signal) :
    s.stream now signal =
      let times := dueTimes s.nextDue s.period now
      let r := signal.payloads s.descriptor.kind times
      let taken := s.eventsAt times r.1
      if s.batching then
        if (s.loaded now taken).isRipe now then
          (s.buffer ++ taken, (s.loaded now taken).clearBuffer, r.2)
        else ([], s.loaded now taken, r.2)
      else (taken, s.scheduled now taken, r.2) :=
  rfl

theorem stream_forgets (s : Sampler) (now : Int) (signal : Signal) :
    (s.stream now signal).1 = ({ s with lastEvent := none }.stream now signal).1 ∧
      (s.stream now signal).2.1.veil =
        ({ s with lastEvent := none }.stream now signal).2.1.veil ∧
      (s.stream now signal).2.2 = ({ s with lastEvent := none }.stream now signal).2.2 := by
  have hbatching : { s with lastEvent := none }.batching = s.batching := rfl
  have hevents : ∀ times payloads, { s with lastEvent := none }.eventsAt times payloads =
      s.eventsAt times payloads := fun _ _ => rfl
  have hripe : ∀ taken, ({ s with lastEvent := none }.loaded now taken).isRipe now =
      (s.loaded now taken).isRipe now := fun _ => rfl
  rw [stream_eq, stream_eq]
  dsimp only
  rw [hbatching, hevents, hripe]
  split
  · split <;> exact ⟨rfl, rfl, rfl⟩
  · exact ⟨rfl, rfl, rfl⟩

theorem fire_forgets (s : Sampler) (now : Int) (signal : Signal) :
    (s.fire now signal).1 = ({ s with lastEvent := none }.fire now signal).1 ∧
      (s.fire now signal).2.1.veil =
        ({ s with lastEvent := none }.fire now signal).2.1.veil ∧
      (s.fire now signal).2.2 = ({ s with lastEvent := none }.fire now signal).2.2 := by
  simp only [fire]
  split <;> exact ⟨rfl, rfl, rfl⟩

theorem veil_veil (s : Sampler) : s.veil.veil = s.veil := by
  cases h : s.enabled <;> simp [veil, h]

theorem veil_of_enabled {s : Sampler} (h : s.enabled = true) :
    s.veil = { s with lastEvent := none } := by
  simp [veil, h]

theorem sampled_veil (s : Sampler) (measuring : Bool) (now : Int) (signal : Signal) :
    (s.sampled measuring now signal).1 = (s.veil.sampled measuring now signal).1 ∧
      (s.sampled measuring now signal).2.1.veil =
        (s.veil.sampled measuring now signal).2.1.veil ∧
      (s.sampled measuring now signal).2.2 = (s.veil.sampled measuring now signal).2.2 := by
  have hon : s.veil.enabled = s.enabled := rfl
  unfold sampled
  rw [hon]
  cases hm : s.enabled && measuring with
  | false => exact ⟨rfl, (veil_veil s).symm, rfl⟩
  | true =>
    rw [veil_of_enabled (Bool.and_eq_true_iff.1 hm).1]
    simp only [if_true, sample]
    split
    · exact fire_forgets s now signal
    · exact stream_forgets s now signal

theorem answerFlushes_veil (s : Sampler) (b : Behaviour) (now : Int) :
    (s.answerFlushes b now).1 = (s.veil.answerFlushes b now).1 ∧
      (s.answerFlushes b now).2.veil = (s.veil.answerFlushes b now).2.veil := by
  have hpending : s.veil.pendingFlushes = s.pendingFlushes := rfl
  unfold answerFlushes
  rw [hpending]
  split
  · refine ⟨rfl, ?_⟩
    show { s.clearBuffer with pendingFlushes := 0 }.veil =
      { s.clearBuffer with pendingFlushes := 0 }.veil.veil
    rw [veil_veil]
  · exact ⟨rfl, (veil_veil s).symm⟩

/-- What the veil takes away changes nothing of what a step of time delivers and leaves. -/
theorem advance_veil (s : Sampler) (b : Behaviour) (measuring : Bool) (now : Int)
    (signal : Signal) :
    (s.advance b measuring now signal).1 = (s.veil.advance b measuring now signal).1 ∧
      (s.advance b measuring now signal).2.1.veil =
        (s.veil.advance b measuring now signal).2.1.veil ∧
      (s.advance b measuring now signal).2.2 = (s.veil.advance b measuring now signal).2.2 := by
  obtain ⟨hout, hsensor, hsignal⟩ := sampled_veil { s with replay := none } measuring now signal
  have hreplay : { s.veil with replay := none } = { s with replay := none }.veil := rfl
  rw [advance_eq, advance_eq, hreplay]
  dsimp only
  -- both sensors answer their flushes as the one behind the veil
  obtain ⟨hitems, hlast⟩ :=
    answerFlushes_veil ({ s with replay := none }.sampled measuring now signal).2.1 b now
  obtain ⟨hitems', hlast'⟩ :=
    answerFlushes_veil ({ s with replay := none }.veil.sampled measuring now signal).2.1 b now
  rw [hout, hitems, hlast, hsensor, ← hitems', ← hlast']
  exact ⟨rfl, rfl, hsignal⟩

/-- The veil is a view of a HAL that replays nothing. -/
theorem veil_view {b : Behaviour} (hb : b.replayStaleEvents = false) : View veil b b where
  reconnect := rfl
  again := veil_veil
  descriptor := fun _ => rfl
  enabled := fun _ => rfl
  buffer := fun _ => rfl
  disconnect := fun _ => rfl
  switchOn := by
    intro s now
    have hreplay : ∀ t : Sampler, (t.switchOn b now).replay = t.replay := fun t => by
      simp [switchOn, hb]
    simp only [veil, hreplay]
    rfl
  switchOff := fun _ => rfl
  retune := by
    intro s now period latency
    have hrelease : ∀ t : Sampler, t.release.veil = t.veil.release := by
      intro t
      have hbatching : t.veil.batching = t.batching := rfl
      have hbuffer : t.veil.buffer = t.buffer := rfl
      rw [release, release, hbatching, hbuffer]
      split <;> rfl
    have hretune : (s.retune now period latency).veil =
        (s.veil.retune now period latency).veil := by
      cases h : s.enabled <;> simp [veil, retune, h]
    rw [hrelease, hrelease, hretune]
  requestFlush := fun s => (veil_veil s.requestFlush).symm
  advance := fun s measuring now signal => (advance_veil s b measuring now signal).2

end Sampler

/-! ## Signals -/

theorem Signal.Quiet.calm {signal : Signal} (hq : signal.Quiet) : signal.calm.Quiet := hq

theorem Signal.Quiet.reading_calm {signal : Signal} (hq : signal.Quiet) :
    signal.calm.reading = signal.reading :=
  hq.calm.reading_eq hq rfl

section Calm

variable {signal : Signal} (hq : signal.Quiet)

include hq

/-- Without noise a sensor delivers and keeps the same whatever the words are. -/
theorem Sampler.advance_calm (s : Sampler) (b : Behaviour) (measuring : Bool) (now : Int) :
    (s.advance b measuring now signal.calm).1 = (s.advance b measuring now signal).1 ∧
      (s.advance b measuring now signal.calm).2.1 = (s.advance b measuring now signal).2.1 := by
  have hfire : ∀ t : Sampler, (t.fire now signal.calm).1 = (t.fire now signal).1 ∧
      (t.fire now signal.calm).2.1 = (t.fire now signal).2.1 := by
    intro t
    simp only [fire, hq.payload, hq.calm.payload, hq.reading_calm]
    split <;> exact ⟨rfl, rfl⟩
  have hstream : ∀ t : Sampler, (t.stream now signal.calm).1 = (t.stream now signal).1 ∧
      (t.stream now signal.calm).2.1 = (t.stream now signal).2.1 := by
    intro t
    rw [stream_eq, stream_eq]
    simp only [hq.payloads, hq.calm.payloads, hq.reading_calm]
    split
    · split <;> exact ⟨rfl, rfl⟩
    · exact ⟨rfl, rfl⟩
  have hsampled : ∀ t : Sampler,
      (t.sampled measuring now signal.calm).1 = (t.sampled measuring now signal).1 ∧
        (t.sampled measuring now signal.calm).2.1 = (t.sampled measuring now signal).2.1 := by
    intro t
    unfold sampled sample
    split
    · split
      · exact hfire t
      · exact hstream t
    · exact ⟨rfl, rfl⟩
  obtain ⟨hout, hsensor⟩ := hsampled { s with replay := none }
  rw [advance_eq, advance_eq]
  dsimp only
  rw [hout, hsensor]
  exact ⟨rfl, rfl⟩

theorem advanceSensors_calm (b : Behaviour) (measuring : Bool) (now : Int)
    (sensors : List Sampler) :
    (advanceSensors b measuring now signal.calm sensors).1 =
        (advanceSensors b measuring now signal sensors).1 ∧
      (advanceSensors b measuring now signal.calm sensors).2.1 =
        (advanceSensors b measuring now signal sensors).2.1 := by
  induction sensors with
  | nil => exact ⟨rfl, rfl⟩
  | cons s rest ih =>
    obtain ⟨hitems, hsensor⟩ := Sampler.advance_calm hq s b measuring now
    obtain ⟨hmore, hrest⟩ := ih
    simp only [advanceSensors, Sampler.signal_advance hq, Sampler.signal_advance hq.calm, hitems,
      hsensor, hmore, hrest, and_self]

end Calm

/-! ## The part of a HAL that is about sensors -/

section SensorPart

variable (hal : Hal) (b : Behaviour)

/-- The outcome of a call with only the part about sensors of the next state. -/
def outcomeInPart (r : Except Status (Int × Hal)) : Except Status (Int × Hal) :=
  r.map fun p => (p.1, sensorPart p.2)

theorem perform_sensorPart (now : Int) {c : Call} (hc : (Input.call c).InSession) :
    outcomeInPart (hal.perform b now c) = hal.sensorPart.perform b now c := by
  have hsensor : ∀ h, hal.sensorPart.sensor? h = hal.sensor? h := fun _ => rfl
  have hmode : hal.sensorPart.mode = hal.mode := rfl
  cases c with
  | activate h on =>
    rw [perform, perform, activate, activate, hsensor]
    cases hal.sensor? h with
    | none => rfl
    | some s =>
      dsimp only
      split
      · rfl
      · split <;> rfl
  | batch h period latency =>
    rw [perform, perform, batch, batch, hsensor]
    split
    · rfl
    · cases hal.sensor? h with
      | none => rfl
      | some s =>
        dsimp only
        split <;> rfl
  | flush h =>
    rw [perform, perform, flush, flush, hsensor]
    cases hal.sensor? h with
    | none => rfl
    | some s =>
      dsimp only
      split <;> rfl
  | mode mode => rfl
  | inject e =>
    rw [perform, perform, inject, inject, hsensor, hmode]
    split
    · rfl
    · cases hal.sensor? e.handle with
      | none => rfl
      | some s =>
        dsimp only
        split
        · rfl
        · split <;> rfl
  | _ => exact hc.elim

theorem advance_sensorPart (hq : hal.signal.Quiet) (now : Int) :
    (hal.advance b now).1 = (hal.sensorPart.advance b now).1 ∧
      (hal.advance b now).2.sensorPart = (hal.sensorPart.advance b now).2 := by
  obtain ⟨hitems, hsensors⟩ := advanceSensors_calm hq b hal.measuring now hal.sensors
  have hmeasuring : hal.sensorPart.measuring = hal.measuring := rfl
  constructor
  · show hal.waiting ++ (advanceSensors b hal.measuring now hal.signal hal.sensors).1 =
      hal.waiting ++ (advanceSensors b hal.measuring now hal.signal.calm hal.sensors).1
    rw [hitems]
  · simp only [advance, hmeasuring]
    simp only [sensorPart, advanceChannels, signal_advanceSensors hq,
      signal_advanceSensors hq.calm, signal_advanceChannels hq, hsensors]

/-- A turn of a session leaves the part about sensors as that part alone is left. -/
theorem step_sensorPart (hq : hal.signal.Quiet) {m : Turn} (hm : m.input.InSession) :
    (hal.step b m).sensorPart = hal.sensorPart.step b m := by
  obtain ⟨now, input⟩ := m
  cases input with
  | advance => exact (advance_sensorPart hal b hq now).2
  | call c =>
    have h := perform_sensorPart hal b now hm
    rw [step_call, step_call, ← h]
    cases hal.perform b now c <;> rfl
  | _ => exact hm.elim

end SensorPart

/-! ## What a session sees -/

section Visible

variable {hal other : Hal} {b : Behaviour}

/-- The reply to a call depends on the visible part only. -/
theorem reply_visible (hb : b.replayStaleEvents = false) (hal : Hal) (now : Int) {c : Call}
    (hc : (Input.call c).InSession) : hal.reply b now c = hal.visible.reply b now c := by
  have hview := Sampler.veil_view hb
  have hthrough := perform_seenThrough hview hal now c
  have hpart := perform_sensorPart (hal.seenThrough Sampler.veil) b now hc
  have htolerates : ∀ status, hal.visible.tolerates b c status = hal.tolerates b c status := by
    intro status
    have hknown : ∀ h, (hal.visible.sensor? h).isNone = (hal.sensor? h).isNone := by
      intro h
      have hsensor : hal.visible.sensor? h = (hal.seenThrough Sampler.veil).sensor? h := rfl
      rw [hsensor, sensor?_seenThrough hview, Option.isNone_map]
    simp only [tolerates, hknown]
  have hpass : ∀ kind size memory, c ≠ .register kind size memory := by
    rintro kind size memory rfl
    exact hc
  rw [reply, reply, performAtFront_passed (Or.inl hpass), performAtFront_passed (Or.inl hpass)]
  simp only [htolerates]
  rw [visible, ← hpart]
  -- the three outcomes are one status or one reply
  cases hp : hal.perform b now c with
  | error status =>
    cases hp' : (hal.seenThrough Sampler.veil).perform b now c with
    | error status' =>
      rw [hp, hp'] at hthrough
      cases hthrough
      dsimp only [outcomeInPart, Except.map]
      cases hal.tolerates b c status <;> rfl
    | ok r =>
      rw [hp, hp'] at hthrough
      cases hthrough
  | ok r =>
    cases hp' : (hal.seenThrough Sampler.veil).perform b now c with
    | error status' =>
      rw [hp, hp'] at hthrough
      cases hthrough
    | ok r' =>
      rw [hp, hp'] at hthrough
      exact congrArg Except.ok (Prod.mk.inj (Except.ok.inj hthrough)).1

theorem advanceSensors_veil (b : Behaviour) (measuring : Bool) (now : Int) (signal : Signal)
    (sensors : List Sampler) :
    (advanceSensors b measuring now signal sensors).1 =
      (advanceSensors b measuring now signal (sensors.map Sampler.veil)).1 := by
  induction sensors generalizing signal with
  | nil => rfl
  | cons s rest ih =>
    obtain ⟨hitems, -, hsignal⟩ := Sampler.advance_veil s b measuring now signal
    simp only [advanceSensors, List.map_cons, hitems, ih, hsignal]

/-- The batch of a step of time depends on the visible part only. -/
theorem batch_visible (hq : hal.signal.Quiet) (b : Behaviour) (now : Int) :
    (hal.advance b now).1 = (hal.visible.advance b now).1 := by
  have hthrough : (hal.advance b now).1 = ((hal.seenThrough Sampler.veil).advance b now).1 :=
    congrArg (hal.waiting ++ ·) (advanceSensors_veil b hal.measuring now hal.signal hal.sensors)
  rw [hthrough]
  exact (advance_sensorPart (hal.seenThrough Sampler.veil) b hq now).1

theorem seen_visible (hb : b.replayStaleEvents = false) (hq : hal.signal.Quiet) {m : Turn}
    (hm : m.input.InSession) : seen b hal m = seen b hal.visible m := by
  obtain ⟨now, input⟩ := m
  cases input with
  | advance => exact congrArg (fun items => [Seen.batch items]) (batch_visible hq b now)
  | call c => exact congrArg (fun r => [Seen.reply r]) (reply_visible hb hal now hm)
  | _ => exact hm.elim

/-- The visible part after a turn is that of the visible part after it. -/
theorem step_visible (hb : b.replayStaleEvents = false) (hq : hal.signal.Quiet) {m : Turn}
    (hm : m.input.InSession) : (hal.step b m).visible = (hal.visible.step b m).visible := by
  have hpart := step_sensorPart (hal.seenThrough Sampler.veil) b hq hm
  have hagain := step_sensorPart hal.visible b hq.calm hm
  -- taking away the rest and taking away what the veil hides can be exchanged
  calc
    (hal.step b m).visible
      = (((hal.seenThrough Sampler.veil).step b m).seenThrough Sampler.veil).sensorPart := by
        rw [visible, step_seenThrough (Sampler.veil_view hb)]
    _ = ((hal.seenThrough Sampler.veil).step b m).sensorPart.seenThrough Sampler.veil := rfl
    _ = (hal.visible.step b m).seenThrough Sampler.veil := congrArg _ hpart
    _ = (hal.visible.step b m).sensorPart.seenThrough Sampler.veil := (congrArg _ hagain).symm

/-- From states that look alike a session sees the same. -/
theorem along_seen_congr (hb : b.replayStaleEvents = false) (hq : hal.signal.Quiet)
    (hq' : other.signal.Quiet) (halike : hal.visible = other.visible) {session : List Turn}
    (hsession : ∀ m ∈ session, m.input.InSession) :
    along b (seen b) hal session = along b (seen b) other session := by
  induction session generalizing hal other with
  | nil => rfl
  | cons m rest ih =>
    have hm := hsession m List.mem_cons_self
    have hfirst : seen b hal m = seen b other m := by
      rw [seen_visible hb hq hm, seen_visible hb hq' hm, halike]
    have hnext : (hal.step b m).visible = (other.step b m).visible := by
      rw [step_visible hb hq hm, step_visible hb hq' hm, halike]
    show seen b hal m ++ along b (seen b) (hal.step b m) rest =
      seen b other m ++ along b (seen b) (other.step b m) rest
    rw [hfirst, ih ((signal_step hq b m).symm ▸ hq) ((signal_step hq' b m).symm ▸ hq') hnext
      fun n hn => hsession n (List.mem_cons_of_mem m hn)]

end Visible

/-! ## Connecting -/

/-- The settings of a sensor that outlive its client. -/
def Sampler.settings (s : Sampler) : Descriptor × Int × Int := (s.descriptor, s.period, s.latency)

/-- A sensor that was disconnected shows its settings and nothing else. -/
theorem Sampler.veil_disconnect_congr {s t : Sampler} (h : s.settings = t.settings) :
    s.disconnect.veil = t.disconnect.veil := by
  obtain ⟨hd, h⟩ := Prod.mk.inj h
  obtain ⟨hp, hl⟩ := Prod.mk.inj h
  simp only [veil, disconnect, clearBuffer, hd, hp, hl]
  rfl

section Runs

variable {b : Behaviour}

theorem handles_run (hal : Hal) (ms : List Turn) :
    (hal.run b ms).sensors.map (·.handle) = hal.sensors.map (·.handle) :=
  run_keeps (P := fun next => next.sensors.map (·.handle) = hal.sensors.map (·.handle))
    (fun next m hnext => (handles_step next b m).trans hnext) ms rfl

/-- After connecting, two histories that leave every sensor with one period and one latency
look alike. -/
theorem visible_connect_congr {c : Catalog} {words words' : Nat → UInt32} {ms ms' : List Turn}
    {hal hal' : Hal} (hrun : hal = (ofCatalog c (.ofBehaviour b words)).run b ms)
    (hrun' : hal' = (ofCatalog c (.ofBehaviour b words')).run b ms') (hn : b.Noiseless)
    (htuning : ∀ h, (hal.sensor? h).map (·.tuning) = (hal'.sensor? h).map (·.tuning))
    (queue queue' : Nat) (isOpen isOpen' : Bool) :
    (hal.connect b queue isOpen).visible = (hal'.connect b queue' isOpen').visible := by
  have hhandles : hal.sensors.map (·.handle) = hal'.sensors.map (·.handle) := by
    rw [hrun, hrun', handles_run, handles_run]
    rfl
  have hsorted : (hal.sensors.map (·.handle)).Pairwise (· < ·) := by
    rw [hrun]
    exact ((ofCatalog_sound c _).run b ms).sorted
  have hsignal : hal.signal = .ofBehaviour b words := by
    rw [hrun]
    exact @signal_run (ofCatalog c (.ofBehaviour b words)) (hn.quiet words) b ms
  have hsignal' : hal'.signal = .ofBehaviour b words' := by
    rw [hrun']
    exact @signal_run (ofCatalog c (.ofBehaviour b words')) (hn.quiet words') b ms'
  have hsensors : hal.sensors.map (fun s => s.disconnect.veil) =
      hal'.sensors.map (fun s => s.disconnect.veil) := by
    apply map_eq_of_find? hhandles hsorted
    intro k
    show (hal.sensor? k).map _ = (hal'.sensor? k).map _
    -- the two sensors with a handle are of one descriptor
    have hd : (hal.sensor? k).map (·.descriptor) = (hal'.sensor? k).map (·.descriptor) := by
      rw [hrun, hrun', descriptor_run, descriptor_run]
      rfl
    have ht := htuning k
    cases hs : hal.sensor? k with
    | none =>
      rw [hs] at ht
      rw [Option.map_eq_none_iff.1 ht.symm]
    | some s =>
      rw [hs] at ht hd
      obtain ⟨t, ht', htune⟩ := Option.map_eq_some_iff.1 ht.symm
      rw [ht'] at hd ⊢
      exact congrArg some
        (Sampler.veil_disconnect_congr (Prod.ext (Option.some.inj hd) htune.symm))
  simp only [visible, seenThrough, connect, sensorPart, List.map_map, Function.comp_def, hsensors,
    hsignal, hsignal']
  rfl

end Runs

/-- On one catalog, with no noise and no replay of old events: after any two histories that
leave every sensor with one period and one latency, clients that connect see the same. Every
sequence of activations, batches, flushes, modes, injections and steps of time gets the same
replies and the same batches. -/
theorem sessions_isolated (c : Catalog) {b : Behaviour} (hb : b.replayStaleEvents = false)
    (hn : b.Noiseless) (words words' : Nat → UInt32) (ms ms' : List Turn)
    (htuning : ∀ h,
      (((ofCatalog c (.ofBehaviour b words)).run b ms).sensor? h).map (·.tuning) =
        (((ofCatalog c (.ofBehaviour b words')).run b ms').sensor? h).map (·.tuning))
    (queue queue' : Nat) (isOpen isOpen' : Bool) {session : List Turn}
    (hsession : ∀ m ∈ session, m.input.InSession) :
    along b (seen b)
        (((ofCatalog c (.ofBehaviour b words)).run b ms).connect b queue isOpen) session =
      along b (seen b)
        (((ofCatalog c (.ofBehaviour b words')).run b ms').connect b queue' isOpen') session := by
  have hsignal := @signal_run (ofCatalog c (.ofBehaviour b words)) (hn.quiet words) b ms
  have hsignal' := @signal_run (ofCatalog c (.ofBehaviour b words')) (hn.quiet words') b ms'
  apply along_seen_congr hb
  · exact hsignal ▸ hn.quiet words
  · exact hsignal' ▸ hn.quiet words'
  · exact visible_connect_congr rfl rfl hn htuning queue queue' isOpen isOpen'
  · exact hsession

/-- A client that leaves a barometer on, with samples in its buffer and a flush not yet
answered. -/
def untidyRun : List Turn :=
  let h := barometer.handle
  [⟨0, .call (.batch h 0 1000000000)⟩, ⟨0, .call (.activate h true)⟩, ⟨11000000, .advance⟩,
    ⟨12000000, .call (.flush h)⟩]

/-- A client that leaves the HAL for injected events. -/
def injectingRun : List Turn :=
  [⟨5, .call (.batch barometer.handle 0 1000000000)⟩, ⟨6, .call (.mode .dataInjection)⟩]

/-- A client that switches the barometer on, lets it measure and asks for a flush. -/
def measuringSession : List Turn :=
  let h := barometer.handle
  [⟨20000000, .call (.activate h true)⟩, ⟨26000000, .advance⟩, ⟨26000000, .call (.flush h)⟩,
    ⟨27000000, .advance⟩]

theorem sessions_isolated_untidy :
    let b : Behaviour := { noise := 0.0 }
    let untidy := (ofCatalog [barometer] (.ofBehaviour b fun _ => 0)).run b untidyRun
    let injecting := (ofCatalog [barometer] (.ofBehaviour b fun _ => 1)).run b injectingRun
    b.Noiseless ∧ (∀ h, (untidy.sensor? h).map (·.tuning) = (injecting.sensor? h).map (·.tuning)) ∧
      (untidy.buffered barometer.handle).length = 2 ∧ injecting.mode = .dataInjection ∧
      (∀ m ∈ measuringSession, m.input.InSession) ∧
      along b (seen b) (untidy.connect b 1 true) measuringSession =
        along b (seen b) (injecting.connect b 2 false) measuringSession := by
  intro b untidy injecting
  have hn : b.Noiseless := by decide
  have hhandles : untidy.sensors.map (·.handle) = [barometer.handle] := by decide
  have hhandles' : injecting.sensors.map (·.handle) = [barometer.handle] := by decide
  have htuning : ∀ h,
      (untidy.sensor? h).map (·.tuning) = (injecting.sensor? h).map (·.tuning) := by
    intro h
    by_cases hh : h = barometer.handle
    · subst hh
      decide +kernel
    -- no other handle has a sensor
    · have hnone : ∀ hal : Hal, hal.sensors.map (·.handle) = [barometer.handle] →
          hal.sensor? h = none := by
        intro hal hone
        apply List.find?_eq_none.2
        intro s hs hsh
        have hmem : s.handle ∈ hal.sensors.map (·.handle) := List.mem_map_of_mem hs
        rw [hone, List.mem_singleton] at hmem
        exact hh ((of_decide_eq_true hsh).symm.trans hmem)
      rw [hnone untidy hhandles, hnone injecting hhandles']
  have hsession : ∀ m ∈ measuringSession, m.input.InSession := by
    intro m hm
    simp only [measuringSession, List.mem_cons, List.not_mem_nil, or_false] at hm
    rcases hm with rfl | rfl | rfl | rfl <;> trivial
  exact ⟨hn, htuning, by decide +kernel, rfl, hsession,
    sessions_isolated [barometer] rfl hn _ _ untidyRun injectingRun htuning 1 2 true false
      hsession⟩

end Hal

end SensorBench
