import SensorBench.Proofs.Hal.Run
import SensorBench.Proofs.Hal.Sampler

/-!
# What one turn does to one sensor

`Sampler.Change` lists all that a turn can do to a sensor, with the guards that the
HAL checks first, and `change_step` says that there is nothing else. Invariants of a
sensor are proved by cases on it; `Sampler.Sound` is the first (`Sound.change`).
-/

set_option autoImplicit false

namespace SensorBench.Hal

namespace Sampler

/-- The sensor without the samples that it may no longer hold back. -/
def release (s : Sampler) : Sampler :=
  if !s.batching && !s.buffer.isEmpty then s.clearBuffer else s

/-- The samples that a sensor may no longer hold back. -/
def released (s : Sampler) : List Event := if s.batching then [] else s.buffer

/-- The inputs that pass a sensor by: they are about something else, ask for what is
so already, or are rejected. -/
def Ignores (s : Sampler) : Input → Prop
  | .advance => False
  | .connect _ _ => False
  | .call (.activate h on) => h = s.handle → s.enabled = on
  | .call (.batch h period latency) => h = s.handle → period < 0 ∨ latency < 0
  | .call (.flush h) => h = s.handle → s.descriptor.isOneShot = true ∨ s.enabled = false
  | _ => True

/-- What a turn can do to a sensor. -/
inductive Change (b : Behaviour) (measuring : Bool) (m : Turn) (signal : Signal)
    (s : Sampler) : Sampler → Prop
  | passed : s.Ignores m.input → Change b measuring m signal s s
  | disconnected (queue : Nat) (isOpen : Bool) : m.input = .connect queue isOpen →
      Change b measuring m signal s s.disconnect
  | switchedOn : m.input = .call (.activate s.handle true) → s.enabled = false →
      Change b measuring m signal s (s.switchOn b m.time)
  | switchedOff : m.input = .call (.activate s.handle false) → s.enabled = true →
      Change b measuring m signal s s.switchOff
  | retuned (period latency : Int) : m.input = .call (.batch s.handle period latency) →
      0 ≤ period → 0 ≤ latency →
      Change b measuring m signal s (s.retune m.time period latency).release
  | flushRequested : m.input = .call (.flush s.handle) → s.descriptor.isOneShot = false →
      s.enabled = true → Change b measuring m signal s s.requestFlush
  | advanced : m.input = .advance →
      Change b measuring m signal s (s.advance b measuring m.time signal).2.1

theorem released_append_buffer_release (s : Sampler) :
    s.released ++ s.release.buffer = s.buffer := by
  rw [released, release, clearBuffer]
  cases hb : s.batching <;> cases hn : s.buffer <;> simp [hn]

theorem release_facts (s : Sampler) :
    s.release.descriptor = s.descriptor ∧ s.release.enabled = s.enabled ∧
      s.release.period = s.period ∧ s.release.latency = s.latency ∧
      s.release.nextDue = s.nextDue ∧ s.release.pendingFlushes = s.pendingFlushes ∧
      s.release.lastEvent = s.lastEvent ∧ s.release.replay = s.replay := by
  rw [release]
  split <;> exact ⟨rfl, rfl, rfl, rfl, rfl, rfl, rfl, rfl⟩

section Sound

variable {s : Sampler}

theorem Sound.disconnect (hs : s.Sound) : s.disconnect.Sound :=
  ⟨fun _ h => absurd h List.not_mem_nil, hs.last,
    fun _ h => absurd h (by simp [Sampler.disconnect]), fun h => absurd rfl h, hs.least_le_period⟩

theorem Sound.switchOn (hs : s.Sound) (b : Behaviour) (now : Int) : (s.switchOn b now).Sound where
  buffered := hs.buffered
  last := hs.last
  replayed := by
    intro e he
    by_cases hb : b.replayStaleEvents = true
    · exact hs.last e (by simpa [Sampler.switchOn, hb] using he)
    · exact hs.replayed e (by simpa [Sampler.switchOn, hb] using he)
  holding := fun h => ⟨rfl, (hs.holding h).2⟩
  least_le_period := hs.least_le_period

theorem Sound.switchOff (hs : s.Sound) : s.switchOff.Sound :=
  ⟨fun _ h => absurd h List.not_mem_nil, hs.last, hs.replayed, fun h => absurd rfl h,
    hs.least_le_period⟩

theorem Sound.retune_release (hs : s.Sound) (now period latency : Int) :
    (s.retune now period latency).release.Sound where
  buffered := by
    intro e he
    have hd := (release_facts (s.retune now period latency)).1
    refine Measured.congr hd (hs.buffered e ?_)
    show e ∈ (s.retune now period latency).buffer
    rw [← released_append_buffer_release]
    exact List.mem_append_right _ he
  last := by
    intro e he
    obtain ⟨hd, -, -, -, -, -, hl, -⟩ := release_facts (s.retune now period latency)
    exact Measured.congr hd (hs.last e (hl ▸ he))
  replayed := by
    intro e he
    obtain ⟨hd, -, -, -, -, -, -, hr⟩ := release_facts (s.retune now period latency)
    exact Measured.congr hd (hs.replayed e (hr ▸ he))
  holding := by
    intro h
    rw [release] at h ⊢
    split
    · next hc =>
      rw [if_pos hc] at h
      exact absurd rfl h
    · next hc =>
      rw [if_neg hc] at h
      -- a buffer outlives the retuning only if the sensor still batches
      have hb : s.buffer ≠ [] := h
      obtain ⟨he, -, hone⟩ := hs.holding hb
      refine ⟨he, ?_, hone⟩
      cases hbat : (s.retune now period latency).batching with
      | true => rfl
      | false =>
        have hne : (s.retune now period latency).buffer.isEmpty = false := by
          simpa [Sampler.retune] using hb
        simp [hbat, hne] at hc
  least_le_period := by
    obtain ⟨hd, -, hp, -⟩ := release_facts (s.retune now period latency)
    rw [hd, hp]
    exact leastPeriod_le_periodFor s.descriptor period

theorem Sound.requestFlush (hs : s.Sound) : s.requestFlush.Sound :=
  ⟨hs.buffered, hs.last, hs.replayed, hs.holding, hs.least_le_period⟩

variable {b : Behaviour} {measuring : Bool} {m : Turn} {signal : Signal} {t : Sampler}

theorem Sound.change (hs : s.Sound) (h : Change b measuring m signal s t) : t.Sound := by
  cases h with
  | passed => exact hs
  | disconnected => exact hs.disconnect
  | switchedOn => exact hs.switchOn b m.time
  | switchedOff => exact hs.switchOff
  | retuned period latency => exact hs.retune_release m.time period latency
  | flushRequested => exact hs.requestFlush
  | advanced => exact hs.advance b measuring m.time signal

theorem Change.descriptor (h : Change b measuring m signal s t) :
    t.descriptor = s.descriptor := by
  cases h with
  | retuned period latency => exact (release_facts _).1
  | advanced => exact (advance_facts b measuring m.time signal).1
  | _ => rfl

end Sound

end Sampler

/-! ## The HAL seen from one sensor -/

/-- The signal when the turn of the sensor with a handle comes. -/
def signalBefore (b : Behaviour) (measuring : Bool) (now : Int) (h : Handle) :
    Signal → List Sampler → Signal
  | signal, [] => signal
  | signal, s :: rest =>
    if s.handle = h then signal
    else signalBefore b measuring now h (s.advance b measuring now signal).2.2 rest

/-- The signal from which the sensor with a handle takes its samples when the HAL is
run up to `now`. -/
def signalFor (hal : Hal) (b : Behaviour) (now : Int) (h : Handle) : Signal :=
  signalBefore b hal.measuring now h hal.signal hal.sensors

theorem handle_of_sensor? {hal : Hal} {h : Handle} {s : Sampler} (hs : hal.sensor? h = some s) :
    s.handle = h := by
  simpa using List.find?_some hs

theorem find?_map_of_handle {f : Sampler → Sampler} (hf : ∀ t, (f t).handle = t.handle)
    (h : Handle) (sensors : List Sampler) :
    (sensors.map f).find? (·.handle = h) = (sensors.find? (·.handle = h)).map f := by
  have hp : (fun t : Sampler => decide (t.handle = h)) ∘ f = fun t => decide (t.handle = h) := by
    funext t
    simp only [Function.comp, hf]
  rw [List.find?_map, hp]

theorem sensor?_setSensor (hal : Hal) (s : Sampler) (h : Handle) :
    (hal.setSensor s).sensor? h =
      (hal.sensor? h).map fun t => if t.handle = s.handle then s else t := by
  -- a sensor is only replaced by one with its own handle
  refine find?_map_of_handle (fun t => ?_) h hal.sensors
  split
  · next ht => exact ht.symm
  · rfl

theorem sensor?_setSensor_self {hal : Hal} {h : Handle} {s t : Sampler}
    (hs : hal.sensor? h = some s) (ht : t.handle = h) : (hal.setSensor t).sensor? h = some t := by
  rw [sensor?_setSensor, hs, Option.map_some, handle_of_sensor? hs, ht, if_pos rfl]

theorem sensor?_setSensor_other {hal : Hal} {h : Handle} {t : Sampler} (ht : t.handle ≠ h) :
    (hal.setSensor t).sensor? h = hal.sensor? h := by
  rw [sensor?_setSensor]
  cases hs : hal.sensor? h with
  | none => rfl
  | some s =>
    rw [Option.map_some, handle_of_sensor? hs, if_neg (Ne.symm ht)]

theorem sensor?_connect (hal : Hal) (b : Behaviour) (queue : Nat) (isOpen : Bool) (h : Handle) :
    (hal.connect b queue isOpen).sensor? h = (hal.sensor? h).map (·.disconnect) :=
  find?_map_of_handle (f := Sampler.disconnect) (fun _ => rfl) h hal.sensors

theorem advanceSensors_find? (b : Behaviour) (measuring : Bool) (now : Int) (h : Handle)
    (signal : Signal) (sensors : List Sampler) :
    (advanceSensors b measuring now signal sensors).2.1.find? (·.handle = h) =
      (sensors.find? (·.handle = h)).map fun s =>
        (s.advance b measuring now (signalBefore b measuring now h signal sensors)).2.1 := by
  induction sensors generalizing signal with
  | nil => rfl
  -- each sensor hands the signal on to the next, hence the generalisation
  | cons s rest ih =>
    have hd : (s.advance b measuring now signal).2.1.handle = s.handle :=
      congrArg Descriptor.handle (Sampler.advance_facts b measuring now signal).1
    simp only [advanceSensors, List.find?_cons, hd, signalBefore]
    by_cases hh : s.handle = h
    · simp [hh]
    · simp only [hh, decide_false, if_false]
      exact ih _

theorem sensor?_advance (hal : Hal) (b : Behaviour) (now : Int) (h : Handle) :
    (hal.advance b now).2.sensor? h = (hal.sensor? h).map fun s =>
      (s.advance b hal.measuring now (hal.signalFor b now h)).2.1 :=
  advanceSensors_find? b hal.measuring now h hal.signal hal.sensors

/-! ## Calls -/

section Calls

variable (hal : Hal) (b : Behaviour) (now : Int)

theorem step_call (c : Call) :
    hal.step b ⟨now, .call c⟩ = hal.afterCall (hal.perform b now c) := rfl

/-- A call that only succeeds gives zero as its reply. -/
theorem afterCall_map (r : Except Status Hal) :
    hal.afterCall (r.map (0, ·)) = match r with
      | .ok next => next
      | .error _ => hal := by
  cases r <;> rfl

theorem step_activate_unknown {h : Handle} (hs : hal.sensor? h = none) (on : Bool) :
    hal.step b ⟨now, .call (.activate h on)⟩ = hal := by
  rw [step_call, perform, afterCall_map, activate, hs]

theorem step_activate {h : Handle} {s : Sampler} (hs : hal.sensor? h = some s) (on : Bool) :
    hal.step b ⟨now, .call (.activate h on)⟩ =
      if s.enabled = on then hal
      else hal.setSensor (if on then s.switchOn b now else s.switchOff) := by
  rw [step_call, perform, afterCall_map, activate, hs]
  dsimp only
  by_cases he : s.enabled = on
  · simp [he]
  · cases on <;> simp [he]

theorem step_batch_rejected {h : Handle} {period latency : Int}
    (hr : hal.sensor? h = none ∨ period < 0 ∨ latency < 0) :
    hal.step b ⟨now, .call (.batch h period latency)⟩ = hal := by
  rw [step_call, perform, afterCall_map, batch]
  rcases hr with hr | hr
  · by_cases hn : period < 0 ∨ latency < 0
    · rw [if_pos hn]
    · rw [if_neg hn, hr]
  · rw [if_pos hr]

/-- A retuned sensor lets go of what it may no longer hold back, and this waits then. -/
theorem batch_eq {h : Handle} {s : Sampler} (hs : hal.sensor? h = some s)
    {period latency : Int} (hp : 0 ≤ period) (hl : 0 ≤ latency) :
    hal.batch now h period latency = .ok
      { hal.setSensor (s.retune now period latency).release with
        waiting := hal.waiting ++
          (s.retune now period latency).released.map (⟨.sample, ·⟩) } := by
  have hn : ¬(period < 0 ∨ latency < 0) := by omega
  rw [batch, if_neg hn, hs]
  dsimp only
  generalize s.retune now period latency = t
  rw [Sampler.release, Sampler.released]
  cases hb : t.batching with
  | true => simp [setSensor]
  | false =>
    cases hbuf : t.buffer with
    | nil => simp [setSensor]
    | cons e rest => simp

theorem step_batch {h : Handle} {s : Sampler} (hs : hal.sensor? h = some s)
    {period latency : Int} (hp : 0 ≤ period) (hl : 0 ≤ latency) :
    hal.step b ⟨now, .call (.batch h period latency)⟩ =
      { hal.setSensor (s.retune now period latency).release with
        waiting := hal.waiting ++
          (s.retune now period latency).released.map (⟨.sample, ·⟩) } := by
  rw [step_call, perform, afterCall_map, batch_eq hal now hs hp hl]

theorem step_flush {h : Handle} {s : Sampler} (hs : hal.sensor? h = some s) :
    hal.step b ⟨now, .call (.flush h)⟩ =
      if s.descriptor.isOneShot || !s.enabled then hal else hal.setSensor s.requestFlush := by
  rw [step_call, perform, afterCall_map, flush, hs]
  dsimp only
  cases s.descriptor.isOneShot || !s.enabled <;> rfl

theorem step_flush_unknown {h : Handle} (hs : hal.sensor? h = none) :
    hal.step b ⟨now, .call (.flush h)⟩ = hal := by
  rw [step_call, perform, afterCall_map, flush, hs]

/-- The events that a call injects for delivery: those that are accepted, additional
information apart. -/
def injected (hal : Hal) (e : Event) : List Event :=
  if e.kind = .additionalInfo then []
  else match hal.inject e with
    | .ok _ => [e]
    | .error _ => []

theorem step_inject (e : Event) :
    hal.step b ⟨now, .call (.inject e)⟩ =
      { hal with waiting := hal.waiting ++ (hal.injected e).map (⟨.injection, ·⟩) } := by
  rw [step_call, perform, afterCall_map, injected, inject]
  by_cases hk : e.kind = .additionalInfo
  · simp [hk]
  · rw [if_neg hk, if_neg hk]
    cases hal.sensor? e.handle with
    | none => simp
    | some s =>
      by_cases hi : s.descriptor.isInjectable = true
      · by_cases hm : hal.mode = .dataInjection <;> simp [hi, hm]
      · simp [hi]

/-- The calls that are about channels or the operation mode touch no sensor and nothing that
waits. -/
theorem step_channel_call {c : Call}
    (hc : match c with
      | .mode _ | .register .. | .unregister _ | .report .. => True
      | _ => False) :
    (hal.step b ⟨now, .call c⟩).sensors = hal.sensors ∧
      (hal.step b ⟨now, .call c⟩).waiting = hal.waiting := by
  rw [step_call]
  cases c with
  | mode _ => exact ⟨rfl, rfl⟩
  | register kind size memory =>
    rw [perform, register]
    split <;> exact ⟨rfl, rfl⟩
  | unregister channel =>
    rw [perform, afterCall_map, unregister]
    cases hal.channel? channel <;> exact ⟨rfl, rfl⟩
  | report h channel rate =>
    rw [perform, configReport]
    split
    · split
      · exact ⟨rfl, rfl⟩
      · split
        · split <;> exact ⟨rfl, rfl⟩
        · exact ⟨rfl, rfl⟩
    · exact ⟨rfl, rfl⟩
  | _ => exact hc.elim

end Calls

/-! ## Turns -/

/-- The sensor that a call is about. -/
def target? : Call → Option Handle
  | .activate h _ | .batch h _ _ | .flush h => some h
  | _ => none

theorem Sampler.ignores_call {s : Sampler} {c : Call} (hc : target? c ≠ some s.handle) :
    s.Ignores (.call c) := by
  cases c with
  | activate | batch | flush => exact fun e => absurd (congrArg some e) hc
  | _ => trivial

theorem sensor?_congr {hal next : Hal} (h : next.sensors = hal.sensors) (k : Handle) :
    next.sensor? k = hal.sensor? k := by
  rw [sensor?, sensor?, h]

theorem setSensor_sensor?_of_ne {hal : Hal} {k h : Handle} {u t : Sampler}
    (hu : hal.sensor? k = some u) (ht : t.handle = u.handle) (hk : k ≠ h) :
    (hal.setSensor t).sensor? h = hal.sensor? h :=
  sensor?_setSensor_other fun e => hk ((handle_of_sensor? hu).symm.trans (ht.symm.trans e))

section Others

variable (hal : Hal) (b : Behaviour) (now : Int)

/-- A call about one sensor leaves the others alone. -/
theorem sensor?_step_call {c : Call} {h : Handle} (hc : target? c ≠ some h) :
    (hal.step b ⟨now, .call c⟩).sensor? h = hal.sensor? h := by
  cases c with
  | activate k on =>
    have hk : k ≠ h := fun e => hc (congrArg some e)
    cases hu : hal.sensor? k with
    | none => rw [step_activate_unknown hal b now hu]
    | some u =>
      rw [step_activate hal b now hu]
      split
      · rfl
      · refine setSensor_sensor?_of_ne hu ?_ hk
        split <;> rfl
  | batch k period latency =>
    have hk : k ≠ h := fun e => hc (congrArg some e)
    by_cases hr : period < 0 ∨ latency < 0
    · rw [step_batch_rejected hal b now (Or.inr hr)]
    · cases hu : hal.sensor? k with
      | none => rw [step_batch_rejected hal b now (Or.inl hu)]
      | some u =>
        rw [step_batch hal b now hu (by omega) (by omega)]
        exact setSensor_sensor?_of_ne hu
          (congrArg Descriptor.handle (Sampler.release_facts _).1) hk
  | flush k =>
    have hk : k ≠ h := fun e => hc (congrArg some e)
    cases hu : hal.sensor? k with
    | none => rw [step_flush_unknown hal b now hu]
    | some u =>
      rw [step_flush hal b now hu]
      split
      · rfl
      · exact setSensor_sensor?_of_ne hu rfl hk
  | inject e => rw [step_inject]; rfl
  | _ => exact sensor?_congr (step_channel_call hal b now trivial).1 h

end Others

/-- A turn brings no new sensor. -/
theorem sensor?_step_eq_none {hal : Hal} {h : Handle} (hs : hal.sensor? h = none)
    (b : Behaviour) (m : Turn) : (hal.step b m).sensor? h = none := by
  obtain ⟨now, input⟩ := m
  cases input with
  | connect queue isOpen =>
    show (hal.connect b queue isOpen).sensor? h = none
    rw [sensor?_connect, hs, Option.map_none]
  | advance =>
    show (hal.advance b now).2.sensor? h = none
    rw [sensor?_advance, hs, Option.map_none]
  | allocate region => exact hs
  | write memory offset bytes => exact hs
  | call c =>
    by_cases hc : target? c = some h
    · cases c with
      | activate k on =>
        cases hc
        rw [step_activate_unknown hal b now hs, hs]
      | batch k period latency =>
        cases hc
        rw [step_batch_rejected hal b now (Or.inl hs), hs]
      | flush k =>
        cases hc
        rw [step_flush_unknown hal b now hs, hs]
      | _ => cases hc
    · rw [sensor?_step_call hal b now hc, hs]

/-- A turn does to a sensor what is listed, and nothing else. -/
theorem change_step {hal : Hal} {h : Handle} {s : Sampler} (hs : hal.sensor? h = some s)
    (b : Behaviour) (m : Turn) :
    ∃ t, (hal.step b m).sensor? h = some t ∧
      Sampler.Change b hal.measuring m (hal.signalFor b m.time h) s t := by
  have hh := handle_of_sensor? hs
  obtain ⟨now, input⟩ := m
  cases input with
  | connect queue isOpen =>
    refine ⟨s.disconnect, ?_, .disconnected queue isOpen rfl⟩
    show (hal.connect b queue isOpen).sensor? h = _
    rw [sensor?_connect, hs, Option.map_some]
  | advance =>
    refine ⟨_, ?_, .advanced rfl⟩
    show (hal.advance b now).2.sensor? h = _
    rw [sensor?_advance, hs, Option.map_some]
  | allocate region => exact ⟨s, hs, .passed trivial⟩
  | write memory offset bytes => exact ⟨s, hs, .passed trivial⟩
  | call c =>
    by_cases hc : target? c = some h
    · cases c with
      | activate k on =>
        cases hc
        rw [step_activate hal b now hs]
        split
        · next he => exact ⟨s, hs, .passed fun _ => he⟩
        · next he =>
          refine ⟨_, sensor?_setSensor_self hs (by split <;> exact hh), ?_⟩
          cases on with
          | true => exact .switchedOn (by rw [hh]) (Bool.eq_false_iff.2 he)
          | false => exact .switchedOff (by rw [hh]) (by simpa using he)
      | batch k period latency =>
        cases hc
        by_cases hr : period < 0 ∨ latency < 0
        · rw [step_batch_rejected hal b now (Or.inr hr)]
          exact ⟨s, hs, .passed fun _ => hr⟩
        · rw [step_batch hal b now hs (by omega) (by omega)]
          refine ⟨_, sensor?_setSensor_self hs ?_,
            .retuned period latency (by rw [hh]) (by omega) (by omega)⟩
          exact (congrArg Descriptor.handle (Sampler.release_facts _).1).trans hh
      | flush k =>
        cases hc
        rw [step_flush hal b now hs]
        split
        · next hr => exact ⟨s, hs, .passed fun _ => by simpa using hr⟩
        · next hr =>
          simp only [Bool.or_eq_true, Bool.not_eq_true', not_or, Bool.not_eq_true,
            Bool.not_eq_false] at hr
          exact ⟨_, sensor?_setSensor_self hs hh, .flushRequested (by rw [hh]) hr.1 hr.2⟩
      | _ => cases hc
    -- a call about something else passes the sensor by
    · rw [sensor?_step_call hal b now hc]
      rw [← hh] at hc
      exact ⟨s, hs, .passed (Sampler.ignores_call hc)⟩

/-- A sensor after a turn is one from before that the turn has changed. -/
theorem exists_of_sensor?_step {hal : Hal} {b : Behaviour} {m : Turn} {h : Handle} {t : Sampler}
    (ht : (hal.step b m).sensor? h = some t) :
    ∃ s, hal.sensor? h = some s ∧
      Sampler.Change b hal.measuring m (hal.signalFor b m.time h) s t := by
  cases hs : hal.sensor? h with
  | none =>
    rw [sensor?_step_eq_none hs b m] at ht
    cases ht
  | some s =>
    obtain ⟨u, hu, hchange⟩ := change_step hs b m
    rw [ht] at hu
    cases hu
    exact ⟨s, rfl, hchange⟩

theorem descriptor_step (hal : Hal) (b : Behaviour) (m : Turn) (h : Handle) :
    ((hal.step b m).sensor? h).map (·.descriptor) = (hal.sensor? h).map (·.descriptor) := by
  cases hs : hal.sensor? h with
  | none => rw [sensor?_step_eq_none hs]
  | some s =>
    obtain ⟨t, ht, hchange⟩ := change_step hs b m
    rw [ht, Option.map_some, Option.map_some, hchange.descriptor]

/-- Every run keeps what the sensors are. -/
theorem descriptor_run (hal : Hal) (b : Behaviour) (ms : List Turn) (h : Handle) :
    ((hal.run b ms).sensor? h).map (·.descriptor) = (hal.sensor? h).map (·.descriptor) := by
  refine run_keeps (P := fun next => (next.sensor? h).map (·.descriptor) =
    (hal.sensor? h).map (·.descriptor)) (fun next m hnext => ?_) ms rfl
  rw [← hnext]
  exact descriptor_step next b m h

/-- What every change of a sensor brings about, a turn brings about for all sensors. -/
theorem forall_sensor?_step {P Q : Sampler → Prop} {b : Behaviour} {m : Turn}
    (keeps : ∀ {measuring signal s t}, Sampler.Change b measuring m signal s t → P s → Q t)
    {hal : Hal} (h : ∀ k s, hal.sensor? k = some s → P s) :
    ∀ k t, (hal.step b m).sensor? k = some t → Q t := by
  intro k t ht
  obtain ⟨s, hs, hchange⟩ := exists_of_sensor?_step ht
  exact keeps hchange (h k s hs)

end SensorBench.Hal
