import SensorBench.Proofs.Hal.Channels
import SensorBench.Proofs.Hal.Sound

/-!
# Signals without noise

A signal without noise draws no word, so that no sample depends on the samples taken
before it. Whatever a HAL does then leaves its signal as it is (`signal_run`), and two
such signals with one bias give the same samples (`Quiet.reading_eq`).
-/

set_option autoImplicit false

namespace SensorBench.Hal

namespace Signal

/-- A signal that adds no noise. -/
def Quiet (s : Signal) : Prop := (s.noise == 0.0) = true

instance (s : Signal) : Decidable s.Quiet := inferInstanceAs (Decidable (_ = true))

/-- The sample of a kind of sensor at a time, without the signal after it. -/
def reading (s : Signal) (kind : SensorKind) (time : Int) : Payload := (s.payload kind time).1

section Quiet

variable {s : Signal} (hs : s.Quiet)

include hs

theorem Quiet.jitter : s.jitter = (0.0, s) := if_pos hs

theorem Quiet.around (x y z : Float32) :
    s.around x y z = (.of (x + 0.0) (y + 0.0) (z + 0.0), s) := by
  simp only [Signal.around, hs.jitter]

theorem Quiet.payload (kind : SensorKind) (time : Int) :
    s.payload kind time = (s.reading kind time, s) := by
  have hsignal : (s.payload kind time).2 = s := by
    unfold Signal.payload
    split <;> simp only [hs.around, hs.jitter]
  exact Prod.ext rfl hsignal

theorem Quiet.payloads (kind : SensorKind) (times : List Int) :
    s.payloads kind times = (times.map (s.reading kind), s) := by
  induction times with
  | nil => rfl
  | cons time rest ih => simp only [Signal.payloads, hs.payload, ih, List.map_cons]

/-- Without noise the bias alone decides what is measured. -/
theorem Quiet.reading_eq {t : Signal} (ht : t.Quiet) (hbias : s.bias = t.bias) :
    s.reading = t.reading := by
  funext kind time
  unfold reading Signal.payload
  cases kind <;> simp only [hs.around, ht.around, hs.jitter, ht.jitter, hbias]

end Quiet

end Signal

/-! ## Sensors -/

namespace Sampler

/-- The event of a sensor with the sample at a time. -/
def measure (s : Sampler) (signal : Signal) (time : Int) : Event :=
  ⟨s.handle, s.descriptor.kind, time, signal.reading s.descriptor.kind time⟩

section Quiet

variable {signal : Signal} (hq : signal.Quiet)

include hq

/-- Without noise a sample depends on nothing but the sensor and the time. -/
theorem emitted_eq_map (s : Sampler) (measuring : Bool) (now : Int) :
    s.emitted measuring now signal =
      if s.enabled && measuring then (s.due now).map (s.measure signal) else [] := by
  rw [emitted, hq.payloads, eventsAt, List.zipWith_map_right, List.zipWith_self]
  rfl

theorem signal_fire (s : Sampler) (now : Int) : (s.fire now signal).2.2 = signal := by
  simp only [fire, hq.payload]
  split <;> rfl

theorem signal_stream (s : Sampler) (now : Int) : (s.stream now signal).2.2 = signal := by
  simp only [stream, hq.payloads]
  split
  · split <;> rfl
  · rfl

theorem signal_sampled (s : Sampler) (measuring : Bool) (now : Int) :
    (s.sampled measuring now signal).2.2 = signal := by
  unfold sampled sample
  split
  · split
    · exact signal_fire hq s now
    · exact signal_stream hq s now
  · rfl

theorem signal_advance (s : Sampler) (b : Behaviour) (measuring : Bool) (now : Int) :
    (s.advance b measuring now signal).2.2 = signal := by
  rw [advance_eq]
  exact signal_sampled hq _ measuring now

end Quiet

end Sampler

section Quiet

variable {signal : Signal} (hq : signal.Quiet)

include hq

theorem signal_advanceSensors (b : Behaviour) (measuring : Bool) (now : Int)
    (sensors : List Sampler) : (advanceSensors b measuring now signal sensors).2.2 = signal := by
  induction sensors with
  | nil => rfl
  | cons s rest ih => simp only [advanceSensors, Sampler.signal_advance hq, ih]

theorem signalBefore_eq (b : Behaviour) (measuring : Bool) (now : Int) (h : Handle)
    (sensors : List Sampler) : signalBefore b measuring now h signal sensors = signal := by
  induction sensors with
  | nil => rfl
  | cons s rest ih =>
    rw [signalBefore, Sampler.signal_advance hq, ih]
    exact ite_self _

/-! ## Channels -/

theorem DirectReport.signal_advance (r : DirectReport) (now : Int) :
    (r.advance now signal).2.2 = signal := by
  show (signal.payloads r.kind (dueTimes r.nextDue r.period now)).2 = signal
  rw [hq.payloads]

theorem Channel.signal_reportsAdvance (now : Int) (reports : List (Handle × DirectReport)) :
    (Channel.reportsAdvance now signal reports).2.2 = signal := by
  induction reports with
  | nil => rfl
  | cons p rest ih => simp only [Channel.reportsAdvance, DirectReport.signal_advance hq, ih]

theorem Channel.signal_advance (c : Channel) (now : Int) :
    (c.advance now signal).2.2 = signal := by
  unfold Channel.advance
  split
  · rfl
  · exact Channel.signal_reportsAdvance hq now c.reports

theorem signal_advanceChannels (now : Int) (memory : Array Region)
    (channels : List (Int × Channel)) :
    (advanceChannels now signal memory channels).2.2 = signal := by
  induction channels generalizing memory with
  | nil => rfl
  | cons p rest ih => simp only [advanceChannels, Channel.signal_advance hq, ih]

theorem channelSignalBefore_eq (now number : Int) (channels : List (Int × Channel)) :
    channelSignalBefore now number signal channels = signal := by
  induction channels with
  | nil => rfl
  | cons p rest ih =>
    rw [channelSignalBefore, Channel.signal_advance hq, ih]
    exact ite_self _

end Quiet

/-! ## The whole HAL -/

/-- No call changes the signal, whatever its noise. -/
theorem signal_step_call (hal : Hal) (b : Behaviour) (now : Int) (c : Call) :
    (hal.step b ⟨now, .call c⟩).signal = hal.signal := by
  cases c with
  | activate k on =>
    cases hs : hal.sensor? k with
    | none => rw [step_activate_unknown hal b now hs]
    | some s =>
      rw [step_activate hal b now hs]
      split <;> rfl
  | batch k period latency =>
    by_cases hr : period < 0 ∨ latency < 0
    · rw [step_batch_rejected hal b now (Or.inr hr)]
    · cases hs : hal.sensor? k with
      | none => rw [step_batch_rejected hal b now (Or.inl hs)]
      | some s =>
        rw [step_batch hal b now hs (by omega) (by omega)]
        rfl
  | flush k =>
    cases hs : hal.sensor? k with
    | none => rw [step_flush_unknown hal b now hs]
    | some s =>
      rw [step_flush hal b now hs]
      split <;> rfl
  | mode mode => rfl
  | inject e => rw [step_inject]
  | register kind size memory =>
    by_cases hr : size < Record.width ∨ (hal.region memory).size < size
    · rw [step_register_rejected hal b now hr]
    · rw [step_register hal b now hr]
  | unregister n => rw [step_unregister]
  | report h n rate =>
    rw [step_call, perform]
    cases hr : hal.configReport now h n rate with
    | error status => rfl
    | ok reply =>
      obtain ⟨token, next⟩ := reply
      show next.signal = hal.signal
      cases reported_of_ok hr <;> rfl

section Hal

variable {hal : Hal} (hq : hal.signal.Quiet)

include hq

theorem signalFor_eq (b : Behaviour) (now : Int) (h : Handle) :
    hal.signalFor b now h = hal.signal :=
  signalBefore_eq hq b hal.measuring now h hal.sensors

theorem signalLeft_eq (b : Behaviour) (now : Int) : hal.signalLeft b now = hal.signal :=
  signal_advanceSensors hq b hal.measuring now hal.sensors

theorem channelSignal_eq (b : Behaviour) (now number : Int) :
    hal.channelSignal b now number = hal.signal := by
  rw [channelSignal, signalLeft_eq hq, channelSignalBefore_eq hq]

theorem signal_step (b : Behaviour) (m : Turn) : (hal.step b m).signal = hal.signal := by
  obtain ⟨now, input⟩ := m
  cases input with
  | call c => exact signal_step_call hal b now c
  | advance =>
    show (advanceChannels now (hal.signalLeft b now) hal.memory hal.channels).2.2 = hal.signal
    rw [signalLeft_eq hq, signal_advanceChannels hq]
  | _ => rfl

/-- Without noise a HAL keeps the signal that it started with. -/
theorem signal_run (b : Behaviour) (ms : List Turn) : (hal.run b ms).signal = hal.signal := by
  refine run_keeps (P := fun next => next.signal = hal.signal) (fun next m hnext => ?_) ms rfl
  rw [signal_step (hnext ▸ hq), hnext]

end Hal

end SensorBench.Hal
