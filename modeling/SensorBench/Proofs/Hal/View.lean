import SensorBench.Proofs.Hal.Channels
import SensorBench.Proofs.Hal.Sound

/-!
# Views of a HAL

A view takes something away from every sensor. If what it leaves of a sensor changes in
the same way whether or not the rest is there (`Sampler.View`), then so does the whole HAL:
calls are answered alike, and a turn and a view can be exchanged (`perform_seenThrough`,
`step_seenThrough`). The two behaviours of a view may differ, so that one HAL is compared
with another.
-/

set_option autoImplicit false

namespace SensorBench.Hal

/-- A map of sensors that leaves what calls look at, and from which on a sensor with one
behaviour and its image with another go on alike. -/
structure Sampler.View (f : Sampler → Sampler) (b b' : Behaviour) : Prop where
  reconnect : b.ignoreReinitialize = b'.ignoreReinitialize
  again : ∀ s, f (f s) = f s
  descriptor : ∀ s, (f s).descriptor = s.descriptor
  enabled : ∀ s, (f s).enabled = s.enabled
  buffer : ∀ s, (f s).buffer = s.buffer
  disconnect : ∀ s, f s.disconnect = f (f s).disconnect
  switchOn : ∀ s now, f (s.switchOn b now) = f ((f s).switchOn b' now)
  switchOff : ∀ s, f s.switchOff = f (f s).switchOff
  retune : ∀ s now period latency,
    f (s.retune now period latency).release = f ((f s).retune now period latency).release
  requestFlush : ∀ s, f s.requestFlush = f (f s).requestFlush
  advance : ∀ s measuring now signal,
    f (s.advance b measuring now signal).2.1 = f ((f s).advance b' measuring now signal).2.1 ∧
      (s.advance b measuring now signal).2.2 = ((f s).advance b' measuring now signal).2.2

/-- The reply of a HAL to a call. -/
def reply (b : Behaviour) (hal : Hal) (now : Int) (c : Call) : Except Status Int :=
  (hal.performAtFront b now c).map (·.1)

/-- A call that the front lets pass gets the HAL's reply, unless its rejection is
tolerated. -/
theorem performAtFront_passed {b : Behaviour} {c : Call}
    (hc : (∀ kind size memory, c ≠ .register kind size memory) ∨ b.rejectDirectChannels = false)
    (hal : Hal) (now : Int) :
    hal.performAtFront b now c = match hal.perform b now c with
      | .ok r => .ok r
      | .error status => if hal.tolerates b c status then .ok (0, hal) else .error status := by
  unfold performAtFront
  split
  · next kind size memory hrejects =>
    rcases hc with hc | hc
    · exact absurd rfl (hc kind size memory)
    · exact absurd (hc.symm.trans hrejects) (by decide)
  · rfl

theorem performAtFront_strict {b : Behaviour} {c : Call}
    (hc : (∀ kind size memory, c ≠ .register kind size memory) ∨ b.rejectDirectChannels = false)
    {hal : Hal} (h : ∀ status, hal.tolerates b c status = false) (now : Int) :
    hal.performAtFront b now c = hal.perform b now c := by
  rw [performAtFront_passed hc]
  cases hal.perform b now c with
  | ok r => rfl
  | error status =>
    dsimp only
    rw [h]
    rfl

/-- The HAL with all its sensors seen through a map. -/
def seenThrough (f : Sampler → Sampler) (hal : Hal) : Hal :=
  { hal with sensors := hal.sensors.map f }

/-- The outcome of a call with the next state seen through a map. -/
def outcomeThrough (f : Sampler → Sampler) (r : Except Status (Int × Hal)) :
    Except Status (Int × Hal) := r.map fun p => (p.1, seenThrough f p.2)

theorem outcomeThrough_ok {f : Sampler → Sampler} {hal next : Hal} (reply : Int)
    (h : hal.seenThrough f = next.seenThrough f) :
    outcomeThrough f (.ok (reply, hal)) = outcomeThrough f (.ok (reply, next)) :=
  congrArg (fun seen => Except.ok (reply, seen)) h

theorem reply_of_outcomeThrough {f : Sampler → Sampler} {r r' : Except Status (Int × Hal)}
    (h : outcomeThrough f r = outcomeThrough f r') : r.map (·.1) = r'.map (·.1) := by
  have hreply : ∀ r, (outcomeThrough f r).map (·.1) = r.map (·.1) := fun r => by cases r <;> rfl
  rw [← hreply, h, hreply]

section View

variable {f : Sampler → Sampler} {b b' : Behaviour} (hf : Sampler.View f b b')

include hf

theorem Sampler.View.handle (s : Sampler) : (f s).handle = s.handle :=
  congrArg Descriptor.handle (hf.descriptor s)

theorem Sampler.View.released (s : Sampler) (now period latency : Int) :
    ((f s).retune now period latency).released = (s.retune now period latency).released := by
  have hbatching : ((f s).retune now period latency).batching =
      (s.retune now period latency).batching := by
    show (0 < latency && 0 < (f s).descriptor.fifoMax.toNat) = _
    rw [hf.descriptor]
    rfl
  have hbuffer : ((f s).retune now period latency).buffer = s.buffer := hf.buffer s
  rw [Sampler.released, Sampler.released, hbatching, hbuffer]
  rfl

theorem sensor?_seenThrough (hal : Hal) (h : Handle) :
    (hal.seenThrough f).sensor? h = (hal.sensor? h).map f :=
  find?_map_of_handle hf.handle h hal.sensors

theorem seenThrough_again (hal : Hal) : (hal.seenThrough f).seenThrough f = hal.seenThrough f := by
  rw [seenThrough, seenThrough, List.map_map]
  congr 1
  exact List.map_congr_left fun s _ => hf.again s

theorem seenThrough_setSensor (hal : Hal) (s : Sampler) :
    (hal.setSensor s).seenThrough f = (hal.seenThrough f).setSensor (f s) := by
  rw [seenThrough, seenThrough, setSensor, setSensor, List.map_map, List.map_map]
  congr 1
  apply List.map_congr_left
  intro t _
  simp only [Function.comp, hf.handle]
  split <;> rfl

/-- Sensors that look alike may be set in a HAL or in what is seen of it. -/
theorem setSensor_seenThrough (hal : Hal) {s t : Sampler} (h : f s = f t) :
    (hal.setSensor s).seenThrough f = ((hal.seenThrough f).setSensor t).seenThrough f := by
  rw [seenThrough_setSensor hf, seenThrough_setSensor hf, seenThrough_again hf, h]

theorem seenThrough_setChannel (hal : Hal) (n : Int) (c : Channel) :
    (hal.setChannel n c).seenThrough f = ((hal.seenThrough f).setChannel n c).seenThrough f :=
  congrArg (fun seen => { seen with channels := (hal.setChannel n c).channels })
    (seenThrough_again hf hal).symm

theorem configReport_seenThrough (hal : Hal) (now : Int) (h : Handle) (n : Int) (rate : Rate) :
    outcomeThrough f (hal.configReport now h n rate) =
      outcomeThrough f ((hal.seenThrough f).configReport now h n rate) := by
  have hchannel : (hal.seenThrough f).channel? n = hal.channel? n := rfl
  simp only [configReport, sensor?_seenThrough hf, hchannel]
  cases hal.sensor? h with
  | none => rfl
  | some s =>
    cases hal.channel? n with
    | none => rfl
    | some c =>
      simp only [Option.map_some, hf.descriptor]
      split
      · exact outcomeThrough_ok _ (seenThrough_setChannel hf hal n _)
      · split
        · split
          · exact outcomeThrough_ok _ (seenThrough_setChannel hf hal n _)
          · exact outcomeThrough_ok _ (congrArg
              (fun seen => { seen with nextToken := hal.nextToken + 1 })
              (seenThrough_setChannel hf hal n _))
        · rfl

/-- A call is answered as by what is seen of the HAL, and leaves what is seen alike. -/
theorem perform_seenThrough (hal : Hal) (now : Int) (c : Call) :
    outcomeThrough f (hal.perform b now c) =
      outcomeThrough f ((hal.seenThrough f).perform b' now c) := by
  cases c with
  | activate h on =>
    simp only [perform, activate, sensor?_seenThrough hf]
    cases hal.sensor? h with
    | none => rfl
    | some s =>
      simp only [Option.map_some, hf.enabled]
      split
      · exact outcomeThrough_ok 0 (seenThrough_again hf hal).symm
      · split
        · exact outcomeThrough_ok 0 (setSensor_seenThrough hf hal (hf.switchOn s now))
        · exact outcomeThrough_ok 0 (setSensor_seenThrough hf hal (hf.switchOff s))
  | batch h period latency =>
    rw [perform, perform]
    by_cases hr : period < 0 ∨ latency < 0
    · rw [batch, batch, if_pos hr, if_pos hr]
    · have hseen := sensor?_seenThrough hf hal h
      cases hs : hal.sensor? h with
      | none =>
        rw [hs] at hseen
        rw [batch, batch, if_neg hr, if_neg hr, hs, hseen]
        rfl
      | some s =>
        rw [hs] at hseen
        rw [batch_eq hal now hs (by omega) (by omega),
          batch_eq (hal.seenThrough f) now hseen (by omega) (by omega), hf.released]
        -- what is let go of waits in both
        apply outcomeThrough_ok 0
        exact congrArg (fun seen => { seen with
          waiting := hal.waiting ++ (s.retune now period latency).released.map (Item.mk .sample) })
          (setSensor_seenThrough hf hal (hf.retune s now period latency))
  | flush h =>
    simp only [perform, flush, sensor?_seenThrough hf]
    cases hal.sensor? h with
    | none => rfl
    | some s =>
      simp only [Option.map_some, hf.enabled, hf.descriptor]
      split
      · rfl
      · exact outcomeThrough_ok 0 (setSensor_seenThrough hf hal (hf.requestFlush s))
  | mode mode =>
    exact outcomeThrough_ok 0
      (congrArg (fun seen => { seen with mode }) (seenThrough_again hf hal).symm)
  | inject e =>
    have hmode : (hal.seenThrough f).mode = hal.mode := rfl
    have hwaiting : (hal.seenThrough f).waiting = hal.waiting := rfl
    simp only [perform, inject, sensor?_seenThrough hf, hmode]
    split
    · exact outcomeThrough_ok 0 (seenThrough_again hf hal).symm
    · cases hal.sensor? e.handle with
      | none => rfl
      | some s =>
        simp only [Option.map_some, hf.descriptor]
        split
        · rfl
        · split
          · rfl
          · exact outcomeThrough_ok 0 (congrArg
              (fun seen => { seen with waiting := hal.waiting ++ [Item.mk .injection e] })
              (seenThrough_again hf hal).symm)
  | register kind size memory =>
    have hregion : (hal.seenThrough f).region memory = hal.region memory := rfl
    rw [perform, perform, register, register, hregion]
    split
    · rfl
    · refine outcomeThrough_ok _ (congrArg (fun seen => { seen with
        memory := hal.memory.modify memory fun r => r.fill 0
        channels := hal.channels ++ [(hal.nextChannel, Channel.mk kind size memory 0 [])]
        nextChannel := hal.nextChannel + 1 }) (seenThrough_again hf hal).symm)
  | unregister n =>
    have hchannel : (hal.seenThrough f).channel? n = hal.channel? n := rfl
    rw [perform, perform, unregister, unregister, hchannel]
    cases hal.channel? n with
    | none => rfl
    | some c =>
      exact outcomeThrough_ok 0 (congrArg
        (fun seen => { seen with channels := hal.channels.filter (·.1 ≠ n) })
        (seenThrough_again hf hal).symm)
  | report h n rate => exact configReport_seenThrough hf hal now h n rate

/-- Sensors and what is seen of them are advanced alike, from one signal to one signal. -/
theorem advanceSensors_seenThrough (measuring : Bool) (now : Int) (signal : Signal)
    (sensors : List Sampler) :
    (advanceSensors b measuring now signal sensors).2.1.map f =
        (advanceSensors b' measuring now signal (sensors.map f)).2.1.map f ∧
      (advanceSensors b measuring now signal sensors).2.2 =
        (advanceSensors b' measuring now signal (sensors.map f)).2.2 := by
  induction sensors generalizing signal with
  | nil => exact ⟨rfl, rfl⟩
  | cons s rest ih =>
    obtain ⟨hsensor, hsignal⟩ := hf.advance s measuring now signal
    obtain ⟨hrest, hlast⟩ := ih (s.advance b measuring now signal).2.2
    rw [hsignal] at hrest hlast
    simp only [advanceSensors, List.map_cons, hsensor, hsignal, hrest, hlast, and_self]

/-- A turn leaves what is seen of a HAL as it leaves what is seen of what was seen before. -/
theorem step_seenThrough (hal : Hal) (m : Turn) :
    (hal.step b m).seenThrough f = ((hal.seenThrough f).step b' m).seenThrough f := by
  obtain ⟨now, input⟩ := m
  cases input with
  | call c =>
    have h := perform_seenThrough hf hal now c
    rw [step_call, step_call]
    cases hc : hal.perform b now c with
    | error status =>
      cases hc' : (hal.seenThrough f).perform b' now c with
      | error status' => exact (seenThrough_again hf hal).symm
      | ok r =>
        rw [hc, hc'] at h
        cases h
    | ok r =>
      cases hc' : (hal.seenThrough f).perform b' now c with
      | error status =>
        rw [hc, hc'] at h
        cases h
      | ok r' =>
        rw [hc, hc'] at h
        exact (Prod.mk.inj (Except.ok.inj h)).2
  | connect queue isOpen =>
    have hsensors : (hal.sensors.map (·.disconnect)).map f =
        ((hal.sensors.map f).map (·.disconnect)).map f := by
      simp only [List.map_map]
      exact List.map_congr_left fun s _ => hf.disconnect s
    simp only [step, connect, seenThrough, hsensors, hf.reconnect]
    rfl
  | advance =>
    obtain ⟨hsensors, hsignal⟩ :=
      advanceSensors_seenThrough hf hal.measuring now hal.signal hal.sensors
    have hmeasuring : (hal.seenThrough f).measuring = hal.measuring := rfl
    show seenThrough f (hal.advance b now).2 = seenThrough f ((hal.seenThrough f).advance b' now).2
    simp only [advance, hmeasuring]
    simp only [seenThrough, hsensors, hsignal]
  | allocate region =>
    exact congrArg (fun seen => { seen with memory := hal.memory.push region })
      (seenThrough_again hf hal).symm
  | write memory offset bytes =>
    exact congrArg (fun seen => { seen with
      memory := hal.memory.modify memory fun r => patched r offset bytes })
      (seenThrough_again hf hal).symm

end View

end SensorBench.Hal
