import SensorBench.Hal.Basic

/-!
# Calls to a HAL

Every call is a value, with a number as its reply: zero where the call only
succeeds, the channel or token where there is one. `perform` runs a call on the
reference HAL; `performAtFront` adds the faults that sit in front of it. A HAL that
keeps times in words carries out calls by `performInWords` and goes on by
`advanceInWords`.
-/

set_option autoImplicit false

namespace SensorBench

/-- A call to a HAL. A registered memory is given by its number and its declared
size. -/
inductive Call where
  | activate (handle : Handle) (on : Bool)
  | batch (handle : Handle) (period latency : Int)
  | flush (handle : Handle)
  | mode (mode : OperationMode)
  | inject (event : Event)
  | register (kind : MemoryKind) (size memory : Nat)
  | unregister (channel : Int)
  | report (handle : Handle) (channel : Int) (rate : Rate)

namespace Hal

/-- A call on the reference HAL at a clock value: its reply and the next state, or
the status it is rejected with. -/
def perform (hal : Hal) (b : Behaviour) (now : Int) : Call → Except Status (Int × Hal)
  | .activate h on => (hal.activate b now h on).map (0, ·)
  | .batch h period latency => (hal.batch now h period latency).map (0, ·)
  | .flush h => (hal.flush h).map (0, ·)
  | .mode m => .ok (0, hal.setMode m)
  | .inject e => (hal.inject e).map (0, ·)
  | .register kind size memory => hal.register kind size memory
  | .unregister channel => (hal.unregister channel).map (0, ·)
  | .report h channel rate => hal.configReport now h channel rate

/-- The sums of times that a call forms before it is accepted or rejected. -/
def callSums (hal : Hal) (now : Int) : Call → List Int
  | .activate h on => match hal.sensor? h with
    | some s => s.switchSums now on
    | none => []
  | .batch h period latency =>
    if period < 0 ∨ latency < 0 then []
    else match hal.sensor? h with
      | some s => s.retuneSums now period
      | none => []
  | .report h channel rate => match hal.sensor? h, hal.channel? channel, rate.period? with
    | some s, some c, some period =>
      if s.descriptor.supportsMemory c.memoryKind && s.descriptor.supportsRate rate then
        [now + period]
      else []
    | _, _, _ => []
  | _ => []

/-- The sums of times that all schedules form up to `now`. -/
def advanceSums (hal : Hal) (now : Int) : List Int :=
  hal.sensors.flatMap (·.streamSums hal.measuring now) ++
    hal.channels.flatMap (·.2.reportSums now)

/-- A call on a HAL that keeps times in words; a sum that does not fit ends it. -/
def performInWords (hal : Hal) (b : Behaviour) (now : Int) (c : Call) :
    Except String (Except Status (Int × Hal)) :=
  ifFits (hal.callSums now c) (hal.perform b now c)

/-- Every schedule of a HAL that keeps times in words run up to `now`; a sum that does not fit
ends it. -/
def advanceInWords (hal : Hal) (b : Behaviour) (now : Int) : Except String (List Item × Hal) :=
  ifFits (hal.advanceSums now) (hal.advance b now)

/-- The handle whose rejection a tolerant HAL hides, if the call is of such a
kind. -/
def toleratedHandle? : Call → Option Handle
  | .activate h _ | .batch h _ _ | .flush h => some h
  | .inject e => some e.handle
  | _ => none

/-- Whether a rejection is hidden: the fault is set, and the call names a handle
that no sensor has. -/
def tolerates (hal : Hal) (b : Behaviour) (c : Call) (status : Status) : Bool :=
  b.acceptInvalidHandles && status = .badValue &&
    (toleratedHandle? c).any fun h => (hal.sensor? h).isNone

/-- A call through the front of the reference HAL, where channels may be refused
outright and calls on unknown handles may pass unnoticed. -/
def performAtFront (hal : Hal) (b : Behaviour) (now : Int) (c : Call) :
    Except Status (Int × Hal) :=
  match c, b.rejectDirectChannels with
  | .register .., true => .error .noMemory
  | _, _ => match hal.perform b now c with
    | .ok r => .ok r
    | .error status => if hal.tolerates b c status then .ok (0, hal) else .error status

end Hal

end SensorBench
