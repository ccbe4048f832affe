import SensorBench.Event.Basic
import SensorBench.Hal.Behaviour
import SensorBench.Sensor.Plausibility

/-!
# Simulated samples

What a device lying still on a table measures, with uniform noise. The noise
takes one word of a stream for each draw.
-/

set_option autoImplicit false

namespace SensorBench.Hal

/-- A source of samples: the noise, the bias of the accelerometer, a stream of
words and how many of them were drawn. -/
structure Signal where
  noise : Float32
  bias : Float32
  words : Nat → UInt32
  drawn : Nat

namespace Signal

/-- The source of a behaviour. -/
def ofBehaviour (b : Behaviour) (words : Nat → UInt32) : Signal :=
  ⟨b.noise.abs, b.accelerometerBias, words, 0⟩

/-- The stream that repeats a list of words; zeros if the list is empty. -/
def cycle (words : Array UInt32) (n : Nat) : UInt32 := words.getD (n % words.size) 0

/-- One draw of noise: the upper 23 bits of a word as a number from one to two,
moved to the span of the noise. Without noise no word is drawn. -/
def jitter (s : Signal) : Float32 × Signal :=
  if s.noise == 0.0 then (0.0, s)
  else
    let v := Float32.ofBits ((0x3f800000 : UInt32) ||| s.words s.drawn >>> 9)
    let n := s.noise
    ((v - 1.0) * (n - (-n)) + (-n), { s with drawn := s.drawn + 1 })

/-- A sample along three axes around a base, noise drawn for one axis after the
other. -/
def around (s : Signal) (x y z : Float32) : Vector3 × Signal :=
  let (a, s) := s.jitter
  let (b, s) := s.jitter
  let (c, s) := s.jitter
  (.of (x + a) (y + b) (z + c), s)

/-- The brightness at a time, drifting so that it keeps changing. -/
def brightness (time : Int) : Float32 :=
  120.0 + 5.0 * Number.singleOfDouble (Number.doubleOfInt time / 1e9).sin

/-- The sample of a kind of sensor at a time. -/
def payload (s : Signal) (kind : SensorKind) (time : Int) : Payload × Signal :=
  match kind with
  | .accelerometer | .accelerometerUncalibrated | .gravity =>
    let (v, s) := s.around 0.0 0.0 (Checker.gravity + s.bias)
    (.vector v, s)
  | .gyroscope | .gyroscopeUncalibrated | .linearAcceleration =>
    let (v, s) := s.around 0.0 0.0 0.0
    (.vector v, s)
  | .magneticField | .magneticFieldUncalibrated =>
    let (v, s) := s.around 22.0 (-5.0) (-40.0)
    (.vector v, s)
  | .light =>
    let (a, s) := s.jitter
    (.scalar (brightness time + a), s)
  | .stepCounter => (.steps 0, s)
  | _ => (.scalar 1.0, s)

/-- The samples of a kind of sensor at several times. -/
def payloads (s : Signal) (kind : SensorKind) : List Int → List Payload × Signal
  | [] => ([], s)
  | time :: rest =>
    let (p, s) := s.payload kind time
    let (ps, s) := payloads s kind rest
    (p :: ps, s)

end Signal

end SensorBench.Hal
