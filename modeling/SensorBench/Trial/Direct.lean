import SensorBench.Direct.Audit
import SensorBench.Trial.Rate

/-!
# The direct report scenario

A sensor reports into shared memory for a while, and the records found there are
audited. The memory is filled with a pattern first, so that a registration that
does not clear it is noticed.
-/

set_option autoImplicit false

namespace SensorBench.Trial

variable {σ : Type}

/-- The byte that fills memory before it is registered. -/
def poison : UInt8 := 0xcc

/-- A time in seconds, whole seconds and the rest converted apart. -/
def seconds (time : Int) : Float :=
  Number.doubleOfInt (time / 1000000000) + Number.doubleOfInt (time % 1000000000) / 1000000000.0

/-- A size that has to be countable. -/
def requireSize : Except String Nat → Act σ Nat
  | .ok size => .value size
  | .error text => .halt (.panic text)

/-- A report given a rate; it has to be accepted. -/
def requireReport (host : Host (Guard × σ)) (h : Handle) (channel : Int) (rate : Rate) :
    Act (Guard × σ) Int := do
  let reply ← Guard.call host (.report h channel rate)
  requireOk "config_direct_report" h.text reply

/-- A channel registered over a memory; its number has to be positive and the
memory all zeros. -/
def requireChannel (host : Host (Guard × σ)) (kind : MemoryKind) (size memory : Nat) :
    Act (Guard × σ) Int := do
  let reply ← Guard.call host (.register kind size memory)
  let channel ← requireOk "register_direct_channel" kind.name reply
  if channel ≤ 0 then
    Act.violate (.invalidChannel channel)
  let bytes ← host.ask (.bytes memory)
  match Region.firstNonzero? bytes with
  | some offset => .violate (.memoryNotZeroed offset)
  | none => .value channel

/-- The default sensor of a kind reports over a kind of memory at a rate, and its
records are audited. -/
def directReport (kind : SensorKind) (memoryKind : MemoryKind) (rate : Rate) : Body σ :=
  fun stage =>
    match stage.catalog.defaultSensor? kind with
    | none => skip (noSensor kind)
    | some d =>
      if !d.supportsMemory memoryKind then skip (memoryKind.name ++ " channels unsupported")
      else if !d.supportsRate rate then skip ("rate " ++ rate.title ++ " unsupported")
      else do
        let test := stage.settings.directReport
        let size ← requireSize (Record.sizeFor test.ringCapacity.toNat)
        let nominal := ofMillis test.nominalTest
        let total := nominal + ofMillis test.initSlack
        let memory ← stage.host.ask (.allocate size poison)
        guarded stage.host fun host => do
          let channel ← requireChannel host memoryKind size memory
          let token ← requireReport host d.handle channel rate
          if token ≤ 0 then
            Act.violate (.invalidToken d.handle token)
          host.ask (.sleep total)
          let _ ← requireReport host d.handle channel .stop
          let bytes ← host.ask (.bytes memory)
          match Direct.audit? ⟨d, token, rate⟩ (Checker.ofKind kind).objection? (seconds nominal)
              (seconds total) (Record.parse bytes) with
          | some v => .violate v
          | none => do
            let reply ← Guard.call host (.unregister channel)
            let _ ← requireOk "unregister_direct_channel" (Text.signedDecimal channel) reply
            return .passed

end SensorBench.Trial
