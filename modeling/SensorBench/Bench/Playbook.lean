import SensorBench.Hal.Call

/-!
# Playbooks

A playbook bends a HAL for a rehearsal of the suite: rules that answer calls in
the HAL's place, time that passes after calls, events changed on their way out,
connections that stay silent, and bytes put into shared memory.
-/

set_option autoImplicit false

namespace SensorBench.Bench

/-- What a client asks of a HAL: its sensors, a connection, or a call. -/
inductive Occasion where
  | sensors
  | connect
  | call (c : Call)

namespace Occasion

/-- The name in rules, logs and panics. -/
def name : Occasion → String
  | sensors => "list"
  | connect => "initialize"
  | call (.activate ..) => "activate"
  | call (.batch ..) => "batch"
  | call (.flush _) => "flush"
  | call (.mode _) => "mode"
  | call (.inject _) => "inject"
  | call (.register ..) => "register"
  | call (.unregister _) => "unregister"
  | call (.report ..) => "report"

/-- The name under which something happens after the occasion. Switching on and
off differ, and so do starting and stopping a report. -/
def cue : Occasion → String
  | call (.activate _ on) => if on then "activate_on" else "activate_off"
  | call (.report _ _ rate) => if rate = .stop then "report_stop" else "report"
  | o => o.name

/-- The handle that the occasion names. -/
def handle? : Occasion → Option Handle
  | call (.activate h _) | call (.batch h _ _) | call (.flush h) | call (.report h _ _) => some h
  | call (.inject e) => some e.handle
  | _ => none

/-- The channel that the occasion names. -/
def channel? : Occasion → Option Int
  | call (.unregister c) | call (.report _ c _) => some c
  | _ => none

end Occasion

/-- What a rule answers. -/
inductive Effect where
  | reply (r : Except Status Int)
  | panic

/-- A rule: the name of a call, the arguments it has to have, at which of its
matches the rule applies if not at all, and what it answers. -/
structure Rule where
  call : String
  handle : Option Handle
  on : Option Bool
  mode : Option OperationMode
  memory : Option MemoryKind
  channel : Option Int
  rate : Option Rate
  nth : Option Nat
  effect : Effect

namespace Rule

/-- Whether an argument that a rule names agrees with the one of a call; one that
either leaves open agrees. -/
def agrees {α : Type} [DecidableEq α] : Option α → Option α → Bool
  | some a, some b => a = b
  | _, _ => true

/-- Whether a rule matches an occasion. -/
def accepts (r : Rule) (o : Occasion) : Bool :=
  r.call = o.name && agrees r.handle o.handle? && agrees r.channel o.channel? &&
    match o with
    | .call (.activate _ on) => agrees r.on (some on)
    | .call (.mode m) => agrees r.mode (some m)
    | .call (.register kind _ _) => agrees r.memory (some kind)
    | .call (.report _ _ rate) => agrees r.rate (some rate)
    | _ => true

/-- The effect of the first rule that applies to an occasion, and the rules with
their matches counted up to it. -/
def apply (o : Occasion) : List (Rule × Nat) → Option Effect × List (Rule × Nat)
  | [] => (none, [])
  | (r, hits) :: rest =>
    if r.accepts o then
      let hits := hits + 1
      if r.nth.all (· = hits) then (some r.effect, (r, hits) :: rest)
      else
        let (effect, rest) := apply o rest
        (effect, (r, hits) :: rest)
    else
      let (effect, rest) := apply o rest
      (effect, (r, hits) :: rest)

end Rule

/-- A change of events of one sensor on their way out: of one by its number, or of
all. -/
structure Tamper where
  handle : Handle
  nth : Option Nat
  limit : Option Nat
  kind : Option SensorKind
  payload : Option Payload
  shift : Option Int

namespace Tamper

/-- An event, numbered among those of its sensor, as a change leaves it. -/
def apply (t : Tamper) (number : Nat) (handle : Handle) (e : Event) : Option Event :=
  if t.handle = handle ∧ t.nth.all (· = number) then
    if t.limit.any (· < number) then none
    else some { e with
      kind := t.kind.getD e.kind, payload := t.payload.getD e.payload
      time := e.time + t.shift.getD 0 }
  else some e

/-- An event as all changes leave it, one after the other. -/
def applyAll (ts : List Tamper) (number : Nat) (e : Event) : Option Event :=
  ts.foldlM (fun found t => t.apply number e.handle found) e

/-- A batch as the changes leave it. Samples are numbered for each sensor, whether
they are changed or not; other events pass. -/
def applyBatch (ts : List Tamper) (counts : List (Handle × Nat)) :
    List Event → List Event × List (Handle × Nat)
  | [] => ([], counts)
  | e :: rest =>
    if e.isSample then
      let number := (counts.lookup e.handle).getD 0 + 1
      let counts := (e.handle, number) :: counts.filter (·.1 ≠ e.handle)
      let (out, counts) := applyBatch ts counts rest
      ((applyAll ts number e).toList ++ out, counts)
    else
      let (out, counts) := applyBatch ts counts rest
      (e :: out, counts)

end Tamper

/-- Bytes put into a channel's memory after a call. -/
structure Poke where
  cue : String
  offset : Nat
  bytes : List UInt8

/-- How time passes while a client waits: not at all, in equal steps of real time
that move the clock on, or as the clock itself. -/
inductive Pace where
  | still
  | ticking (every step : Int)
  | flowing

/-- A playbook. -/
structure Playbook where
  rules : List Rule
  after : List (String × Int)
  tampers : List Tamper
  silent : List Nat
  pokes : List Poke
  pace : Pace

namespace Playbook

/-- The playbook that changes nothing. -/
def plain (pace : Pace) : Playbook := ⟨[], [], [], [], [], pace⟩

end Playbook

end SensorBench.Bench
