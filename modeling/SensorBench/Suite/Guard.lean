import SensorBench.Suite.Host

/-!
# Guards

A guard notes what was acquired through it: sensors switched on, channels
registered, reports running and a mode other than normal. When it is left, on
whatever way, it releases what it still holds. A release that is rejected is
passed over.
-/

set_option autoImplicit false

namespace SensorBench

/-- What is held. Each list is in order and has nothing twice; a report is a
channel and a sensor. -/
structure Guard where
  sensors : List Handle
  channels : List Int
  reports : List (Int × Handle)
  mode : Bool
  deriving DecidableEq, Repr

namespace Guard

/-- Nothing held. -/
def empty : Guard := ⟨[], [], [], false⟩

/-- Whether nothing is held. -/
def isClean (g : Guard) : Bool :=
  g.sensors.isEmpty && g.channels.isEmpty && g.reports.isEmpty && !g.mode

/-- An item put into an ordered list, unless it is there. -/
def insertBy {α : Type} [DecidableEq α] (before : α → α → Bool) (a : α) : List α → List α
  | [] => [a]
  | b :: rest =>
    if a = b then b :: rest
    else if before a b then a :: b :: rest
    else b :: insertBy before a rest

/-- The order of sensors. -/
def sensorBefore (a b : Handle) : Bool := a < b

/-- The order of channels. -/
def channelBefore (a b : Int) : Bool := a < b

/-- The order of reports: by channel and then by sensor. -/
def reportBefore (a b : Int × Handle) : Bool := a.1 < b.1 || (a.1 == b.1 && a.2 < b.2)

/-- What is noted before a call is made: a channel about to be unregistered is
forgotten with its reports, whatever the reply will be. -/
def beforeCall (g : Guard) : Call → Guard
  | .unregister c => { g with
      channels := g.channels.filter (· ≠ c), reports := g.reports.filter (·.1 ≠ c) }
  | _ => g

/-- What is noted after the reply to a call. A mode other than normal is held even
if it was rejected, because it may have been set in part. -/
def afterCall (g : Guard) (call : Call) (reply : Except Status Int) : Guard :=
  match call, reply with
  | .activate h true, .ok _ => { g with sensors := insertBy sensorBefore h g.sensors }
  | .activate h false, .ok _ => { g with sensors := g.sensors.filter (· ≠ h) }
  | .mode m, .ok _ => { g with mode := m ≠ .normal }
  | .mode m, .error _ => { g with mode := g.mode || m ≠ .normal }
  | .register .., .ok c => { g with channels := insertBy channelBefore c g.channels }
  | .report h c .stop, .ok _ => { g with reports := g.reports.filter (· ≠ (c, h)) }
  | .report h c _, .ok _ => { g with reports := insertBy reportBefore (c, h) g.reports }
  | _, _ => g

/-- The calls that release everything held: reports, then channels, then sensors,
and the mode last. -/
def releases (g : Guard) : List Call :=
  g.reports.map (fun (c, h) => .report h c .stop) ++ g.channels.map .unregister ++
    g.sensors.map (.activate · false) ++ if g.mode then [.mode .normal] else []

variable {σ : Type}

/-- Everything held is released. -/
def release (host : Host σ) (g : Guard) : Act σ Unit :=
  Act.each g.releases fun c => .andThen (host.ask (.release c)) fun _ => .value ()

/-- A call made through the guard. -/
def call (host : Host (Guard × σ)) (c : Call) : Act (Guard × σ) (Except Status Int) :=
  fun (g, s) => match host.call c (g.beforeCall c, s) with
    | (.ok reply, (g, s)) => (.ok reply, (g.afterCall c reply, s))
    | (.error h, (g, s)) => (.error h, (g, s))

/-- Every listed sensor but those of meta kinds switched on at its fastest rate, or
switched off. Rejections are passed over. -/
def activateAll (host : Host (Guard × σ)) (sensors : Catalog) (on : Bool) :
    Act (Guard × σ) Unit :=
  Act.each (sensors.filter fun d => !d.kind.isMeta) fun d => do
    if on then
      let _ ← host.call (.batch d.handle d.minDelayNs 0)
    let _ ← call host (.activate d.handle on)

end Guard

/-- An act under a guard of its own. -/
def guarded {σ α : Type} (host : Host σ) (body : Host (Guard × σ) → Act (Guard × σ) α) :
    Act σ α :=
  .alongside .empty (body host.beside) (Guard.release host)

/-- An act during which a new collector receives what is delivered. -/
def subscribed {σ α : Type} (host : Host σ) (body : Nat → Act σ α) : Act σ α := do
  let collector ← host.ask .subscribe
  .endingWith (body collector) (host.ask .unsubscribe)

end SensorBench
