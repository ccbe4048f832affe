import SensorBench.Bench.Playbook
import SensorBench.Delivery.Hub
import SensorBench.Suite.Host

/-!
# Worlds

A reference HAL with its clients on one clock. What the HAL delivers is
dispatched at once to the session that reads its queue, so a run of the suite in
a world is a function of the world alone. `answer` makes a world a host.
-/

set_option autoImplicit false

namespace SensorBench.Bench

/-- A HAL, its clients, a clock and a playbook with what it has counted. `log`
holds all calls in reverse; `queues` the queues that were handed to the HAL; and
`channels` the memories of all registered channels. -/
structure World where
  hal : Hal
  behaviour : Behaviour
  atFront : Bool
  clock : Int
  hub : Hub
  playbook : Playbook
  rules : List (Rule × Nat)
  counts : List (Handle × Nat)
  queues : Array Nat
  channels : List (Int × Nat)
  log : List String

namespace World

/-- A world before any call. With `atFront` set, calls go through the front of the
HAL. -/
def start (catalog : Catalog) (behaviour : Behaviour) (words : Nat → UInt32) (clock : Int)
    (atFront : Bool) (playbook : Playbook) : World :=
  { hal := .ofCatalog catalog (.ofBehaviour behaviour words), behaviour, atFront, clock
    hub := .empty, playbook, rules := playbook.rules.map (·, 0), counts := [], queues := #[]
    channels := [], log := [] }

/-- The calls so far, in order. -/
def calls (w : World) : List String := w.log.reverse

/-! ## Delivery -/

/-- A batch changed as the playbook says and written to the queue of the HAL,
unless the connection is a silent one. -/
def send (w : World) (batch : List Event) : World :=
  let (batch, counts) := Tamper.applyBatch w.playbook.tampers w.counts batch
  let w := { w with counts }
  if w.playbook.silent.contains w.queues.size then w
  else match w.hal.queue with
    | some queue => { w with hub := (w.hub.write queue batch).2 }
    | none => w

/-- The HAL run up to the clock and its batch delivered. -/
def deliver (w : World) : World :=
  let (items, hal) := w.hal.advance w.behaviour w.clock
  let w := { w with hal }
  if items.isEmpty then w else w.send (items.map (·.event))

/-- The clock moved on, and the HAL run up to it. -/
def pass (w : World) (time : Int) : World := { w with clock := w.clock + time }.deliver

/-- Steps of a ticking clock until a condition holds or the steps are used up. -/
def tickUntil (done : World → Bool) (step : Int) : Nat → World → World
  | 0, w => w
  | n + 1, w => if done w then w else tickUntil done step n (w.pass step)

/-- The world run from deadline to deadline up to a time or until a condition
holds. Each step moves the clock on, so the time left bounds their number. -/
def flowUntil (done : World → Bool) (target : Int) : Nat → World → World
  | 0, w => w
  | n + 1, w =>
    if done w then w
    else match w.hal.deadline? with
      | some d =>
        if d ≤ target then flowUntil done target n { w with clock := max w.clock d }.deliver
        else { w with clock := target }
      | none => { w with clock := target }

/-- Some time spent waiting for a condition. -/
def await (w : World) (time : Int) (done : World → Bool) : World :=
  match w.playbook.pace with
  | .still => w
  | .ticking every step => tickUntil done step (time / every).toNat w
  | .flowing => flowUntil done (w.clock + time) (time.toNat + 2) w

/-- In a world whose clock is the real one, what is due is delivered at once. -/
def settle (w : World) : World :=
  match w.playbook.pace with
  | .flowing => if w.hal.deadline?.any (· ≤ w.clock) then w.deliver else w
  | _ => w

/-! ## Calls -/

/-- The text of a call in the log. Of a memory the first byte is shown, of an
injected event its values. -/
def callText (w : World) : Call → String
  | .activate h on => "activate(" ++ handle h ++ "," ++ (if on then "true" else "false") ++ ")"
  | .batch h period latency =>
    "batch(" ++ handle h ++ "," ++ Text.signedDecimal period ++ "," ++
      Text.signedDecimal latency ++ ")"
  | .flush h => "flush(" ++ handle h ++ ")"
  | .mode m => "mode(" ++ m.name ++ ")"
  | .inject e => "inject(" ++ handle e.handle ++ "," ++ e.kind.text ++ ",[" ++
      Text.join ", " (e.payload.values.map Number.listingSingle) ++ "])"
  | .register kind size memory => "register(" ++ kind.name ++ "," ++ Text.decimal size ++ "," ++
      firstByte (w.hal.region memory) ++ ")"
  | .unregister c => "unregister(" ++ Text.signedDecimal c ++ ")"
  | .report h c rate =>
    "report(" ++ handle h ++ "," ++ Text.signedDecimal c ++ "," ++ rate.name ++ ")"
where
  /-- The number of a handle. -/
  handle (h : Handle) : String := Text.signedDecimal h.toInt
  /-- The first byte of a region, zero for an empty one. -/
  firstByte (r : Region) : String := Text.hex 2 (r.getD 0 0).toNat

/-- The text of a reply in the log: a number where the call gives one. -/
def replyText : Call → Except Status Int → String
  | .register .., .ok n | .report .., .ok n => Text.signedDecimal n
  | _, .ok _ => "OK"
  | _, .error s => s.name

/-- A line added to the log. -/
def note (w : World) (line : String) : World := { w with log := line :: w.log }

/-- The rule that applies to an occasion, its match counted. -/
def consult (w : World) (o : Occasion) : Option Effect × World :=
  let (effect, rules) := Rule.apply o w.rules
  (effect, { w with rules })

/-- The text of a scripted panic. -/
def panicText (o : Occasion) : String := "scripted panic in " ++ o.name

/-- The time that passes after an occasion. -/
def elapse (w : World) (o : Occasion) : World :=
  match w.playbook.after.lookup o.cue with
  | some time => w.pass time
  | none => w

/-- The memory of the channel that a successful call is about. -/
def memoryOf? (w : World) (o : Occasion) (value : Int) : Option Nat :=
  match o with
  | .call (.register ..) => w.channels.lookup value
  | _ => o.channel?.bind fun c => w.channels.lookup c

/-- The bytes that the playbook puts into memory after an occasion; those that do
not fit are left out. -/
def poke (w : World) (o : Occasion) (value : Int) : World :=
  match w.memoryOf? o value with
  | none => w
  | some memory =>
    let change (hal : Hal) (p : Poke) : Hal :=
      if p.cue = o.cue then
        match (hal.region memory).write p.offset p.bytes with
        | .ok r => { hal with memory := hal.memory.setIfInBounds memory r }
        | .error _ => hal
      else hal
    { w with hal := w.playbook.pokes.foldl change w.hal }

/-- What follows a successful call: time passes, and bytes are put into memory. -/
def follow (w : World) (c : Call) (value : Int) : World :=
  let w := match c with
    | .register _ _ memory => { w with channels := (value, memory) :: w.channels }
    | _ => w
  ((w.elapse (.call c)).poke (.call c) value).settle

/-- A call on the HAL, answered by a rule or by the HAL itself. -/
def call (w : World) (c : Call) : Except String (Except Status Int) × World :=
  let text := w.callText c
  let finish (w : World) (reply : Except Status Int) : World :=
    let w := w.note (text ++ "=" ++ replyText c reply)
    match reply with
    | .ok value => w.follow c value
    | .error _ => w
  match w.consult (.call c) with
  | (some .panic, w) => (.error (panicText (.call c)), w.note (text ++ "=PANIC"))
  | (some (.reply reply), w) => (.ok reply, finish w reply)
  | (none, w) =>
    let result := if w.atFront then w.hal.performAtFront w.behaviour w.clock c
      else w.hal.perform w.behaviour w.clock c
    match result with
    | .ok (value, hal) => (.ok (.ok value), finish { w with hal } (.ok value))
    | .error status => (.ok (.error status), finish w (.error status))

/-- The sensors of the HAL. -/
def sensors (w : World) : Except String Catalog × World :=
  match w.consult .sensors with
  | (some .panic, w) => (.error (panicText .sensors), w)
  | (_, w) => (.ok w.hal.catalog, w)

/-- A queue handed to the HAL. -/
def connectQueue (w : World) (queue : Nat) : Except String (Except Status Unit) × World :=
  let text := "initialize(" ++ Text.decimal (w.queues.size + 1) ++ ")"
  match w.consult .connect with
  | (some .panic, w) => (.error (panicText .connect), w.note (text ++ "=PANIC"))
  | (some (.reply (.error status)), w) =>
    (.ok (.error status), w.note (text ++ "=" ++ status.name))
  | (some (.reply (.ok _)), w) =>
    (.ok (.ok ()), ((w.note (text ++ "=OK")).elapse .connect).settle)
  | (none, w) =>
    let isOpen := w.hal.queue.any fun q => w.hub.isOpen q
    let hal := w.hal.connect w.behaviour queue isOpen
    let w := { w with hal, queues := w.queues.push queue }
    (.ok (.ok ()), ((w.note (text ++ "=OK")).elapse .connect).settle)

/-! ## Sessions -/

/-- A session moved to a new queue, if the HAL takes it. -/
def reconnect (w : World) (session : Nat) (capacity : UInt64) :
    Except String (Except Status Unit) × World :=
  let (queue, hub) := w.hub.openQueue capacity.toNat
  match { w with hub }.connectQueue queue with
  | (.ok (.ok ()), w) => (.ok (.ok ()), { w with hub := w.hub.attach session queue })
  | r => r

/-- A new session on a new queue, if the HAL takes it. -/
def connect (w : World) (capacity : UInt64) : Except String (Except Status Nat) × World :=
  let (queue, hub) := w.hub.openQueue capacity.toNat
  match { w with hub }.connectQueue queue with
  | (.ok (.ok ()), w) =>
    let (session, hub) := w.hub.newSession
    (.ok (.ok session), { w with hub := hub.attach session queue })
  | (.ok (.error status), w) => (.ok (.error status), w)
  | (.error text, w) => (.error text, w)

/-- The events delivered to a session from now on, until there are enough of them
or the time is over. -/
def gather (w : World) (session : Nat) (time : Int) (count : Nat) : List Event × World :=
  let w := { w with hub := w.hub.arm session }
  let w := w.await time fun w => count ≤ w.hub.collected session
  let (events, hub) := w.hub.disarm session
  (events, { w with hub })

/-- The events delivered to a session while batches are written to a queue by
another party, until there are enough of them or the time is over. What is left of
the batches is written afterwards, so it is dispatched but not gathered. -/
def gatherAmid (w : World) (session queue : Nat) (time : Int) (count : Nat)
    (batches : List (List Event)) : List Event × World :=
  let armed := w.hub.arm session
  let (late, hub) := if time ≤ 0 then (batches, armed)
    else armed.writeUntil session queue count batches
  let w := { w with hub }.await time fun w => count ≤ w.hub.collected session
  let (events, hub) := w.hub.disarm session
  (events, { w with hub := late.foldl (fun hub batch => (hub.write queue batch).2) hub })

/-- The events of some kind that come out of a queue that no session reads, until
there are enough of them or the time is over. All that waits is taken out. -/
def readUntil (w : World) (queue : Nat) (wanted : Event → Bool) (enough : Nat → Bool)
    (time : Int) : List Event × World :=
  let found (w : World) : List Event := (w.hub.waiting queue).flatten.filter wanted
  let w := w.await time fun w => enough (found w).length
  (found w, { w with hub := w.hub.drain queue })

/-! ## The world as a host -/

/-- The answer of a world to a request of a scenario. -/
def answer : Host World := fun q w =>
  match q with
  | .sensors => w.sensors
  | .call c => w.call c
  | .release c => w.call c
  | .now => (.ok w.clock, w)
  | .sleep time => (.ok (), w.await time fun _ => false)
  | .allocate size fill =>
    let (memory, hal) := w.hal.allocate (Array.replicate size fill)
    (.ok memory, { w with hal })
  | .bytes memory => (.ok (w.hal.region memory), w)
  | .subscribe =>
    let (collector, hub) := w.hub.newCollector
    (.ok collector, { w with hub := hub.register 0 collector })
  | .unsubscribe => (.ok (), { w with hub := w.hub.unregister 0 })
  | .reset collector => (.ok (), { w with hub := w.hub.resetCollector collector })
  | .awaitFlushes collector handles count time =>
    (.ok (), w.await time fun w => (w.hub.collector collector).hasFlushes handles count)
  | .awaitEvents collector handles time =>
    (.ok (), w.await time fun w => (w.hub.collector collector).hasEvents handles)
  | .awaitCount collector handle count time =>
    (.ok (), w.await time fun w => (w.hub.collector collector).hasCount handle count)
  | .delivered collector => (.ok (w.hub.collector collector), w)
  | .connect capacity => w.connect capacity
  | .reconnect capacity => w.reconnect 0 capacity
  | .tearDown session => (.ok (), { w with hub := w.hub.detach session })
  | .gather session time count =>
    let (events, w) := w.gather session time count
    (.ok events, w)

end World

end SensorBench.Bench
