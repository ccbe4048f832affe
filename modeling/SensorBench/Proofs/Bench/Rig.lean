import SensorBench.Proofs.Delivery.Dispatch
import SensorBench.Proofs.Hal.Faults
import SensorBench.Proofs.Hal.Holding
import SensorBench.Proofs.Suite.Acts

/-!
# Rigs

A reference HAL with its clients, as a host: between any two requests, and while a request
waits, batches are delivered at the times of a timetable. A timetable is any choice of such
times, so what holds for every timetable holds for every order in which calls and
deliveries can meet (`Rig.leads_ask`).
-/

set_option autoImplicit false

namespace SensorBench.Bench

/-- When deliveries happen, by the number of the request: the times of those that come
before it, the times of those that come while it waits, and the time at which the HAL takes
it. -/
structure Timetable where
  before : Nat → List Int
  during : Nat → List Int
  clock : Nat → Int

/-- A HAL with its clients. Requests are counted, and it is noted whether a wait for flush
markers has run out of time while a flush was still unanswered. -/
structure Rig where
  hal : Hal
  hub : Hub
  asked : Nat
  overdue : Bool

namespace Rig

/-- No wait for flush markers has run out of time while a flush was unanswered. -/
def OnTime (x : Rig) : Prop := x.overdue = false

/-- One delivery: the HAL is run up to a time, and its batch is dispatched by the session
that reads the HAL's queue. -/
def deliver (b : Behaviour) (now : Int) (x : Rig) : Rig :=
  let (items, hal) := x.hal.advance b now
  let hub :=
    if items.isEmpty then x.hub
    else match hal.queue.bind x.hub.readerOf? with
      | some session => x.hub.dispatch session (items.map (·.event))
      | none => x.hub
  { x with hal, hub }

/-- Deliveries one after the other. -/
def deliverAll (b : Behaviour) (times : List Int) (x : Rig) : Rig :=
  times.foldl (fun x now => x.deliver b now) x

/-- Deliveries one after the other until a condition holds, which is looked at before each
of them and after the last; and whether it came to hold. -/
def wait (b : Behaviour) (done : Hub → Bool) : List Int → Rig → Bool × Rig
  | [], x => (done x.hub, x)
  | now :: rest, x => if done x.hub then (true, x) else wait b done rest (x.deliver b now)

/-- Whether some flush is still unanswered. -/
def owes (x : Rig) : Bool := x.hal.sensors.any fun s => 0 < s.pendingFlushes

/-- A new queue handed to the HAL, and its number. -/
def handOver (b : Behaviour) (capacity : UInt64) (x : Rig) : Nat × Rig :=
  let isOpen := x.hal.queue.any x.hub.isOpen
  let (queue, hub) := x.hub.openQueue capacity.toNat
  (queue, { x with hal := x.hal.connect b queue isOpen, hub })

/-- The answer to a request that the HAL takes at some time, with deliveries at other times
while it waits. -/
def serve (b : Behaviour) (clock : Int) (times : List Int) (q : Request) (x : Rig) :
    q.Answer × Rig :=
  match q with
  | .sensors => (x.hal.catalog, x)
  | .call c => (x.hal.reply b clock c, { x with hal := x.hal.stepAtFront b ⟨clock, .call c⟩ })
  | .release c => (x.hal.reply b clock c, { x with hal := x.hal.stepAtFront b ⟨clock, .call c⟩ })
  | .now => (clock, x)
  | .sleep _ => ((), x.deliverAll b times)
  | .allocate size fill =>
    let (memory, hal) := x.hal.allocate (Array.replicate size fill)
    (memory, { x with hal })
  | .bytes memory => (x.hal.region memory, x)
  | .subscribe =>
    let (collector, hub) := x.hub.newCollector
    (collector, { x with hub := hub.register 0 collector })
  | .unsubscribe => ((), { x with hub := x.hub.unregister 0 })
  | .reset collector => ((), { x with hub := x.hub.resetCollector collector })
  | .awaitFlushes collector handles count _ =>
    let (held, x) := x.wait b (fun hub => (hub.collector collector).hasFlushes handles count) times
    ((), { x with overdue := x.overdue || (!held && x.owes) })
  | .awaitEvents collector handles _ =>
    ((), (x.wait b (fun hub => (hub.collector collector).hasEvents handles) times).2)
  | .awaitCount collector handle count _ =>
    ((), (x.wait b (fun hub => (hub.collector collector).hasCount handle count) times).2)
  | .delivered collector => (x.hub.collector collector, x)
  | .connect capacity =>
    let (queue, x) := x.handOver b capacity
    let (session, hub) := x.hub.newSession
    (.ok session, { x with hub := hub.attach session queue })
  | .reconnect capacity =>
    let (queue, x) := x.handOver b capacity
    (.ok (), { x with hub := x.hub.attach 0 queue })
  | .tearDown session => ((), { x with hub := x.hub.detach session })
  | .gather session _ count =>
    let x := { x with hub := x.hub.arm session }
    let (_, x) := x.wait b (fun hub => count ≤ hub.collected session) times
    let (events, hub) := x.hub.disarm session
    (events, { x with hub })

/-- A rig before a request is answered: what the timetable says is delivered, and the
request is counted. -/
def enter (b : Behaviour) (t : Timetable) (x : Rig) : Rig :=
  { x.deliverAll b (t.before x.asked) with asked := x.asked + 1 }

/-- Rigs as hosts. They never panic. -/
def host (b : Behaviour) (t : Timetable) : Host Rig := fun q x =>
  let (answer, y) := (x.enter b t).serve b (t.clock x.asked) (t.during x.asked) q
  (.ok answer, y)

/-- A rig before any request. -/
def start (hal : Hal) (hub : Hub) : Rig := ⟨hal, hub, 0, false⟩

/-! ## Deliveries -/

/-- A property of HALs and their clients that deliveries keep. -/
def Steady (b : Behaviour) (P : Hal → Hub → Prop) : Prop :=
  ∀ (x : Rig) now, P x.hal x.hub → P (x.deliver b now).hal (x.deliver b now).hub

section Deliveries

variable {b : Behaviour} {P : Hal → Hub → Prop}

/-- Where the session reads the HAL's queue, it dispatches what is delivered, if there is
anything. -/
theorem deliver_hub {x : Rig} {session : Nat}
    (hreads : x.hal.queue.bind x.hub.readerOf? = some session) (b : Behaviour) (now : Int) :
    let items := (x.hal.advance b now).1
    (x.deliver b now).hub =
      if items.isEmpty then x.hub else x.hub.dispatch session (items.map (·.event)) := by
  have hqueue : (x.hal.advance b now).2.queue = x.hal.queue := rfl
  simp only [deliver, hqueue, hreads]

theorem Steady.and {P' : Hal → Hub → Prop} (hP : Steady b P) (hP' : Steady b P') :
    Steady b fun hal hub => P hal hub ∧ P' hal hub :=
  fun x now hx => ⟨hP x now hx.1, hP' x now hx.2⟩

/-- What has nothing to do with the HAL is kept by deliveries. -/
theorem Steady.beside {p : Prop} (hP : Steady b P) : Steady b fun hal hub => p ∧ P hal hub :=
  fun x now hx => ⟨hx.1, hP x now hx.2⟩

theorem Steady.deliverAll (hP : Steady b P) (times : List Int) {x : Rig} (hx : P x.hal x.hub) :
    P (x.deliverAll b times).hal (x.deliverAll b times).hub := by
  induction times generalizing x with
  | nil => exact hx
  | cons now rest ih => exact ih (hP x now hx)

theorem Steady.wait (hP : Steady b P) (done : Hub → Bool) (times : List Int) {x : Rig}
    (hx : P x.hal x.hub) : P (x.wait b done times).2.hal (x.wait b done times).2.hub := by
  induction times generalizing x with
  | nil => exact hx
  | cons now rest ih =>
    rw [Rig.wait]
    split
    · exact hx
    · exact ih (hP x now hx)

/-- A wait ends as its condition stands at its end. -/
theorem wait_fst (b : Behaviour) (done : Hub → Bool) (times : List Int) (x : Rig) :
    (x.wait b done times).1 = done (x.wait b done times).2.hub := by
  induction times generalizing x with
  | nil => rfl
  | cons now rest ih =>
    rw [Rig.wait]
    split
    · next hdone => exact hdone.symm
    · exact ih _

theorem overdue_deliverAll (b : Behaviour) (times : List Int) (x : Rig) :
    (x.deliverAll b times).overdue = x.overdue := by
  induction times generalizing x with
  | nil => rfl
  | cons now rest ih => exact ih _

theorem overdue_wait (b : Behaviour) (done : Hub → Bool) (times : List Int) (x : Rig) :
    (x.wait b done times).2.overdue = x.overdue := by
  induction times generalizing x with
  | nil => rfl
  | cons now rest ih =>
    rw [Rig.wait]
    split
    · rfl
    · exact ih _

theorem owes_eq_false_iff {x : Rig} (hsound : x.hal.Sound) :
    x.owes = false ↔ ∀ h, x.hal.pending h = 0 := by
  rw [owes, List.any_eq_false]
  constructor
  · intro hnone h
    rw [Hal.pending]
    cases hs : x.hal.sensor? h with
    | none => rfl
    | some s => simpa using hnone s (List.mem_of_find?_eq_some hs)
  · intro hzero s hs
    -- in a HAL in order a sensor is the one found by its handle
    have hpending := hzero s.handle
    rw [Hal.pending, hsound.sensor?_of_mem hs] at hpending
    simp [hpending]

end Deliveries

/-! ## Requests -/

section Requests

variable {b : Behaviour} {t : Timetable}

/-- What is overdue stays so. -/
theorem onTime_of_serve {clock : Int} {times : List Int} {q : Request} {x : Rig}
    (h : (x.serve b clock times q).2.OnTime) : x.OnTime := by
  cases q with
  | sleep time => exact (overdue_deliverAll b times x).symm.trans h
  | awaitFlushes collector handles count time =>
    exact (overdue_wait b _ times x).symm.trans (Bool.or_eq_false_iff.1 h).1
  | awaitEvents collector handles time => exact (overdue_wait b _ times x).symm.trans h
  | awaitCount collector handle count time => exact (overdue_wait b _ times x).symm.trans h
  | gather session time count =>
    exact (overdue_wait b _ times { x with hub := x.hub.arm session }).symm.trans h
  | _ => exact h

/-- A wait for flush markers that ends on time ends with the markers seen or with no flush
unanswered. -/
theorem answered_of_onTime {clock time : Int} {times : List Int} {collector count : Nat}
    {handles : List Handle} {x : Rig}
    (h : (x.serve b clock times (.awaitFlushes collector handles count time)).2.OnTime)
    (hsound : (x.serve b clock times (.awaitFlushes collector handles count time)).2.hal.Sound) :
    let y := (x.serve b clock times (.awaitFlushes collector handles count time)).2
    (y.hub.collector collector).hasFlushes handles count = true ∨ ∀ k, y.hal.pending k = 0 := by
  have hheld := (Bool.or_eq_false_iff.1 h).2
  rw [wait_fst] at hheld
  rcases Bool.and_eq_false_iff.1 hheld with hheld | howes
  · exact Or.inl (Eq.mp (Bool.not_eq_false' _) hheld)
  · exact Or.inr ((owes_eq_false_iff hsound).1 howes)

/-- A request leads from what deliveries keep to what answering it makes of that. -/
theorem leads_ask {P : Hal → Hub → Prop} (hP : Steady b P) {q : Request}
    {R : q.Answer → Hal → Hub → Prop}
    (hserve : ∀ clock times (x : Rig), P x.hal x.hub → (x.serve b clock times q).2.OnTime →
      R (x.serve b clock times q).1 (x.serve b clock times q).2.hal
        (x.serve b clock times q).2.hub) :
    ((host b t).ask q).Leads OnTime (fun x => P x.hal x.hub)
      (Act.Gives fun answer x => R answer x.hal x.hub) := by
  intro x hfine
  have hentered : (x.enter b t).overdue = x.overdue := overdue_deliverAll b _ x
  refine ⟨hentered.symm.trans (onTime_of_serve hfine), fun hx => ⟨_, rfl, ?_⟩⟩
  -- whatever was delivered before the request, it finds what deliveries keep
  exact hserve _ _ (x.enter b t) (hP.deliverAll _ hx) hfine

/-- A call leads to its reply and to the HAL after it. -/
theorem leads_call {P : Hal → Hub → Prop} (hP : Steady b P) {c : Call}
    {R : Except Status Int → Hal → Hub → Prop}
    (hcall : ∀ now (hal : Hal) hub, P hal hub →
      R (hal.reply b now c) (hal.stepAtFront b ⟨now, .call c⟩) hub) :
    ((host b t).call c).Leads OnTime (fun x => P x.hal x.hub)
      (Act.Gives fun reply x => R reply x.hal x.hub) :=
  leads_ask hP fun clock _ x hx _ => hcall clock x.hal x.hub hx

/-- A release leads where it leads as a call. -/
theorem leads_release {P : Hal → Hub → Prop} (hP : Steady b P) {c : Call}
    {R : Except Status Int → Hal → Hub → Prop}
    (hcall : ∀ now (hal : Hal) hub, P hal hub →
      R (hal.reply b now c) (hal.stepAtFront b ⟨now, .call c⟩) hub) :
    ((host b t).ask (.release c)).Leads OnTime (fun x => P x.hal x.hub)
      (Act.Gives fun reply x => R reply x.hal x.hub) :=
  leads_ask hP fun clock _ x hx _ => hcall clock x.hal x.hub hx

end Requests

end Rig

end SensorBench.Bench
