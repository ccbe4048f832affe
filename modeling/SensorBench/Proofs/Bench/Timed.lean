import SensorBench.Proofs.Bench.Serving
import SensorBench.Proofs.Delivery.Attendance
import SensorBench.Proofs.Hal.Resting
import SensorBench.Suite.Run

/-!
# Worlds in which time flows

In a timed world (`World.Timed`) sleeping and waiting move the clock on by their length, the
HAL is run at each of its deadlines, and what it delivers is dispatched at once to the session
that reads its queue. Of such a world a scenario sees the clock, the HAL and the hub
(`World.Shows`). A property that each step of time up to the next deadline keeps is kept by
all sleeping and waiting (`Flows`, `World.leads_await`), and a call that the HAL accepts is
followed by what it makes due at once (`World.leads_call`).
-/

set_option autoImplicit false

namespace SensorBench

namespace Act

variable {σ α : Type} {x : Act σ α} {Q : Except Halt α → σ → Prop}

/-- What holds apart from the state may be used to see where an act leads. -/
theorem leads_fact {p : Prop} {P : σ → Prop} (h : p → x.Leads (fun _ => True) P Q) :
    x.Leads (fun _ => True) (fun s => p ∧ P s) Q :=
  fun s _ => ⟨trivial, fun ⟨hp, hs⟩ => (h hp s trivial).2 hs⟩

theorem leads_exists {ι : Sort*} {P : ι → σ → Prop} (h : ∀ i, x.Leads (fun _ => True) (P i) Q) :
    x.Leads (fun _ => True) (fun s => ∃ i, P i s) Q :=
  fun s _ => ⟨trivial, fun ⟨i, hs⟩ => (h i s trivial).2 hs⟩

end Act

namespace Bench

open Hal (NotDue leastTime)

theorem Tamper.applyBatch_nil (counts : List (Handle × Nat)) (batch : List Event) :
    (applyBatch [] counts batch).1 = batch := by
  induction batch generalizing counts with
  | nil => rfl
  | cons e rest ih =>
    rw [applyBatch]
    split
    · exact congrArg (e :: ·) (ih _)
    · exact congrArg (e :: ·) (ih _)

namespace World

/-- A world in which time flows and nothing is bent: its playbook changes nothing, the clock
moves while clients wait, and session zero reads the queue of the HAL. -/
structure Flowing (w : World) : Prop where
  playbook : w.playbook = .plain .flowing
  rules : w.rules = []
  started : leastTime ≤ w.clock
  attended : ∃ queue, w.hal.queue = some queue ∧ w.hub.Attends queue

/-- A world in which session zero reads the queue that is numbered zero. -/
def attending (b : Behaviour) (clock : Int) (hal : Hal) : World :=
  { hal, behaviour := b, atFront := true, clock
    hub := ⟨#[.ofCapacity 4], #[⟨some 0, none, none, 0, 0⟩], #[]⟩, playbook := .plain .flowing
    rules := [], counts := [], queues := #[0], channels := [], log := [] }

theorem attending_flowing (b : Behaviour) {clock : Int} {hal : Hal} (hclock : leastTime ≤ clock)
    (hqueue : hal.queue = some 0) : (attending b clock hal).Flowing := by
  have hreads :
      Hub.readerOf? ⟨#[.ofCapacity 4], #[⟨some 0, none, none, 0, 0⟩], #[]⟩ 0 = some 0 := by
    decide +kernel
  exact ⟨rfl, rfl, hclock, 0, hqueue, hreads, 4, by decide, rfl⟩

/-- A flowing world whose HAL has a certain behaviour and is punctual. -/
structure Timed (b : Behaviour) (w : World) : Prop extends w.Flowing where
  behaviour : w.behaviour = b
  punctual : w.hal.Punctual

/-- A timed world with a certain clock, HAL and hub. -/
structure Stands (b : Behaviour) (clock : Int) (hal : Hal) (hub : Hub) (w : World) : Prop where
  timed : w.Timed b
  clock : w.clock = clock
  hal : w.hal = hal
  hub : w.hub = hub

/-- A timed world of whose clock, HAL and hub something holds. -/
def Shows (b : Behaviour) (P : Int → Hal → Hub → Prop) (w : World) : Prop :=
  w.Timed b ∧ P w.clock w.hal w.hub

section Timed

variable {b : Behaviour} {w : World} {P Q : Int → Hal → Hub → Prop}

theorem Stands.shows {clock : Int} {hal : Hal} {hub : Hub} (h : w.Stands b clock hal hub)
    (hP : P clock hal hub) : w.Shows b P := by
  obtain ⟨htimed, rfl, rfl, rfl⟩ := h
  exact ⟨htimed, hP⟩

/-- What is counted and written down does not matter. -/
theorem Timed.books (h : w.Timed b) (counts : List (Handle × Nat)) (channels : List (Int × Nat))
    (log : List String) :
    { w with counts, channels, log }.Stands b w.clock w.hal w.hub :=
  ⟨⟨⟨h.playbook, h.rules, h.started, h.attended⟩, h.behaviour, h.punctual⟩, rfl, rfl, rfl⟩

/-- The clock may move on. -/
theorem Timed.moved (h : w.Timed b) {clock : Int} (hclock : w.clock ≤ clock) :
    { w with clock }.Stands b clock w.hal w.hub :=
  ⟨⟨⟨h.playbook, h.rules, Int.le_trans h.started hclock, h.attended⟩, h.behaviour, h.punctual⟩,
    rfl, rfl, rfl⟩

/-- The HAL may change by any turn that keeps its queue. -/
theorem Timed.turned (h : w.Timed b) {m : Hal.Turn}
    (hqueue : (w.hal.step b m).queue = w.hal.queue) :
    { w with hal := w.hal.step b m }.Timed b := by
  obtain ⟨queue, hread, hattends⟩ := h.attended
  exact ⟨⟨h.playbook, h.rules, h.started, queue, hqueue.trans hread, hattends⟩, h.behaviour,
    h.punctual.step b m⟩

/-- A batch reaches session zero as it is. -/
theorem Timed.send (h : w.Timed b) {batch : List Event} (hbatch : batch ≠ []) :
    (w.send batch).Stands b w.clock w.hal (w.hub.dispatch 0 batch) := by
  obtain ⟨queue, hqueue, hattends⟩ := h.attended
  have hsame := Tamper.applyBatch_nil w.counts batch
  have hwritten := hattends.write hbatch
  rw [World.send, h.playbook]
  dsimp only [Playbook.plain]
  rw [hsame, hqueue]
  dsimp only
  rw [hwritten]
  exact ⟨⟨⟨rfl, h.rules, h.started, queue, hqueue, hattends.dispatch batch⟩, h.behaviour,
    h.punctual⟩, rfl, rfl, rfl⟩

/-- A step of time: the HAL is run up to the clock and its batch dispatched. -/
theorem Timed.deliver (h : w.Timed b) :
    w.deliver.Stands b w.clock (w.hal.advance b w.clock).2
      (w.hub.receive (w.hal.advance b w.clock).1) := by
  have hbehaviour := h.behaviour
  subst hbehaviour
  have hadvanced := h.turned (m := ⟨w.clock, .advance⟩) rfl
  rw [World.deliver, Hub.receive]
  dsimp only
  cases hitems : (w.hal.advance w.behaviour w.clock).1 with
  | nil => exact ⟨hadvanced, rfl, rfl, rfl⟩
  | cons item rest => exact hadvanced.send (List.cons_ne_nil _ _)

/-- What is due at once is delivered at once. -/
theorem Timed.settle (h : w.Timed b) :
    w.settle.Stands b w.clock (w.hal.advance b w.clock).2
      (w.hub.receive (w.hal.advance b w.clock).1) := by
  have hsettle : w.settle = if w.hal.deadline?.any (· ≤ w.clock) then w.deliver else w := by
    rw [World.settle, h.playbook]
    rfl
  rw [hsettle]
  split
  · exact h.deliver
  · next hdue =>
    -- with nothing due the step of time is none
    have hnone : NotDue w.clock w.hal.deadline? := by
      intro d hd
      rw [Option.mem_def] at hd
      rw [hd, Option.any_some, decide_eq_true_iff] at hdue
      exact Int.not_le.1 hdue
    rw [h.punctual.advance_of_notDue h.started hnone]
    exact ⟨h, rfl, rfl, rfl⟩

/-! ## Calls -/

/-- After an accepted call what it makes due is delivered. -/
theorem Timed.follow (h : w.Timed b) (c : Call) (value : Int) :
    (w.follow c value).Stands b w.clock (w.hal.advance b w.clock).2
      (w.hub.receive (w.hal.advance b w.clock).1) := by
  have hafter : ∀ channels, ((({ w with channels } : World).elapse (.call c)).poke (.call c)
      value).settle.Stands b w.clock (w.hal.advance b w.clock).2
        (w.hub.receive (w.hal.advance b w.clock).1) := by
    intro channels
    have hbooks := (h.books w.counts channels w.log).timed
    have helapse : ({ w with channels } : World).elapse (.call c) = { w with channels } := by
      rw [elapse, hbooks.playbook]
      rfl
    rw [helapse, poke_eq (congrArg Playbook.pokes hbooks.playbook)]
    exact hbooks.settle
  cases c <;> exact hafter _

/-- A call that the HAL accepts is answered so, and what it makes due is delivered. -/
theorem Timed.call (h : w.Timed b) {c : Call} (hc : ∀ kind size k, c ≠ .register kind size k)
    {v : Int} {next : Hal} (hok : w.hal.perform b w.clock c = .ok (v, next))
    (hqueue : next.queue = w.hal.queue) :
    (w.call c).1 = .ok (.ok v) ∧
      (w.call c).2.Stands b w.clock (next.advance b w.clock).2
        (w.hub.receive (next.advance b w.clock).1) := by
  have hfront : w.hal.performAtFront b w.clock c = .ok (v, next) := by
    rw [Hal.performAtFront_passed (Or.inl hc), hok]
  have hstep : w.hal.step b ⟨w.clock, .call c⟩ = next := by
    rw [Hal.step_call, hok]
    rfl
  have hturned := h.turned (m := ⟨w.clock, .call c⟩) (by rw [hstep, hqueue])
  rw [hstep] at hturned
  have hbehaviour := h.behaviour
  subst hbehaviour
  have hasked : w.call c = (.ok (.ok v), (({ w with hal := next } : World).note
      (w.callText c ++ "=" ++ replyText c (.ok v))).follow c v) := by
    rw [World.call, consult, h.rules]
    dsimp only [Rule.apply]
    rw [hfront, hok, ite_self]
  rw [hasked]
  exact ⟨rfl, (hturned.books w.counts w.channels _).timed.follow c v⟩

/-- An accepted call leads to where the HAL is after it and has done what it made due. -/
theorem leads_call {c : Call} (hc : ∀ kind size k, c ≠ .register kind size k) {v : Int}
    (hcall : ∀ clock hal hub, hal.Punctual → leastTime ≤ clock → P clock hal hub →
      ∃ next, hal.perform b clock c = .ok (v, next) ∧ next.queue = hal.queue ∧
        Q clock (next.advance b clock).2 (hub.receive (next.advance b clock).1)) :
    (answer.call c).Leads (fun _ => True) (Shows b P)
      (Act.Gives fun reply w => reply = .ok v ∧ w.Shows b Q) := by
  refine fun w _ => ⟨trivial, fun ⟨htimed, hP⟩ => ?_⟩
  obtain ⟨next, hok, hqueue, hQ⟩ := hcall w.clock w.hal w.hub htimed.punctual htimed.started hP
  obtain ⟨hreply, hstands⟩ := htimed.call hc hok hqueue
  have hanswer : answer (.call c) w = (.ok (.ok v), (w.call c).2) := Prod.ext hreply rfl
  rw [Host.call, Host.ask, hanswer]
  exact ⟨_, rfl, rfl, hstands.shows hQ⟩

/-- A call that makes nothing due leads to where the HAL is after it. -/
theorem leads_quietCall {c : Call} (hc : ∀ kind size k, c ≠ .register kind size k) {v : Int}
    (hcall : ∀ clock hal hub, hal.Punctual → leastTime ≤ clock → P clock hal hub →
      ∃ next, hal.perform b clock c = .ok (v, next) ∧ next.queue = hal.queue ∧
        NotDue clock next.deadline? ∧ Q clock next hub) :
    (answer.call c).Leads (fun _ => True) (Shows b P)
      (Act.Gives fun reply w => reply = .ok v ∧ w.Shows b Q) := by
  refine leads_call hc fun clock hal hub hpunctual hclock hP => ?_
  obtain ⟨next, hok, hqueue, hdue, hQ⟩ := hcall clock hal hub hpunctual hclock hP
  have hnext := hpunctual.perform hok
  refine ⟨next, hok, hqueue, ?_⟩
  rw [hnext.advance_of_notDue hclock hdue]
  exact hQ

/-! ## Waiting -/

/-- A property that the time up to a limit keeps: nothing is due where it holds, and a step of
time that goes no further than the next deadline leads to where it holds. -/
structure Flows (b : Behaviour) (limit : Int) (P : Int → Hal → Hub → Prop) : Prop where
  settled : ∀ {clock hal hub}, hal.Punctual → leastTime ≤ clock → clock ≤ limit →
    P clock hal hub → NotDue clock hal.deadline?
  passes : ∀ {clock now hal hub}, hal.Punctual → leastTime ≤ clock → clock ≤ now →
    now ≤ limit → (∀ d ∈ hal.deadline?, now ≤ d) → P clock hal hub →
    P now (hal.advance b now).2 (hub.receive (hal.advance b now).1)

/-- Where the clock stands after a wait that was begun at a time: at its end, or earlier with
what was waited for. -/
def Waited (start time : Int) (done : Hub → Bool) (P : Int → Hal → Hub → Prop) (clock : Int)
    (hal : Hal) (hub : Hub) : Prop :=
  start ≤ clock ∧ clock ≤ start + time ∧ (done hub = true ∨ clock = start + time) ∧
    P clock hal hub

/-- Each step of the flow ends at a later time, so as many steps as there are nanoseconds
suffice. -/
theorem Flows.flowUntil {limit target : Int} (hflows : Flows b limit P) (htarget : target ≤ limit)
    (done : Hub → Bool) (n : Nat) (h : w.Shows b P) (hclock : w.clock ≤ target)
    (hn : target - w.clock < n) :
    (World.flowUntil (fun w => done w.hub) target n w).Shows b fun clock hal hub =>
      w.clock ≤ clock ∧ clock ≤ target ∧ (done hub = true ∨ clock = target) ∧ P clock hal hub := by
  induction n generalizing w with
  | zero => omega
  | succ n ih =>
    obtain ⟨htimed, hP⟩ := h
    have hsettled := hflows.settled htimed.punctual htimed.started
      (Int.le_trans hclock htarget) hP
    -- with nothing due up to the end the clock moves there
    have hend : NotDue target w.hal.deadline? →
        ({ w with clock := target } : World).Shows b fun clock hal hub =>
          w.clock ≤ clock ∧ clock ≤ target ∧ (done hub = true ∨ clock = target) ∧
            P clock hal hub := by
      intro hdue
      have hpasses := hflows.passes htimed.punctual htimed.started hclock htarget
        (fun d hd => Int.le_of_lt (hdue d hd)) hP
      rw [htimed.punctual.advance_of_notDue (Int.le_trans htimed.started hclock) hdue] at hpasses
      exact (htimed.moved hclock).shows ⟨hclock, Int.le_refl _, Or.inr rfl, hpasses⟩
    rw [World.flowUntil]
    split
    · next hdone => exact ⟨htimed, Int.le_refl _, hclock, Or.inl hdone, hP⟩
    · split
      · next d hd =>
        have hlater : w.clock < d := hsettled d hd
        split
        · next hle =>
          rw [Int.max_eq_right (Int.le_of_lt hlater)]
          have hstep := (htimed.moved (Int.le_of_lt hlater)).timed.deliver
          have hnext := hflows.passes htimed.punctual htimed.started (Int.le_of_lt hlater)
            (Int.le_trans hle htarget)
            (fun e he => Int.le_of_eq (Option.some.inj (hd.symm.trans he))) hP
          have hreached := hstep.clock
          dsimp only at hreached
          obtain ⟨htimed', hstart, hrest⟩ :=
            ih (hstep.shows hnext) (by omega) (by omega)
          exact ⟨htimed', by omega, hrest⟩
        · next hlate =>
          apply hend
          rw [hd, Hal.notDue_some]
          exact Int.not_le.1 hlate
      · next hnone =>
        apply hend
        rw [hnone]
        exact Hal.notDue_none target

theorem Flows.await {start time : Int} (hflows : Flows b (start + time) P) (htime : 0 ≤ time)
    (done : Hub → Bool) (h : w.Shows b fun clock hal hub => clock = start ∧ P clock hal hub) :
    (w.await time fun w => done w.hub).Shows b (Waited start time done P) := by
  obtain ⟨htimed, rfl, hP⟩ := h
  have hflow := hflows.flowUntil (Int.le_refl _) done (time.toNat + 2) ⟨htimed, hP⟩ (by omega)
    (by omega)
  rw [World.await, htimed.playbook]
  exact hflow

/-- A request that does not panic leads to where its answer says. -/
theorem leads_ask {q : Request} {R : q.Answer → Int → Hal → Hub → Prop}
    (hask : ∀ w, w.Shows b P → ∃ a, (answer q w).1 = .ok a ∧ (answer q w).2.Shows b (R a)) :
    (answer.ask q).Leads (fun _ => True) (Shows b P) (Act.Gives fun a w => w.Shows b (R a)) := by
  refine fun w _ => ⟨trivial, fun hw => ?_⟩
  obtain ⟨a, hok, hR⟩ := hask w hw
  have hanswer : answer q w = (.ok a, (answer q w).2) := Prod.ext hok rfl
  rw [Host.ask, hanswer]
  exact ⟨a, rfl, hR⟩

theorem leads_sleep (start : Int) {time : Int} (hflows : Flows b (start + time) P)
    (htime : 0 ≤ time) :
    (answer.ask (.sleep time)).Leads (fun _ => True)
      (Shows b fun clock hal hub => clock = start ∧ P clock hal hub)
      (Act.Gives fun _ => Shows b fun clock hal hub => clock = start + time ∧ P clock hal hub) := by
  refine leads_ask (q := .sleep time) fun w hw => ⟨(), rfl, ?_⟩
  obtain ⟨htimed, -, -, hend, hP⟩ := hflows.await htime (fun _ => false) hw
  exact ⟨htimed, hend.resolve_left Bool.false_ne_true, hP⟩

theorem leads_awaitEvents (start : Int) {time : Int} (hflows : Flows b (start + time) P)
    (htime : 0 ≤ time) (k : Nat) (handles : List Handle) :
    (answer.ask (.awaitEvents k handles time)).Leads (fun _ => True)
      (Shows b fun clock hal hub => clock = start ∧ P clock hal hub)
      (Act.Gives fun _ =>
        Shows b (Waited start time (fun hub => (hub.collector k).hasEvents handles) P)) :=
  leads_ask (q := .awaitEvents k handles time) (R := fun _ => Waited start time _ P)
    fun _ hw => ⟨(), rfl, hflows.await htime _ hw⟩

theorem leads_awaitCount (start : Int) {time : Int} (hflows : Flows b (start + time) P)
    (htime : 0 ≤ time) (k : Nat) (h : Handle) (count : Nat) :
    (answer.ask (.awaitCount k h count time)).Leads (fun _ => True)
      (Shows b fun clock hal hub => clock = start ∧ P clock hal hub)
      (Act.Gives fun _ =>
        Shows b (Waited start time (fun hub => (hub.collector k).hasCount h count) P)) :=
  leads_ask (q := .awaitCount k h count time) (R := fun _ => Waited start time _ P)
    fun _ hw => ⟨(), rfl, hflows.await htime _ hw⟩

/-! ## Sensors and collectors -/

theorem leads_sensors {catalog : Catalog}
    (hP : ∀ clock hal hub, P clock hal hub → hal.catalog = catalog) :
    (answer.ask .sensors).Leads (fun _ => True) (Shows b P)
      (Act.Gives fun listed w => listed = catalog ∧ w.Shows b P) := by
  refine fun w _ => ⟨trivial, fun ⟨htimed, hshown⟩ => ?_⟩
  have hlisted : answer .sensors w = (.ok w.hal.catalog, w) := by
    show w.sensors = _
    rw [sensors, consult, htimed.rules]
    dsimp only [Rule.apply]
    rw [← htimed.rules]
    rfl
  rw [Host.ask, hlisted]
  exact ⟨_, rfl, hP _ _ _ hshown, htimed, hshown⟩

/-- A scenario is given the sensors that the HAL lists. -/
theorem leads_row (settings : Settings) (s : Scenario) {catalog : Catalog}
    {Q : Except Halt Outcome → World → Prop}
    (hP : ∀ clock hal hub, P clock hal hub → hal.catalog = catalog)
    (hbody : (s.body ⟨answer, settings, catalog⟩).Leads (fun _ => True) (Shows b P) Q) :
    (Suite.rowOf answer settings s).act.Leads (fun _ => True) (Shows b P) Q := by
  show (Act.andThen (answer.ask .sensors) fun listed => s.body ⟨answer, settings, listed⟩).Leads
    _ _ _
  refine (leads_sensors hP).next fun listed => Act.leads_fact fun hsame => ?_
  rw [hsame]
  exact hbody

/-- The hub may change in what its queues and readers do not show. -/
theorem Timed.rehubbed (h : w.Timed b) {hub : Hub}
    (hattends : ∀ queue, w.hub.Attends queue → hub.Attends queue) :
    ({ w with hub } : World).Stands b w.clock w.hal hub := by
  obtain ⟨queue, hqueue, hread⟩ := h.attended
  exact ⟨⟨⟨h.playbook, h.rules, h.started, queue, hqueue, hattends queue hread⟩, h.behaviour,
    h.punctual⟩, rfl, rfl, rfl⟩

section Collectors

variable {P : Int → Hal → Prop} {k : Nat}

theorem leads_subscribe :
    (answer.ask .subscribe).Leads (fun _ => True) (Shows b fun clock hal _ => P clock hal)
      (Act.Gives fun k => Shows b fun clock hal hub =>
        P clock hal ∧ hub.Feeds k ∧ hub.collector k = .empty) := by
  refine leads_ask (q := .subscribe) (R := fun (k : Nat) clock hal hub =>
    P clock hal ∧ hub.Feeds k ∧ hub.collector k = .empty) fun w ⟨htimed, hP⟩ => ?_
  obtain ⟨queue, -, hattends⟩ := htimed.attended
  have hsession := Hub.lt_of_readerOf? w.hub queue hattends.reads
  exact ⟨_, rfl, (htimed.rehubbed fun _ h => h.subscribe).shows ⟨hP, Hub.feeds_subscribe hsession⟩⟩

theorem leads_unsubscribe :
    (answer.ask .unsubscribe).Leads (fun _ => True) (Shows b fun clock hal _ => P clock hal)
      (Act.Gives fun _ => Shows b fun clock hal _ => P clock hal) :=
  leads_ask (q := .unsubscribe) (R := fun _ clock hal _ => P clock hal) fun _ ⟨htimed, hP⟩ =>
    ⟨(), rfl, (htimed.rehubbed fun _ h => h.unregister).shows hP⟩

theorem leads_reset :
    (answer.ask (.reset k)).Leads (fun _ => True)
      (Shows b fun clock hal hub => P clock hal ∧ hub.Feeds k)
      (Act.Gives fun _ => Shows b fun clock hal hub =>
        P clock hal ∧ hub.Feeds k ∧ hub.collector k = .empty) :=
  leads_ask (q := .reset k) (R := fun _ clock hal hub =>
    P clock hal ∧ hub.Feeds k ∧ hub.collector k = .empty) fun _ ⟨htimed, hP, hfeeds⟩ =>
    ⟨(), rfl, (htimed.rehubbed fun _ h => h.resetCollector k).timed, hP, hfeeds.resetCollector⟩

end Collectors

theorem leads_delivered {k : Nat} :
    (answer.ask (.delivered k)).Leads (fun _ => True) (Shows b P)
      (Act.Gives fun (c : Collector) => Shows b fun clock hal hub =>
        c = hub.collector k ∧ P clock hal hub) := by
  refine leads_ask (q := .delivered k) (R := fun (c : Collector) clock hal hub =>
    c = hub.collector k ∧ P clock hal hub) ?_
  rintro w ⟨htimed, hP⟩
  exact ⟨w.hub.collector k, rfl, htimed, rfl, hP⟩

/-! ## The end of a scenario -/

/-- Nothing can panic any more in a world, and its playbook changes nothing. -/
def Calm (w : World) : Prop := w.rules = [] ∧ w.playbook = .plain .flowing

theorem Timed.calm (h : w.Timed b) : w.Calm := ⟨h.rules, h.playbook⟩

theorem Calm.of_alike {w' : World} (h : w.Calm) (halike : w.Alike w') : w'.Calm := by
  have hrules : w'.rules.map (·.1) = [] := by rw [halike.rules, h.1, List.map_nil]
  exact ⟨List.map_eq_nil_iff.1 hrules, halike.playbook.trans h.2⟩

theorem Calm.call (h : w.Calm) (c : Call) :
    (∃ reply, (w.call c).1 = .ok reply) ∧ (w.call c).2.Calm := by
  rw [World.call, consult, h.1]
  dsimp only [Rule.apply]
  generalize (if w.atFront = true then w.hal.performAtFront w.behaviour w.clock c
    else w.hal.perform w.behaviour w.clock c) = result
  cases result with
  | error status => exact ⟨⟨_, rfl⟩, rfl, h.2⟩
  | ok reply =>
    obtain ⟨value, next⟩ := reply
    refine ⟨⟨_, rfl⟩, ?_⟩
    dsimp only
    generalize w.callText c ++ "=" ++ replyText c (.ok value) = line
    have hnoted : (({ w with rules := [], hal := next } : World).note line).Calm := ⟨rfl, h.2⟩
    exact hnoted.of_alike (follow_elapses (congrArg Playbook.pokes hnoted.2) c value).toAlike

/-- What is released and unsubscribed at the end changes no verdict. -/
theorem leads_release (p : Prop) (c : Call) :
    (answer.ask (.release c)).Leads (fun _ => True) (fun w => p ∧ w.Calm)
      (Act.Gives fun _ w => p ∧ w.Calm) := by
  refine fun w _ => ⟨trivial, fun ⟨hp, hcalm⟩ => ?_⟩
  obtain ⟨⟨reply, hreply⟩, hcalm'⟩ := hcalm.call c
  have hanswer : answer (.release c) w = (.ok reply, (w.call c).2) := Prod.ext hreply rfl
  rw [Host.ask, hanswer]
  exact ⟨reply, rfl, hp, hcalm'⟩

theorem leads_leave (p : Prop) :
    (answer.ask .unsubscribe).Leads (fun _ => True) (fun w => p ∧ w.Calm)
      (Act.Gives fun _ w => p ∧ w.Calm) :=
  fun _ _ => ⟨trivial, fun h => ⟨(), rfl, h⟩⟩

end Timed

end World

end Bench

end SensorBench
