import SensorBench.Proofs.Delivery.Dispatch

/-!
# A session with its threads

A session whose reader threads, writers and control calls take turns in any order. Each queue
that was handed to the HAL has a thread of its own, which dispatches a batch in five sections:
it counts the batch, tallies its events, looks up who is registered, delivers, and adds to an
armed collection. A control call is also taken in steps, and one is over before the next begins.
`Traffic.run` is a run under any schedule, in which a move that is not possible changes nothing;
its log says what was done. Each of the two counters goes up in a section of its own, and is read
by a move of its own: who asks for both reads the batches first and the events some time later. A
collector takes a batch in as one; a write to a full queue that has to wait is one that is made
later.

Taken without interruption a write with the sections of a dispatch is `Hub.write`, and the steps
of a control call are `Hub.attach` and `Hub.detach` (`Traffic.hub_write`, `Traffic.hub_renew`,
`Traffic.hub_tearDown`).
-/

set_option autoImplicit false

namespace SensorBench

/-- Where a thread is with what it has read; `absent` if it has not been started. -/
inductive ReaderStage where
  | absent
  | waiting
  | received (batch : List Event)
  | counted (batch : List Event)
  | tallied (batch : List Event)
  | addressed (batch : List Event) (sink : Option Nat)
  | delivered (batch : List Event) (sink : Option Nat)
  | finished

/-- A queue with the thread that reads it, and the flag by which the thread is told to stop. -/
structure Line where
  queue : Queue
  stage : ReaderStage
  active : Bool

/-- A new queue that no thread reads yet. -/
def Line.opened (capacity : Nat) : Line := ⟨.ofCapacity capacity, .absent, false⟩

/-- Where the control call is: the HAL has been handed the writer of a new queue, or it has
accepted it; an old thread is told to stop, its queue closed, or its end waited for; or events
are collected. -/
inductive Control where
  | idle
  | offering (queue : Nat)
  | swapping (queue : Nat)
  | deactivating (old : Nat)
  | closing (old : Nat)
  | joining (old : Nat)
  | collecting

/-- What was done: a write answered, a section of a dispatch, a sink registered or taken away, a
queue handed to the HAL, the end of a control call, and a look at one of the counters. -/
inductive Deed where
  | wrote (queue : Nat) (batch : List Event) (taken : Bool)
  | counted (queue : Nat) (batch : List Event)
  | tallied (queue : Nat) (batch : List Event)
  | addressed (queue : Nat) (batch : List Event) (sink : Option Nat)
  | delivered (queue : Nat) (batch : List Event) (sink : Option Nat)
  | gathered (queue : Nat) (batch : List Event) (armed : Bool)
  | registered (sink : Option Nat)
  | offered (queue : Nat)
  | refused (queue : Nat)
  | renewed (queue : Nat)
  | tornDown
  | armed
  | collected (events : List Event)
  | sawBatches (batches : Nat)
  | sawEvents (events : Nat)

/-- A session, the collectors that may be registered, the queues so far, the control call, and
the log. -/
structure Traffic where
  session : Session
  collectors : Array Collector
  lines : Array Line
  control : Control
  log : List Deed

namespace Traffic

/-- A session that has not connected yet, and some collectors. -/
def start (collectors : Nat) : Traffic :=
  ⟨⟨none, none, none, 0, 0⟩, Array.replicate collectors .empty, #[], .idle, []⟩

/-- The hub of the session: what is there apart from threads and calls. -/
def hub (s : Traffic) : Hub := ⟨s.lines.map (·.queue), #[s.session], s.collectors⟩

/-- The log goes on. -/
def note (s : Traffic) (d : Deed) : Traffic := { s with log := s.log ++ [d] }

/-- A line changed. -/
def setLine (s : Traffic) (q : Nat) (line : Line) : Traffic :=
  { s with lines := s.lines.setIfInBounds q line }

/-! ## Sections of a dispatch -/

/-- The counter of batches goes up. -/
def count (s : Traffic) : Traffic :=
  { s with session := { s.session with batches := s.session.batches + 1 } }

/-- The counter of events goes up by those of a batch. -/
def tally (s : Traffic) (batch : List Event) : Traffic :=
  { s with session := { s.session with events := s.session.events + batch.length } }

/-- A collector takes a batch in. -/
def deliver (s : Traffic) (sink : Option Nat) (batch : List Event) : Traffic :=
  { s with
    collectors := match sink with
      | some k => s.collectors.modify k (·.deliver batch)
      | none => s.collectors }

/-- An armed collection takes a batch in. -/
def gather (s : Traffic) (batch : List Event) : Traffic :=
  { s with session := { s.session with
      collection := s.session.collection.map fun es => es ++ batch } }

/-! ## Moves of threads and writers -/

/-- The next step of the thread that reads a queue. One that waits for a batch stays where it
is. -/
def read (s : Traffic) (q : Nat) : Traffic :=
  match s.lines[q]? with
  | none => s
  | some line => match line.stage with
    | .absent | .finished => s
    | .waiting => match line.queue.read? with
      | none => s
      | some (none, _) => s.setLine q { line with stage := .finished }
      | some (some batch, queue) => s.setLine q { line with queue, stage := .received batch }
    | .received batch =>
      if line.active then
        (s.count.setLine q { line with stage := .counted batch }).note (.counted q batch)
      else s.setLine q { line with stage := .finished }
    | .counted batch =>
      ((s.tally batch).setLine q { line with stage := .tallied batch }).note (.tallied q batch)
    | .tallied batch =>
      (s.setLine q { line with stage := .addressed batch s.session.sink }).note
        (.addressed q batch s.session.sink)
    | .addressed batch sink =>
      ((s.deliver sink batch).setLine q { line with stage := .delivered batch sink }).note
        (.delivered q batch sink)
    | .delivered batch _ =>
      ((s.gather batch).setLine q { line with stage := .waiting }).note
        (.gathered q batch s.session.collection.isSome)

/-- A batch written to a queue; a write to a full queue has no answer yet. -/
def write (s : Traffic) (q : Nat) (batch : List Event) : Traffic :=
  match s.lines[q]? with
  | none => s
  | some line => match line.queue.write? batch with
    | none => s
    | some (taken, queue) => (s.setLine q { line with queue }).note (.wrote q batch taken)

/-! ## Moves of control calls -/

/-- The end of a call that connected the session or tore it down. -/
def finish (s : Traffic) : Traffic :=
  { s with control := .idle }.note (match s.session.reader with
    | some q => .renewed q
    | none => .tornDown)

/-- The thread that was replaced, if any, is to be stopped next. -/
def stop (s : Traffic) : Option Nat → Traffic
  | some old => { s with control := .deactivating old }
  | none => s.finish

/-- A thread is started for a queue and takes the place of the one before it. -/
def swap (s : Traffic) (q : Nat) (line : Line) : Traffic :=
  { s.setLine q { line with stage := .waiting, active := true } with
    session := { s.session with reader := some q } }

/-- The next step of the control call: a thread is started for the queue that the HAL has
accepted and takes the place of the one before it, which is told to stop, its queue closed, and
its end waited for. -/
def proceed (s : Traffic) : Traffic :=
  match s.control with
  | .swapping q => match s.lines[q]? with
    | none => s
    | some line => (s.swap q line).stop s.session.reader
  | .deactivating old => match s.lines[old]? with
    | none => s
    | some line => { s.setLine old { line with active := false } with control := .closing old }
  | .closing old => match s.lines[old]? with
    | none => s
    | some line =>
      { s.setLine old { line with queue := line.queue.close } with control := .joining old }
  | .joining old => match s.lines[old]? with
    | some ⟨_, .finished, _⟩ => s.finish
    | _ => s
  | _ => s

/-- What may be done next: by a writer, by the thread of a queue, by the party that makes
control calls, or by anyone who reads a counter. -/
inductive Move where
  | write (queue : Nat) (batch : List Event)
  | read (queue : Nat)
  | register (sink : Option Nat)
  | offer (capacity : Nat)
  | accept
  | refuse
  | tearDown
  | proceed
  | arm
  | disarm
  | readBatches
  | readEvents

/-- The exchange after a move. A control call begins only if none is in progress. -/
def step (s : Traffic) : Move → Traffic
  | .write q batch => s.write q batch
  | .read q => s.read q
  | .register sink => match s.control with
    | .idle => { s with session := { s.session with sink } }.note (.registered sink)
    | _ => s
  | .offer capacity => match s.control with
    | .idle =>
      { s with
        lines := s.lines.push (.opened capacity)
        control := .offering s.lines.size }.note (.offered s.lines.size)
    | _ => s
  | .accept => match s.control with
    | .offering q => { s with control := .swapping q }
    | _ => s
  | .refuse => match s.control with
    | .offering q => match s.lines[q]? with
      | none => s
      | some line =>
        { s.setLine q { line with queue := line.queue.close } with control := .idle }.note
          (.refused q)
    | _ => s
  | .tearDown => match s.control with
    | .idle => { s with session := { s.session with reader := none } }.stop s.session.reader
    | _ => s
  | .proceed => s.proceed
  | .arm => match s.control with
    | .idle =>
      { s with session := { s.session with collection := some #[] }, control := .collecting }.note
        .armed
    | _ => s
  | .disarm => match s.control with
    | .collecting =>
      { s with session := { s.session with collection := none }, control := .idle }.note
        (.collected ((s.session.collection.map Array.toList).getD []))
    | _ => s
  | .readBatches => s.note (.sawBatches s.session.batches)
  | .readEvents => s.note (.sawEvents s.session.events)

/-- The traffic after a schedule. -/
def run (s : Traffic) (moves : List Move) : Traffic := moves.foldl step s

/-! ## Without interruption -/

section Uninterrupted

variable {s : Traffic}

theorem hub_register (h : s.control = .idle) (k : Nat) :
    (s.step (.register (some k))).hub = s.hub.register 0 k := by
  rw [step, h]
  rfl

theorem hub_unregister (h : s.control = .idle) :
    (s.step (.register none)).hub = s.hub.unregister 0 := by
  rw [step, h]
  rfl

theorem hub_arm (h : s.control = .idle) : (s.step .arm).hub = s.hub.arm 0 := by
  rw [step, h]
  rfl

theorem hub_disarm (h : s.control = .collecting) :
    (s.step .disarm).hub = (s.hub.disarm 0).2 ∧
      (s.step .disarm).log = s.log ++ [.collected (s.hub.disarm 0).1] := by
  have hevents : (s.hub.disarm 0).1 = (s.session.collection.map Array.toList).getD [] := by
    obtain ⟨⟨reader, sink, collection, batches, events⟩, collectors, lines, control, log⟩ := s
    cases collection <;> rfl
  rw [step, h, hevents]
  exact ⟨rfl, rfl⟩

variable {q : Nat} {line : Line} {queue : Queue} {batch : List Event} {active : Bool}

theorem getElem?_setLine_self (h : s.lines[q]? = some line) (line' : Line) :
    (s.setLine q line').lines[q]? = some line' := by
  rw [setLine, Array.getElem?_setIfInBounds_self_of_lt]
  exact (Array.getElem?_eq_some_iff.1 h).1

theorem queues_set {lines : Array Line} {line' : Line} (h : lines[q]? = some line)
    (hsame : line'.queue = line.queue) :
    (lines.setIfInBounds q line').map (·.queue) = lines.map (·.queue) := by
  apply Array.ext_getElem?
  intro i
  rw [Array.getElem?_map, Array.getElem?_map, Array.getElem?_setIfInBounds]
  split
  · next hq =>
    rw [← hq, h, if_pos (Array.getElem?_eq_some_iff.1 h).1, Option.map_some, hsame]
    rfl
  · rfl

theorem hub_queue (h : s.lines[q]? = some line) : s.hub.queues[q]? = some line.queue := by
  show (s.lines.map (·.queue))[q]? = _
  rw [Array.getElem?_map, h]
  rfl

theorem hub_setLine_queue (q : Nat) (line : Line) :
    (s.setLine q line).hub =
      { s.hub with queues := s.hub.queues.setIfInBounds q line.queue } := by
  rw [hub, setLine, Array.map_setIfInBounds]
  rfl

theorem hub_setLine {line' : Line} (h : s.lines[q]? = some line)
    (hsame : line'.queue = line.queue) : (s.setLine q line').hub = s.hub := by
  rw [hub, hub, setLine, queues_set h hsame]

theorem hub_setLine_modify {line' : Line} (h : s.lines[q]? = some line) (f : Queue → Queue)
    (hf : line'.queue = f line.queue) :
    (s.setLine q line').hub = { s.hub with queues := s.hub.queues.modify q f } := by
  have hqueues : (s.lines.setIfInBounds q line').map (·.queue) =
      (s.lines.map (·.queue)).modify q f := by
    apply Array.ext_getElem?
    intro i
    rw [Array.getElem?_map, Array.getElem?_modify, Array.getElem?_map,
      Array.getElem?_setIfInBounds]
    split
    · next hq =>
      rw [← hq, h, if_pos (Array.getElem?_eq_some_iff.1 h).1, Option.map_some, hf]
      rfl
    · rfl
  rw [hub, setLine, hqueues]
  rfl

theorem read_received (h : s.lines[q]? = some ⟨queue, .received batch, true⟩) :
    s.read q = (s.count.setLine q ⟨queue, .counted batch, true⟩).note (.counted q batch) := by
  rw [read, h]
  rfl

theorem read_counted (h : s.lines[q]? = some ⟨queue, .counted batch, active⟩) :
    s.read q = ((s.tally batch).setLine q ⟨queue, .tallied batch, active⟩).note
      (.tallied q batch) := by
  rw [read, h]

theorem read_tallied (h : s.lines[q]? = some ⟨queue, .tallied batch, active⟩) :
    s.read q = (s.setLine q ⟨queue, .addressed batch s.session.sink, active⟩).note
      (.addressed q batch s.session.sink) := by
  rw [read, h]

theorem read_addressed {sink : Option Nat}
    (h : s.lines[q]? = some ⟨queue, .addressed batch sink, active⟩) :
    s.read q = ((s.deliver sink batch).setLine q ⟨queue, .delivered batch sink, active⟩).note
      (.delivered q batch sink) := by
  rw [read, h]

theorem read_delivered {sink : Option Nat}
    (h : s.lines[q]? = some ⟨queue, .delivered batch sink, active⟩) :
    s.read q = ((s.gather batch).setLine q ⟨queue, .waiting, active⟩).note
      (.gathered q batch s.session.collection.isSome) := by
  rw [read, h]

theorem section_facts (h : s.lines[q]? = some line) (stage : ReaderStage) (d : Deed) :
    ((s.setLine q { line with stage }).note d).lines[q]? = some { line with stage } ∧
      ((s.setLine q { line with stage }).note d).hub = s.hub :=
  ⟨getElem?_setLine_self h _, hub_setLine h rfl⟩

/-- The sections of a dispatch together are the dispatch of a batch. -/
theorem hub_sections (h : s.lines[q]? = some ⟨queue, .received batch, true⟩) :
    (s.run (List.replicate 5 (.read q))).hub = s.hub.dispatch 0 batch := by
  have hcounted : (s.read q).lines[q]? = some ⟨queue, .counted batch, true⟩ ∧
      (s.read q).hub = s.count.hub := by
    rw [read_received h]
    exact section_facts (s := s.count) h _ _
  have hsink : (s.read q).session.sink = s.session.sink := by
    rw [read_received h]
    rfl
  simp only [run, List.replicate, List.foldl_cons, List.foldl_nil, step]
  generalize s.read q = r at hcounted hsink ⊢
  have htallied : (r.read q).lines[q]? = some ⟨queue, .tallied batch, true⟩ ∧
      (r.read q).hub = (r.tally batch).hub := by
    rw [read_counted hcounted.1]
    exact section_facts (s := r.tally batch) hcounted.1 _ _
  have hsame : (r.read q).session.sink = s.session.sink := by
    rw [read_counted hcounted.1]
    exact hsink
  generalize r.read q = t at htallied hsame ⊢
  have haddressed : (t.read q).lines[q]? = some ⟨queue, .addressed batch s.session.sink, true⟩ ∧
      (t.read q).hub = t.hub := by
    rw [read_tallied htallied.1, hsame]
    exact section_facts htallied.1 _ _
  generalize t.read q = u at haddressed ⊢
  have hdelivered : (u.read q).lines[q]? = some ⟨queue, .delivered batch s.session.sink, true⟩ ∧
      (u.read q).hub = (u.deliver s.session.sink batch).hub := by
    rw [read_addressed haddressed.1]
    exact section_facts (s := u.deliver s.session.sink batch) haddressed.1 _ _
  generalize u.read q = v at hdelivered ⊢
  rw [read_delivered hdelivered.1]
  have hgathered := (section_facts (s := v.gather batch) hdelivered.1 .waiting
    (.gathered q batch v.session.collection.isSome)).2
  rw [hgathered]
  show { v.hub with sessions := v.hub.sessions.modify 0 fun t => { t with
      collection := t.collection.map fun es => es ++ batch } } = _
  have hdeliver : (u.deliver s.session.sink batch).hub = { u.hub with
      collectors := match s.session.sink with
        | some k => u.hub.collectors.modify k (·.deliver batch)
        | none => u.hub.collectors } := rfl
  have htally : (r.tally batch).hub = { r.hub with
      sessions := r.hub.sessions.modify 0 fun t => { t with
        events := t.events + batch.length } } := rfl
  rw [hdelivered.2, hdeliver, haddressed.2, htallied.2, htally, hcounted.2]
  rfl

/-- A thread that is left alone dispatches the oldest batch of its queue. -/
theorem hub_readBatch {rest : List (List Event)} (hreader : s.session.reader = some q)
    (h : s.lines[q]? = some ⟨queue, .waiting, true⟩) (hwaiting : queue.waiting = batch :: rest) :
    (s.run (List.replicate 6 (.read q))).hub = s.hub.readerStep 0 := by
  have hread : queue.read? = some (some batch, { queue with waiting := rest }) := by
    rw [Queue.read?, hwaiting]
  have hfirst : s.read q = s.setLine q ⟨{ queue with waiting := rest }, .received batch, true⟩ := by
    rw [read, h]
    dsimp only
    rw [hread]
  have hstep : s.hub.readerStep 0 = { s.hub with
      queues := s.hub.queues.setIfInBounds q { queue with waiting := rest } }.dispatch 0 batch := by
    have hown : s.hub.sessions[0]?.bind (·.reader) = some q := hreader
    rw [Hub.readerStep, hown]
    dsimp only
    rw [hub_queue h, Option.bind_some, hread]
  rw [List.replicate_succ, run, List.foldl_cons]
  show ((s.read q).run _).hub = _
  rw [hfirst, hub_sections (getElem?_setLine_self h _), hub_setLine_queue, hstep]

/-- A write that is followed by a dispatch is the write of a hub. -/
theorem hub_write {next : Queue} {oldest : List Event} {rest : List (List Event)} {taken : Bool}
    (hreader : s.session.reader = some q) (h : s.lines[q]? = some ⟨queue, .waiting, true⟩)
    (hwrite : queue.write? batch = some (taken, next)) (hwaiting : next.waiting = oldest :: rest) :
    (s.run (.write q batch :: List.replicate 6 (.read q))).hub = (s.hub.write q batch).2 := by
  have hfirst : s.write q batch =
      (s.setLine q ⟨next, .waiting, true⟩).note (.wrote q batch taken) := by
    rw [write, h]
    dsimp only
    rw [hwrite]
  have hreads : { s.hub with queues := s.hub.queues.setIfInBounds q next }.readerOf? q =
      some 0 := by
    rw [Hub.readerOf?, Array.findIdx?_eq_some_iff_getElem]
    refine ⟨Nat.one_pos, ?_, fun j hj => absurd hj (Nat.not_lt_zero j)⟩
    show (s.session.reader == some q) = true
    rw [hreader]
    exact beq_self_eq_true _
  have hrun := hub_readBatch (s := s.write q batch) (q := q)
    (by rw [hfirst]; exact hreader) (by rw [hfirst]; exact getElem?_setLine_self h _) hwaiting
  rw [run, List.foldl_cons]
  show ((s.write q batch).run _).hub = _
  rw [hrun, Hub.write, hub_queue h, Option.bind_some, hwrite]
  dsimp only
  rw [hreads, hfirst]
  exact congrArg (·.readerStep 0) (hub_setLine_queue q ⟨next, .waiting, true⟩)

/-- The steps that stop a thread close its queue. -/
theorem hub_stop (old : Option Nat) (hold : ∀ q ∈ old, q < s.lines.size) :
    ((s.stop old).run [.proceed, .proceed]).hub =
      old.elim s.hub fun q => { s.hub with queues := s.hub.queues.modify q (·.close) } := by
  cases old with
  | none => rfl
  | some q =>
    obtain ⟨line, hline⟩ : ∃ line, s.lines[q]? = some line :=
      ⟨_, Array.getElem?_eq_getElem (hold q rfl)⟩
    have hfirst : (s.stop (some q)).proceed = { s.setLine q { line with active := false } with
        control := .closing q } := by
      rw [stop, proceed]
      dsimp only
      rw [hline]
      rfl
    have hnext := getElem?_setLine_self hline { line with active := false }
    have hsame : (s.setLine q { line with active := false }).hub = s.hub := hub_setLine hline rfl
    show ((s.stop (some q)).proceed.proceed).hub = _
    rw [hfirst, proceed]
    dsimp only
    rw [hnext, Option.elim_some, ← hsame]
    exact hub_setLine_modify hnext (·.close) rfl

/-- A session is torn down. -/
theorem hub_tearDown (hcontrol : s.control = .idle)
    (hreader : ∀ q ∈ s.session.reader, q < s.lines.size) :
    (s.run [.tearDown, .proceed, .proceed]).hub = s.hub.detach 0 := by
  have hfirst : s.step .tearDown =
      { s with session := { s.session with reader := none } }.stop s.session.reader := by
    rw [step, hcontrol]
  show ((s.step .tearDown).run [.proceed, .proceed]).hub = _
  rw [hfirst, hub_stop (s := { s with session := { s.session with reader := none } }) _ hreader]
  obtain ⟨⟨reader, sink, collection, batches, events⟩, collectors, lines, control, log⟩ := s
  cases reader <;> rfl

/-- A thread takes the place of another. -/
theorem hub_swap (hcontrol : s.control = .swapping q) (hline : s.lines[q]? = some line)
    (hreader : ∀ p ∈ s.session.reader, p < s.lines.size) :
    (s.run [.proceed, .proceed, .proceed]).hub = s.hub.attach 0 q := by
  have hfirst : s.proceed = (s.swap q line).stop s.session.reader := by
    rw [proceed, hcontrol]
    dsimp only
    rw [hline]
  have hswapped : (s.swap q line).hub =
      { s.hub with sessions := #[{ s.session with reader := some q }] } := by
    rw [hub, swap, setLine]
    dsimp only
    rw [queues_set hline (show { line with stage := .waiting, active := true }.queue = _ from rfl)]
    rfl
  show (s.proceed.run [.proceed, .proceed]).hub = _
  rw [hfirst, hub_stop _ fun p hp => ?_, hswapped]
  · obtain ⟨⟨reader, sink, collection, batches, events⟩, collectors, lines, control, log⟩ := s
    cases reader <;> rfl
  · have hsize := hreader p hp
    rwa [swap, setLine, Array.size_setIfInBounds]

/-- A session is moved to a queue that the HAL accepts. -/
theorem hub_renew (hcontrol : s.control = .idle)
    (hreader : ∀ q ∈ s.session.reader, q < s.lines.size) (capacity : Nat) :
    (s.run [.offer capacity, .accept, .proceed, .proceed, .proceed]).hub =
      (s.hub.openQueue capacity).2.attach 0 (s.hub.openQueue capacity).1 := by
  have hoffered : (s.step (.offer capacity)).step .accept = { s with
      lines := s.lines.push (.opened capacity)
      control := .swapping s.lines.size
      log := s.log ++ [.offered s.lines.size] } := by
    rw [step, hcontrol]
    rfl
  have hopened : s.hub.openQueue capacity = (s.lines.size,
      { s.hub with queues := (s.lines.push (.opened capacity)).map (·.queue) }) := by
    rw [Hub.openQueue, hub, Array.size_map, Array.map_push]
    rfl
  show (((s.step (.offer capacity)).step .accept).run [.proceed, .proceed, .proceed]).hub = _
  rw [hoffered, hopened, hub_swap rfl Array.getElem?_push_size fun q hq => ?_]
  · rfl
  · rw [Array.size_push]
    exact Nat.lt_succ_of_lt (hreader q hq)

end Uninterrupted

end Traffic

end SensorBench
