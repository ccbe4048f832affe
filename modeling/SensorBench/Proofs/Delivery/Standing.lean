import SensorBench.Proofs.Delivery.History

/-!
# How threads stand

How the line of a queue may stand, given where the control call is (`Traffic.Arranged`), how it
stands to the log (`Traffic.Recorded`), and what a session and its collectors have of the log
(`Traffic.Booked`), with what keeps each of these.
-/

set_option autoImplicit false

namespace SensorBench

namespace Queue

variable {queue next : Queue} {batch : List Event}

theorem write?_facts {taken : Bool} (h : queue.write? batch = some (taken, next)) :
    next.closed = queue.closed ∧ (queue.closed = true → taken = false) ∧
      next.waiting = queue.waiting ++
        if taken = true ∧ batch.isEmpty = false then [batch] else [] := by
  rw [write?] at h
  split at h
  · next hempty =>
    cases h
    refine ⟨rfl, fun hclosed => by rw [hclosed]; rfl, ?_⟩
    rw [if_neg (by simp [hempty]), List.append_nil]
  · next hsome =>
    split at h
    · cases h
      refine ⟨rfl, fun _ => rfl, ?_⟩
      rw [if_neg (by simp), List.append_nil]
    · next hopen =>
      split at h
      · cases h
        refine ⟨rfl, fun hclosed => absurd hclosed hopen, ?_⟩
        rw [if_pos ⟨rfl, by simpa using hsome⟩]
      · cases h

theorem read?_facts (h : queue.read? = some (some batch, next)) :
    next.closed = queue.closed ∧ queue.waiting = batch :: next.waiting := by
  rw [read?] at h
  split at h
  · next first rest hwaiting =>
    cases h
    exact ⟨rfl, hwaiting⟩
  · split at h <;> cases h

theorem closed_of_read? (h : queue.read? = some (none, next)) : queue.closed = true := by
  rw [read?] at h
  split at h
  · cases h
  · split at h
    · assumption
    · cases h

end Queue

/-! ## How a thread may stand -/

/-- Whether a thread was started and has not come to its end. -/
def ReaderStage.isRunning : ReaderStage → Bool
  | .absent | .finished => false
  | _ => true

namespace Line

/-- The queue is closed and no thread reads it: no write is taken any more, and nothing is
dispatched. -/
def Settled (line : Line) : Prop := line.queue.closed = true ∧ line.stage.isRunning = false

/-- The queue is open, and no thread reads it yet. -/
def Fresh (line : Line) : Prop := line.queue.closed = false ∧ line.stage = .absent

/-- The queue is open, and its thread goes on reading it. -/
def Live (line : Line) : Prop :=
  line.queue.closed = false ∧ line.active = true ∧ line.stage.isRunning = true

/-- What the thread has taken from the queue and not begun to dispatch. -/
def inHand (line : Line) : List (List Event) :=
  match line.stage with
  | .received batch => [batch]
  | _ => []

/-- The thread stands where the last section in the log has left it, and every batch that was
stored has been dispatched, is in hand or waits, unless the thread has come to its end. -/
structure Fits (q : Nat) (log : List Deed) (line : Line) : Prop where
  last : match line.stage with
    | .absent | .waiting | .received _ | .finished => Traffic.Rested q log
    | .counted batch => Traffic.lastSection q log = some (.counted q batch)
    | .tallied batch => Traffic.lastSection q log = some (.tallied q batch)
    | .addressed batch sink => Traffic.lastSection q log = some (.addressed q batch sink)
    | .delivered batch sink => Traffic.lastSection q log = some (.delivered q batch sink)
  whole : line.stage ≠ .finished → Traffic.acceptedIn q log =
    Traffic.dispatchedIn q log ++ line.inHand ++ line.queue.waiting

/-- What a thread or a writer does to a line leaves it settled, fresh or live. -/
structure Goes (line line' : Line) : Prop where
  settled : line.Settled → line'.Settled
  fresh : line.Fresh → line'.Fresh
  live : line.Live → line'.Live
  closed : line.queue.closed = true → line'.queue.closed = true

section Lines

variable {q : Nat} {log : List Deed} {d : Deed} {line line' : Line}

/-- What a log says of a queue stays if what follows is not about it. -/
theorem Fits.note (h : line.Fits q log) (hd : d.isOn q = false) : line.Fits q (log ++ [d]) := by
  obtain ⟨haccepted, hdispatched, hsection⟩ := d.not_isOn_facts hd
  have hlast : Traffic.lastSection q (log ++ [d]) = Traffic.lastSection q log := by
    rw [Traffic.lastSection_concat, hsection, if_neg Bool.false_ne_true]
  constructor
  · have hstands := h.last
    simp only [Traffic.Rested, hlast]
    exact hstands
  · rw [Traffic.acceptedIn_note haccepted, Traffic.dispatchedIn_note hdispatched]
    exact h.whole

theorem Goes.of_same (hclosed : line'.queue.closed = line.queue.closed)
    (hstage : line'.stage = line.stage) (hactive : line'.active = line.active) :
    line.Goes line' := by
  constructor
  · rw [Settled, Settled, hclosed, hstage]; exact id
  · rw [Fresh, Fresh, hclosed, hstage]; exact id
  · rw [Live, Live, hclosed, hstage, hactive]; exact id
  · rw [hclosed]; exact id

/-- A thread that runs and goes on running. -/
theorem Goes.of_running (hclosed : line'.queue.closed = line.queue.closed)
    (hactive : line'.active = line.active) (hbefore : line.stage.isRunning = true)
    (hafter : line'.stage.isRunning = true) : line.Goes line' := by
  constructor
  · exact fun h => absurd (h.2.symm.trans hbefore) Bool.false_ne_true
  · intro h
    rw [h.2] at hbefore
    exact absurd hbefore Bool.false_ne_true
  · exact fun h => ⟨hclosed.trans h.1, hactive.trans h.2.1, hafter⟩
  · rw [hclosed]; exact id

/-- A thread that comes to its end because its queue is closed or it was told to stop. -/
theorem Goes.of_ending (hclosed : line'.queue.closed = line.queue.closed)
    (hbefore : line.stage.isRunning = true) (hafter : line'.stage.isRunning = false)
    (hcause : line.queue.closed = true ∨ line.active = false) : line.Goes line' := by
  constructor
  · exact fun h => ⟨hclosed.trans h.1, hafter⟩
  · intro h
    rw [h.2] at hbefore
    exact absurd hbefore Bool.false_ne_true
  · rintro ⟨hopen, hactive, -⟩
    rw [hopen, hactive] at hcause
    exact absurd hcause (by decide)
  · rw [hclosed]; exact id

end Lines

end Line

namespace Control

/-- The queue that the control call is about. -/
def queue? : Control → Option Nat
  | .offering q | .swapping q | .deactivating q | .closing q | .joining q => some q
  | .idle | .collecting => none

/-- The queue whose thread is being stopped. -/
def stopping? : Control → Option Nat
  | .deactivating q | .closing q | .joining q => some q
  | _ => none

/-- How the line of a queue that the session does not read may stand. -/
def Leaves (q : Nat) (line : Line) : Control → Prop
  | .offering p | .swapping p => if p = q then line.Fresh else line.Settled
  | .deactivating p | .closing p => p ≠ q → line.Settled
  | .joining p => if p = q then line.queue.closed = true else line.Settled
  | .idle | .collecting => line.Settled

theorem Leaves.goes {q : Nat} {line line' : Line} {control : Control} (h : control.Leaves q line)
    (hgoes : line.Goes line') : control.Leaves q line' := by
  cases control with
  | offering p | swapping p =>
    rw [Leaves] at h ⊢
    split
    · next hp => exact hgoes.fresh (by rwa [if_pos hp] at h)
    · next hp => exact hgoes.settled (by rwa [if_neg hp] at h)
  | deactivating p | closing p => exact fun hp => hgoes.settled (h hp)
  | joining p =>
    rw [Leaves] at h ⊢
    split
    · next hp => exact hgoes.closed (by rwa [if_pos hp] at h)
    · next hp => exact hgoes.settled (by rwa [if_neg hp] at h)
  | idle | collecting => exact hgoes.settled h

end Control

namespace Traffic

/-- The thread of the queue that the session reads goes on, and the others stand as the control
call leaves them. -/
structure Arranged (reader : Option Nat) (control : Control) (lines : Array Line) : Prop where
  inRange : ∀ q ∈ reader, q < lines.size
  apart : ∀ q ∈ control.queue?, q < lines.size ∧ reader ≠ some q
  read : ∀ q (line : Line), lines[q]? = some line → reader = some q → line.Live
  left : ∀ q (line : Line), lines[q]? = some line → reader ≠ some q → control.Leaves q line

/-- The session and its collectors have what the log says. -/
structure Booked (n : Nat) (session : Session) (collectors : Array Collector) (log : List Deed) :
    Prop where
  sink : session.sink = registeredIn log
  collection : session.collection.map Array.toList = collectionIn log
  batches : session.batches = (allDispatchedIn log).length
  events : session.events = (allTalliedIn log).flatten.length
  collectors : collectors.size = n ∧
    ∀ k < n, collectors[k]? = some ((sentIn k log).foldl Collector.deliver .empty)

/-- The lines have what the log says, and the log is lawful. -/
structure Recorded (lines : Array Line) (log : List Deed) : Prop where
  offered : ∀ q, .offered q ∈ log ↔ q < lines.size
  known : ∀ q, ∀ d ∈ log, d.isOn q = true → q < lines.size
  fits : ∀ q (line : Line), lines[q]? = some line → line.Fits q log
  retired : ∀ q (line : Line), lines[q]? = some line → Retired q log → line.Settled
  lawful : AllLawful log

/-! ## Lines that change -/

section Changes

variable {reader : Option Nat} {control next : Control} {lines : Array Line} {log : List Deed}
  {q p : Nat} {line line' l : Line} {d : Deed}

theorem line_set (h : (lines.setIfInBounds q line')[p]? = some l) :
    (p = q ∧ l = line') ∨ (p ≠ q ∧ lines[p]? = some l) := by
  rw [Array.getElem?_setIfInBounds] at h
  split at h
  · next hp =>
    split at h
    · exact .inl ⟨hp.symm, (Option.some.inj h).symm⟩
    · cases h
  · next hp => exact .inr ⟨fun hq => hp hq.symm, h⟩

theorem line_push (h : (lines.push line)[p]? = some l) :
    (p = lines.size ∧ l = line) ∨ (p < lines.size ∧ lines[p]? = some l) := by
  rw [Array.getElem?_push] at h
  split at h
  · next hp => exact .inl ⟨hp, (Option.some.inj h).symm⟩
  · exact .inr ⟨(Array.getElem?_eq_some_iff.1 h).1, h⟩

/-- A thread or a writer changes its line. -/
theorem Arranged.moved (h : Arranged reader control lines) (hline : lines[q]? = some line)
    (hgoes : line.Goes line') : Arranged reader control (lines.setIfInBounds q line') := by
  constructor
  · rw [Array.size_setIfInBounds]
    exact h.inRange
  · rw [Array.size_setIfInBounds]
    exact h.apart
  · intro p l hl hp
    rcases line_set hl with ⟨rfl, rfl⟩ | ⟨-, hl⟩
    · exact hgoes.live (h.read p line hline hp)
    · exact h.read p l hl hp
  · intro p l hl hp
    rcases line_set hl with ⟨rfl, rfl⟩ | ⟨-, hl⟩
    · exact (h.left p line hline hp).goes hgoes
    · exact h.left p l hl hp

/-- The control call changes the line that it is about. -/
theorem Arranged.turned (h : Arranged reader control lines) (hq : q ∈ control.queue?)
    (hnext : ∀ p ∈ next.queue?, p ∈ control.queue?) (hself : next.Leaves q line')
    (hothers : ∀ p l, p ≠ q → control.Leaves p l → next.Leaves p l) :
    Arranged reader next (lines.setIfInBounds q line') := by
  constructor
  · rw [Array.size_setIfInBounds]
    exact h.inRange
  · rw [Array.size_setIfInBounds]
    exact fun p hp => h.apart p (hnext p hp)
  · intro p l hl hp
    rcases line_set hl with ⟨rfl, -⟩ | ⟨-, hl⟩
    · exact absurd hp (h.apart p hq).2
    · exact h.read p l hl hp
  · intro p l hl hp
    rcases line_set hl with ⟨rfl, rfl⟩ | ⟨hne, hl⟩
    · exact hself
    · exact hothers p l hne (h.left p l hl hp)

/-- What the line is that a queue has which the HAL was handed. -/
theorem Arranged.fresh (h : Arranged reader control lines) (hline : lines[q]? = some line)
    (hnow : control = .offering q ∨ control = .swapping q) : line.Fresh := by
  have hq : q ∈ control.queue? := by rcases hnow with rfl | rfl <;> rfl
  have hthere := h.left q line hline (h.apart q hq).2
  rcases hnow with rfl | rfl
  · rwa [Control.Leaves, if_pos rfl] at hthere
  · rwa [Control.Leaves, if_pos rfl] at hthere

/-- A line changes, and nothing is logged. -/
theorem Recorded.moved (h : Recorded lines log) (hline : lines[q]? = some line)
    (hsettled : line.Settled → line'.Settled) (hfits : line'.Fits q log) :
    Recorded (lines.setIfInBounds q line') log := by
  constructor
  · rw [Array.size_setIfInBounds]
    exact h.offered
  · rw [Array.size_setIfInBounds]
    exact h.known
  · intro p l hl
    rcases line_set hl with ⟨rfl, rfl⟩ | ⟨-, hl⟩
    · exact hfits
    · exact h.fits p l hl
  · intro p l hl hretired
    rcases line_set hl with ⟨rfl, rfl⟩ | ⟨-, hl⟩
    · exact hsettled (h.retired p line hline hretired)
    · exact h.retired p l hl hretired
  · exact h.lawful

/-- A thread or a writer changes its line, and it is logged. -/
theorem Recorded.acted (h : Recorded lines log) (hline : lines[q]? = some line)
    (hd : d.isOn q = true) (hlawful : Lawful log d) (hsettled : line.Settled → line'.Settled)
    (hfits : line'.Fits q (log ++ [d])) :
    Recorded (lines.setIfInBounds q line') (log ++ [d]) := by
  obtain ⟨hothers, hretires, hoffered, -⟩ := d.isOn_facts hd
  -- the deed offers and retires nothing, and for every other line it is as if it were not there
  constructor
  · intro p
    rw [Array.size_setIfInBounds, ← h.offered p, List.mem_append, List.mem_singleton,
      or_iff_left (Ne.symm (hoffered p))]
  · intro p e he hon
    rw [Array.size_setIfInBounds]
    rcases List.mem_append.1 he with hbefore | hnow
    · exact h.known p e hbefore hon
    · cases List.mem_singleton.1 hnow
      have hp : p = q := Decidable.byContradiction fun hne =>
        Bool.false_ne_true ((hothers p hne).symm.trans hon)
      rw [hp]
      exact (Array.getElem?_eq_some_iff.1 hline).1
  · intro p l hl
    rcases line_set hl with ⟨rfl, rfl⟩ | ⟨hp, hl⟩
    · exact hfits
    · exact (h.fits p l hl).note (hothers p hp)
  · intro p l hl hretired
    rw [retired_concat, hretires] at hretired
    have hbefore := hretired.resolve_right fun hnow => Bool.false_ne_true hnow.2
    rcases line_set hl with ⟨rfl, rfl⟩ | ⟨-, hl⟩
    · exact hsettled (h.retired p line hline hbefore)
    · exact h.retired p l hl hbefore
  · exact h.lawful.concat hlawful

/-- What is logged is about no line. -/
theorem Recorded.noted (h : Recorded lines log) (hon : ∀ q, d.isOn q = false)
    (hoffered : ∀ q, d ≠ .offered q) (hlawful : Lawful log d)
    (hretires : ∀ q (line : Line), lines[q]? = some line → d.retires q = true → line.Settled) :
    Recorded lines (log ++ [d]) := by
  constructor
  · intro p
    rw [← h.offered p, List.mem_append, List.mem_singleton, or_iff_left (Ne.symm (hoffered p))]
  · intro p e he hp
    rcases List.mem_append.1 he with hbefore | hnow
    · exact h.known p e hbefore hp
    · cases List.mem_singleton.1 hnow
      exact absurd ((hon p).symm.trans hp) Bool.false_ne_true
  · exact fun p l hl => (h.fits p l hl).note (hon p)
  · intro p l hl hretired
    rw [retired_concat] at hretired
    exact hretired.elim (h.retired p l hl) fun hnow => hretires p l hl hnow.2
  · exact h.lawful.concat hlawful

/-- A thread that runs reads a queue that has not been retired. -/
theorem Recorded.not_retired (h : Recorded lines log) (hline : lines[q]? = some line)
    (hrunning : line.stage.isRunning = true) : ¬ Retired q log := fun hretired =>
  absurd ((h.retired q line hline hretired).2.symm.trans hrunning) Bool.false_ne_true

/-- A queue that is open has not been retired. -/
theorem Recorded.not_retired_of_open (h : Recorded lines log) (hline : lines[q]? = some line)
    (hopen : line.queue.closed = false) : ¬ Retired q log := fun hretired =>
  absurd (hopen.symm.trans (h.retired q line hline hretired).1) Bool.false_ne_true

/-- There is one more queue. -/
theorem Recorded.pushed (h : Recorded lines log) (capacity : Nat) :
    Recorded (lines.push (.opened capacity)) (log ++ [.offered lines.size]) := by
  have hnew : .offered lines.size ∉ log := fun hin =>
    absurd ((h.offered _).1 hin) (Nat.lt_irrefl _)
  constructor
  · intro p
    rw [List.mem_append, List.mem_singleton, Deed.offered.injEq, h.offered, Array.size_push]
    omega
  · intro p e he hon
    rw [Array.size_push]
    rcases List.mem_append.1 he with hbefore | hnow
    · exact Nat.lt_succ_of_lt (h.known p e hbefore hon)
    · cases List.mem_singleton.1 hnow
      exact absurd hon Bool.false_ne_true
  · intro p l hl
    rcases line_push hl with ⟨rfl, rfl⟩ | ⟨-, hl⟩
    -- the new queue has no history
    · obtain ⟨haccepted, hdispatched, hrested⟩ := unknown_facts fun e he =>
        Bool.eq_false_iff.2 fun hon => absurd (h.known _ e he hon) (Nat.lt_irrefl _)
      refine Line.Fits.note ⟨hrested, fun _ => ?_⟩ rfl
      rw [haccepted, hdispatched]
      rfl
    · exact (h.fits p l hl).note rfl
  · intro p l hl hretired
    rw [retired_concat] at hretired
    have hbefore := hretired.resolve_right nofun
    rcases line_push hl with ⟨rfl, -⟩ | ⟨-, hl⟩
    · exact absurd hbefore.offered hnew
    · exact h.retired p l hl hbefore
  · exact h.lawful.concat hnew

end Changes

/-! ## What a session has -/

section Books

variable {n : Nat} {s : Traffic} {session next : Session} {collectors : Array Collector}
  {log : List Deed} {d : Deed}

/-- A session changes as the log says, and nothing is dispatched. -/
theorem Booked.change (h : Booked n session collectors log) (hbatch : d.batch? = none)
    (htally : d.tally? = none) (hsent : ∀ k, d.sentTo? k = none)
    (hsink : next.sink = d.registers session.sink)
    (hcollection : next.collection.map Array.toList =
      d.collects (session.collection.map Array.toList))
    (hcounts : next.batches = session.batches ∧ next.events = session.events) :
    Booked n next collectors (log ++ [d]) where
  sink := by rw [registeredIn_concat, hsink, h.sink]
  collection := by rw [collectionIn_concat, hcollection, h.collection]
  batches := by rw [allDispatchedIn_note hbatch, hcounts.1, h.batches]
  events := by rw [allTalliedIn_note htally, hcounts.2, h.events]
  collectors := by
    refine ⟨h.collectors.1, fun k hk => ?_⟩
    rw [sentIn_note (hsent k)]
    exact h.collectors.2 k hk

theorem Booked.note (h : Booked n session collectors log) (hd : d.isQuiet = true) :
    Booked n session collectors (log ++ [d]) := by
  obtain ⟨hbatch, htally, hsent, hregisters, hcollects⟩ := d.isQuiet_facts hd
  exact h.change hbatch htally hsent (hregisters _).symm (hcollects _).symm ⟨rfl, rfl⟩

/-- Which queue a session reads is not in the books. -/
theorem Booked.reread (h : Booked n session collectors log) (reader : Option Nat) :
    Booked n { session with reader } collectors log :=
  ⟨h.sink, h.collection, h.batches, h.events, h.collectors⟩

theorem Booked.count (h : Booked n s.session s.collectors s.log) (q : Nat) (batch : List Event) :
    Booked n s.count.session s.count.collectors (s.log ++ [.counted q batch]) where
  sink := by
    rw [registeredIn_note fun _ => rfl]
    exact h.sink
  collection := by
    rw [collectionIn_note fun _ => rfl]
    exact h.collection
  batches := by
    rw [allDispatchedIn_concat, List.length_append, ← h.batches]
    rfl
  events := by
    rw [allTalliedIn_note rfl]
    exact h.events
  collectors := by
    refine ⟨h.collectors.1, fun k hk => ?_⟩
    rw [sentIn_note rfl]
    exact h.collectors.2 k hk

theorem Booked.tally (h : Booked n s.session s.collectors s.log) (q : Nat) (batch : List Event) :
    Booked n (s.tally batch).session (s.tally batch).collectors
      (s.log ++ [.tallied q batch]) where
  sink := by
    rw [registeredIn_note fun _ => rfl]
    exact h.sink
  collection := by
    rw [collectionIn_note fun _ => rfl]
    exact h.collection
  batches := by
    rw [allDispatchedIn_note rfl]
    exact h.batches
  events := by
    rw [allTalliedIn_concat, List.flatten_append, List.length_append, ← h.events]
    exact congrArg (s.session.events + ·) (by simp [Deed.tally?])
  collectors := by
    refine ⟨h.collectors.1, fun k hk => ?_⟩
    rw [sentIn_note rfl]
    exact h.collectors.2 k hk

theorem Booked.deliver (h : Booked n s.session s.collectors s.log) (q : Nat) (batch : List Event)
    (sink : Option Nat) :
    Booked n (s.deliver sink batch).session (s.deliver sink batch).collectors
      (s.log ++ [.delivered q batch sink]) where
  sink := by
    rw [registeredIn_note fun _ => rfl]
    exact h.sink
  collection := by
    rw [collectionIn_note fun _ => rfl]
    exact h.collection
  batches := by
    rw [allDispatchedIn_note rfl]
    exact h.batches
  events := by
    rw [allTalliedIn_note rfl]
    exact h.events
  collectors := by
    obtain ⟨hsize, hcollectors⟩ := h.collectors
    cases sink with
    | none =>
      refine ⟨hsize, fun k hk => ?_⟩
      rw [sentIn_note (by simp [Deed.sentTo?])]
      exact hcollectors k hk
    | some j =>
      refine ⟨Array.size_modify.trans hsize, fun k hk => ?_⟩
      show (s.collectors.modify j _)[k]? = _
      rw [sentIn_concat, List.foldl_append, Array.getElem?_modify, hcollectors k hk, Deed.sentTo?]
      by_cases hj : j = k
      · rw [if_pos hj, if_pos (congrArg some hj)]
        rfl
      · rw [if_neg hj, if_neg fun h => hj (Option.some.inj h)]
        rfl

theorem Booked.gather (h : Booked n s.session s.collectors s.log) (q : Nat) (batch : List Event)
    (armed : Bool) :
    Booked n (s.gather batch).session (s.gather batch).collectors
      (s.log ++ [.gathered q batch armed]) := by
  refine h.change rfl rfl (fun _ => rfl) rfl ?_ ⟨rfl, rfl⟩
  show (s.session.collection.map _).map _ = (s.session.collection.map _).map _
  cases s.session.collection with
  | none => rfl
  | some events => exact congrArg some Array.toList_appendList

end Books

end Traffic

end SensorBench
