import SensorBench.Proofs.Delivery.Standing

/-!
# What a session delivers

What a session does under any schedule of its threads, its writers and its control calls
(`Traffic.run_lawful`). The batches of a queue are dispatched whole, in the order in which they
were stored, and each at most once. A dispatch goes to the collector that was registered when it
was looked up, and to a collection if one was armed; the events of a collection are those of the
batches that came while it was armed. The counters are those of the batches dispatched and of their
events, where the events of a batch are counted some time after the batch is. Once a session has
been moved to another queue or torn down, no write to an earlier queue is taken, and nothing of it
is dispatched any more; a queue that the HAL does not accept changes nothing for the one before.
-/

set_option autoImplicit false

namespace SensorBench.Traffic

/-- The threads are arranged, and the log says what was done; a collection is armed while events
are collected; and unless a thread is being stopped, the session reads the queue to which it was
moved last. -/
structure Sound (n : Nat) (s : Traffic) : Prop where
  arranged : Arranged s.session.reader s.control s.lines
  booked : Booked n s.session s.collectors s.log
  recorded : Recorded s.lines s.log
  armed : s.control = .collecting → s.session.collection.isSome = true
  connected : s.control.stopping? = none → s.session.reader = connectedIn s.log

section Moves

variable {n q : Nat} {s : Traffic} {line line' : Line} {d : Deed}

/-- A write is answered. -/
theorem Sound.write (h : s.Sound n) (q : Nat) (batch : List Event) : (s.write q batch).Sound n := by
  rw [Traffic.write]
  cases hline : s.lines[q]? with
  | none => exact h
  | some line =>
    dsimp only
    cases hwrite : line.queue.write? batch with
    | none => exact h
    | some answer =>
      obtain ⟨taken, queue⟩ := answer
      obtain ⟨hclosed, hrefused, hwaiting⟩ := Queue.write?_facts hwrite
      have hgoes : line.Goes { line with queue } := .of_same hclosed rfl rfl
      have hfits := h.recorded.fits q line hline
      have hstored : ((Deed.wrote q batch taken).accepted? q).toList =
          if taken = true ∧ batch.isEmpty = false then [batch] else [] := by
        rw [Deed.accepted?]
        split <;> simp_all
      refine ⟨h.arranged.moved hline hgoes, h.booked.note rfl,
        h.recorded.acted hline (beq_self_eq_true q) ?_ hgoes.settled ⟨?_, fun hgoing => ?_⟩,
        h.armed, fun hnone => ?_⟩
      · refine ⟨(h.recorded.offered q).2 (Array.getElem?_eq_some_iff.1 hline).1, fun hretired => ?_⟩
        exact hrefused (h.recorded.retired q line hline hretired).1
      · have hstands := hfits.last
        simp only [Rested, lastSection_concat]
        exact hstands
      · rw [acceptedIn_concat, dispatchedIn_concat, hfits.whole hgoing, hstored]
        show _ = _ ++ [] ++ _ ++ queue.waiting
        rw [hwaiting, List.append_nil, List.append_assoc _ line.queue.waiting]
        rfl
      · show s.session.reader = connectedIn (s.log ++ [.wrote q batch taken])
        rw [connectedIn_concat]
        exact h.connected hnone

/-- A thread takes a batch from its queue, or comes to its end. -/
theorem Sound.moved (h : s.Sound n) (hline : s.lines[q]? = some line) (hgoes : line.Goes line')
    (hfits : line'.Fits q s.log) : (s.setLine q line').Sound n :=
  ⟨h.arranged.moved hline hgoes, h.booked, h.recorded.moved hline hgoes.settled hfits, h.armed,
    h.connected⟩

/-- A section of a dispatch. -/
theorem Sound.acted {queue : Queue} {stage after : ReaderStage} {active : Bool} {session : Session}
    {collectors : Array Collector} (h : s.Sound n)
    (hline : s.lines[q]? = some ⟨queue, stage, active⟩) (hbefore : stage.isRunning = true)
    (hafter : after.isRunning = true)
    (hbooked : Booked n session collectors (s.log ++ [d]))
    (hreader : session.reader = s.session.reader)
    (harmed : session.collection.isSome = s.session.collection.isSome) (hd : d.isOn q = true)
    (hlawful : ¬ Retired q s.log → Lawful s.log d)
    (hfits : Line.Fits q (s.log ++ [d]) ⟨queue, after, active⟩) :
    Sound n ⟨session, collectors, s.lines.setIfInBounds q ⟨queue, after, active⟩, s.control,
      s.log ++ [d]⟩ := by
  have hgoes : Line.Goes ⟨queue, stage, active⟩ ⟨queue, after, active⟩ :=
    .of_running rfl rfl hbefore hafter
  refine ⟨?_, hbooked, h.recorded.acted hline hd
    (hlawful (h.recorded.not_retired hline hbefore)) hgoes.settled hfits, ?_, ?_⟩
  · rw [hreader]
    exact h.arranged.moved hline hgoes
  · rw [harmed]
    exact h.armed
  · rw [hreader, connectedIn_concat, (d.isOn_facts hd).2.2.2]
    exact h.connected

theorem fits_finished {log : List Deed} (h : Rested q log) (queue : Queue) (active : Bool) :
    Line.Fits q log ⟨queue, .finished, active⟩ :=
  ⟨h, fun hgoing => absurd rfl hgoing⟩

/-- The thread of a queue goes on. -/
theorem Sound.read (h : s.Sound n) (q : Nat) : (s.read q).Sound n := by
  cases hline : s.lines[q]? with
  | none =>
    rw [Traffic.read, hline]
    exact h
  | some line =>
    obtain ⟨queue, stage, active⟩ := line
    have hfits := h.recorded.fits q _ hline
    have hself := beq_self_eq_true q
    cases stage with
    | absent | finished =>
      rw [Traffic.read, hline]
      exact h
    | waiting =>
      rw [Traffic.read, hline]
      dsimp only
      split
      · exact h
      · next rest hread =>
        have hclosed := Queue.closed_of_read? hread
        exact h.moved hline (.of_ending rfl rfl rfl (.inl hclosed)) (fits_finished hfits.last _ _)
      · next batch rest hread =>
        obtain ⟨hclosed, hwaiting⟩ := Queue.read?_facts hread
        refine h.moved hline (.of_running hclosed rfl rfl rfl) ⟨hfits.last, fun _ => ?_⟩
        rw [hfits.whole ReaderStage.noConfusion]
        show _ ++ [] ++ queue.waiting = _ ++ [batch] ++ rest.waiting
        rw [hwaiting, List.append_nil, List.append_assoc]
        rfl
    | received batch =>
      cases active with
      | false =>
        rw [Traffic.read, hline]
        exact h.moved hline (.of_ending rfl rfl rfl (.inr rfl)) (fits_finished hfits.last _ _)
      | true =>
        -- the batch in hand is the next one of those stored, so it may be dispatched
        rw [read_received hline]
        have hwhole := hfits.whole ReaderStage.noConfusion
        refine h.acted hline rfl rfl (h.booked.count q batch) rfl rfl hself
          (fun hthere => ⟨hthere, hfits.last, queue.waiting, hwhole.symm⟩)
          ⟨lastSection_self hself, fun _ => ?_⟩
        rw [acceptedIn_note rfl, dispatchedIn_concat, hwhole, Deed.dispatched?, if_pos rfl]
        show _ ++ [batch] ++ queue.waiting = _ ++ [batch] ++ [] ++ queue.waiting
        rw [List.append_nil]
    | counted batch =>
      rw [read_counted hline]
      refine h.acted hline rfl rfl (h.booked.tally q batch) rfl rfl hself
        (fun hthere => ⟨hthere, hfits.last⟩) ⟨lastSection_self hself, fun _ => ?_⟩
      rw [acceptedIn_note rfl, dispatchedIn_note rfl]
      exact hfits.whole ReaderStage.noConfusion
    | tallied batch =>
      rw [read_tallied hline]
      refine h.acted hline rfl rfl (h.booked.note rfl) rfl rfl hself
        (fun hthere => ⟨hthere, hfits.last, h.booked.sink⟩) ⟨lastSection_self hself, fun _ => ?_⟩
      rw [acceptedIn_note rfl, dispatchedIn_note rfl]
      exact hfits.whole ReaderStage.noConfusion
    | addressed batch sink =>
      rw [read_addressed hline]
      refine h.acted hline rfl rfl (h.booked.deliver q batch sink) rfl rfl hself
        (fun hthere => ⟨hthere, hfits.last⟩) ⟨lastSection_self hself, fun _ => ?_⟩
      rw [acceptedIn_note rfl, dispatchedIn_note rfl]
      exact hfits.whole ReaderStage.noConfusion
    | delivered batch sink =>
      -- the dispatch ends, and the thread waits again
      rw [read_delivered hline]
      have harmed : s.session.collection.isSome = (collectionIn s.log).isSome := by
        rw [← h.booked.collection, Option.isSome_map]
      refine h.acted hline rfl rfl (h.booked.gather q batch _) rfl Option.isSome_map hself
        (fun hthere => ⟨hthere, ⟨sink, hfits.last⟩, harmed⟩)
        ⟨rested_gathered q _ _ _, fun _ => ?_⟩
      rw [acceptedIn_note rfl, dispatchedIn_note rfl]
      exact hfits.whole ReaderStage.noConfusion

/-! ## Steps of control calls -/

theorem log_note (s : Traffic) (d : Deed) : (s.note d).log = s.log ++ [d] := rfl

/-- A control call that connects the session or tears it down is over. -/
theorem Sound.finish (harranged : Arranged s.session.reader .idle s.lines)
    (hbooked : Booked n s.session s.collectors s.log) (hrecorded : Recorded s.lines s.log) :
    s.finish.Sound n := by
  rw [Traffic.finish]
  -- the end of the call retires every queue but the one that is read, and all those are settled
  split
  · next q hreader =>
    have hsize := harranged.inRange q hreader
    have hlive := harranged.read q _ (Array.getElem?_eq_getElem hsize) hreader
    have hthere := hrecorded.not_retired_of_open (Array.getElem?_eq_getElem hsize) hlive.1
    refine ⟨harranged, hbooked.note rfl, hrecorded.noted (fun _ => rfl) (fun _ => Deed.noConfusion)
      ⟨(hrecorded.offered q).2 hsize, hthere⟩ fun p line hline hretires => ?_, nofun, fun _ => ?_⟩
    · refine harranged.left p line hline fun hp => ?_
      rw [hreader] at hp
      cases hp
      exact absurd hretires (by simp [Deed.retires])
    · rw [log_note, connectedIn_concat]
      exact hreader
  · next hreader =>
    refine ⟨harranged, hbooked.note rfl, hrecorded.noted (fun _ => rfl) (fun _ => Deed.noConfusion)
      trivial fun p line hline _ => ?_, nofun, fun _ => ?_⟩
    · exact harranged.left p line hline (by rw [hreader]; exact nofun)
    · rw [log_note, connectedIn_concat]
      exact hreader

/-- The thread that was replaced, if any, is stopped next; all others have their ends. -/
theorem Sound.stop (old : Option Nat)
    (hold : ∀ q ∈ old, q < s.lines.size ∧ s.session.reader ≠ some q)
    (hreader : ∀ q ∈ s.session.reader, q < s.lines.size)
    (hread : ∀ q (line : Line), s.lines[q]? = some line → s.session.reader = some q → line.Live)
    (hleft : ∀ q (line : Line), s.lines[q]? = some line → s.session.reader ≠ some q →
      old ≠ some q → line.Settled)
    (hbooked : Booked n s.session s.collectors s.log) (hrecorded : Recorded s.lines s.log) :
    (s.stop old).Sound n := by
  cases old with
  | none =>
    refine Sound.finish ⟨hreader, fun _ => nofun, hread, fun q line hline hq => ?_⟩ hbooked
      hrecorded
    exact hleft q line hline hq nofun
  | some old =>
    refine ⟨⟨hreader, hold, hread, fun q line hline hq => ?_⟩, hbooked, hrecorded, nofun, nofun⟩
    exact fun hne => hleft q line hline hq fun h => hne (Option.some.inj h)

theorem Sound.tearDown (h : s.Sound n) (hidle : s.control = .idle) :
    ({ s with session := { s.session with reader := none } }.stop s.session.reader).Sound n := by
  have harranged := h.arranged
  rw [hidle] at harranged
  refine Sound.stop _ (fun q hq => ⟨harranged.inRange q hq, nofun⟩) (fun _ => nofun)
    (fun _ _ _ => nofun) (fun q line hline _ hq => ?_) (h.booked.reread none) h.recorded
  exact harranged.left q line hline hq

/-- A thread is started for the queue that the HAL has accepted. -/
theorem Sound.swap (h : s.Sound n) (hnow : s.control = .swapping q)
    (hline : s.lines[q]? = some line) :
    ((s.swap q line).stop s.session.reader).Sound n := by
  have harranged := h.arranged
  have hfresh := harranged.fresh hline (.inr hnow)
  rw [hnow] at harranged
  obtain ⟨hsize, hother⟩ := harranged.apart q rfl
  have hset : (s.swap q line).lines.size = s.lines.size := Array.size_setIfInBounds
  refine Sound.stop _ (fun p hp => ⟨hset ▸ harranged.inRange p hp, fun hsame => hother ?_⟩)
    (fun p hp => ?_) (fun p l hl hp => ?_) (fun p l hl hp hold => ?_) (h.booked.reread (some q))
    (h.recorded.moved hline (fun hsettled => ?_) ?_)
  · rw [Option.some.inj hsame]
    exact hp
  · rw [← Option.some.inj hp]
    exact hset ▸ hsize
  -- the line that is read now is the one whose thread has just been started
  · rcases line_set hl with ⟨-, rfl⟩ | ⟨hne, -⟩
    · exact ⟨hfresh.1, rfl, rfl⟩
    · exact absurd (Option.some.inj hp).symm hne
  · rcases line_set hl with ⟨rfl, -⟩ | ⟨hne, hl⟩
    · exact absurd rfl hp
    · have hthere := harranged.left p l hl hold
      rwa [Control.Leaves, if_neg fun hq => hne hq.symm] at hthere
  · exact absurd (hfresh.1.symm.trans hsettled.1) Bool.false_ne_true
  -- a thread that has not been started stands as one that waits
  · obtain ⟨hlast, hwhole⟩ := h.recorded.fits q line hline
    rw [hfresh.2] at hlast
    have hhand : line.inHand = [] := by rw [Line.inHand, hfresh.2]
    refine ⟨hlast, fun _ => ?_⟩
    rw [hwhole (by rw [hfresh.2]; exact ReaderStage.noConfusion), hhand]
    rfl

/-- A thread is told to stop. -/
theorem Sound.deactivate (h : s.Sound n) (hnow : s.control = .deactivating q)
    (hline : s.lines[q]? = some line) :
    { s.setLine q { line with active := false } with control := .closing q }.Sound n := by
  have harranged := h.arranged
  obtain ⟨hlast, hwhole⟩ := h.recorded.fits q line hline
  rw [hnow] at harranged
  exact ⟨harranged.turned rfl (fun _ => id) (fun hne => absurd rfl hne) (fun _ _ _ => id), h.booked,
    h.recorded.moved hline id ⟨hlast, hwhole⟩, nofun, nofun⟩

/-- The queue of a thread that was told to stop is closed. -/
theorem Sound.close (h : s.Sound n) (hnow : s.control = .closing q)
    (hline : s.lines[q]? = some line) :
    { s.setLine q { line with queue := line.queue.close } with control := .joining q }.Sound n := by
  have harranged := h.arranged
  obtain ⟨hlast, hwhole⟩ := h.recorded.fits q line hline
  rw [hnow] at harranged
  refine ⟨harranged.turned rfl (fun _ => id) ?_ fun p l hne hleft => ?_, h.booked,
    h.recorded.moved hline (fun hsettled => ⟨rfl, hsettled.2⟩) ⟨hlast, hwhole⟩, nofun, nofun⟩
  · rw [Control.Leaves, if_pos rfl]
    rfl
  · rw [Control.Leaves, if_neg hne.symm]
    exact hleft hne.symm

/-- The end of a thread ends the control call. -/
theorem Sound.join (h : s.Sound n) (hnow : s.control = .joining q)
    (hline : s.lines[q]? = some line) (hended : line.stage = .finished) : s.finish.Sound n := by
  have harranged := h.arranged
  rw [hnow] at harranged
  refine Sound.finish ⟨harranged.inRange, fun _ => nofun, harranged.read, fun p l hl hp => ?_⟩
    h.booked h.recorded
  have hthere := harranged.left p l hl hp
  rw [Control.Leaves] at hthere
  by_cases hp : q = p
  · rw [if_pos hp] at hthere
    cases hp
    cases hline.symm.trans hl
    exact ⟨hthere, by rw [hended]; rfl⟩
  · rw [if_neg hp] at hthere
    exact hthere

/-- The control call goes on. -/
theorem Sound.proceed (h : s.Sound n) : s.proceed.Sound n := by
  rw [Traffic.proceed]
  cases hnow : s.control with
  | idle | offering | collecting => exact h
  | swapping q =>
    dsimp only
    split
    · exact h
    · next line hline => exact h.swap hnow hline
  | deactivating old =>
    dsimp only
    split
    · exact h
    · next line hline => exact h.deactivate hnow hline
  | closing old =>
    dsimp only
    split
    · exact h
    · next line hline => exact h.close hnow hline
  | joining old =>
    dsimp only
    split
    · next hline => exact h.join hnow hline rfl
    · exact h

/-- A sink is registered or taken away. -/
theorem Sound.register (h : s.Sound n) (sink : Option Nat) :
    ({ s with session := { s.session with sink } }.note (.registered sink)).Sound n := by
  refine ⟨h.arranged, h.booked.change rfl rfl (fun _ => rfl) rfl rfl ⟨rfl, rfl⟩,
    h.recorded.noted (fun _ => rfl) (fun _ => Deed.noConfusion) trivial (fun _ _ _ => nofun),
    h.armed, fun hnone => ?_⟩
  rw [log_note, connectedIn_concat]
  exact h.connected hnone

/-- A collection is armed. -/
theorem Sound.arm (h : s.Sound n) (hidle : s.control = .idle) :
    ({ s with
      session := { s.session with collection := some #[] }
      control := .collecting }.note .armed).Sound n := by
  have harranged := h.arranged
  rw [hidle] at harranged
  refine ⟨⟨harranged.inRange, fun _ => nofun, harranged.read, harranged.left⟩,
    h.booked.change rfl rfl (fun _ => rfl) rfl rfl ⟨rfl, rfl⟩,
    h.recorded.noted (fun _ => rfl) (fun _ => Deed.noConfusion) trivial (fun _ _ _ => nofun),
    fun _ => rfl, fun _ => ?_⟩
  rw [log_note, connectedIn_concat]
  exact h.connected (by rw [hidle]; rfl)

/-- A collection is taken away. -/
theorem Sound.disarm (h : s.Sound n) (hnow : s.control = .collecting) :
    ({ s with session := { s.session with collection := none }, control := .idle }.note
      (.collected ((s.session.collection.map Array.toList).getD []))).Sound n := by
  obtain ⟨events, hevents⟩ := Option.isSome_iff_exists.1 (h.armed hnow)
  have harranged := h.arranged
  rw [hnow] at harranged
  have hlawful : collectionIn s.log = some ((s.session.collection.map Array.toList).getD []) := by
    rw [← h.booked.collection, hevents]
    rfl
  refine ⟨⟨harranged.inRange, fun _ => nofun, harranged.read, harranged.left⟩,
    h.booked.change rfl rfl (fun _ => rfl) rfl rfl ⟨rfl, rfl⟩,
    h.recorded.noted (fun _ => rfl) (fun _ => Deed.noConfusion) hlawful (fun _ _ _ => nofun),
    nofun, fun _ => ?_⟩
  rw [log_note, connectedIn_concat]
  exact h.connected (by rw [hnow]; rfl)

theorem Sound.events_eq (h : s.Sound n) (hbalanced : Balanced s.log) :
    s.session.events = (allDispatchedIn s.log).flatten.length :=
  h.booked.events.trans (h.recorded.lawful.tallied_perm hbalanced).flatten.length_eq

/-- A session is looked at, which leaves it as it is. -/
theorem Sound.noted (h : s.Sound n) (hquiet : d.isQuiet = true)
    (hconnects : d.connects (connectedIn s.log) = connectedIn s.log)
    (hrecorded : Recorded s.lines (s.log ++ [d])) : (s.note d).Sound n := by
  refine ⟨h.arranged, h.booked.note hquiet, hrecorded, h.armed, fun hnone => ?_⟩
  rw [log_note, connectedIn_concat, hconnects]
  exact h.connected hnone

/-- The counter of batches is read. -/
theorem Sound.readBatches (h : s.Sound n) : (s.note (.sawBatches s.session.batches)).Sound n :=
  h.noted rfl rfl (h.recorded.noted (fun _ => rfl) (fun _ => Deed.noConfusion) h.booked.batches
    fun _ _ _ => nofun)

/-- The counter of events is read. -/
theorem Sound.readEvents (h : s.Sound n) : (s.note (.sawEvents s.session.events)).Sound n :=
  h.noted rfl rfl (h.recorded.noted (fun _ => rfl) (fun _ => Deed.noConfusion)
    ⟨h.booked.events, h.events_eq⟩ fun _ _ _ => nofun)

/-- The HAL is handed the writer of a new queue. -/
theorem Sound.offer (h : s.Sound n) (hidle : s.control = .idle) (capacity : Nat) :
    ({ s with
      lines := s.lines.push (.opened capacity)
      control := .offering s.lines.size }.note (.offered s.lines.size)).Sound n := by
  have harranged := h.arranged
  rw [hidle] at harranged
  have hsize : (s.lines.push (.opened capacity)).size = s.lines.size + 1 := Array.size_push _
  have hunread : s.session.reader ≠ some s.lines.size := fun hin =>
    absurd (harranged.inRange _ hin) (Nat.lt_irrefl _)
  refine ⟨⟨fun p hp => ?_, fun p hp => ?_, fun p l hl hp => ?_, fun p l hl hp => ?_⟩,
    h.booked.note rfl, h.recorded.pushed capacity, nofun, fun _ => ?_⟩
  · exact hsize ▸ Nat.lt_succ_of_lt (harranged.inRange p hp)
  · cases hp
    exact ⟨hsize ▸ Nat.lt_succ_self _, hunread⟩
  · rcases line_push hl with ⟨rfl, -⟩ | ⟨-, hl⟩
    · exact absurd hp hunread
    · exact harranged.read p l hl hp
  · show (Control.offering s.lines.size).Leaves p l
    rw [Control.Leaves]
    rcases line_push hl with ⟨rfl, rfl⟩ | ⟨hlt, hl⟩
    · rw [if_pos rfl]
      exact ⟨rfl, rfl⟩
    · rw [if_neg (Nat.ne_of_gt hlt)]
      exact harranged.left p l hl hp
  · rw [log_note, connectedIn_concat]
    exact h.connected (by rw [hidle]; rfl)

/-- The HAL accepts the writer. -/
theorem Sound.accept (h : s.Sound n) (hnow : s.control = .offering q) :
    { s with control := .swapping q }.Sound n := by
  have harranged := h.arranged
  rw [hnow] at harranged
  exact ⟨⟨harranged.inRange, harranged.apart, harranged.read, harranged.left⟩, h.booked,
    h.recorded, nofun, fun _ => h.connected (by rw [hnow]; rfl)⟩

/-- The HAL does not accept the writer, and its queue is closed. -/
theorem Sound.refuse (h : s.Sound n) (hnow : s.control = .offering q)
    (hline : s.lines[q]? = some line) :
    ({ s.setLine q { line with queue := line.queue.close } with control := .idle }.note
      (.refused q)).Sound n := by
  have harranged := h.arranged
  obtain ⟨hlast, hwhole⟩ := h.recorded.fits q line hline
  have hfresh := harranged.fresh hline (.inl hnow)
  rw [hnow] at harranged
  have hended : ({ line with queue := line.queue.close } : Line).Settled :=
    ⟨rfl, by rw [hfresh.2]; rfl⟩
  have hlawful : Lawful s.log (.refused q) := ⟨(h.recorded.offered q).2 (harranged.apart q rfl).1,
    h.recorded.not_retired_of_open hline hfresh.1⟩
  refine ⟨harranged.turned rfl (fun _ => nofun) hended fun p l hne hleft => ?_, h.booked.note rfl,
    (h.recorded.moved hline (fun _ => hended) ⟨hlast, hwhole⟩).noted (fun _ => rfl)
      (fun _ => Deed.noConfusion) hlawful fun p l hl hretires => ?_, nofun, fun _ => ?_⟩
  · rwa [Control.Leaves, if_neg hne.symm] at hleft
  · rcases line_set hl with ⟨-, rfl⟩ | ⟨hne, -⟩
    · exact hended
    · exact absurd (beq_iff_eq.1 hretires).symm hne
  · rw [log_note, connectedIn_concat]
    exact h.connected (by rw [hnow]; rfl)

/-- Every move keeps the invariants. -/
theorem Sound.step (h : s.Sound n) (move : Move) : (s.step move).Sound n := by
  rw [Traffic.step.eq_def]
  cases move with
  | write q batch => exact h.write q batch
  | read q => exact h.read q
  | register sink =>
    dsimp only
    split
    · exact h.register sink
    · exact h
  | offer capacity =>
    dsimp only
    split
    · next hidle => exact h.offer hidle capacity
    · exact h
  | accept =>
    dsimp only
    split
    · next q hnow => exact h.accept hnow
    · exact h
  | refuse =>
    dsimp only
    split
    · next q hnow =>
      split
      · exact h
      · next line hline => exact h.refuse hnow hline
    · exact h
  | tearDown =>
    dsimp only
    split
    · next hidle => exact h.tearDown hidle
    · exact h
  | proceed => exact h.proceed
  | arm =>
    dsimp only
    split
    · next hidle => exact h.arm hidle
    · exact h
  | disarm =>
    dsimp only
    split
    · next hnow => exact h.disarm hnow
    · exact h
  | readBatches => exact h.readBatches
  | readEvents => exact h.readEvents

/-- So does every schedule. -/
theorem Sound.run (h : s.Sound n) (moves : List Move) : (s.run moves).Sound n := by
  induction moves generalizing s with
  | nil => exact h
  | cons move rest ih => exact ih (h.step move)

end Moves

/-- A batch that is still in the old queue when the session moves to a new one is dropped, and the
next one comes from the new queue. A look at the counters while that one is between them finds it
counted and its event not. -/
example (e e' : Event) : ((start 1).run [.register (some 0), .offer 4, .accept, .proceed,
      .write 0 [e], .offer 4, .accept, .write 1 [e'], .proceed, .proceed, .read 0, .proceed,
      .read 0, .proceed, .write 0 [e], .read 1, .read 1, .readBatches, .readEvents, .read 1,
      .read 1, .read 1, .read 1, .readEvents]).log =
    [.registered (some 0), .offered 0, .renewed 0, .wrote 0 [e] true, .offered 1,
      .wrote 1 [e'] true, .renewed 1, .wrote 0 [e] false, .counted 1 [e'], .sawBatches 1,
      .sawEvents 0, .tallied 1 [e'], .addressed 1 [e'] (some 0), .delivered 1 [e'] (some 0),
      .gathered 1 [e'] false, .sawEvents 1] := by
  cbv

end SensorBench.Traffic
