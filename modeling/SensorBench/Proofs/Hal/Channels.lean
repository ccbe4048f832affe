import SensorBench.Proofs.Direct.Ring
import SensorBench.Proofs.Hal.Step

/-!
# What one turn does to one channel

A HAL numbers its channels in the order of their registration. `Channel.Change` lists
what a turn can do to a registered channel, and `change_channel` says that there is
nothing else, unless the channel is removed. A region that no other channel writes to is
changed by the records of its own channel alone (`region_step`).
-/

set_option autoImplicit false

namespace SensorBench.Hal

/-- The channels are listed by rising numbers, all of them given out before. -/
structure ChannelsSound (hal : Hal) : Prop where
  numbered : (hal.channels.map (·.1)).Pairwise (· < ·)
  below : ∀ n ∈ hal.channels.map (·.1), n < hal.nextChannel

/-- The signal when the turn of the channel with a number comes. -/
def channelSignalBefore (now : Int) (number : Int) : Signal → List (Int × Channel) → Signal
  | signal, [] => signal
  | signal, (n, c) :: rest =>
    if n = number then signal
    else channelSignalBefore now number (c.advance now signal).2.2 rest

/-- The records that the channel with a number brings up to `now`. -/
def recordsAmong (now : Int) (number : Int) (signal : Signal) (channels : List (Int × Channel)) :
    List Record :=
  match channels.lookup number with
  | some c => (c.advance now (channelSignalBefore now number signal channels)).1
  | none => []

/-- The signal that the sensors leave for the channels. -/
def signalLeft (hal : Hal) (b : Behaviour) (now : Int) : Signal :=
  (advanceSensors b hal.measuring now hal.signal hal.sensors).2.2

/-- The signal from which the channel with a number takes its samples when the HAL is run
up to `now`. -/
def channelSignal (hal : Hal) (b : Behaviour) (now : Int) (number : Int) : Signal :=
  channelSignalBefore now number (hal.signalLeft b now) hal.channels

/-- The records that a channel brings in a turn: only the clock brings any. -/
def Channel.brought (c : Channel) (m : Turn) (signal : Signal) : List Record :=
  match m.input with
  | .advance => (c.advance m.time signal).1
  | _ => []

/-- The records that a turn brings into the channel with a number. -/
def recordsIn (b : Behaviour) (number : Int) (hal : Hal) (m : Turn) : List Record :=
  match hal.channel? number with
  | some c => c.brought m (hal.channelSignal b m.time number)
  | none => []

/-- The reply of a turn that configures a report on the channel with a number. -/
def repliesIn (number : Int) (hal : Hal) (m : Turn) : List Int :=
  match m.input with
  | .call (.report h n rate) =>
    if n = number then
      match hal.configReport m.time h n rate with
      | .ok (token, _) => [token]
      | .error _ => []
    else []
  | _ => []

/-- What a turn can do to a channel that it does not remove, and the replies it gives. -/
inductive Channel.Change (hal : Hal) (m : Turn) (number : Int) (signal : Signal) (c : Channel) :
    Channel → List Int → Prop
  | passed : m.input ≠ .advance → Change hal m number signal c c []
  | stopped (h : Handle) (rate : Rate) : m.input = .call (.report h number rate) →
      rate.period? = none →
      Change hal m number signal c { c with reports := c.reports.filter (·.1 ≠ h) } [0]
  | retuned (h : Handle) (rate : Rate) (period : Int) (r : DirectReport) :
      m.input = .call (.report h number rate) → rate.period? = some period →
      c.report? h = some r →
      Change hal m number signal c
        { c with reports := Channel.setReport h { r with period } c.reports } [r.token]
  | started (h : Handle) (rate : Rate) (period : Int) (s : Sampler) :
      m.input = .call (.report h number rate) → rate.period? = some period →
      hal.sensor? h = some s → c.report? h = none →
      Change hal m number signal c { c with
        reports := Channel.setReport h
          ⟨hal.nextToken, s.descriptor.kind, period, m.time + period, 1⟩ c.reports }
        [hal.nextToken]
  | advanced : m.input = .advance →
      Change hal m number signal c (c.advance m.time signal).2.1 []

/-- Whether a turn writes to a region beside the channel with a number: a client does, the
region is registered once more, or another channel brings records into it. -/
def WritesBeside (b : Behaviour) (number : Int) (memory : Nat) (hal : Hal) (m : Turn) : Prop :=
  match m.input with
  | .write k _ _ => k = memory
  | .call (.register _ size k) =>
    k = memory ∧ ¬(size < Record.width ∨ (hal.region k).size < size)
  | .advance => ∃ n c, n ≠ number ∧ hal.channel? n = some c ∧ c.memory = memory ∧
      hal.recordsIn b n m ≠ []
  | _ => False

/-- Advancing leaves alone what a channel was registered with, and counts its records. -/
theorem Channel.advance_facts (c : Channel) (now : Int) (signal : Signal) :
    (c.advance now signal).2.1.memoryKind = c.memoryKind ∧
      (c.advance now signal).2.1.size = c.size ∧
      (c.advance now signal).2.1.memory = c.memory ∧
      (c.advance now signal).2.1.written = c.written + (c.advance now signal).1.length := by
  rw [Channel.advance]
  split <;> exact ⟨rfl, rfl, rfl, rfl⟩

/-! ## Lists by keys -/

section Lookup

variable {κ α : Type} [BEq κ] [LawfulBEq κ] {n k : κ}

theorem lookup_cons_of_ne (h : n ≠ k) (c : α) (rest : List (κ × α)) :
    ((k, c) :: rest).lookup n = rest.lookup n := by
  rw [List.lookup_cons, beq_false_of_ne h]

theorem lookup_filter_ne [DecidableEq κ] (h : n ≠ k) (entries : List (κ × α)) :
    (entries.filter (·.1 ≠ k)).lookup n = entries.lookup n := by
  induction entries with
  | nil => rfl
  | cons p rest ih =>
    obtain ⟨i, c⟩ := p
    by_cases hi : i = k
    · rw [List.filter_cons_of_neg (by simpa using hi), ih, lookup_cons_of_ne (hi ▸ h)]
    · rw [List.filter_cons_of_pos (by simpa using hi)]
      by_cases hn : n = i
      · subst hn
        rw [List.lookup_cons_self, List.lookup_cons_self]
      · rw [lookup_cons_of_ne hn, lookup_cons_of_ne hn, ih]

theorem lookup_filter_self [DecidableEq κ] (k : κ) (entries : List (κ × α)) :
    (entries.filter (·.1 ≠ k)).lookup k = none := by
  apply List.lookup_eq_none_iff.2
  intro p hp
  have hne : p.1 ≠ k := by simpa using (List.mem_filter.1 hp).2
  exact bne_iff_ne.2 (Ne.symm hne)

theorem mem_of_lookup {c : α} {entries : List (κ × α)} (h : entries.lookup n = some c) :
    (n, c) ∈ entries := by
  obtain ⟨before, after, rfl, -⟩ := List.lookup_eq_some_iff.1 h
  simp

theorem mem_keys_of_lookup {c : α} {entries : List (κ × α)} (h : entries.lookup n = some c) :
    n ∈ entries.map (·.1) :=
  List.mem_map_of_mem (mem_of_lookup h)

theorem lookup_of_mem {entries : List (κ × α)} (hkeys : (entries.map (·.1)).Nodup) {p : κ × α}
    (hp : p ∈ entries) : entries.lookup p.1 = some p.2 := by
  induction entries with
  | nil => exact absurd hp List.not_mem_nil
  | cons q rest ih =>
    rw [List.map_cons, List.nodup_cons] at hkeys
    rcases List.mem_cons.1 hp with rfl | hp
    · exact List.lookup_cons_self
    · have hne : p.1 ≠ q.1 := fun e => hkeys.1 (e ▸ List.mem_map_of_mem hp)
      rw [lookup_cons_of_ne hne]
      exact ih hkeys.2 hp

end Lookup

/-! ## Lists of channels -/

theorem lookup_map_channels (f : Int → Channel → Channel) (n : Int)
    (channels : List (Int × Channel)) :
    (channels.map fun p => (p.1, f p.1 p.2)).lookup n = (channels.lookup n).map (f n) := by
  induction channels with
  | nil => rfl
  | cons p rest ih =>
    obtain ⟨k, c⟩ := p
    rw [List.map_cons]
    by_cases h : n = k
    · subst h
      rw [List.lookup_cons_self, List.lookup_cons_self, Option.map_some]
    · rw [lookup_cons_of_ne h, lookup_cons_of_ne h, ih]

theorem channel?_setChannel (hal : Hal) (k n : Int) (c : Channel) :
    (hal.setChannel k c).channel? n =
      (hal.channel? n).map fun d => if n = k then c else d := by
  have hmap : (hal.setChannel k c).channels =
      hal.channels.map fun p => (p.1, if p.1 = k then c else p.2) := by
    apply List.map_congr_left
    intro p _
    show (if p.1 = k then (p.1, c) else (p.1, p.2)) = _
    split <;> rfl
  rw [channel?, hmap]
  exact lookup_map_channels (fun i d => if i = k then c else d) n hal.channels

theorem keys_setChannel (hal : Hal) (k : Int) (c : Channel) :
    (hal.setChannel k c).channels.map (·.1) = hal.channels.map (·.1) := by
  show (hal.channels.map _).map _ = _
  rw [List.map_map]
  apply List.map_congr_left
  intro p _
  show (if p.1 = k then (p.1, c) else (p.1, p.2)).1 = p.1
  split <;> rfl

section AdvanceChannels

variable (now : Int) (signal : Signal) (memory : Array Region) (channels : List (Int × Channel))

theorem keys_advanceChannels :
    (advanceChannels now signal memory channels).1.map (·.1) = channels.map (·.1) := by
  induction channels generalizing signal memory with
  | nil => rfl
  | cons p rest ih => simp only [advanceChannels, List.map_cons, ih]

theorem size_advanceChannels :
    (advanceChannels now signal memory channels).2.1.size = memory.size := by
  induction channels generalizing signal memory with
  | nil => rfl
  | cons p rest ih => simp only [advanceChannels, ih, Array.size_modify]

theorem lookup_advanceChannels (n : Int) :
    (advanceChannels now signal memory channels).1.lookup n =
      (channels.lookup n).map fun c =>
        (c.advance now (channelSignalBefore now n signal channels)).2.1 := by
  induction channels generalizing signal memory with
  | nil => rfl
  | cons p rest ih =>
    obtain ⟨k, c⟩ := p
    simp only [advanceChannels, channelSignalBefore]
    by_cases h : n = k
    · subst h
      rw [List.lookup_cons_self, List.lookup_cons_self, if_pos rfl, Option.map_some]
    · rw [lookup_cons_of_ne h, lookup_cons_of_ne h, if_neg (Ne.symm h)]
      exact ih _ _

variable {now signal memory channels}

theorem recordsAmong_cons_self (n : Int) (c : Channel) :
    recordsAmong now n signal ((n, c) :: channels) = (c.advance now signal).1 := by
  rw [recordsAmong, List.lookup_cons_self, channelSignalBefore, if_pos rfl]

theorem recordsAmong_cons_of_ne {n k : Int} (h : n ≠ k) (c : Channel) :
    recordsAmong now n signal ((k, c) :: channels) =
      recordsAmong now n (c.advance now signal).2.2 channels := by
  rw [recordsAmong, lookup_cons_of_ne h, channelSignalBefore, if_neg (Ne.symm h), recordsAmong]

end AdvanceChannels

/-! ## Regions -/

theorem getD_modify (memory : Array Region) (k i : Nat) (f : Region → Region) :
    (memory.modify k f).getD i #[] =
      if k = i ∧ i < memory.size then f (memory.getD i #[]) else memory.getD i #[] := by
  rw [Array.getD_eq_getD_getElem?, Array.getD_eq_getD_getElem?, Array.getElem?_modify]
  by_cases hk : k = i
  · by_cases hi : i < memory.size
    · simp [hk, hi]
    · simp [hk, hi]
  · simp [hk]

section Rings

variable {now : Int} {signal : Signal} {memory : Array Region} {channels : List (Int × Channel)}
  {i : Nat}

/-- A region stays as it is if no channel brings records into it. -/
theorem getD_advanceChannels_of_none (hkeys : (channels.map (·.1)).Pairwise (· < ·))
    (hnone : ∀ n c, channels.lookup n = some c → c.memory = i →
      recordsAmong now n signal channels = []) :
    (advanceChannels now signal memory channels).2.1.getD i #[] = memory.getD i #[] := by
  induction channels generalizing signal memory with
  | nil => rfl
  | cons p rest ih =>
    obtain ⟨k, c⟩ := p
    obtain ⟨hfirst, hrest⟩ := List.pairwise_cons.1 hkeys
    simp only [advanceChannels]
    -- the first channel leaves the region alone, and so do the others
    rw [ih hrest, getD_modify]
    · split
      · next hc =>
        have hmem := (Channel.advance_facts c now signal).2.2.1.symm.trans hc.1
        have hnil := hnone k c List.lookup_cons_self hmem
        rw [recordsAmong_cons_self] at hnil
        rw [hnil]
        rfl
      · rfl
    · intro n d hd hmem
      have hne : n ≠ k := fun e => by
        have hlt := hfirst n (mem_keys_of_lookup hd)
        rw [e] at hlt
        exact absurd hlt (Int.lt_irrefl k)
      have hnil := hnone n d (by rw [lookup_cons_of_ne hne, hd]) hmem
      rwa [recordsAmong_cons_of_ne hne] at hnil

/-- A region into which one channel alone brings records takes these into its ring. -/
theorem getD_advanceChannels (hkeys : (channels.map (·.1)).Pairwise (· < ·)) {number : Int}
    {c : Channel} (hc : channels.lookup number = some c) (hi : i < memory.size)
    (hmem : c.memory = i)
    (hnone : ∀ n d, n ≠ number → channels.lookup n = some d → d.memory = i →
      recordsAmong now n signal channels = []) :
    (advanceChannels now signal memory channels).2.1.getD i #[] =
      Channel.writeRing c.capacity (memory.getD i #[]) c.written
        (recordsAmong now number signal channels) := by
  induction channels generalizing signal memory with
  | nil => cases hc
  | cons p rest ih =>
    obtain ⟨k, d⟩ := p
    obtain ⟨hfirst, hrest⟩ := List.pairwise_cons.1 hkeys
    have hlater : ∀ n e, rest.lookup n = some e → n ≠ k := fun n e he hn => by
      have hlt := hfirst n (mem_keys_of_lookup he)
      rw [hn] at hlt
      exact absurd hlt (Int.lt_irrefl k)
    simp only [advanceChannels]
    by_cases hn : number = k
    · subst hn
      rw [List.lookup_cons_self] at hc
      cases hc
      -- the channels behind write elsewhere
      have hmem' := (Channel.advance_facts c now signal).2.2.1.trans hmem
      rw [getD_advanceChannels_of_none hrest, getD_modify, if_pos ⟨hmem', hi⟩,
        recordsAmong_cons_self]
      intro n e he heq
      have hne := hlater n e he
      have hnil := hnone n e hne (by rw [lookup_cons_of_ne hne, he]) heq
      rwa [recordsAmong_cons_of_ne hne] at hnil
    · rw [lookup_cons_of_ne hn] at hc
      -- a channel before this one writes elsewhere, or nothing
      have hsame : (memory.modify (d.advance now signal).2.1.memory fun r =>
          Channel.writeRing d.capacity r d.written (d.advance now signal).1).getD i #[] =
            memory.getD i #[] := by
        rw [getD_modify]
        split
        · next hd =>
          have hmem' := (Channel.advance_facts d now signal).2.2.1.symm.trans hd.1
          have hnil := hnone k d (Ne.symm hn) List.lookup_cons_self hmem'
          rw [recordsAmong_cons_self] at hnil
          rw [hnil]
          rfl
        · rfl
      rw [ih hrest hc (by rwa [Array.size_modify]), hsame, recordsAmong_cons_of_ne hn]
      intro n e hne he heq
      have hk := hlater n e he
      have hnil := hnone n e hne (by rw [lookup_cons_of_ne hk, he]) heq
      rwa [recordsAmong_cons_of_ne hk] at hnil

end Rings

/-! ## Calls about channels -/

/-- Only stopping has no period. -/
theorem period?_eq_none {rate : Rate} : rate.period? = none ↔ rate = .stop := by
  cases rate with
  | stop => exact iff_of_true rfl rfl
  | _ => exact iff_of_false (Option.some_ne_none _) Rate.noConfusion

/-- What an accepted report call replies and leaves behind. -/
inductive Reported (hal : Hal) (now : Int) (h : Handle) (number : Int) (rate : Rate) :
    Int → Hal → Prop
  | stopped (s : Sampler) (c : Channel) : hal.sensor? h = some s →
      hal.channel? number = some c → rate.period? = none →
      Reported hal now h number rate 0
        (hal.setChannel number { c with reports := c.reports.filter (·.1 ≠ h) })
  | retuned (s : Sampler) (c : Channel) (period : Int) (r : DirectReport) :
      hal.sensor? h = some s → hal.channel? number = some c → rate.period? = some period →
      c.report? h = some r →
      Reported hal now h number rate r.token (hal.setChannel number
        { c with reports := Channel.setReport h { r with period } c.reports })
  | started (s : Sampler) (c : Channel) (period : Int) : hal.sensor? h = some s →
      hal.channel? number = some c → rate.period? = some period → c.report? h = none →
      Reported hal now h number rate hal.nextToken
        { hal.setChannel number { c with
            reports := Channel.setReport h
              ⟨hal.nextToken, s.descriptor.kind, period, now + period, 1⟩ c.reports } with
          nextToken := hal.nextToken + 1 }

theorem reported_of_ok {hal next : Hal} {now number token : Int} {h : Handle} {rate : Rate}
    (hok : hal.configReport now h number rate = .ok (token, next)) :
    Reported hal now h number rate token next := by
  rw [configReport] at hok
  split at hok
  · next s c hs hc =>
    split at hok
    · next hrate =>
      cases hok
      exact .stopped s c hs hc hrate
    · next period hrate =>
      split at hok
      · split at hok
        · next r hr =>
          cases hok
          exact .retuned s c period r hs hc hrate hr
        · next hr =>
          cases hok
          exact .started s c period hs hc hrate hr
      · cases hok
  · cases hok

/-- What a report call leaves of everything but the reports of its channel. -/
theorem Reported.facts {hal next : Hal} {now number token : Int} {h : Handle} {rate : Rate}
    (hr : Reported hal now h number rate token next) :
    next.channels.map (·.1) = hal.channels.map (·.1) ∧ next.nextChannel = hal.nextChannel ∧
      next.memory = hal.memory ∧ ∀ n, n ≠ number → next.channel? n = hal.channel? n := by
  have hother : ∀ c n, n ≠ number → (hal.setChannel number c).channel? n = hal.channel? n := by
    intro c n hn
    rw [channel?_setChannel]
    cases hal.channel? n with
    | none => rfl
    | some d => rw [Option.map_some, if_neg hn]
  cases hr with
  | stopped => exact ⟨keys_setChannel _ _ _, rfl, rfl, hother _⟩
  | retuned => exact ⟨keys_setChannel _ _ _, rfl, rfl, hother _⟩
  | started => exact ⟨keys_setChannel _ _ _, rfl, rfl, hother _⟩

/-- What a turn does to the channels and to shared memory. -/
inductive TableStep (b : Behaviour) (hal : Hal) (m : Turn) (next : Hal) : Prop
  | kept : m.input ≠ .advance → (∀ n, hal.repliesIn n m = []) →
      next.channels = hal.channels → next.nextChannel = hal.nextChannel →
      next.nextToken = hal.nextToken → next.memory = hal.memory → TableStep b hal m next
  | allocated (region : Region) : m.input = .allocate region →
      next = (hal.allocate region).2 → TableStep b hal m next
  | wrote (k offset : Nat) (bytes : List UInt8) : m.input = .write k offset bytes →
      next = { hal with memory := hal.memory.modify k fun r => patched r offset bytes } →
      TableStep b hal m next
  | advanced : m.input = .advance → next = (hal.advance b m.time).2 → TableStep b hal m next
  | registered (kind : MemoryKind) (size k : Nat) : m.input = .call (.register kind size k) →
      ¬(size < Record.width ∨ (hal.region k).size < size) →
      next = { hal with
        memory := hal.memory.modify k fun r => r.fill 0
        channels := hal.channels ++ [(hal.nextChannel, ⟨kind, size, k, 0, []⟩)]
        nextChannel := hal.nextChannel + 1 } → TableStep b hal m next
  | unregistered (n : Int) : m.input = .call (.unregister n) →
      next = { hal with channels := hal.channels.filter (·.1 ≠ n) } → TableStep b hal m next
  | reported (h : Handle) (n : Int) (rate : Rate) (token : Int) :
      m.input = .call (.report h n rate) → hal.configReport m.time h n rate = .ok (token, next) →
      Reported hal m.time h n rate token next → TableStep b hal m next

section Calls

variable (hal : Hal) (b : Behaviour) (now : Int)

/-- The calls about sensors and events touch no channel and no region. -/
theorem step_target_call {c : Call} {h : Handle} (hc : target? c = some h) :
    (hal.step b ⟨now, .call c⟩).channels = hal.channels ∧
      (hal.step b ⟨now, .call c⟩).nextChannel = hal.nextChannel ∧
      (hal.step b ⟨now, .call c⟩).nextToken = hal.nextToken ∧
      (hal.step b ⟨now, .call c⟩).memory = hal.memory := by
  cases c with
  | activate k on =>
    cases hs : hal.sensor? k with
    | none =>
      rw [step_activate_unknown hal b now hs]
      exact ⟨rfl, rfl, rfl, rfl⟩
    | some s =>
      rw [step_activate hal b now hs]
      split <;> exact ⟨rfl, rfl, rfl, rfl⟩
  | batch k period latency =>
    by_cases hr : period < 0 ∨ latency < 0
    · rw [step_batch_rejected hal b now (Or.inr hr)]
      exact ⟨rfl, rfl, rfl, rfl⟩
    · cases hs : hal.sensor? k with
      | none =>
        rw [step_batch_rejected hal b now (Or.inl hs)]
        exact ⟨rfl, rfl, rfl, rfl⟩
      | some s =>
        rw [step_batch hal b now hs (by omega) (by omega)]
        exact ⟨rfl, rfl, rfl, rfl⟩
  | flush k =>
    cases hs : hal.sensor? k with
    | none =>
      rw [step_flush_unknown hal b now hs]
      exact ⟨rfl, rfl, rfl, rfl⟩
    | some s =>
      rw [step_flush hal b now hs]
      split <;> exact ⟨rfl, rfl, rfl, rfl⟩
  | _ => cases hc

theorem step_register_rejected {kind : MemoryKind} {size memory : Nat}
    (h : size < Record.width ∨ (hal.region memory).size < size) :
    hal.step b ⟨now, .call (.register kind size memory)⟩ = hal := by
  rw [step_call, perform, register, if_pos h]
  rfl

theorem step_register {kind : MemoryKind} {size memory : Nat}
    (h : ¬(size < Record.width ∨ (hal.region memory).size < size)) :
    hal.step b ⟨now, .call (.register kind size memory)⟩ =
      { hal with
        memory := hal.memory.modify memory fun r => r.fill 0
        channels := hal.channels ++ [(hal.nextChannel, ⟨kind, size, memory, 0, []⟩)]
        nextChannel := hal.nextChannel + 1 } := by
  rw [step_call, perform, register, if_neg h]
  rfl

/-- A channel that is not there is not removed either. -/
theorem step_unregister (channel : Int) :
    hal.step b ⟨now, .call (.unregister channel)⟩ =
      { hal with channels := hal.channels.filter (·.1 ≠ channel) } := by
  rw [step_call, perform, afterCall_map, unregister]
  cases hc : hal.channel? channel with
  | some c => rfl
  | none =>
    -- no channel has the number, so the filter keeps all
    have hall : hal.channels.filter (·.1 ≠ channel) = hal.channels := by
      apply List.filter_eq_self.2
      intro p hp
      have hne := List.lookup_eq_none_iff.1 hc p hp
      exact decide_eq_true (Ne.symm (bne_iff_ne.1 hne))
    rw [hall]

end Calls

theorem repliesIn_report (hal : Hal) (now : Int) (h : Handle) (n : Int) (rate : Rate)
    (number : Int) :
    hal.repliesIn number ⟨now, .call (.report h n rate)⟩ =
      if n = number then
        match hal.configReport now h n rate with
        | .ok (token, _) => [token]
        | .error _ => []
      else [] := rfl

/-- A turn does to the channels and to shared memory what is listed, and nothing else. -/
theorem table_step (b : Behaviour) (hal : Hal) (m : Turn) :
    TableStep b hal m (hal.step b m) := by
  obtain ⟨now, input⟩ := m
  cases input with
  | connect queue isOpen => exact .kept Input.noConfusion (fun _ => rfl) rfl rfl rfl rfl
  | allocate region => exact .allocated region rfl rfl
  | write k offset bytes => exact .wrote k offset bytes rfl rfl
  | advance => exact .advanced rfl rfl
  | call c =>
    cases c with
    | activate k on =>
      obtain ⟨hc, hn, ht, hm⟩ := step_target_call hal b now (c := .activate k on) rfl
      exact .kept Input.noConfusion (fun _ => rfl) hc hn ht hm
    | batch k period latency =>
      obtain ⟨hc, hn, ht, hm⟩ := step_target_call hal b now (c := .batch k period latency) rfl
      exact .kept Input.noConfusion (fun _ => rfl) hc hn ht hm
    | flush k =>
      obtain ⟨hc, hn, ht, hm⟩ := step_target_call hal b now (c := .flush k) rfl
      exact .kept Input.noConfusion (fun _ => rfl) hc hn ht hm
    | mode mode => exact .kept Input.noConfusion (fun _ => rfl) rfl rfl rfl rfl
    | inject e =>
      rw [step_inject]
      exact .kept Input.noConfusion (fun _ => rfl) rfl rfl rfl rfl
    | register kind size k =>
      by_cases hr : size < Record.width ∨ (hal.region k).size < size
      · rw [step_register_rejected hal b now hr]
        exact .kept Input.noConfusion (fun _ => rfl) rfl rfl rfl rfl
      · exact .registered kind size k rfl hr (step_register hal b now hr)
    | unregister n => exact .unregistered n rfl (step_unregister hal b now n)
    | report h n rate =>
      rw [step_call, perform]
      cases hr : hal.configReport now h n rate with
      | error status =>
        refine .kept Input.noConfusion (fun number => ?_) rfl rfl rfl rfl
        rw [repliesIn_report, hr]
        split <;> rfl
      | ok reply =>
        obtain ⟨token, next⟩ := reply
        exact .reported h n rate token rfl hr (reported_of_ok hr)

/-! ## Turns -/

/-- Every turn keeps the numbers of channels apart. -/
theorem ChannelsSound.step {hal : Hal} (h : hal.ChannelsSound) (b : Behaviour) (m : Turn) :
    (hal.step b m).ChannelsSound := by
  have hstep := table_step b hal m
  generalize hal.step b m = next at hstep
  cases hstep with
  | kept _ _ hchannels hnext => exact ⟨hchannels ▸ h.numbered, hchannels ▸ hnext ▸ h.below⟩
  | allocated region _ heq =>
    subst heq
    exact ⟨h.numbered, h.below⟩
  | wrote k offset bytes _ heq =>
    subst heq
    exact ⟨h.numbered, h.below⟩
  | advanced _ heq =>
    subst heq
    have hkeys : (hal.advance b m.time).2.channels.map (·.1) = hal.channels.map (·.1) :=
      keys_advanceChannels m.time _ _ _
    have hnext : (hal.advance b m.time).2.nextChannel = hal.nextChannel := rfl
    exact ⟨hkeys ▸ h.numbered, hkeys ▸ hnext ▸ h.below⟩
  | registered kind size k _ _ heq =>
    subst heq
    constructor
    -- the new number is above all those given out before
    · rw [List.map_append, List.pairwise_append]
      refine ⟨h.numbered, List.pairwise_singleton _ _, fun n hn i hi => ?_⟩
      cases List.mem_singleton.1 hi
      exact h.below n hn
    · intro n hn
      show n < hal.nextChannel + 1
      rw [List.map_append] at hn
      rcases List.mem_append.1 hn with hn | hn
      · have := h.below n hn
        omega
      · cases List.mem_singleton.1 hn
        exact Int.lt_succ _
  | unregistered n _ heq =>
    subst heq
    have hsub : ((hal.channels.filter (·.1 ≠ n)).map (·.1)).Sublist (hal.channels.map (·.1)) :=
      List.filter_sublist.map _
    exact ⟨h.numbered.sublist hsub, fun i hi => h.below i (hsub.subset hi)⟩
  | reported k n rate token _ _ hr =>
    obtain ⟨hkeys, hnext, -⟩ := hr.facts
    exact ⟨hkeys ▸ h.numbered, hkeys ▸ hnext ▸ h.below⟩

theorem ChannelsSound.run {hal : Hal} (h : hal.ChannelsSound) (b : Behaviour) (ms : List Turn) :
    (hal.run b ms).ChannelsSound :=
  run_keeps (fun _ m hs => hs.step b m) ms h

theorem ofCatalog_channelsSound (c : Catalog) (signal : Signal) :
    (ofCatalog c signal).ChannelsSound :=
  ⟨List.Pairwise.nil, fun _ hn => absurd hn List.not_mem_nil⟩

section Turns

variable {hal : Hal} {number : Int} {c : Channel}

theorem recordsIn_of_channel? (hc : hal.channel? number = some c) (b : Behaviour) (m : Turn) :
    hal.recordsIn b number m = c.brought m (hal.channelSignal b m.time number) := by
  rw [recordsIn, hc]

theorem Channel.brought_of_ne_advance {m : Turn} (hm : m.input ≠ .advance) (signal : Signal) :
    c.brought m signal = [] := by
  rw [Channel.brought]
  split
  · next hi => exact absurd hi hm
  · rfl

theorem recordsIn_of_ne_advance {m : Turn} (hm : m.input ≠ .advance) (b : Behaviour)
    (number : Int) (hal : Hal) : hal.recordsIn b number m = [] := by
  rw [recordsIn]
  split
  · exact Channel.brought_of_ne_advance hm _
  · rfl

/-- A turn does to a channel what is listed, or removes it. -/
theorem change_channel (hc : hal.channel? number = some c) (b : Behaviour) (m : Turn) :
    m.input = .call (.unregister number) ∨
      ∃ d, (hal.step b m).channel? number = some d ∧
        Channel.Change hal m number (hal.channelSignal b m.time number) c d
          (hal.repliesIn number m) := by
  have hlookup : hal.channels.lookup number = some c := hc
  obtain ⟨now, input⟩ := m
  have hstep := table_step b hal ⟨now, input⟩
  generalize hal.step b ⟨now, input⟩ = next at hstep ⊢
  cases hstep with
  | kept hne hreplies hchannels =>
    rw [hreplies]
    exact Or.inr ⟨c, by rw [channel?, hchannels]; exact hc, .passed hne⟩
  | allocated region hi heq =>
    cases hi
    subst heq
    exact Or.inr ⟨c, hc, .passed Input.noConfusion⟩
  | wrote k offset bytes hi heq =>
    cases hi
    subst heq
    exact Or.inr ⟨c, hc, .passed Input.noConfusion⟩
  | advanced hi heq =>
    cases hi
    subst heq
    refine Or.inr ⟨_, ?_, .advanced rfl⟩
    show (advanceChannels now _ _ hal.channels).1.lookup number = _
    rw [lookup_advanceChannels, hlookup, Option.map_some]
    rfl
  | registered kind size k hi _ heq =>
    cases hi
    subst heq
    refine Or.inr ⟨c, ?_, .passed Input.noConfusion⟩
    rw [channel?, List.lookup_append, hlookup]
    rfl
  | unregistered n hi heq =>
    cases hi
    subst heq
    by_cases hn : n = number
    · exact Or.inl (by rw [hn])
    · exact Or.inr ⟨c, (lookup_filter_ne (Ne.symm hn) _).trans hc, .passed Input.noConfusion⟩
  | reported h n rate token hi hreply hr =>
    cases hi
    right
    rw [repliesIn_report, hreply]
    by_cases hn : n = number
    · subst hn
      have hset : ∀ d, (hal.setChannel n d).channel? n = some d := fun d => by
        rw [channel?_setChannel, hc, Option.map_some, if_pos rfl]
      rw [if_pos rfl]
      -- the channel found by the call is this one
      cases hr with
      | stopped s d hs hd hrate =>
        cases hc.symm.trans hd
        exact ⟨_, hset _, .stopped h rate rfl hrate⟩
      | retuned s d period r hs hd hrate hreport =>
        cases hc.symm.trans hd
        exact ⟨_, hset _, .retuned h rate period r rfl hrate hreport⟩
      | started s d period hs hd hrate hreport =>
        cases hc.symm.trans hd
        exact ⟨_, hset _, .started h rate period s rfl hrate hs hreport⟩
    · rw [if_neg hn]
      exact ⟨c, (hr.facts.2.2.2 number (Ne.symm hn)).trans hc, .passed Input.noConfusion⟩

theorem memory_size_le_step (hal : Hal) (b : Behaviour) (m : Turn) :
    hal.memory.size ≤ (hal.step b m).memory.size := by
  have hstep := table_step b hal m
  generalize hal.step b m = next at hstep
  cases hstep with
  | kept _ _ _ _ _ hmemory => exact Nat.le_of_eq (congrArg Array.size hmemory).symm
  | allocated region _ heq =>
    subst heq
    exact Nat.le_of_lt (Nat.lt_of_lt_of_eq (Nat.lt_succ_self _) (Array.size_push _).symm)
  | wrote k offset bytes _ heq =>
    subst heq
    exact Nat.le_of_eq Array.size_modify.symm
  | advanced _ heq =>
    subst heq
    exact Nat.le_of_eq (size_advanceChannels m.time _ _ _).symm
  | registered kind size k _ _ heq =>
    subst heq
    exact Nat.le_of_eq Array.size_modify.symm
  | unregistered n _ heq =>
    subst heq
    exact Nat.le_refl _
  | reported h n rate token _ _ hr =>
    exact Nat.le_of_eq (congrArg Array.size hr.facts.2.2.1).symm

/-- A region that nothing else writes to gets the records of its channel into its ring. -/
theorem region_step (hsound : hal.ChannelsSound) (hc : hal.channel? number = some c)
    {memory : Nat} (hmem : c.memory = memory) (hi : memory < hal.memory.size) (b : Behaviour)
    {m : Turn} (hbeside : ¬hal.WritesBeside b number memory m) :
    (hal.step b m).region memory =
      Channel.writeRing c.capacity (hal.region memory) c.written (hal.recordsIn b number m) := by
  -- only the clock brings records, any other turn has to leave the region as it is
  have hquiet : m.input ≠ .advance → Channel.writeRing c.capacity (hal.region memory) c.written
      (hal.recordsIn b number m) = hal.region memory := fun hne => by
    rw [recordsIn_of_ne_advance hne, Channel.writeRing]
  have hstep := table_step b hal m
  generalize hal.step b m = next at hstep ⊢
  obtain ⟨now, input⟩ := m
  cases hstep with
  | kept hne _ _ _ _ hmemory => rw [hquiet hne, region, hmemory, region]
  | allocated region hi' heq =>
    cases hi'
    subst heq
    rw [hquiet Input.noConfusion]
    show (hal.memory.push region).getD memory #[] = hal.memory.getD memory #[]
    rw [Array.getD_eq_getD_getElem?, Array.getD_eq_getD_getElem?,
      Array.getElem?_push, if_neg (Nat.ne_of_lt hi)]
  | wrote k offset bytes hi' heq =>
    cases hi'
    subst heq
    rw [hquiet Input.noConfusion]
    exact (getD_modify _ _ _ _).trans (if_neg fun h => hbeside h.1)
  | advanced hi' heq =>
    cases hi'
    subst heq
    apply getD_advanceChannels hsound.numbered hc hi hmem
    intro n d hn hd hdmem
    -- a record of another channel would be written beside
    by_cases hnil : recordsAmong now n (hal.signalLeft b now) hal.channels = []
    · exact hnil
    · exact absurd ⟨n, d, hn, hd, hdmem, hnil⟩ hbeside
  | registered kind size k hi' hfits heq =>
    cases hi'
    subst heq
    rw [hquiet Input.noConfusion]
    exact (getD_modify _ _ _ _).trans (if_neg fun h => hbeside ⟨h.1, hfits⟩)
  | unregistered n hi' heq =>
    cases hi'
    subst heq
    rw [hquiet Input.noConfusion]
    rfl
  | reported h n rate token hi' _ hr =>
    cases hi'
    rw [hquiet Input.noConfusion, region, hr.facts.2.2.1, region]

end Turns

end SensorBench.Hal
