import SensorBench.Proofs.Hal.Channels

/-!
# Writes into channels

`advanceChannels?` brings all channels up to a clock value and checks every record that
it writes against the bounds of its region. In every reachable state no check fails
(`advanceChannels?_eq`): a channel is only registered over a region that holds it,
and no region ever shrinks. The invariant, `Channel.Ready`, also says that a channel has
a slot and that the periods of its reports are positive.
-/

set_option autoImplicit false

namespace SensorBench.Hal

/-- Records put into consecutive slots of a ring, each of them checked against the bounds
of the region. -/
def Channel.writeRing? (capacity : Nat) (region : Region) (number : Nat) :
    List Record → Except OutOfBounds Region
  | [] => .ok region
  | r :: rest => do
    writeRing? capacity (← region.write (number % capacity * Record.width) r.encode)
      (number + 1) rest

/-- All channels brought up to `now`, every write checked; the first that does not fit ends
it. -/
def advanceChannels? (now : Int) (signal : Signal) (memory : Array Region) :
    List (Int × Channel) → Except OutOfBounds (List (Int × Channel) × Array Region × Signal)
  | [] => .ok ([], memory, signal)
  | (n, c) :: rest => do
    let (records, d, signal) := c.advance now signal
    let region ← Channel.writeRing? c.capacity (memory.getD c.memory #[]) c.written records
    let (rest, memory, signal) ←
      advanceChannels? now signal (memory.modify c.memory fun _ => region) rest
    .ok ((n, d) :: rest, memory, signal)

/-- What every reachable channel satisfies: it has a slot, its region holds what was
declared, and the periods of its reports are positive. -/
structure Channel.Ready (memory : Array Region) (c : Channel) : Prop where
  slots : 0 < c.capacity
  fits : c.size ≤ (memory.getD c.memory #[]).size
  periods : ∀ p ∈ c.reports, 0 < p.2.period

/-- All channels are ready. -/
def Ready (hal : Hal) : Prop := ∀ p ∈ hal.channels, p.2.Ready hal.memory

/-! ## Regions keep their sizes -/

/-- No region of a memory is shorter than it was in an earlier one. -/
def NoShorter (memory later : Array Region) : Prop :=
  ∀ i : Nat, (memory.getD i #[]).size ≤ (later.getD i #[]).size

theorem noShorter_modify (memory : Array Region) (k : Nat) {f : Region → Region}
    (hf : ∀ r, (f r).size = r.size) : NoShorter memory (memory.modify k f) := by
  intro i
  rw [getD_modify]
  split
  · exact Nat.le_of_eq (hf _).symm
  · exact Nat.le_refl _

theorem noShorter_push (memory : Array Region) (region : Region) :
    NoShorter memory (memory.push region) := by
  intro i
  rw [Array.getD_eq_getD_getElem?, Array.getD_eq_getD_getElem?, Array.getElem?_push]
  split
  · next hi =>
    -- a region that was not there counts as empty
    rw [Array.getElem?_eq_none (Nat.le_of_eq hi.symm)]
    exact Nat.zero_le _
  · exact Nat.le_refl _

theorem size_patched (r : Region) (offset : Nat) (bytes : List UInt8) :
    (patched r offset bytes).size = r.size := by
  rw [patched]
  split
  · next h => exact Region.size_of_write h
  · rfl

theorem noShorter_advanceChannels (now : Int) (signal : Signal) (memory : Array Region)
    (channels : List (Int × Channel)) :
    NoShorter memory (advanceChannels now signal memory channels).2.1 := by
  induction channels generalizing signal memory with
  | nil => exact fun _ => Nat.le_refl _
  | cons p rest ih =>
    intro i
    have hfirst := noShorter_modify memory (p.2.advance now signal).2.1.memory
      (Channel.size_writeRing p.2.capacity · p.2.written (p.2.advance now signal).1) i
    exact Nat.le_trans hfirst (ih _ _ i)

/-! ## Channels stay ready -/

section Ready

variable {memory : Array Region} {c : Channel}

theorem Channel.Ready.mono (h : c.Ready memory) {later : Array Region}
    (hle : NoShorter memory later) : c.Ready later :=
  ⟨h.slots, Nat.le_trans h.fits (hle c.memory), h.periods⟩

theorem Channel.Ready.withReports (h : c.Ready memory) {written : Nat}
    {reports : List (Handle × DirectReport)} (hreports : ∀ p ∈ reports, 0 < p.2.period) :
    { c with written, reports }.Ready memory :=
  ⟨h.slots, h.fits, hreports⟩

theorem mem_setReport {h : Handle} {r : DirectReport} {reports : List (Handle × DirectReport)}
    {p : Handle × DirectReport} (hp : p ∈ Channel.setReport h r reports) :
    p = (h, r) ∨ p ∈ reports := by
  induction reports with
  | nil => exact Or.inl (List.mem_singleton.1 hp)
  | cons q rest ih =>
    rw [Channel.setReport] at hp
    split at hp
    · exact (List.mem_cons.1 hp).imp_right (List.mem_cons_of_mem q)
    · split at hp
      · exact List.mem_cons.1 hp
      · rcases List.mem_cons.1 hp with rfl | hp
        · exact Or.inr List.mem_cons_self
        · exact (ih hp).imp_right (List.mem_cons_of_mem q)

theorem Channel.Ready.setReport (h : c.Ready memory) (k : Handle) {r : DirectReport}
    (hr : 0 < r.period) : { c with reports := setReport k r c.reports }.Ready memory := by
  apply h.withReports
  intro p hp
  rcases mem_setReport hp with rfl | hp
  · exact hr
  · exact h.periods p hp

/-- Reports keep their periods when they are brought up to a clock value. -/
theorem period_reportsAdvance {now : Int} {signal : Signal}
    {reports : List (Handle × DirectReport)} (h : ∀ p ∈ reports, 0 < p.2.period) :
    ∀ p ∈ (Channel.reportsAdvance now signal reports).2.1,
      0 < p.2.period ∧ now < p.2.nextDue := by
  induction reports generalizing signal with
  | nil => exact fun p hp => absurd hp List.not_mem_nil
  | cons q rest ih =>
    have hq := h q List.mem_cons_self
    intro p hp
    rcases List.mem_cons.1 hp with rfl | hp
    · exact ⟨hq, lt_dueAfter hq _ _⟩
    · exact ih (fun p hp => h p (List.mem_cons_of_mem q hp)) p hp

theorem Channel.Ready.advance (h : c.Ready memory) (now : Int) (signal : Signal) :
    (c.advance now signal).2.1.Ready memory := by
  rw [Channel.advance, if_neg (Nat.ne_of_gt h.slots)]
  exact h.withReports fun p hp => (period_reportsAdvance h.periods p hp).1

theorem mem_advanceChannels {now : Int} {signal : Signal} {channels : List (Int × Channel)}
    {p : Int × Channel} (hp : p ∈ (advanceChannels now signal memory channels).1) :
    ∃ q ∈ channels, ∃ before, p.2 = (q.2.advance now before).2.1 := by
  induction channels generalizing signal memory with
  | nil => exact absurd hp List.not_mem_nil
  | cons q rest ih =>
    rcases List.mem_cons.1 hp with rfl | hp
    · exact ⟨q, List.mem_cons_self, signal, rfl⟩
    · obtain ⟨r, hr, before, hadvance⟩ := ih hp
      exact ⟨r, List.mem_cons_of_mem q hr, before, hadvance⟩

end Ready

theorem period?_pos {rate : Rate} {period : Int} (h : rate.period? = some period) :
    0 < period := by
  cases rate with
  | stop => cases h
  | _ => cases h; decide

section Steps

variable {hal : Hal}

theorem mem_of_channel? {n : Int} {c : Channel} (hc : hal.channel? n = some c) :
    (n, c) ∈ hal.channels :=
  mem_of_lookup hc

theorem Ready.setChannel (h : hal.Ready) {n : Int} {c : Channel} (hc : c.Ready hal.memory) :
    (hal.setChannel n c).Ready := by
  intro p hp
  obtain ⟨q, hq, rfl⟩ := List.mem_map.1 hp
  dsimp only
  split
  · exact hc
  · exact h q hq

/-- An accepted report call sets a report with a positive period, or takes one away. -/
theorem Ready.reported (h : hal.Ready) {now n token : Int} {k : Handle} {rate : Rate}
    {next : Hal} (hr : Reported hal now k n rate token next) : next.Ready := by
  cases hr with
  | stopped s c hs hc =>
    refine h.setChannel ((h _ (mem_of_channel? hc)).withReports fun p hp => ?_)
    exact (h _ (mem_of_channel? hc)).periods p ((List.mem_filter.1 hp).1)
  | retuned s c period r hs hc hrate =>
    exact h.setChannel ((h _ (mem_of_channel? hc)).setReport k (period?_pos hrate))
  | started s c period hs hc hrate =>
    exact h.setChannel ((h _ (mem_of_channel? hc)).setReport k (period?_pos hrate))

/-- Every turn keeps all channels ready. -/
theorem Ready.step (h : hal.Ready) (b : Behaviour) (m : Turn) : (hal.step b m).Ready := by
  have hstep := table_step b hal m
  generalize hal.step b m = next at hstep
  cases hstep with
  | kept _ _ hchannels _ _ hmemory =>
    intro p hp
    rw [hmemory]
    exact h p (hchannels ▸ hp)
  | allocated region _ heq =>
    subst heq
    exact fun p hp => (h p hp).mono (noShorter_push hal.memory region)
  | wrote k offset bytes _ heq =>
    subst heq
    exact fun p hp => (h p hp).mono
      (noShorter_modify hal.memory k fun r => size_patched r offset bytes)
  | advanced _ heq =>
    subst heq
    intro p hp
    obtain ⟨q, hq, before, hadvance⟩ := mem_advanceChannels hp
    rw [hadvance]
    exact ((h q hq).advance m.time before).mono (noShorter_advanceChannels m.time _ _ _)
  | registered kind size k _ hfits heq =>
    subst heq
    have hle : NoShorter hal.memory (hal.memory.modify k fun r => r.fill 0) :=
      noShorter_modify hal.memory k fun r => Array.size_replicate
    intro p hp
    rcases List.mem_append.1 hp with hp | hp
    · exact (h p hp).mono hle
    -- the region was long enough before it was zeroed
    · cases List.mem_singleton.1 hp
      obtain ⟨hwidth, hregion⟩ := not_or.1 hfits
      exact ⟨Nat.div_pos (Nat.le_of_not_lt hwidth) (by decide),
        Nat.le_trans (Nat.le_of_not_lt hregion) (hle k), fun p hp => absurd hp List.not_mem_nil⟩
  | unregistered n _ heq =>
    subst heq
    exact fun p hp => h p ((List.mem_filter.1 hp).1)
  | reported k n rate token _ _ hr => exact h.reported hr

theorem Ready.run (h : hal.Ready) (b : Behaviour) (ms : List Turn) : (hal.run b ms).Ready :=
  run_keeps (fun _ m hr => hr.step b m) ms h

theorem ofCatalog_ready (c : Catalog) (signal : Signal) : (ofCatalog c signal).Ready :=
  fun _ hp => absurd hp List.not_mem_nil

end Steps

/-! ## Checked writes -/

theorem Channel.writeRing?_eq {capacity : Nat} (hc : 0 < capacity) {region : Region}
    (hfits : capacity * Record.width ≤ region.size) (number : Nat) (records : List Record) :
    writeRing? capacity region number records =
      .ok (writeRing capacity region number records) := by
  induction records generalizing region number with
  | nil => rfl
  | cons r rest ih =>
    -- a slot of the ring lies before its end
    have hslot : (number % capacity + 1) * Record.width ≤ capacity * Record.width :=
      Nat.mul_le_mul_right _ (Nat.mod_lt number hc)
    rw [Nat.add_mul, Nat.one_mul] at hslot
    have hwrite : region.write (number % capacity * Record.width) r.encode =
        .ok (region.put (number % capacity * Record.width) r.encode) := by
      rw [Region.write, Record.length_encode, if_pos (by omega)]
    rw [writeRing?, hwrite, writeRing]
    exact ih (by rwa [Region.size_put]) (number + 1)

theorem modify_getD (memory : Array Region) (k : Nat) (f : Region → Region) :
    (memory.modify k fun _ => f (memory.getD k #[])) = memory.modify k f := by
  apply Array.ext
  · rw [Array.size_modify, Array.size_modify]
  · intro i hi hi'
    rw [Array.getElem_modify, Array.getElem_modify]
    split
    · next hk =>
      subst hk
      rw [Array.size_modify] at hi
      rw [Array.getD_eq_getD_getElem?, Array.getElem?_eq_getElem hi, Option.getD_some]
    · rfl

theorem advanceChannels?_eq {now : Int} {signal : Signal} {memory : Array Region}
    {channels : List (Int × Channel)} (h : ∀ p ∈ channels, p.2.Ready memory) :
    advanceChannels? now signal memory channels =
      .ok (advanceChannels now signal memory channels) := by
  induction channels generalizing signal memory with
  | nil => rfl
  | cons p rest ih =>
    obtain ⟨n, c⟩ := p
    have hc := h (n, c) List.mem_cons_self
    have hring := Channel.writeRing?_eq hc.slots
      (Nat.le_trans (Nat.div_mul_le_self c.size Record.width) hc.fits) c.written
      (c.advance now signal).1
    have hmemory := (Channel.advance_facts c now signal).2.2.1
    -- the channels behind find every region as long as it was
    have hrest := fun q hq => (h q (List.mem_cons_of_mem (n, c) hq)).mono
      (noShorter_modify memory c.memory fun r =>
        Channel.size_writeRing c.capacity r c.written (c.advance now signal).1)
    simp only [advanceChannels?, advanceChannels, hring, hmemory]
    show (advanceChannels? now (c.advance now signal).2.2 (memory.modify c.memory fun _ => _)
      rest >>= _) = _
    rw [modify_getD memory c.memory fun region =>
      Channel.writeRing c.capacity region c.written (c.advance now signal).1, ih hrest]
    rfl

end SensorBench.Hal
