import SensorBench.Proofs.Direct.Slots
import SensorBench.Proofs.Hal.ChannelBounds
import SensorBench.Proofs.Hal.DirectChannel
import SensorBench.Proofs.Hal.Numbers

/-!
# The memory of a direct channel

Any number of sensors may report into one channel, at rates that change. As long as
nobody else changes its region, this holds the records of all of them byte by byte: each
slot the one written to it last, and zeros elsewhere (`ring_holds_latest`). No write of a
reachable HAL misses its region.
-/

set_option autoImplicit false

namespace SensorBench.Hal

/-- Whether somebody beside the channel with a number changes a region. Bytes of a client
that do not fit, or that are there already, do not count. -/
def Disturbs (b : Behaviour) (number : Int) (memory : Nat) (hal : Hal) (m : Turn) : Prop :=
  hal.WritesBeside b number memory m ∧
    ∀ offset bytes, m.input = .write memory offset bytes →
      patched (hal.region memory) offset bytes ≠ hal.region memory

/-- Every record that the channels bring up to `now` fits into its region. -/
def WritesFit (b : Behaviour) (now : Int) (hal : Hal) : Prop :=
  advanceChannels? now (hal.signalLeft b now) hal.memory hal.channels =
    .ok (advanceChannels now (hal.signalLeft b now) hal.memory hal.channels)

theorem Ready.writesFit {hal : Hal} (h : hal.Ready) (b : Behaviour) (now : Int) :
    hal.WritesFit b now :=
  advanceChannels?_eq h

section Ring

variable {b : Behaviour} {hal : Hal} {number : Int} {c : Channel} {total memory : Nat}
  {records : List Record} {ms : List Turn}

/-- A client that leaves a region as it is leaves the ring in it as it is. -/
theorem Ring.step_write (h : hal.Ring number c total records) {now : Int} {offset : Nat}
    {bytes : List UInt8}
    (hsame : patched (hal.region c.memory) offset bytes = hal.region c.memory) :
    (hal.step b ⟨now, .write c.memory offset bytes⟩).Ring number c total records := by
  have hregion : (hal.step b ⟨now, .write c.memory offset bytes⟩).region c.memory =
      hal.region c.memory := by
    show (hal.memory.modify c.memory _).getD c.memory #[] = _
    rw [getD_modify, if_pos ⟨rfl, h.inside⟩]
    exact hsame
  refine ⟨h.found, ?_, h.counted, hregion.trans h.filled⟩
  show c.memory < (hal.memory.modify c.memory _).size
  rw [Array.size_modify]
  exact h.inside

/-- An undisturbed turn that keeps the channel adds the records it brings to the ring. -/
theorem Ring.step_undisturbed (h : hal.Ring number c total records) (hsound : hal.ChannelsSound)
    {m : Turn} (hkeeps : m.input ≠ .call (.unregister number))
    (hquiet : ¬hal.Disturbs b number c.memory m) :
    ∃ d, (hal.step b m).Ring number d total (records ++ hal.recordsIn b number m) ∧
      d.size = c.size ∧ d.memory = c.memory := by
  by_cases halone : hal.WritesBeside b number c.memory m
  · -- what disturbs nothing all the same is a client's write
    have hwrite : ∃ offset bytes, m.input = .write c.memory offset bytes ∧
        patched (hal.region c.memory) offset bytes = hal.region c.memory := by
      by_contra hnone
      apply hquiet
      exact ⟨halone, fun offset bytes hi hsame => hnone ⟨offset, bytes, hi, hsame⟩⟩
    obtain ⟨offset, bytes, hi, hsame⟩ := hwrite
    obtain ⟨now, input⟩ := m
    cases hi
    rw [recordsIn_of_ne_advance Input.noConfusion, List.append_nil]
    exact ⟨c, h.step_write hsame, rfl, rfl⟩
  · obtain ⟨d, hring, hchange⟩ := h.step hsound hkeeps halone
    exact ⟨d, hring, hchange.facts.1, hchange.facts.2.1⟩

theorem Ring.run (h : hal.Ring number c total records) (hsound : hal.ChannelsSound)
    (hmemory : c.memory = memory) (hkeeps : ∀ m ∈ ms, m.input ≠ .call (.unregister number))
    (hquiet : Throughout b (fun hal m => ¬hal.Disturbs b number memory m) hal ms) :
    ∃ d, (hal.run b ms).Ring number d total (records ++ along b (recordsIn b number) hal ms) ∧
      d.size = c.size ∧ d.memory = memory := by
  induction ms generalizing hal c records with
  | nil =>
    rw [along_nil, List.append_nil]
    exact ⟨c, h, rfl, hmemory⟩
  | cons m rest ih =>
    -- a turn may retune the channel, but keeps its size and its memory
    subst hmemory
    obtain ⟨hfirst, hrest⟩ := hquiet
    obtain ⟨d, hd, hsize, hmem⟩ := h.step_undisturbed hsound (hkeeps m List.mem_cons_self) hfirst
    obtain ⟨e, he, hsize', hmem'⟩ := ih hd (hsound.step b m) hmem
      (fun n hn => hkeeps n (List.mem_cons_of_mem m hn)) hrest
    rw [List.append_assoc] at he
    exact ⟨e, he, hsize'.trans hsize, hmem'⟩

/-- What the bytes of a region are once its ring is known. -/
theorem Ring.bytes (h : hal.Ring number c total records) (hwidth : Record.width ≤ c.size)
    (htotal : c.size ≤ total) :
    (hal.region c.memory).size = total ∧
      (∀ slot < c.capacity,
        (hal.region c.memory).slice (slot * Record.width) Record.width =
          Channel.slotBytes (Channel.latest? c.capacity slot records)) ∧
      ∀ i < total, c.capacity * Record.width ≤ i → (hal.region c.memory)[i]? = some 0 := by
  have hpos : 0 < c.capacity := Nat.div_pos hwidth (by decide)
  have hfits : c.capacity * Record.width ≤ total :=
    Nat.le_trans (Nat.div_mul_le_self c.size Record.width) htotal
  rw [h.filled]
  refine ⟨?_, ?_, ?_⟩
  · rw [Channel.size_writeRing, Region.zero, Array.size_replicate]
  · intro slot hslot
    exact Channel.slice_writeRing hslot hfits records
  · intro i hi hbehind
    rw [Channel.getElem?_writeRing_behind hpos _ _ _ hbehind, Region.zero,
      Array.getElem?_replicate, if_pos hi]

/-- From the registration of a channel on, as long as it is not removed and nobody else
changes its region: no write of the HAL misses its region, each slot of the ring spells the
record written to it last, or zeros if there is none, and all bytes behind the last slot are
zero. -/
theorem ring_holds_latest (catalog : Catalog) (signal : Signal) (b : Behaviour)
    (early : List Turn) {kind : MemoryKind} {size memory : Nat} {number : Int} {hal : Hal}
    (hok : ((ofCatalog catalog signal).run b early).register kind size memory =
      .ok (number, hal))
    {late : List Turn} (hregistered : number ∈ (hal.run b late).channels.map (·.1))
    (hquiet : Throughout b (fun hal m => ¬hal.Disturbs b number memory m) hal late) :
    let records := along b (recordsIn b number) hal late
    let capacity := Record.capacityOf size
    let region := (hal.run b late).region memory
    (∀ done, done <+: late → ∀ now, (hal.run b done).WritesFit b now) ∧
      ((hal.run b late).channel? number).map (·.written) = some records.length ∧
      0 < capacity ∧ capacity * Record.width ≤ region.size ∧
      (∀ slot < capacity, region.slice (slot * Record.width) Record.width =
        Channel.slotBytes (Channel.latest? capacity slot records)) ∧
      ∀ i < region.size, capacity * Record.width ≤ i → region[i]? = some 0 := by
  have hchannels := (ofCatalog_channelsSound catalog signal).run b early
  have hready := (ofCatalog_ready catalog signal).run b early
  have hnext := hready.step b ⟨0, .call (.register kind size memory)⟩
  rw [step_call, perform, hok] at hnext
  -- the registration clears the region, which makes it a ring without records
  obtain ⟨hwidth, htotal, hsound, -, hring⟩ := ring_of_register hchannels hok
  have hgiven : number < hal.nextChannel :=
    hsound.below number (mem_keys_of_lookup hring.found)
  obtain ⟨d, hend, hsize, hmemory⟩ :=
    hring.run hsound rfl (not_unregistered hgiven hregistered) hquiet
  rw [List.nil_append] at hend
  have hsize : d.size = size := hsize
  have hcapacity : d.capacity = Record.capacityOf size := by rw [Channel.capacity, hsize]
  obtain ⟨hbytes, hslots, hbehind⟩ := hend.bytes (by rwa [hsize]) (by rwa [hsize])
  rw [hmemory] at hbytes hslots hbehind
  rw [hcapacity] at hslots hbehind
  refine ⟨?_, ?_, Nat.div_pos hwidth (by decide), ?_, hslots, fun i hi => hbehind i (hbytes ▸ hi)⟩
  · intro done _ now
    -- the bounds hold in every state, whoever else writes
    exact (Ready.run hnext b done).writesFit b now
  · rw [hend.found, Option.map_some, hend.counted]
  · rw [hbytes]
    exact Nat.le_trans (Nat.div_mul_le_self size Record.width) htotal

end Ring

/-- A sensor that reports up to two hundred times a second. -/
def altimeter : Descriptor := { barometer with handle := Handle.ofInt 9, flags := ⟨0x510⟩ }

/-- One region of 220 bytes for the reports of two sensors. -/
def sharedRegion : Hal :=
  (ofCatalog [barometer, altimeter] silence).run {} [⟨0, .allocate (Region.zero 220)⟩]

/-- A channel of two slots over the region, just registered. -/
def sharedSlots : Hal := sharedRegion.step {} ⟨0, .call (.register .ashmem 208 0)⟩

/-- Two sensors start at different rates; one is retuned, the other stopped and started
anew. -/
def sharedRun : List Turn :=
  [⟨0, .call (.report barometer.handle 1 .normal)⟩, ⟨0, .call (.report altimeter.handle 1 .fast)⟩,
    ⟨20000000, .advance⟩, ⟨21000000, .call (.report altimeter.handle 1 .normal)⟩,
    ⟨22000000, .call (.report barometer.handle 1 .stop)⟩, ⟨45000000, .advance⟩,
    ⟨50000000, .call (.report barometer.handle 1 .normal)⟩, ⟨70000000, .advance⟩]

theorem ring_holds_latest_shared :
    let records := along {} (recordsIn {} 1) sharedSlots sharedRun
    let region := (sharedSlots.run {} sharedRun).region 0
    records.length = 9 ∧
      (∀ slot < 2, region.slice (slot * Record.width) Record.width =
        Channel.slotBytes (Channel.latest? 2 slot records)) ∧
      ∀ i < region.size, 2 * Record.width ≤ i → region[i]? = some 0 := by
  have hlength : (along {} (recordsIn {} 1) sharedSlots sharedRun).length = 9 := by
    decide +kernel
  have hfits : ¬(208 < Record.width ∨ (sharedRegion.region 0).size < 208) := by decide +kernel
  have hok : sharedRegion.register .ashmem 208 0 = .ok (1, sharedSlots) := by
    rw [sharedSlots, step_register _ {} 0 hfits, register, if_neg hfits]
    rfl
  have hregistered : 1 ∈ (sharedSlots.run {} sharedRun).channels.map (·.1) := by decide +kernel
  -- the channel is the only one, so the clock writes nothing beside it
  have honly : ∀ (hal : Hal) (now : Int), hal.channels.map (·.1) = [1] →
      ¬hal.Disturbs {} 1 0 ⟨now, .advance⟩ := by
    rintro hal now hkeys ⟨⟨n, c, hn, hc, -⟩, -⟩
    have hmem := mem_keys_of_lookup hc
    rw [hkeys, List.mem_singleton] at hmem
    exact hn hmem
  have hcalls : ∀ (hal : Hal) (now : Int) (h : Handle) (rate : Rate),
      ¬hal.Disturbs {} 1 0 ⟨now, .call (.report h 1 rate)⟩ := fun _ _ _ _ h => h.1
  have hquiet : Throughout {} (fun hal m => ¬hal.Disturbs {} 1 0 m) sharedSlots sharedRun :=
    ⟨hcalls _ _ _ _, hcalls _ _ _ _, honly _ _ (by decide +kernel), hcalls _ _ _ _,
      hcalls _ _ _ _, honly _ _ (by decide +kernel), hcalls _ _ _ _,
      honly _ _ (by decide +kernel), trivial⟩
  obtain ⟨-, -, -, -, hslots, hbehind⟩ :=
    ring_holds_latest [barometer, altimeter] silence {} _ hok hregistered hquiet
  exact ⟨hlength, hslots, hbehind⟩

end SensorBench.Hal
