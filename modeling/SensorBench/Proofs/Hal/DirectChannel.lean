import SensorBench.Proofs.Hal.Channels

/-!
# A direct channel from its registration on

As long as nothing else writes to its region, the region of a channel is the ring of all
records that the channel has brought (`Ring.step`). A channel with one report brings
records that are numbered from one (`Single.change`), so that they are read back as they
were written (`records_read_back`).
-/

set_option autoImplicit false

namespace SensorBench.Hal

/-! ## Counters -/

namespace DirectReport

theorem counterAfter_add (c : UInt32) (m n : Nat) :
    counterAfter c (m + n) = counterAfter (counterAfter c m) n := by
  induction m generalizing c with
  | zero => rw [Nat.zero_add, counterAfter]
  | succ m ih =>
    have hsum : m + 1 + n = m + n + 1 := by omega
    rw [hsum, counterAfter, ih, counterAfter]

theorem toNat_nextCounter {c : UInt32} (h : c.toNat + 1 < 4294967296) :
    (nextCounter c).toNat = c.toNat + 1 := by
  have hadd : (c + 1).toNat = c.toNat + 1 := by
    rw [UInt32.toNat_add]
    exact Nat.mod_eq_of_lt h
  -- without a wrap the successor is at least one, so that zero need not be left out
  have hle : (1 : UInt32) ≤ c + 1 := by
    rw [UInt32.le_iff_toNat_le, hadd]
    exact Nat.le_add_left _ _
  rw [← hadd]
  show (if c + 1 ≤ 1 then 1 else c + 1).toNat = (c + 1).toNat
  split
  · next hone => rw [UInt32.le_antisymm hone hle]
  · rfl

/-- Counters go up by one as long as they fit. -/
theorem toNat_counterAfter {c : UInt32} {n : Nat} (h : c.toNat + n < 4294967296) :
    (counterAfter c n).toNat = c.toNat + n := by
  induction n generalizing c with
  | zero => rfl
  | succ n ih =>
    have hnext := toNat_nextCounter (c := c) (by omega)
    rw [counterAfter, ih (by omega), hnext]
    omega

/-- The counter after some records is the next number, as long as it fits. -/
theorem counterAfter_one {n : Nat} (h : n + 1 < 4294967296) :
    counterAfter 1 n = UInt32.ofNat (n + 1) := by
  have hcount : (counterAfter 1 n).toNat = 1 + n :=
    toNat_counterAfter (c := 1) (by show 1 + n < _; omega)
  rw [← UInt32.toNat_inj, hcount, UInt32.toNat_ofNat_of_lt' h]
  exact Nat.add_comm 1 n

theorem length_recordsAt (r : DirectReport) (counter : UInt32) {times : List Int}
    {payloads : List Payload} (h : payloads.length = times.length) :
    (r.recordsAt counter times payloads).length = times.length := by
  induction times generalizing counter payloads with
  | nil => rfl
  | cons t times ih =>
    cases payloads with
    | nil => cases h
    | cons p payloads => exact congrArg Nat.succ (ih _ (Nat.succ.inj h))

/-- Each record of a report carries the report's token and kind and the counter of its
place. -/
theorem recordsAt_spec (r : DirectReport) {counter : UInt32} {times : List Int}
    {payloads : List Payload} {n : Nat} {x : Record}
    (hx : (r.recordsAt counter times payloads)[n]? = some x) :
    ∃ t p, times[n]? = some t ∧ payloads[n]? = some p ∧
      x = Record.of r.token r.kind.code (counterAfter counter n) t p.values := by
  induction times generalizing counter payloads n with
  | nil => cases hx
  | cons t times ih =>
    cases payloads with
    | nil => cases hx
    | cons p payloads =>
      cases n with
      | zero =>
        cases hx
        exact ⟨t, p, rfl, rfl, rfl⟩
      | succ n => exact ih hx

/-- A report goes on with the token and the kind that it has, and its counter counts its
records. -/
theorem advance_facts (r : DirectReport) (now : Int) (signal : Signal) :
    (r.advance now signal).2.1.token = r.token ∧ (r.advance now signal).2.1.kind = r.kind ∧
      (r.advance now signal).2.1.counter =
        counterAfter r.counter (r.advance now signal).1.length := by
  refine ⟨rfl, rfl, ?_⟩
  show counterAfter r.counter (dueTimes r.nextDue r.period now).length =
    counterAfter r.counter (r.recordsAt r.counter (dueTimes r.nextDue r.period now)
      (signal.payloads r.kind (dueTimes r.nextDue r.period now)).1).length
  rw [length_recordsAt r r.counter (Signal.length_payloads _ _ _)]

end DirectReport

theorem Channel.reportsAdvance_singleton (now : Int) (signal : Signal) (h : Handle)
    (r : DirectReport) :
    Channel.reportsAdvance now signal [(h, r)] =
      ((r.advance now signal).1, [(h, (r.advance now signal).2.1)],
        (r.advance now signal).2.2) := by
  simp only [Channel.reportsAdvance, List.append_nil]

/-! ## The ring of a channel -/

/-- The region of a channel holds the ring of all records that the channel has brought
since it was registered, over `total` zero bytes. -/
structure Ring (hal : Hal) (number : Int) (c : Channel) (total : Nat) (records : List Record) :
    Prop where
  found : hal.channel? number = some c
  inside : c.memory < hal.memory.size
  counted : c.written = records.length
  filled : hal.region c.memory =
    Channel.writeRing c.capacity (Region.zero total) 0 records

/-- What a channel was registered with, no turn changes, and its records are counted. -/
theorem Channel.Change.facts {hal : Hal} {m : Turn} {number : Int} {signal : Signal}
    {c d : Channel} {replies : List Int} (h : Channel.Change hal m number signal c d replies) :
    d.size = c.size ∧ d.memory = c.memory ∧
      d.written = c.written + (c.brought m signal).length := by
  cases h with
  | passed hm => exact ⟨rfl, rfl, by rw [Channel.brought_of_ne_advance hm]; rfl⟩
  | stopped k rate hi => exact ⟨rfl, rfl, by rw [Channel.brought, hi]; rfl⟩
  | retuned k rate period r hi => exact ⟨rfl, rfl, by rw [Channel.brought, hi]; rfl⟩
  | started k rate period s hi => exact ⟨rfl, rfl, by rw [Channel.brought, hi]; rfl⟩
  | advanced hi =>
    obtain ⟨-, hsize, hmemory, hwritten⟩ := Channel.advance_facts c m.time signal
    exact ⟨hsize, hmemory, by rw [Channel.brought, hi]; exact hwritten⟩

section Ring

variable {b : Behaviour} {hal : Hal} {number : Int} {c : Channel} {total : Nat}
  {records : List Record}

/-- A turn that removes no channel and writes nothing beside it adds the channel's records to
its ring. -/
theorem Ring.step (h : hal.Ring number c total records) (hsound : hal.ChannelsSound) {m : Turn}
    (hkeeps : m.input ≠ .call (.unregister number))
    (halone : ¬hal.WritesBeside b number c.memory m) :
    ∃ d, (hal.step b m).Ring number d total (records ++ hal.recordsIn b number m) ∧
      Channel.Change hal m number (hal.channelSignal b m.time number) c d
        (hal.repliesIn number m) := by
  rcases change_channel h.found b m with hremoved | ⟨d, hd, hchange⟩
  · exact absurd hremoved hkeeps
  · obtain ⟨hsize, hmemory, hwritten⟩ := hchange.facts
    have hcapacity : d.capacity = c.capacity := by
      rw [Channel.capacity, hsize, Channel.capacity]
    refine ⟨d, ⟨hd, ?_, ?_, ?_⟩, hchange⟩
    · rw [hmemory]
      exact Nat.lt_of_lt_of_le h.inside (memory_size_le_step hal b m)
    · rw [hwritten, List.length_append, h.counted, recordsIn_of_channel? h.found]
    · rw [hmemory, hcapacity, region_step hsound h.found rfl h.inside b halone, h.filled,
        Channel.writeRing_append, h.counted, Nat.zero_add]

/-- A channel starts with an empty ring. -/
theorem ring_of_register (hsound : hal.ChannelsSound) {kind : MemoryKind} {size memory : Nat}
    {next : Hal} (hok : hal.register kind size memory = .ok (number, next)) :
    Record.width ≤ size ∧ size ≤ (hal.region memory).size ∧ next.ChannelsSound ∧
      next.sensors = hal.sensors ∧
      next.Ring number ⟨kind, size, memory, 0, []⟩ (hal.region memory).size [] := by
  have hfits : ¬(size < Record.width ∨ (hal.region memory).size < size) := fun h => by
    rw [register, if_pos h] at hok
    cases hok
  have hnext : hal.step {} ⟨0, .call (.register kind size memory)⟩ = next := by
    rw [step_call, perform, hok]
    rfl
  rw [register, if_neg hfits] at hok
  cases hok
  have hwidth : 0 < Record.width := by decide
  -- a region that is not there is too small for a record
  have hinside : memory < hal.memory.size := by
    by_cases hlt : memory < hal.memory.size
    · exact hlt
    · have hnone : hal.region memory = #[] := by
        rw [region, Array.getD_eq_getD_getElem?, Array.getElem?_eq_none (Nat.le_of_not_lt hlt)]
        rfl
      rw [hnone, Array.size_empty] at hfits
      omega
  have hfresh : hal.channels.lookup hal.nextChannel = none := by
    apply List.lookup_eq_none_iff.2
    intro p hp
    apply bne_iff_ne.2
    intro e
    have hlt := hsound.below p.1 (List.mem_map_of_mem hp)
    omega
  refine ⟨by omega, by omega, hnext ▸ hsound.step {} _, rfl, ?_, ?_, rfl, ?_⟩
  · rw [channel?, List.lookup_append, hfresh]
    exact List.lookup_cons_self
  · show memory < (hal.memory.modify memory _).size
    rwa [Array.size_modify]
  · show (hal.memory.modify memory _).getD memory #[] = _
    rw [getD_modify, if_pos ⟨rfl, hinside⟩]
    rfl

end Ring

/-! ## One report -/

/-- The turn leaves a channel to the report of one sensor: it does not remove the channel,
and all that it asks of reports on it is a running rate for that sensor. -/
def Turn.StaysWith (number : Int) (h : Handle) (m : Turn) : Prop :=
  match m.input with
  | .call (.unregister n) => n ≠ number
  | .call (.report k n rate) => n = number → k = h ∧ rate ≠ .stop
  | _ => True

/-- The records are built from one token and one kind of sensor and are counted from one. -/
def Built (token : Int) (kind : SensorKind) (records : List Record) : Prop :=
  ∀ n x, records[n]? = some x → ∃ time values,
    x = Record.of token kind.code (DirectReport.counterAfter 1 n) time values

/-- Only one sensor reports into the channel: it has not started yet, or its report has built
all records. -/
inductive Single (h : Handle) (kind : SensorKind) (c : Channel) (records : List Record) :
    Option Int → Prop
  | idle : c.reports = [] → records = [] → Single h kind c records none
  | running (r : DirectReport) : c.reports = [(h, r)] → r.kind = kind →
      r.counter = DirectReport.counterAfter 1 records.length → Built r.token kind records →
      Single h kind c records (some r.token)

theorem Built.append {token : Int} {kind : SensorKind} {records more : List Record}
    (h : Built token kind records)
    (hmore : ∀ n x, more[n]? = some x → ∃ time values, x = Record.of token kind.code
      (DirectReport.counterAfter 1 (records.length + n)) time values) :
    Built token kind (records ++ more) := by
  intro n x hx
  rw [List.getElem?_append] at hx
  split at hx
  · exact h n x hx
  · next hn =>
    have hsum : records.length + (n - records.length) = n := by omega
    have hbuilt := hmore _ x hx
    rwa [hsum] at hbuilt

section Single

variable {hal : Hal} {m : Turn} {number : Int} {signal : Signal} {c d : Channel}
  {replies : List Int} {h : Handle} {kind : SensorKind} {records : List Record}
  {token : Option Int}

theorem Single.advance (hs : Single h kind c records token) (now : Int) :
    Single h kind (c.advance now signal).2.1 (records ++ (c.advance now signal).1) token := by
  rw [Channel.advance]
  split
  · rw [List.append_nil]
    exact hs
  · cases hs with
    | idle hreports hrecords =>
      rw [hreports, hrecords]
      exact .idle rfl rfl
    | running r hreports hkind hcounter hbuilt =>
      obtain ⟨-, -, hnext⟩ := r.advance_facts now signal
      -- the counter has counted the records so far, so the new ones go on from there
      rw [hreports, Channel.reportsAdvance_singleton]
      refine .running (r.advance now signal).2.1 rfl hkind ?_ (hbuilt.append fun n x hx => ?_)
      · rw [hnext, hcounter, ← DirectReport.counterAfter_add, List.length_append]
      · obtain ⟨t, p, -, -, rfl⟩ := DirectReport.recordsAt_spec r hx
        exact ⟨t, p.values, by rw [hkind, hcounter, DirectReport.counterAfter_add]⟩

/-- A turn that stays with the sensor keeps its report the only one, and replies with the
token of that report. -/
theorem Single.change (hs : Single h kind c records token)
    (hchange : Channel.Change hal m number signal c d replies) (hstay : m.StaysWith number h)
    (hkind : ∀ s, hal.sensor? h = some s → s.descriptor.kind = kind) :
    ∃ token', Single h kind d (records ++ c.brought m signal) token' ∧
      (∀ t, token = some t → token' = some t) ∧ ∀ t ∈ replies, token' = some t := by
  cases hchange with
  | passed hm =>
    rw [Channel.brought_of_ne_advance hm, List.append_nil]
    exact ⟨token, hs, fun _ ht => ht, fun _ ht => absurd ht List.not_mem_nil⟩
  | stopped k rate hi hrate =>
    rw [Turn.StaysWith, hi] at hstay
    exact absurd (period?_eq_none.1 hrate) (hstay rfl).2
  | retuned k rate period r hi hrate hreport =>
    rw [Turn.StaysWith, hi] at hstay
    obtain ⟨rfl, -⟩ := hstay rfl
    rw [Channel.brought_of_ne_advance (by rw [hi]; exact Input.noConfusion), List.append_nil]
    -- only a running report is retuned, and it keeps its token and its counter
    cases hs with
    | idle hreports =>
      rw [Channel.report?, hreports] at hreport
      cases hreport
    | running r' hreports hk hcounter hbuilt =>
      rw [Channel.report?, hreports, List.lookup_cons_self] at hreport
      cases hreport
      refine ⟨some r.token, .running { r with period } ?_ hk hcounter hbuilt, fun _ ht => ht,
        fun t ht => by rw [List.mem_singleton.1 ht]⟩
      show Channel.setReport k _ c.reports = _
      rw [hreports, Channel.setReport, if_pos rfl]
  | started k rate period s hi hrate hsensor hreport =>
    rw [Turn.StaysWith, hi] at hstay
    obtain ⟨rfl, -⟩ := hstay rfl
    rw [Channel.brought_of_ne_advance (by rw [hi]; exact Input.noConfusion), List.append_nil]
    -- a running report is not started again, so this is the first start
    cases hs with
    | running r' hreports =>
      rw [Channel.report?, hreports, List.lookup_cons_self] at hreport
      cases hreport
    | idle hreports hrecords =>
      subst hrecords
      refine ⟨some hal.nextToken, .running
        ⟨hal.nextToken, s.descriptor.kind, period, m.time + period, 1⟩ ?_ (hkind s hsensor) rfl ?_,
        fun t ht => ?_, fun t ht => by rw [List.mem_singleton.1 ht]⟩
      · show Channel.setReport k _ c.reports = _
        rw [hreports, Channel.setReport]
      · exact fun n x hx => absurd hx (by simp)
      · cases ht
  | advanced hi =>
    rw [Channel.brought, hi]
    exact ⟨token, hs.advance m.time, fun _ ht => ht, fun _ ht => absurd ht List.not_mem_nil⟩

end Single

/-! ## Runs -/

/-- What holds of a HAL in which one sensor has a channel and its region for itself. -/
structure Reporting (hal : Hal) (number : Int) (h : Handle) (kind : SensorKind) (c : Channel)
    (total : Nat) (records : List Record) (token : Option Int) : Prop where
  sound : hal.ChannelsSound
  kinds : ∀ s, hal.sensor? h = some s → s.descriptor.kind = kind
  ring : hal.Ring number c total records
  single : Single h kind c records token

section Runs

variable {b : Behaviour} {hal : Hal} {number : Int} {h : Handle} {kind : SensorKind} {c : Channel}
  {total : Nat} {records : List Record} {token : Option Int}

theorem kinds_step (hkinds : ∀ s, hal.sensor? h = some s → s.descriptor.kind = kind)
    (m : Turn) : ∀ t, (hal.step b m).sensor? h = some t → t.descriptor.kind = kind := by
  intro t ht
  obtain ⟨s, hs, hchange⟩ := exists_of_sensor?_step ht
  rw [hchange.descriptor]
  exact hkinds s hs

theorem Reporting.step (hr : hal.Reporting number h kind c total records token) {m : Turn}
    (hstay : m.StaysWith number h) (halone : ¬hal.WritesBeside b number c.memory m) :
    ∃ d token', (hal.step b m).Reporting number h kind d total
        (records ++ hal.recordsIn b number m) token' ∧
      d.memory = c.memory ∧ d.size = c.size ∧
      (∀ t, token = some t → token' = some t) ∧
      ∀ t ∈ hal.repliesIn number m, token' = some t := by
  -- a turn that stays with the sensor does not remove the channel
  have hkeeps : m.input ≠ .call (.unregister number) := fun hi => by
    rw [Turn.StaysWith, hi] at hstay
    exact hstay rfl
  obtain ⟨d, hring, hchange⟩ := hr.ring.step hr.sound hkeeps halone
  obtain ⟨token', hsingle, htoken, hreplies⟩ := hr.single.change hchange hstay hr.kinds
  rw [← recordsIn_of_channel? hr.ring.found] at hsingle
  exact ⟨d, token', ⟨hr.sound.step b m, kinds_step hr.kinds m, hring, hsingle⟩,
    hchange.facts.2.1, hchange.facts.1, htoken, hreplies⟩

theorem Reporting.run {memory : Nat} (hr : hal.Reporting number h kind c total records token)
    (hmemory : c.memory = memory) {ms : List Turn} (hstay : ∀ m ∈ ms, m.StaysWith number h)
    (halone : Throughout b (fun hal m => ¬hal.WritesBeside b number memory m) hal ms) :
    ∃ d token', (hal.run b ms).Reporting number h kind d total
        (records ++ along b (recordsIn b number) hal ms) token' ∧
      d.memory = memory ∧ d.size = c.size ∧
      (∀ t, token = some t → token' = some t) ∧
      ∀ t ∈ along b (repliesIn number) hal ms, token' = some t := by
  induction ms generalizing hal c records token with
  | nil =>
    rw [along_nil, List.append_nil]
    exact ⟨c, token, hr, hmemory, rfl, fun _ ht => ht, fun _ ht => absurd ht List.not_mem_nil⟩
  | cons m rest ih =>
    subst hmemory
    obtain ⟨d, token', hd, hmem, hsize, htoken, hreplies⟩ :=
      hr.step (hstay m List.mem_cons_self) halone.1
    obtain ⟨e, token'', he, hmem', hsize', htoken', hreplies'⟩ :=
      ih hd hmem (fun n hn => hstay n (List.mem_cons_of_mem m hn)) halone.2
    rw [List.append_assoc] at he
    refine ⟨e, token'', he, hmem', hsize'.trans hsize, fun t ht => htoken' t (htoken t ht),
      fun t ht => ?_⟩
    rcases List.mem_append.1 ht with ht | ht
    · exact htoken' t (hreplies t ht)
    · exact hreplies' t ht

/-- As long as the counters fit, the record at a place has its number as the counter. -/
theorem Built.getElem? {token : Int} (h : Built token kind records)
    (hk : records.length < 4294967296) {n : Nat} {x : Record} (hx : records[n]? = some x) :
    ∃ time values, x = Record.of token kind.code (UInt32.ofNat (n + 1)) time values := by
  obtain ⟨time, values, rfl⟩ := h n x hx
  have hn : n < records.length := (List.getElem?_eq_some_iff.1 hx).1
  rw [DirectReport.counterAfter_one (by omega)]
  exact ⟨time, values, rfl⟩

theorem Single.numbered (hs : Single h kind c records token)
    (hk : records.length < 4294967296) : Record.Numbered 1 records := by
  cases hs with
  | idle _ hrecords =>
    intro n x hx
    rw [hrecords] at hx
    cases hx
  | running r _ _ _ hbuilt =>
    intro n x hx
    have hn : n < records.length := (List.getElem?_eq_some_iff.1 hx).1
    obtain ⟨time, values, rfl⟩ := hbuilt.getElem? hk hx
    have hcount : (UInt32.ofNat (n + 1)).toNat = n + 1 :=
      UInt32.toNat_ofNat_of_lt' (Nat.lt_of_le_of_lt hn hk)
    exact ⟨rfl, hcount.trans (Nat.add_comm n 1)⟩

/-- What is read from the region of the channel is the last lap of its records. -/
theorem Reporting.parse (hr : hal.Reporting number h kind c total records token)
    (hwidth : Record.width ≤ c.size) (htotal : c.size ≤ total)
    (hk : records.length < 4294967296) :
    Record.parse (hal.region c.memory) =
      records.drop (records.length - 1 - (records.length - 1) % Record.capacityOf c.size) := by
  have hpos : 0 < Record.capacityOf c.size := Nat.div_pos hwidth (by decide)
  have hfits : Record.capacityOf c.size * Record.width ≤ total :=
    Nat.le_trans (Nat.div_mul_le_self c.size Record.width) htotal
  rw [hr.ring.filled, Channel.capacity]
  exact Record.parse_writeRing hpos hfits (hr.single.numbered hk)

/-- In every run since its registration in which nobody else writes to its region and only
one sensor reports into it, the records read from the region of a channel are those of the
last lap as the HAL has built them, all of them as long as they fit: each with the token of
the report, the code of the sensor and its own number as the counter. -/
theorem records_read_back (catalog : Catalog) (signal : Signal) (b : Behaviour)
    (early : List Turn) {kind : MemoryKind} {size memory : Nat} {number : Int} {hal : Hal}
    (hok : ((ofCatalog catalog signal).run b early).register kind size memory =
      .ok (number, hal))
    {h : Handle} {s : Sampler} (hs : hal.sensor? h = some s) {late : List Turn}
    (hstay : ∀ m ∈ late, m.StaysWith number h)
    (halone : Throughout b (fun hal m => ¬hal.WritesBeside b number memory m) hal late)
    (hk : (along b (recordsIn b number) hal late).length < 4294967296) :
    let records := along b (recordsIn b number) hal late
    ((hal.run b late).channel? number).map (·.written) = some records.length ∧
      Record.parse ((hal.run b late).region memory) =
          records.drop (records.length - 1 - (records.length - 1) % Record.capacityOf size) ∧
      (records.length ≤ Record.capacityOf size →
        Record.parse ((hal.run b late).region memory) = records) ∧
      ∃ token, (∀ t ∈ along b (repliesIn number) hal late, t = token) ∧
        ∀ n x, records[n]? = some x → ∃ time values,
          x = Record.of token s.descriptor.kind.code (UInt32.ofNat (n + 1)) time values := by
  have hchannels := (ofCatalog_channelsSound catalog signal).run b early
  obtain ⟨hwidth, hsize, hsound, -, hring⟩ := ring_of_register hchannels hok
  have hstart : hal.Reporting number h s.descriptor.kind ⟨kind, size, memory, 0, []⟩
      (((ofCatalog catalog signal).run b early).region memory).size [] none :=
    ⟨hsound, fun t ht => by rw [hs] at ht; cases ht; rfl, hring, .idle rfl rfl⟩
  obtain ⟨d, token, hend, hmemory, hdsize, -, hreplies⟩ :=
    Reporting.run hstart (show _ = memory from rfl) hstay halone
  rw [List.nil_append] at hend
  have hdsize : d.size = size := hdsize
  have hparse := hend.parse (by rwa [hdsize]) (by rwa [hdsize]) hk
  rw [hmemory, hdsize] at hparse
  refine ⟨?_, hparse, fun hle => ?_, ?_⟩
  · rw [hend.ring.found, Option.map_some, hend.ring.counted]
  · -- in the first lap nothing is dropped
    have hpos : 0 < Record.capacityOf size := Nat.div_pos hwidth (by decide)
    rw [hparse, Nat.mod_eq_of_lt (by omega), Nat.sub_self, List.drop_zero]
  · cases hend.single with
    -- without a report there is neither a reply nor a record
    | idle _ hrecords =>
      refine ⟨0, fun t ht => absurd (hreplies t ht).symm (Option.some_ne_none t),
        fun n x hx => ?_⟩
      rw [hrecords] at hx
      cases hx
    | running r _ _ _ hbuilt =>
      exact ⟨r.token, fun t ht => (Option.some.inj (hreplies t ht)).symm,
        fun n x hx => hbuilt.getElem? hk hx⟩

end Runs

/-- A HAL with one region, a little longer than two records. -/
def oneRegion : Hal := (ofCatalog [barometer] silence).run {} [⟨0, .allocate (Region.zero 220)⟩]

/-- A channel of two slots over the region, just registered. -/
def twoSlots : Hal := oneRegion.step {} ⟨0, .call (.register .ashmem 208 0)⟩

/-- A report that brings two records, is retuned, and brings one more. -/
def lappedRun : List Turn :=
  [⟨0, .call (.report barometer.handle 1 .normal)⟩, ⟨45000000, .advance⟩,
    ⟨50000000, .call (.report barometer.handle 1 .normal)⟩, ⟨65000000, .advance⟩]

theorem records_read_back_lapped :
    let records := along {} (recordsIn {} 1) twoSlots lappedRun
    records.length = 3 ∧
      Record.parse ((twoSlots.run {} lappedRun).region 0) = records.drop 2 ∧
      ∃ token, (∀ t ∈ along {} (repliesIn 1) twoSlots lappedRun, t = token) ∧
        ∀ n x, records[n]? = some x → ∃ time values,
          x = Record.of token barometer.kind.code (UInt32.ofNat (n + 1)) time values := by
  have hlength : (along {} (recordsIn {} 1) twoSlots lappedRun).length = 3 := by decide +kernel
  have hfits : ¬(208 < Record.width ∨ (oneRegion.region 0).size < 208) := by decide +kernel
  have htwo := @step_register oneRegion {} 0 .ashmem 208 0 hfits
  have hok : oneRegion.register .ashmem 208 0 = .ok (1, twoSlots) := by
    rw [register, if_neg hfits, twoSlots, htwo]
    rfl
  have hs : twoSlots.sensor? barometer.handle = some (.initial barometer) := by
    rw [twoSlots, htwo]
    rfl
  have hstay : ∀ m ∈ lappedRun, m.StaysWith 1 barometer.handle := by
    intro m hm
    simp only [lappedRun, List.mem_cons, List.not_mem_nil, or_false] at hm
    rcases hm with rfl | rfl | rfl | rfl
    · exact fun _ => ⟨rfl, Rate.noConfusion⟩
    · trivial
    · exact fun _ => ⟨rfl, Rate.noConfusion⟩
    · trivial
  have honly : ∀ (hal : Hal) (now : Int), hal.channels.map (·.1) = [1] →
      ¬hal.WritesBeside {} 1 0 ⟨now, .advance⟩ := by
    rintro hal now hkeys ⟨n, c, hn, hc, -⟩
    have hmem := mem_keys_of_lookup hc
    rw [hkeys, List.mem_singleton] at hmem
    exact hn hmem
  have halone : Throughout {} (fun hal m => ¬hal.WritesBeside {} 1 0 m) twoSlots lappedRun :=
    ⟨id, honly _ _ (by decide +kernel), id, honly _ _ (by decide +kernel), trivial⟩
  obtain ⟨-, hparse, -, htoken⟩ := records_read_back [barometer] silence {} _ hok hs hstay halone
    (by rw [hlength]; decide)
  rw [hlength] at hparse
  exact ⟨hlength, hparse, htoken⟩

end SensorBench.Hal
