import SensorBench.Proofs.Hal.ChannelBounds
import SensorBench.Proofs.Hal.Sound

/-!
# Calls in place

`perform` either rejects a call or gives the next state, and so cannot leave a call half
done. A HAL in service has one state, which a call reads and writes as it goes along; what it
has written stays written when it is rejected further on. `carryOut` is every call in that
form, one read or write after the other. In every reachable state it comes to the same as
`perform`, and a rejected call leaves the state as it was (`carryOut_eq`).
-/

set_option autoImplicit false

namespace SensorBench.Hal

/-- A call at work on the one state of a HAL. -/
def Command (α : Type) : Type := Hal → Except Status α × Hal

/-- One command after the other; the second is not begun if the first is rejected. -/
def Command.andThen {α β : Type} (x : Command α) (f : α → Command β) : Command β := fun hal =>
  match x hal with
  | (.ok a, hal) => f a hal
  | (.error status, hal) => (.error status, hal)

instance : Monad Command where
  pure a := fun hal => (.ok a, hal)
  bind := Command.andThen

/-- The HAL with one sensor changed in place. -/
def adjust (hal : Hal) (h : Handle) (f : Sampler → Sampler) : Hal :=
  { hal with sensors := hal.sensors.map fun t => if t.handle = h then f t else t }

/-- The HAL with one channel changed in place. -/
def adjustChannel (hal : Hal) (n : Int) (f : Channel → Channel) : Hal :=
  { hal with channels := hal.channels.map fun (k, d) => if k = n then (k, f d) else (k, d) }

namespace Command

/-- The state as it is now. -/
def look : Command Hal := fun hal => (.ok hal, hal)

/-- A write to the state. -/
def write (f : Hal → Hal) : Command Unit := fun hal => (.ok (), f hal)

/-- The end of a call that is rejected. -/
def reject {α : Type} (status : Status) : Command α := fun hal => (.error status, hal)

/-- The sensor with a handle as it is now. -/
def sensor (h : Handle) : Command Sampler := do
  match (← look).sensor? h with
  | some s => return s
  | none => reject .badValue

/-- The channel with a number as it is now. -/
def channel (n : Int) : Command Channel := do
  match (← look).channel? n with
  | some c => return c
  | none => reject .badValue

/-- A sensor switched on or off. -/
def activate (b : Behaviour) (now : Int) (h : Handle) (on : Bool) : Command Unit := do
  let s ← sensor h
  if s.enabled = on then return
  write (·.adjust h ({ · with enabled := on }))
  if on then
    write (·.adjust h fun s => { s with
      nextDue := now + if s.descriptor.isOneShot then Sampler.oneShotDelay else s.period })
    if b.replayStaleEvents then write (·.adjust h fun s => { s with replay := s.lastEvent })
  else
    write (·.adjust h ({ · with buffer := [] }))
    write (·.adjust h ({ · with bufferedSince := none }))

/-- A running schedule brought forward to one period from now. -/
def bringForward (now : Int) (h : Handle) : Command Unit := do
  let s ← sensor h
  if s.enabled && !s.descriptor.isOneShot then
    write (·.adjust h fun s => { s with nextDue := min s.nextDue (now + s.period) })

/-- The samples that may no longer be held back sent out. -/
def drain (h : Handle) : Command Unit := do
  let s ← sensor h
  if !s.batching && !s.buffer.isEmpty then
    write (·.adjust h ({ · with buffer := [] }))
    write (·.adjust h ({ · with bufferedSince := none }))
    write fun hal => { hal with waiting := hal.waiting ++ s.buffer.map (⟨.sample, ·⟩) }

/-- A sensor given a period and a report latency. -/
def batch (now : Int) (h : Handle) (period latency : Int) : Command Unit := do
  if period < 0 ∨ latency < 0 then reject .badValue
  else
    let _ ← sensor h
    write (·.adjust h fun s => { s with period := Sampler.periodFor s.descriptor period })
    write (·.adjust h ({ · with latency }))
    bringForward now h
    drain h

/-- A flush requested. -/
def flush (h : Handle) : Command Unit := do
  let s ← sensor h
  if s.descriptor.isOneShot || !s.enabled then reject .badValue
  write (·.adjust h fun s => { s with pendingFlushes := s.pendingFlushes + 1 })

/-- An event injected. -/
def inject (e : Event) : Command Unit := do
  if e.kind = .additionalInfo then return
  let mode := (← look).mode
  let s ← sensor e.handle
  if !s.descriptor.isInjectable then reject .invalidOperation
  if mode ≠ .dataInjection then reject .badValue
  write fun hal => { hal with waiting := hal.waiting ++ [⟨.injection, e⟩] }

/-- A channel registered: its memory is zeroed and a number taken before it is entered. -/
def register (kind : MemoryKind) (size memory : Nat) : Command Int := do
  if size < Record.width ∨ ((← look).region memory).size < size then reject .badValue
  else
    write fun hal => { hal with memory := hal.memory.modify memory fun r => r.fill 0 }
    let n := (← look).nextChannel
    write fun hal => { hal with nextChannel := hal.nextChannel + 1 }
    write fun hal => { hal with channels := hal.channels ++ [(n, ⟨kind, size, memory, 0, []⟩)] }
    return n

/-- A channel removed. Whether it was there is looked at after the removal. -/
def unregister (n : Int) : Command Unit := do
  let found := ((← look).channel? n).isSome
  write fun hal => { hal with channels := hal.channels.filter (·.1 ≠ n) }
  if !found then reject .badValue

/-- A report entered where the sensor has none. -/
def enter (h : Handle) (r : DirectReport) (c : Channel) : Channel :=
  match c.report? h with
  | some _ => c
  | none => { c with reports := Channel.setReport h r c.reports }

/-- The report of a sensor given a period. -/
def retune (h : Handle) (period : Int) (c : Channel) : Channel :=
  match c.report? h with
  | some r => { c with reports := Channel.setReport h { r with period } c.reports }
  | none => c

/-- A report started, retuned or stopped. A report that carries the next token was entered
just now, and uses that token up. -/
def report (now : Int) (h : Handle) (n : Int) (rate : Rate) : Command Int := do
  let s ← sensor h
  let next := (← look).nextToken
  let c ← channel n
  match rate.period? with
  | none =>
    write (·.adjustChannel n fun c => { c with reports := c.reports.filter (·.1 ≠ h) })
    return 0
  | some period =>
    if s.descriptor.supportsMemory c.memoryKind && s.descriptor.supportsRate rate then
      write (·.adjustChannel n (enter h ⟨next, s.descriptor.kind, period, now + period, 1⟩))
      write (·.adjustChannel n (retune h period))
      let c ← channel n
      let token := (c.report? h).elim 0 (·.token)
      if token = next then
        write fun hal => { hal with nextToken := hal.nextToken + 1 }
        return token
      else return token
    else reject .badValue

/-- A call carried out in place. -/
def carryOut (b : Behaviour) (now : Int) : Call → Command Int
  | .activate h on => do
    activate b now h on
    return 0
  | .batch h period latency => do
    batch now h period latency
    return 0
  | .flush h => do
    flush h
    return 0
  | .mode m => do
    write ({ · with mode := m })
    return 0
  | .inject e => do
    inject e
    return 0
  | .register kind size memory => register kind size memory
  | .unregister n => do
    unregister n
    return 0
  | .report h n rate => report now h n rate

/-! ## How commands run -/

section Running

variable {α β : Type} (f : α → Command β) (hal : Hal)

@[simp] theorem pure_run (a : α) : (pure a : Command α) hal = (.ok a, hal) := rfl

@[simp] theorem reject_run (status : Status) :
    (reject status : Command α) hal = (.error status, hal) := rfl

@[simp] theorem pure_bind_run (a : α) : ((pure a : Command α) >>= f) hal = f a hal := rfl

@[simp] theorem look_bind_run (f : Hal → Command β) : (look >>= f) hal = f hal hal := rfl

@[simp] theorem write_bind_run (g : Hal → Hal) (f : Unit → Command β) :
    (write g >>= f) hal = f () (g hal) := rfl

@[simp] theorem write_run (g : Hal → Hal) : write g hal = (.ok (), g hal) := rfl

@[simp] theorem reject_bind_run (status : Status) :
    ((reject status : Command α) >>= f) hal = (.error status, hal) := rfl

@[simp] theorem bind_bind_run {γ : Type} (x : Command α) (g : β → Command γ) :
    (((x >>= f) >>= g) : Command γ) hal = (x >>= fun a => f a >>= g) hal := by
  show Command.andThen (Command.andThen x f) g hal = Command.andThen x _ hal
  unfold Command.andThen
  cases x hal with
  | mk r next => cases r <;> rfl

@[simp] theorem ite_run (p : Prop) [Decidable p] (x y : Command α) :
    (if p then x else y) hal = if p then x hal else y hal := by
  split <;> rfl

@[simp] theorem ite_bind_run (p : Prop) [Decidable p] (x y : Command α) :
    ((if p then x else y) >>= f) hal = if p then (x >>= f) hal else (y >>= f) hal := by
  split <;> rfl

end Running

end Command

/-- A reply and the state that goes with it: the next state of an accepted call, and the one
before it of a rejected call. -/
def settled (hal : Hal) : Except Status (Int × Hal) → Except Status Int × Hal
  | .ok (v, next) => (.ok v, next)
  | .error status => (.error status, hal)

/-! ## Calls about sensors and events -/

section Sensors

variable {hal : Hal} {h : Handle} {s t : Sampler} {α : Type}

theorem sensor_run (hs : hal.sensor? h = some s) (k : Sampler → Command α) :
    (Command.sensor h >>= k) hal = k s hal := by
  rw [Command.sensor]
  simp [hs]

theorem sensor_run_unknown (hs : hal.sensor? h = none) (k : Sampler → Command α) :
    (Command.sensor h >>= k) hal = (.error .badValue, hal) := by
  rw [Command.sensor]
  simp [hs]

/-- Where each handle belongs to one sensor, a sensor in its own place changes nothing. -/
theorem Sound.setSensor_self (hsound : hal.Sound) (hs : hal.sensor? h = some s) :
    hal.setSensor s = hal := by
  have hsame : hal.sensors.map (fun t => if t.handle = s.handle then s else t) = hal.sensors := by
    rw [List.map_congr_left (g := id) fun t ht => ?_, List.map_id]
    split
    · next hth =>
      have hfound := hsound.sensor?_of_mem ht
      rw [hth, handle_of_sensor? hs, hs] at hfound
      exact Option.some.inj hfound
    · rfl
  rw [setSensor, hsame]

theorem adjust_setSensor {f : Sampler → Sampler} (ht : t.handle = h) (hf : (f t).handle = h) :
    (hal.setSensor t).adjust h f = hal.setSensor (f t) := by
  rw [adjust, setSensor, setSensor, List.map_map]
  congr 1
  apply List.map_congr_left
  intro u _
  simp only [Function.comp, ht, hf]
  by_cases hu : u.handle = h
  · rw [if_pos hu, if_pos ht, if_pos hu]
  · rw [if_neg hu, if_neg hu, if_neg hu]

theorem adjust_run {f : Sampler → Sampler} (ht : t.handle = h) (hf : (f t).handle = h)
    (k : Unit → Command α) :
    (Command.write (·.adjust h f) >>= k) (hal.setSensor t) = k () (hal.setSensor (f t)) := by
  rw [Command.write_bind_run, adjust_setSensor ht hf]

theorem sensor_run_set (hs : hal.sensor? h = some s) (ht : t.handle = h)
    (k : Sampler → Command α) :
    (Command.sensor h >>= k) (hal.setSensor t) = k t (hal.setSensor t) :=
  sensor_run (sensor?_setSensor_self hs ht) k

theorem bringForward_run (hs : hal.sensor? h = some s) (ht : t.handle = h) (now : Int)
    (k : Unit → Command α) :
    (Command.bringForward now h >>= k) (hal.setSensor t) = k () (hal.setSensor { t with
      nextDue := if t.enabled && !t.descriptor.isOneShot then min t.nextDue (now + t.period)
        else t.nextDue }) := by
  rw [Command.bringForward, Command.bind_bind_run, sensor_run_set hs ht, Command.ite_bind_run]
  split
  · exact adjust_run ht ht k
  · rfl

theorem drain_run (hs : hal.sensor? h = some s) (ht : t.handle = h) (k : Unit → Command α) :
    (Command.drain h >>= k) (hal.setSensor t) = k () { hal.setSensor t.release with
      waiting := hal.waiting ++ t.released.map (⟨.sample, ·⟩) } := by
  rw [Command.drain, Command.bind_bind_run, sensor_run_set hs ht, Command.ite_bind_run,
    Sampler.release]
  split
  · next hheld =>
    have hreleased : t.released = t.buffer := by
      rw [Sampler.released, if_neg]
      simpa using (Bool.and_eq_true_iff.1 hheld).1
    rw [Command.bind_bind_run, adjust_run ht (by exact ht), Command.bind_bind_run,
      adjust_run (by exact ht) (by exact ht), Command.write_bind_run, hreleased]
    rfl
  · next hheld =>
    have hreleased : t.released = [] := by
      rw [Sampler.released]
      cases hb : t.batching with
      | true => rfl
      | false => simpa [hb] using hheld
    rw [hreleased, List.map_nil, List.append_nil]
    rfl

end Sensors

section SensorCalls

variable {hal : Hal} (hsound : hal.Sound) (b : Behaviour) (now : Int) (h : Handle)

include hsound

theorem carryOut_activate (on : Bool) :
    Command.carryOut b now (.activate h on) hal =
      settled hal (hal.perform b now (.activate h on)) := by
  rw [Command.carryOut, Command.activate, perform, activate]
  cases hs : hal.sensor? h with
  | none => simp [sensor_run_unknown hs, settled, Except.map]
  | some s =>
    have hh : s.handle = h := handle_of_sensor? hs
    simp only [Command.bind_bind_run, sensor_run hs, Command.ite_bind_run]
    split
    · rfl
    · conv => lhs; rw [← hsound.setSensor_self hs]
      rw [adjust_run (by exact hh) (by exact hh)]
      cases on with
      | false =>
        simp only [Bool.false_eq_true, if_false, Command.bind_bind_run]
        rw [adjust_run (by exact hh) (by exact hh), adjust_run (by exact hh) (by exact hh)]
        rfl
      | true =>
        simp only [if_true, Command.bind_bind_run]
        rw [adjust_run (by exact hh) (by exact hh), Command.ite_bind_run,
          adjust_run (by exact hh) (by exact hh)]
        cases hr : b.replayStaleEvents <;>
          simp [settled, Except.map, Sampler.switchOn, Sampler.firstDue, hr]

theorem carryOut_flush :
    Command.carryOut b now (.flush h) hal = settled hal (hal.perform b now (.flush h)) := by
  rw [Command.carryOut, Command.flush, perform, flush]
  cases hs : hal.sensor? h with
  | none => simp [sensor_run_unknown hs, settled, Except.map]
  | some s =>
    have hh : s.handle = h := handle_of_sensor? hs
    simp only [Command.bind_bind_run, sensor_run hs, Command.ite_bind_run]
    split
    · rfl
    · conv => lhs; rw [← hsound.setSensor_self hs]
      rw [adjust_run (by exact hh) (by exact hh)]
      rfl

theorem carryOut_batch (period latency : Int) :
    Command.carryOut b now (.batch h period latency) hal =
      settled hal (hal.perform b now (.batch h period latency)) := by
  rw [Command.carryOut, Command.batch, perform]
  by_cases hr : period < 0 ∨ latency < 0
  · simp [batch, hr, settled, Except.map]
  · simp only [if_neg hr, Command.bind_bind_run]
    cases hs : hal.sensor? h with
    | none =>
      rw [sensor_run_unknown hs, batch, if_neg hr, hs]
      rfl
    | some s =>
      have hh : s.handle = h := handle_of_sensor? hs
      rw [sensor_run hs, batch_eq hal now hs (by omega) (by omega)]
      conv => lhs; rw [← hsound.setSensor_self hs]
      rw [Command.bind_bind_run, adjust_run (by exact hh) (by exact hh),
        Command.bind_bind_run, adjust_run (by exact hh) (by exact hh),
        Command.bind_bind_run, bringForward_run hs (by exact hh), drain_run hs (by exact hh)]
      rfl

end SensorCalls

theorem carryOut_inject (b : Behaviour) (hal : Hal) (now : Int) (e : Event) :
    Command.carryOut b now (.inject e) hal = settled hal (hal.perform b now (.inject e)) := by
  rw [Command.carryOut, Command.inject, perform, inject]
  simp only [Command.bind_bind_run, Command.ite_bind_run]
  split
  · rfl
  · rw [Command.look_bind_run]
    cases hs : hal.sensor? e.handle with
    | none =>
      rw [Command.bind_bind_run, sensor_run_unknown hs]
      rfl
    | some s =>
      rw [Command.bind_bind_run, sensor_run hs, Command.ite_bind_run]
      dsimp only
      split
      · rfl
      · rw [Command.ite_bind_run]
        split <;> rfl

/-! ## Calls about channels -/

/-- Every report carries a token that was given out before. -/
def TokensGiven (hal : Hal) : Prop :=
  ∀ p ∈ hal.channels, ∀ q ∈ p.2.reports, q.2.token < hal.nextToken

section Tokens

variable {hal : Hal}

/-- Reports keep their tokens when they are brought up to a clock value. -/
theorem token_reportsAdvance {now : Int} {signal : Signal}
    {reports : List (Handle × DirectReport)} {bound : Int}
    (h : ∀ q ∈ reports, q.2.token < bound) :
    ∀ q ∈ (Channel.reportsAdvance now signal reports).2.1, q.2.token < bound := by
  induction reports generalizing signal with
  | nil => exact h
  | cons p rest ih =>
    intro q hq
    rcases List.mem_cons.1 hq with rfl | hq
    · exact h p List.mem_cons_self
    · exact ih (fun q hq => h q (List.mem_cons_of_mem p hq)) q hq

theorem TokensGiven.setChannel (h : hal.TokensGiven) {n : Int} {c : Channel}
    (hc : ∀ q ∈ c.reports, q.2.token < hal.nextToken) : (hal.setChannel n c).TokensGiven := by
  intro p hp
  obtain ⟨q, hq, rfl⟩ := List.mem_map.1 hp
  dsimp only
  split
  · exact hc
  · exact h q hq

theorem TokensGiven.reported (h : hal.TokensGiven) {now n token : Int} {k : Handle} {rate : Rate}
    {next : Hal} (hr : Reported hal now k n rate token next) : next.TokensGiven := by
  cases hr with
  | stopped s c hs hc =>
    exact h.setChannel fun q hq => h _ (mem_of_channel? hc) q (List.mem_filter.1 hq).1
  | retuned s c period r hs hc hrate hfound =>
    apply h.setChannel
    intro q hq
    have hgiven := h _ (mem_of_channel? hc)
    rcases mem_setReport hq with rfl | hq
    · exact hgiven (k, r) (mem_of_lookup hfound)
    · exact hgiven q hq
  | started s c period hs hc hrate =>
    -- the token of the new report is the one that is used up
    have hlater : ∀ p ∈ hal.channels, ∀ q ∈ p.2.reports, q.2.token < hal.nextToken + 1 :=
      fun p hp q hq => Int.lt_add_one_of_le (Int.le_of_lt (h p hp q hq))
    have hgiven : TokensGiven { hal with nextToken := hal.nextToken + 1 } := hlater
    apply hgiven.setChannel
    intro q hq
    rcases mem_setReport hq with rfl | hq
    · exact Int.lt_succ hal.nextToken
    · exact hlater _ (mem_of_channel? hc) q hq

theorem TokensGiven.step (h : hal.TokensGiven) (b : Behaviour) (m : Turn) :
    (hal.step b m).TokensGiven := by
  have hstep := table_step b hal m
  generalize hal.step b m = next at hstep
  cases hstep with
  | kept _ _ hchannels _ htoken _ =>
    intro p hp
    rw [htoken]
    exact h p (hchannels ▸ hp)
  | allocated region _ heq =>
    subst heq
    exact h
  | wrote k offset bytes _ heq =>
    subst heq
    exact h
  | advanced _ heq =>
    subst heq
    intro p hp
    obtain ⟨q, hq, before, hadvance⟩ := mem_advanceChannels hp
    rw [hadvance, Channel.advance]
    split
    · exact h q hq
    · exact token_reportsAdvance (h q hq)
  | registered kind size k _ _ heq =>
    subst heq
    intro p hp
    rcases List.mem_append.1 hp with hp | hp
    · exact h p hp
    · cases List.mem_singleton.1 hp
      exact fun q hq => absurd hq List.not_mem_nil
  | unregistered n _ heq =>
    subst heq
    exact fun p hp => h p (List.mem_filter.1 hp).1
  | reported k n rate token _ _ hr => exact h.reported hr

theorem ofCatalog_tokensGiven (c : Catalog) (signal : Signal) :
    (ofCatalog c signal).TokensGiven :=
  fun _ hp => absurd hp List.not_mem_nil

end Tokens

section Reports

variable {hal : Hal} {n : Int} {c d : Channel} {α : Type}

theorem lookup_setReport (h : Handle) (r : DirectReport) (reports : List (Handle × DirectReport)) :
    (Channel.setReport h r reports).lookup h = some r := by
  induction reports with
  | nil => exact List.lookup_cons_self
  | cons p rest ih =>
    rw [Channel.setReport]
    split
    · exact List.lookup_cons_self
    · next hne =>
      split
      · exact List.lookup_cons_self
      · rw [List.lookup_cons, beq_false_of_ne hne]
        exact ih

/-- A report set twice is as it was set last. -/
theorem setReport_setReport (h : Handle) (r s : DirectReport)
    (reports : List (Handle × DirectReport)) :
    Channel.setReport h s (Channel.setReport h r reports) = Channel.setReport h s reports := by
  induction reports with
  | nil => simp [Channel.setReport]
  | cons p rest ih =>
    by_cases heq : h = p.1
    · simp [Channel.setReport, heq]
    · by_cases hlt : h < p.1
      · simp [Channel.setReport, heq, hlt]
      · simp [Channel.setReport, heq, hlt, ih]

theorem retune_enter_of_some {h : Handle} {r : DirectReport} (hr : c.report? h = some r)
    (fresh : DirectReport) (period : Int) :
    Command.retune h period (Command.enter h fresh c) =
      { c with reports := Channel.setReport h { r with period } c.reports } := by
  simp only [Command.enter, Command.retune, hr]

theorem retune_enter_of_none {h : Handle} (hr : c.report? h = none) (fresh : DirectReport) :
    Command.retune h fresh.period (Command.enter h fresh c) =
      { c with reports := Channel.setReport h fresh c.reports } := by
  have hfresh : Channel.report? { c with reports := Channel.setReport h fresh c.reports } h =
      some fresh := lookup_setReport h fresh c.reports
  simp only [Command.enter, Command.retune, hr, hfresh, setReport_setReport]

theorem channel_run (hc : hal.channel? n = some c) (k : Channel → Command α) :
    (Command.channel n >>= k) hal = k c hal := by
  rw [Command.channel]
  simp [hc]

theorem channel_run_unknown (hc : hal.channel? n = none) (k : Channel → Command α) :
    (Command.channel n >>= k) hal = (.error .badValue, hal) := by
  rw [Command.channel]
  simp [hc]

/-- Where each number belongs to one channel, changing that channel replaces it. -/
theorem ChannelsSound.adjustChannel_eq (hsound : hal.ChannelsSound) (hc : hal.channel? n = some c)
    (f : Channel → Channel) : hal.adjustChannel n f = hal.setChannel n (f c) := by
  rw [adjustChannel, setChannel]
  congr 1
  apply List.map_congr_left
  intro p hp
  by_cases hpn : p.1 = n
  · have hfound := lookup_of_mem (hsound.numbered.imp Int.ne_of_lt) hp
    rw [hpn] at hfound
    rw [Option.some.inj (hc.symm.trans hfound)]
  · simp [hpn]

theorem adjustChannel_setChannel (f : Channel → Channel) :
    (hal.setChannel n d).adjustChannel n f = hal.setChannel n (f d) := by
  rw [adjustChannel, setChannel, setChannel, List.map_map]
  congr 1
  apply List.map_congr_left
  intro p _
  simp only [Function.comp]
  by_cases hp : p.1 = n
  · simp [hp]
  · simp [hp]

theorem channel?_setChannel_self (hc : hal.channel? n = some c) :
    (hal.setChannel n d).channel? n = some d := by
  rw [channel?_setChannel, hc, Option.map_some, if_pos rfl]

end Reports

theorem carryOut_register (b : Behaviour) (hal : Hal) (now : Int) (kind : MemoryKind)
    (size memory : Nat) :
    Command.carryOut b now (.register kind size memory) hal =
      settled hal (hal.perform b now (.register kind size memory)) := by
  rw [Command.carryOut, Command.register, perform, register, Command.look_bind_run,
    Command.ite_run]
  split <;> rfl

theorem carryOut_unregister (b : Behaviour) (hal : Hal) (now n : Int) :
    Command.carryOut b now (.unregister n) hal =
      settled hal (hal.perform b now (.unregister n)) := by
  rw [Command.carryOut, Command.unregister, perform, unregister, Command.bind_bind_run,
    Command.look_bind_run, Command.bind_bind_run, Command.write_bind_run, Command.ite_bind_run]
  cases hc : hal.channel? n with
  | none =>
    -- nothing was there to remove
    have hsame : hal.channels.filter (·.1 ≠ n) = hal.channels := by
      apply List.filter_eq_self.2
      intro p hp
      exact decide_eq_true (Ne.symm (bne_iff_ne.1 (List.lookup_eq_none_iff.1 hc p hp)))
    rw [hsame]
    rfl
  | some c => rfl

theorem carryOut_report {hal : Hal} (hsound : hal.ChannelsSound) (htokens : hal.TokensGiven)
    (b : Behaviour) (now : Int) (h : Handle) (n : Int) (rate : Rate) :
    Command.carryOut b now (.report h n rate) hal =
      settled hal (hal.perform b now (.report h n rate)) := by
  rw [Command.carryOut, Command.report, perform, configReport]
  cases hs : hal.sensor? h with
  | none => rw [sensor_run_unknown hs]; rfl
  | some s =>
    rw [sensor_run hs, Command.look_bind_run]
    cases hc : hal.channel? n with
    | none => rw [channel_run_unknown hc]; rfl
    | some c =>
      rw [channel_run hc]
      cases hrate : rate.period? with
      | none =>
        dsimp only
        rw [Command.write_bind_run, hsound.adjustChannel_eq hc]
        rfl
      | some period =>
        dsimp only
        rw [Command.ite_run]
        split
        · rw [Command.write_bind_run, hsound.adjustChannel_eq hc, Command.write_bind_run,
            adjustChannel_setChannel, channel_run (channel?_setChannel_self hc)]
          cases hr : c.report? h with
          | some r =>
            -- an older report has an older token
            have hgiven := htokens _ (mem_of_channel? hc) (h, r) (mem_of_lookup hr)
            have hreport := lookup_setReport h { r with period } c.reports
            rw [retune_enter_of_some hr]
            simp only [Channel.report?, hreport, Option.elim_some]
            rw [if_neg (Int.ne_of_lt hgiven)]
            rfl
          | none =>
            have hreport := lookup_setReport h
              ⟨hal.nextToken, s.descriptor.kind, period, now + period, 1⟩ c.reports
            rw [retune_enter_of_none hr ⟨hal.nextToken, s.descriptor.kind, period, now + period, 1⟩]
            simp only [Channel.report?, hreport, Option.elim_some, if_true]
            rfl
        · rfl

/-! ## All calls -/

/-- What makes calls in place come to the same as `perform`. -/
structure Orderly (hal : Hal) : Prop where
  sensors : hal.Sound
  channels : hal.ChannelsSound
  tokens : hal.TokensGiven

theorem Orderly.step {hal : Hal} (h : hal.Orderly) (b : Behaviour) (m : Turn) :
    (hal.step b m).Orderly :=
  ⟨h.sensors.step b m, h.channels.step b m, h.tokens.step b m⟩

theorem ofCatalog_orderly (c : Catalog) (signal : Signal) : (ofCatalog c signal).Orderly :=
  ⟨ofCatalog_sound c signal, ofCatalog_channelsSound c signal, ofCatalog_tokensGiven c signal⟩

/-- A call carried out in place gives the reply of `perform` and its next state, or the state
before it if it is rejected. -/
theorem carryOut_eq {hal : Hal} (h : hal.Orderly) (b : Behaviour) (now : Int) (c : Call) :
    Command.carryOut b now c hal = settled hal (hal.perform b now c) := by
  cases c with
  | activate k on => exact carryOut_activate h.sensors b now k on
  | batch k period latency => exact carryOut_batch h.sensors b now k period latency
  | flush k => exact carryOut_flush h.sensors b now k
  | mode m => rfl
  | inject e => exact carryOut_inject b hal now e
  | register kind size memory => exact carryOut_register b hal now kind size memory
  | unregister n => exact carryOut_unregister b hal now n
  | report k n rate => exact carryOut_report h.channels h.tokens b now k n rate

end SensorBench.Hal
