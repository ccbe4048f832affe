import SensorBench.Proofs.Hal.Delivery

/-!
# No event is lost and none is delivered twice

Each turn keeps a balance: what is held for a handle and what is generated for it is
what is delivered, what is still held, and what is discarded, in this order
(`held_step`). Summed over a run, the samples delivered and still held are those
generated without those discarded. Injected events keep a balance of the same form
(`waiting_injections_step`).
-/

set_option autoImplicit false

namespace SensorBench.Hal

/-- One list is what is left of another without some elements: it keeps the order, and
together they have the same elements as often. -/
structure Remainder {α : Type} (kept gone all : List α) : Prop where
  sublist : kept.Sublist all
  perm : all.Perm (kept ++ gone)

/-- The samples in the buffer of a handle's sensor. -/
def buffered (hal : Hal) (h : Handle) : List Event :=
  match hal.sensor? h with
  | some s => s.buffer
  | none => []

/-- The samples that a HAL holds for a handle: those that wait, then the buffer. -/
def held (hal : Hal) (h : Handle) : List Event := samplesOf h hal.waiting ++ hal.buffered h

/-- The samples that a sensor takes in a turn: only the clock brings any. -/
def Sampler.emittedIn (s : Sampler) (measuring : Bool) (m : Turn) (signal : Signal) :
    List Event :=
  match m.input with
  | .advance => s.emitted measuring m.time signal
  | _ => []

/-- The samples that a turn generates for a handle. -/
def generated (b : Behaviour) (h : Handle) (hal : Hal) (m : Turn) : List Event :=
  match hal.sensor? h with
  | some s => s.emittedIn hal.measuring m (hal.signalFor b m.time h)
  | none => []

/-- The samples that a turn delivers for a handle. -/
def delivered (b : Behaviour) (h : Handle) (hal : Hal) (m : Turn) : List Event :=
  samplesOf h (hal.items b m)

/-- The samples of a handle that a turn discards: all that are held when a client
connects, and the buffer of a sensor that is switched off. -/
def discarded (h : Handle) (hal : Hal) (m : Turn) : List Event :=
  match m.input with
  | .connect _ _ => hal.held h
  | .call (.activate k false) =>
    if k = h ∧ (hal.sensor? h).any (·.enabled) then hal.buffered h else []
  | _ => []

/-- The injected events that a turn discards: those that wait when a client connects. -/
def discardedInjections (hal : Hal) (m : Turn) : List Event :=
  match m.input with
  | .connect _ _ => injectionsOf hal.waiting
  | _ => []

section Remainder

variable {α : Type} {kept gone all : List α}

theorem Remainder.refl (all : List α) : Remainder all [] all :=
  ⟨List.Sublist.refl _, (List.append_nil all).symm ▸ List.Perm.refl _⟩

/-- The balance of one turn put before a remainder. -/
theorem Remainder.turn {held all' out held' gone' : List α}
    (h : Remainder kept gone (held' ++ all)) (balance : held ++ all' = out ++ held' ++ gone') :
    Remainder (out ++ kept) (gone' ++ gone) (held ++ (all' ++ all)) := by
  have hall : held ++ (all' ++ all) = out ++ held' ++ gone' ++ all := by
    rw [← List.append_assoc, balance]
  rw [hall]
  constructor
  -- the discarded events of the turn stand behind what is kept
  · calc
      (out ++ kept).Sublist (out ++ (held' ++ all)) := h.sublist.append_left out
      _ = out ++ held' ++ all := (List.append_assoc _ _ _).symm
      (out ++ held' ++ all).Sublist (out ++ held' ++ gone' ++ all) :=
        (List.sublist_append_left _ gone').append_right all
  · calc
      (out ++ held' ++ gone' ++ all).Perm (out ++ held' ++ (all ++ gone')) := by
        rw [List.append_assoc]
        exact List.perm_append_comm.append_left _
      _ = out ++ (held' ++ all) ++ gone' := by simp only [List.append_assoc]
      (out ++ (held' ++ all) ++ gone').Perm (out ++ (kept ++ gone) ++ gone') :=
        (h.perm.append_left out).append_right gone'
      _ = out ++ kept ++ (gone ++ gone') := by simp only [List.append_assoc]
      (out ++ kept ++ (gone ++ gone')).Perm (out ++ kept ++ (gone' ++ gone)) :=
        List.perm_append_comm.append_left _

end Remainder

/-! ## Samples -/

/-- No sensor is about to replay an event. -/
def NoReplay (hal : Hal) : Prop := ∀ h s, hal.sensor? h = some s → s.replay = none

section Samples

variable {b : Behaviour}

theorem Sampler.Change.replay_eq_none {measuring : Bool} {m : Turn} {signal : Signal}
    {s t : Sampler} (hb : b.replayStaleEvents = false) (hs : s.replay = none)
    (h : Sampler.Change b measuring m signal s t) : t.replay = none := by
  cases h with
  | passed => exact hs
  | disconnected => rfl
  | switchedOn => simp [Sampler.switchOn, hb, hs]
  | switchedOff => exact hs
  | retuned period latency =>
    obtain ⟨-, -, -, -, -, -, -, hr⟩ := Sampler.release_facts (s.retune m.time period latency)
    exact hr.trans hs
  | flushRequested => exact hs
  | advanced => exact (Sampler.advance_facts b measuring m.time signal).2.2.2.2

theorem NoReplay.step (hb : b.replayStaleEvents = false) {hal : Hal} (h : hal.NoReplay)
    (m : Turn) : (hal.step b m).NoReplay :=
  forall_sensor?_step (fun hchange hs => hchange.replay_eq_none hb hs) h

theorem ofCatalog_noReplay (c : Catalog) (signal : Signal) : (ofCatalog c signal).NoReplay := by
  intro h s hs
  obtain ⟨d, -, rfl⟩ := initial_of_sensor? hs
  rfl

/-- The samples that a call moves are those of the sensor it names. -/
theorem samplesOf_moved {hal : Hal} (hsound : hal.Sound) (h : Handle) (m : Turn) :
    samplesOf h ((hal.moved m).map (⟨.sample, ·⟩)) =
      match m.input with
      | .call (.batch k _ _) => if k = h then hal.moved m else []
      | _ => [] := by
  obtain ⟨now, input⟩ := m
  cases input with
  | call c =>
    cases c with
    | batch k period latency =>
      -- what is moved was in the buffer of the sensor that the call names
      have hown : ∀ e ∈ hal.moved ⟨now, .call (.batch k period latency)⟩, e.handle = k := by
        intro e he
        obtain ⟨k', _, _, u, hi, hu, hbuf⟩ := mem_moved he
        cases hi
        exact ((hsound.of_sensor? hu).buffered e hbuf).1.trans (handle_of_sensor? hu)
      dsimp only
      split
      · next hk => exact samplesOf_map rfl fun e he => (hown e he).trans hk
      · next hk =>
        apply samplesOf_eq_nil
        intro i hi hh
        obtain ⟨e, he, rfl⟩ := List.mem_map.1 hi
        exact absurd ((hown e he).symm.trans hh) hk
    | _ => rfl
  | _ => rfl

theorem samplesOf_injections (h : Handle) (es : List Event) :
    samplesOf h (es.map (⟨.injection, ·⟩)) = [] := by
  apply samplesOf_eq_nil
  intro i hi _
  obtain ⟨e, -, rfl⟩ := List.mem_map.1 hi
  rfl

theorem samplesOf_waiting_step {hal : Hal} (b : Behaviour) (h : Handle) (m : Turn) :
    samplesOf h (hal.step b m).waiting =
      (if m.input.empties then [] else samplesOf h hal.waiting) ++
        samplesOf h ((hal.moved m).map (⟨.sample, ·⟩)) := by
  rw [waiting_step, samplesOf_append, samplesOf_append, samplesOf_injections, List.append_nil]
  split <;> rfl

/-- A call takes from a buffer what it moves to the waiting items and what it
discards. -/
theorem buffered_step {hal : Hal} (hsound : hal.Sound) (b : Behaviour) (h : Handle) {m : Turn}
    (hm : m.input.empties = false) :
    hal.buffered h = samplesOf h ((hal.moved m).map (⟨.sample, ·⟩)) ++
      (hal.step b m).buffered h ++ discarded h hal m := by
  rw [samplesOf_moved hsound]
  cases hs : hal.sensor? h with
  | none =>
    have hbuf : hal.buffered h = [] := by rw [buffered, hs]
    have hbuf' : (hal.step b m).buffered h = [] := by
      rw [buffered, sensor?_step_eq_none hs b m]
    -- without a sensor nothing is buffered, moved or discarded
    have hdis : discarded h hal m = [] := by
      rw [discarded]
      split
      · next hi => rw [hi] at hm; cases hm
      · rw [hbuf, ite_self]
      · rfl
    rw [hbuf, hbuf', hdis]
    split
    · next k period latency hi =>
      by_cases hk : k = h
      · subst hk
        simp [moved, hi, hs]
      · simp [hk]
    · rfl
  | some s =>
    obtain ⟨t, ht, hchange⟩ := change_step hs b m
    have hh := handle_of_sensor? hs
    have hbuf : hal.buffered h = s.buffer := by rw [buffered, hs]
    have hbuf' : (hal.step b m).buffered h = t.buffer := by rw [buffered, ht]
    rw [hbuf']
    obtain ⟨now, input⟩ := m
    cases hchange with
    | disconnected queue isOpen hi =>
      cases hi
      cases hm
    | advanced hi =>
      cases hi
      cases hm
    | switchedOn hi _ =>
      cases hi
      simp [hbuf, discarded, Sampler.switchOn]
    | switchedOff hi he =>
      cases hi
      simp [hbuf, discarded, Sampler.switchOff, Sampler.clearBuffer, hh, hs, he]
    | flushRequested hi =>
      cases hi
      simp [hbuf, discarded, Sampler.requestFlush]
    | retuned period latency hi hp hl =>
      cases hi
      have hr : ¬(period < 0 ∨ latency < 0) := by omega
      have hrel := Sampler.released_append_buffer_release (s.retune now period latency)
      -- what the retuning releases and what it leaves make up the buffer
      simp only [hh, if_true, moved, hr, if_false, hs, discarded, List.append_nil, hrel, hbuf]
      rfl
    | passed hi =>
      have hdis : discarded h hal ⟨now, input⟩ = [] := by
        rw [discarded]
        split
        · next he =>
          cases he
          cases hm
        · next k he =>
          cases he
          apply if_neg
          intro hk
          have hoff : s.enabled = false := hi (hk.1.trans hh.symm)
          simp [hs, hoff] at hk
        · rfl
      rw [hdis, List.append_nil, hbuf]
      split
      · next k period latency he =>
        cases he
        split
        · next hk => simp [moved, hi (hk.trans hh.symm)]
        · rfl
      · rfl

theorem Sampler.emittedIn_of_ne_advance {s : Sampler} {measuring : Bool} {m : Turn}
    {signal : Signal} (hm : m.input ≠ .advance) : s.emittedIn measuring m signal = [] := by
  rw [Sampler.emittedIn]
  split
  · next h => exact absurd h hm
  · rfl

theorem generated_of_sensor? {hal : Hal} {h : Handle} {s : Sampler} (hs : hal.sensor? h = some s)
    (b : Behaviour) (m : Turn) :
    generated b h hal m = s.emittedIn hal.measuring m (hal.signalFor b m.time h) := by
  rw [generated, hs]

theorem generated_of_none {hal : Hal} {h : Handle} (hs : hal.sensor? h = none) (b : Behaviour)
    (m : Turn) : generated b h hal m = [] := by
  rw [generated, hs]

theorem delivered_of_ne_advance {b : Behaviour} {h : Handle} {hal : Hal} {m : Turn}
    (hm : m.input ≠ .advance) : delivered b h hal m = [] ∧ generated b h hal m = [] := by
  constructor
  · rw [delivered, items]
    split
    · next hi => exact absurd hi hm
    · rfl
  · cases hs : hal.sensor? h with
    | none => exact generated_of_none hs b m
    | some s =>
      rw [generated_of_sensor? hs]
      exact Sampler.emittedIn_of_ne_advance hm

theorem samplesOf_advance {hal : Hal} (hsound : hal.Sound) {h : Handle} {s : Sampler}
    (hs : hal.sensor? h = some s) (b : Behaviour) (now : Int) :
    samplesOf h (hal.advance b now).1 = samplesOf h hal.waiting ++
      samplesOf h (s.advance b hal.measuring now (hal.signalFor b now h)).1 := by
  have hown := (hsound.of_sensor? hs).advance_own b hal.measuring now (hal.signalFor b now h)
  have hself : itemsOf h (s.advance b hal.measuring now (hal.signalFor b now h)).1 =
      (s.advance b hal.measuring now (hal.signalFor b now h)).1 :=
    itemsOf_eq_self fun i hi => (hown i hi).1.trans (handle_of_sensor? hs)
  rw [samplesOf, itemsOf_advance hsound hs, List.filter_append, List.map_append, samplesOf,
    samplesOf, hself]

/-- The balance of one turn of the clock. -/
theorem held_advance {hal : Hal} (hsound : hal.Sound) (hreplay : hal.NoReplay) (h : Handle)
    (b : Behaviour) (now : Int) :
    hal.held h ++ generated b h hal ⟨now, .advance⟩ =
      delivered b h hal ⟨now, .advance⟩ ++ (hal.step b ⟨now, .advance⟩).buffered h := by
  show _ = samplesOf h (hal.advance b now).1 ++ (hal.advance b now).2.buffered h
  cases hs : hal.sensor? h with
  | none =>
    have hitems : samplesOf h (hal.advance b now).1 = samplesOf h hal.waiting := by
      rw [samplesOf, itemsOf_advance_of_none hsound hs, samplesOf]
    rw [hitems, held, buffered, hs, generated_of_none hs, buffered, sensor?_advance, hs]
    exact List.append_nil _
  | some s =>
    have hsnd := hsound.of_sensor? hs
    have hh := handle_of_sensor? hs
    rw [samplesOf_advance hsound hs, held, buffered, hs, generated_of_sensor? hs, buffered,
      sensor?_advance, hs]
    dsimp only [Option.map_some, Sampler.emittedIn]
    obtain ⟨out, hitems, hbal, -⟩ :=
      hsnd.advance_spec b hal.measuring now (hal.signalFor b now h)
    -- of the sensor's items the samples count, and the markers do not
    have hout : samplesOf h (out.map (⟨.sample, ·⟩)) = out :=
      samplesOf_map rfl fun e he =>
        (hsnd.advance_out_measured _ _ _ hbal e he).1.trans hh
    have hmarkers : ∀ n, samplesOf h (List.replicate n ⟨.marker, .flushMarker s.handle now⟩) = [] :=
      fun n => samplesOf_eq_nil fun i hi _ => by rw [List.eq_of_mem_replicate hi]; rfl
    rw [hitems, hreplay h s hs, samplesOf_append, samplesOf_append, hout, hmarkers,
      List.append_assoc, hbal]
    simp only [Option.toList_none, List.map_nil, List.append_nil, List.append_assoc]
    rfl

/-- The balance of one turn. -/
theorem held_step {hal : Hal} (hsound : hal.Sound) (hreplay : hal.NoReplay) (b : Behaviour)
    (h : Handle) (m : Turn) :
    hal.held h ++ generated b h hal m =
      delivered b h hal m ++ (hal.step b m).held h ++ discarded h hal m := by
  have hheld : (hal.step b m).held h = (if m.input.empties then [] else samplesOf h hal.waiting) ++
      samplesOf h ((hal.moved m).map (⟨.sample, ·⟩)) ++ (hal.step b m).buffered h := by
    rw [held, samplesOf_waiting_step]
  rw [hheld]
  -- calls move and discard, while the clock and a new client empty what waits
  cases hm : m.input.empties with
  | false =>
    -- a call delivers and generates nothing, it only moves and discards
    have hadv : m.input ≠ .advance := fun e => by
      rw [e] at hm
      cases hm
    have hnone : delivered b h hal m = [] ∧ generated b h hal m = [] :=
      delivered_of_ne_advance hadv
    rw [held, hnone.1, hnone.2, buffered_step hsound b h hm]
    simp only [Bool.false_eq_true, if_false, List.append_nil, List.nil_append, List.append_assoc]
  | true =>
    obtain ⟨now, input⟩ := m
    cases input with
    | connect queue isOpen =>
      have hbuf : (hal.connect b queue isOpen).buffered h = [] := by
        rw [buffered, sensor?_connect]
        cases hal.sensor? h <;> rfl
      have hnone : generated b h hal ⟨now, .connect queue isOpen⟩ = [] :=
        (delivered_of_ne_advance Input.noConfusion).2
      show hal.held h ++ _ = [] ++ ([] ++ [] ++ (hal.connect b queue isOpen).buffered h) ++
        hal.held h
      rw [hnone, hbuf, List.append_nil]
      rfl
    | advance => exact (held_advance hsound hreplay h b now).trans (List.append_nil _).symm
    | call => cases hm
    | allocate => cases hm
    | write => cases hm

/-! ## Injected events -/

/-- The balance of one turn for injected events. -/
theorem waiting_injections_step {hal : Hal} (hsound : hal.Sound) (b : Behaviour) (m : Turn) :
    injectionsOf hal.waiting ++ hal.accepted m =
      injectionsOf (hal.items b m) ++ injectionsOf (hal.step b m).waiting ++
        discardedInjections hal m := by
  have hmoved : injectionsOf ((hal.moved m).map (⟨.sample, ·⟩)) = [] := by
    simp [injectionsOf, List.filter_map]
  have haccepted : injectionsOf ((hal.accepted m).map (⟨.injection, ·⟩)) = hal.accepted m := by
    simp [injectionsOf, List.filter_map, Function.comp_def]
  rw [waiting_step, injectionsOf_append, injectionsOf_append, hmoved, haccepted, List.append_nil]
  obtain ⟨now, input⟩ := m
  cases input with
  | connect queue isOpen => exact List.append_nil _
  | advance =>
    show _ = injectionsOf (hal.advance b now).1 ++ [] ++ []
    rw [injectionsOf_advance hsound, List.append_nil]
    rfl
  | _ => exact (List.append_nil _).symm

end Samples

/-! ## Runs -/

section Runs

variable {b : Behaviour}

/-- From any sound state on, the samples delivered and still held are those held at
first and generated since, without those discarded. -/
theorem remainder_samples (hb : b.replayStaleEvents = false) {hal : Hal} (hsound : hal.Sound)
    (hreplay : hal.NoReplay) (h : Handle) (ms : List Turn) :
    Remainder (along b (delivered b h) hal ms ++ (hal.run b ms).held h)
      (along b (discarded h) hal ms) (hal.held h ++ along b (generated b h) hal ms) := by
  induction ms generalizing hal with
  | nil =>
    show Remainder ([] ++ hal.held h) [] (hal.held h ++ [])
    rw [List.nil_append, List.append_nil]
    exact Remainder.refl _
  | cons m rest ih =>
    -- the balance of the first turn is put before that of the rest
    have hrest := ih (hsound.step b m) (hreplay.step hb m)
    have hturn := hrest.turn (held_step hsound hreplay b h m)
    rwa [← List.append_assoc] at hturn

theorem remainder_injections {hal : Hal} (hsound : hal.Sound) (ms : List Turn) :
    Remainder
      (along b (fun hal m => injectionsOf (hal.items b m)) hal ms ++
        injectionsOf (hal.run b ms).waiting)
      (along b discardedInjections hal ms)
      (injectionsOf hal.waiting ++ along b accepted hal ms) := by
  induction ms generalizing hal with
  | nil =>
    show Remainder ([] ++ injectionsOf hal.waiting) [] (injectionsOf hal.waiting ++ [])
    rw [List.nil_append, List.append_nil]
    exact Remainder.refl _
  | cons m rest ih =>
    have hturn := (ih (hsound.step b m)).turn (waiting_injections_step hsound b m)
    rwa [← List.append_assoc] at hturn

theorem ofCatalog_held (c : Catalog) (signal : Signal) (h : Handle) :
    (ofCatalog c signal).held h = [] := by
  rw [held, buffered]
  cases hs : (ofCatalog c signal).sensor? h with
  | none => rfl
  | some s =>
    obtain ⟨d, -, rfl⟩ := initial_of_sensor? hs
    rfl

/-- From a fresh HAL on, the samples delivered and still held are those generated,
without those discarded. -/
theorem remainder_samples_ofCatalog (c : Catalog) (signal : Signal)
    (hb : b.replayStaleEvents = false) (ms : List Turn) (h : Handle) :
    Remainder
      (along b (delivered b h) (ofCatalog c signal) ms ++ ((ofCatalog c signal).run b ms).held h)
      (along b (discarded h) (ofCatalog c signal) ms)
      (along b (generated b h) (ofCatalog c signal) ms) := by
  have hrun := remainder_samples hb (ofCatalog_sound c signal) (ofCatalog_noReplay c signal) h ms
  rwa [ofCatalog_held, List.nil_append] at hrun

/-- In every run from a fresh HAL that replays nothing, the samples generated for a
handle are delivered or still held, once each and in the order of their generation,
except those discarded; and so are the injected events that were accepted. -/
theorem events_conserved (c : Catalog) (signal : Signal) (hb : b.replayStaleEvents = false)
    (ms : List Turn) :
    (∀ h, Remainder
        (along b (delivered b h) (ofCatalog c signal) ms ++ ((ofCatalog c signal).run b ms).held h)
        (along b (discarded h) (ofCatalog c signal) ms)
        (along b (generated b h) (ofCatalog c signal) ms)) ∧
      Remainder
        (along b (fun hal m => injectionsOf (hal.items b m)) (ofCatalog c signal) ms ++
          injectionsOf ((ofCatalog c signal).run b ms).waiting)
        (along b discardedInjections (ofCatalog c signal) ms)
        (along b accepted (ofCatalog c signal) ms) :=
  ⟨remainder_samples_ofCatalog c signal hb ms, remainder_injections (ofCatalog_sound c signal) ms⟩

end Runs

/-- Two samples held back and moved by a retuning, one discarded with its sensor switched
off, four delivered from a full buffer, one event injected and delivered, and one
injected and discarded. -/
def busyRun : List Turn :=
  let h := barometer.handle
  let e : Event := ⟨h, .pressure, 1, .scalar 1000.0⟩
  [⟨0, .connect 0 true⟩, ⟨0, .call (.batch h 0 1000000000)⟩, ⟨0, .call (.activate h true)⟩,
    ⟨12000000, .advance⟩, ⟨12000000, .call (.batch h 0 0)⟩,
    ⟨12000000, .call (.batch h 0 1000000000)⟩, ⟨17000000, .advance⟩,
    ⟨17000000, .call (.activate h false)⟩, ⟨17000000, .call (.activate h true)⟩,
    ⟨37000000, .advance⟩, ⟨37000000, .call (.mode .dataInjection)⟩, ⟨37000000, .call (.inject e)⟩,
    ⟨38000000, .advance⟩, ⟨38000000, .call (.inject e)⟩, ⟨38000000, .connect 1 true⟩]

theorem events_conserved_busyRun :
    let hal := ofCatalog [barometer] silence
    let h := barometer.handle
    ({} : Behaviour).replayStaleEvents = false ∧
      Remainder (along {} (delivered {} h) hal busyRun ++ (hal.run {} busyRun).held h)
        (along {} (discarded h) hal busyRun) (along {} (generated {} h) hal busyRun) ∧
      (along {} (generated {} h) hal busyRun).map (·.time) =
        [5000000, 10000000, 15000000, 22000000, 27000000, 32000000, 37000000] ∧
      (along {} (delivered {} h) hal busyRun).map (·.time) =
        [5000000, 10000000, 22000000, 27000000, 32000000, 37000000] ∧
      (along {} (discarded h) hal busyRun).map (·.time) = [15000000] ∧
      (along {} accepted hal busyRun).map (·.time) = [1, 1] ∧
      (along {} discardedInjections hal busyRun).map (·.time) = [1] :=
  ⟨rfl, (events_conserved [barometer] silence rfl busyRun).1 barometer.handle, by decide,
    by decide, by decide, by decide, by decide⟩

end SensorBench.Hal
