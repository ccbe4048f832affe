import SensorBench.Proofs.Hal.Spacing

/-!
# Flushes are answered

A HAL owes the markers of each flush that it accepts until it delivers them or a client
connects (`markers_step`); a healthy one owes one marker for each (`pending_step`). In a
batch nothing of a sensor follows its markers, and with them all that was held for the
sensor is out (`marker_last`).
-/

set_option autoImplicit false

namespace SensorBench.Hal

/-- A behaviour that gives one marker for each flush. -/
structure Answers (b : Behaviour) : Prop where
  drops_none : b.dropFlushMarkers = false
  doubles_none : b.duplicateFlushMarkers = false

theorem Answers.markerCount {b : Behaviour} (h : Answers b) (n : Nat) :
    Sampler.markerCount b n = n := by
  simp [Sampler.markerCount, h.drops_none, h.doubles_none]

/-- The markers for one handle among some items. -/
def markersOf (h : Handle) (items : List Item) : List Item :=
  (itemsOf h items).filter (·.event.isFlushMarker)

/-- The flushes that a turn gets accepted for a handle. -/
def flushesIn (h : Handle) (hal : Hal) (m : Turn) : List Handle :=
  match m.input with
  | .call (.flush k) => if k = h && (hal.flush k).isOk then [k] else []
  | _ => []

/-- The flushes that still wait for their markers. -/
def pending (hal : Hal) (h : Handle) : Nat :=
  match hal.sensor? h with
  | some s => s.pendingFlushes
  | none => 0

/-- Whether a client connects in the turn. -/
def Turn.connects (m : Turn) : Bool :=
  match m.input with
  | .connect _ _ => true
  | _ => false

/-- The turn injects no flush marker. -/
def Turn.InjectsNoMarker (m : Turn) : Prop :=
  ∀ e, m.input = .call (.inject e) → e.isFlushMarker = false

/-- The later turns are those since a client last connected, all turns if none did. -/
def SinceConnect (early late : List Turn) : Prop :=
  (early = [] ∨ ∃ first time queue isOpen, early = first ++ [⟨time, .connect queue isOpen⟩]) ∧
    ∀ m ∈ late, m.connects = false

/-- No marker waits to be delivered. -/
def Unmarked (hal : Hal) : Prop := ∀ i ∈ hal.waiting, i.event.isFlushMarker = false

theorem Unmarked.step {hal : Hal} (hsound : hal.Sound) (h : hal.Unmarked) (b : Behaviour)
    {m : Turn} (hm : m.InjectsNoMarker) : (hal.step b m).Unmarked := by
  intro i hi
  rw [waiting_step] at hi
  rcases List.mem_append.1 hi with hi | hi
  · rcases List.mem_append.1 hi with hi | hi
    · split at hi
      · exact absurd hi List.not_mem_nil
      · exact h i hi
    · obtain ⟨e, he, rfl⟩ := List.mem_map.1 hi
      -- what a call moves was measured
      obtain ⟨_, _, _, s, -, hs, hbuf⟩ := mem_moved he
      exact ((hsound.of_sensor? hs).buffered e hbuf).not_isFlushMarker
  · obtain ⟨e, he, rfl⟩ := List.mem_map.1 hi
    exact hm e (mem_accepted he)

theorem Unmarked.markersOf_waiting {hal : Hal} (h : hal.Unmarked) (k : Handle) :
    markersOf k hal.waiting = [] :=
  List.filter_eq_nil_iff.2 fun i hi => by simp [h i (List.mem_filter.1 hi).1]

namespace Sampler

variable {s : Sampler} {b : Behaviour} (measuring : Bool) (now : Int) (signal : Signal)

/-- What a sensor delivers is first measured events and then markers. -/
theorem Sound.advance_split (hs : s.Sound) :
    ∃ first : List Item,
      (s.advance b measuring now signal).1 = first ++
          List.replicate (markerCount b s.pendingFlushes) ⟨.marker, .flushMarker s.handle now⟩ ∧
        ∀ i ∈ first, i.event.isFlushMarker = false := by
  obtain ⟨out, hitems, hbal, -⟩ := hs.advance_spec b measuring now signal
  refine ⟨_, hitems, fun i hi => ?_⟩
  rcases List.mem_append.1 hi with hi | hi
  · obtain ⟨e, he, rfl⟩ := List.mem_map.1 hi
    exact (hs.replayed e (Option.mem_toList.1 he)).not_isFlushMarker
  · obtain ⟨e, he, rfl⟩ := List.mem_map.1 hi
    exact (hs.advance_out_measured measuring now signal hbal e he).not_isFlushMarker

end Sampler

section Turns

variable {b : Behaviour} {hal : Hal} {h : Handle}

/-- The items for a handle in a batch: what comes before its markers, then the markers for
its pending flushes. -/
theorem itemsOf_split (hsound : hal.Sound) (hunmarked : hal.Unmarked) (b : Behaviour)
    {s : Sampler} (hs : hal.sensor? h = some s) (now : Int) :
    ∃ first : List Item,
      itemsOf h (hal.advance b now).1 = first ++
          List.replicate (Sampler.markerCount b s.pendingFlushes)
            ⟨.marker, .flushMarker h now⟩ ∧
        ∀ i ∈ first, i.event.isFlushMarker = false := by
  obtain ⟨first, hitems, hfirst⟩ := (hsound.of_sensor? hs).advance_split hal.measuring now
    (hal.signalFor b now h)
  refine ⟨itemsOf h hal.waiting ++ first, ?_, fun i hi => ?_⟩
  · rw [itemsOf_advance hsound hs, hitems, handle_of_sensor? hs, List.append_assoc]
  · rcases List.mem_append.1 hi with hi | hi
    · exact hunmarked i (List.mem_filter.1 hi).1
    · exact hfirst i hi

theorem markersOf_advance (hsound : hal.Sound) (hunmarked : hal.Unmarked) (b : Behaviour)
    (now : Int) :
    (markersOf h (hal.advance b now).1).length = Sampler.markerCount b (hal.pending h) := by
  cases hs : hal.sensor? h with
  | none =>
    have hnone : markersOf h (hal.advance b now).1 = markersOf h hal.waiting := by
      rw [markersOf, itemsOf_advance_of_none hsound hs, markersOf]
    -- no sensor, no marker: what waits is none by assumption
    rw [hnone, hunmarked.markersOf_waiting, pending, hs]
    exact (Sampler.markerCount_zero b).symm
  | some s =>
    obtain ⟨first, hitems, hfirst⟩ := itemsOf_split hsound hunmarked b hs now
    -- the markers are those that the sensor answers with
    have hnil : first.filter (·.event.isFlushMarker) = [] :=
      List.filter_eq_nil_iff.2 fun i hi => by simp [hfirst i hi]
    rw [markersOf, hitems, List.filter_append, hnil, pending, hs]
    simp [Event.flushMarker, Event.isFlushMarker, Payload.isMeta]

theorem items_of_ne_advance {m : Turn} (hm : m.input ≠ .advance) : hal.items b m = [] := by
  rw [items]
  split
  · next hi => exact absurd hi hm
  · rfl

theorem flushesIn_of_none (hs : hal.sensor? h = none) (m : Turn) : flushesIn h hal m = [] := by
  rw [flushesIn]
  split
  · next k hi =>
    by_cases hk : k = h
    · subst hk
      simp [flush, hs, Except.isOk, Except.toBool]
    · simp [hk]
  · rfl

/-- A flush is accepted of an enabled sensor that reports more than once. -/
theorem flushesIn_of_sensor? {s : Sampler} (hs : hal.sensor? h = some s) (now : Int)
    (k : Handle) :
    flushesIn h hal ⟨now, .call (.flush k)⟩ =
      if k = h ∧ s.descriptor.isOneShot = false ∧ s.enabled = true then [k] else [] := by
  rw [flushesIn]
  by_cases hk : k = h
  · subst hk
    cases hone : s.descriptor.isOneShot <;> cases hen : s.enabled <;>
      simp [flush, hs, hone, hen, Except.isOk, Except.toBool]
  · simp [hk]

theorem flushesIn_of_ignores {s : Sampler} (hs : hal.sensor? h = some s) {m : Turn}
    (hm : s.Ignores m.input) : flushesIn h hal m = [] := by
  obtain ⟨now, input⟩ := m
  cases input with
  | call c =>
    cases c with
    | flush k =>
      rw [flushesIn_of_sensor? hs]
      apply if_neg
      intro hk
      rcases hm (hk.1.trans (handle_of_sensor? hs).symm) with hone | hoff
      · exact absurd (hone.symm.trans hk.2.1) (by decide)
      · exact absurd (hoff.symm.trans hk.2.2) (by decide)
    | _ => rfl
  | _ => rfl

/-- What is owed for a handle and what is asked for is what is answered and what is still
owed, as long as no client connects; each flush is worth the markers that it brings. -/
theorem markers_step (hsound : hal.Sound) (hunmarked : hal.Unmarked) (b : Behaviour) {m : Turn}
    (hm : m.connects = false) :
    (hal.pending h + (flushesIn h hal m).length) * Sampler.markerCount b 1 =
      (markersOf h (hal.items b m)).length +
        (hal.step b m).pending h * Sampler.markerCount b 1 := by
  cases hs : hal.sensor? h with
  | none =>
    have hzero : hal.pending h = 0 := by rw [pending, hs]
    have hzero' : (hal.step b m).pending h = 0 := by rw [pending, sensor?_step_eq_none hs b m]
    have hanswer : (markersOf h (hal.items b m)).length = 0 := by
      obtain ⟨now, input⟩ := m
      cases input with
      | advance =>
        refine (markersOf_advance hsound hunmarked b now).trans ?_
        rw [hzero]
        exact Sampler.markerCount_zero b
      | _ => rfl
    rw [flushesIn_of_none hs, hzero, hzero', hanswer]
    exact (Nat.zero_add _).symm
  | some s =>
    obtain ⟨t, ht, hchange⟩ := change_step hs b m
    have hp : hal.pending h = s.pendingFlushes := by rw [pending, hs]
    have hp' : (hal.step b m).pending h = t.pendingFlushes := by rw [pending, ht]
    obtain ⟨now, input⟩ := m
    cases hchange with
    -- all that is owed is answered
    | advanced hi =>
      cases hi
      have hanswer : (markersOf h (hal.items b ⟨now, .advance⟩)).length =
          hal.pending h * Sampler.markerCount b 1 :=
        (markersOf_advance hsound hunmarked b now).trans (Sampler.markerCount_eq_mul b _)
      rw [hp', hanswer, (Sampler.advance_facts b hal.measuring now _).2.2.2.1, Nat.zero_mul]
      rfl
    | disconnected queue isOpen hi =>
      cases hi
      cases hm
    | passed hi =>
      have hne : input ≠ .advance := fun e => by
        rw [e] at hi
        exact hi
      rw [flushesIn_of_ignores hs hi, items_of_ne_advance hne, hp, hp']
      exact (Nat.zero_add _).symm
    | switchedOn hi =>
      cases hi
      rw [hp, hp']
      exact (Nat.zero_add _).symm
    | switchedOff hi =>
      cases hi
      rw [hp, hp']
      exact (Nat.zero_add _).symm
    | retuned period latency hi =>
      cases hi
      obtain ⟨-, -, -, -, -, hf, -⟩ := Sampler.release_facts (s.retune now period latency)
      rw [hp, hp', hf]
      exact (Nat.zero_add _).symm
    -- one flush more is accepted and owed
    | flushRequested hi hone hen =>
      cases hi
      rw [flushesIn_of_sensor? hs, if_pos ⟨handle_of_sensor? hs, hone, hen⟩, hp, hp']
      exact (Nat.zero_add _).symm

/-- Where each flush brings one marker, flushes and markers balance. -/
theorem pending_step (hsound : hal.Sound) (hunmarked : hal.Unmarked) (hb : Answers b) {m : Turn}
    (hm : m.connects = false) :
    hal.pending h + (flushesIn h hal m).length =
      (markersOf h (hal.items b m)).length + (hal.step b m).pending h := by
  have hstep := markers_step (h := h) hsound hunmarked b hm
  rwa [hb.markerCount, Nat.mul_one, Nat.mul_one] at hstep

theorem pending_connect (b : Behaviour) (hal : Hal) (queue : Nat) (isOpen : Bool) (h : Handle) :
    (hal.connect b queue isOpen).pending h = 0 := by
  rw [pending, sensor?_connect]
  cases hal.sensor? h <;> rfl

/-- A list that goes on after an element that the first part of it lacks goes on within
the last part. -/
theorem mem_of_append_cons_eq {α : Type} {before after first last : List α} {x : α}
    (h : before ++ x :: after = first ++ last) (hx : x ∉ first) : ∀ y ∈ x :: after, y ∈ last := by
  intro y hy
  rcases List.append_eq_append_iff.1 h with ⟨mid, hfirst, hlast⟩ | ⟨mid, -, hlast⟩
  · cases mid with
    | nil =>
      rw [List.nil_append] at hlast
      exact hlast ▸ hy
    | cons z rest =>
      -- the element would stand in the first part
      obtain ⟨rfl, -⟩ := List.cons.inj hlast
      rw [hfirst] at hx
      exact absurd (List.mem_append_right before List.mem_cons_self) hx
  · rw [hlast]
    exact List.mem_append_right mid hy

/-- After a marker nothing but markers comes for its handle, and the sensor it answers for
was asked for it. -/
theorem marker_last (hsound : hal.Sound) (hunmarked : hal.Unmarked) (hb : Answers b) {now : Int}
    {before after : List Item} {marker : Item}
    (hitems : (hal.advance b now).1 = before ++ marker :: after)
    (hmarker : marker.event.isFlushMarker = true) (hh : marker.event.handle = h) :
    samplesOf h (marker :: after) = [] ∧
      ∃ s, hal.sensor? h = some s ∧ 0 < s.pendingFlushes := by
  have hcons : itemsOf h (marker :: after) = marker :: itemsOf h after :=
    List.filter_cons_of_pos (by simpa using hh)
  have hown : itemsOf h (hal.advance b now).1 =
      itemsOf h before ++ marker :: itemsOf h after := by
    rw [hitems, itemsOf_append, hcons]
  cases hs : hal.sensor? h with
  | none =>
    rw [itemsOf_advance_of_none hsound hs] at hown
    -- the marker would have waited, but none does
    have hwaits : marker ∈ itemsOf h hal.waiting := by
      rw [hown]
      exact List.mem_append_right _ List.mem_cons_self
    rw [hunmarked marker (List.mem_filter.1 hwaits).1] at hmarker
    cases hmarker
  | some s =>
    obtain ⟨first, hsplit, hfirst⟩ := itemsOf_split hsound hunmarked b hs now
    rw [hb.markerCount] at hsplit
    have hout : marker ∉ first := fun hmem => by
      rw [hfirst marker hmem] at hmarker
      cases hmarker
    -- from the marker on there is only what answers flushes
    have hlast := mem_of_append_cons_eq (hown.symm.trans hsplit) hout
    refine ⟨samplesOf_eq_nil fun i hi hi' => ?_, s, rfl, ?_⟩
    · have hmem : i ∈ itemsOf h (marker :: after) := List.mem_filter.2 ⟨hi, decide_eq_true hi'⟩
      rw [hcons] at hmem
      rw [List.eq_of_mem_replicate (hlast i hmem)]
      rfl
    · exact Nat.pos_of_ne_zero (List.mem_replicate.1 (hlast marker List.mem_cons_self)).1

/-- A sensor that answers flushes lets go of all that is held for it. -/
theorem held_advance_eq_nil (hsound : hal.Sound) {s : Sampler} (hs : hal.sensor? h = some s)
    (hpos : 0 < s.pendingFlushes) (now : Int) : (hal.advance b now).2.held h = [] := by
  have hempty : ((hal.advance b now).2).waiting = [] := rfl
  obtain ⟨_, -, -, hbuffer⟩ :=
    (hsound.of_sensor? hs).advance_spec b hal.measuring now (hal.signalFor b now h)
  rw [held, hempty, buffered, sensor?_advance, hs]
  exact hbuffer hpos

/-- Once a HAL that measures has come to some time, every sensor is next due after it. -/
theorem advance_dueAfter (hsound : hal.Sound) (hmode : hal.mode = .normal) (now : Int)
    {t : Sampler} (ht : (hal.advance b now).2.sensor? h = some t) : t.DueAfter now := by
  rw [sensor?_advance] at ht
  obtain ⟨s, hs, rfl⟩ := Option.map_eq_some_iff.1 ht
  intro hon
  obtain ⟨-, -, -, hdue⟩ := (hsound.of_sensor? hs).advance_schedule b hal.measuring now _ hon
  exact hdue (decide_eq_true hmode)

end Turns

/-! ## Runs -/

section Runs

variable {b : Behaviour} {hal : Hal} {h : Handle}

theorem Unmarked.run (hsound : hal.Sound) (hunmarked : hal.Unmarked) {ms : List Turn}
    (hms : ∀ m ∈ ms, m.InjectsNoMarker) : (hal.run b ms).Unmarked := by
  induction ms generalizing hal with
  | nil => exact hunmarked
  | cons m rest ih =>
    exact ih (hsound.step b m) (hunmarked.step hsound b (hms m List.mem_cons_self))
      fun n hn => hms n (List.mem_cons_of_mem m hn)

/-- The balance of flushes and markers over a run in which no client connects. -/
theorem pending_run (hsound : hal.Sound) (hunmarked : hal.Unmarked) (hb : Answers b)
    {ms : List Turn} (hms : ∀ m ∈ ms, m.InjectsNoMarker)
    (hconnects : ∀ m ∈ ms, m.connects = false) :
    hal.pending h + (along b (flushesIn h) hal ms).length =
      (along b (fun hal m => markersOf h (hal.items b m)) hal ms).length +
        (hal.run b ms).pending h := by
  induction ms generalizing hal with
  | nil => exact Nat.add_comm _ _
  | cons m rest ih =>
    have hturn := pending_step (h := h) hsound hunmarked hb (hconnects m List.mem_cons_self)
    have hrest := ih (hsound.step b m)
      (hunmarked.step hsound b (hms m List.mem_cons_self))
      (fun n hn => hms n (List.mem_cons_of_mem m hn))
      (fun n hn => hconnects n (List.mem_cons_of_mem m hn))
    show hal.pending h + (flushesIn h hal m ++ along b (flushesIn h) (hal.step b m) rest).length =
      (markersOf h (hal.items b m) ++ along b (fun hal m => markersOf h (hal.items b m))
        (hal.step b m) rest).length + ((hal.step b m).run b rest).pending h
    rw [List.length_append, List.length_append]
    omega

theorem ofCatalog_unmarked (c : Catalog) (signal : Signal) : (ofCatalog c signal).Unmarked :=
  fun _ hi => absurd hi List.not_mem_nil

theorem ofCatalog_pending (c : Catalog) (signal : Signal) (h : Handle) :
    (ofCatalog c signal).pending h = 0 := by
  rw [pending]
  split
  · next s hs =>
    obtain ⟨d, -, rfl⟩ := initial_of_sensor? hs
    rfl
  · rfl

/-- Nothing is owed where a client has just connected or nothing has happened yet. -/
theorem SinceConnect.pending_eq_zero {early late : List Turn} (hsince : SinceConnect early late)
    (b : Behaviour) (c : Catalog) (signal : Signal) (h : Handle) :
    ((ofCatalog c signal).run b early).pending h = 0 := by
  rcases hsince.1 with rfl | ⟨first, time, queue, isOpen, rfl⟩
  · exact ofCatalog_pending c signal h
  · rw [run_append]
    exact pending_connect b _ queue isOpen h

/-- If all that is held lies after some time, and so does every schedule, then so do the
samples delivered from then on. -/
theorem delivered_past (hsound : hal.Sound) (hreplay : hal.NoReplay)
    (hb : b.replayStaleEvents = false) {time : Int} (hheld : ∀ e ∈ hal.held h, time < e.time)
    (hdue : ∀ s, hal.sensor? h = some s → s.DueAfter time) {ms : List Turn}
    (hms : ∀ m ∈ ms, time ≤ m.time) :
    ∀ e ∈ along b (delivered b h) hal ms, time < e.time := by
  intro e he
  -- whatever is delivered was held before or is generated later
  have hkept := (remainder_samples hb hsound hreplay h ms).sublist
  rcases List.mem_append.1 (hkept.subset (List.mem_append_left _ he)) with he | he
  · exact hheld e he
  · exact generated_after hsound hdue hms e he

/-- The samples delivered after a turn of the clock that answers a flush lie after the
time of that turn. -/
theorem delivered_after (hsound : hal.Sound) (hreplay : hal.NoReplay)
    (hb : b.replayStaleEvents = false) {now : Int}
    (hheld : hal.held h = []) (hdue : ∀ s, hal.sensor? h = some s → s.DueAfter now)
    {ms : List Turn} (hms : ∀ m ∈ ms, now ≤ m.time) :
    ∀ e ∈ along b (delivered b h) hal ms, now < e.time :=
  delivered_past hsound hreplay hb (fun _ he => absurd (hheld ▸ he) List.not_mem_nil) hdue hms

theorem NoReplay.run (hb : b.replayStaleEvents = false) (hreplay : hal.NoReplay)
    (ms : List Turn) : (hal.run b ms).NoReplay :=
  run_keeps (fun _ m hr => hr.step hb m) ms hreplay

/-- In every ordered run from a fresh HAL that gives one marker for each flush, replays
nothing and is injected no marker: the flushes accepted since a client last connected
are the markers delivered since then and those still owed; and a marker delivered while
the HAL measures comes after all samples generated so far, those discarded apart, and
before any sample that lies up to its time. -/
theorem flushes_answered (c : Catalog) (signal : Signal) {b : Behaviour} (hb : Answers b)
    (hreplay : b.replayStaleEvents = false) {ms : List Turn} (hms : InOrder ms)
    (hinject : ∀ m ∈ ms, m.InjectsNoMarker) (h : Handle) :
    (∀ early late, ms = early ++ late → SinceConnect early late →
        (along b (fun hal m => markersOf h (hal.items b m))
            ((ofCatalog c signal).run b early) late).length +
          ((ofCatalog c signal).run b ms).pending h =
        (along b (flushesIn h) ((ofCatalog c signal).run b early) late).length) ∧
      ∀ early now late before marker after, ms = early ++ ⟨now, .advance⟩ :: late →
        ((ofCatalog c signal).run b early).mode = .normal →
        (((ofCatalog c signal).run b early).advance b now).1 = before ++ marker :: after →
        marker.event.isFlushMarker = true → marker.event.handle = h →
        Remainder
            (along b (delivered b h) (ofCatalog c signal) early ++ samplesOf h before)
            (along b (discarded h) (ofCatalog c signal) early)
            (along b (generated b h) (ofCatalog c signal) (early ++ [⟨now, .advance⟩])) ∧
          ∀ e ∈ samplesOf h after ++ along b (delivered b h)
              (((ofCatalog c signal).run b early).advance b now).2 late, now < e.time := by
  constructor
  · rintro early late rfl hsince
    have hearly : ∀ m ∈ early, m.InjectsNoMarker :=
      fun m hm => hinject m (List.mem_append_left late hm)
    have hlate : ∀ m ∈ late, m.InjectsNoMarker :=
      fun m hm => hinject m (List.mem_append_right early hm)
    have hsound := (ofCatalog_sound c signal).run b early
    have hunmarked := Unmarked.run (b := b) (ofCatalog_sound c signal)
      (ofCatalog_unmarked c signal) hearly
    -- nothing is owed at the start of the later turns
    have hbalance := pending_run (h := h) hsound hunmarked hb hlate hsince.2
    rw [hsince.pending_eq_zero b c signal h, Nat.zero_add] at hbalance
    rw [run_append]
    exact hbalance.symm
  · rintro early now late before marker after rfl hmode hitems hmarker hh
    have hearly : ∀ m ∈ early, m.InjectsNoMarker :=
      fun m hm => hinject m (List.mem_append_left _ hm)
    have hsound := (ofCatalog_sound c signal).run b early
    have hunmarked := Unmarked.run (b := b) (ofCatalog_sound c signal)
      (ofCatalog_unmarked c signal) hearly
    obtain ⟨hafter, s, hs, hpos⟩ := marker_last hsound hunmarked hb hitems hmarker hh
    have hheld := held_advance_eq_nil (b := b) hsound hs hpos now
    constructor
    · have hrun := remainder_samples_ofCatalog c signal hreplay (early ++ [⟨now, .advance⟩]) h
      -- the batch brings no sample behind the marker, and holds back none
      have hdelivered : delivered b h ((ofCatalog c signal).run b early) ⟨now, .advance⟩ =
          samplesOf h before := by
        show samplesOf h (((ofCatalog c signal).run b early).advance b now).1 = _
        rw [hitems, samplesOf_append, hafter, List.append_nil]
      have hdiscarded : discarded h ((ofCatalog c signal).run b early) ⟨now, .advance⟩ = [] := rfl
      have hlast : ((ofCatalog c signal).run b (early ++ [⟨now, .advance⟩])).held h = [] := by
        rw [run_concat]
        exact hheld
      rwa [along_concat, along_concat, hdelivered, hdiscarded, hlast, List.append_nil,
        List.append_nil] at hrun
    · have hrest : samplesOf h after = [] := by
        rw [← List.singleton_append, samplesOf_append] at hafter
        exact (List.append_eq_nil_iff.1 hafter).2
      have hlate : ∀ m ∈ late, now ≤ m.time := fun m hm =>
        List.rel_of_pairwise_cons (List.pairwise_append.1 hms).2.1 hm
      rw [hrest, List.nil_append]
      exact delivered_after (hsound.step b ⟨now, .advance⟩)
        (((ofCatalog_noReplay c signal).run hreplay early).step hreplay ⟨now, .advance⟩) hreplay
        hheld (fun t ht => advance_dueAfter hsound hmode now ht) hlate

end Runs

/-- Two samples held back, two flushes that bring them out, a third flush given up with its
client, and a fourth one that is still owed. -/
def flushedRun : List Turn :=
  let h := barometer.handle
  [⟨0, .call (.batch h 0 1000000000)⟩, ⟨0, .call (.activate h true)⟩, ⟨11000000, .call (.flush h)⟩,
    ⟨12000000, .call (.flush h)⟩, ⟨12000000, .advance⟩, ⟨17000000, .call (.flush h)⟩,
    ⟨17000000, .connect 1 true⟩, ⟨17000000, .call (.activate h true)⟩,
    ⟨18000000, .call (.flush h)⟩]

theorem flushes_answered_flushedRun :
    let hal := ofCatalog [barometer] silence
    let h := barometer.handle
    let marker : Item := ⟨.marker, .flushMarker h 12000000⟩
    let held := hal.run {} (flushedRun.take 4)
    let batch := (held.advance {} 12000000).1
    Answers {} ∧ InOrder flushedRun ∧ (∀ m ∈ flushedRun, m.InjectsNoMarker) ∧
      SinceConnect (flushedRun.take 7) (flushedRun.drop 7) ∧
      (along {} (fun hal m => markersOf h (hal.items {} m)) (hal.run {} (flushedRun.take 7))
          (flushedRun.drop 7)).length + (hal.run {} flushedRun).pending h =
        (along {} (flushesIn h) (hal.run {} (flushedRun.take 7)) (flushedRun.drop 7)).length ∧
      (hal.run {} flushedRun).pending h = 1 ∧
      batch = batch.take 2 ++ marker :: batch.drop 3 ∧
      Remainder (along {} (delivered {} h) hal (flushedRun.take 4) ++ samplesOf h (batch.take 2))
        (along {} (discarded h) hal (flushedRun.take 4))
        (along {} (generated {} h) hal (flushedRun.take 4 ++ [⟨12000000, .advance⟩])) ∧
      ∀ e ∈ samplesOf h (batch.drop 3) ++
          along {} (delivered {} h) (held.advance {} 12000000).2 (flushedRun.drop 5),
        12000000 < e.time := by
  have hbehaviour : Answers {} := ⟨rfl, rfl⟩
  have horder : InOrder flushedRun := by decide
  have hinject : ∀ m ∈ flushedRun, m.InjectsNoMarker := by
    intro m hm e he
    simp only [flushedRun, List.mem_cons, List.not_mem_nil, or_false] at hm
    rcases hm with rfl | rfl | rfl | rfl | rfl | rfl | rfl | rfl | rfl <;> cases he
  have hsince : SinceConnect (flushedRun.take 7) (flushedRun.drop 7) := by
    refine ⟨Or.inr ⟨flushedRun.take 6, 17000000, 1, true, rfl⟩, fun m hm => ?_⟩
    simp only [flushedRun, List.drop_succ_cons, List.drop_zero, List.mem_cons, List.not_mem_nil,
      or_false] at hm
    rcases hm with rfl | rfl <;> rfl
  obtain ⟨hcount, hmarkers⟩ := flushes_answered [barometer] silence hbehaviour rfl horder hinject
    barometer.handle
  have hitems :
      let batch := (((ofCatalog [barometer] silence).run {} (flushedRun.take 4)).advance {}
        12000000).1
      batch = batch.take 2 ++ ⟨.marker, .flushMarker barometer.handle 12000000⟩ ::
        batch.drop 3 := by rfl
  have hbatch := hmarkers (flushedRun.take 4) 12000000 (flushedRun.drop 5) _
    ⟨.marker, .flushMarker barometer.handle 12000000⟩ _ rfl rfl hitems rfl rfl
  exact ⟨hbehaviour, horder, hinject, hsince, hcount _ _ rfl hsince, by decide, hitems,
    hbatch.1, hbatch.2⟩

end SensorBench.Hal
