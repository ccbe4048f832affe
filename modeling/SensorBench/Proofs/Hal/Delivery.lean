import SensorBench.Proofs.Hal.Sound

/-!
# What one turn delivers and leaves waiting

The items that a HAL delivers for one handle are those that waited for it and then
those of its sensor (`itemsOf_advance`). Whatever waits was moved there by a retuned
sensor or injected (`waiting_step`).
-/

set_option autoImplicit false

namespace SensorBench.Hal

/-- Whether events of an origin were measured by a sensor, just now or before. -/
def Source.isMeasured : Source → Bool
  | .sample | .replay => true
  | .injection | .marker => false

/-- The items for one handle. -/
def itemsOf (h : Handle) (items : List Item) : List Item := items.filter (·.event.handle = h)

/-- The samples of one handle among some items. -/
def samplesOf (h : Handle) (items : List Item) : List Event :=
  ((itemsOf h items).filter (·.source.isMeasured)).map (·.event)

/-- The injected events among some items. -/
def injectionsOf (items : List Item) : List Event :=
  (items.filter (·.source = .injection)).map (·.event)

/-- The samples that a call moves out of a buffer. -/
def moved (hal : Hal) (m : Turn) : List Event :=
  match m.input with
  | .call (.batch h period latency) =>
    if period < 0 ∨ latency < 0 then []
    else match hal.sensor? h with
      | some s => (s.retune m.time period latency).released
      | none => []
  | _ => []

/-- The events that a call injects for delivery. -/
def accepted (hal : Hal) (m : Turn) : List Event :=
  match m.input with
  | .call (.inject e) => hal.injected e
  | _ => []

/-- The inputs after which nothing waits. -/
def Input.empties : Input → Bool
  | .connect _ _ | .advance => true
  | _ => false

/-- What a call moves comes from the buffer of the sensor that it retunes. -/
theorem mem_moved {hal : Hal} {m : Turn} {e : Event} (he : e ∈ hal.moved m) :
    ∃ h period latency s, m.input = .call (.batch h period latency) ∧
      hal.sensor? h = some s ∧ e ∈ s.buffer := by
  rw [moved] at he
  split at he
  · next h period latency hi =>
    split at he
    · exact absurd he List.not_mem_nil
    · split at he
      · next s hs =>
        refine ⟨h, period, latency, s, hi, hs, ?_⟩
        show e ∈ (s.retune m.time period latency).buffer
        rw [← Sampler.released_append_buffer_release]
        exact List.mem_append_left _ he
      · exact absurd he List.not_mem_nil
  · exact absurd he List.not_mem_nil

theorem mem_accepted {hal : Hal} {m : Turn} {e : Event} (he : e ∈ hal.accepted m) :
    m.input = .call (.inject e) := by
  rw [accepted] at he
  split at he
  · next f hi =>
    rw [injected] at he
    split at he
    · exact absurd he List.not_mem_nil
    · split at he
      · rw [hi, List.mem_singleton.1 he]
      · exact absurd he List.not_mem_nil
  · exact absurd he List.not_mem_nil

theorem itemsOf_append (h : Handle) (xs ys : List Item) :
    itemsOf h (xs ++ ys) = itemsOf h xs ++ itemsOf h ys :=
  List.filter_append xs ys

theorem samplesOf_append (h : Handle) (xs ys : List Item) :
    samplesOf h (xs ++ ys) = samplesOf h xs ++ samplesOf h ys := by
  simp only [samplesOf, itemsOf_append, List.filter_append, List.map_append]

theorem injectionsOf_append (xs ys : List Item) :
    injectionsOf (xs ++ ys) = injectionsOf xs ++ injectionsOf ys := by
  simp only [injectionsOf, List.filter_append, List.map_append]

theorem itemsOf_eq_self {h : Handle} {items : List Item} (hi : ∀ i ∈ items, i.event.handle = h) :
    itemsOf h items = items :=
  List.filter_eq_self.2 fun i hmem => decide_eq_true (hi i hmem)

theorem itemsOf_eq_nil {h : Handle} {items : List Item} (hi : ∀ i ∈ items, i.event.handle ≠ h) :
    itemsOf h items = [] :=
  List.filter_eq_nil_iff.2 fun i hmem => by simpa using hi i hmem

/-- Items of one measured origin carry the samples that they were made of. -/
theorem samplesOf_map {h : Handle} {source : Source} (hsource : source.isMeasured = true)
    {es : List Event} (he : ∀ e ∈ es, e.handle = h) :
    samplesOf h (es.map (⟨source, ·⟩)) = es := by
  have hi : ∀ i ∈ es.map (Item.mk source), i.event.handle = h := by
    intro i hi
    obtain ⟨e, hmem, rfl⟩ := List.mem_map.1 hi
    exact he e hmem
  have hm : (es.map (Item.mk source)).filter (·.source.isMeasured) = es.map (Item.mk source) := by
    apply List.filter_eq_self.2
    intro i hmem
    obtain ⟨e, -, rfl⟩ := List.mem_map.1 hmem
    exact hsource
  rw [samplesOf, itemsOf_eq_self hi, hm, List.map_map]
  exact List.map_id es

theorem samplesOf_eq_nil {h : Handle} {items : List Item}
    (hi : ∀ i ∈ items, i.event.handle = h → i.source.isMeasured = false) :
    samplesOf h items = [] := by
  rw [samplesOf, itemsOf, List.filter_filter, List.map_eq_nil_iff, List.filter_eq_nil_iff]
  intro i hmem htrue
  simp only [Bool.and_eq_true, decide_eq_true_eq] at htrue
  rw [hi i hmem htrue.2] at htrue
  exact absurd htrue.1 Bool.false_ne_true

/-! ## The sensors' items -/

namespace Sampler

section Own

variable {s : Sampler} (b : Behaviour) (measuring : Bool) (now : Int) (signal : Signal)

/-- The samples that a sensor delivers are its own. -/
theorem Sound.advance_out_measured (hs : s.Sound) {out rest : List Event}
    (h : s.buffer ++ s.emitted measuring now signal = out ++ rest) :
    ∀ e ∈ out, s.Measured e := by
  intro e he
  have hmem : e ∈ s.buffer ++ s.emitted measuring now signal := by
    rw [h]
    exact List.mem_append_left rest he
  rcases List.mem_append.1 hmem with hb | hb
  · exact hs.buffered e hb
  · exact emitted_measured s measuring now signal e hb

/-- All that a sensor delivers carries its handle and none of it is injected. -/
theorem Sound.advance_own (hs : s.Sound) :
    ∀ i ∈ (s.advance b measuring now signal).1,
      i.event.handle = s.handle ∧ i.source ≠ .injection := by
  obtain ⟨out, hitems, hout, -⟩ := hs.advance_spec b measuring now signal
  rw [hitems]
  intro i hi
  rcases List.mem_append.1 hi with hi | hi
  · rcases List.mem_append.1 hi with hi | hi
    · obtain ⟨e, he, rfl⟩ := List.mem_map.1 hi
      exact ⟨(hs.replayed e (Option.mem_toList.1 he)).1, Source.noConfusion⟩
    · obtain ⟨e, he, rfl⟩ := List.mem_map.1 hi
      exact ⟨(hs.advance_out_measured measuring now signal hout e he).1, Source.noConfusion⟩
  · rw [List.eq_of_mem_replicate hi]
    exact ⟨rfl, Source.noConfusion⟩

end Own

end Sampler

theorem itemsOf_advanceSensors_of_none {b : Behaviour} {measuring : Bool} {now : Int}
    {h : Handle} {signal : Signal} {sensors : List Sampler} (hs : ∀ s ∈ sensors, s.Sound)
    (hn : ∀ s ∈ sensors, s.handle ≠ h) :
    itemsOf h (advanceSensors b measuring now signal sensors).1 = [] := by
  induction sensors generalizing signal with
  | nil => rfl
  | cons s rest ih =>
    have hfirst : itemsOf h (s.advance b measuring now signal).1 = [] :=
      itemsOf_eq_nil fun i hi e => hn s List.mem_cons_self
        (((hs s List.mem_cons_self).advance_own b measuring now signal i hi).1.symm.trans e)
    simp only [advanceSensors, itemsOf_append, hfirst, List.nil_append]
    exact ih (fun t ht => hs t (List.mem_cons_of_mem s ht))
      (fun t ht => hn t (List.mem_cons_of_mem s ht))

theorem itemsOf_advanceSensors {b : Behaviour} {measuring : Bool} {now : Int} {h : Handle}
    {signal : Signal} {sensors : List Sampler} (hs : ∀ s ∈ sensors, s.Sound)
    (hsorted : (sensors.map (·.handle)).Pairwise (· < ·)) {s : Sampler}
    (hfind : sensors.find? (·.handle = h) = some s) :
    itemsOf h (advanceSensors b measuring now signal sensors).1 =
      (s.advance b measuring now (signalBefore b measuring now h signal sensors)).1 := by
  induction sensors generalizing signal with
  | nil => cases hfind
  | cons t rest ih =>
    rw [List.map_cons, List.pairwise_cons] at hsorted
    have hrest : ∀ u ∈ rest, u.Sound := fun u hu => hs u (List.mem_cons_of_mem t hu)
    have hown := (hs t List.mem_cons_self).advance_own b measuring now signal
    simp only [advanceSensors, itemsOf_append, signalBefore]
    by_cases ht : t.handle = h
    · rw [List.find?_cons, decide_eq_true ht] at hfind
      cases hfind
      -- this is the sensor, and those behind it have greater handles
      have hnone : ∀ u ∈ rest, u.handle ≠ h := fun u hu e => by
        have hlt := hsorted.1 u.handle (List.mem_map_of_mem hu)
        rw [e, ht] at hlt
        exact absurd hlt (Int.lt_irrefl _)
      rw [if_pos ht, itemsOf_advanceSensors_of_none hrest hnone, List.append_nil]
      exact itemsOf_eq_self fun i hi => (hown i hi).1.trans ht
    -- another sensor comes first, and its items carry its own handle
    · rw [List.find?_cons, decide_eq_false ht] at hfind
      rw [if_neg ht, itemsOf_eq_nil fun i hi e => ht ((hown i hi).1.symm.trans e),
        List.nil_append]
      exact ih hrest hsorted.2 hfind

/-- The items of one sensor come after those that waited for it. -/
theorem itemsOf_advance {hal : Hal} (hsound : hal.Sound) {h : Handle} {s : Sampler}
    (hs : hal.sensor? h = some s) (b : Behaviour) (now : Int) :
    itemsOf h (hal.advance b now).1 =
      itemsOf h hal.waiting ++ (s.advance b hal.measuring now (hal.signalFor b now h)).1 := by
  show itemsOf h (hal.waiting ++ _) = _
  rw [itemsOf_append, itemsOf_advanceSensors hsound.sensors hsound.sorted hs]
  rfl

/-- Without a sensor only what waited is delivered for a handle. -/
theorem itemsOf_advance_of_none {hal : Hal} (hsound : hal.Sound) {h : Handle}
    (hs : hal.sensor? h = none) (b : Behaviour) (now : Int) :
    itemsOf h (hal.advance b now).1 = itemsOf h hal.waiting := by
  have hn : ∀ s ∈ hal.sensors, s.handle ≠ h := fun s hmem e => by
    rw [← e, hsound.sensor?_of_mem hmem] at hs
    cases hs
  show itemsOf h (hal.waiting ++ _) = _
  rw [itemsOf_append, itemsOf_advanceSensors_of_none hsound.sensors hn, List.append_nil]

/-- Injected events are delivered from the waiting items only. -/
theorem injectionsOf_advance {hal : Hal} (hsound : hal.Sound) (b : Behaviour) (now : Int) :
    injectionsOf (hal.advance b now).1 = injectionsOf hal.waiting := by
  -- no sensor delivers an injected event, whatever signal reaches it
  have hsensors : ∀ (sensors : List Sampler) (signal : Signal), (∀ s ∈ sensors, s.Sound) →
      injectionsOf (advanceSensors b hal.measuring now signal sensors).1 = [] := by
    intro sensors
    induction sensors with
    | nil => exact fun _ _ => rfl
    | cons s rest ih =>
      intro signal hs
      have hown := (hs s List.mem_cons_self).advance_own b hal.measuring now signal
      have hfirst : injectionsOf (s.advance b hal.measuring now signal).1 = [] := by
        rw [injectionsOf, List.map_eq_nil_iff, List.filter_eq_nil_iff]
        intro i hi
        simpa using (hown i hi).2
      simp only [advanceSensors, injectionsOf_append, hfirst, List.nil_append]
      exact ih _ fun t ht => hs t (List.mem_cons_of_mem s ht)
  show injectionsOf (hal.waiting ++ _) = _
  rw [injectionsOf_append, hsensors hal.sensors hal.signal hsound.sensors, List.append_nil]

/-! ## What waits -/

/-- What waits after a turn: nothing if the turn empties the list, else what waited
before, the samples moved there and the events injected. -/
theorem waiting_step (hal : Hal) (b : Behaviour) (m : Turn) :
    (hal.step b m).waiting =
      (if m.input.empties then [] else hal.waiting) ++ (hal.moved m).map (⟨.sample, ·⟩) ++
        (hal.accepted m).map (⟨.injection, ·⟩) := by
  obtain ⟨now, input⟩ := m
  cases input with
  | connect queue isOpen => rfl
  | advance => rfl
  | allocate region => exact (List.append_nil _).symm.trans (List.append_nil _).symm
  | write memory offset bytes => exact (List.append_nil _).symm.trans (List.append_nil _).symm
  | call c =>
    cases c with
    -- only retuning and injecting make anything wait
    | activate k on =>
      simp only [Input.empties, moved, accepted, List.map_nil, List.append_nil]
      cases hu : hal.sensor? k with
      | none => rw [step_activate_unknown hal b now hu]; rfl
      | some u =>
        rw [step_activate hal b now hu]
        split <;> rfl
    | batch k period latency =>
      simp only [Input.empties, moved, accepted, List.map_nil, List.append_nil]
      by_cases hr : period < 0 ∨ latency < 0
      · rw [step_batch_rejected hal b now (Or.inr hr), if_pos hr]
        exact (List.append_nil _).symm
      · rw [if_neg hr]
        cases hu : hal.sensor? k with
        | none =>
          rw [step_batch_rejected hal b now (Or.inl hu)]
          exact (List.append_nil _).symm
        | some u =>
          rw [step_batch hal b now hu (by omega) (by omega)]
          rfl
    | flush k =>
      simp only [Input.empties, moved, accepted, List.map_nil, List.append_nil]
      cases hu : hal.sensor? k with
      | none => rw [step_flush_unknown hal b now hu]; rfl
      | some u =>
        rw [step_flush hal b now hu]
        split <;> rfl
    | inject e =>
      rw [step_inject]
      simp only [Input.empties, moved, accepted, List.map_nil, List.append_nil]
      rfl
    | _ =>
      rw [(step_channel_call hal b now trivial).2]
      simp only [Input.empties, moved, accepted, List.map_nil, List.append_nil]
      rfl

end SensorBench.Hal
