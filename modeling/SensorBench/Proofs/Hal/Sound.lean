import SensorBench.Proofs.Hal.Step

/-!
# Sound states

The sensors of a HAL are in the order of their handles, each handle once, and each
sensor is sound. A HAL starts so (`ofCatalog_sound`) and every run keeps it
(`Sound.run`).
-/

set_option autoImplicit false

namespace SensorBench

theorem Handle.lt_of_not_lt {a c : Handle} (hne : a ≠ c) (h : ¬a < c) : c < a := by
  have hle : ¬a.raw.toInt < c.raw.toInt := h
  have hraw : a.raw.toInt ≠ c.raw.toInt := fun e => hne (by
    cases a
    cases c
    exact congrArg _ (Int32.toInt_inj.1 e))
  show c.raw.toInt < a.raw.toInt
  omega

theorem Handle.ne_of_lt {a c : Handle} (h : a < c) : a ≠ c := by
  rintro rfl
  exact Int.lt_irrefl _ h

namespace Hal

/-- The sensors are in the order of their handles, each handle once, and each of them
is sound. -/
structure Sound (hal : Hal) : Prop where
  sorted : (hal.sensors.map (·.handle)).Pairwise (· < ·)
  sensors : ∀ s ∈ hal.sensors, s.Sound

theorem find?_of_mem {sensors : List Sampler} (h : (sensors.map (·.handle)).Pairwise (· < ·))
    {s : Sampler} (hs : s ∈ sensors) : sensors.find? (·.handle = s.handle) = some s := by
  induction sensors with
  | nil => exact absurd hs List.not_mem_nil
  | cons t rest ih =>
    rw [List.map_cons, List.pairwise_cons] at h
    rcases List.mem_cons.1 hs with rfl | hmem
    · simp
    -- handles rise, so a sensor before this one has another handle
    · have hlt : t.handle < s.handle := h.1 _ (List.mem_map_of_mem hmem)
      rw [List.find?_cons, decide_eq_false (Handle.ne_of_lt hlt)]
      exact ih h.2 hmem

theorem Sound.sensor?_of_mem {hal : Hal} (h : hal.Sound) {s : Sampler} (hs : s ∈ hal.sensors) :
    hal.sensor? s.handle = some s :=
  find?_of_mem h.sorted hs

theorem Sound.of_sensor? {hal : Hal} (h : hal.Sound) {k : Handle} {s : Sampler}
    (hs : hal.sensor? k = some s) : s.Sound :=
  h.sensors s (List.mem_of_find?_eq_some hs)

theorem handles_setSensor (hal : Hal) (s : Sampler) :
    (hal.setSensor s).sensors.map (·.handle) = hal.sensors.map (·.handle) := by
  show (hal.sensors.map _).map _ = _
  rw [List.map_map]
  apply List.map_congr_left
  intro t _
  show (if t.handle = s.handle then s else t).handle = t.handle
  split
  · next h => exact h.symm
  · rfl

theorem handles_advanceSensors (b : Behaviour) (measuring : Bool) (now : Int) (signal : Signal)
    (sensors : List Sampler) :
    (advanceSensors b measuring now signal sensors).2.1.map (·.handle) =
      sensors.map (·.handle) := by
  induction sensors generalizing signal with
  | nil => rfl
  | cons s rest ih =>
    have hd : (s.advance b measuring now signal).2.1.handle = s.handle :=
      congrArg Descriptor.handle (Sampler.advance_facts b measuring now signal).1
    simp only [advanceSensors, List.map_cons, hd, ih]

/-- No turn changes which sensors there are. -/
theorem handles_step (hal : Hal) (b : Behaviour) (m : Turn) :
    (hal.step b m).sensors.map (·.handle) = hal.sensors.map (·.handle) := by
  obtain ⟨now, input⟩ := m
  cases input with
  | connect queue isOpen => exact List.map_map
  | advance => exact handles_advanceSensors b hal.measuring now hal.signal hal.sensors
  | allocate region => rfl
  | write memory offset bytes => rfl
  | call c =>
    cases c with
    | activate k on =>
      cases hu : hal.sensor? k with
      | none => rw [step_activate_unknown hal b now hu]
      | some u =>
        rw [step_activate hal b now hu]
        split
        · rfl
        · exact handles_setSensor hal _
    | batch k period latency =>
      by_cases hr : period < 0 ∨ latency < 0
      · rw [step_batch_rejected hal b now (Or.inr hr)]
      · cases hu : hal.sensor? k with
        | none => rw [step_batch_rejected hal b now (Or.inl hu)]
        | some u =>
          rw [step_batch hal b now hu (by omega) (by omega)]
          exact handles_setSensor hal _
    | flush k =>
      cases hu : hal.sensor? k with
      | none => rw [step_flush_unknown hal b now hu]
      | some u =>
        rw [step_flush hal b now hu]
        split
        · rfl
        · exact handles_setSensor hal _
    | inject e => rw [step_inject]
    | _ => rw [(step_channel_call hal b now trivial).1]

theorem Sound.step {hal : Hal} (h : hal.Sound) (b : Behaviour) (m : Turn) :
    (hal.step b m).Sound := by
  have hsorted : ((hal.step b m).sensors.map (·.handle)).Pairwise (· < ·) := by
    rw [handles_step]
    exact h.sorted
  refine ⟨hsorted, fun t ht => ?_⟩
  -- a sensor of the next state is found under its handle, as the handles are kept
  exact forall_sensor?_step (fun hchange hs => hs.change hchange) (fun k s => h.of_sensor?)
    t.handle t (find?_of_mem hsorted ht)

theorem Sound.run {hal : Hal} (h : hal.Sound) (b : Behaviour) (ms : List Turn) :
    (hal.run b ms).Sound :=
  run_keeps (fun _ m hs => hs.step b m) ms h

/-- Sensors in the order of their handles agree if those with one handle do. -/
theorem map_eq_of_find? {α : Type} {f : Sampler → α} {sensors others : List Sampler}
    (hhandles : sensors.map (·.handle) = others.map (·.handle))
    (hsorted : (sensors.map (·.handle)).Pairwise (· < ·))
    (h : ∀ k, (sensors.find? (·.handle = k)).map f = (others.find? (·.handle = k)).map f) :
    sensors.map f = others.map f := by
  have hfound : ∀ s ∈ sensors, ∀ t ∈ others, s.handle = t.handle → f s = f t := by
    intro s hs t ht hst
    have hk := h s.handle
    have ht' := find?_of_mem (hhandles ▸ hsorted) ht
    rw [find?_of_mem hsorted hs, hst, ht'] at hk
    exact Option.some.inj hk
  clear h hsorted
  induction sensors generalizing others with
  | nil =>
    rw [List.map_nil] at hhandles
    rw [List.map_eq_nil_iff.1 hhandles.symm]
  | cons s rest ih =>
    cases others with
    | nil => cases hhandles
    | cons t more =>
      obtain ⟨hhead, htail⟩ := List.cons.inj hhandles
      rw [List.map_cons, List.map_cons, hfound s List.mem_cons_self t List.mem_cons_self hhead,
        ih htail fun u hu v hv =>
          hfound u (List.mem_cons_of_mem s hu) v (List.mem_cons_of_mem t hv)]

/-- A HAL lists the same sensors after every turn. -/
theorem Sound.catalog_step {hal : Hal} (h : hal.Sound) (b : Behaviour) (m : Turn) :
    (hal.step b m).catalog = hal.catalog :=
  map_eq_of_find? (handles_step hal b m) (h.step b m).sorted (descriptor_step hal b m)

theorem mem_insertSampler {s t : Sampler} {sensors : List Sampler}
    (h : t ∈ insertSampler s sensors) : t = s ∨ t ∈ sensors := by
  induction sensors with
  | nil => exact Or.inl (List.mem_singleton.1 h)
  | cons u rest ih =>
    rw [insertSampler] at h
    split at h
    · rcases List.mem_cons.1 h with h | h
      · exact Or.inl h
      · exact Or.inr (List.mem_cons_of_mem u h)
    · split at h
      · exact List.mem_cons.1 h
      · rcases List.mem_cons.1 h with h | h
        · exact Or.inr (h ▸ List.mem_cons_self)
        · exact (ih h).imp_right (List.mem_cons_of_mem u)

theorem insertSampler_sorted (s : Sampler) {sensors : List Sampler}
    (h : (sensors.map (·.handle)).Pairwise (· < ·)) :
    ((insertSampler s sensors).map (·.handle)).Pairwise (· < ·) := by
  induction sensors with
  | nil => exact List.pairwise_singleton _ _
  | cons u rest ih =>
    rw [List.map_cons, List.pairwise_cons] at h
    rw [insertSampler]
    split
    · next he =>
      rw [List.map_cons, List.pairwise_cons, he]
      exact h
    · next hne =>
      split
      · next hlt =>
        rw [List.map_cons, List.map_cons, List.pairwise_cons, List.pairwise_cons]
        refine ⟨fun k hk => ?_, h⟩
        rcases List.mem_cons.1 hk with rfl | hk
        · exact hlt
        · exact Int.lt_trans hlt (h.1 k hk)
      · next hnlt =>
        rw [List.map_cons, List.pairwise_cons]
        refine ⟨fun k hk => ?_, ih h.2⟩
        obtain ⟨t, ht, rfl⟩ := List.mem_map.1 hk
        rcases mem_insertSampler ht with rfl | ht
        · exact Handle.lt_of_not_lt hne hnlt
        · exact h.1 _ (List.mem_map_of_mem ht)

/-- A HAL starts with the sensors of its catalog, none of them used yet. -/
theorem ofCatalog_sensors (c : Catalog) (signal : Signal) :
    ((ofCatalog c signal).sensors.map (·.handle)).Pairwise (· < ·) ∧
      ∀ s ∈ (ofCatalog c signal).sensors, ∃ d ∈ c, s = .initial d := by
  -- the sensors inserted so far are sorted and fresh, whatever is left of the catalog
  have build : ∀ (rest : Catalog) (acc : List Sampler),
      (acc.map (·.handle)).Pairwise (· < ·) → (∀ s ∈ acc, ∃ d ∈ c, s = .initial d) →
      (∀ d ∈ rest, d ∈ c) →
      ((rest.foldl (fun acc d => insertSampler (.initial d) acc) acc).map
          (·.handle)).Pairwise (· < ·) ∧
        ∀ s ∈ rest.foldl (fun acc d => insertSampler (.initial d) acc) acc,
          ∃ d ∈ c, s = .initial d := by
    intro rest
    induction rest with
    | nil => exact fun acc hsorted hinitial _ => ⟨hsorted, hinitial⟩
    | cons d rest ih =>
      intro acc hsorted hinitial hrest
      refine ih _ (insertSampler_sorted _ hsorted) (fun s hs => ?_)
        fun e he => hrest e (List.mem_cons_of_mem d he)
      rcases mem_insertSampler hs with rfl | hs
      · exact ⟨d, hrest d List.mem_cons_self, rfl⟩
      · exact hinitial s hs
  exact build c [] List.Pairwise.nil (fun s hs => absurd hs List.not_mem_nil) fun d hd => hd

theorem mem_handles_insertSampler (s : Sampler) (sensors : List Sampler) (k : Handle) :
    k ∈ (insertSampler s sensors).map (·.handle) ↔
      k = s.handle ∨ k ∈ sensors.map (·.handle) := by
  induction sensors with
  | nil => simp [insertSampler]
  | cons t rest ih =>
    rw [insertSampler]
    split
    · next he => simp [he]
    · split
      · simp
      · rw [List.map_cons, List.mem_cons, ih, List.map_cons, List.mem_cons]
        exact or_left_comm

/-- The handles of a fresh HAL are those of its catalog. -/
theorem mem_handles_ofCatalog (c : Catalog) (signal : Signal) (k : Handle) :
    k ∈ (ofCatalog c signal).sensors.map (·.handle) ↔ k ∈ c.map (·.handle) := by
  -- the sensors inserted so far carry the handles taken from the catalog so far
  have build : ∀ (rest : Catalog) (acc : List Sampler),
      k ∈ (rest.foldl (fun acc d => insertSampler (.initial d) acc) acc).map (·.handle) ↔
        k ∈ acc.map (·.handle) ∨ k ∈ rest.map (·.handle) := by
    intro rest
    induction rest with
    | nil => simp
    | cons d rest ih =>
      intro acc
      rw [List.foldl_cons, ih, mem_handles_insertSampler, List.map_cons, List.mem_cons]
      constructor
      · rintro ((h | h) | h)
        · exact Or.inr (Or.inl h)
        · exact Or.inl h
        · exact Or.inr (Or.inr h)
      · rintro (h | h | h)
        · exact Or.inl (Or.inr h)
        · exact Or.inl (Or.inl h)
        · exact Or.inr h
  exact (build c []).trans (by simp)

theorem sensor?_eq_none_iff (hal : Hal) (h : Handle) :
    hal.sensor? h = none ↔ h ∉ hal.sensors.map (·.handle) := by
  rw [sensor?, List.find?_eq_none]
  simp [eq_comm]

theorem initial_of_sensor? {c : Catalog} {signal : Signal} {h : Handle} {s : Sampler}
    (hs : (ofCatalog c signal).sensor? h = some s) : ∃ d ∈ c, s = .initial d :=
  (ofCatalog_sensors c signal).2 s (List.mem_of_find?_eq_some hs)

/-- Every HAL starts sound. -/
theorem ofCatalog_sound (c : Catalog) (signal : Signal) : (ofCatalog c signal).Sound := by
  obtain ⟨hsorted, hinitial⟩ := ofCatalog_sensors c signal
  refine ⟨hsorted, fun s hs => ?_⟩
  obtain ⟨d, -, rfl⟩ := hinitial s hs
  exact Sampler.initial_sound d

end Hal

end SensorBench
