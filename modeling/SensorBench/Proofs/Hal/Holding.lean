import SensorBench.Proofs.Hal.Numbers
import SensorBench.Proofs.Hal.Sound
import SensorBench.Proofs.Suite.Holdings

/-!
# What a HAL holds for its clients

A HAL holds a resource for a client as long as a sensor is enabled, a channel registered
or a mode other than normal set; one that holds nothing is idle (`idle_iff`). A call that
is accepted leaves held only what it acquires and what was held before and is not what it
releases (`holds_front`), and one that releases something is rejected only where there is
nothing to release (`not_holds_of_error`). Time, memory and new clients never add to what
is held.
-/

set_option autoImplicit false

namespace SensorBench

namespace Hal

/-- Whether a HAL holds a resource for a client. Reports count with their channel. -/
def Holds (hal : Hal) : Resource → Prop
  | .report _ _ => False
  | .channel n => n ∈ hal.channels.map (·.1)
  | .sensor h => ∃ s, hal.sensor? h = some s ∧ s.enabled = true
  | .mode => hal.mode ≠ .normal

/-- No sensor is enabled, no channel is registered, and the mode is normal. -/
structure Idle (hal : Hal) : Prop where
  sensors : hal.enabledHandles = []
  channels : hal.channels = []
  mode : hal.mode = .normal

/-- The turns by which nobody asks anything of a HAL: time goes by, or clients use their
memory. -/
def Turn.IsPassive (m : Turn) : Prop :=
  match m.input with
  | .call _ | .connect _ _ => False
  | _ => True

/-- A HAL comes to a later state while nobody asks anything of it. -/
def Passes (b : Behaviour) (hal next : Hal) : Prop :=
  ∃ ms : List Turn, (∀ m ∈ ms, m.IsPassive) ∧ next = hal.run b ms

section Passes

variable {b : Behaviour} {hal mid next : Hal}

theorem Passes.refl (b : Behaviour) (hal : Hal) : hal.Passes b hal :=
  ⟨[], fun _ hm => absurd hm List.not_mem_nil, rfl⟩

theorem Passes.trans (h : hal.Passes b mid) (h' : mid.Passes b next) : hal.Passes b next := by
  obtain ⟨ms, hms, rfl⟩ := h
  obtain ⟨ns, hns, rfl⟩ := h'
  refine ⟨ms ++ ns, fun m hm => ?_, (run_append b hal ms ns).symm⟩
  exact (List.mem_append.1 hm).elim (hms m) (hns m)

theorem Passes.turn (b : Behaviour) (hal : Hal) {m : Turn} (hm : m.IsPassive) :
    hal.Passes b (hal.step b m) :=
  ⟨[m], fun _ hn => List.mem_singleton.1 hn ▸ hm, rfl⟩

end Passes

theorem idle_iff {hal : Hal} (hsound : hal.Sound) : hal.Idle ↔ ∀ r, ¬hal.Holds r := by
  constructor
  · rintro ⟨hsensors, hchannels, hmode⟩ r hr
    cases r with
    | report => exact hr
    | channel n =>
      rw [Holds, hchannels] at hr
      exact absurd hr List.not_mem_nil
    | sensor h =>
      obtain ⟨s, hs, hon⟩ := hr
      have hmem : s ∈ hal.sensors.filter (·.enabled) :=
        List.mem_filter.2 ⟨List.mem_of_find?_eq_some hs, hon⟩
      rw [List.map_eq_nil_iff.1 hsensors] at hmem
      exact absurd hmem List.not_mem_nil
    | mode => exact hr hmode
  · intro h
    refine ⟨List.map_eq_nil_iff.2 (List.filter_eq_nil_iff.2 fun s hs hon => ?_),
      List.map_eq_nil_iff.1 (List.eq_nil_iff_forall_not_mem.2 fun n => h (.channel n)),
      Decidable.not_not.1 (h .mode)⟩
    exact h (.sensor s.handle) ⟨s, hsound.sensor?_of_mem hs, hon⟩

/-- A HAL starts idle. -/
theorem ofCatalog_idle (c : Catalog) (signal : Signal) : (ofCatalog c signal).Idle := by
  refine ⟨List.map_eq_nil_iff.2 (List.filter_eq_nil_iff.2 fun s hs hon => ?_), rfl, rfl⟩
  obtain ⟨d, -, rfl⟩ := (ofCatalog_sensors c signal).2 s hs
  cases hon

section Steps

variable {b : Behaviour} {hal : Hal} {r : Resource}

/-- A turn after which a sensor is enabled switched it on, or left an enabled one on. -/
theorem Sampler.Change.enabled {measuring : Bool} {m : Turn} {signal : Signal} {s t : Sampler}
    (hchange : Sampler.Change b measuring m signal s t) (hs : s.Sound) (hon : t.enabled = true) :
    m.input = .call (.activate s.handle true) ∨
      s.enabled = true ∧ m.input ≠ .call (.activate s.handle false) := by
  cases hchange with
  | passed hignores =>
    refine Or.inr ⟨hon, fun hi => ?_⟩
    rw [hi] at hignores
    exact absurd (hon.symm.trans (hignores rfl)) (by decide)
  | disconnected => cases hon
  | switchedOn hi => exact Or.inl hi
  | switchedOff => cases hon
  | retuned period latency hi =>
    rw [(Sampler.release_facts _).2.1] at hon
    exact Or.inr ⟨hon, by rw [hi]; simp⟩
  | flushRequested hi _ hson => exact Or.inr ⟨hson, by rw [hi]; simp⟩
  | advanced hi =>
    exact Or.inr ⟨(hs.advance_schedule b measuring m.time signal hon).1, by rw [hi]; simp⟩

/-- The mode is what was set last, and a new client finds it normal. The queue is that of
the last client. -/
theorem mode_queue_step (hal : Hal) (b : Behaviour) (m : Turn) :
    ((hal.step b m).mode, (hal.step b m).queue) = match m.input with
      | .call (.mode mode) => (mode, hal.queue)
      | .connect queue isOpen => (.normal, (hal.connect b queue isOpen).queue)
      | _ => (hal.mode, hal.queue) := by
  obtain ⟨now, input⟩ := m
  cases input with
  | call c =>
    cases c with
    | activate h on =>
      cases hs : hal.sensor? h with
      | none => rw [step_activate_unknown hal b now hs]
      | some s =>
        rw [step_activate hal b now hs]
        split <;> rfl
    | batch h period latency =>
      by_cases hr : period < 0 ∨ latency < 0
      · rw [step_batch_rejected hal b now (Or.inr hr)]
      · cases hs : hal.sensor? h with
        | none => rw [step_batch_rejected hal b now (Or.inl hs)]
        | some s =>
          rw [step_batch hal b now hs (by omega) (by omega)]
          rfl
    | flush h =>
      cases hs : hal.sensor? h with
      | none => rw [step_flush_unknown hal b now hs]
      | some s =>
        rw [step_flush hal b now hs]
        split <;> rfl
    | mode mode => rfl
    | inject e => rw [step_inject]
    | register kind size k =>
      by_cases hr : size < Record.width ∨ (hal.region k).size < size
      · rw [step_register_rejected hal b now hr]
      · rw [step_register hal b now hr]
    | unregister n => rw [step_unregister]
    | report h n rate =>
      rw [step_call, perform]
      cases hr : hal.configReport now h n rate with
      | error status => rfl
      | ok reply =>
        obtain ⟨token, next⟩ := reply
        cases reported_of_ok hr <;> rfl
  | _ => rfl

theorem mode_step (hal : Hal) (b : Behaviour) (m : Turn) :
    (hal.step b m).mode = match m.input with
      | .call (.mode mode) => mode
      | .connect _ _ => .normal
      | _ => hal.mode := by
  have h := congrArg Prod.fst (mode_queue_step hal b m)
  obtain ⟨now, input⟩ := m
  cases input with
  | call c => cases c <;> exact h
  | _ => exact h

/-- A sensor that is enabled after a turn was switched on by it, or was enabled before and
not switched off. -/
theorem holds_sensor_step (hsound : hal.Sound) {m : Turn} {h : Handle}
    (hr : (hal.step b m).Holds (.sensor h)) :
    m.input = .call (.activate h true) ∨
      hal.Holds (.sensor h) ∧ m.input ≠ .call (.activate h false) := by
  obtain ⟨t, ht, hon⟩ := hr
  obtain ⟨s, hs, hchange⟩ := exists_of_sensor?_step ht
  have henabled := hchange.enabled (hsound.of_sensor? hs) hon
  rw [handle_of_sensor? hs] at henabled
  exact henabled.imp_right fun ⟨hson, hne⟩ => ⟨⟨s, hs, hson⟩, hne⟩

/-- What is held while nobody asks anything was held before. -/
theorem Holds.of_passive (hsound : hal.Sound) {m : Turn} (hm : m.IsPassive)
    (hr : (hal.step b m).Holds r) : hal.Holds r := by
  have hcall : ∀ c, m.input ≠ .call c := fun c hi => by
    rw [Turn.IsPassive, hi] at hm
    exact hm
  cases r with
  | report => exact hr
  | channel n =>
    rcases mem_channels_step hr with hn | ⟨-, kind, size, k, hi, -⟩
    · exact hn
    · exact absurd hi (hcall _)
  | sensor h =>
    rcases holds_sensor_step hsound hr with hi | ⟨hold, -⟩
    · exact absurd hi (hcall _)
    · exact hold
  | mode =>
    obtain ⟨now, input⟩ := m
    rw [Holds, mode_step] at hr
    cases input with
    | call c => exact absurd rfl (hcall c)
    | connect queue isOpen => exact hm.elim
    | _ => exact hr

theorem Holds.of_passes (hsound : hal.Sound) {next : Hal} (hpasses : Passes b hal next)
    (hr : next.Holds r) : hal.Holds r := by
  obtain ⟨ms, hms, rfl⟩ := hpasses
  induction ms generalizing hal with
  | nil => exact hr
  | cons m rest ih =>
    have hrest := ih (hsound.step b m) (fun n hn => hms n (List.mem_cons_of_mem m hn)) hr
    exact hrest.of_passive hsound (hms m List.mem_cons_self)

/-- A new client finds nothing held but channels. -/
theorem Holds.of_connect {queue : Nat} {isOpen : Bool}
    (hr : (hal.connect b queue isOpen).Holds r) : hal.Holds r := by
  cases r with
  | report => exact hr
  | channel n => exact hr
  | sensor h =>
    obtain ⟨t, ht, hon⟩ := hr
    rw [sensor?_connect, Option.map_eq_some_iff] at ht
    obtain ⟨s, -, rfl⟩ := ht
    cases hon
  | mode => exact absurd rfl hr

theorem Passes.sound {next : Hal} (hpasses : Passes b hal next) (hsound : hal.Sound) :
    next.Sound := by
  obtain ⟨ms, -, rfl⟩ := hpasses
  exact hsound.run b ms

/-! ## Calls -/

variable {now v : Int} {c : Call} {next : Hal} {status : Status}

/-- A call that passes the front does on the HAL what the HAL does with it. -/
theorem performAtFront_ok (hok : hal.performAtFront b now c = .ok (v, next)) :
    next = hal.step b ⟨now, .call c⟩ ∧
      ∀ kind size k, c = .register kind size k → hal.perform b now c = .ok (v, next) := by
  unfold performAtFront at hok
  split at hok
  · cases hok
  · next c _ _ _ =>
    rw [step_call]
    cases hp : hal.perform b now c with
    | ok reply =>
      rw [hp] at hok
      cases hok
      exact ⟨rfl, fun _ _ _ _ => rfl⟩
    | error status =>
      rw [hp] at hok
      dsimp only at hok
      split at hok
      · next htolerates =>
        cases hok
        refine ⟨rfl, fun kind size k hc => ?_⟩
        -- a registration names no handle
        subst hc
        simp [tolerates, toleratedHandle?] at htolerates
      · cases hok

/-- What is held after an accepted call was acquired by it, or was held before and is not
what the call releases. -/
theorem holds_front (hsound : hal.Sound) (hok : hal.performAtFront b now c = .ok (v, next))
    (hr : next.Holds r) : r.Acquired (c, .ok v) ∨ hal.Holds r ∧ c ≠ r.release := by
  obtain ⟨rfl, hreply⟩ := performAtFront_ok hok
  cases r with
  | report => exact hr.elim
  | channel n =>
    rcases mem_channels_step hr with hn | ⟨rfl, kind, size, k, hi, hfits⟩
    · refine Or.inr ⟨hn, ?_⟩
      rintro rfl
      exact not_mem_channels_unregister hal b now n hr
    · cases hi
      have hregister := hreply kind size k rfl
      rw [perform, register, if_neg hfits] at hregister
      exact Or.inl (Prod.mk.inj (Except.ok.inj hregister)).1
  | sensor h =>
    rcases holds_sensor_step hsound hr with hi | ⟨hold, hne⟩
    · cases hi
      exact Or.inl rfl
    · exact Or.inr ⟨hold, fun e => hne (congrArg Input.call e)⟩
  | mode =>
    rw [Holds, mode_step] at hr
    cases c with
    | mode mode => exact Or.inl hr
    | _ => exact Or.inr ⟨hr, Call.noConfusion⟩

/-- What a rejected call asks to release is not held. -/
theorem not_holds_of_error (herror : hal.performAtFront b now r.release = .error status) :
    ¬hal.Holds r := by
  have hinner : ∃ status, hal.perform b now r.release = .error status := by
    unfold performAtFront at herror
    split at herror
    · next hc _ => cases r <;> cases hc
    · cases hp : hal.perform b now r.release with
      | ok reply =>
        rw [hp] at herror
        cases herror
      | error status => exact ⟨status, rfl⟩
  obtain ⟨status, hp⟩ := hinner
  intro hr
  cases r with
  | report => exact hr
  | channel n =>
    rw [Resource.release, perform, unregister] at hp
    cases hc : hal.channel? n with
    | some c =>
      rw [hc] at hp
      cases hp
    | none =>
      obtain ⟨p, hmem, rfl⟩ := List.mem_map.1 hr
      exact bne_iff_ne.1 (List.lookup_eq_none_iff.1 hc p hmem) rfl
  | sensor h =>
    obtain ⟨s, hs, hon⟩ := hr
    rw [Resource.release, perform, activate, hs] at hp
    dsimp only at hp
    rw [hon] at hp
    cases hp
  | mode => cases hp

end Steps

end Hal

end SensorBench
