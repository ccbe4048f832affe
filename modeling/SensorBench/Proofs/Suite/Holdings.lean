import Mathlib.Data.List.Induction
import Mathlib.Tactic.Tauto
import SensorBench.Proofs.Suite.Acts
import SensorBench.Suite.Guard

/-!
# What a guard holds

A guard is a ledger of the calls made through it. A resource is held from a call that
acquires it until one that gives it up, whatever a HAL replies to the calls in between
(`Held`). The guard notes just that, but for one case: it forgets a channel and its
reports when it passes on a request to unregister the channel, and a rejection does not
bring them back (`Lost`). So what a guard releases when it is left is what is held and
not lost, each report before any channel (`releases_held`), and it counts as clean
exactly if all that is held is lost. `rejected_channel_lost` is the case itself.
-/

set_option autoImplicit false

namespace SensorBench

/-- A call and the reply to it. -/
abbrev Exchange := Call × Except Status Int

/-- What a guard may hold. -/
inductive Resource where
  | report (channel : Int) (handle : Handle)
  | channel (number : Int)
  | sensor (handle : Handle)
  | mode
  deriving DecidableEq

namespace Resource

/-- The call that releases a resource. -/
def release : Resource → Call
  | .report c h => .report h c .stop
  | .channel c => .unregister c
  | .sensor h => .activate h false
  | .mode => .mode .normal

/-- Whether a resource is a report. -/
def IsReport : Resource → Prop
  | .report .. => True
  | _ => False

/-- Whether an exchange acquires a resource. A mode other than normal counts as
acquired by any attempt to set it. -/
def Acquired : Resource → Exchange → Prop
  | .report c h, (.report k n rate, .ok _) => c = n ∧ h = k ∧ rate ≠ .stop
  | .channel c, (.register .., .ok n) => c = n
  | .sensor h, (.activate k true, .ok _) => h = k
  | .mode, (.mode m, _) => m ≠ .normal
  | _, _ => False

/-- Whether an exchange gives a resource up. A channel takes its reports with it. -/
def GivenUp : Resource → Exchange → Prop
  | .report c h, (.report k n rate, .ok _) => c = n ∧ h = k ∧ rate = .stop
  | .report c _, (.unregister n, .ok _) => c = n
  | .channel c, (.unregister n, .ok _) => c = n
  | .sensor h, (.activate k false, .ok _) => h = k
  | .mode, (.mode m, .ok _) => m = .normal
  | _, _ => False

/-- Whether an exchange makes a guard forget a resource that it does not give up: the
request to unregister a channel was rejected. -/
def Forgotten : Resource → Exchange → Prop
  | .report c _, (.unregister n, .error _) => c = n
  | .channel c, (.unregister n, .error _) => c = n
  | _, _ => False

end Resource

/-- Something of a kind has happened and since then nothing of another kind. -/
def Since {α : Type} (starts ends : α → Prop) (xs : List α) : Prop :=
  ∃ before x after, xs = before ++ x :: after ∧ starts x ∧ ∀ y ∈ after, ¬ends y

/-- A resource is held: acquired, and not given up since. -/
def Held (r : Resource) (xs : List Exchange) : Prop := Since r.Acquired r.GivenUp xs

/-- A resource is lost to a guard: forgotten, and not acquired since. -/
def Lost (r : Resource) (xs : List Exchange) : Prop := Since r.Forgotten r.Acquired xs

section Since

variable {α : Type} {starts ends : α → Prop}

theorem not_since_nil : ¬Since starts ends [] := by
  rintro ⟨before, x, after, h, -, -⟩
  exact absurd h.symm (List.append_ne_nil_of_right_ne_nil before (List.cons_ne_nil x after))

/-- What one more event does: it starts the time, or the time goes on. -/
theorem since_concat {xs : List α} {x : α} :
    Since starts ends (xs ++ [x]) ↔ starts x ∨ Since starts ends xs ∧ ¬ends x := by
  constructor
  · rintro ⟨before, y, after, h, hy, hafter⟩
    rcases List.eq_nil_or_concat after with rfl | ⟨rest, z, rfl⟩
    · obtain ⟨-, hlast⟩ := List.append_inj' h rfl
      cases hlast
      exact Or.inl hy
    · have hsplit : xs ++ [x] = (before ++ y :: rest) ++ [z] := by
        rw [h, List.concat_eq_append, List.append_assoc, List.cons_append]
      obtain ⟨rfl, hz⟩ := List.append_inj' hsplit rfl
      cases hz
      rw [List.concat_eq_append] at hafter
      exact Or.inr ⟨⟨before, y, rest, rfl, hy, fun w hw => hafter w (List.mem_append_left _ hw)⟩,
        hafter x (List.mem_append_right _ List.mem_cons_self)⟩
  · rintro (hx | ⟨⟨before, y, after, rfl, hy, hafter⟩, hx⟩)
    · exact ⟨xs, x, [], rfl, hx, fun _ hy => absurd hy List.not_mem_nil⟩
    · refine ⟨before, y, after ++ [x], by rw [List.append_assoc, List.cons_append], hy,
        fun z hz => ?_⟩
      rcases List.mem_append.1 hz with hz | hz
      · exact hafter z hz
      · exact List.mem_singleton.1 hz ▸ hx

end Since

namespace Guard

/-- Whether a guard has a note of a resource. -/
def Notes (g : Guard) : Resource → Prop
  | .report c h => (c, h) ∈ g.reports
  | .channel c => c ∈ g.channels
  | .sensor h => h ∈ g.sensors
  | .mode => g.mode = true

/-- The guard after an exchange. -/
def note (g : Guard) (x : Exchange) : Guard := (g.beforeCall x.1).afterCall x.1 x.2

/-- The reports that a guard has a note of, in the order of their release. -/
def stops (g : Guard) : List Resource := g.reports.map fun (c, h) => .report c h

/-- What else a guard has a note of, in the order of its release. -/
def others (g : Guard) : List Resource :=
  g.channels.map .channel ++ g.sensors.map .sensor ++ if g.mode then [.mode] else []

theorem mem_insertBy {α : Type} [DecidableEq α] {before : α → α → Bool} {a x : α}
    {xs : List α} : x ∈ insertBy before a xs ↔ x = a ∨ x ∈ xs := by
  induction xs with
  | nil => simp [insertBy]
  | cons y rest ih =>
    rw [insertBy]
    split
    · next h =>
      subst h
      simp
    · split
      · simp
      · rw [List.mem_cons, ih, List.mem_cons]
        exact or_left_comm

theorem notes_empty (r : Resource) : ¬Notes empty r := by
  cases r <;> simp [Notes, empty]

theorem mem_stops {g : Guard} {r : Resource} :
    r ∈ g.stops ↔ r.IsReport ∧ g.Notes r := by
  cases r <;> simp [stops, Notes, Resource.IsReport]

theorem mem_others {g : Guard} {r : Resource} :
    r ∈ g.others ↔ ¬r.IsReport ∧ g.Notes r := by
  cases r <;> cases h : g.mode <;> simp [others, Notes, Resource.IsReport, h]

/-- The releases of a guard are those of its reports and then all others. -/
theorem releases_eq (g : Guard) :
    g.releases = g.stops.map Resource.release ++ g.others.map Resource.release := by
  cases h : g.mode <;>
    simp [releases, stops, others, h, Resource.release, Function.comp_def]

/-- The guard is clean exactly if it has a note of nothing. -/
theorem isClean_iff {g : Guard} : g.isClean = true ↔ ∀ r, ¬g.Notes r := by
  constructor
  · intro h r
    simp only [isClean, Bool.and_eq_true, List.isEmpty_iff, Bool.not_eq_true'] at h
    obtain ⟨⟨⟨hs, hc⟩, hr⟩, hm⟩ := h
    cases r <;> simp [Notes, hs, hc, hr, hm]
  · intro h
    have hs : g.sensors = [] := List.eq_nil_iff_forall_not_mem.2 fun k => h (.sensor k)
    have hc : g.channels = [] := List.eq_nil_iff_forall_not_mem.2 fun c => h (.channel c)
    have hr : g.reports = [] := List.eq_nil_iff_forall_not_mem.2 fun p => h (.report p.1 p.2)
    have hm : g.mode = false := Bool.eq_false_iff.2 (h .mode)
    simp [isClean, hs, hc, hr, hm]

/-- What one exchange does to the notes: a resource that it acquires is noted, one that it
gives up or makes the guard forget is not, and any other is noted as before. -/
theorem notes_note {g : Guard} {x : Exchange} {r : Resource} :
    (g.note x).Notes r ↔
      r.Acquired x ∨ g.Notes r ∧ ¬r.GivenUp x ∧ ¬r.Forgotten x := by
  obtain ⟨c, reply⟩ := x
  cases c with
  | activate k on =>
    cases on <;> cases reply <;> cases r <;>
      simp [note, beforeCall, afterCall, Notes, Resource.Acquired, Resource.GivenUp,
        Resource.Forgotten, mem_insertBy]
  | mode m =>
    cases m <;> cases reply <;> cases r <;>
      simp [note, beforeCall, afterCall, Notes, Resource.Acquired, Resource.GivenUp,
        Resource.Forgotten]
  | register kind size memory =>
    cases reply <;> cases r <;>
      simp [note, beforeCall, afterCall, Notes, Resource.Acquired, Resource.GivenUp,
        Resource.Forgotten, mem_insertBy]
  | unregister n =>
    cases reply <;> cases r <;>
      simp [note, beforeCall, afterCall, Notes, Resource.Acquired, Resource.GivenUp,
        Resource.Forgotten]
  | report k n rate =>
    cases rate <;> cases reply <;> cases r <;>
      simp [note, beforeCall, afterCall, Notes, Resource.Acquired, Resource.GivenUp,
        Resource.Forgotten, mem_insertBy, Decidable.imp_iff_not_or]
  | _ =>
    cases r <;> simp [note, beforeCall, afterCall, Notes, Resource.Acquired, Resource.GivenUp,
      Resource.Forgotten]

/-- The guard after some exchanges. -/
def noted (xs : List Exchange) : Guard := xs.foldl note empty

/-- After any exchanges a guard has a note of what is held and not lost. -/
theorem notes_noted {xs : List Exchange} {r : Resource} :
    (noted xs).Notes r ↔ Held r xs ∧ ¬Lost r xs := by
  induction xs using List.reverseRecOn with
  | nil => exact iff_of_false (notes_empty r) fun h => not_since_nil h.1
  | append_singleton xs x ih =>
    have hexclusive : r.Acquired x → ¬r.Forgotten x := by
      obtain ⟨c, reply⟩ := x
      cases c <;> cases reply <;> cases r <;> simp [Resource.Acquired, Resource.Forgotten]
    rw [noted, List.foldl_append, List.foldl_cons, List.foldl_nil, notes_note, Held, Lost,
      since_concat, since_concat]
    rw [noted, Held, Lost] at ih
    rw [ih]
    tauto

/-! ## Calls through a guard -/

section Calls

variable {σ : Type}

/-- Calls made through the guard one after the other, whatever the replies. -/
def calls (host : Host (Guard × σ)) (cs : List Call) : Act (Guard × σ) Unit :=
  Act.each cs fun c => .andThen (call host c) fun _ => .value ()

theorem calls_singleton (host : Host (Guard × σ)) (c : Call) :
    calls host [c] = Act.andThen (call host c) fun _ => .value () :=
  Act.andThen_assoc _ _ _

/-- A guard takes no note of what is configured. -/
theorem call_batch (host : Host (Guard × σ)) (h : Handle) (period latency : Int) :
    call host (.batch h period latency) = host.call (.batch h period latency) := by
  funext ⟨g, s⟩
  simp only [call, beforeCall]
  rcases host.call (.batch h period latency) (g, s) with ⟨_ | reply, g', s'⟩ <;> rfl

/-- Switching all sensors on or off is a series of calls. -/
theorem activateAll_eq (host : Host (Guard × σ)) (sensors : Catalog) (on : Bool) :
    activateAll host sensors on = calls host ((sensors.filter fun d => !d.kind.isMeta).flatMap
      fun d => (if on then [.batch d.handle d.minDelayNs 0] else []) ++
        [.activate d.handle on]) := by
  rw [activateAll]
  generalize sensors.filter (fun d => !d.kind.isMeta) = chosen
  induction chosen with
  | nil => rfl
  | cons d rest ih =>
    rw [List.flatMap_cons, calls, Act.each_append, Act.each, ih]
    refine congrArg (Act.andThen · _) ?_
    cases on with
    | true =>
      show Act.andThen (host.call (.batch d.handle d.minDelayNs 0)) _ =
        Act.andThen (Act.andThen (call host (.batch d.handle d.minDelayNs 0)) _) _
      rw [call_batch, Act.andThen_assoc]
      refine congrArg (Act.andThen _) (funext fun _ => ?_)
      exact (calls_singleton host (.activate d.handle true)).symm
    | false => exact (calls_singleton host (.activate d.handle false)).symm

/-- A host that answers calls by what has been exchanged so far, and keeps that. -/
def answering (answers : List Exchange → Call → Except Status Int) : Host (List Exchange) :=
  fun q xs =>
    match q with
    | .call c => (.ok (answers xs c), xs ++ [(c, answers xs c)])
    | .release c => (.ok (answers xs c), xs ++ [(c, answers xs c)])
    | _ => (.error "not a call", xs)

variable (answers : List Exchange → Call → Except Status Int)

theorem calls_answering (cs : List Call) (g : Guard) (xs : List Exchange) :
    ∃ ys : List Exchange, ys.map (·.1) = cs ∧
      calls (answering answers).beside cs (g, xs) = (.ok (), (ys.foldl note g, xs ++ ys)) := by
  induction cs generalizing g xs with
  | nil => exact ⟨[], rfl, by rw [List.append_nil]; rfl⟩
  | cons c rest ih =>
    obtain ⟨ys, hys, hcalls⟩ := ih (g.note (c, answers xs c)) (xs ++ [(c, answers xs c)])
    refine ⟨(c, answers xs c) :: ys, by rw [List.map_cons, hys], ?_⟩
    rw [List.append_assoc] at hcalls
    exact hcalls

theorem release_answering (g : Guard) (xs : List Exchange) :
    ∃ ys : List Exchange, ys.map (·.1) = g.releases ∧
      g.release (answering answers) xs = (.ok (), xs ++ ys) := by
  rw [release]
  generalize g.releases = cs
  induction cs generalizing xs with
  | nil => exact ⟨[], rfl, by rw [List.append_nil]; rfl⟩
  | cons c rest ih =>
    obtain ⟨ys, hys, hrest⟩ := ih (xs ++ [(c, answers xs c)])
    refine ⟨(c, answers xs c) :: ys, by rw [List.map_cons, hys], ?_⟩
    rw [List.append_assoc] at hrest
    exact hrest

/-- Against any HAL, after any calls through a guard: leaving the guard releases exactly
what is held and not lost, the reports before all else, and the guard is clean exactly if
all that is held is lost. -/
theorem releases_held (cs : List Call) :
    ∃ (xs ys : List Exchange) (stops others : List Resource), xs.map (·.1) = cs ∧
      calls (answering answers).beside cs (empty, []) = (.ok (), (noted xs, xs)) ∧
      guarded (answering answers) (fun host => calls host cs) [] = (.ok (), xs ++ ys) ∧
      ys.map (·.1) = stops.map Resource.release ++ others.map Resource.release ∧
      (∀ r, r ∈ stops ↔ r.IsReport ∧ Held r xs ∧ ¬Lost r xs) ∧
      (∀ r, r ∈ others ↔ ¬r.IsReport ∧ Held r xs ∧ ¬Lost r xs) ∧
      ((noted xs).isClean = true ↔ ∀ r, Held r xs → Lost r xs) := by
  obtain ⟨xs, hxs, hcalls⟩ := calls_answering answers cs empty []
  obtain ⟨ys, hys, hrelease⟩ := release_answering answers (noted xs) xs
  refine ⟨xs, ys, (noted xs).stops, (noted xs).others, hxs, hcalls,
    Act.alongside_eq hcalls hrelease, ?_, fun r => ?_, fun r => ?_, ?_⟩
  · rw [hys, releases_eq]
  · rw [mem_stops, notes_noted]
  · rw [mem_others, notes_noted]
  · rw [isClean_iff]
    simp only [notes_noted, not_and, not_not]

end Calls

/-- A channel is registered, and the request to unregister it is rejected: it is held, but
the guard counts as clean, and leaving it releases nothing. -/
theorem rejected_channel_lost :
    let answers : List Exchange → Call → Except Status Int := fun _ c =>
      match c with
      | .unregister _ => .error .badValue
      | _ => .ok 1
    let cs : List Call := [.register .ashmem 416 0, .unregister 1]
    let xs : List Exchange := [(.register .ashmem 416 0, .ok 1), (.unregister 1, .error .badValue)]
    calls (answering answers).beside cs (empty, []) = (.ok (), (noted xs, xs)) ∧
      Held (.channel 1) xs ∧ (noted xs).isClean = true ∧
      guarded (answering answers) (fun host => calls host cs) [] = (.ok (), xs) := by
  refine ⟨rfl, ⟨[], _, _, rfl, rfl, ?_⟩, rfl, rfl⟩
  intro y hy
  rw [List.mem_singleton.1 hy]
  exact id

end Guard

end SensorBench
