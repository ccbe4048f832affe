import Mathlib.Data.List.Induction
import Mathlib.Data.List.Nodup
import SensorBench.Proofs.Hal.Channels

/-!
# The numbers of channels

What a HAL gives out from a counter it gives out once (`Counts.nodup`). It numbers its
channels so, and a channel that was removed never comes back (`Gone.run`): one that is
there at the end of a run was there all along, since its registration
(`not_unregistered`).
-/

set_option autoImplicit false

namespace SensorBench.Hal

/-- Each turn gives out the value of a counter, which then goes up by one, or nothing. -/
def Counts (b : Behaviour) (counter : Hal → Int) (given : Hal → Turn → List Int) : Prop :=
  ∀ hal m, given hal m = [] ∧ counter (hal.step b m) = counter hal ∨
    given hal m = [counter hal] ∧ counter (hal.step b m) = counter hal + 1

section Counts

variable {b : Behaviour} {counter : Hal → Int} {given : Hal → Turn → List Int}

/-- What a run gives out follows one another, and the next value comes behind it. -/
theorem Counts.run (h : Counts b counter given) (hal : Hal) (ms : List Turn) :
    along b given hal ms = (List.range (along b given hal ms).length).map
        (fun i : Nat => counter hal + i) ∧
      counter (hal.run b ms) = counter hal + (along b given hal ms).length := by
  induction ms using List.reverseRecOn with
  | nil => exact ⟨rfl, (Int.add_zero _).symm⟩
  | append_singleton before m ih =>
    obtain ⟨hgiven, hnext⟩ := ih
    rw [along_concat, run_concat]
    rcases h (hal.run b before) m with ⟨hnone, hstep⟩ | ⟨hone, hstep⟩
    · rw [hnone, List.append_nil, hstep]
      exact ⟨hgiven, hnext⟩
    · rw [hone, hstep, hnext, List.length_append, List.length_singleton, List.range_succ,
        List.map_append, ← hgiven]
      exact ⟨rfl, Int.add_assoc _ _ _⟩

theorem Counts.le_step (h : Counts b counter given) (hal : Hal) (m : Turn) :
    counter hal ≤ counter (hal.step b m) := by
  rcases h hal m with ⟨-, hstep⟩ | ⟨-, hstep⟩ <;> omega

/-- Nothing is given out twice. -/
theorem Counts.nodup (h : Counts b counter given) (hal : Hal) (ms : List Turn) :
    (along b given hal ms).Nodup := by
  rw [(h.run hal ms).1]
  apply List.Nodup.map _ List.nodup_range
  intro i j hij
  have hij : counter hal + i = counter hal + j := hij
  omega

theorem Counts.bounds (h : Counts b counter given) (hal : Hal) (ms : List Turn) :
    ∀ n ∈ along b given hal ms, counter hal ≤ n ∧ n < counter (hal.run b ms) := by
  intro n hn
  rw [(h.run hal ms).1, List.mem_map] at hn
  obtain ⟨i, hi, rfl⟩ := hn
  have hlt := List.mem_range.1 hi
  rw [(h.run hal ms).2]
  omega

end Counts

/-- The number that a turn gives to a new channel. -/
def numbersIn (hal : Hal) (m : Turn) : List Int :=
  match m.input with
  | .call (.register kind size memory) =>
    match hal.register kind size memory with
    | .ok (number, _) => [number]
    | .error _ => []
  | _ => []

/-- A number was given out before, and no channel has it any more. -/
structure Gone (hal : Hal) (n : Int) : Prop where
  given : n < hal.nextChannel
  missing : n ∉ hal.channels.map (·.1)

section Steps

variable {hal : Hal} {m : Turn} {n : Int}

theorem numbersIn_register (hal : Hal) (now : Int) (kind : MemoryKind) (size memory : Nat) :
    hal.numbersIn ⟨now, .call (.register kind size memory)⟩ =
      if size < Record.width ∨ (hal.region memory).size < size then []
      else [hal.nextChannel] := by
  rw [numbersIn]
  dsimp only
  rw [register]
  by_cases h : size < Record.width ∨ (hal.region memory).size < size
  · rw [if_pos h, if_pos h]
  · rw [if_neg h, if_neg h]

theorem numbersIn_of_ne_register (hm : ∀ kind size k, m.input ≠ .call (.register kind size k)) :
    hal.numbersIn m = [] := by
  rw [numbersIn]
  split
  · next hi => exact absurd hi (hm _ _ _)
  · rfl

/-- Channels are numbered by their counter. -/
theorem numbers_counts (b : Behaviour) : Counts b (·.nextChannel) numbersIn := by
  intro hal m
  by_cases hregister : ∃ kind size k, m.input = .call (.register kind size k)
  · obtain ⟨kind, size, k, hi⟩ := hregister
    obtain ⟨now, input⟩ := m
    cases hi
    rw [numbersIn_register]
    by_cases hfits : size < Record.width ∨ (hal.region k).size < size
    · rw [if_pos hfits, step_register_rejected hal b now hfits]
      exact Or.inl ⟨rfl, rfl⟩
    · rw [if_neg hfits, step_register hal b now hfits]
      exact Or.inr ⟨rfl, rfl⟩
  · have hnone : ∀ kind size k, m.input ≠ .call (.register kind size k) :=
      fun kind size k hi => hregister ⟨kind, size, k, hi⟩
    refine Or.inl ⟨numbersIn_of_ne_register hnone, ?_⟩
    -- the other turns leave the counter alone
    have hstep := table_step b hal m
    generalize hal.step b m = next at hstep ⊢
    cases hstep with
    | kept _ _ _ hnext => exact hnext
    | allocated region _ heq => rw [heq]; rfl
    | wrote k offset bytes _ heq => rw [heq]
    | advanced _ heq => rw [heq]; rfl
    | registered kind size k hi => exact absurd hi (hnone kind size k)
    | unregistered i _ heq => rw [heq]
    | reported h i rate token _ _ hr => exact hr.facts.2.1

/-- A channel that is there after a turn was there before, or the turn registered it under
the next number. -/
theorem mem_channels_step {b : Behaviour} (hn : n ∈ (hal.step b m).channels.map (·.1)) :
    n ∈ hal.channels.map (·.1) ∨ n = hal.nextChannel ∧ ∃ kind size k,
      m.input = .call (.register kind size k) ∧
        ¬(size < Record.width ∨ (hal.region k).size < size) := by
  have hstep := table_step b hal m
  generalize hal.step b m = next at hstep hn
  cases hstep with
  | kept _ _ hchannels =>
    rw [hchannels] at hn
    exact Or.inl hn
  | allocated region _ heq =>
    subst heq
    exact Or.inl hn
  | wrote k offset bytes _ heq =>
    subst heq
    exact Or.inl hn
  | advanced _ heq =>
    subst heq
    have hkeys : (hal.advance b m.time).2.channels.map (·.1) = hal.channels.map (·.1) :=
      keys_advanceChannels m.time _ _ _
    exact Or.inl (hkeys ▸ hn)
  | registered kind size k hi hfits heq =>
    subst heq
    rw [List.map_append] at hn
    rcases List.mem_append.1 hn with hn | hn
    · exact Or.inl hn
    · exact Or.inr ⟨List.mem_singleton.1 hn, kind, size, k, hi, hfits⟩
  | unregistered i _ heq =>
    subst heq
    exact Or.inl ((List.filter_sublist.map _).subset hn)
  | reported h i rate token _ _ hr =>
    rw [hr.facts.1] at hn
    exact Or.inl hn

theorem not_mem_channels_unregister (hal : Hal) (b : Behaviour) (now n : Int) :
    n ∉ (hal.step b ⟨now, .call (.unregister n)⟩).channels.map (·.1) := by
  rw [step_unregister]
  intro hn
  obtain ⟨p, hp, rfl⟩ := List.mem_map.1 hn
  simpa using (List.mem_filter.1 hp).2

/-- A channel that is gone stays away: only the next number is given out. -/
theorem Gone.step (h : hal.Gone n) (b : Behaviour) (m : Turn) : (hal.step b m).Gone n := by
  constructor
  · exact Int.lt_of_lt_of_le h.given ((numbers_counts b).le_step hal m)
  · intro hn
    rcases mem_channels_step hn with hn | ⟨rfl, -⟩
    · exact h.missing hn
    · exact Int.lt_irrefl _ h.given

theorem Gone.run (h : hal.Gone n) (b : Behaviour) (ms : List Turn) : (hal.run b ms).Gone n :=
  run_keeps (fun hal m (hg : hal.Gone n) => hg.step b m) ms h

end Steps

section Runs

variable {b : Behaviour} {hal : Hal} {n : Int} {ms : List Turn}

/-- A number that was given out before a run and is taken after it was taken before. -/
theorem mem_channels_of_run (hlt : n < hal.nextChannel)
    (hn : n ∈ (hal.run b ms).channels.map (·.1)) : n ∈ hal.channels.map (·.1) := by
  by_contra hmissing
  have hgone : hal.Gone n := ⟨hlt, hmissing⟩
  exact (hgone.run b ms).missing hn

/-- No turn of a run removes a channel that is there at its end. -/
theorem not_unregistered (hlt : n < hal.nextChannel)
    (hn : n ∈ (hal.run b ms).channels.map (·.1)) :
    ∀ m ∈ ms, m.input ≠ .call (.unregister n) := by
  intro m hm hi
  obtain ⟨before, after, rfl⟩ := List.append_of_mem hm
  rw [run_append] at hn
  obtain ⟨now, input⟩ := m
  cases hi
  have hle : hal.nextChannel ≤ (hal.run b before).nextChannel := by
    rw [((numbers_counts b).run hal before).2]
    omega
  have hafter : n < ((hal.run b before).step b ⟨now, .call (.unregister n)⟩).nextChannel :=
    Int.lt_of_lt_of_le hlt (Int.le_trans hle ((numbers_counts b).le_step _ _))
  exact not_mem_channels_unregister _ b now n (mem_channels_of_run hafter hn)

end Runs

end SensorBench.Hal
