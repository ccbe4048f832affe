import SensorBench.Proofs.Hal.InPlace
import SensorBench.Proofs.Hal.View

/-!
# Rejected calls

What arrives at a HAL in service are calls on its state or through its front, clients that
connect, time going by and writes to shared memory. Calls are carried out in place. One that
is rejected leaves every part of the state as it was, so that a run and the same run without
its rejected calls end in one state and are seen alike (`rejected_change_nothing`).
-/

set_option autoImplicit false

namespace SensorBench.Hal

/-- Where a call comes in. -/
inductive Way where
  | state
  | front

/-- A turn, with the way in that its call takes. -/
structure Arrival where
  way : Way
  turn : Turn

/-- What a client sees of an arrival. -/
inductive Sight where
  | reply (r : Except Status Int)
  | batch (items : List Item)
  | nothing

/-- Whether the front refuses a call before it begins. -/
def refuses (b : Behaviour) : Call → Bool
  | .register .. => b.rejectDirectChannels
  | _ => false

namespace Command

/-- A call with its rejection hidden where that is tolerated. -/
def forgiving (b : Behaviour) (c : Call) (x : Command Int) : Command Int := fun hal =>
  match x hal with
  | (.ok v, next) => (.ok v, next)
  | (.error status, next) => (if next.tolerates b c status then .ok 0 else .error status, next)

/-- A call at the front of a HAL. -/
def atFront (b : Behaviour) (now : Int) (c : Call) : Command Int :=
  if refuses b c then reject .noMemory else forgiving b c (carryOut b now c)

/-- A call carried out where it comes in. -/
def serve (b : Behaviour) (now : Int) (c : Call) : Way → Command Int
  | .state => carryOut b now c
  | .front => atFront b now c

end Command

/-- What an arrival shows and the state after it. -/
def respond (b : Behaviour) (hal : Hal) (r : Arrival) : Sight × Hal :=
  match r.turn.input with
  | .call c =>
    let (reply, next) := Command.serve b r.turn.time c r.way hal
    (.reply reply, next)
  | .advance =>
    let (items, next) := hal.advance b r.turn.time
    (.batch items, next)
  | _ => (.nothing, hal.step b r.turn)

/-- Whether an arrival is a call that is rejected, by the state or where it comes in. -/
def rejects (b : Behaviour) (hal : Hal) (r : Arrival) : Bool :=
  match r.turn.input with
  | .call c =>
    !(Command.carryOut b r.turn.time c hal).1.isOk ||
      !(Command.serve b r.turn.time c r.way hal).1.isOk
  | _ => false

/-- The state after some arrivals. -/
def after (b : Behaviour) : Hal → List Arrival → Hal
  | hal, [] => hal
  | hal, r :: rest => after b (hal.respond b r).2 rest

/-- What some arrivals show one after the other, and which of them are rejected. -/
def log (b : Behaviour) : Hal → List Arrival → List (Bool × Sight)
  | _, [] => []
  | hal, r :: rest => (hal.rejects b r, (hal.respond b r).1) :: log b (hal.respond b r).2 rest

/-- The arrivals of a run without the rejected ones. -/
def unrejected (b : Behaviour) : Hal → List Arrival → List Arrival
  | _, [] => []
  | hal, r :: rest =>
    if hal.rejects b r then unrejected b (hal.respond b r).2 rest
    else r :: unrejected b (hal.respond b r).2 rest

theorem performAtFront_eq (b : Behaviour) (hal : Hal) (now : Int) (c : Call) :
    hal.performAtFront b now c =
      if refuses b c then .error .noMemory
      else match hal.perform b now c with
        | .ok r => .ok r
        | .error status => if hal.tolerates b c status then .ok (0, hal) else .error status := by
  cases c with
  | register kind size memory =>
    cases hr : b.rejectDirectChannels with
    | true => simp only [performAtFront, refuses, hr, if_true]
    | false =>
      rw [refuses, hr, if_neg Bool.false_ne_true]
      exact performAtFront_passed (Or.inr hr) hal now
  | _ => exact performAtFront_passed (Or.inl fun _ _ _ => Call.noConfusion) hal now

section Arrival

variable {hal : Hal} (h : hal.Orderly) (b : Behaviour)

include h

theorem atFront_eq (now : Int) (c : Call) :
    Command.atFront b now c hal = settled hal (hal.performAtFront b now c) := by
  rw [Command.atFront, performAtFront_eq, Command.ite_run, Command.forgiving, carryOut_eq h]
  split
  · rfl
  · cases hal.perform b now c with
    | ok r => rfl
    | error status =>
      dsimp only [settled]
      split <;> rfl

/-- A call that the state rejects leaves it as it was, whichever way it came in. -/
theorem serve_of_rejected {now : Int} {c : Call}
    (hc : (Command.carryOut b now c hal).1.isOk = false) (way : Way) :
    (Command.serve b now c way hal).2 = hal := by
  rw [carryOut_eq h] at hc
  cases hperform : hal.perform b now c with
  | ok r =>
    rw [hperform] at hc
    cases hc
  | error status =>
    have hrejected : Command.carryOut b now c hal = (.error status, hal) := by
      rw [carryOut_eq h, hperform]
      rfl
    cases way with
    | state => rw [Command.serve, hrejected]
    | front =>
      rw [Command.serve, Command.atFront, Command.ite_run, Command.forgiving, hrejected]
      split <;> rfl

omit h in
theorem settled_of_error {r : Except Status (Int × Hal)} (hr : (settled hal r).1.isOk = false) :
    (settled hal r).2 = hal := by
  cases r with
  | ok p => cases hr
  | error status => rfl

/-- A call that is turned down where it comes in leaves the state as it was. -/
theorem serve_of_refused {now : Int} {c : Call} {way : Way}
    (hc : (Command.serve b now c way hal).1.isOk = false) :
    (Command.serve b now c way hal).2 = hal := by
  cases way with
  | state =>
    rw [Command.serve, carryOut_eq h] at hc ⊢
    exact settled_of_error hc
  | front =>
    rw [Command.serve, atFront_eq h] at hc ⊢
    exact settled_of_error hc

theorem respond_of_rejects {r : Arrival} (hr : hal.rejects b r = true) :
    (hal.respond b r).2 = hal := by
  obtain ⟨way, now, input⟩ := r
  cases input with
  | call c =>
    rcases Bool.or_eq_true_iff.1 hr with hr | hr
    · exact serve_of_rejected h b (by simpa using hr) way
    · exact serve_of_refused h b (by simpa using hr)
  | _ => cases hr

/-- An arrival that is not turned down does what its turn does. -/
theorem respond_step {r : Arrival} (hr : hal.rejects b r = false) :
    (hal.respond b r).2 = hal.step b r.turn := by
  obtain ⟨way, now, input⟩ := r
  cases input with
  | call c =>
    obtain ⟨hstate, hway⟩ := Bool.or_eq_false_iff.1 hr
    show (Command.serve b now c way hal).2 = _
    rw [step_call]
    cases hperform : hal.perform b now c with
    | error status =>
      rw [carryOut_eq h, hperform] at hstate
      cases hstate
    | ok p =>
      cases way with
      | state =>
        rw [Command.serve, carryOut_eq h, hperform]
        rfl
      | front =>
        rw [Command.serve, Command.atFront, Command.ite_run, Command.forgiving, carryOut_eq h,
          hperform] at hway ⊢
        cases hrefused : refuses b c with
        | true =>
          rw [hrefused] at hway
          cases hway
        | false => rfl
  | _ => rfl

theorem Orderly.respond (r : Arrival) : (hal.respond b r).2.Orderly := by
  cases hr : hal.rejects b r with
  | true => exact (respond_of_rejects h b hr).symm ▸ h
  | false => exact (respond_step h b hr).symm ▸ h.step b r.turn

end Arrival

section Runs

variable (b : Behaviour)

theorem Orderly.after {hal : Hal} (h : hal.Orderly) (rs : List Arrival) :
    (hal.after b rs).Orderly := by
  induction rs generalizing hal with
  | nil => exact h
  | cons r rest ih => exact ih (h.respond b r)

/-- Rejected calls can be left out of a run. -/
theorem unrejected_facts {hal : Hal} (h : hal.Orderly) (rs : List Arrival) :
    hal.after b (hal.unrejected b rs) = hal.after b rs ∧
      hal.log b (hal.unrejected b rs) = (hal.log b rs).filter (!·.1) := by
  induction rs generalizing hal with
  | nil => exact ⟨rfl, rfl⟩
  | cons r rest ih =>
    obtain ⟨hafter, hlog⟩ := ih (h.respond b r)
    rw [unrejected, Hal.after, log]
    cases hr : hal.rejects b r with
    | true =>
      rw [respond_of_rejects h b hr] at hafter hlog ⊢
      exact ⟨hafter, hlog⟩
    | false => exact ⟨hafter, by simp only [Bool.false_eq_true, if_false, log, hr, hlog]; rfl⟩

end Runs

/-- In the state after any arrivals at the HAL of any catalog, with any faults: a call in
place gives the reply of `perform`, and its next state if it is accepted; if it is rejected,
the state stays as it was, whether it came in at the state or at the front; and so it does
when the front alone turns a call down. The arrivals without all calls that are rejected end
in the same state, none of them is rejected, and they show the same replies and batches. -/
theorem rejected_change_nothing (catalog : Catalog) (signal : Signal) (b : Behaviour)
    (rs : List Arrival) :
    let start := ofCatalog catalog signal
    let hal := start.after b rs
    (∀ now c,
        Command.carryOut b now c hal = settled hal (hal.perform b now c) ∧
          Command.atFront b now c hal = settled hal (hal.performAtFront b now c) ∧
          ((Command.carryOut b now c hal).1.isOk = false →
            ∀ way, (Command.serve b now c way hal).2 = hal)) ∧
      (∀ r, hal.rejects b r = true → (hal.respond b r).2 = hal) ∧
      start.after b (start.unrejected b rs) = hal ∧
      start.log b (start.unrejected b rs) = (start.log b rs).filter (!·.1) := by
  intro start hal
  have hstart : start.Orderly := ofCatalog_orderly catalog signal
  have hhal : hal.Orderly := hstart.after b rs
  obtain ⟨hafter, hlog⟩ := unrejected_facts b hstart rs
  exact ⟨fun now c => ⟨carryOut_eq hhal b now c, atFront_eq hhal b now c,
    fun hc way => serve_of_rejected hhal b hc way⟩,
    fun r hr => respond_of_rejects hhal b hr, hafter, hlog⟩

end SensorBench.Hal
