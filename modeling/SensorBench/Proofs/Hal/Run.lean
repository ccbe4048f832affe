import SensorBench.Hal.Call

/-!
# Runs of the reference HAL

A run starts from a HAL and takes one input after the other, each at a clock
value: calls, connections of clients, time going by, and what clients do to
shared memory on their own. A rejected call leaves the HAL as it is. What the
turns of a run bring is gathered by `along`, so that the history of a run is a
function of the run and no part of the state.
-/

set_option autoImplicit false

namespace SensorBench.Hal

/-- What may reach a HAL: a call, a client that connects with a queue, the clock
alone, and memory that a client allocates or writes to. -/
inductive Input where
  | call (c : Call)
  | connect (queue : Nat) (isOpen : Bool)
  | advance
  | allocate (region : Region)
  | write (memory offset : Nat) (bytes : List UInt8)

/-- An input at a clock value. -/
structure Turn where
  time : Int
  input : Input

/-- The HAL after a call: the next state, or the same one if the call was
rejected. -/
def afterCall (hal : Hal) : Except Status (Int × Hal) → Hal
  | .ok (_, next) => next
  | .error _ => hal

/-- A region with bytes written by a client; what does not fit is left out. -/
def patched (r : Region) (offset : Nat) (bytes : List UInt8) : Region :=
  match r.write offset bytes with
  | .ok s => s
  | .error _ => r

/-- The HAL after one turn. -/
def step (b : Behaviour) (hal : Hal) (m : Turn) : Hal :=
  match m.input with
  | .call c => hal.afterCall (hal.perform b m.time c)
  | .connect queue isOpen => hal.connect b queue isOpen
  | .advance => (hal.advance b m.time).2
  | .allocate region => (hal.allocate region).2
  | .write memory offset bytes =>
    { hal with memory := hal.memory.modify memory fun r => patched r offset bytes }

/-- The items that a turn delivers. -/
def items (b : Behaviour) (hal : Hal) (m : Turn) : List Item :=
  match m.input with
  | .advance => (hal.advance b m.time).1
  | _ => []

/-- The HAL after some turns. -/
def run (b : Behaviour) : Hal → List Turn → Hal
  | hal, [] => hal
  | hal, m :: rest => run b (hal.step b m) rest

/-- What the turns of a run bring, one after the other. -/
def along {α : Type} (b : Behaviour) (f : Hal → Turn → List α) : Hal → List Turn → List α
  | _, [] => []
  | hal, m :: rest => f hal m ++ along b f (hal.step b m) rest

/-- Something holds of every turn of a run and of the HAL that takes it. -/
def Throughout (b : Behaviour) (P : Hal → Turn → Prop) : Hal → List Turn → Prop
  | _, [] => True
  | hal, m :: rest => P hal m ∧ Throughout b P (hal.step b m) rest

/-- The clock never goes back. -/
def InOrder (ms : List Turn) : Prop := ms.Pairwise (·.time ≤ ·.time)

instance (ms : List Turn) : Decidable (InOrder ms) :=
  inferInstanceAs (Decidable (ms.Pairwise (·.time ≤ ·.time)))

/-- In an ordered run some time comes before all turns. -/
theorem InOrder.exists_le {ms : List Turn} (hms : InOrder ms) :
    ∃ time, ∀ m ∈ ms, time ≤ m.time := by
  cases ms with
  | nil => exact ⟨0, fun m hm => absurd hm List.not_mem_nil⟩
  | cons m rest =>
    refine ⟨m.time, fun n hn => ?_⟩
    rcases List.mem_cons.1 hn with rfl | hn
    · exact Int.le_refl _
    · exact List.rel_of_pairwise_cons hms hn

section Append

variable {α : Type} (b : Behaviour) (f : Hal → Turn → List α)

@[simp] theorem along_nil (hal : Hal) : along b f hal [] = [] := rfl

theorem run_append (hal : Hal) (ms ns : List Turn) :
    run b hal (ms ++ ns) = run b (run b hal ms) ns := by
  induction ms generalizing hal with
  | nil => rfl
  | cons m rest ih => exact ih (hal.step b m)

theorem along_append (hal : Hal) (ms ns : List Turn) :
    along b f hal (ms ++ ns) = along b f hal ms ++ along b f (run b hal ms) ns := by
  induction ms generalizing hal with
  | nil => rfl
  | cons m rest ih =>
    show f hal m ++ along b f (hal.step b m) (rest ++ ns) = _
    rw [ih (hal.step b m), ← List.append_assoc]
    rfl

theorem run_concat (hal : Hal) (ms : List Turn) (m : Turn) :
    run b hal (ms ++ [m]) = (run b hal ms).step b m :=
  run_append b hal ms [m]

theorem along_concat (hal : Hal) (ms : List Turn) (m : Turn) :
    along b f hal (ms ++ [m]) = along b f hal ms ++ f (run b hal ms) m := by
  rw [along_append]
  show _ ++ (f (run b hal ms) m ++ []) = _
  rw [List.append_nil]

end Append

/-- A barometer with a shortest period of 5 ms that holds back up to three samples. -/
def barometer : Descriptor :=
  { handle := Handle.ofInt 7, name := "Barometer", vendor := "Bench", version := 1
    kind := .pressure, kindName := "android.sensor.pressure", maxRange := 1100.0
    resolution := 0.01, power := 0.1, minDelay := 5000, fifoReserved := 0, fifoMax := 3
    permission := "", maxDelay := 0, flags := ⟨0x490⟩ }

/-- A signal without noise. -/
def silence : Signal := ⟨0.0, 0.0, fun _ => 0, 0⟩

/-- A property that every turn keeps holds after every run. -/
theorem run_keeps {b : Behaviour} {P : Hal → Prop}
    (keeps : ∀ hal m, P hal → P (hal.step b m)) {hal : Hal} (ms : List Turn) (h : P hal) :
    P (run b hal ms) := by
  induction ms generalizing hal with
  | nil => exact h
  | cons m rest ih => exact ih (keeps hal m h)

end SensorBench.Hal
