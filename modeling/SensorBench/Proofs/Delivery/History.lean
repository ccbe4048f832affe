import Mathlib.Data.List.Induction
import SensorBench.Proofs.Delivery.Threads

/-!
# What a log says

What can be read off the log of a session with its threads: the batches that a queue has stored
and those dispatched from it, who is registered, which queue is read, what an armed collection
holds, and which queues have been retired. A log is lawful if every deed in it may follow those
before it (`Traffic.Lawful`).
-/

set_option autoImplicit false

namespace SensorBench

namespace Deed

/-- The batch that a queue has stored. An empty batch is not stored. -/
def accepted? (q : Nat) : Deed → Option (List Event)
  | .wrote p batch taken =>
    if p = q ∧ taken = true ∧ batch.isEmpty = false then some batch else none
  | _ => none

/-- The batch of a queue whose dispatch has begun. -/
def dispatched? (q : Nat) : Deed → Option (List Event)
  | .counted p batch => if p = q then some batch else none
  | _ => none

/-- The batch whose dispatch has begun. -/
def batch? : Deed → Option (List Event)
  | .counted _ batch => some batch
  | _ => none

/-- The batch of a queue whose events are in the counter. -/
def tallied? (q : Nat) : Deed → Option (List Event)
  | .tallied p batch => if p = q then some batch else none
  | _ => none

/-- The batch whose events are in the counter. -/
def tally? : Deed → Option (List Event)
  | .tallied _ batch => some batch
  | _ => none

/-- The queue and the batch that are counted with this. -/
def counts? : Deed → Option (Nat × List Event)
  | .counted q batch => some (q, batch)
  | _ => none

/-- The queue and the batch that are tallied with this. -/
def tallies? : Deed → Option (Nat × List Event)
  | .tallied q batch => some (q, batch)
  | _ => none

/-- The batch that a collector was given. -/
def sentTo? (k : Nat) : Deed → Option (List Event)
  | .delivered _ batch sink => if sink = some k then some batch else none
  | _ => none

/-- Whether this is a section of a dispatch from a queue. -/
def isSection (q : Nat) : Deed → Bool
  | .counted p _ | .tallied p _ | .addressed p _ _ | .delivered p _ _ | .gathered p _ _ => p == q
  | _ => false

/-- Whether a queue may no longer be read after this, if it was there before. -/
def retires (q : Nat) : Deed → Bool
  | .renewed p => p != q
  | .refused p => p == q
  | .tornDown => true
  | _ => false

/-- Who is registered after this. -/
def registers (sink : Option Nat) : Deed → Option Nat
  | .registered next => next
  | _ => sink

/-- Which queue the session reads after this. -/
def connects (reader : Option Nat) : Deed → Option Nat
  | .renewed q => some q
  | .tornDown => none
  | _ => reader

/-- What is in an armed collection after this. -/
def collects (collection : Option (List Event)) : Deed → Option (List Event)
  | .armed => some []
  | .gathered _ batch _ => collection.map (· ++ batch)
  | .collected _ => none
  | _ => collection

/-- Whether this is about the line of a queue: a write to it, or a section of a dispatch from
it. -/
def isOn (q : Nat) : Deed → Bool
  | .wrote p _ _ => p == q
  | d => d.isSection q

theorem isOn_facts {q : Nat} (d : Deed) (h : d.isOn q = true) :
    (∀ p, p ≠ q → d.isOn p = false) ∧ (∀ p, d.retires p = false) ∧ (∀ p, d ≠ .offered p) ∧
      ∀ reader, d.connects reader = reader := by
  cases d with
  | wrote p batch taken | counted p batch | tallied p batch | addressed p batch sink
  | delivered p batch sink | gathered p batch armed =>
    cases beq_iff_eq.1 h
    refine ⟨fun r hr => beq_false_of_ne hr.symm, fun _ => rfl, fun _ => Deed.noConfusion,
      fun _ => rfl⟩
  | registered | offered | refused | renewed | tornDown | armed | collected | sawBatches
  | sawEvents =>
    exact absurd h Bool.false_ne_true

theorem not_isOn_facts {q : Nat} (d : Deed) (h : d.isOn q = false) :
    d.accepted? q = none ∧ d.dispatched? q = none ∧ d.isSection q = false := by
  cases d with
  | wrote p batch taken | counted p batch | tallied p batch | addressed p batch sink
  | delivered p batch sink | gathered p batch armed =>
    have hp : p ≠ q := ne_of_beq_false h
    simp [accepted?, dispatched?, isSection, hp]
  | registered | offered | refused | renewed | tornDown | armed | collected | sawBatches
  | sawEvents =>
    exact ⟨rfl, rfl, rfl⟩

theorem not_isSection_facts {q : Nat} (d : Deed) (h : d.isSection q = false) :
    d.dispatched? q = none ∧ d.tallied? q = none := by
  cases d with
  | counted p batch | tallied p batch =>
    have hp : p ≠ q := ne_of_beq_false h
    simp [dispatched?, tallied?, hp]
  | _ => exact ⟨rfl, rfl⟩

/-- Whether nothing that a session or a collector has changes with this. -/
def isQuiet : Deed → Bool
  | .counted _ _ | .tallied _ _ | .delivered _ _ _ | .gathered _ _ _ | .registered _ | .armed
  | .collected _ => false
  | _ => true

theorem isQuiet_facts (d : Deed) (h : d.isQuiet = true) :
    d.batch? = none ∧ d.tally? = none ∧ (∀ k, d.sentTo? k = none) ∧
      (∀ sink, d.registers sink = sink) ∧ ∀ collection, d.collects collection = collection := by
  cases d with
  | wrote | addressed | offered | refused | renewed | tornDown | sawBatches | sawEvents =>
    exact ⟨rfl, rfl, fun _ => rfl, fun _ => rfl, fun _ => rfl⟩
  | counted | tallied | delivered | gathered | registered | armed | collected =>
    exact absurd h Bool.false_ne_true

end Deed

namespace Traffic

/-- The batches that a queue has stored, in order. -/
def acceptedIn (q : Nat) (log : List Deed) : List (List Event) := log.filterMap (·.accepted? q)

/-- The batches dispatched from a queue, in order. -/
def dispatchedIn (q : Nat) (log : List Deed) : List (List Event) := log.filterMap (·.dispatched? q)

/-- The batches dispatched from any queue, in order. -/
def allDispatchedIn (log : List Deed) : List (List Event) := log.filterMap (·.batch?)

/-- The batches of a queue whose events are in the counter, in order. -/
def talliedIn (q : Nat) (log : List Deed) : List (List Event) := log.filterMap (·.tallied? q)

/-- The batches of any queue whose events are in the counter, in order. -/
def allTalliedIn (log : List Deed) : List (List Event) := log.filterMap (·.tally?)

/-- The batches that a collector was given, in order. -/
def sentIn (k : Nat) (log : List Deed) : List (List Event) := log.filterMap (·.sentTo? k)

/-- The last section of a dispatch from a queue. -/
def lastSection (q : Nat) (log : List Deed) : Option Deed := (log.filter (·.isSection q)).getLast?

/-- Who is registered at the end of a log. -/
def registeredIn (log : List Deed) : Option Nat := log.foldl Deed.registers none

/-- Which queue the session reads at the end of a log. -/
def connectedIn (log : List Deed) : Option Nat := log.foldl Deed.connects none

/-- The events gathered since a collection was armed, at the end of a log; `none` if none is. -/
def collectionIn (log : List Deed) : Option (List Event) := log.foldl Deed.collects none

/-- A queue was replaced or torn down, or the HAL did not accept it. -/
def Retired (q : Nat) (log : List Deed) : Prop :=
  ∃ before d after, log = before ++ d :: after ∧ .offered q ∈ before ∧ d.retires q = true

/-- No dispatch from a queue has begun that has not ended. -/
def Rested (q : Nat) (log : List Deed) : Prop :=
  ∀ d ∈ lastSection q log, ∃ batch armed, d = .gathered q batch armed

/-- No dispatch from any queue stands between its two counters. -/
def Balanced (log : List Deed) : Prop := ∀ q batch, lastSection q log ≠ some (.counted q batch)

/-- What may be done after a log. Each section of a dispatch comes right after the one before it,
none comes after the queue has been retired, and what a caller is told agrees with the log. The
counter of batches is that of all dispatches so far. The counter of events may lag behind it by the
batches of those dispatches that stand between the two counters. -/
def Lawful (log : List Deed) : Deed → Prop
  | .wrote q _ taken => .offered q ∈ log ∧ (Retired q log → taken = false)
  | .counted q batch =>
    ¬ Retired q log ∧ Rested q log ∧ dispatchedIn q log ++ [batch] <+: acceptedIn q log
  | .tallied q batch => ¬ Retired q log ∧ lastSection q log = some (.counted q batch)
  | .addressed q batch sink =>
    ¬ Retired q log ∧ lastSection q log = some (.tallied q batch) ∧ sink = registeredIn log
  | .delivered q batch sink =>
    ¬ Retired q log ∧ lastSection q log = some (.addressed q batch sink)
  | .gathered q batch armed =>
    ¬ Retired q log ∧ (∃ sink, lastSection q log = some (.delivered q batch sink)) ∧
      armed = (collectionIn log).isSome
  | .offered q => .offered q ∉ log
  | .refused q | .renewed q => .offered q ∈ log ∧ ¬ Retired q log
  | .collected events => collectionIn log = some events
  | .sawBatches batches => batches = (allDispatchedIn log).length
  | .sawEvents events =>
    events = (allTalliedIn log).flatten.length ∧
      (Balanced log → events = (allDispatchedIn log).flatten.length)
  | .registered _ | .tornDown | .armed => True

/-- All that was done might be done. -/
def AllLawful (log : List Deed) : Prop :=
  ∀ before d after, log = before ++ d :: after → Lawful before d

section Logs

variable (q : Nat) (log : List Deed) (d : Deed)

theorem filterMap_concat {α : Type} (f : Deed → Option α) :
    (log ++ [d]).filterMap f = log.filterMap f ++ (f d).toList := by
  rw [List.filterMap_append]
  cases h : f d <;> simp [h]

theorem acceptedIn_concat :
    acceptedIn q (log ++ [d]) = acceptedIn q log ++ (d.accepted? q).toList :=
  filterMap_concat log d _

theorem dispatchedIn_concat :
    dispatchedIn q (log ++ [d]) = dispatchedIn q log ++ (d.dispatched? q).toList :=
  filterMap_concat log d _

theorem allDispatchedIn_concat :
    allDispatchedIn (log ++ [d]) = allDispatchedIn log ++ d.batch?.toList :=
  filterMap_concat log d _

theorem talliedIn_concat :
    talliedIn q (log ++ [d]) = talliedIn q log ++ (d.tallied? q).toList :=
  filterMap_concat log d _

theorem allTalliedIn_concat :
    allTalliedIn (log ++ [d]) = allTalliedIn log ++ d.tally?.toList :=
  filterMap_concat log d _

theorem sentIn_concat : sentIn q (log ++ [d]) = sentIn q log ++ (d.sentTo? q).toList :=
  filterMap_concat log d _

theorem lastSection_concat :
    lastSection q (log ++ [d]) = if d.isSection q then some d else lastSection q log := by
  rw [lastSection, List.filter_append]
  cases h : d.isSection q with
  | false => rw [List.filter_cons_of_neg (by simp [h]), List.filter_nil, List.append_nil]; rfl
  | true => rw [List.filter_cons_of_pos h, List.filter_nil, List.getLast?_concat]; rfl

theorem registeredIn_concat : registeredIn (log ++ [d]) = d.registers (registeredIn log) :=
  List.foldl_append

theorem connectedIn_concat : connectedIn (log ++ [d]) = d.connects (connectedIn log) :=
  List.foldl_append

theorem collectionIn_concat : collectionIn (log ++ [d]) = d.collects (collectionIn log) :=
  List.foldl_append

variable {q log d}

theorem allDispatchedIn_note (h : d.batch? = none) :
    allDispatchedIn (log ++ [d]) = allDispatchedIn log := by
  rw [allDispatchedIn_concat, h, Option.toList_none, List.append_nil]

theorem allTalliedIn_note (h : d.tally? = none) :
    allTalliedIn (log ++ [d]) = allTalliedIn log := by
  rw [allTalliedIn_concat, h, Option.toList_none, List.append_nil]

theorem sentIn_note (h : d.sentTo? q = none) : sentIn q (log ++ [d]) = sentIn q log := by
  rw [sentIn_concat, h, Option.toList_none, List.append_nil]

theorem lastSection_self (h : d.isSection q = true) : lastSection q (log ++ [d]) = some d := by
  rw [lastSection_concat, if_pos h]

theorem rested_gathered (q : Nat) (log : List Deed) (batch : List Event) (armed : Bool) :
    Rested q (log ++ [.gathered q batch armed]) := by
  intro d hd
  have hself : (Deed.gathered q batch armed).isSection q = true := beq_self_eq_true q
  rw [lastSection_self hself] at hd
  exact ⟨batch, armed, (Option.some.inj hd).symm⟩

theorem Rested.not_counted (h : Rested q log) (p : Nat) (batch : List Event) :
    lastSection q log ≠ some (.counted p batch) := by
  intro hlast
  obtain ⟨_, _, hgathered⟩ := h _ hlast
  cases hgathered

theorem acceptedIn_note (h : d.accepted? q = none) :
    acceptedIn q (log ++ [d]) = acceptedIn q log := by
  rw [acceptedIn_concat, h, Option.toList_none, List.append_nil]

theorem dispatchedIn_note (h : d.dispatched? q = none) :
    dispatchedIn q (log ++ [d]) = dispatchedIn q log := by
  rw [dispatchedIn_concat, h, Option.toList_none, List.append_nil]

theorem registeredIn_note (h : ∀ sink, d.registers sink = sink) :
    registeredIn (log ++ [d]) = registeredIn log := by
  rw [registeredIn_concat, h]

theorem collectionIn_note (h : ∀ collection, d.collects collection = collection) :
    collectionIn (log ++ [d]) = collectionIn log := by
  rw [collectionIn_concat, h]

/-- A place in a log that goes on is the end, or a place before it. -/
theorem concat_cases {before after : List Deed} {e : Deed} (h : log ++ [d] = before ++ e :: after) :
    (log = before ∧ d = e) ∨ ∃ rest, log = before ++ e :: rest := by
  rcases List.eq_nil_or_concat after with rfl | ⟨rest, last, rfl⟩
  · have hsame := List.append_inj' h rfl
    exact .inl ⟨hsame.1, List.head_eq_of_cons_eq hsame.2⟩
  · rw [List.concat_eq_append, ← List.cons_append, ← List.append_assoc] at h
    exact .inr ⟨rest, (List.append_inj' h rfl).1⟩

theorem retired_concat :
    Retired q (log ++ [d]) ↔ Retired q log ∨ (.offered q ∈ log ∧ d.retires q = true) := by
  constructor
  · rintro ⟨before, e, after, hsplit, hoffered, hretires⟩
    rcases concat_cases hsplit with ⟨rfl, rfl⟩ | ⟨rest, hrest⟩
    · exact .inr ⟨hoffered, hretires⟩
    · exact .inl ⟨before, e, rest, hrest, hoffered, hretires⟩
  · rintro (⟨before, e, after, rfl, hoffered, hretires⟩ | ⟨hoffered, hretires⟩)
    · refine ⟨before, e, after ++ [d], ?_, hoffered, hretires⟩
      rw [List.append_assoc, List.cons_append]
    · exact ⟨log, d, [], rfl, hoffered, hretires⟩

theorem Retired.offered (h : Retired q log) : .offered q ∈ log := by
  obtain ⟨before, e, after, rfl, hoffered, -⟩ := h
  exact List.mem_append_left _ hoffered

/-- A log says nothing of a queue that nothing in it is about. -/
theorem unknown_facts (h : ∀ d ∈ log, d.isOn q = false) :
    acceptedIn q log = [] ∧ dispatchedIn q log = [] ∧ Rested q log := by
  refine ⟨List.filterMap_eq_nil_iff.2 fun d hd => (d.not_isOn_facts (h d hd)).1,
    List.filterMap_eq_nil_iff.2 fun d hd => (d.not_isOn_facts (h d hd)).2.1, fun d hd => ?_⟩
  have hnone : log.filter (·.isSection q) = [] :=
    List.filter_eq_nil_iff.2 fun e he => by rw [(e.not_isOn_facts (h e he)).2.2]; decide
  rw [lastSection, hnone] at hd
  cases hd

theorem AllLawful.concat (h : AllLawful log) (hd : Lawful log d) : AllLawful (log ++ [d]) := by
  intro before e after hsplit
  rcases concat_cases hsplit with ⟨rfl, rfl⟩ | ⟨rest, hrest⟩
  · exact hd
  · exact h before e rest hrest

theorem AllLawful.init (h : AllLawful (log ++ [d])) : AllLawful log := by
  intro before e after hsplit
  refine h before e (after ++ [d]) ?_
  rw [hsplit, List.append_assoc, List.cons_append]

/-! ## The two counters -/

/-- The batch of a queue that is counted and whose events are not in the counter yet. -/
def pendingIn (q : Nat) (log : List Deed) : List (List Event) :=
  match lastSection q log with
  | some (.counted _ batch) => [batch]
  | _ => []

theorem pendingIn_concat :
    pendingIn q (log ++ [d]) =
      if d.isSection q then (d.dispatched? q).toList else pendingIn q log := by
  rw [pendingIn, lastSection_concat]
  cases hon : d.isSection q with
  | false => rfl
  | true =>
    cases d with
    | counted p batch =>
      cases beq_iff_eq.1 hon
      simp [Deed.dispatched?]
    | _ => rfl

/-- What stands between the counters before a section of a dispatch is what that section
tallies. -/
theorem pendingIn_of_section (hd : Lawful log d) (hon : d.isSection q = true) :
    pendingIn q log = (d.tallied? q).toList := by
  cases d with
  | counted p batch =>
    cases beq_iff_eq.1 hon
    obtain ⟨-, hrested, -⟩ := hd
    rw [pendingIn]
    split
    · next p batch hlast => exact absurd hlast (hrested.not_counted p batch)
    · rfl
  | tallied p batch =>
    cases beq_iff_eq.1 hon
    rw [pendingIn, hd.2, Deed.tallied?, if_pos rfl]
    rfl
  | addressed p batch sink =>
    cases beq_iff_eq.1 hon
    rw [pendingIn, hd.2.1]
    rfl
  | delivered p batch sink =>
    cases beq_iff_eq.1 hon
    rw [pendingIn, hd.2]
    rfl
  | gathered p batch armed =>
    cases beq_iff_eq.1 hon
    obtain ⟨-, ⟨sink, hlast⟩, -⟩ := hd
    rw [pendingIn, hlast]
    rfl
  | _ => cases hon

theorem pendingIn_of_balanced (h : Balanced log) (q : Nat) : pendingIn q log = [] := by
  rw [pendingIn]
  split
  · next p batch hlast =>
    have hon := List.mem_filter.1 (List.mem_of_getLast? hlast)
    cases beq_iff_eq.1 hon.2
    exact absurd hlast (h _ batch)
  · rfl

/-- The batches of a queue are tallied in the order in which they are counted, and at most one of
them is still to be tallied. -/
theorem AllLawful.dispatchedIn_eq (h : AllLawful log) (q : Nat) :
    dispatchedIn q log = talliedIn q log ++ pendingIn q log := by
  induction log using List.reverseRecOn with
  | nil => rfl
  | append_singleton log d ih =>
    have hbefore := ih h.init
    rw [dispatchedIn_concat, talliedIn_concat, pendingIn_concat, hbefore]
    cases hon : d.isSection q with
    | false =>
      obtain ⟨hdispatched, htallied⟩ := d.not_isSection_facts hon
      rw [hdispatched, htallied]
      simp
    | true => rw [pendingIn_of_section (h log d [] rfl) hon, if_pos rfl]

/-- Lists of pairs whose parts for every first component agree have the same members. -/
theorem perm_of_parts {α : Type} {l l' : List (Nat × α)}
    (h : ∀ q, (l.filter (·.1 = q)).map (·.2) = (l'.filter (·.1 = q)).map (·.2)) : l.Perm l' := by
  classical
  have hpart (q : Nat) (k : List (Nat × α)) :
      ((k.filter (·.1 = q)).map (·.2)).map (Prod.mk q) = k.filter (·.1 = q) := by
    rw [List.map_map]
    conv_rhs => rw [← List.map_id (k.filter _)]
    refine List.map_congr_left fun p hp => ?_
    obtain rfl : p.1 = q := of_decide_eq_true (List.mem_filter.1 hp).2
    rfl
  refine List.perm_iff_count.2 fun p => ?_
  have hp : decide (p.1 = p.1) = true := decide_eq_true rfl
  rw [← List.count_filter (p := fun r : Nat × α => decide (r.1 = p.1)) hp, ← hpart, h p.1, hpart,
    List.count_filter (p := fun r : Nat × α => decide (r.1 = p.1)) hp]

theorem parts_filterMap {f : Deed → Option (Nat × List Event)} {g : Deed → Option (List Event)}
    (h : ∀ d : Deed, ((f d).filter (·.1 = q)).map (·.2) = g d) (log : List Deed) :
    ((log.filterMap f).filter (·.1 = q)).map (·.2) = log.filterMap g := by
  rw [List.filter_filterMap, List.map_filterMap]
  exact congrArg (log.filterMap ·) (funext h)

/-- Where no dispatch stands between its counters, the batches that are tallied are those that are
counted. -/
theorem AllLawful.tallied_perm (h : AllLawful log) (hbalanced : Balanced log) :
    (allTalliedIn log).Perm (allDispatchedIn log) := by
  have hperm : (log.filterMap Deed.tallies?).Perm (log.filterMap Deed.counts?) := by
    refine perm_of_parts fun q => ?_
    have hsame : dispatchedIn q log = talliedIn q log := by
      rw [h.dispatchedIn_eq q, pendingIn_of_balanced hbalanced q, List.append_nil]
    rw [parts_filterMap (g := (·.tallied? q)) fun d => ?_,
      parts_filterMap (g := (·.dispatched? q)) fun d => ?_]
    · exact hsame.symm
    · cases d <;> simp [Deed.counts?, Deed.dispatched?, Option.filter]
    · cases d <;> simp [Deed.tallies?, Deed.tallied?, Option.filter]
  have hbatches := hperm.map (·.2)
  rw [List.map_filterMap, List.map_filterMap] at hbatches
  have htally (d : Deed) : d.tallies?.map (·.2) = d.tally? := by cases d <;> rfl
  have hbatch (d : Deed) : d.counts?.map (·.2) = d.batch? := by cases d <;> rfl
  simp only [htally, hbatch] at hbatches
  exact hbatches

end Logs

end Traffic

end SensorBench
