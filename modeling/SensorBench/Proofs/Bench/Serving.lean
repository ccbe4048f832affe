import SensorBench.Bench.World
import SensorBench.Proofs.Delivery.Dispatch
import SensorBench.Proofs.Suite.Service

/-!
# Worlds serve the reference HAL

A world whose playbook does no more than panic, and never at a release, answers requests as
a host that serves the reference HAL (`World.serves`): what happens in it between two calls
is time going by (`World.Elapses`).
-/

set_option autoImplicit false

namespace SensorBench

namespace Bench

/-- A rule by which a world panics, at anything but a release. -/
def Rule.Interrupts (r : Rule) : Prop :=
  r.effect = .panic ∧ ∀ held : Resource, r.call ≠ (Occasion.call held.release).name

theorem Rule.call_eq_of_accepts {r : Rule} {o : Occasion} (h : r.accepts o = true) :
    r.call = o.name := by
  unfold Rule.accepts at h
  simp only [Bool.and_eq_true, decide_eq_true_eq] at h
  exact h.1.1.1

/-- The rules stay, with their matches counted, and what applies is the effect of one that
accepts the occasion. -/
theorem Rule.apply_facts (o : Occasion) (rules : List (Rule × Nat)) :
    (Rule.apply o rules).2.map (·.1) = rules.map (·.1) ∧
      ∀ effect, (Rule.apply o rules).1 = some effect →
        ∃ r ∈ rules.map (·.1), r.accepts o = true ∧ r.effect = effect := by
  induction rules with
  | nil => exact ⟨rfl, fun _ h => by cases h⟩
  | cons p rest ih =>
    obtain ⟨r, hits⟩ := p
    have hrest : ∀ effect, (Rule.apply o rest).1 = some effect →
        ∃ s ∈ r :: rest.map (·.1), s.accepts o = true ∧ s.effect = effect := fun effect h =>
      (ih.2 effect h).imp fun s hs => ⟨List.mem_cons_of_mem r hs.1, hs.2⟩
    rw [Rule.apply]
    split
    · next haccepts =>
      dsimp only
      split
      · refine ⟨rfl, fun effect h => ⟨r, List.mem_cons_self, haccepts, ?_⟩⟩
        exact Option.some.inj h
      · exact ⟨congrArg (r :: ·) ih.1, hrest⟩
    · exact ⟨congrArg (r :: ·) ih.1, hrest⟩

namespace World

/-- Two worlds agree in how the HAL behaves and is called, in the playbook and in the
registered collectors. -/
structure Alike (w w' : World) : Prop where
  behaviour : w'.behaviour = w.behaviour
  atFront : w'.atFront = w.atFront
  playbook : w'.playbook = w.playbook
  rules : w'.rules.map (·.1) = w.rules.map (·.1)
  sink : ∀ n, w'.hub.sink? n = w.hub.sink? n

/-- Nothing but time goes by between two states of a world. -/
structure Elapses (w w' : World) : Prop extends w.Alike w' where
  passes : w.hal.Passes w.behaviour w'.hal

theorem Alike.trans {w w' w'' : World} (h : w.Alike w') (h' : w'.Alike w'') : w.Alike w'' :=
  ⟨h'.behaviour.trans h.behaviour, h'.atFront.trans h.atFront, h'.playbook.trans h.playbook,
    h'.rules.trans h.rules, fun n => (h'.sink n).trans (h.sink n)⟩

theorem Elapses.trans {w w' w'' : World} (h : w.Elapses w') (h' : w'.Elapses w'') :
    w.Elapses w'' :=
  ⟨h.toAlike.trans h'.toAlike, h.passes.trans (h.behaviour ▸ h'.passes)⟩

/-- It does not matter what is counted, written down and dispatched, nor what the clock
shows. -/
theorem Elapses.books (w : World) (clock : Int) (counts : List (Handle × Nat))
    (channels : List (Int × Nat)) (log : List String) {hub : Hub}
    (hsink : ∀ n, hub.sink? n = w.hub.sink? n) :
    w.Elapses { w with clock, hub, counts, channels, log } :=
  ⟨⟨rfl, rfl, rfl, rfl, hsink⟩, .refl _ _⟩

theorem Elapses.refl (w : World) : w.Elapses w :=
  .books w w.clock w.counts w.channels w.log fun _ => rfl

theorem Elapses.hub {w : World} {hub : Hub} (hsink : ∀ n, hub.sink? n = w.hub.sink? n) :
    w.Elapses { w with hub } :=
  .books w w.clock w.counts w.channels w.log hsink

theorem send_elapses (w : World) (batch : List Event) : w.Elapses (w.send batch) := by
  rw [send]
  dsimp only
  split
  · exact .books w w.clock _ w.channels w.log fun _ => rfl
  · split
    · exact .books w w.clock _ w.channels w.log fun n => Hub.sink?_write _ n _ _
    · exact .books w w.clock _ w.channels w.log fun _ => rfl

theorem deliver_elapses (w : World) : w.Elapses w.deliver := by
  have hadvance : w.Elapses { w with hal := (w.hal.advance w.behaviour w.clock).2 } :=
    ⟨⟨rfl, rfl, rfl, rfl, fun _ => rfl⟩,
      .turn w.behaviour w.hal (m := ⟨w.clock, .advance⟩) trivial⟩
  rw [deliver]
  dsimp only
  split
  · exact hadvance
  · exact hadvance.trans (send_elapses _ _)

theorem clock_elapses (w : World) (clock : Int) : w.Elapses { w with clock } :=
  .books w clock w.counts w.channels w.log fun _ => rfl

theorem pass_elapses (w : World) (time : Int) : w.Elapses (w.pass time) :=
  (clock_elapses w _).trans (deliver_elapses _)

theorem tickUntil_elapses (done : World → Bool) (step : Int) (n : Nat) (w : World) :
    w.Elapses (tickUntil done step n w) := by
  induction n generalizing w with
  | zero => exact .refl w
  | succ n ih =>
    rw [tickUntil]
    split
    · exact .refl w
    · exact (pass_elapses w step).trans (ih _)

theorem flowUntil_elapses (done : World → Bool) (target : Int) (n : Nat) (w : World) :
    w.Elapses (flowUntil done target n w) := by
  induction n generalizing w with
  | zero => exact .refl w
  | succ n ih =>
    rw [flowUntil]
    split
    · exact .refl w
    · split
      · split
        · exact ((clock_elapses w _).trans (deliver_elapses _)).trans (ih _)
        · exact clock_elapses w target
      · exact clock_elapses w target

theorem await_elapses (w : World) (time : Int) (done : World → Bool) :
    w.Elapses (w.await time done) := by
  rw [await]
  split
  · exact .refl w
  · exact tickUntil_elapses done _ _ w
  · exact flowUntil_elapses done _ _ w

theorem settle_elapses (w : World) : w.Elapses w.settle := by
  rw [settle]
  split
  · split
    · exact deliver_elapses w
    · exact .refl w
  · exact .refl w

theorem elapse_elapses (w : World) (o : Occasion) : w.Elapses (w.elapse o) := by
  rw [elapse]
  split
  · exact pass_elapses w _
  · exact .refl w

theorem note_elapses (w : World) (line : String) : w.Elapses (w.note line) :=
  .books w w.clock w.counts w.channels (line :: w.log) fun _ => rfl

theorem poke_eq {w : World} (h : w.playbook.pokes = []) (o : Occasion) (value : Int) :
    w.poke o value = w := by
  rw [poke]
  split
  · rfl
  · rw [h]
    rfl

theorem follow_elapses {w : World} (h : w.playbook.pokes = []) (c : Call) (value : Int) :
    w.Elapses (w.follow c value) := by
  have hafter : ∀ w' : World, w.Elapses w' →
      w.Elapses (((w'.elapse (.call c)).poke (.call c) value).settle) := fun w' hw' => by
    have helapse := hw'.trans (elapse_elapses w' (.call c))
    rw [poke_eq ((congrArg Playbook.pokes helapse.playbook).trans h)]
    exact helapse.trans (settle_elapses _)
  cases c with
  | register kind size memory =>
    exact hafter _ (.books w w.clock w.counts ((value, memory) :: w.channels) w.log fun _ => rfl)
  | _ => exact hafter w (.refl w)

/-- The world has a HAL with a certain behaviour, called through its front, and its playbook
answers nothing in its place and puts nothing into memory. -/
structure Honest (b : Behaviour) (w : World) : Prop where
  sound : w.hal.Sound
  behaviour : w.behaviour = b
  atFront : w.atFront = true
  pokes : w.playbook.pokes = []
  rules : ∀ r ∈ w.rules.map (·.1), r.Interrupts

theorem Honest.of_alike {b : Behaviour} {w w' : World} (h : w.Honest b) (halike : w.Alike w')
    (hsound : w'.hal.Sound) : w'.Honest b :=
  ⟨hsound, halike.behaviour.trans h.behaviour, halike.atFront.trans h.atFront,
    (congrArg Playbook.pokes halike.playbook).trans h.pokes, halike.rules ▸ h.rules⟩

section Requests

variable {b : Behaviour} {w : World}

/-- A rule of an honest world applies only to make it panic, and never at a release. -/
theorem Honest.consult (h : w.Honest b) (o : Occasion) :
    w.Elapses (w.consult o).2 ∧ (w.consult o).2.hal = w.hal ∧
      ∀ effect, (w.consult o).1 = some effect →
        effect = .panic ∧ ∀ held : Resource, o ≠ .call held.release := by
  obtain ⟨hrules, heffect⟩ := Rule.apply_facts o w.rules
  refine ⟨⟨⟨rfl, rfl, rfl, hrules, fun _ => rfl⟩, .refl _ _⟩, rfl, fun effect he => ?_⟩
  obtain ⟨r, hr, haccepts, rfl⟩ := heffect effect he
  obtain ⟨hpanic, hname⟩ := h.rules r hr
  refine ⟨hpanic, fun held ho => hname held ?_⟩
  rw [Rule.call_eq_of_accepts haccepts, ho]

/-- A call is answered by the HAL, or the world panics before the HAL has seen it. -/
theorem Honest.call (h : w.Honest b) (c : Call) :
    w.Alike (w.call c).2 ∧ HalEffect b w.hal (w.call c).2.hal (.release c) (w.call c).1 := by
  obtain ⟨helapses, hhal, heffect⟩ := h.consult (.call c)
  unfold World.call
  dsimp only
  generalize w.consult (.call c) = consulted at helapses hhal heffect
  obtain ⟨effect, w₁⟩ := consulted
  cases effect with
  | some effect =>
    obtain ⟨rfl, hrelease⟩ := heffect effect rfl
    have hnote := helapses.trans (note_elapses w₁ (w.callText c ++ "=PANIC"))
    exact ⟨hnote.toAlike, fun held hc => hrelease held (hc ▸ rfl), h.behaviour ▸ hnote.passes⟩
  | none =>
    dsimp only at helapses hhal ⊢
    have hfront : (if w₁.atFront = true then w₁.hal.performAtFront w₁.behaviour w₁.clock c
        else w₁.hal.perform w₁.behaviour w₁.clock c) = w.hal.performAtFront b w₁.clock c := by
      rw [helapses.atFront, h.atFront, if_pos rfl, helapses.behaviour, h.behaviour, hhal]
    rw [hfront]
    split
    · next value next hok =>
      generalize w.callText c ++ "=" ++ replyText c (.ok value) = line
      have hpokes : (({ w₁ with hal := next } : World).note line).playbook.pokes = [] :=
        (congrArg Playbook.pokes helapses.playbook).trans h.pokes
      have hbehaviour : (({ w₁ with hal := next } : World).note line).behaviour = b :=
        helapses.behaviour.trans h.behaviour
      obtain ⟨hfollow, hpasses⟩ := follow_elapses hpokes c value
      have halike : w₁.Alike ((({ w₁ with hal := next } : World).note line).follow c value) :=
        ⟨hfollow.behaviour, hfollow.atFront, hfollow.playbook, hfollow.rules, hfollow.sink⟩
      rw [hbehaviour] at hpasses
      exact ⟨helapses.toAlike.trans halike,
        .accepted w.hal next _ w₁.clock value (.refl b w.hal) hok hpasses⟩
    · next status herror =>
      generalize w.callText c ++ "=" ++ replyText c (.error status) = line
      have hnote := helapses.trans (note_elapses w₁ line)
      exact ⟨hnote.toAlike,
        .rejected w.hal _ w₁.clock status (.refl b w.hal) herror (h.behaviour ▸ hnote.passes)⟩

/-- A queue handed over is taken by the HAL, or the world panics. -/
theorem Honest.connectQueue (h : w.Honest b) (queue : Nat) :
    w.Alike (w.connectQueue queue).2 ∧ Reached b w.hal (w.connectQueue queue).2.hal := by
  obtain ⟨helapses, hhal, heffect⟩ := h.consult .connect
  unfold World.connectQueue
  dsimp only
  generalize w.consult .connect = consulted at helapses hhal heffect
  obtain ⟨effect, w₁⟩ := consulted
  cases effect with
  | some effect =>
    obtain ⟨rfl, -⟩ := heffect effect rfl
    have hnote := fun line => helapses.trans (note_elapses w₁ line)
    exact ⟨(hnote _).toAlike, Or.inl (h.behaviour ▸ (hnote _).passes)⟩
  | none =>
    dsimp only at helapses hhal ⊢
    generalize "initialize(" ++ Text.decimal (w.queues.size + 1) ++ ")" ++ "=OK" = line
    generalize w₁.hal.queue.any (fun q => w₁.hub.isOpen q) = isOpen
    obtain ⟨hsettled, hpasses⟩ := (elapse_elapses
      (({ w₁ with
        hal := w₁.hal.connect w₁.behaviour queue isOpen
        queues := w₁.queues.push queue } : World).note line) .connect).trans (settle_elapses _)
    have halike : w₁.Alike _ := ⟨hsettled.behaviour, hsettled.atFront, hsettled.playbook,
      hsettled.rules, hsettled.sink⟩
    refine ⟨helapses.toAlike.trans halike, Or.inr ⟨w.hal, queue, isOpen, .refl b w.hal, ?_⟩⟩
    rw [← hhal, ← helapses.behaviour.trans h.behaviour]
    exact hpasses

theorem Honest.reconnect (h : w.Honest b) (session : Nat) (capacity : UInt64) :
    w.Alike (w.reconnect session capacity).2 ∧
      Reached b w.hal (w.reconnect session capacity).2.hal := by
  have hopened : w.Elapses { w with hub := (w.hub.openQueue capacity.toNat).2 } :=
    .hub fun _ => rfl
  obtain ⟨halike, hreached⟩ :=
    (h.of_alike hopened.toAlike h.sound).connectQueue (w.hub.openQueue capacity.toNat).1
  unfold World.reconnect
  dsimp only
  split
  · next w₁ heq =>
    rw [heq] at halike hreached
    have hattached : w₁.Elapses { w₁ with hub := _ } :=
      .hub fun n => Hub.sink?_attach w₁.hub n session (w.hub.openQueue capacity.toNat).1
    exact ⟨(hopened.toAlike.trans halike).trans hattached.toAlike, hreached⟩
  · exact ⟨hopened.toAlike.trans halike, hreached⟩

theorem Honest.connect (h : w.Honest b) (capacity : UInt64) :
    w.Alike (w.connect capacity).2 ∧ Reached b w.hal (w.connect capacity).2.hal := by
  have hopened : w.Elapses { w with hub := (w.hub.openQueue capacity.toNat).2 } :=
    .hub fun _ => rfl
  obtain ⟨halike, hreached⟩ :=
    (h.of_alike hopened.toAlike h.sound).connectQueue (w.hub.openQueue capacity.toNat).1
  have hconnected := hopened.toAlike.trans halike
  unfold World.connect
  dsimp only
  split
  · next w₁ heq =>
    rw [heq] at hconnected hreached
    have hattached : w₁.Elapses { w₁ with hub := _ } := .hub fun n =>
      (Hub.sink?_attach w₁.hub.newSession.2 n w₁.hub.newSession.1
        (w.hub.openQueue capacity.toNat).1).trans (Hub.sink?_newSession w₁.hub n)
    exact ⟨hconnected.trans hattached.toAlike, hreached⟩
  · next heq =>
    rw [heq] at hconnected hreached
    exact ⟨hconnected, hreached⟩
  · next heq =>
    rw [heq] at hconnected hreached
    exact ⟨hconnected, hreached⟩

theorem Honest.sensors (h : w.Honest b) : w.Elapses w.sensors.2 := by
  obtain ⟨helapses, -, -⟩ := h.consult .sensors
  unfold World.sensors
  generalize w.consult .sensors = consulted at helapses
  split <;> exact helapses

theorem allocate_elapses (w : World) (region : Region) :
    w.Elapses { w with hal := (w.hal.allocate region).2 } :=
  ⟨⟨rfl, rfl, rfl, rfl, fun _ => rfl⟩,
    .turn w.behaviour w.hal (m := ⟨w.clock, .allocate region⟩) trivial⟩

theorem gather_elapses (w : World) (session : Nat) (time : Int) (count : Nat) :
    w.Elapses (w.gather session time count).2 := by
  have harmed : w.Elapses { w with hub := w.hub.arm session } :=
    .hub fun n => Hub.sink?_arm _ n session
  have hawait := harmed.trans (await_elapses _ time fun w => count ≤ w.hub.collected session)
  exact hawait.trans (.hub fun n => Hub.sink?_disarm _ n session)

/-- A request has been answered as by a host that serves the reference HAL. -/
structure Serving (b : Behaviour) (w : World) (q : Request) : Prop where
  honest : (answer q w).2.Honest b
  effect : HalEffect b w.hal (answer q w).2.hal q (answer q w).1
  sink : SinkEffect (w.hub.sink? 0) ((answer q w).2.hub.sink? 0) q (answer q w).1

/-- An answer is told by its effect on the HAL if the registered collectors stay. -/
theorem Honest.serving_of_alike (h : w.Honest b) {q : Request} (halike : w.Alike (answer q w).2)
    (heffect : HalEffect b w.hal (answer q w).2.hal q (answer q w).1)
    (hsink : (answer q w).2.hub.sink? 0 = w.hub.sink? 0 →
      SinkEffect (w.hub.sink? 0) ((answer q w).2.hub.sink? 0) q (answer q w).1) : Serving b w q :=
  ⟨h.of_alike halike (heffect.sound h.sound), heffect, hsink (halike.sink 0)⟩

theorem Honest.serving_of_elapses (h : w.Honest b) {q : Request} (he : w.Elapses (answer q w).2)
    (heffect : w.hal.Passes b (answer q w).2.hal →
      HalEffect b w.hal (answer q w).2.hal q (answer q w).1)
    (hsink : (answer q w).2.hub.sink? 0 = w.hub.sink? 0 →
      SinkEffect (w.hub.sink? 0) ((answer q w).2.hub.sink? 0) q (answer q w).1) : Serving b w q :=
  h.serving_of_alike he.toAlike (heffect (h.behaviour ▸ he.passes)) hsink

theorem Honest.serving (h : w.Honest b) (q : Request) : Serving b w q := by
  cases q with
  | sensors => exact h.serving_of_elapses h.sensors id Or.inl
  | call c =>
    obtain ⟨halike, heffect⟩ := h.call c
    exact h.serving_of_alike halike heffect.of_release Or.inl
  | release c =>
    obtain ⟨halike, heffect⟩ := h.call c
    exact h.serving_of_alike halike heffect Or.inl
  | now => exact h.serving_of_elapses (.refl w) id Or.inl
  | sleep time => exact h.serving_of_elapses (await_elapses w time _) id Or.inl
  | allocate size fill => exact h.serving_of_elapses (allocate_elapses w _) id Or.inl
  | bytes memory => exact h.serving_of_elapses (.refl w) id Or.inl
  | subscribe =>
    exact ⟨⟨h.sound, h.behaviour, h.atFront, h.pokes, h.rules⟩, .refl b w.hal, trivial⟩
  | unsubscribe =>
    exact ⟨⟨h.sound, h.behaviour, h.atFront, h.pokes, h.rules⟩, .refl b w.hal,
      Hub.sink?_unregister w.hub 0⟩
  | reset collector => exact h.serving_of_elapses (.hub fun _ => rfl) id Or.inl
  | awaitFlushes collector handles count time =>
    exact h.serving_of_elapses (await_elapses w time _) id Or.inl
  | awaitEvents collector handles time =>
    exact h.serving_of_elapses (await_elapses w time _) id Or.inl
  | awaitCount collector handle count time =>
    exact h.serving_of_elapses (await_elapses w time _) id Or.inl
  | delivered collector => exact h.serving_of_elapses (.refl w) id Or.inl
  | connect capacity =>
    obtain ⟨halike, hreached⟩ := h.connect capacity
    exact h.serving_of_alike halike hreached Or.inl
  | reconnect capacity =>
    obtain ⟨halike, hreached⟩ := h.reconnect 0 capacity
    exact h.serving_of_alike halike hreached Or.inl
  | tearDown session =>
    exact h.serving_of_elapses (.hub fun n => Hub.sink?_detach _ n session) id Or.inl
  | gather session time count =>
    exact h.serving_of_elapses (gather_elapses w session time count) id Or.inl

end Requests

/-- What is seen of a world: its HAL and the collector of the session under test. -/
def view (b : Behaviour) : View World :=
  ⟨fun w => w.hal, fun w => w.hub.sink? 0, fun _ => .empty, Honest b⟩

theorem view_bare (b : Behaviour) : (view b).Bare := fun _ => rfl

/-- Worlds serve the reference HAL. -/
theorem serves (b : Behaviour) : Serves b answer (view b) where
  sound := fun _ h => h.sound
  fit := fun q _ h => (h.serving q).honest
  notes := fun _ _ => rfl
  effect := fun q _ h => (h.serving q).effect
  sink := fun q _ h => (h.serving q).sink

end World

end Bench

end SensorBench
