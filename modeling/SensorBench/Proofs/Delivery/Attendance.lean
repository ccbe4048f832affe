import SensorBench.Proofs.Delivery.Collecting
import SensorBench.Proofs.Hal.Delivery

/-!
# What an attended HAL brings to a collector

A session that reads an open and empty queue (`Hub.Attends`) dispatches each batch as soon as
it is written. The collector registered with it then has every sample that a step of time
takes out of a sensor: what it has of a sensor and what the sensor still holds back are what
they were before, an event replayed, and the samples just taken
(`Hub.Feeds.events_advance`).
-/

set_option autoImplicit false

namespace SensorBench

namespace Hub

variable {hub : Hub} {queue : Nat}

/-- Session zero reads a queue that is open and empty. -/
structure Attends (hub : Hub) (queue : Nat) : Prop where
  reads : hub.readerOf? queue = some 0
  empty : ∃ capacity, 0 < capacity ∧ hub.queues[queue]? = some ⟨capacity, [], false⟩

/-- The hub after items went to session zero in one batch; without items nothing goes. -/
def receive (hub : Hub) (items : List Hal.Item) : Hub :=
  if items.isEmpty then hub else hub.dispatch 0 (items.map (·.event))

theorem Attends.of_reader (h : hub.Attends queue) :
    (hub.sessions[0]?).bind (·.reader) = some queue := by
  obtain ⟨hsession, hreader, -⟩ := Array.findIdx?_eq_some_iff_getElem.1 h.reads
  rw [Array.getElem?_eq_getElem hsession]
  exact eq_of_beq hreader

/-- What is written to an attended queue is dispatched at once, and the queue is empty again. -/
theorem Attends.write (h : hub.Attends queue) {batch : List Event} (hbatch : batch ≠ []) :
    (hub.write queue batch).2 = hub.dispatch 0 batch := by
  obtain ⟨capacity, hroom, hqueue⟩ := h.empty
  have hin : queue < hub.queues.size := (Array.getElem?_eq_some_iff.1 hqueue).1
  have hwrite : (hub.queues[queue]?).bind (·.write? batch) =
      some (true, ⟨capacity, [batch], false⟩) := by
    rw [hqueue, Option.bind_some, Queue.write?, if_neg (by simpa using hbatch)]
    exact if_pos hroom
  -- the batch is taken out again, and the queue is what it was
  have hback : (hub.queues.setIfInBounds queue ⟨capacity, [batch], false⟩).setIfInBounds queue
      ⟨capacity, [], false⟩ = hub.queues := by
    rw [Array.setIfInBounds_setIfInBounds]
    apply Array.ext_getElem?
    intro i
    rw [Array.getElem?_setIfInBounds]
    split
    · next hi => rw [← hi, hqueue]
    · rfl
  have hread : ((hub.queues.setIfInBounds queue ⟨capacity, [batch], false⟩)[queue]?).bind
      (·.read?) = some (some batch, ⟨capacity, [], false⟩) := by
    rw [Array.getElem?_setIfInBounds, if_pos rfl, if_pos hin]
    rfl
  have hreader : { hub with queues :=
      hub.queues.setIfInBounds queue ⟨capacity, [batch], false⟩ }.readerOf? queue = some 0 :=
    h.reads
  rw [Hub.write, hwrite]
  dsimp only
  rw [hreader]
  dsimp only
  rw [readerStep, h.of_reader]
  dsimp only
  rw [hread]
  dsimp only
  rw [hback]

theorem Attends.of_same (h : hub.Attends queue) {hub' : Hub} (hqueues : hub'.queues = hub.queues)
    (hreader : hub'.readerOf? queue = hub.readerOf? queue) : hub'.Attends queue :=
  ⟨hreader.trans h.reads, hqueues ▸ h.empty⟩

theorem Attends.dispatch (h : hub.Attends queue) (batch : List Event) :
    (hub.dispatch 0 batch).Attends queue :=
  h.of_same rfl (readerOf?_dispatch hub queue 0 batch)

theorem Attends.receive (h : hub.Attends queue) (items : List Hal.Item) :
    (hub.receive items).Attends queue := by
  rw [Hub.receive]
  split
  · exact h
  · exact h.dispatch _

theorem Attends.subscribe (h : hub.Attends queue) :
    (hub.newCollector.2.register 0 hub.newCollector.1).Attends queue := by
  refine h.of_same rfl (readerOf?_modify hub.newCollector.2 queue ?_ 0)
  exact fun _ => rfl

theorem Attends.unregister (h : hub.Attends queue) : (hub.unregister 0).Attends queue := by
  refine h.of_same rfl (readerOf?_modify hub queue ?_ 0)
  exact fun _ => rfl

theorem Attends.resetCollector (h : hub.Attends queue) (k : Nat) :
    (hub.resetCollector k).Attends queue :=
  h.of_same rfl rfl

/-! ## The registered collector -/

/-- A collector is registered with session zero. -/
structure Feeds (hub : Hub) (k : Nat) : Prop where
  sink : hub.sink? 0 = some k
  bound : k < hub.collectors.size

theorem feeds_subscribe (hsession : 0 < hub.sessions.size) :
    (hub.newCollector.2.register 0 hub.newCollector.1).Feeds hub.newCollector.1 ∧
      (hub.newCollector.2.register 0 hub.newCollector.1).collector hub.newCollector.1 =
        .empty := by
  refine ⟨⟨sink?_register hub.newCollector.2 hsession _, ?_⟩, collector_newCollector hub⟩
  show hub.collectors.size < (hub.collectors.push .empty).size
  rw [Array.size_push]
  exact Nat.lt_succ_self _

section Feeds

variable {k : Nat} (hfeeds : hub.Feeds k)

include hfeeds

theorem Feeds.resetCollector :
    (hub.resetCollector k).Feeds k ∧ (hub.resetCollector k).collector k = .empty := by
  refine ⟨⟨hfeeds.sink, Nat.lt_of_lt_of_eq hfeeds.bound Array.size_modify.symm⟩, ?_⟩
  rw [collector, Hub.resetCollector, Array.getD_eq_getD_getElem?, Array.getElem?_modify,
    if_pos rfl, Array.getElem?_eq_getElem hfeeds.bound]
  rfl

theorem Feeds.receive (items : List Hal.Item) : (hub.receive items).Feeds k := by
  rw [Hub.receive]
  split
  · exact hfeeds
  · exact ⟨(sink?_dispatch hub 0 0 _).trans hfeeds.sink,
      Nat.lt_of_lt_of_eq hfeeds.bound (size_collectors_dispatch hub 0 _).symm⟩

/-- The samples among the items that are received reach the collector. -/
theorem Feeds.events_receive (items : List Hal.Item) (h : Handle) :
    ((hub.receive items).collector k).events h = (hub.collector k).events h ++
      (items.map (·.event)).filter fun e => e.isSample && e.handle = h := by
  rw [Hub.receive]
  split
  · next hnone =>
    rw [List.isEmpty_iff.1 hnone]
    exact (List.append_nil _).symm
  · rw [collector_dispatch hub hfeeds.sink hfeeds.bound, Collector.events_deliver]

end Feeds

end Hub

namespace Hal

/-- What is measured by a sensor that may be listed is a sample. -/
theorem Sampler.Measured.isSample {s : Sampler} (hkind : s.descriptor.kind.isMeta = false)
    {e : Event} (he : s.Measured e) : e.isSample = true := by
  rw [Event.isSample, he.2.1, hkind, he.2.2]
  rfl

/-- The samples of one handle among the events of some items. -/
theorem filter_samples (h : Handle) (items : List Item) :
    (items.map (·.event)).filter (fun e => e.isSample && e.handle = h) =
      ((itemsOf h items).map (·.event)).filter (·.isSample) := by
  rw [List.filter_map, List.filter_map, itemsOf, List.filter_filter]
  rfl

end Hal

namespace Hub

variable {hub : Hub} {k : Nat}

/-- What the collector has of a sensor and what the sensor holds back after a step of time are
what they were before, an event replayed, and the samples taken. -/
theorem Feeds.events_advance (hfeeds : hub.Feeds k) {hal : Hal} (hsound : hal.Sound)
    (hwaiting : hal.waiting = []) {h : Handle} {s : Hal.Sampler} (hs : hal.sensor? h = some s)
    (hkind : s.descriptor.kind.isMeta = false) (b : Behaviour) (now : Int) :
    ((hub.receive (hal.advance b now).1).collector k).events h ++
        (s.advance b hal.measuring now (hal.signalFor b now h)).2.1.buffer =
      (hub.collector k).events h ++ s.replay.toList ++ s.buffer ++
        s.emitted hal.measuring now (hal.signalFor b now h) := by
  have hown := hsound.of_sensor? hs
  obtain ⟨out, hitems, hbalance, -⟩ :=
    hown.advance_spec b hal.measuring now (hal.signalFor b now h)
  have hreplay : s.replay.toList.filter (·.isSample) = s.replay.toList :=
    List.filter_eq_self.2 fun e he =>
      (hown.replayed e (Option.mem_toList.1 he)).isSample hkind
  have hout : out.filter (·.isSample) = out :=
    List.filter_eq_self.2 fun e he =>
      (hown.advance_out_measured _ _ _ hbalance e he).isSample hkind
  have hmarkers : ∀ n, (List.replicate n (Event.flushMarker s.handle now)).filter
      (·.isSample) = [] := fun n => List.filter_eq_nil_iff.2 fun e he => by
    rw [List.eq_of_mem_replicate he]
    exact Bool.false_ne_true
  have hsamples : ((hal.advance b now).1.map (·.event)).filter
      (fun e => e.isSample && e.handle = h) = s.replay.toList ++ out := by
    rw [Hal.filter_samples, Hal.itemsOf_advance hsound hs, hwaiting, hitems]
    simp only [Hal.itemsOf, List.filter_nil, List.nil_append, List.map_append, List.filter_append,
      List.map_map, List.map_replicate, Function.comp_def, List.map_id', hreplay, hout, hmarkers,
      List.append_nil]
  rw [hfeeds.events_receive, hsamples]
  simp only [List.append_assoc, hbalance]

end Hub

end SensorBench
