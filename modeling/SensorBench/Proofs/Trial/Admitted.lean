import Mathlib.Data.List.Nodup
import Mathlib.Tactic.SplitIfs
import SensorBench.Config.Validity
import SensorBench.Proofs.Hal.Resting

/-!
# Admitted catalogs and settings

What descriptors and settings without a fault satisfy, as far as scenarios on a clock depend on
it: kinds that may be listed, delays in order, a buffer as large as its reserved part, the
least values of durations. A sensor asked for its shortest delay then runs at its least period
(`Hal.Sampler.periodFor_minDelay`), and a HAL lists exactly the sensors of its catalog if no
handle occurs twice (`Hal.mem_catalog_ofCatalog`).
-/

set_option autoImplicit false

namespace SensorBench

namespace Descriptor

/-- What scenarios rely on in a descriptor. -/
structure Admitted (d : Descriptor) : Prop where
  kind : d.kind.isMeta = false
  fifo : d.fifoReserved ≤ d.fifoMax
  delays : d.minDelay.toInt ≤ d.maxDelay.toInt
  fit : delaysFit d.mode d.minDelay d.maxDelay = true

theorem admitted_of_fault? {d : Descriptor} (h : d.fault? = none) : d.Admitted := by
  rw [fault?] at h
  split at h
  · cases h
  · split_ifs at h with hname hvendor hpower hrange hkind hfifo hdelays hfit
    · split at h <;> cases h
    · exact ⟨Bool.eq_false_iff.2 hkind, UInt32.not_lt.1 hfifo, Int.not_lt.1 hdelays, hfit⟩
    · split at h <;> cases h

theorem Admitted.minDelayNs_le {d : Descriptor} (h : d.Admitted) : d.minDelayNs ≤ d.maxDelayNs := by
  have := h.delays
  simp only [minDelayNs, maxDelayNs, delayNs]
  omega

theorem minDelayNs_nonneg (d : Descriptor) : 0 ≤ d.minDelayNs := by
  simp only [minDelayNs, delayNs]
  omega

end Descriptor

/-- No listed sensor is slower than the slowest. -/
theorem Catalog.minDelayNs_le_slowest {c : Catalog} {d : Descriptor} (hd : d ∈ c) :
    d.minDelayNs ≤ c.slowestMinDelayNs := by
  have hfold : ∀ (rest : Catalog) (acc : Int),
      acc ≤ rest.foldl (fun acc d => max acc d.minDelayNs) acc ∧
        ∀ e ∈ rest, e.minDelayNs ≤ rest.foldl (fun acc d => max acc d.minDelayNs) acc := by
    intro rest
    induction rest with
    | nil => exact fun acc => ⟨Int.le_refl acc, fun e he => absurd he List.not_mem_nil⟩
    | cons a rest ih =>
      intro acc
      obtain ⟨hacc, hrest⟩ := ih (max acc a.minDelayNs)
      rw [List.foldl_cons]
      refine ⟨by omega, fun e he => ?_⟩
      rcases List.mem_cons.1 he with rfl | he
      · omega
      · exact hrest e he
  exact (hfold c 0).2 d hd

theorem Catalog.fault?_eq_none {c : Catalog} (h : c.fault? = none) :
    ∀ d ∈ c, d.fault? = none := by
  intro d hd
  simpa using List.findSome?_eq_none_iff.1 h d hd

namespace Settings

variable {settings : Settings}

theorem minimum_le (h : settings.fault? = none) {m : Minimum} (hm : m ∈ minimums) :
    m.least ≤ m.value settings := by
  have hnone : settings.minimumFault? = none := by
    rw [fault?] at h
    cases hmin : settings.minimumFault? with
    | none => rfl
    | some f =>
      rw [hmin] at h
      cases h
  rw [minimumFault?, Option.map_eq_none_iff, List.find?_eq_none] at hnone
  simpa using hnone m hm

/-- The gap that is looked for is no longer than the pause. -/
theorem minGap_le_quiescent (h : settings.fault? = none) :
    settings.staleness.minGap.toNat ≤ settings.staleness.quiescent.toNat := by
  have hnone : settings.gapFault? = none := by
    rw [fault?, laterFault?] at h
    simp only [Option.orElse_eq_orElse, Option.orElse_eq_or, Option.or_eq_none_iff] at h
    exact h.2.2.1
  rw [gapFault?] at hnone
  split at hnone
  · cases hnone
  · next hle => exact UInt64.le_iff_toNat_le.1 (UInt64.not_lt.1 hle)

end Settings

namespace Hal

open Sampler in
/-- Asked for its shortest delay, a sensor runs at its least period. -/
theorem Sampler.periodFor_minDelay {d : Descriptor} (h : d.Admitted) :
    periodFor d d.minDelayNs = leastPeriod d := by
  have := h.minDelayNs_le
  have := d.minDelayNs_nonneg
  simp only [periodFor, leastPeriod, shortestPeriod]
  split <;> omega

/-- A HAL has exactly the sensors of its catalog if no handle occurs twice there. -/
theorem mem_catalog_ofCatalog {c : Catalog} (hc : (c.map (·.handle)).Nodup) (signal : Signal)
    (d : Descriptor) : d ∈ (ofCatalog c signal).catalog ↔ d ∈ c := by
  have hinitial := (ofCatalog_sensors c signal).2
  rw [catalog, List.mem_map]
  constructor
  · rintro ⟨s, hs, rfl⟩
    obtain ⟨d, hd, rfl⟩ := hinitial s hs
    exact hd
  · intro hd
    obtain ⟨s, hs, hhandle⟩ := List.mem_map.1
      ((mem_handles_ofCatalog c signal d.handle).2 (List.mem_map_of_mem hd))
    obtain ⟨e, he, rfl⟩ := hinitial s hs
    -- one descriptor for each handle
    exact ⟨_, hs, List.inj_on_of_nodup_map hc he hd hhandle⟩

/-- So it does after any run. -/
theorem mem_catalog_runAtFront {c : Catalog} (hc : (c.map (·.handle)).Nodup) (b : Behaviour)
    (signal : Signal) (past : List Turn) (d : Descriptor) :
    d ∈ ((ofCatalog c signal).runAtFront b past).catalog ↔ d ∈ c := by
  rw [catalog_runAtFront, mem_catalog_ofCatalog hc]

theorem admitted_runAtFront {c : Catalog} (hc : (c.map (·.handle)).Nodup) (hvalid : c.fault? = none)
    (b : Behaviour) (signal : Signal) (past : List Turn) :
    ∀ d ∈ ((ofCatalog c signal).runAtFront b past).catalog, d.Admitted := by
  intro d hd
  rw [mem_catalog_runAtFront hc] at hd
  exact Descriptor.admitted_of_fault? (Catalog.fault?_eq_none hvalid d hd)

end Hal

end SensorBench
