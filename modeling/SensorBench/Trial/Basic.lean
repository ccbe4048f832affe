import SensorBench.Config.Settings
import SensorBench.Suite.Guard

/-!
# Scenarios

What every scenario is given and gives: a host to ask, the settings of the run
and the sensors of the moment go in, a pass or a skip comes out, and a violation
ends it early.
-/

set_option autoImplicit false

namespace SensorBench

/-- The end of a scenario that found nothing broken. A skip says what is
missing. -/
inductive Outcome where
  | passed
  | skipped (reason : String)
  deriving DecidableEq, Repr

/-- What a scenario is given. -/
structure Stage (σ : Type) where
  host : Host σ
  settings : Settings
  catalog : Catalog

namespace Trial

/-- A scenario on hosts with states of some type. -/
abbrev Body (σ : Type) := Stage σ → Act σ Outcome

/-- Milliseconds of the settings in nanoseconds. -/
def ofMillis (ms : UInt64) : Int := ms.toNat * 1000000

/-- A skip. -/
def skip {σ : Type} (reason : String) : Act σ Outcome := .value (.skipped reason)

/-- A pass. -/
def pass {σ : Type} : Act σ Outcome := .value .passed

end Trial

end SensorBench
