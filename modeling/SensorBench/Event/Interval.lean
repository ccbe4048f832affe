/-!
# Measured intervals
-/

set_option autoImplicit false

namespace SensorBench

/-- The mean interval between consecutive times: the whole span divided by the
number of intervals, the quotient rounded toward zero. Fewer than two times have
none. -/
def averageInterval? : List Int → Option Int
  | [] => none
  | [_] => none
  | first :: second :: rest =>
    some (((second :: rest).getLastD first - first).tdiv (rest.length + 1 : Nat))

end SensorBench
