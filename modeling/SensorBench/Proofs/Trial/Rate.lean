import Mathlib.Algebra.Order.BigOperators.Group.List
import Mathlib.Algebra.Order.Ring.Int
import SensorBench.Proofs.Hal.Words
import SensorBench.Proofs.Suite.Acts
import SensorBench.Trial.Rate

/-!
# What a measured interval says

The mean interval is computed from the first and the last time alone. It is an average of the
gaps between consecutive times because all times between the two cancel in the sum of the gaps
(`sum_gaps`). As what the division leaves over is less than the divisor (`Share`), no rounding
takes the mean past a whole number that bounds all gaps, whatever the sign of the span. So what
is measured of a running sensor lies between the smallest and the largest gap of its samples
(`measure_between`).
-/

set_option autoImplicit false

namespace SensorBench

open Hal (FitsWord leastTime greatestTime)

/-! ## Gaps -/

/-- The differences of consecutive times. -/
def gaps : List Int → List Int
  | [] => []
  | [_] => []
  | first :: second :: rest => (second - first) :: gaps (second :: rest)

/-- The last time less the first. -/
def span (times : List Int) : Int := times.getLastD 0 - times.headD 0

theorem length_gaps (times : List Int) : (gaps times).length = times.length - 1 := by
  induction times using gaps.induct with
  | case1 => rfl
  | case2 _ => rfl
  | case3 first second rest ih =>
    rw [gaps, List.length_cons, ih]
    rfl

/-- All times between the first and the last cancel. -/
theorem sum_gaps (times : List Int) : (gaps times).sum = span times := by
  induction times using gaps.induct with
  | case1 => rfl
  | case2 time => exact (Int.sub_self time).symm
  | case3 first second rest ih =>
    rw [gaps, List.sum_cons, ih, span, span]
    simp only [List.getLastD_cons, List.headD_cons]
    omega

theorem gaps_ne_nil {times : List Int} (h : 2 ≤ times.length) : gaps times ≠ [] := by
  rw [← List.length_pos_iff, length_gaps]
  omega

/-! ## Shares -/

/-- The share of each of `n` in a total, as a whole number: less than one for each is left over,
and no more than the total is given out, which rounds toward zero. -/
structure Share (total n share : Int) : Prop where
  left : (total - share * n).natAbs < n
  given : (share * n).natAbs ≤ total.natAbs

section Share

variable {total n share bound : Int}

theorem share_tdiv (hn : 0 < n) : Share total n (total.tdiv n) := by
  constructor
  case left =>
    have hsplit := Int.mul_tdiv_add_tmod total n
    have hleft : total - total.tdiv n * n = total.tmod n := by
      rw [Int.mul_comm]
      omega
    have hlt : total.natAbs % n.natAbs < n.natAbs := Nat.mod_lt _ (by omega)
    rw [hleft, Int.natAbs_tmod]
    omega
  case given =>
    rw [Int.natAbs_mul, Int.natAbs_tdiv]
    exact Nat.div_mul_le_self _ _

/-- Where the total has as much for everyone, the share is no less: a share that is less by one
or more would leave over one for each. -/
theorem Share.ge (h : Share total n share) (hbound : bound * n ≤ total) : bound ≤ share := by
  have hleft := h.left
  have hlt : bound * n < (share + 1) * n := by
    rw [Int.add_mul, Int.one_mul]
    omega
  exact Int.lt_add_one_iff.1 (Int.lt_of_mul_lt_mul_right hlt (by omega))

theorem Share.le (h : Share total n share) (hbound : total ≤ bound * n) : share ≤ bound := by
  have hleft := h.left
  have hlt : share * n < (bound + 1) * n := by
    rw [Int.add_mul, Int.one_mul]
    omega
  exact Int.lt_add_one_iff.1 (Int.lt_of_mul_lt_mul_right hlt (by omega))

/-- The share of a total that fits in a word fits as well. -/
theorem Share.fitsWord (h : Share total n share) (hfits : FitsWord total) : FitsWord share := by
  have hleft := h.left
  obtain ⟨hleast, hgreatest⟩ := hfits
  constructor
  · refine h.ge (Int.le_trans ?_ hleast)
    rw [leastTime]
    omega
  · refine h.le (Int.le_trans hgreatest ?_)
    rw [greatestTime]
    omega

end Share

/-! ## The mean interval -/

section Mean

variable {times : List Int} {mean : Int}

theorem averageInterval?_eq_none (h : times.length < 2) : averageInterval? times = none := by
  match times with
  | [] => rfl
  | [_] => rfl

theorem averageInterval?_eq_some (h : 2 ≤ times.length) :
    averageInterval? times = some ((span times).tdiv (times.length - 1)) := by
  match times with
  | first :: second :: rest =>
    simp only [averageInterval?, span, List.getLastD_cons, List.headD_cons, List.length_cons]
    push_cast
    rw [Int.add_sub_cancel]

theorem two_le_length (h : averageInterval? times = some mean) : 2 ≤ times.length := by
  by_contra hshort
  rw [averageInterval?_eq_none (by omega)] at h
  cases h

theorem mean_eq_tdiv (h : averageInterval? times = some mean) :
    mean = (span times).tdiv (times.length - 1) := by
  rw [averageInterval?_eq_some (two_le_length h)] at h
  exact (Option.some.inj h).symm

/-- The mean interval is the share of one gap in the sum of all. -/
theorem share_mean (h : averageInterval? times = some mean) :
    Share (span times) (times.length - 1) mean := by
  have hlength := two_le_length h
  rw [mean_eq_tdiv h]
  exact share_tdiv (by omega)

theorem length_gaps_eq_sub (h : averageInterval? times = some mean) :
    ((gaps times).length : Int) = times.length - 1 := by
  have hlength := two_le_length h
  rw [length_gaps]
  omega

/-- A mean is no less than what no gap is less than. -/
theorem le_mean (h : averageInterval? times = some mean) {least : Int}
    (hleast : ∀ gap ∈ gaps times, least ≤ gap) : least ≤ mean := by
  apply (share_mean h).ge
  have hsum := List.card_nsmul_le_sum (gaps times) least hleast
  rw [Int.nsmul_eq_mul, length_gaps_eq_sub h, sum_gaps, Int.mul_comm] at hsum
  exact hsum

/-- A mean is no greater than what no gap is greater than. -/
theorem mean_le (h : averageInterval? times = some mean) {greatest : Int}
    (hgreatest : ∀ gap ∈ gaps times, gap ≤ greatest) : mean ≤ greatest := by
  apply (share_mean h).le
  have hsum := List.sum_le_card_nsmul (gaps times) greatest hgreatest
  rw [Int.nsmul_eq_mul, length_gaps_eq_sub h, sum_gaps, Int.mul_comm] at hsum
  exact hsum

/-- A mean lies between the smallest and the largest gap. -/
theorem mean_between (h : averageInterval? times = some mean) :
    ∃ least greatest, (gaps times).min? = some least ∧ (gaps times).max? = some greatest ∧
      least ≤ mean ∧ mean ≤ greatest := by
  have hgaps := gaps_ne_nil (two_le_length h)
  obtain ⟨least, hleast⟩ := Option.isSome_iff_exists.1 (List.isSome_min?_of_ne_nil hgaps)
  obtain ⟨greatest, hgreatest⟩ := Option.isSome_iff_exists.1 (List.isSome_max?_of_ne_nil hgaps)
  exact ⟨least, greatest, hleast, hgreatest,
    le_mean h (List.min?_eq_some_iff.1 hleast).2, mean_le h (List.max?_eq_some_iff.1 hgreatest).2⟩

/-- In words the same mean comes out of the first time, the last and the number of times, as
long as that number and the span fit. -/
theorem mean_in_words (h : averageInterval? times = some mean) (hspan : FitsWord (span times))
    (hlength : FitsWord times.length) :
    (Int64.ofInt (times.getLastD 0) - Int64.ofInt (times.headD 0)) /
      (Int64.ofInt times.length - 1) = Int64.ofInt mean := by
  obtain ⟨hleast, hgreatest⟩ := hspan
  obtain ⟨-, hshort⟩ := hlength
  have hdivisor : leastTime ≤ (times.length : Int) - 1 := by
    rw [leastTime]
    omega
  have hquotient := Int64.ofInt_tdiv hleast hgreatest hdivisor
    (Int.le_trans (Int.sub_le_self _ (by decide)) hshort)
  -- words subtract as whole numbers do, also where the times themselves do not fit
  rw [mean_eq_tdiv h, hquotient, span, Int64.ofInt_sub, Int64.ofInt_sub]
  rfl

/-- Two or more times have a mean interval, and it is a true average: it lies between the
smallest and the largest gap, is the gap where all are the same, and taken once for each gap
differs from the span by less than the number of gaps, rounded toward zero. Where the span fits
in a word the mean does, and words give the same one. Fewer times have none. -/
theorem averageInterval_exact (times : List Int) :
    (times.length < 2 → averageInterval? times = none) ∧
    (2 ≤ times.length → ∃ mean least greatest, averageInterval? times = some mean ∧
      ((gaps times).min? = some least ∧ (gaps times).max? = some greatest ∧
        least ≤ mean ∧ mean ≤ greatest) ∧
      (∀ p, (∀ gap ∈ gaps times, gap = p) → mean = p) ∧
      (span times - mean * (times.length - 1)).natAbs < (times.length - 1 : Int) ∧
      (mean * (times.length - 1)).natAbs ≤ (span times).natAbs ∧
      (FitsWord (span times) → FitsWord mean ∧ (FitsWord times.length →
        (Int64.ofInt (times.getLastD 0) - Int64.ofInt (times.headD 0)) /
          (Int64.ofInt times.length - 1) = Int64.ofInt mean))) := by
  refine ⟨averageInterval?_eq_none, fun hlength => ?_⟩
  have hmean := averageInterval?_eq_some hlength
  have hshare := share_mean hmean
  obtain ⟨least, greatest, hleast, hgreatest, hge, hle⟩ := mean_between hmean
  refine ⟨_, least, greatest, hmean, ⟨hleast, hgreatest, hge, hle⟩, fun p hsteady => ?_,
    hshare.left, hshare.given, fun hspan => ⟨hshare.fitsWord hspan, mean_in_words hmean hspan⟩⟩
  exact Int.le_antisymm (mean_le hmean fun gap hgap => (hsteady gap hgap).le)
    (le_mean hmean fun gap hgap => (hsteady gap hgap).ge)

/-- Times that go back: evenly, and by the longest span that fits, which is no multiple of the
number of gaps. -/
theorem averageInterval_exact_backwards :
    let even : List Int := [30, 20, 10, 0]
    let long : List Int := [0x7fffffffffffffff, 4, 5, -1]
    averageInterval? [30] = none ∧
    (2 ≤ even.length ∧ (∀ gap ∈ gaps even, gap = -10) ∧ averageInterval? even = some (-10)) ∧
    (2 ≤ long.length ∧ span long = leastTime ∧ FitsWord (span long) ∧ FitsWord long.length ∧
      averageInterval? long = some (-3074457345618258602) ∧
      (Int64.ofInt (-1) - Int64.ofInt 0x7fffffffffffffff) / (Int64.ofInt 4 - 1) =
        Int64.ofInt (-3074457345618258602)) := by
  intro even long
  have heven : 2 ≤ even.length := by decide
  have hlong : 2 ≤ long.length := by decide
  have hsteady : ∀ gap ∈ gaps even, gap = -10 := by decide
  have hspan : FitsWord (span long) := by decide
  have hcount : FitsWord long.length := by decide
  refine ⟨(averageInterval_exact [30]).1 (by decide), ⟨heven, hsteady, ?_⟩,
    ⟨hlong, by decide, hspan, hcount, ?_⟩⟩
  · obtain ⟨_, _, _, hmean, -, hsame, -⟩ := (averageInterval_exact even).2 heven
    rw [hmean, hsame (-10) hsteady]
  · obtain ⟨mean, _, _, hmean, -, -, -, -, hwords⟩ := (averageInterval_exact long).2 hlong
    obtain rfl : -3074457345618258602 = mean := Option.some.inj hmean
    exact ⟨hmean, (hwords hspan).2 hcount⟩

end Mean

/-! ## What is measured -/

namespace Trial

/-- The times of the samples of a sensor. -/
def sampleTimes (d : Descriptor) (events : List Event) : List Int :=
  (events.filter fun e => e.handle = d.handle && e.isSample).map (·.time)

/-- A mean that is measured is that of three or more samples of the sensor, which the host gave
in one answer, and lies between the smallest and the largest gap of them. -/
theorem measure_between {σ : Type} (settings : Settings) (host : Host (Guard × σ))
    (d : Descriptor) (period : Int) (activates : Bool) :
    (measure settings host d period activates).Yields fun mean =>
      ∃ time count events, host.Answers (.gather 0 time count) events ∧
        3 ≤ (sampleTimes d events).length ∧
        ∃ least greatest, (gaps (sampleTimes d events)).min? = some least ∧
          (gaps (sampleTimes d events)).max? = some greatest ∧ least ≤ mean ∧ mean ≤ greatest := by
  -- only the last answer has a say in the mean, whether the sensor is switched on or not
  refine .last fun _ => .when (.last fun _ => .bind (host.ask_yields _) fun events hevents => ?_)
  dsimp only
  split
  · next mean hmean =>
    split
    · exact Act.yields_violate _
    · next hmany =>
      exact Act.yields_value ⟨_, _, events, hevents, Nat.lt_of_not_le hmany, mean_between hmean⟩
  · exact Act.yields_violate _

end Trial

end SensorBench
