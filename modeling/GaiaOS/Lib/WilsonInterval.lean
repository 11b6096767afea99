/-
The lower end of Wilson's score interval for a proportion.

`lowerEnd` is the end for a proportion `p` observed in `n` trials, over any field with a root, so
that an implementation with a root of its own and the real numbers share one definition.  Over
the reals it grows with the proportion (`lowerEnd_mono`): the root may grow too, but its square
grows by at most `(q - p) / n`, and the root is nowhere below `z / 2n`.
-/
import Mathlib.Analysis.SpecialFunctions.Sqrt
import Mathlib.Tactic.Linarith

namespace GaiaOS

namespace Wilson

section Definitions

variable {K : Type} [Field K] [LinearOrder K] (sqrt : K → K)

/-- What the root is taken of. -/
def radicand (p n z : K) : K := p * (1 - p) / n + z ^ 2 / (4 * n ^ 2)

/-- The lower end of the interval. -/
def lowerEnd (p n z : K) : K :=
  (p + z ^ 2 / (2 * n) - z * sqrt (max 0 (radicand p n z))) / (1 + z ^ 2 / n)

/-- The lower end for a number of successes, where more than there are trials count as all. -/
def lowerBound (successes trials : Nat) (z : K) : K :=
  if trials = 0 ∨ successes = 0 then 0
  else max 0 (min 1 (lowerEnd sqrt (min 1 (max 0 (successes / trials))) trials z))

end Definitions

variable {p q n z : ℝ}

theorem radicand_ge (hn : 0 < n) (h0 : 0 ≤ p) (h1 : p ≤ 1) :
    (z / (2 * n)) ^ 2 ≤ radicand p n z := by
  have hspread : 0 ≤ p * (1 - p) / n := div_nonneg (mul_nonneg h0 (sub_nonneg.mpr h1)) hn.le
  have hsquare : (z / (2 * n)) ^ 2 = z ^ 2 / (4 * n ^ 2) := by ring
  unfold radicand
  rw [hsquare]
  exact le_add_of_nonneg_left hspread

/-- The root is nowhere below what it is for a certain outcome. -/
theorem le_sqrt_radicand (hn : 0 < n) (h0 : 0 ≤ p) (h1 : p ≤ 1) :
    z / (2 * n) ≤ Real.sqrt (max 0 (radicand p n z)) := by
  refine Real.le_sqrt_of_sq_le ?_
  exact (radicand_ge hn h0 h1).trans (le_max_right _ _)

theorem sq_sqrt_radicand (hn : 0 < n) (h0 : 0 ≤ p) (h1 : p ≤ 1) :
    Real.sqrt (max 0 (radicand p n z)) ^ 2 = radicand p n z := by
  have hpos : 0 ≤ radicand p n z := (sq_nonneg _).trans (radicand_ge hn h0 h1)
  rw [max_eq_right hpos, Real.sq_sqrt hpos]

/-- The root grows by no more than the proportion, in units of `z`. -/
theorem sqrt_radicand_gain (hn : 0 < n) (hz : 0 ≤ z) (h0 : 0 ≤ p) (hpq : p ≤ q) (h1 : q ≤ 1) :
    z * (Real.sqrt (max 0 (radicand q n z)) - Real.sqrt (max 0 (radicand p n z))) ≤ q - p := by
  have hq0 : 0 ≤ q := h0.trans hpq
  have hp1 : p ≤ 1 := hpq.trans h1
  generalize hs : Real.sqrt (max 0 (radicand q n z)) = s
  generalize hr : Real.sqrt (max 0 (radicand p n z)) = r
  rcases le_or_gt s r with hsr | hrs
  · have hdrop : z * (s - r) ≤ 0 := mul_nonpos_of_nonneg_of_nonpos hz (sub_nonpos.mpr hsr)
    exact hdrop.trans (sub_nonneg.mpr hpq)
  · have hsum : z / n ≤ s + r := by
      have hhalves : z / n = z / (2 * n) + z / (2 * n) := by
        field_simp
        ring
      rw [hhalves, ← hs, ← hr]
      exact add_le_add (le_sqrt_radicand hn hq0 h1) (le_sqrt_radicand hn h0 hp1)
    have hsquares : n * (s ^ 2 - r ^ 2) = (q - p) * (1 - p - q) := by
      rw [← hs, ← hr, sq_sqrt_radicand hn hq0 h1, sq_sqrt_radicand hn h0 hp1]
      unfold radicand
      field_simp
      ring
    calc z * (s - r) = n * (z / n) * (s - r) := by rw [mul_div_cancel₀ z hn.ne']
      _ ≤ n * (s + r) * (s - r) := by
          refine mul_le_mul_of_nonneg_right ?_ (sub_nonneg.mpr hrs.le)
          exact mul_le_mul_of_nonneg_left hsum hn.le
      _ = n * (s ^ 2 - r ^ 2) := by ring
      _ = (q - p) * (1 - p - q) := hsquares
      _ ≤ (q - p) * 1 := by
          refine mul_le_mul_of_nonneg_left ?_ (sub_nonneg.mpr hpq)
          linarith
      _ = q - p := mul_one _

/-- **The lower end grows with the proportion.** -/
theorem lowerEnd_mono (hn : 0 < n) (hz : 0 ≤ z) (h0 : 0 ≤ p) (hpq : p ≤ q) (h1 : q ≤ 1) :
    lowerEnd Real.sqrt p n z ≤ lowerEnd Real.sqrt q n z := by
  have hwidth : 0 ≤ 1 + z ^ 2 / n := add_nonneg zero_le_one (div_nonneg (sq_nonneg z) hn.le)
  have hgain := sqrt_radicand_gain hn hz h0 hpq h1
  unfold lowerEnd
  refine div_le_div_of_nonneg_right ?_ hwidth
  linarith

/-- More successes give no lower bound, and once every trial counts as one, the same. -/
theorem lowerBound_mono {successes more : Nat} (trials : Nat) (hz : 0 ≤ z)
    (h : successes ≤ more) :
    lowerBound Real.sqrt successes trials z ≤ lowerBound Real.sqrt more trials z := by
  unfold lowerBound
  by_cases hnone : trials = 0 ∨ successes = 0
  · rw [if_pos hnone]
    split
    · exact le_refl 0
    · exact le_max_left _ _
  · have hmore : ¬ (trials = 0 ∨ more = 0) := by omega
    rw [if_neg hnone, if_neg hmore]
    have htrials : (0 : ℝ) < trials := by
      exact_mod_cast Nat.pos_of_ne_zero fun hzero => hnone (.inl hzero)
    have hrate : (successes : ℝ) / trials ≤ more / trials :=
      div_le_div_of_nonneg_right (by exact_mod_cast h) htrials.le
    refine max_le_max (le_refl 0) (min_le_min (le_refl 1) ?_)
    refine lowerEnd_mono htrials hz ?_ ?_ (min_le_left _ _)
    · exact le_min zero_le_one (le_max_left _ _)
    · exact min_le_min (le_refl 1) (max_le_max (le_refl 0) hrate)

end Wilson

end GaiaOS
