/-
Square roots of rationals, compared exactly.

A root mean square error is the square root of a rational, and two of them are compared by
their radicands.  `Surd` keeps the radicand, or the value itself where no root was taken, so
that a comparison can be run; `Surd.value` is the real number it stands for and
`Surd.le_iff` says that the comparison is the one of the reals.
-/
import Mathlib.Analysis.SpecialFunctions.Pow.Real
import Mathlib.Data.NNRat.Order

namespace GaiaOS

/-- A rational, or the square root of one that is not negative. -/
inductive Surd
  | rational (q : ℚ)
  | root (q : ℚ≥0)
  deriving DecidableEq

namespace Surd

/-- The real number. -/
noncomputable def value : Surd → ℝ
  | rational q => q
  | root q => ((q : ℚ) : ℝ) ^ (0.5 : ℝ)

/-- `a <= b`. -/
def le : Surd → Surd → Bool
  | rational p, rational q => p ≤ q
  | root p, root q => p ≤ q
  | rational p, root q => p ≤ 0 || p ^ 2 ≤ q
  | root p, rational q => 0 ≤ q && p ≤ q ^ 2

theorem value_root (q : ℚ≥0) : (root q).value = Real.sqrt (q : ℚ) := by
  rw [Real.sqrt_eq_rpow]
  norm_num [value]

/-- The comparison of the radicands is the comparison of the numbers. -/
theorem le_iff (a b : Surd) : a.le b = true ↔ a.value ≤ b.value := by
  cases a with
  | rational p =>
      cases b with
      | rational q => simp [le, value]
      | root q =>
          rw [value_root]
          simp only [le, value, Bool.or_eq_true, decide_eq_true_eq]
          by_cases hp : p ≤ 0
          · have hle : (p : ℝ) ≤ 0 := by exact_mod_cast hp
            simp only [hp, true_or, true_iff]
            exact hle.trans (Real.sqrt_nonneg _)
          · have hpos : (0 : ℝ) < p := by exact_mod_cast not_le.mp hp
            rw [Real.le_sqrt' hpos]
            simp only [hp, false_or]
            norm_cast
  | root p =>
      cases b with
      | rational q =>
          rw [value_root, Real.sqrt_le_iff]
          simp only [le, value, Bool.and_eq_true, decide_eq_true_eq]
          norm_cast
      | root q =>
          have hq : (0 : ℝ) ≤ (q : ℚ) := by exact_mod_cast q.2
          rw [value_root, value_root, Real.sqrt_le_sqrt_iff hq]
          simp only [le, decide_eq_true_eq]
          norm_cast

end Surd

end GaiaOS
