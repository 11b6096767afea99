/-
Least squares with one coefficient and with two.

The sum of squared errors is a polynomial in the coefficients whose own coefficients are sums
over the samples.  At a solution of the normal equations the linear part is gone, and what is
left is the sum there and a quadratic form: nonnegative with one coefficient, positive definite
with two if the determinant is positive.  Over an interval the least value is at the point of it
that is nearest to the solution.
-/
import Mathlib.Algebra.Order.BigOperators.Group.List
import Mathlib.Algebra.Order.Field.Basic
import Mathlib.Tactic.Linarith
import Mathlib.Tactic.LinearCombination
import Mathlib.Tactic.Positivity
import Mathlib.Tactic.Ring

namespace GaiaOS

namespace LeastSquares

section Sums

variable {ι K : Type} [Field K] (samples : List ι) (x z y : ι → K)

/-- The sum of the squared errors of a coefficient. -/
def squaredErrors (a : K) : K := (samples.map fun s => (y s - x s * a) ^ 2).sum

/-- The sum of the squared errors of two coefficients. -/
def squaredErrors₂ (a b : K) : K := (samples.map fun s => (y s - (x s * a + z s * b)) ^ 2).sum

theorem squaredErrors_eq (a : K) :
    squaredErrors samples x y a =
      (samples.map fun s => y s ^ 2).sum - 2 * a * (samples.map fun s => x s * y s).sum +
        a ^ 2 * (samples.map fun s => x s ^ 2).sum := by
  unfold squaredErrors
  induction samples with
  | nil => simp
  | cons s samples ih =>
      simp only [List.map_cons, List.sum_cons]
      rw [ih]
      ring

theorem squaredErrors₂_eq (a b : K) :
    squaredErrors₂ samples x z y a b =
      (samples.map fun s => y s ^ 2).sum - 2 * a * (samples.map fun s => x s * y s).sum -
        2 * b * (samples.map fun s => z s * y s).sum +
        a ^ 2 * (samples.map fun s => x s ^ 2).sum +
        2 * a * b * (samples.map fun s => x s * z s).sum +
        b ^ 2 * (samples.map fun s => z s ^ 2).sum := by
  unfold squaredErrors₂
  induction samples with
  | nil => simp
  | cons s samples ih =>
      simp only [List.map_cons, List.sum_cons]
      rw [ih]
      ring

variable {samples x z y}

/-- What is more than at a solution of the normal equation. -/
theorem squaredErrors_eq_add {a₀ : K} (h : (samples.map fun s => x s * y s).sum =
    a₀ * (samples.map fun s => x s ^ 2).sum) (a : K) :
    squaredErrors samples x y a =
      squaredErrors samples x y a₀ + (samples.map fun s => x s ^ 2).sum * (a - a₀) ^ 2 := by
  rw [squaredErrors_eq, squaredErrors_eq, h]
  ring

/-- What is more than at a solution of the two normal equations. -/
theorem squaredErrors₂_eq_add {a₀ b₀ : K}
    (hx : (samples.map fun s => x s * y s).sum =
      (samples.map fun s => x s ^ 2).sum * a₀ + (samples.map fun s => x s * z s).sum * b₀)
    (hz : (samples.map fun s => z s * y s).sum =
      (samples.map fun s => x s * z s).sum * a₀ + (samples.map fun s => z s ^ 2).sum * b₀)
    (a b : K) :
    squaredErrors₂ samples x z y a b = squaredErrors₂ samples x z y a₀ b₀ +
      ((samples.map fun s => x s ^ 2).sum * (a - a₀) ^ 2 +
        2 * (samples.map fun s => x s * z s).sum * (a - a₀) * (b - b₀) +
        (samples.map fun s => z s ^ 2).sum * (b - b₀) ^ 2) := by
  rw [squaredErrors₂_eq, squaredErrors₂_eq, hx, hz]
  ring

/-- The two quotients by the determinant solve the normal equations. -/
theorem normal_equations {X Z M P Q det : K} (hdet : det = X * Z - M ^ 2) (hne : det ≠ 0) :
    P = X * ((Z * P - M * Q) / det) + M * ((X * Q - M * P) / det) ∧
      Q = M * ((Z * P - M * Q) / det) + Z * ((X * Q - M * P) / det) := by
  constructor
  · rw [mul_div_assoc', mul_div_assoc', ← add_div, eq_div_iff hne, hdet]
    ring
  · rw [mul_div_assoc', mul_div_assoc', ← add_div, eq_div_iff hne, hdet]
    ring

end Sums

section Order

variable {ι K : Type} [Field K] [LinearOrder K] [IsStrictOrderedRing K] {samples : List ι}
  {x z y : ι → K}

theorem sum_sq_nonneg (samples : List ι) (x : ι → K) :
    0 ≤ (samples.map fun s => x s ^ 2).sum := by
  refine List.sum_nonneg fun v hv => ?_
  obtain ⟨s, -, rfl⟩ := List.mem_map.mp hv
  exact sq_nonneg _

/-! ### A coefficient from an interval -/

/-- The nearest point of an interval. -/
def clamp (low high a : K) : K := max low (min high a)

omit [Field K] [IsStrictOrderedRing K] in
theorem clamp_mem {low high : K} (h : low ≤ high) (a : K) :
    low ≤ clamp low high a ∧ clamp low high a ≤ high :=
  ⟨le_max_left _ _, max_le h (min_le_left _ _)⟩

/-- No point of the interval is nearer than the nearest one. -/
theorem sq_clamp_sub_le {low high a c : K} (hlow : low ≤ c) (hhigh : c ≤ high) :
    (clamp low high a - a) ^ 2 ≤ (c - a) ^ 2 := by
  unfold clamp
  rcases le_total a low with halow | halow
  · have hpoint : max low (min high a) = low :=
      max_eq_left ((min_le_right high a).trans halow)
    rw [hpoint]
    exact pow_le_pow_left₀ (sub_nonneg.mpr halow) (sub_le_sub_right hlow a) 2
  rcases le_total a high with hahigh | hahigh
  · have hpoint : max low (min high a) = a := by
      rw [min_eq_right hahigh, max_eq_right halow]
    rw [hpoint, sub_self, zero_pow two_ne_zero]
    exact sq_nonneg _
  · have hpoint : max low (min high a) = high := by
      rw [min_eq_left hahigh, max_eq_right (hlow.trans hhigh)]
    rw [hpoint, ← neg_sub a high, ← neg_sub a c, neg_sq, neg_sq]
    exact pow_le_pow_left₀ (sub_nonneg.mpr hahigh) (sub_le_sub_left hhigh a) 2

/-- **The nearest point of an interval to the solution has the least squared errors there.** -/
theorem squaredErrors_clamp_le (hpos : 0 < (samples.map fun s => x s ^ 2).sum) {low high c : K}
    (hlow : low ≤ c) (hhigh : c ≤ high) :
    squaredErrors samples x y (clamp low high
      ((samples.map fun s => x s * y s).sum / (samples.map fun s => x s ^ 2).sum)) ≤
      squaredErrors samples x y c := by
  have hnormal : (samples.map fun s => x s * y s).sum =
      (samples.map fun s => x s * y s).sum / (samples.map fun s => x s ^ 2).sum *
        (samples.map fun s => x s ^ 2).sum := (div_mul_cancel₀ _ hpos.ne').symm
  rw [squaredErrors_eq_add hnormal, squaredErrors_eq_add hnormal c]
  exact add_le_add le_rfl (mul_le_mul_of_nonneg_left (sq_clamp_sub_le hlow hhigh) hpos.le)

/-! ### Two coefficients -/

/-- A form in two unknowns with a positive determinant is positive. -/
theorem quadratic_form_pos {X Z M u v : K} (hX : 0 ≤ X) (hdet : 0 < X * Z - M ^ 2)
    (hne : u ≠ 0 ∨ v ≠ 0) : 0 < X * u ^ 2 + 2 * M * u * v + Z * v ^ 2 := by
  have hXpos : 0 < X := by
    refine lt_of_le_of_ne hX fun h0 => ?_
    rw [← h0, zero_mul, zero_sub] at hdet
    exact absurd (sq_nonneg M) (by linarith)
  have hsquare : X * (X * u ^ 2 + 2 * M * u * v + Z * v ^ 2) =
      (X * u + M * v) ^ 2 + (X * Z - M ^ 2) * v ^ 2 := by ring
  rw [← mul_pos_iff_of_pos_left hXpos, hsquare]
  by_cases hv : v = 0
  · have hu : u ≠ 0 := hne.resolve_right (not_not_intro hv)
    rw [hv, mul_zero, add_zero, zero_pow two_ne_zero, mul_zero, add_zero]
    positivity
  · exact add_pos_of_nonneg_of_pos (sq_nonneg _) (mul_pos hdet (by positivity))

/-- **The solution of the normal equations has the least squared errors, and no other pair has.** -/
theorem squaredErrors₂_lt {det : K}
    (hdet : det = (samples.map fun s => x s ^ 2).sum * (samples.map fun s => z s ^ 2).sum -
      (samples.map fun s => x s * z s).sum ^ 2) (hpos : 0 < det) {a₀ b₀ : K}
    (ha₀ : a₀ = ((samples.map fun s => z s ^ 2).sum * (samples.map fun s => x s * y s).sum -
      (samples.map fun s => x s * z s).sum * (samples.map fun s => z s * y s).sum) / det)
    (hb₀ : b₀ = ((samples.map fun s => x s ^ 2).sum * (samples.map fun s => z s * y s).sum -
      (samples.map fun s => x s * z s).sum * (samples.map fun s => x s * y s).sum) / det)
    {a b : K} (hne : a ≠ a₀ ∨ b ≠ b₀) :
    squaredErrors₂ samples x z y a₀ b₀ < squaredErrors₂ samples x z y a b := by
  obtain ⟨hx, hz⟩ := normal_equations
    (P := (samples.map fun s => x s * y s).sum) (Q := (samples.map fun s => z s * y s).sum)
    hdet hpos.ne'
  rw [← ha₀, ← hb₀] at hx hz
  rw [squaredErrors₂_eq_add hx hz a b]
  refine lt_add_of_pos_right _ (quadratic_form_pos (sum_sq_nonneg samples x) (hdet ▸ hpos) ?_)
  exact hne.imp sub_ne_zero.mpr sub_ne_zero.mpr

end Order

end LeastSquares

end GaiaOS
