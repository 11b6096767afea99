/-
The ends of Wilson's score interval as the roots of its equation.

The ends for a proportion `p` in `n` trials are where `p` deviates by `z` standard errors:
`n (p - x)² = z² x (1 - x)`.  `gap` is the difference of the two sides, and it factors into the two
ends.  Below `p` it is positive exactly below the lower end (`lt_lowerEnd_iff`), and it grows with
`p` and `n` and falls with `z`; so the lower end does.
-/
import GaiaOS.Lib.WilsonInterval

namespace GaiaOS

namespace Wilson

variable {p q n m z w x : ℝ}

/-- How much further `x` is from `p` than it may be. -/
def gap (p n z x : ℝ) : ℝ := n * (p - x) ^ 2 - z ^ 2 * (x * (1 - x))

/-- Half the length of the interval. -/
noncomputable def halfLength (p n z : ℝ) : ℝ :=
  z * Real.sqrt (max 0 (radicand p n z)) / (1 + z ^ 2 / n)

/-- The upper end of the interval. -/
noncomputable def upperEnd (p n z : ℝ) : ℝ :=
  lowerEnd Real.sqrt p n z + halfLength p n z + halfLength p n z

theorem gap_eq_zero_iff : gap p n z x = 0 ↔ n * (p - x) ^ 2 = z ^ 2 * (x * (1 - x)) := sub_eq_zero

theorem width_pos (hn : 0 < n) (z : ℝ) : 0 < 1 + z ^ 2 / n :=
  add_pos_of_pos_of_nonneg zero_lt_one (div_nonneg (sq_nonneg z) hn.le)

/-- The gap has its zeros at the two ends. -/
theorem gap_eq_mul (hn : 0 < n) (h0 : 0 ≤ p) (h1 : p ≤ 1) (x : ℝ) :
    gap p n z x =
      (n + z ^ 2) * ((x - lowerEnd Real.sqrt p n z) * (x - upperEnd p n z)) := by
  have hwidth : 1 + z ^ 2 / n ≠ 0 := (width_pos hn z).ne'
  have hroot := sq_sqrt_radicand (z := z) hn h0 h1
  unfold upperEnd halfLength lowerEnd
  generalize Real.sqrt (max 0 (radicand p n z)) = r at hroot ⊢
  -- both ends times the width, where only the square of the root is left
  have hends : (1 + z ^ 2 / n) ^ 2 *
      ((x - (p + z ^ 2 / (2 * n) - z * r) / (1 + z ^ 2 / n)) *
        (x - ((p + z ^ 2 / (2 * n) - z * r) / (1 + z ^ 2 / n) + z * r / (1 + z ^ 2 / n) +
          z * r / (1 + z ^ 2 / n)))) =
      ((1 + z ^ 2 / n) * x - (p + z ^ 2 / (2 * n))) ^ 2 - z ^ 2 * r ^ 2 := by
    generalize 1 + z ^ 2 / n = width at hwidth ⊢
    generalize p + z ^ 2 / (2 * n) = center
    field_simp
    ring
  have hgap : ((1 + z ^ 2 / n) * x - (p + z ^ 2 / (2 * n))) ^ 2 - z ^ 2 * radicand p n z =
      (1 + z ^ 2 / n) * (gap p n z x / n) := by
    unfold radicand gap
    field_simp
    ring
  rw [hroot, hgap] at hends
  have hscale : n + z ^ 2 = n * (1 + z ^ 2 / n) := by
    field_simp
  refine mul_left_cancel₀ (pow_ne_zero 2 hwidth) ?_
  rw [hscale, mul_left_comm, hends]
  field_simp

/-! ### Where the ends lie -/

theorem radicand_pos (hn : 0 < n) (hz : 0 < z) (h0 : 0 ≤ p) (h1 : p ≤ 1) : 0 < radicand p n z :=
  (sq_pos_of_pos (div_pos hz (mul_pos zero_lt_two hn))).trans_le (radicand_ge hn h0 h1)

theorem halfLength_pos (hn : 0 < n) (hz : 0 < z) (h0 : 0 ≤ p) (h1 : p ≤ 1) :
    0 < halfLength p n z := by
  have hroot : 0 < Real.sqrt (max 0 (radicand p n z)) :=
    Real.sqrt_pos.mpr (lt_max_of_lt_right (radicand_pos hn hz h0 h1))
  exact div_pos (mul_pos hz hroot) (width_pos hn z)

theorem lowerEnd_lt_upperEnd (hn : 0 < n) (hz : 0 < z) (h0 : 0 ≤ p) (h1 : p ≤ 1) :
    lowerEnd Real.sqrt p n z < upperEnd p n z := by
  have hpos := halfLength_pos hn hz h0 h1
  unfold upperEnd
  linarith

theorem gap_lowerEnd (hn : 0 < n) (h0 : 0 ≤ p) (h1 : p ≤ 1) :
    gap p n z (lowerEnd Real.sqrt p n z) = 0 := by
  rw [gap_eq_mul hn h0 h1, sub_self, zero_mul, mul_zero]

/-- **The ends are the roots of the equation.** -/
theorem gap_eq_zero_iff_end (hn : 0 < n) (h0 : 0 ≤ p) (h1 : p ≤ 1) :
    gap p n z x = 0 ↔ x = lowerEnd Real.sqrt p n z ∨ x = upperEnd p n z := by
  have hscale : n + z ^ 2 ≠ 0 := (add_pos_of_pos_of_nonneg hn (sq_nonneg z)).ne'
  rw [gap_eq_mul hn h0 h1, mul_eq_zero, or_iff_right hscale, mul_eq_zero, sub_eq_zero, sub_eq_zero]

/-- The lower end is below the proportion. -/
theorem lowerEnd_lt (hn : 0 < n) (hz : 0 < z) (h0 : 0 < p) (h1 : p ≤ 1) :
    lowerEnd Real.sqrt p n z < p := by
  have hroot := le_sqrt_radicand (z := z) hn h0.le h1
  unfold lowerEnd
  rw [div_lt_iff₀ (width_pos hn z)]
  generalize Real.sqrt (max 0 (radicand p n z)) = r at hroot ⊢
  have hhalf : z ^ 2 / (2 * n) = z * (z / (2 * n)) := by ring
  have hwhole : z ^ 2 / n = z * (z / (2 * n)) + z * (z / (2 * n)) := by
    field_simp
    ring
  have hspread : z * (z / (2 * n)) ≤ z * r := mul_le_mul_of_nonneg_left hroot hz.le
  have hshare : 0 < p * (z ^ 2 / n) := mul_pos h0 (div_pos (sq_pos_of_pos hz) hn)
  rw [hhalf]
  linarith

/-- At zero and below, the gap is open. -/
theorem gap_pos_of_nonpos (hn : 0 < n) (h0 : 0 < p) (hx : x ≤ 0) : 0 < gap p n z x := by
  have hdeviation : 0 < n * (p - x) ^ 2 := mul_pos hn (sq_pos_of_pos (by linarith))
  have hspread : z ^ 2 * (x * (1 - x)) ≤ 0 := by
    refine mul_nonpos_of_nonneg_of_nonpos (sq_nonneg z) ?_
    exact mul_nonpos_of_nonpos_of_nonneg hx (by linarith)
  unfold gap
  linarith

/-- The lower end is a proportion itself. -/
theorem lowerEnd_pos (hn : 0 < n) (h0 : 0 < p) (h1 : p ≤ 1) : 0 < lowerEnd Real.sqrt p n z := by
  by_contra hnonpos
  have hopen := gap_pos_of_nonpos (z := z) hn h0 (not_lt.mp hnonpos)
  exact hopen.ne' (gap_lowerEnd hn h0.le h1)

/-- The upper end is not below the proportion. -/
theorem le_upperEnd (hn : 0 < n) (hz : 0 < z) (h0 : 0 < p) (h1 : p ≤ 1) : p ≤ upperEnd p n z := by
  by_contra hbelow
  have hclosed : gap p n z p ≤ 0 := by
    have hspread : 0 ≤ z ^ 2 * (p * (1 - p)) :=
      mul_nonneg (sq_nonneg z) (mul_nonneg h0.le (sub_nonneg.mpr h1))
    unfold gap
    rw [sub_self]
    linarith
  have hopen : 0 < gap p n z p := by
    rw [gap_eq_mul hn h0.le h1]
    refine mul_pos (add_pos_of_pos_of_nonneg hn (sq_nonneg z)) (mul_pos ?_ ?_)
    · exact sub_pos.mpr (lowerEnd_lt hn hz h0 h1)
    · exact sub_pos.mpr (not_le.mp hbelow)
  exact absurd hopen (not_lt.mpr hclosed)

/-- **Below the proportion, the gap is open exactly below the lower end.** -/
theorem lt_lowerEnd_iff (hn : 0 < n) (hz : 0 < z) (h0 : 0 < p) (h1 : p ≤ 1) (hx : x < p) :
    x < lowerEnd Real.sqrt p n z ↔ 0 < gap p n z x := by
  have hscale : 0 < n + z ^ 2 := add_pos_of_pos_of_nonneg hn (sq_nonneg z)
  have hupper : x - upperEnd p n z < 0 := sub_neg.mpr (hx.trans_le (le_upperEnd hn hz h0 h1))
  rw [gap_eq_mul hn h0.le h1, mul_pos_iff_of_pos_left hscale, ← sub_neg]
  constructor
  · intro hlower
    exact mul_pos_of_neg_of_neg hlower hupper
  · intro hopen
    exact neg_of_mul_pos_left hopen hupper.le

/-! ### How the lower end moves -/

theorem lowerEnd_lt_of_proportion (hn : 0 < n) (hz : 0 < z) (h0 : 0 < p) (hpq : p < q)
    (h1 : q ≤ 1) : lowerEnd Real.sqrt p n z < lowerEnd Real.sqrt q n z := by
  have hp1 : p ≤ 1 := hpq.le.trans h1
  have hbelow := lowerEnd_lt hn hz h0 hp1
  rw [lt_lowerEnd_iff hn hz (h0.trans hpq) h1 (hbelow.trans hpq)]
  have hzero := gap_lowerEnd (z := z) hn h0.le hp1
  generalize lowerEnd Real.sqrt p n z = x at hbelow hzero ⊢
  have hfurther : n * (p - x) ^ 2 < n * (q - x) ^ 2 :=
    mul_lt_mul_of_pos_left (pow_lt_pow_left₀ (by linarith) (by linarith) two_ne_zero) hn
  unfold gap at hzero ⊢
  linarith

theorem lowerEnd_lt_of_trials (hn : 0 < n) (hz : 0 < z) (h0 : 0 < p) (h1 : p ≤ 1) (hnm : n < m) :
    lowerEnd Real.sqrt p n z < lowerEnd Real.sqrt p m z := by
  have hbelow := lowerEnd_lt hn hz h0 h1
  rw [lt_lowerEnd_iff (hn.trans hnm) hz h0 h1 hbelow]
  have hzero := gap_lowerEnd (z := z) hn h0.le h1
  generalize lowerEnd Real.sqrt p n z = x at hbelow hzero ⊢
  have hheavier : n * (p - x) ^ 2 < m * (p - x) ^ 2 :=
    mul_lt_mul_of_pos_right hnm (sq_pos_of_pos (by linarith))
  unfold gap at hzero ⊢
  linarith

theorem lowerEnd_lt_of_deviation (hn : 0 < n) (hz : 0 < z) (h0 : 0 < p) (h1 : p ≤ 1)
    (hzw : z < w) : lowerEnd Real.sqrt p n w < lowerEnd Real.sqrt p n z := by
  have hw : 0 < w := hz.trans hzw
  have hbelow := lowerEnd_lt hn hw h0 h1
  have hpos := lowerEnd_pos (z := w) hn h0 h1
  rw [lt_lowerEnd_iff hn hz h0 h1 hbelow]
  have hzero := gap_lowerEnd (z := w) hn h0.le h1
  generalize lowerEnd Real.sqrt p n w = x at hbelow hpos hzero ⊢
  have hspread : z ^ 2 * (x * (1 - x)) < w ^ 2 * (x * (1 - x)) := by
    refine mul_lt_mul_of_pos_right (pow_lt_pow_left₀ hzw hz.le two_ne_zero) ?_
    exact mul_pos hpos (by linarith)
  unfold gap at hzero ⊢
  linarith

end Wilson

end GaiaOS
