/-
What `calculate_wilson_lower_bound` computes, over the reals.

With some successes, and no more of them than trials, nothing is clamped: the value is the lower end
of Wilson's interval, the smaller root of its equation.  It lies below the observed proportion and
above zero, and grows with the successes and with the trials at one proportion; the surer one wants
to be, the lower it is.
-/
import GaiaOS.Lib.WilsonRoots
import GaiaOS.Workers.PatternMiningJob

namespace GaiaOS

namespace PatternMining

/-- `calculate_wilson_lower_bound`, with the arithmetic and the root of the reals. -/
noncomputable def wilsonLowerBound (successes trials : Nat) (z : ℝ) : ℝ :=
  Wilson.lowerBound Real.sqrt successes trials z

/-- It is the one formula that the job computes in numbers of its own. -/
theorem calculateWilsonLowerBound_eq (lib : Library) (successes trials : Nat) (z : ℚ) :
    calculateWilsonLowerBound lib successes trials z =
      Wilson.lowerBound lib.sqrt successes trials z := rfl

section Unclamped

variable {s n : Nat} {z : ℝ}

theorem trials_pos (hs : 0 < s) (hsn : s ≤ n) : (0 : ℝ) < n := by
  exact_mod_cast hs.trans_le hsn

theorem proportion_pos (hs : 0 < s) (hsn : s ≤ n) : (0 : ℝ) < s / n :=
  div_pos (by exact_mod_cast hs) (trials_pos hs hsn)

theorem proportion_le_one (hs : 0 < s) (hsn : s ≤ n) : (s : ℝ) / n ≤ 1 := by
  rw [div_le_one (trials_pos hs hsn)]
  exact_mod_cast hsn

/-- Nothing is clamped. -/
theorem wilsonLowerBound_eq_lowerEnd (hs : 0 < s) (hsn : s ≤ n) (hz : 0 < z) :
    wilsonLowerBound s n z = Wilson.lowerEnd Real.sqrt (s / n) n z := by
  have hn := trials_pos hs hsn
  have h0 := proportion_pos hs hsn
  have h1 := proportion_le_one hs hsn
  have hsome : ¬ (n = 0 ∨ s = 0) := by omega
  have hrate : min 1 (max 0 ((s : ℝ) / n)) = s / n := by
    rw [max_eq_right h0.le, min_eq_right h1]
  have hlow := Wilson.lowerEnd_pos (z := z) hn h0 h1
  have hhigh := (Wilson.lowerEnd_lt hn hz h0 h1).trans_le h1
  unfold wilsonLowerBound Wilson.lowerBound
  rw [if_neg hsome, hrate, min_eq_right hhigh.le, max_eq_right hlow.le]

/-- Nor is what the root is taken of. -/
theorem wilsonLowerBound_eq (hs : 0 < s) (hsn : s ≤ n) (hz : 0 < z) :
    wilsonLowerBound s n z =
      (s / n + z ^ 2 / (2 * n) - z * Real.sqrt (Wilson.radicand (s / n) n z)) /
        (1 + z ^ 2 / n) := by
  have hpos := Wilson.radicand_pos (trials_pos hs hsn) hz (proportion_pos hs hsn).le
    (proportion_le_one hs hsn)
  rw [wilsonLowerBound_eq_lowerEnd hs hsn hz]
  unfold Wilson.lowerEnd
  rw [max_eq_right hpos.le]

/-- It is the smaller of the two roots. -/
theorem root_iff (hs : 0 < s) (hsn : s ≤ n) (hz : 0 < z) (x : ℝ) :
    n * (s / n - x) ^ 2 = z ^ 2 * x * (1 - x) ↔
      x = wilsonLowerBound s n z ∨ x = Wilson.upperEnd (s / n) n z := by
  rw [mul_assoc, ← Wilson.gap_eq_zero_iff, wilsonLowerBound_eq_lowerEnd hs hsn hz]
  exact Wilson.gap_eq_zero_iff_end (trials_pos hs hsn) (proportion_pos hs hsn).le
    (proportion_le_one hs hsn)

theorem wilsonLowerBound_lt_upperEnd (hs : 0 < s) (hsn : s ≤ n) (hz : 0 < z) :
    wilsonLowerBound s n z < Wilson.upperEnd (s / n) n z := by
  rw [wilsonLowerBound_eq_lowerEnd hs hsn hz]
  exact Wilson.lowerEnd_lt_upperEnd (trials_pos hs hsn) hz (proportion_pos hs hsn).le
    (proportion_le_one hs hsn)

theorem wilsonLowerBound_pos (hs : 0 < s) (hsn : s ≤ n) (hz : 0 < z) :
    0 < wilsonLowerBound s n z := by
  rw [wilsonLowerBound_eq_lowerEnd hs hsn hz]
  exact Wilson.lowerEnd_pos (trials_pos hs hsn) (proportion_pos hs hsn)
    (proportion_le_one hs hsn)

theorem wilsonLowerBound_lt_proportion (hs : 0 < s) (hsn : s ≤ n) (hz : 0 < z) :
    wilsonLowerBound s n z < s / n := by
  rw [wilsonLowerBound_eq_lowerEnd hs hsn hz]
  exact Wilson.lowerEnd_lt (trials_pos hs hsn) hz (proportion_pos hs hsn)
    (proportion_le_one hs hsn)

/-! ### How it moves -/

theorem wilsonLowerBound_lt_of_successes (hs : 0 < s) (hz : 0 < z) {more : Nat} (hmore : s < more)
    (hmn : more ≤ n) : wilsonLowerBound s n z < wilsonLowerBound more n z := by
  have hsn : s ≤ n := hmore.le.trans hmn
  have hm : 0 < more := hs.trans hmore
  have hn := trials_pos hs hsn
  have hrate : (s : ℝ) / n < more / n :=
    div_lt_div_of_pos_right (by exact_mod_cast hmore) hn
  rw [wilsonLowerBound_eq_lowerEnd hs hsn hz, wilsonLowerBound_eq_lowerEnd hm hmn hz]
  exact Wilson.lowerEnd_lt_of_proportion hn hz (proportion_pos hs hsn) hrate
    (proportion_le_one hm hmn)

/-- The same proportion in more trials. -/
theorem wilsonLowerBound_scaled (hs : 0 < s) (hsn : s ≤ n) (hz : 0 < z) {k : Nat} (hk : 0 < k) :
    wilsonLowerBound (k * s) (k * n) z =
      Wilson.lowerEnd Real.sqrt (s / n) (k * n : ℝ) z := by
  have hk0 : (k : ℝ) ≠ 0 := by exact_mod_cast hk.ne'
  rw [wilsonLowerBound_eq_lowerEnd (Nat.mul_pos hk hs) (Nat.mul_le_mul_left k hsn) hz,
    Nat.cast_mul, Nat.cast_mul, mul_div_mul_left _ _ hk0]

theorem wilsonLowerBound_lt_of_scale (hs : 0 < s) (hsn : s ≤ n) (hz : 0 < z) {k m : Nat}
    (hk : 0 < k) (hkm : k < m) :
    wilsonLowerBound (k * s) (k * n) z < wilsonLowerBound (m * s) (m * n) z := by
  have hn := trials_pos hs hsn
  have hk0 : (0 : ℝ) < k := by exact_mod_cast hk
  have hmore : (k * n : ℝ) < m * n :=
    mul_lt_mul_of_pos_right (by exact_mod_cast hkm) hn
  rw [wilsonLowerBound_scaled hs hsn hz hk, wilsonLowerBound_scaled hs hsn hz (hk.trans hkm)]
  exact Wilson.lowerEnd_lt_of_trials (mul_pos hk0 hn) hz (proportion_pos hs hsn)
    (proportion_le_one hs hsn) hmore

theorem wilsonLowerBound_lt_of_deviation (hs : 0 < s) (hsn : s ≤ n) (hz : 0 < z) {w : ℝ}
    (hzw : z < w) : wilsonLowerBound s n w < wilsonLowerBound s n z := by
  rw [wilsonLowerBound_eq_lowerEnd hs hsn (hz.trans hzw), wilsonLowerBound_eq_lowerEnd hs hsn hz]
  exact Wilson.lowerEnd_lt_of_deviation (trials_pos hs hsn) hz (proportion_pos hs hsn)
    (proportion_le_one hs hsn) hzw

/--
**The Wilson lower bound is the smaller root of Wilson's equation**, strictly between zero and the
observed proportion, so nothing in its formula is clamped.  It strictly grows with the successes,
and with the trials at one proportion, and strictly falls with `z`.
-/
theorem wilsonLowerBound_exact (hs : 0 < s) (hsn : s ≤ n) (hz : 0 < z) :
    (∃ upper, wilsonLowerBound s n z < upper ∧ ∀ x : ℝ,
        n * (s / n - x) ^ 2 = z ^ 2 * x * (1 - x) ↔ x = wilsonLowerBound s n z ∨ x = upper) ∧
      (0 < wilsonLowerBound s n z ∧ wilsonLowerBound s n z < s / n) ∧
      (0 < Wilson.radicand (s / n : ℝ) n z ∧
        wilsonLowerBound s n z =
          (s / n + z ^ 2 / (2 * n) - z * Real.sqrt (Wilson.radicand (s / n) n z)) /
            (1 + z ^ 2 / n)) ∧
      (∀ more, s < more → more ≤ n → wilsonLowerBound s n z < wilsonLowerBound more n z) ∧
      (∀ k m, 0 < k → k < m →
        wilsonLowerBound (k * s) (k * n) z < wilsonLowerBound (m * s) (m * n) z) ∧
      (∀ w, z < w → wilsonLowerBound s n w < wilsonLowerBound s n z) := by
  refine ⟨⟨_, wilsonLowerBound_lt_upperEnd hs hsn hz, root_iff hs hsn hz⟩, ⟨?_, ?_⟩, ⟨?_, ?_⟩,
    ?_, ?_, ?_⟩
  · exact wilsonLowerBound_pos hs hsn hz
  · exact wilsonLowerBound_lt_proportion hs hsn hz
  · exact Wilson.radicand_pos (trials_pos hs hsn) hz (proportion_pos hs hsn).le
      (proportion_le_one hs hsn)
  · exact wilsonLowerBound_eq hs hsn hz
  · exact fun _ => wilsonLowerBound_lt_of_successes hs hz
  · exact fun _ _ => wilsonLowerBound_lt_of_scale hs hsn hz
  · exact fun _ => wilsonLowerBound_lt_of_deviation hs hsn hz

/-- Eight out of ten, and eighty out of a hundred. -/
theorem wilsonLowerBound_exact_eight :
    0 < wilsonLowerBound 8 10 (49 / 25) ∧
      wilsonLowerBound 8 10 (49 / 25) < wilsonLowerBound 80 100 (49 / 25) := by
  obtain ⟨-, ⟨hpos, -⟩, -, -, hscale, -⟩ :=
    wilsonLowerBound_exact (s := 8) (n := 10) (z := 49 / 25) (by decide) (by decide) (by norm_num)
  exact ⟨hpos, by simpa using hscale 1 10 (by decide) (by decide)⟩

end Unclamped

end PatternMining

end GaiaOS
