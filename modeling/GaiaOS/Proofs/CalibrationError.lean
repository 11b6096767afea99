/-
The expected calibration error is well defined.

A confidence in the unit interval falls into one bin only, the one `binIndex` gives it.  With that
the error is the spread of the differences between confidence and correctness over the bins, by the
number of predictions (`calculateCalibration_eq`), and what holds of a spread holds of it.
-/
import GaiaOS.Eval.Calibration
import GaiaOS.Lib.Binning
import Mathlib.Algebra.BigOperators.Field
import Mathlib.Algebra.Group.Action.Defs
import Mathlib.Algebra.Order.Floor.Semifield
import Mathlib.Data.Rat.Floor
import Mathlib.Tactic.Linarith
import Mathlib.Tactic.Positivity

namespace GaiaOS

namespace Eval

open Binning

/-- The confidence is in the range the docstring asks for. -/
def Prediction.InUnit (p : Prediction) : Prop := 0 ≤ p.1 ∧ p.1 ≤ 1

/-- The bin a confidence falls into. -/
def binIndex (nBins : Nat) (p : Prediction) : Nat := min ⌊p.1 * nBins⌋₊ (nBins - 1)

/-- How much the confidence exceeds the correctness. -/
def gap (p : Prediction) : ℚ := p.1 - if p.2 then 1 else 0

/-! ### Bins -/

section Bins

variable {nBins i m : Nat} {p : Prediction}

theorem binIndex_lt (hn : 0 < nBins) (p : Prediction) : binIndex nBins p < nBins :=
  (min_le_right _ _).trans_lt (Nat.sub_lt hn Nat.one_pos)

theorem lower_le_iff (hn : 0 < nBins) (hp : 0 ≤ p.1) :
    (i : ℚ) * (1 / nBins) ≤ p.1 ↔ i ≤ ⌊p.1 * nBins⌋₊ := by
  have hpos : (0 : ℚ) < nBins := by exact_mod_cast hn
  rw [mul_one_div, div_le_iff₀ hpos, Nat.le_floor_iff (by positivity)]

theorem lt_upper_iff (hn : 0 < nBins) (hp : 0 ≤ p.1) :
    p.1 < (i : ℚ) * (1 / nBins) + 1 / nBins ↔ ⌊p.1 * nBins⌋₊ < i + 1 := by
  have hpos : (0 : ℚ) < nBins := by exact_mod_cast hn
  rw [mul_one_div, ← add_div, lt_div_iff₀ hpos, Nat.floor_lt (by positivity)]
  push_cast
  rfl

/-- **A confidence is in the bin of its index and in no other.** -/
theorem inBin_iff (hp : p.InUnit) (hi : i < nBins) :
    inBin nBins i p = true ↔ binIndex nBins p = i := by
  have hn : 0 < nBins := Nat.zero_lt_of_lt hi
  obtain ⟨h0, h1⟩ := hp
  have hlower : (i : ℚ) * (1 / nBins) ≤ p.1 ↔ i ≤ ⌊p.1 * nBins⌋₊ := lower_le_iff hn h0
  unfold inBin binIndex
  by_cases hlast : i = nBins - 1
  · have hupper : p.1 ≤ (i : ℚ) * (1 / nBins) + 1 / nBins := by
      have hcast : (i : ℚ) + 1 = nBins := by exact_mod_cast (by omega : i + 1 = nBins)
      have hpos : (0 : ℚ) < nBins := by exact_mod_cast hn
      rw [mul_one_div, ← add_div, hcast, div_self hpos.ne']
      exact h1
    simp only [if_pos hlast, Bool.and_eq_true, decide_eq_true_eq, hupper, and_true, hlower]
    omega
  · have hupper : p.1 < (i : ℚ) * (1 / nBins) + 1 / nBins ↔ ⌊p.1 * nBins⌋₊ < i + 1 :=
      lt_upper_iff hn h0
    simp only [if_neg hlast, Bool.and_eq_true, decide_eq_true_eq, hlower, hupper]
    omega

/-- The bins of a finer run are cut out of those of a coarser one. -/
theorem binIndex_eq_div (hn : 0 < nBins) (hm : 0 < m) (p : Prediction) :
    binIndex nBins p = binIndex (nBins * m) p / m := by
  have hmono : Monotone fun k : Nat => k / m := fun a b h => Nat.div_le_div_right h
  have hfloor : ⌊p.1 * nBins⌋₊ = ⌊p.1 * (nBins * m : ℕ)⌋₊ / m := by
    have hpos : (m : ℚ) ≠ 0 := by exact_mod_cast hm.ne'
    rw [← Nat.floor_div_natCast, Nat.cast_mul, ← mul_assoc, mul_div_cancel_right₀ _ hpos]
  have hlast : (nBins * m - 1) / m = nBins - 1 := by
    obtain ⟨n, rfl⟩ : ∃ n, nBins = n + 1 := ⟨nBins - 1, by omega⟩
    have hsplit : (n + 1) * m - 1 = m * n + (m - 1) := by
      rw [Nat.succ_mul, mul_comm n m]
      omega
    rw [hsplit, Nat.mul_add_div hm, Nat.div_eq_of_lt (by omega)]
    rfl
  unfold binIndex
  rw [hfloor, ← hlast]
  exact (hmono.map_min).symm

end Bins

/-! ### The error as a spread -/

section Errors

variable {predictions : List Prediction} {nBins : Nat}

theorem sum_gap (l : List Prediction) :
    (l.map gap).sum = (l.map (·.1)).sum - (l.countP (·.2) : ℚ) := by
  induction l with
  | nil => simp
  | cons p l ih =>
      rw [List.map_cons, List.sum_cons, ih, List.map_cons, List.sum_cons, List.countP_cons]
      unfold gap
      split
      · push_cast
        ring
      · push_cast
        ring

/-- The gap between the means of a list. -/
theorem sum_gap_div (l : List Prediction) :
    (l.map gap).sum / l.length =
      (l.map (·.1)).sum / l.length - (l.countP (·.2) : ℚ) / l.length := by
  rw [sum_gap, sub_div]

theorem filter_inBin (hunit : ∀ p ∈ predictions, p.InUnit) {i : Nat} (hi : i < nBins) :
    predictions.filter (inBin nBins i) = predictions.filter (binIndex nBins · = i) := by
  refine List.filter_congr fun p hp => ?_
  rw [Bool.eq_iff_iff, inBin_iff (hunit p hp) hi, decide_eq_true_eq]

/-- What a bin adds is the size of its sum of gaps, by the number of predictions. -/
theorem binError_eq (hunit : ∀ p ∈ predictions, p.InUnit) {i : Nat} (hi : i < nBins) :
    binError predictions nBins i =
      |binSum (binIndex nBins) gap predictions i| / predictions.length := by
  unfold binError binSum
  simp only
  rw [filter_inBin hunit hi]
  generalize predictions.filter (binIndex nBins · = i) = bin
  cases hbin : bin with
  | nil => simp
  | cons p rest =>
      rw [← hbin]
      have hne : bin.isEmpty = false := by rw [hbin]; rfl
      have hpos : (0 : ℚ) < bin.length := by
        rw [hbin]
        exact_mod_cast Nat.succ_pos _
      rw [if_neg (by simp [hne]), ← sum_gap_div, abs_div, abs_of_pos hpos]
      field_simp

theorem foldl_binError (predictions : List Prediction) (nBins n : Nat) :
    (List.range n).foldl (fun ece i => ece + binError predictions nBins i) 0 =
      ∑ i ∈ Finset.range n, binError predictions nBins i := by
  induction n with
  | zero => rfl
  | succ n ih =>
      rw [List.range_succ, List.foldl_append, ih, Finset.sum_range_succ]
      rfl

/-- **The error is the spread of the gaps, by the number of predictions.** -/
theorem calculateCalibration_eq (hne : predictions ≠ []) (hn : 0 < nBins)
    (hunit : ∀ p ∈ predictions, p.InUnit) :
    calculateCalibration predictions nBins =
      .ok (spread (binIndex nBins) nBins gap predictions / predictions.length) := by
  unfold calculateCalibration
  rw [if_neg (by simpa using hne), if_neg hn.ne', foldl_binError]
  unfold spread
  rw [Finset.sum_div]
  exact congrArg Except.ok (Finset.sum_congr rfl fun i hi =>
    binError_eq hunit (Finset.mem_range.mp hi))

/-- The error does not depend on the order of the predictions. -/
theorem calculateCalibration_perm {permuted : List Prediction} (hne : predictions ≠ [])
    (hn : 0 < nBins) (hunit : ∀ p ∈ predictions, p.InUnit) (hperm : permuted.Perm predictions) :
    calculateCalibration permuted nBins = calculateCalibration predictions nBins := by
  have hpermuted : permuted ≠ [] := fun h => hne (List.nil_perm.mp (h ▸ hperm))
  rw [calculateCalibration_eq hpermuted hn fun p hp => hunit p (hperm.mem_iff.mp hp),
    calculateCalibration_eq hne hn hunit, spread_perm hperm, hperm.length_eq]

/-- Repeating all of the predictions changes nothing: the spread and their number both grow. -/
theorem calculateCalibration_repeat {times : Nat} (hne : predictions ≠ []) (hn : 0 < nBins)
    (hunit : ∀ p ∈ predictions, p.InUnit) (htimes : 1 ≤ times) :
    calculateCalibration (List.replicate times predictions).flatten nBins =
      calculateCalibration predictions nBins := by
  have htimes' : (times : ℚ) ≠ 0 := by exact_mod_cast (Nat.pos_of_ne_zero (by omega)).ne'
  have hmem : ∀ p ∈ (List.replicate times predictions).flatten, p ∈ predictions := by
    intro p hp
    obtain ⟨l, hl, hpl⟩ := List.mem_flatten.mp hp
    rwa [List.eq_of_mem_replicate hl] at hpl
  have hrepeated : (List.replicate times predictions).flatten ≠ [] := by
    obtain ⟨k, rfl⟩ : ∃ k, times = k + 1 := ⟨times - 1, by omega⟩
    simp [List.replicate_succ, hne]
  rw [calculateCalibration_eq hrepeated hn fun p hp => hunit p (hmem p hp),
    calculateCalibration_eq hne hn hunit, spread_repeat, List.length_flatten, List.map_replicate,
    List.sum_replicate, nsmul_eq_mul, smul_eq_mul, Nat.cast_mul, mul_div_mul_left _ _ htimes']

theorem abs_gap_le (p : Prediction) (hp : p.InUnit) : |gap p| ≤ 1 := by
  obtain ⟨h0, h1⟩ := hp
  unfold gap
  rw [abs_le]
  split
  · constructor <;> linarith
  · constructor <;> linarith

theorem sum_abs_gap_le (hunit : ∀ p ∈ predictions, p.InUnit) :
    (predictions.map fun p => |gap p|).sum ≤ predictions.length := by
  induction predictions with
  | nil => simp
  | cons p l ih =>
      rw [List.map_cons, List.sum_cons, List.length_cons]
      have hrest := ih fun q hq => hunit q (List.mem_cons_of_mem _ hq)
      have hfirst := abs_gap_le p (hunit p List.mem_cons_self)
      push_cast
      linarith

theorem sum_bin_lengths (hn : 0 < nBins) (hunit : ∀ p ∈ predictions, p.InUnit) :
    ∑ i ∈ Finset.range nBins, (predictions.filter (inBin nBins i)).length =
      predictions.length := by
  have hcount : ∀ l : List Prediction, (l.length : ℤ) = (l.map fun _ => (1 : ℤ)).sum := by
    intro l
    simp
  have htotal : ∑ i ∈ Finset.range nBins,
      binSum (binIndex nBins) (fun _ => (1 : ℤ)) predictions i = predictions.length := by
    rw [sum_binSum fun p _ => binIndex_lt hn p, hcount]
  have hcast : ((∑ i ∈ Finset.range nBins,
      (predictions.filter (inBin nBins i)).length : ℕ) : ℤ) = predictions.length := by
    rw [← htotal, Nat.cast_sum]
    refine Finset.sum_congr rfl fun i hi => ?_
    rw [filter_inBin hunit (Finset.mem_range.mp hi), hcount]
    rfl
  exact_mod_cast hcast

/--
**The expected calibration error is well defined.**  Every prediction is in one bin only, so that
the sizes of the bins add up.  The error is in the unit interval; it does not change with the order
of the predictions or when all are repeated; it is at least the gap between the mean confidence and
the accuracy; and it never falls when every bin is cut into equal parts.
-/
theorem calibration_error_well_defined (hne : predictions ≠ []) (hn : 1 ≤ nBins)
    (hunit : ∀ p ∈ predictions, 0 ≤ p.1 ∧ p.1 ≤ 1) :
    (∀ p ∈ predictions, ∃! i, i < nBins ∧ inBin nBins i p = true) ∧
    ∑ i ∈ Finset.range nBins, (predictions.filter (inBin nBins i)).length = predictions.length ∧
    ∃ ece, calculateCalibration predictions nBins = .ok ece ∧ 0 ≤ ece ∧ ece ≤ 1 ∧
      (∀ permuted : List Prediction, permuted.Perm predictions →
        calculateCalibration permuted nBins = .ok ece) ∧
      (∀ times, 1 ≤ times →
        calculateCalibration (List.replicate times predictions).flatten nBins = .ok ece) ∧
      |(predictions.map (·.1)).sum / predictions.length -
        (predictions.countP (·.2) : ℚ) / predictions.length| ≤ ece ∧
      ∀ m, 1 ≤ m → ∃ finer, calculateCalibration predictions (nBins * m) = .ok finer ∧
        ece ≤ finer := by
  have hsize : (0 : ℚ) < predictions.length := by
    exact_mod_cast List.length_pos_of_ne_nil hne
  have hbins : ∀ p ∈ predictions, binIndex nBins p < nBins := fun p _ => binIndex_lt hn p
  have hece := calculateCalibration_eq hne hn hunit
  refine ⟨fun p hp => ⟨binIndex nBins p, ⟨binIndex_lt hn p, ?_⟩, ?_⟩, sum_bin_lengths hn hunit,
    _, hece, ?_, ?_, ?_, ?_, ?_, ?_⟩
  · exact (inBin_iff (hunit p hp) (binIndex_lt hn p)).mpr rfl
  · rintro i ⟨hi, hin⟩
    exact ((inBin_iff (hunit p hp) hi).mp hin).symm
  · exact div_nonneg (spread_nonneg _ _ _ _) hsize.le
  · rw [div_le_one hsize]
    exact (spread_le hbins).trans (sum_abs_gap_le hunit)
  · intro permuted hperm
    rw [calculateCalibration_perm hne hn hunit hperm, hece]
  · intro times htimes
    rw [calculateCalibration_repeat hne hn hunit htimes, hece]
  · rw [← sum_gap_div, abs_div, abs_of_pos hsize]
    exact div_le_div_of_nonneg_right (abs_sum_le_spread hbins) hsize.le
  · intro m hm
    refine ⟨_, calculateCalibration_eq hne (Nat.mul_pos hn hm) hunit, ?_⟩
    refine div_le_div_of_nonneg_right ?_ hsize.le
    have hcut : binIndex nBins = fun p => binIndex (nBins * m) p / m :=
      funext fun p => binIndex_eq_div hn hm p
    rw [hcut]
    exact spread_le_of_cut hm nBins gap predictions

/-- Three predictions, in two bins. -/
def threePredictions : List Prediction := [(1 / 4, false), (3 / 4, true), (1, false)]

theorem calibration_error_of_three :
    calculateCalibration threePredictions 2 = .ok (1 / 3) ∧
      ∃ ece, calculateCalibration threePredictions 2 = .ok ece ∧ 0 ≤ ece ∧ ece ≤ 1 := by
  refine ⟨by decide +kernel, ?_⟩
  obtain ⟨-, -, ece, hece, h0, h1, -⟩ :=
    @calibration_error_well_defined threePredictions 2 (by decide) (by decide) (by decide +kernel)
  exact ⟨ece, hece, h0, h1⟩

end Errors

end Eval

end GaiaOS
