/-
Uncertainty estimates, after `orchestrator/schemas/uncertainty.py`.

The pydantic model checks three field ranges and then the ordering of the bounds,
and refuses to build a value that fails either.  Here the checked facts are fields
of the structure, so an estimate is valid by being one, and `UncertaintyEstimate.new`
is the constructor call of the source: it either produces a value or raises.

Confidence arithmetic is exact: the source's floats are rationals.
-/
import GaiaOS.Lib.Python
import Mathlib.Tactic.Linarith

namespace GaiaOS

/-- `SourceType`: where the uncertainty of an estimate comes from. -/
inductive SourceType
  | dataSparsity
  | modelUncertainty
  | evidenceConflict
  | wellSupported
  deriving DecidableEq, Repr

/-- `UncertaintyEstimate`, with what its validators check. -/
structure UncertaintyEstimate where
  pointEstimate : ℚ
  lowerBound : ℚ
  upperBound : ℚ
  source : SourceType
  lower_nonneg : 0 ≤ lowerBound
  lower_le_point : lowerBound ≤ pointEstimate
  point_le_upper : pointEstimate ≤ upperBound
  upper_le_one : upperBound ≤ 1
  deriving DecidableEq

namespace UncertaintyEstimate

theorem lower_le_upper (e : UncertaintyEstimate) : e.lowerBound ≤ e.upperBound :=
  le_trans e.lower_le_point e.point_le_upper

/-- The field constraint `ge=0.0, le=1.0`. -/
def inUnit (x : ℚ) : Bool := decide (0 ≤ x) && decide (x ≤ 1)

/-- The constructor: the field ranges first, then `validate_bounds`. -/
def new (pointEstimate lowerBound upperBound : ℚ) (source : SourceType) :
    Except PyError UncertaintyEstimate :=
  if !inUnit pointEstimate then
    .error (.validationError "UncertaintyEstimate" "point_estimate")
  else if hl : 0 ≤ lowerBound ∧ lowerBound ≤ 1 then
    if hu : 0 ≤ upperBound ∧ upperBound ≤ 1 then
      if hb : lowerBound ≤ pointEstimate ∧ pointEstimate ≤ upperBound then
        .ok ⟨pointEstimate, lowerBound, upperBound, source, hl.1, hb.1, hb.2, hu.2⟩
      else .error (.validationError "UncertaintyEstimate" "")
    else .error (.validationError "UncertaintyEstimate" "upper_bound")
  else .error (.validationError "UncertaintyEstimate" "lower_bound")

/-- The constructor accepts every ordered triple inside `[0, 1]`, and keeps it. -/
theorem new_eq_ok {pt lo hi : ℚ} (source : SourceType) (h0 : 0 ≤ lo) (h1 : lo ≤ pt)
    (h2 : pt ≤ hi) (h3 : hi ≤ 1) :
    new pt lo hi source = .ok ⟨pt, lo, hi, source, h0, h1, h2, h3⟩ := by
  have hpt : inUnit pt = true := by
    simp only [inUnit, Bool.and_eq_true, decide_eq_true_eq]
    exact ⟨le_trans h0 h1, le_trans h2 h3⟩
  have hl : 0 ≤ lo ∧ lo ≤ 1 := ⟨h0, by linarith⟩
  have hu : 0 ≤ hi ∧ hi ≤ 1 := ⟨by linarith, h3⟩
  unfold new
  rw [hpt, dif_pos hl, dif_pos hu, dif_pos ⟨h1, h2⟩]
  rfl

/-- The interval of `r` contains the interval of `e`. -/
def Covers (r e : UncertaintyEstimate) : Prop :=
  r.lowerBound ≤ e.lowerBound ∧ e.upperBound ≤ r.upperBound

/-- `DEFAULT_POINT_ESTIMATE_INTERVAL_MARGIN`. -/
def pointEstimateIntervalMargin : ℚ := 8 / 100

/-- `from_point_estimate`.  `repr` is the text of a float in the message. -/
def fromPointEstimate (repr : ℚ → String) (pointEstimate : ℚ)
    (margin : ℚ := pointEstimateIntervalMargin) (source : SourceType := .wellSupported) :
    Except PyError UncertaintyEstimate :=
  if 0 ≤ pointEstimate ∧ pointEstimate ≤ 1 then
    new pointEstimate (max 0 (pointEstimate - margin)) (min 1 (pointEstimate + margin)) source
  else
    .error (.valueError
      ("Point estimate " ++ repr pointEstimate ++ " must be between 0.0 and 1.0."))

/-- An estimate in range has an interval around it. -/
theorem fromPointEstimate_ok {pointEstimate : ℚ} (repr : ℚ → String) (source : SourceType)
    (h0 : 0 ≤ pointEstimate) (h1 : pointEstimate ≤ 1) :
    ∃ u, fromPointEstimate repr pointEstimate pointEstimateIntervalMargin source = .ok u ∧
      u.pointEstimate = pointEstimate := by
  unfold fromPointEstimate pointEstimateIntervalMargin
  rw [if_pos ⟨h0, h1⟩]
  refine ⟨_, new_eq_ok source (le_max_left _ _) ?_ ?_ (min_le_left _ _), rfl⟩
  · exact max_le h0 (by linarith)
  · exact le_min h1 (by linarith)

/-- `DEFAULT_LEGACY_FALLBACK_MARGIN`. -/
def legacyFallbackMargin : ℚ := 1 / 10

/-- `from_legacy_confidence`. -/
def fromLegacyConfidence (confidence : ℚ) (source : SourceType) :
    Except PyError UncertaintyEstimate :=
  if 0 ≤ confidence ∧ confidence ≤ 1 then
    new confidence (max 0 (confidence - legacyFallbackMargin))
      (min 1 (confidence + legacyFallbackMargin)) source
  else .error (.valueError "Confidence score must be between 0.0 and 1.0.")

/-- A confidence in range converts, and the point estimate is that confidence. -/
theorem fromLegacyConfidence_ok {confidence : ℚ} (source : SourceType) (h0 : 0 ≤ confidence)
    (h1 : confidence ≤ 1) :
    ∃ u, fromLegacyConfidence confidence source = .ok u ∧ u.pointEstimate = confidence := by
  unfold fromLegacyConfidence legacyFallbackMargin
  rw [if_pos ⟨h0, h1⟩]
  refine ⟨_, new_eq_ok source (le_max_left _ _) ?_ ?_ (min_le_left _ _), rfl⟩
  · exact max_le h0 (by linarith)
  · exact le_min h1 (by linarith)

end UncertaintyEstimate

end GaiaOS
