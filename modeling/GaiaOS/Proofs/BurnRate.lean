/-
How the burn rate of an objective answers to worse samples and to a stricter target.

The burn rate and the rest of the budget are rounded quotients of the error rate by the error
budget, and rounding keeps the order, so more bad samples and a smaller budget both make the
result worse.  From a target of 0.9999995 on the budget rounds to zero, and such an objective
reports nothing (`evaluate_of_no_budget`): a raise is only comparable on one side of that border.
-/
import GaiaOS.Alerting.Slo
import GaiaOS.Lib.Double

namespace GaiaOS

namespace Alerting

/-- The order of severities, none being the least. -/
def severityRank : Option AlertSeverity → Nat
  | none => 0
  | some .warning => 1
  | some .critical => 2

/-- A result that is no better than another. -/
structure BurnRateResult.NoBetterThan (result other : BurnRateResult) : Prop where
  burns : other.currentBurnRate ≤ result.currentBurnRate
  remains : result.budgetRemainingPct ≤ other.budgetRemainingPct
  alerts : severityRank other.alertSeverity ≤ severityRank result.alertSeverity

/-- `error_rate`. -/
def errorRate (slo : SLODefinition) (actuals : List ℚ) : ℚ :=
  (actuals.countP (isBad slo) : ℚ) / actuals.length

/-- `allowed_error_rate`. -/
def allowedErrorRate (slo : SLODefinition) : ℚ := pyRound (1 - slo.target) 6

/-- `alert_severity` of a burn rate. -/
def severityOf (threshold burnRate : ℚ) : Option AlertSeverity :=
  if threshold ≤ burnRate then
    if 144 / 10 ≤ burnRate then some .critical else some .warning
  else none

variable {slo : SLODefinition} {actuals : List ℚ}

/-- The result of samples, where there is a budget. -/
theorem evaluate_of_budget (hne : actuals ≠ []) (hbudget : 0 < allowedErrorRate slo) :
    evaluateSloBurnRate slo actuals =
      { currentBurnRate := pyRound (errorRate slo actuals / allowedErrorRate slo) 4
        budgetRemainingPct :=
          pyRound (max 0 ((1 - errorRate slo actuals / allowedErrorRate slo) * 100)) 2
        alertSeverity := severityOf slo.errorBudgetBurnAlertThreshold
          (pyRound (errorRate slo actuals / allowedErrorRate slo) 4) } := by
  have hsome : actuals.isEmpty = false := by simpa using hne
  unfold allowedErrorRate at hbudget
  unfold evaluateSloBurnRate errorRate allowedErrorRate severityOf
  simp only [hsome, Bool.false_eq_true, if_false, if_neg (not_le.mpr hbudget)]

/-- The result of samples, where the budget rounds to zero. -/
theorem evaluate_of_no_budget (hne : actuals ≠ []) (hbudget : allowedErrorRate slo ≤ 0) :
    evaluateSloBurnRate slo actuals = { currentBurnRate := 0, budgetRemainingPct := 100 } := by
  have hsome : actuals.isEmpty = false := by simpa using hne
  have hfull : pyRound 100 2 = 100 := by exact_mod_cast pyRound_intCast 100 2
  unfold allowedErrorRate at hbudget
  unfold evaluateSloBurnRate
  simp only [hsome, Bool.false_eq_true, if_false, if_pos hbudget,
    if_neg (not_le.mpr slo.burnPositive), hfull]

/-- The budget rounds to zero from a target of 0.9999995 on. -/
theorem allowedErrorRate_pos_iff (slo : SLODefinition) :
    0 < allowedErrorRate slo ↔ slo.target < 9999995 / 10000000 := by
  have hunit : (0 : ℚ) < 10 ^ 6 := by norm_num
  unfold allowedErrorRate pyRound
  rw [div_pos_iff_of_pos_right hunit]
  constructor
  · intro hpos
    by_contra hhigh
    have hsmall : roundHalfEven ((1 - slo.target) * 10 ^ 6) ≤ roundHalfEven (1 / 2) := by
      refine roundHalfEven_mono ?_
      linarith
    have hzero : roundHalfEven (1 / 2) = 0 := by decide +kernel
    rw [hzero] at hsmall
    exact absurd hpos (not_lt.mpr (by exact_mod_cast hsmall))
  · intro hlow
    have hmore : (1 : ℚ) / 2 < (1 - slo.target) * 10 ^ 6 := by linarith
    generalize (1 - slo.target) * 10 ^ 6 = x at hmore
    by_cases hone : 1 ≤ x
    · have hround : roundHalfEven 1 ≤ roundHalfEven x := roundHalfEven_mono hone
      have hunits : roundHalfEven 1 = 1 := by decide +kernel
      rw [hunits] at hround
      exact_mod_cast hround
    · -- between a half and one it rounds up
      have hfloor : x.floor = 0 := by
        refine Int.floor_eq_zero_iff.mpr ⟨?_, not_le.mp hone⟩
        linarith
      have hround : roundHalfEven x = 1 := by
        unfold roundHalfEven
        simp only [hfloor, Int.cast_zero, sub_zero]
        rw [if_neg (not_lt.mpr hmore.le), if_pos hmore]
        rfl
      rw [hround]
      norm_num

theorem errorRate_nonneg (slo : SLODefinition) (actuals : List ℚ) : 0 ≤ errorRate slo actuals :=
  div_nonneg (Nat.cast_nonneg _) (Nat.cast_nonneg _)

/-! ### What makes a result worse -/

theorem severityOf_mono (threshold : ℚ) {burnRate higher : ℚ} (h : burnRate ≤ higher) :
    severityRank (severityOf threshold burnRate) ≤ severityRank (severityOf threshold higher) := by
  unfold severityOf
  by_cases hbelow : threshold ≤ burnRate
  · rw [if_pos hbelow, if_pos (hbelow.trans h)]
    by_cases hcritical : 144 / 10 ≤ burnRate
    · rw [if_pos hcritical, if_pos (hcritical.trans h)]
    · rw [if_neg hcritical]
      split <;> decide
  · rw [if_neg hbelow]
    exact Nat.zero_le _

/-- A higher quotient of error rate and budget makes the result no better. -/
theorem noBetter_of_quotient {threshold quotient higher : ℚ} (h : quotient ≤ higher) :
    BurnRateResult.NoBetterThan
      { currentBurnRate := pyRound higher 4
        budgetRemainingPct := pyRound (max 0 ((1 - higher) * 100)) 2
        alertSeverity := severityOf threshold (pyRound higher 4) }
      { currentBurnRate := pyRound quotient 4
        budgetRemainingPct := pyRound (max 0 ((1 - quotient) * 100)) 2
        alertSeverity := severityOf threshold (pyRound quotient 4) } where
  burns := pyRound_mono 4 h
  remains := pyRound_mono 2 (max_le_max (le_refl 0) (by linarith))
  alerts := severityOf_mono threshold (pyRound_mono 4 h)

theorem BurnRateResult.NoBetterThan.refl (result : BurnRateResult) :
    result.NoBetterThan result :=
  ⟨le_refl _, le_refl _, le_refl _⟩

/-- A sample that turns bad raises the error rate. -/
theorem errorRate_set {i : Nat} {bad : ℚ} (hi : i < actuals.length)
    (hgood : isBad slo (actuals.get ⟨i, hi⟩) = false) :
    errorRate slo actuals ≤ errorRate slo (actuals.set i bad) := by
  have hcount : actuals.countP (isBad slo) ≤ (actuals.set i bad).countP (isBad slo) := by
    have hgood' : isBad slo actuals[i] = false := hgood
    rw [List.countP_set hi, hgood']
    exact Nat.le_add_right _ _
  unfold errorRate
  rw [List.length_set]
  exact div_le_div_of_nonneg_right (by exact_mod_cast hcount) (Nat.cast_nonneg _)

/-- **A bad sample in the place of a good one makes no result better.** -/
theorem evaluate_set_noBetter {i : Nat} {bad : ℚ} (hi : i < actuals.length)
    (hgood : isBad slo (actuals.get ⟨i, hi⟩) = false) :
    (evaluateSloBurnRate slo (actuals.set i bad)).NoBetterThan
      (evaluateSloBurnRate slo actuals) := by
  have hne : actuals ≠ [] := List.ne_nil_of_length_pos (Nat.zero_lt_of_lt hi)
  have hset : actuals.set i bad ≠ [] := by simpa using hne
  by_cases hbudget : 0 < allowedErrorRate slo
  · rw [evaluate_of_budget hne hbudget, evaluate_of_budget hset hbudget]
    exact noBetter_of_quotient
      (div_le_div_of_nonneg_right (errorRate_set hi hgood) hbudget.le)
  · rw [evaluate_of_no_budget hne (not_lt.mp hbudget),
      evaluate_of_no_budget hset (not_lt.mp hbudget)]
    exact .refl _

/-- The objective with another target. -/
def SLODefinition.withTarget (slo : SLODefinition) (target : ℚ) (h : 0 ≤ target ∧ target ≤ 1) :
    SLODefinition :=
  { slo with target := target, targetUnit := h }

/-- **A stricter target that leaves a budget makes no result better.** -/
theorem evaluate_withTarget_noBetter (hne : actuals ≠ []) {target : ℚ}
    (hunit : 0 ≤ target ∧ target ≤ 1) (hraise : slo.target ≤ target)
    (hbudget : target < 9999995 / 10000000) :
    (evaluateSloBurnRate (slo.withTarget target hunit) actuals).NoBetterThan
      (evaluateSloBurnRate slo actuals) := by
  have hless : 0 < allowedErrorRate (slo.withTarget target hunit) :=
    (allowedErrorRate_pos_iff _).mpr hbudget
  have hmore : allowedErrorRate (slo.withTarget target hunit) ≤ allowedErrorRate slo :=
    pyRound_mono 6 (sub_le_sub_left hraise 1)
  rw [evaluate_of_budget hne (hless.trans_le hmore), evaluate_of_budget hne hless]
  refine noBetter_of_quotient ?_
  -- the samples and what counts as bad are the same
  show errorRate slo actuals / _ ≤ errorRate slo actuals / _
  exact div_le_div_of_nonneg_left (errorRate_nonneg slo actuals) hless hmore

/--
**Burn rates are monotone.**  A bad sample in the place of a good one never makes the result
better, and neither does a raised target as long as it is below 0.9999995.  From there on the
budget rounds to zero, and the objective reports no burn rate, a full budget and no alert.
-/
theorem burn_rate_monotone (slo : SLODefinition) (actuals : List ℚ) (hne : actuals ≠ []) :
    (∀ (i : Nat) (hi : i < actuals.length) (bad : ℚ),
      isBad slo (actuals.get ⟨i, hi⟩) = false → isBad slo bad = true →
      (evaluateSloBurnRate slo (actuals.set i bad)).NoBetterThan
        (evaluateSloBurnRate slo actuals)) ∧
    (∀ (target : ℚ) (hunit : 0 ≤ target ∧ target ≤ 1), slo.target ≤ target →
      (target < 9999995 / 10000000 ∨ 9999995 / 10000000 ≤ slo.target) →
      (evaluateSloBurnRate (slo.withTarget target hunit) actuals).NoBetterThan
        (evaluateSloBurnRate slo actuals)) ∧
    (9999995 / 10000000 ≤ slo.target →
      evaluateSloBurnRate slo actuals = { currentBurnRate := 0, budgetRemainingPct := 100 }) := by
  have hnone : ∀ slo : SLODefinition, 9999995 / 10000000 ≤ slo.target →
      evaluateSloBurnRate slo actuals = { currentBurnRate := 0, budgetRemainingPct := 100 } :=
    fun slo hhigh => evaluate_of_no_budget hne
      (not_lt.mp fun hpos => absurd ((allowedErrorRate_pos_iff slo).mp hpos) (not_lt.mpr hhigh))
  refine ⟨fun i hi bad hgood _ => evaluate_set_noBetter hi hgood, ?_, hnone slo⟩
  intro target hunit hraise hborder
  rcases hborder with hbudget | hhigh
  · exact evaluate_withTarget_noBetter hne hunit hraise hbudget
  · rw [hnone slo hhigh, hnone (slo.withTarget target hunit) (hhigh.trans hraise)]
    exact .refl _

/-- Samples of the success rate, one of ten below the objective. -/
def successRates : List ℚ := [0, 1, 1, 1, 1, 1, 1, 1, 1, 1]

theorem alertThreshold_pos : (0 : ℚ) < 10 := by norm_num

theorem one_in_unit : (0 : ℚ) ≤ 1 ∧ (1 : ℚ) ≤ 1 := ⟨zero_le_one, le_refl 1⟩

def jobSuccessRate (target : ℚ) (h : 0 ≤ target ∧ target ≤ 1) : SLODefinition where
  name := "job_success_rate"
  target := target
  metric := "job_success_rate"
  threshold := some (99 / 100)
  comparison := .lt
  targetUnit := h
  burnPositive := alertThreshold_pos

/-- From 0.95 to 0.99 the burn rate goes up. -/
theorem burn_rate_monotone_sample :
    (evaluateSloBurnRate (jobSuccessRate (99 / 100) (by norm_num)) successRates).NoBetterThan
        (evaluateSloBurnRate (jobSuccessRate (95 / 100) (by norm_num)) successRates) ∧
      (evaluateSloBurnRate (jobSuccessRate (99 / 100) (by norm_num)) successRates).alertSeverity =
        some .warning :=
  ⟨(burn_rate_monotone (jobSuccessRate (95 / 100) (by norm_num)) successRates (by decide)).2.1
    (99 / 100) (by norm_num) (by norm_num [jobSuccessRate]) (.inl (by norm_num)),
    by decide +kernel⟩

/-- From 0.99 to 1 the burn rate falls from 10 to 0, and the warning is gone. -/
theorem burn_rate_lowered_by_full_target :
    let slo := jobSuccessRate (99 / 100) (by norm_num)
    let stricter := slo.withTarget 1 one_in_unit
    slo.target ≤ stricter.target ∧
      evaluateSloBurnRate slo successRates =
        { currentBurnRate := 10, budgetRemainingPct := 0, alertSeverity := some .warning } ∧
      evaluateSloBurnRate stricter successRates =
        { currentBurnRate := 0, budgetRemainingPct := 100 } := by
  decide +kernel

end Alerting

end GaiaOS
