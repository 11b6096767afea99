/-
Service level objectives and how fast they burn their error budget, after `alerting/slo.py`.

Numbers are exact rationals, rounded where the source rounds.  The definitions come from a
file that is read afresh in every cycle; `load_slo_definitions` is what a cycle is given.
-/
import GaiaOS.Lib.Python
import Mathlib.Tactic.NormNum

namespace GaiaOS

namespace Alerting

/-- The comparisons `SLODefinition` knows. -/
inductive SloComparison
  | gt
  | lt
  | eq
  deriving DecidableEq, Repr

/-- `SLODefinition`. -/
structure SLODefinition where
  name : String
  target : ℚ
  window : String := "30d"
  errorBudgetBurnAlertThreshold : ℚ := 10
  metric : String
  threshold : Option ℚ := none
  comparison : SloComparison := .gt
  nameLength : 1 ≤ name.length ∧ name.length ≤ 255 := by decide
  targetUnit : 0 ≤ target ∧ target ≤ 1 := by norm_num
  burnPositive : 0 < errorBudgetBurnAlertThreshold := by norm_num
  metricLength : 1 ≤ metric.length ∧ metric.length ≤ 255 := by decide

/-- The severities of a burn rate. -/
inductive AlertSeverity
  | warning
  | critical
  deriving DecidableEq, Repr

def AlertSeverity.value : AlertSeverity → String
  | .warning => "warning"
  | .critical => "critical"

/-- `BurnRateResult`. -/
structure BurnRateResult where
  currentBurnRate : ℚ
  budgetRemainingPct : ℚ
  alertSeverity : Option AlertSeverity := none
  insufficientData : Bool := false
  deriving DecidableEq

/-- A sample the objective counts as bad. -/
def isBad (slo : SLODefinition) (x : ℚ) : Bool :=
  match slo.threshold with
  | none => 0 < x
  | some threshold =>
      match slo.comparison with
      | .gt => threshold < x
      | .lt => x < threshold
      | .eq => x = threshold

/-- `evaluate_slo_burn_rate`. -/
def evaluateSloBurnRate (slo : SLODefinition) (actuals : List ℚ) : BurnRateResult :=
  if actuals.isEmpty then
    { currentBurnRate := 0
      budgetRemainingPct := 100
      insufficientData := true }
  else
    let errorRate : ℚ := (actuals.countP (isBad slo) : ℚ) / actuals.length
    let allowedErrorRate := pyRound (1 - slo.target) 6
    let burnRate := if allowedErrorRate ≤ 0 then 0 else pyRound (errorRate / allowedErrorRate) 4
    let budgetRemainingPct :=
      if allowedErrorRate ≤ 0 then 100 else max 0 ((1 - errorRate / allowedErrorRate) * 100)
    { currentBurnRate := burnRate
      budgetRemainingPct := pyRound budgetRemainingPct 2
      alertSeverity :=
        if slo.errorBudgetBurnAlertThreshold ≤ burnRate then
          if 144 / 10 ≤ burnRate then some .critical else some .warning
        else none }

end Alerting

end GaiaOS
