/-
Alert rules and what comes of evaluating them, after `alerting/rules.py` and
`db/models/alert_rule.py`.

A rule compares a metric over a sliding window with a threshold.  Its metric, window,
comparison and severity are text columns; `AlertRuleSchema` restricts them on the way in.
-/
import GaiaOS.Lib.Python

namespace GaiaOS

namespace Alerting

/-- `SUPPORTED_METRICS`. -/
def supportedMetrics : List String :=
  ["investigation.p95_latency_ms", "investigation.job_failure_rate",
    "investigation.job_success_rate", "job_failure_rate", "investigation.avg_cost_estimate",
    "calibration_ece", "citation_fallback_rate", "scaling.queue_depth",
    "scaling.worker_utilization_pct", "scaling.p95_queue_wait_s"]

/-- `AlertRuleSchema`, what the admin API takes a rule as. -/
structure AlertRuleSchema where
  name : String
  metric : String
  threshold : ℚ
  comparison : String := "gt"
  window : String := "15m"
  severity : String := "warning"
  consecutiveCycles : Int := 1
  isEnabled : Bool := true
  nameLength : 1 ≤ name.length ∧ name.length ≤ 255 := by decide
  metricSupported : metric ∈ supportedMetrics := by decide
  comparisonKnown : comparison ∈ ["gt", "lt", "gte"] := by decide
  windowKnown : window ∈ ["15m", "1h", "1d", "30d"] := by decide
  severityKnown : severity ∈ ["warning", "critical"] := by decide
  cyclesPositive : 1 ≤ consecutiveCycles := by decide

/-- `AlertRule`, a row of the table. -/
structure AlertRule where
  id : Nat
  name : String
  metric : String
  threshold : ℚ
  comparison : String
  window : String
  severity : String
  consecutiveCycles : Int
  isEnabled : Bool
  deriving DecidableEq

/-- `AlertFiring`. -/
structure AlertFiring where
  ruleName : String
  metric : String
  currentValue : ℚ
  threshold : ℚ
  comparison : String
  severity : String
  sloName : Option String
  firedAt : Int
  deriving DecidableEq

/-- `AlertResolution`. -/
structure AlertResolution where
  ruleName : String
  metric : String
  severity : String
  resolvedAt : Int
  deriving DecidableEq

/-- What the webhook is handed. -/
inductive Notification
  | firing (payload : AlertFiring)
  | resolution (payload : AlertResolution)
  deriving DecidableEq

def Notification.ruleName : Notification → String
  | .firing payload => payload.ruleName
  | .resolution payload => payload.ruleName

def Notification.isFiring : Notification → Bool
  | .firing _ => true
  | .resolution _ => false

/-- The first of the default rules. -/
def highP95Latency : AlertRuleSchema where
  name := "high_p95_latency"
  metric := "investigation.p95_latency_ms"
  threshold := 10000

/-- `DEFAULT_ALERT_RULES`. -/
def defaultAlertRules : List AlertRuleSchema :=
  [highP95Latency,
    { name := "high_job_failure_rate"
      metric := "investigation.job_failure_rate"
      threshold := 1 / 10
      window := "1h"
      severity := "critical" },
    { name := "scaling_queue_depth_breach"
      metric := "scaling.queue_depth"
      threshold := 20
      consecutiveCycles := 4 },
    { name := "scaling_worker_utilization_breach"
      metric := "scaling.worker_utilization_pct"
      threshold := 100
      comparison := "gte"
      consecutiveCycles := 4 },
    { name := "scaling_p95_queue_wait_breach"
      metric := "scaling.p95_queue_wait_s"
      threshold := 60 }]

end Alerting

end GaiaOS
