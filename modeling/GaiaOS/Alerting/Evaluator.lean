/-
Evaluating rules and objectives against what the metric tables hold, after
`alerting/evaluator.py`.

The queries are given by what they return in a cycle, for each window; any of them may raise.
A rule's value is read from one snapshot per window, in which every metric starts at zero; if
the first of its queries raises, the rules of that window are passed over.  A failure to fetch
the samples of an objective counts as having none.
-/
import GaiaOS.Lib.Dict
import GaiaOS.Alerting.Slo
import GaiaOS.Db.Alerts

namespace GaiaOS

namespace Alerting

/-- `_WINDOW_INTERVAL`, in minutes. -/
def windowInterval : String → Option Nat
  | "15m" => some 15
  | "1h" => some 60
  | "1d" => some (24 * 60)
  | "30d" => some (30 * 24 * 60)
  | _ => none

/-- The row of `_SQL_WINDOW_SNAPSHOT`; an aggregate over no rows is null. -/
structure SnapshotRow where
  p95LatencyMs : Option ℚ
  jobFailureRate : Option ℚ
  avgCostEstimate : Option ℚ

/-- The row of `_SQL_TELEMETRY_SNAPSHOT`. -/
structure TelemetryRow where
  queueDepth : Option ℚ
  workerUtilizationPct : Option ℚ

/-- What the queries return, for each interval. -/
structure Queries where
  windowSnapshot : Nat → Except PyError (Option SnapshotRow)
  queueWaitP95 : Nat → Except PyError (Option (Option ℚ))
  telemetrySnapshot : Nat → Except PyError (Option TelemetryRow)
  metricsLatency : Nat → Except PyError (List (Option ℚ))
  metricsSuccess : Nat → Except PyError (List (Option ℚ))
  evalEce : Nat → Except PyError (List (Option ℚ))
  evalFallback : Nat → Except PyError (List (Option ℚ))

/-- `_is_threshold_violated`. -/
def isThresholdViolated (currentValue threshold : ℚ) (comparison : String) : Bool :=
  match comparison with
  | "gt" => threshold < currentValue
  | "gte" => threshold ≤ currentValue
  | "lt" => currentValue < threshold
  | _ => false

/-- `if value is not None: snapshot[key] = float(value)`. -/
def record (snapshot : Dict String ℚ) (key : String) (value : Option ℚ) : Dict String ℚ :=
  match value with
  | none => snapshot
  | some value => snapshot.set key value

/-- The snapshot before anything is measured. -/
def zeroSnapshot : Dict String ℚ :=
  Dict.ofPairs
    [("investigation.p95_latency_ms", 0), ("investigation.job_failure_rate", 0),
      ("job_failure_rate", 0), ("investigation.avg_cost_estimate", 0), ("scaling.queue_depth", 0),
      ("scaling.worker_utilization_pct", 0), ("scaling.p95_queue_wait_s", 0)]

section Fetch

variable (queries : Queries)

/-- `_fetch_window_metrics_snapshot`. -/
def fetchWindowMetricsSnapshot (window : String) : Except PyError (Dict String ℚ) := do
  let interval := (windowInterval window).getD 15
  let row ← queries.windowSnapshot interval
  let snapshot := record zeroSnapshot "investigation.p95_latency_ms" (row.bind (·.p95LatencyMs))
  let snapshot := record snapshot "investigation.job_failure_rate" (row.bind (·.jobFailureRate))
  let snapshot := record snapshot "job_failure_rate" (row.bind (·.jobFailureRate))
  let snapshot := record snapshot "investigation.avg_cost_estimate" (row.bind (·.avgCostEstimate))
  let queueWait := (queries.queueWaitP95 interval).toOption.bind Option.join
  let snapshot := record snapshot "scaling.p95_queue_wait_s" (queueWait.map (· / 1000))
  let telemetry := (queries.telemetrySnapshot interval).toOption.join
  let snapshot := record snapshot "scaling.queue_depth" (telemetry.bind (·.queueDepth))
  return record snapshot "scaling.worker_utilization_pct" (telemetry.bind (·.workerUtilizationPct))

/-- The query an objective's metric is read with, if there is one. -/
def actualsQuery (metric : String) : Option (Nat → Except PyError (List (Option ℚ))) :=
  if metric ∈ ["investigation.p95_latency_ms", "p95_latency"] then some queries.metricsLatency
  else if metric ∈ ["investigation.job_success_rate", "job_success_rate"] then
    some queries.metricsSuccess
  else if metric = "calibration_ece" then some queries.evalEce
  else if metric = "citation_fallback_rate" then some queries.evalFallback
  else none

/-- `_fetch_slo_actuals`. -/
def fetchSloActuals (slo : SLODefinition) : List ℚ :=
  let interval := (windowInterval slo.window).getD (30 * 24 * 60)
  match actualsQuery queries slo.metric with
  | none => []
  | some query =>
      match query interval with
      | .error _ => []
      | .ok rows => rows.filterMap id

end Fetch

section Evaluate

variable (queries : Queries) (workerPoolSize : Int) (now : Int)

/-- The threshold a rule is held to: that of the queue depth follows the size of the pool. -/
def effectiveThreshold (rule : AlertRule) : ℚ :=
  if rule.metric = "scaling.queue_depth" then 10 * workerPoolSize else rule.threshold

/-- The firing of a rule on a snapshot, if it is violated. -/
def ruleFiring (snapshot : Dict String ℚ) (rule : AlertRule) : Option AlertFiring :=
  if rule.metric ∉ supportedMetrics then none
  else
    let currentVal := (snapshot.get? rule.metric).getD 0
    if isThresholdViolated currentVal (effectiveThreshold workerPoolSize rule) rule.comparison then
      some
        { ruleName := rule.name
          metric := rule.metric
          currentValue := currentVal
          threshold := effectiveThreshold workerPoolSize rule
          comparison := rule.comparison
          severity := rule.severity
          sloName := none
          firedAt := now }
    else none

/-- The firings of one window. -/
def windowFirings (window : String) (rules : List AlertRule) : List AlertFiring :=
  match fetchWindowMetricsSnapshot queries window with
  | .error _ => []
  | .ok snapshot => rules.filterMap (ruleFiring workerPoolSize now snapshot)

/-- `evaluate_rules`. -/
def evaluateRules (rules : List AlertRule) : List AlertFiring :=
  let rulesByWindow := Dict.group ((rules.filter (·.isEnabled)).map fun rule => (rule.window, rule))
  rulesByWindow.entries.flatMap fun entry =>
    windowFirings queries workerPoolSize now entry.1 entry.2

/-- The firing of an objective, if its burn rate alerts. -/
def sloFiring (slo : SLODefinition) : Option AlertFiring :=
  let res := evaluateSloBurnRate slo (fetchSloActuals queries slo)
  if res.insufficientData then none
  else
    res.alertSeverity.map fun severity =>
      { ruleName := slo.name
        metric := slo.metric
        currentValue := res.currentBurnRate
        threshold := slo.errorBudgetBurnAlertThreshold
        comparison := "gt"
        severity := severity.value
        sloName := some slo.name
        firedAt := now }

/-- `evaluate_slos`; its burn rates are only logged. -/
def evaluateSlos (slos : List SLODefinition) : List AlertFiring :=
  slos.filterMap (sloFiring queries now)

end Evaluate

end Alerting

end GaiaOS
