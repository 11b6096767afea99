/-
The events of the pipeline and the rows they leave, after `metrics/events.py`,
`metrics/collector.py` and `db/models/metric_event.py`.

Every kind of event is written to the one table `metrics`, into the same columns: a kind that
has no duration writes a zero there, and a kind that cannot fail writes a success.  Three kinds
are only emitted to the log.  Of an event, the fields `persist_metric` reads are kept; times
are microseconds.
-/
import GaiaOS.Lib.Python

namespace GaiaOS

namespace Metrics

/-- The subclasses of `MetricEvent`. -/
inductive MetricEvent
  | jobStarted (enqueuedAt : Option Int) (startedAt : Int)
  | jobCompleted (durationSeconds llmCostEstimate : ℚ) (complexityTier : Option String)
  | jobFailed
  | ingestionCompleted (source : String) (durationMs : Int) (success : Bool)
  | backupCompleted (backupId : String) (durationMs : ℚ) (success : Bool)
  | restoreDrillCompleted (drillId : String) (durationMs : ℚ) (success : Bool)
  | restoreDrillFailed (drillId : String) (durationMs : ℚ)
  | circuitStateChanged
  | cacheHit
  | degradedResponseEmitted
  | calibrationCompleted (modelName : String) (promoted : Bool)
  | plannerRegionHintMissing (agent : String)
  | locationRegexFallbackExecuted (agent : String)

/-- `MetricEventRow`, without its identifier. -/
structure MetricEventRow where
  eventType : String
  groupKey : Option String
  durationMs : Int
  queueWaitMs : Option Int := none
  costEstimate : ℚ := 0
  success : Bool
  ts : Int

/-- What a `NUMERIC(10, 6)` column keeps of a number. -/
def numericScale6 (x : ℚ) : ℚ :=
  if 0 ≤ x then (x * 10 ^ 6 + 1 / 2).floor / 10 ^ 6 else (x * 10 ^ 6 - 1 / 2).ceil / 10 ^ 6

/-- `int(delta_s * 1000)`, of a difference in microseconds. -/
def queueWait (enqueuedAt startedAt : Int) : Int :=
  max 0 (pyTrunc ((startedAt - enqueuedAt : Int) / 1000))

/-- The row of an event written at a time, for the kinds that have one. -/
def metricEventRow (ts : Int) : MetricEvent → Option MetricEventRow
  | .jobStarted enqueuedAt startedAt =>
      some
        { eventType := "JobStarted"
          groupKey := none
          durationMs := 0
          queueWaitMs := enqueuedAt.map fun enqueuedAt => queueWait enqueuedAt startedAt
          success := true
          ts }
  | .jobCompleted durationSeconds llmCostEstimate complexityTier =>
      some
        { eventType := "JobCompleted"
          groupKey := complexityTier
          durationMs := pyTrunc (durationSeconds * 1000)
          costEstimate := numericScale6 llmCostEstimate
          success := true
          ts }
  | .jobFailed =>
      some { eventType := "JobFailed", groupKey := none, durationMs := 0, success := false, ts }
  | .ingestionCompleted source durationMs success =>
      some { eventType := "IngestionCompleted", groupKey := some source, durationMs, success, ts }
  | .backupCompleted backupId durationMs success =>
      some
        { eventType := "BackupCompleted"
          groupKey := some backupId
          durationMs := pyTrunc durationMs
          success
          ts }
  | .restoreDrillCompleted drillId durationMs success =>
      some
        { eventType := "RestoreDrillCompleted"
          groupKey := some drillId
          durationMs := pyTrunc durationMs
          success
          ts }
  | .restoreDrillFailed drillId durationMs =>
      some
        { eventType := "RestoreDrillFailed"
          groupKey := some drillId
          durationMs := pyTrunc durationMs
          success := false
          ts }
  | .calibrationCompleted modelName promoted =>
      some
        { eventType := "CalibrationCompleted"
          groupKey := some modelName
          durationMs := 0
          success := promoted
          ts }
  | .plannerRegionHintMissing agent =>
      some
        { eventType := "PlannerRegionHintMissing"
          groupKey := some agent
          durationMs := 0
          success := true
          ts }
  | .locationRegexFallbackExecuted agent =>
      some
        { eventType := "LocationRegexFallbackExecuted"
          groupKey := some agent
          durationMs := 0
          success := true
          ts }
  -- an unknown subclass is logged and skipped
  | .circuitStateChanged => none
  | .cacheHit => none
  | .degradedResponseEmitted => none

/-- `persist_metric`. -/
def persistMetric (metrics : List MetricEventRow) (ts : Int) (event : MetricEvent) :
    List MetricEventRow :=
  match metricEventRow ts event with
  | none => metrics
  | some row => metrics ++ [row]

end Metrics

end GaiaOS
