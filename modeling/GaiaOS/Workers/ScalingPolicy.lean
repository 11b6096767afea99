/-
The history of the worker pool's load, after `workers/scaling_policy.py`.

Samples of the queue depth and of the utilization are rows of a table.  The summary of a window
aggregates them in one query and reads them in order of time with a second one; both queries see
the table as it is at their time, so what each returns is an argument.  Times are microseconds
since the epoch, and `total_seconds` is the float nearest to the quotient.  A utilization is a
rounded quotient and so finite.
-/
import GaiaOS.Lib.Double

namespace GaiaOS

namespace ScalingPolicy

/-- `ScalingTelemetrySampleRow`, with what the summary reads. -/
structure ScalingTelemetrySample where
  queueDepth : Int
  workerUtilizationPct : ℚ
  ts : Int
  deriving DecidableEq

/-- `timedelta.total_seconds()`. -/
def totalSeconds (microseconds : Int) : ℚ := double (microseconds / 1000000)

/-- The loop of both evaluations, with the start of the breach and its last sample. -/
def evaluateSustainedBreach (exceeds : ScalingTelemetrySample → Bool)
    (sustainedSeconds maxGapSeconds : ℚ) :
    Option Int → Option Int → List ScalingTelemetrySample → Bool
  | _, _, [] => false
  | start, last, s :: rest =>
      if exceeds s then
        let start :=
          match start with
          | none => s.ts
          | some start =>
              match last with
              | none => start
              | some last => if maxGapSeconds < totalSeconds (s.ts - last) then s.ts else start
        if sustainedSeconds ≤ totalSeconds (s.ts - start) then true
        else evaluateSustainedBreach exceeds sustainedSeconds maxGapSeconds (some start) (some s.ts)
          rest
      else evaluateSustainedBreach exceeds sustainedSeconds maxGapSeconds none none rest

/-- `evaluate_sustained_queue_depth_breach`. -/
def evaluateSustainedQueueDepthBreach (samples : List ScalingTelemetrySample)
    (threshold : Int := 20) (sustainedSeconds : ℚ := 900) (maxGapSeconds : ℚ := 600) : Bool :=
  evaluateSustainedBreach (fun s => threshold < s.queueDepth) sustainedSeconds maxGapSeconds
    none none samples

/-- `evaluate_sustained_utilization_breach`. -/
def evaluateSustainedUtilizationBreach (samples : List ScalingTelemetrySample)
    (threshold : ℚ := 100) (sustainedSeconds : ℚ := 600) (maxGapSeconds : ℚ := 600) : Bool :=
  evaluateSustainedBreach (fun s => threshold ≤ s.workerUtilizationPct) sustainedSeconds
    maxGapSeconds none none samples

/-- `days_map.get(window, 7)`. -/
def windowDays (window : String) : Int :=
  ([("1d", 1), ("7d", 7), ("30d", 30), ("90d", 90)].lookup window).getD 7

def cutoff (now : Int) (window : String) : Int := now - windowDays window * (86400 * 1000000)

/-- The thresholds of the summary, with the defaults of its arguments. -/
structure Triggers where
  queueDepthThreshold : Int := 20
  queueDepthSustainedSeconds : ℚ := 900
  utilizationThreshold : ℚ := 100
  utilizationSustainedSeconds : ℚ := 600

/-- What `get_historical_scaling_telemetry` returns. -/
structure HistoricalTelemetry where
  window : String
  sampleCount : Nat
  maxQueueDepth : Int
  avgQueueDepth : ℚ
  maxWorkerUtilizationPct : ℚ
  avgWorkerUtilizationPct : ℚ
  thresholdCrossedAtLeastOnce : Bool
  sustainedQueueDepthBreach : Bool
  sustainedUtilizationBreach : Bool
  sustainedTriggerSatisfied : Bool
  triggersMet : Bool
  scalingVerdict : String

/-- The mean of a column, zero without rows. -/
def average (values : List ℚ) : ℚ := if values.isEmpty then 0 else values.sum / values.length

/-- `get_historical_scaling_telemetry`; `rows` are those the first query aggregates, `samples` is
what the second one returns. -/
def getHistoricalScalingTelemetry (scalingSummaryIntervalS : Int)
    (rows samples : List ScalingTelemetrySample) (window : String := "7d")
    (triggers : Triggers := {}) : HistoricalTelemetry :=
  let maxQueueDepth := (rows.map (·.queueDepth)).max?.getD 0
  let maxWorkerUtilizationPct := (rows.map (·.workerUtilizationPct)).max?.getD 0
  let thresholdCrossed := decide (triggers.queueDepthThreshold < maxQueueDepth) ||
    decide (triggers.utilizationThreshold ≤ maxWorkerUtilizationPct)
  let maxGapSeconds : ℚ := max 600 (2 * scalingSummaryIntervalS)
  let sustainedQueueDepthBreach := evaluateSustainedQueueDepthBreach samples
    triggers.queueDepthThreshold triggers.queueDepthSustainedSeconds maxGapSeconds
  let sustainedUtilizationBreach := evaluateSustainedUtilizationBreach samples
    triggers.utilizationThreshold triggers.utilizationSustainedSeconds maxGapSeconds
  let sustainedTriggerSatisfied := sustainedQueueDepthBreach || sustainedUtilizationBreach
  { window := window
    sampleCount := rows.length
    maxQueueDepth := maxQueueDepth
    avgQueueDepth := pyRound (average (rows.map fun row => (row.queueDepth : ℚ))) 2
    maxWorkerUtilizationPct := pyRound maxWorkerUtilizationPct 2
    avgWorkerUtilizationPct := pyRound (average (rows.map (·.workerUtilizationPct))) 2
    thresholdCrossedAtLeastOnce := thresholdCrossed
    sustainedQueueDepthBreach := sustainedQueueDepthBreach
    sustainedUtilizationBreach := sustainedUtilizationBreach
    sustainedTriggerSatisfied := sustainedTriggerSatisfied
    triggersMet := sustainedTriggerSatisfied
    scalingVerdict :=
      if sustainedTriggerSatisfied then
        "Outcome A — Multi-Node Scaling Triggered (Sustained Threshold Met)"
      else if thresholdCrossed then
        "Outcome B — Multi-Node Scaling Deferred " ++
          "(Transient Spike Only, Sustained Duration Not Met)"
      else "Outcome B — Multi-Node Scaling Deferred (Threshold Never Crossed)" }

/-- The rows of a window. -/
def rowsInWindow (table : List ScalingTelemetrySample) (now : Int) (window : String) :
    List ScalingTelemetrySample :=
  table.filter fun row => cutoff now window ≤ row.ts

end ScalingPolicy

end GaiaOS
