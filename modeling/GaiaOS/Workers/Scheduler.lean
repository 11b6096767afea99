/-
The recurring jobs, from their registration to their execution, after `workers/scheduler.py` and
the entry points in `workers/jobs/` and `workers/scaling_policy.py`.

A start of the scheduler service goes through its jobs one by one, looks for each among those that
are scheduled and registers it if it is not there.  Looking may fail, for the whole list or at a
job that cannot be deserialised, and a failure counts as not there.  The service may be killed
between any two jobs.

When a job is due a worker imports its function and calls it with the arguments it was registered
with.  What the function goes on to do is left out but for the backup and the drill.  The
scheduler keeps a recurring job scheduled after it has been due, at another place in its order.
Intervals are positive and cron strings well formed; what the library does with others is left out.
-/
import GaiaOS.Ops.Backup.RestoreDrill

namespace GaiaOS

namespace JobScheduler

open Backup

/-! ### Registration -/

/-- The settings the intervals come from. -/
structure Settings where
  ingestionPollIntervalHours : Int := 1
  alertEvaluationIntervalMinutes : Int := 5
  backupCron : String := "0 2 * * *"
  restoreDrillCron : String := "0 4 1 * *"
  scalingSummaryIntervalS : Int := 300
  simulationCalibrationIntervalDays : Int := 30
  patternMiningIntervalHours : Int := 24

/-- `scheduler.schedule(scheduled_time=now + delay, interval=...)` or `scheduler.cron(...)`. -/
inductive Recurrence
  | schedule (delaySeconds interval : Int)
  | cron (cronString : String)
  deriving DecidableEq

/-- A job in the scheduler's set; one that is not `readable` raises when it is looked into. -/
structure ScheduledJob where
  funcName : String
  args : List String
  recurrence : Recurrence
  readable : Bool := true
  deriving DecidableEq

/-- `job.func_name == func_name and job.args and job.args[0] == source`. -/
def ScheduledJob.isFor (job : ScheduledJob) (funcName source : String) : Bool :=
  job.funcName == funcName && job.args.head? == some source

/-- The loop of `is_job_already_scheduled`; an exception ends it. -/
def findJob (funcName source : String) : List ScheduledJob → Bool
  | [] => false
  | job :: rest =>
      if !job.readable then false
      else if job.isFor funcName source then true
      else findJob funcName source rest

/-- `is_job_already_scheduled`, where `get_jobs` may raise. -/
def isJobAlreadyScheduled (jobs : Except PyError (List ScheduledJob)) (funcName source : String) :
    Bool :=
  match jobs with
  | .ok jobs => findJob funcName source jobs
  | .error _ => false

/-- A job as `main` registers it. -/
def recurring (funcName source : String) (recurrence : Recurrence) : ScheduledJob where
  funcName := funcName
  args := [source]
  recurrence := recurrence

/-- The jobs of `main`, in order. -/
def targets (settings : Settings) : List ScheduledJob :=
  let interval := settings.ingestionPollIntervalHours * 3600
  let scaling := settings.scalingSummaryIntervalS
  ["usgs", "noaa", "copernicus", "era5", "gdelt"].map (fun source =>
      recurring "workers.jobs.ingestion_jobs.run_ingestion_job" source (.schedule 10 interval)) ++
    [recurring "workers.jobs.literature_ingestion_job.run_literature_ingestion_job" "arxiv"
        (.schedule 25 interval),
      recurring "workers.jobs.alert_evaluation_job.run_alert_evaluation_job" "alert_evaluation"
        (.schedule 15 (settings.alertEvaluationIntervalMinutes * 60)),
      recurring "workers.jobs.backup_jobs.run_postgres_backup_job" "postgres_backup"
        (.cron settings.backupCron),
      recurring "workers.jobs.backup_jobs.run_restore_drill_job" "restore_drill"
        (.cron settings.restoreDrillCron),
      recurring "workers.scaling_policy.emit_scaling_summary_log" "scaling_summary"
        (.schedule 20 scaling),
      recurring "workers.jobs.scaling_telemetry_job.run_scaling_telemetry_job" "scaling_telemetry"
        (.schedule 22 scaling),
      recurring "workers.jobs.calibration_job.run_calibration_job" "simulation_calibration"
        (.schedule 30 (settings.simulationCalibrationIntervalDays * 24 * 3600)),
      recurring "workers.jobs.pattern_mining_job.run_pattern_mining_job" "longitudinal_patterns"
        (.schedule 35 (settings.patternMiningIntervalHours * 3600))]

/-- One job of `main`: the check, which may fail to read, and the registration. -/
def register (jobs : List ScheduledJob) (check : ScheduledJob × Option PyError) :
    List ScheduledJob :=
  let (target, failure) := check
  let found := match failure with
    | none => Except.ok jobs
    | some e => .error e
  if isJobAlreadyScheduled found target.funcName (target.args.headD "") then jobs
  else jobs ++ [target]

/-- `main` up to where it is killed, if it is; `checks` are the failures to read. -/
def main (settings : Settings) (checks : List (Option PyError)) (jobs : List ScheduledJob) :
    List ScheduledJob :=
  ((targets settings).zip checks).foldl register jobs

/-! ### Execution -/

/-- The positional parameters of a function: their names and whether they have a default. -/
structure Signature where
  parameters : List (String × Bool)
  varArgs : Bool := false

/-- A positional call: the arguments under the names of the parameters, or a `TypeError`. -/
def Signature.bind (signature : Signature) (args : List String) :
    Except PyError (List (String × String)) :=
  let unfilled := signature.parameters.drop args.length
  if !signature.varArgs && signature.parameters.length < args.length then
    .error (.typeError "takes fewer positional arguments")
  else if unfilled.any (fun parameter => !parameter.2) then
    .error (.typeError "missing required positional arguments")
  else .ok ((signature.parameters.map Prod.fst).zip args)

/-- What a worker has been made to run. -/
inductive Entry
  | ingestion (source : String)
  | literatureIngestion (source : String)
  | alertEvaluation
  | postgresBackup
  | restoreDrill (backupId : Option String)
  | scalingSummary (source : Option String)
  | calibration
  | patternMining (source : String)
  /-- A function `main` does not schedule. -/
  | other (funcName : String)
  deriving DecidableEq

/-- Importing `scaling_telemetry_job` fails: `db.session` has no `get_async_session_context`. -/
def scalingTelemetryImport : PyError :=
  .exception "cannot import name 'get_async_session_context' from 'db.session'"

/-- The function of a job, called with its arguments. -/
def perform (funcName : String) (args : List String) : Except PyError Entry :=
  match funcName with
  | "workers.jobs.ingestion_jobs.run_ingestion_job" => do
      let bound ← Signature.bind ⟨[("source", false)], false⟩ args
      return .ingestion ((bound.lookup "source").getD "")
  | "workers.jobs.literature_ingestion_job.run_literature_ingestion_job" => do
      let bound ← Signature.bind ⟨[("source", true)], false⟩ args
      return .literatureIngestion ((bound.lookup "source").getD "arxiv")
  | "workers.jobs.alert_evaluation_job.run_alert_evaluation_job" => do
      let _ ← Signature.bind ⟨[], true⟩ args
      return .alertEvaluation
  | "workers.jobs.backup_jobs.run_postgres_backup_job" => do
      let _ ← Signature.bind ⟨[], false⟩ args
      return .postgresBackup
  | "workers.jobs.backup_jobs.run_restore_drill_job" => do
      let bound ← Signature.bind ⟨[("backup_id", true)], false⟩ args
      return .restoreDrill (bound.lookup "backup_id")
  | "workers.scaling_policy.emit_scaling_summary_log" => do
      let bound ← Signature.bind ⟨[("source", true), ("metrics", true)], false⟩ args
      return .scalingSummary (bound.lookup "source")
  | "workers.jobs.scaling_telemetry_job.run_scaling_telemetry_job" => .error scalingTelemetryImport
  | "workers.jobs.calibration_job.run_calibration_job" => do
      let _ ← Signature.bind ⟨[], false⟩ args
      return .calibration
  | "workers.jobs.pattern_mining_job.run_pattern_mining_job" => do
      let bound ← Signature.bind ⟨[("source", true)], false⟩ args
      return .patternMining ((bound.lookup "source").getD "longitudinal_patterns")
  | _ => .ok (.other funcName)

/-! ### The system -/

/-- A due job and what came of it. -/
structure Execution where
  job : ScheduledJob
  result : Except PyError Entry

/-- The scheduler's set, what the workers have done, and the two tables of `ops.backup`. -/
structure State where
  jobs : List ScheduledJob := []
  executions : List Execution := []
  backups : List BackupRecord := []
  drills : List RestoreDrillRecord := []

section System

variable {Row : Type} (repr : Json → String) (checksum : SampleChecksum Row)

/-- `run_restore_drill(backup_id)` against the table of backups; the rest of what the drill
meets is given. -/
def State.restoreDrill (s : State) (backupId : Option String) (latest : Option BackupRecord)
    (run : DrillRun Row) : RestoreDrillRecord :=
  let record := match backupId.filter (· ≠ "") with
    | some backupId => s.backups.find? fun record => record.backupId == backupId
    | none => latest
  runRestoreDrill repr checksum { run with requested := backupId, record := record }

/-- The record `run_postgres_backup` leaves, under a name that starts with `backup_`. -/
def State.postgresBackup (s : State) (suffix : String) (record : BackupRecord) : State :=
  { s with backups := s.backups ++ [{ record with backupId := "backup_" ++ suffix }] }

inductive Event (Row : Type)
  /-- The scheduler service starts; the list of checks ends where it is killed. -/
  | start (settings : Settings) (checks : List (Option PyError))
  /-- Somebody else schedules a job. -/
  | schedule (job : ScheduledJob)
  /-- Due times have moved, and with them the order in which the jobs are listed. -/
  | reorder (jobs : List ScheduledJob)
  /-- The data of a scheduled job becomes unreadable. -/
  | corrupt (index : Nat)
  /-- A scheduled job is due, with the backup it takes or what the drill it runs meets. -/
  | due (index : Nat) (suffix : String) (record : BackupRecord) (latest : Option BackupRecord)
    (run : DrillRun Row)
  /-- `run_postgres_backup()` by hand. -/
  | backup (suffix : String) (record : BackupRecord)

/-- One event; `none` where it cannot happen. -/
def step (s : State) : Event Row → Option State
  | .start settings checks => some { s with jobs := main settings checks s.jobs }
  | .schedule job => some { s with jobs := s.jobs ++ [job] }
  | .reorder jobs => if jobs.isPerm s.jobs then some { s with jobs := jobs } else none
  | .corrupt index =>
      some { s with jobs := s.jobs.modify index fun job => { job with readable := false } }
  | .due index suffix record latest run =>
      match s.jobs[index]? with
      | none => none
      | some job =>
          let result := if job.readable then perform job.funcName job.args
            else .error (.exception "DeserializationError")
          let s := { s with executions := s.executions ++ [⟨job, result⟩] }
          match result with
          | .ok .postgresBackup => some (s.postgresBackup suffix record)
          | .ok (.restoreDrill backupId) =>
              let drill := s.restoreDrill repr checksum backupId latest run
              some { s with drills := s.drills ++ [drill] }
          | _ => some s
  | .backup suffix record => some (s.postgresBackup suffix record)

end System

end JobScheduler

end GaiaOS
