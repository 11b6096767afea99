/-
The retention of backups, after `cleanup_expired_backups` and `run_postgres_backup` in
`ops/backup/postgres_backup.py`.

A cleanup goes through the expired records one by one on one session: the file, the row, the
commit.  What fails is rolled back and logged, and the log asks the record for its `backup_id`.  A
rollback expires the objects of the session, and an expired attribute that is asked for outside an
awaited load raises, so the handler itself raises and the loop ends there.

Whether a rollback also expires the objects where the session has begun no transaction is left to
the session.  Times are microseconds since the epoch; of a record, the columns that say what became
of it are kept.
-/
import GaiaOS.Ops.Backup.RestoreDrill

namespace GaiaOS

namespace BackupRetention

open Backup (BackupStatus)

/-- `BackupRecord`. -/
structure BackupRow where
  backupId : String
  createdAt : Int
  status : BackupStatus := .pending
  completedAt : Option Int := none
  sizeBytes : Nat := 0
  checksum : String := ""
  storageLocation : String := ""
  errorDetails : Option String := none
  deriving DecidableEq

/-- `f"{backup_id}.sql"`. -/
def remoteKey (backupId : String) : String := backupId ++ ".sql"

/-- The table `backup_records`, and the keys of the files in the storage. -/
structure Store where
  backupRecords : List BackupRow
  files : List String
  uqBackupId : (backupRecords.map BackupRow.backupId).Nodup

namespace Store

def deleteFile (store : Store) (key : String) : Store :=
  { store with files := store.files.filter (· ≠ key) }

def deleteRow (store : Store) (backupId : String) : Store where
  backupRecords := store.backupRecords.filter (·.backupId ≠ backupId)
  files := store.files
  uqBackupId := store.uqBackupId.sublist (List.filter_sublist.map _)

/-- A new row, unless the identifier is taken. -/
def insertRow (store : Store) (row : BackupRow) : Option Store :=
  if h : row.backupId ∈ store.backupRecords.map BackupRow.backupId then none
  else
    some {
      backupRecords := store.backupRecords ++ [row]
      files := store.files
      uqBackupId := by
        rw [List.map_append, List.map_singleton, ← List.concat_eq_append]
        exact store.uqBackupId.concat h }

/-- The row of an identifier, changed. -/
def updateRow (store : Store) (backupId : String) (change : BackupRow → BackupRow)
    (hchange : ∀ row, (change row).backupId = row.backupId) : Store where
  backupRecords := store.backupRecords.map fun row =>
    if row.backupId = backupId then change row else row
  files := store.files
  uqBackupId := by
    have hids : (store.backupRecords.map fun row =>
        if row.backupId = backupId then change row else row).map BackupRow.backupId =
          store.backupRecords.map BackupRow.backupId := by
      rw [List.map_map]
      refine List.map_congr_left fun row _ => ?_
      show (if row.backupId = backupId then change row else row).backupId = row.backupId
      split
      · exact hchange row
      · rfl
    rw [hids]
    exact store.uqBackupId

def upload (store : Store) (key : String) : Store :=
  { store with files := if key ∈ store.files then store.files else store.files ++ [key] }

end Store

/-! ### `cleanup_expired_backups` -/

/-- The rows of a table in the order of a query. -/
structure Scan (rows : List BackupRow) where
  order : List BackupRow
  perm : order.Perm rows

/-- What a cleanup meets: the clock, the setting, the order of its query, which file deletions and
which commits fail, by the record, and whether a rollback outside a transaction expires too. -/
structure CleanupContext where
  now : Int
  retentionDays : Int := 30
  scan : (rows : List BackupRow) → Scan rows
  deleteError : String → Option PyError := fun _ => none
  commitError : String → Option PyError := fun _ => none
  idleRollbackExpires : Bool := true

def microsecondsPerDay : Int := 86400 * 1000000

/-- `datetime.min` and `datetime.max`, in UTC. -/
def minDatetime : Int := -62135596800 * 1000000
def maxDatetime : Int := 253402300800 * 1000000 - 1

/-- `datetime.now(UTC) - timedelta(days=retention_days)`. -/
def CleanupContext.cutoff (ctx : CleanupContext) : Except PyError Int :=
  if 999999999 < |ctx.retentionDays| then
    .error (.exception "days must have magnitude <= 999999999")
  else
    let cutoff := ctx.now - ctx.retentionDays * microsecondsPerDay
    if cutoff < minDatetime ∨ maxDatetime < cutoff then
      .error (.exception "date value out of range")
    else .ok cutoff

/-- Where a cleanup is: the store, whether the session has begun a transaction, the records whose
file it has tried to delete, and `deleted_count`. -/
structure CleanupState where
  store : Store
  began : Bool := true
  attempted : List String := []
  deletedCount : Nat := 0

/-- What asking an expired object raises. -/
def missingGreenlet : PyError := .exception "greenlet_spawn has not been called"

/-- The loop: what it returns or raises, and the state it leaves. -/
def cleanupLoop (ctx : CleanupContext) :
    List BackupRow → CleanupState → Except PyError Nat × CleanupState
  | [], state => (.ok state.deletedCount, state)
  | rec :: rest, state =>
      let tried := { state with attempted := state.attempted ++ [rec.backupId] }
      match ctx.deleteError rec.backupId with
      | none =>
          let deleted := { tried with store := tried.store.deleteFile (remoteKey rec.backupId) }
          match ctx.commitError rec.backupId with
          | none =>
              cleanupLoop ctx rest
                { deleted with
                  store := deleted.store.deleteRow rec.backupId
                  began := false
                  deletedCount := deleted.deletedCount + 1 }
          -- the deletion of the row began a transaction, so the rollback expires the objects
          | some _ => (.error missingGreenlet, { deleted with began := false })
      | some _ =>
          if state.began || ctx.idleRollbackExpires then
            (.error missingGreenlet, { tried with began := false })
          else cleanupLoop ctx rest tried

/-- `cleanup_expired_backups`. -/
def cleanupExpiredBackups (ctx : CleanupContext) (store : Store) :
    Except PyError Nat × CleanupState :=
  match ctx.cutoff with
  | .error e => (.error e, { store := store })
  | .ok cutoff =>
      let expiredRecords := (ctx.scan store.backupRecords).order.filter (·.createdAt < cutoff)
      cleanupLoop ctx expiredRecords { store := store }

/-! ### `run_postgres_backup` -/

/-- A run: what it is configured with and draws, and how its steps go. -/
structure BackupRun where
  databaseUrl : String
  backupStoragePath : String := "./backups"
  backupId : String
  createdAt : Int
  /-- Raised while the record is inserted, and while it is set to running. -/
  insertError : Option PyError := none
  runningError : Option PyError := none
  metadataError : Option PyError := none
  /-- The size and the checksum of the dump. -/
  dump : Except PyError (Nat × String)
  /-- The location of the uploaded file. -/
  upload : Except PyError String
  completedAt : Int
  updateError : Option PyError := none
  failedError : Option PyError := none
  cleanup : CleanupContext

namespace BackupRun

variable (run : BackupRun)

/-- The record as it is made. -/
def record : BackupRow where
  backupId := run.backupId
  createdAt := run.createdAt
  storageLocation := run.backupStoragePath

/-- The record of a run in the table, if the database takes it. -/
def recorded (store : Store) : Store :=
  match run.insertError, store.insertRow run.record with
  | none, some inserted =>
      match run.runningError with
      | some _ => inserted
      | none => inserted.updateRow run.backupId
          (fun row => { row with status := .running }) fun _ => rfl
  | _, _ => store

/-- What a record is set to when the backup is done. -/
def succeeded (size : Nat) (checksum location : String) (row : BackupRow) : BackupRow :=
  { row with
    status := .success
    completedAt := some run.completedAt
    sizeBytes := size
    checksum := checksum
    storageLocation := location }

/-- What a record is set to when the backup failed. -/
def failed (e : PyError) (row : BackupRow) : BackupRow :=
  { row with status := .failed, completedAt := some run.completedAt, errorDetails := some e.str }

/-- The store when the backup is done, before the cleanup. -/
def completed (store : Store) (size : Nat) (checksum location : String) : Store :=
  let uploaded := (run.recorded store).upload (remoteKey run.backupId)
  match run.updateError with
  | some _ => uploaded
  | none => uploaded.updateRow run.backupId (run.succeeded size checksum location) fun _ => rfl

/-- `final_record`: the row if it could be set, else the record as the run has it. -/
def finalRecord (completed : Store) (size : Nat) (checksum location : String) : BackupRow :=
  match run.updateError, completed.backupRecords.find? (·.backupId = run.backupId) with
  | none, some row => row
  | _, _ => run.succeeded size checksum location run.record

/-- The dump and its upload. -/
def backedUp : Except PyError (Nat × String × String) := do
  if let some e := run.metadataError then
    throw e
  let (size, checksum) ← run.dump
  let location ← run.upload
  return (size, checksum, location)

end BackupRun

/-- `run_postgres_backup`: what it returns, and the store it leaves. -/
def runPostgresBackup (run : BackupRun) (store : Store) : Except PyError BackupRow × Store :=
  if run.databaseUrl = "" then
    (.error (.exception "DATABASE_URL environment variable is not configured."), store)
  else
    match run.backedUp with
    | .ok (size, checksum, location) =>
        let completed := run.completed store size checksum location
        (.ok (run.finalRecord completed size checksum location),
          (cleanupExpiredBackups run.cleanup completed).2.store)
    | .error e =>
        let recorded := run.recorded store
        match run.failedError with
        | some e' => (.error e', recorded)
        | none =>
            match recorded.backupRecords.find? (·.backupId = run.backupId) with
            | none => (.error e, recorded)
            | some row =>
                (.ok (run.failed e row), recorded.updateRow run.backupId (run.failed e)
                  fun _ => rfl)

end BackupRetention

end GaiaOS
