/-
The backup, after `ops/backup/postgres_backup.py`.

A backup extracts the metadata and then runs `pg_dump`.  Each statement of the extraction sees
what was committed before it, and the dump is one snapshot of its own, so that writes of others
can come between any two of these steps.
-/
import GaiaOS.Ops.Backup.RestoreDrill

namespace GaiaOS

namespace Backup

/-- A step of a backup that looks at the database. -/
inductive BackupStep
  | read (statement : Statement)
  | pgDump
  deriving DecidableEq

/-- The steps in the order of `run_postgres_backup`. -/
def backupSteps : List BackupStep := statements.map .read ++ [.pgDump]

section Backup

variable {Row : Type} (checksum : SampleChecksum Row)

/-- A transaction of others that commits: what it makes of the rows of each audited table. -/
structure Write (Row : Type) where
  rows : String → List Row → List Row

def Database.commit (db : Database Row) (write : Write Row) : Database Row :=
  { db with
    table := fun table =>
      if table ∈ tablesToAudit then (db.table table).map (write.rows table) else db.table table }

inductive Event (Row : Type)
  | write (write : Write Row)
  | step (next : BackupStep)

def Event.step? : Event Row → Option BackupStep
  | .write _ => none
  | .step next => some next

/-- The steps of a backup with the writes that commit before, between and after them. -/
structure Interleaving (Row : Type) where
  events : List (Event Row)
  order : events.filterMap Event.step? = backupSteps

/-- The database, and how far the backup is. -/
structure BackupRun (Row : Type) where
  db : Database Row
  extraction : Extraction := {}
  dump : Option (Database Row) := none

def BackupRun.next (run : BackupRun Row) : Event Row → BackupRun Row
  | .write write => { run with db := run.db.commit write }
  | .step (.read statement) =>
      { run with extraction := run.extraction.exec checksum run.db statement }
  | .step .pgDump => { run with dump := some run.db }

def BackupRun.after (db : Database Row) (events : List (Event Row)) : BackupRun Row :=
  events.foldl (BackupRun.next checksum) { db }

/-- The record of `run_postgres_backup`, with the checksum of the file the dump was written to. -/
def runPostgresBackup (backupId fileChecksum : String) (db : Database Row)
    (interleaving : Interleaving Row) : BackupRecord where
  backupId := backupId
  status := .success
  checksum := fileChecksum
  verificationMetadata :=
    (BackupRun.after checksum db interleaving.events).extraction.metadata.toJson

/-- A drill of a backup whose file is intact, with the database `psql` made of it. -/
def drillOf (record : BackupRecord) (restored : Database Row) : DrillRun Row where
  requested := some record.backupId
  record := some record
  download := .ok record.checksum
  psql := { inputPath := record.backupId ++ "_restore.sql", target := restored }

end Backup

end Backup

end GaiaOS
