/-
The restore drill, after `ops/backup/restore_drill.py`.

A drill downloads the dump, restores it into a scratch database, extracts the same metadata there
and compares them with those stored at the backup.  The stored ones are a JSON column and may be
anything; whatever raises while they are compared fails the drill.  The rows of the records and of
the metrics are written in sessions of their own, of which only the last can still spoil a
success.
-/
import GaiaOS.Ops.Backup.Provider

namespace GaiaOS

namespace Backup

inductive BackupStatus
  | pending
  | running
  | success
  | failed
  deriving DecidableEq

/-- The columns of `backup_records` a drill reads. -/
structure BackupRecord where
  backupId : String
  status : BackupStatus
  checksum : String
  verificationMetadata : Json

/-- The outcome of `restore_drill_records`. -/
structure RestoreDrillRecord where
  backupId : String
  status : BackupStatus
  rowCountsMatch : Bool := false
  checksumMatch : Bool := false
  migrationVersionMatch : Bool := false
  discrepancies : Dict String String := .empty
  errorDetails : Option String := none

/-- `x == n` for a whole number. -/
def equalsCount (x : Json) (n : Nat) : Bool :=
  match x with
  | .int m => m == n
  | .bool b => (if b then 1 else 0) == n
  | .float (.finite q) => q == n
  | _ => false

/-- `x == text`. -/
def equalsText (x : Json) (text : String) : Bool :=
  match x with
  | .str s => s == text
  | _ => false

/-- `x[:8]`. -/
def firstEight : Json → Except PyError Json
  | .str s => .ok (.str (pyTake 8 s))
  | .arr items => .ok (.arr (items.take 8))
  | _ => .error (.typeError "object is not subscriptable")

/-- What a comparison has found so far. -/
structure Verdict where
  rowCountsMatch : Bool := true
  checksumMatch : Bool := true
  migrationVersionMatch : Bool := true
  discrepancies : Dict String String := .empty

def Verdict.overallSuccess (verdict : Verdict) : Bool :=
  verdict.rowCountsMatch && verdict.checksumMatch && verdict.migrationVersionMatch

section Drill

-- `repr` is Python's for a value that is no text
variable (repr : Json → String)

/-- A value in an f-string. -/
def formatted : Json → String
  | .str s => s
  | x => repr x

/-- `x.items()`. -/
def itemsOf : Json → Except PyError (List (String × Json))
  | .obj entries => .ok entries
  | _ => .error (.attributeError "items")

/-- The comparison of the rows of a table. -/
def Verdict.compareRows (verdict : Verdict) (tbl : String) (expRows : Json) (extRows : Nat) :
    Verdict :=
  if equalsCount expRows extRows then verdict
  else
    { verdict with
      rowCountsMatch := false
      discrepancies := verdict.discrepancies.set ("table_" ++ tbl ++ "_rows")
        ("Expected " ++ formatted repr expRows ++ ", got " ++ toString extRows) }

/-- The comparison of the checksums of a table, made only if neither is empty. -/
def Verdict.compareChecksum (verdict : Verdict) (tbl : String) (expCs : Json) (extCs : String) :
    Except PyError Verdict :=
  if expCs.truthy ∧ extCs ≠ "" ∧ equalsText expCs extCs = false then do
    let expCs ← firstEight expCs
    return { verdict with
      checksumMatch := false
      discrepancies := verdict.discrepancies.set ("table_" ++ tbl ++ "_checksum")
        ("Expected " ++ formatted repr expCs ++ ", got " ++ pyTake 8 extCs) }
  else .ok verdict

/-- The body of the loop over the expected tables. -/
def Verdict.compareTable (extractedTables : Dict String TableInfo) (verdict : Verdict)
    (entry : String × Json) : Except PyError Verdict := do
  let (tbl, expInfo) := entry
  let extInfo := extractedTables.get? tbl
  let expRows ← expInfo.getD "rows" (.int 0)
  let verdict := verdict.compareRows repr tbl expRows ((extInfo.map TableInfo.rows).getD 0)
  let expCs ← expInfo.getD "sample_checksum" (.str "")
  verdict.compareChecksum repr tbl expCs ((extInfo.map TableInfo.sampleChecksum).getD "")

/-- The comparison of the migration versions, made only if one is expected. -/
def Verdict.compareMigration (verdict : Verdict) (expectedMig : Json) (extractedMig : String) :
    Verdict :=
  if expectedMig.truthy = false ∨ equalsText expectedMig extractedMig = true then verdict
  else
    { verdict with
      migrationVersionMatch := false
      discrepancies := verdict.discrepancies.set "migration_version"
        ("Expected " ++ formatted repr expectedMig ++ ", got " ++ extractedMig) }

/-- The check of the extracted metadata against the stored ones. -/
def verify (expectedMetadata : Json) (extracted : VerificationMetadata) :
    Except PyError Verdict := do
  let expectedTables ← expectedMetadata.getD "tables" (.obj [])
  let entries ← itemsOf expectedTables
  let verdict ← entries.foldlM (Verdict.compareTable repr extracted.tables) {}
  let expectedMig ← expectedMetadata.getD "migration_version" (.str "")
  return verdict.compareMigration repr expectedMig extracted.migrationVersion

/-- What a drill meets on its way. -/
structure DrillRun (Row : Type) where
  requested : Option String := none
  /-- The record the query for a successful backup or for the requested one finds. -/
  record : Option BackupRecord
  /-- The checksum of the downloaded file. -/
  download : Except PyError String
  createScratchDatabase : Except PyError Unit := .ok ()
  psql : Psql Row
  /-- Connecting to the scratch database. -/
  connect : Except PyError Unit := .ok ()
  /-- Recording the outcome. -/
  recordError : Option PyError := none
  /-- Persisting the metric, after the outcome is recorded. -/
  metricError : Option PyError := none

variable {Row : Type} (checksum : SampleChecksum Row)

/-- Steps 3 to 7: the verdict, or what was raised on the way. -/
def DrillRun.verdict (run : DrillRun Row) (record : BackupRecord) : Except PyError Verdict := do
  let downloadedChecksum ← run.download
  if record.checksum ≠ "" ∧ downloadedChecksum ≠ record.checksum then
    .error (.valueError ("Backup checksum mismatch! Expected: " ++ record.checksum ++ ", Got: " ++
      downloadedChecksum))
  run.createScratchDatabase
  let scratch ← restoreBackup run.psql
  run.connect
  let extracted := extractVerificationMetadata checksum fun _ => scratch
  verify repr (record.verificationMetadata.pyOr (.obj [])) extracted

/-- The text of a dict of texts. -/
def discrepancyText (discrepancies : Dict String String) : String :=
  repr (.obj (discrepancies.entries.map fun entry => (entry.1, .str entry.2)))

/-- `run_restore_drill`: the record it leaves. -/
def runRestoreDrill (run : DrillRun Row) : RestoreDrillRecord :=
  match run.record.filter fun record => record.status == .success with
  | none =>
      { backupId := (run.requested.filter (· ≠ "")).getD "unknown"
        status := .failed
        errorDetails := some ("No successful backup found for restore drill (requested backup_id=" ++
          run.requested.getD "None" ++ ")") }
  | some record =>
      let failed (e : PyError) : RestoreDrillRecord :=
        { backupId := record.backupId, status := .failed, errorDetails := some e.str }
      match run.verdict repr checksum record, run.recordError with
      | .error e, _ => failed e
      | .ok _, some e => failed e
      | .ok verdict, none =>
          let drillRec : RestoreDrillRecord :=
            { backupId := record.backupId
              status := if verdict.overallSuccess then .success else .failed
              rowCountsMatch := verdict.rowCountsMatch
              checksumMatch := verdict.checksumMatch
              migrationVersionMatch := verdict.migrationVersionMatch
              discrepancies := verdict.discrepancies
              errorDetails :=
                if verdict.overallSuccess then none
                else some ("Verification discrepancies detected: " ++
                  discrepancyText repr verdict.discrepancies) }
          match run.metricError with
          | none => drillRec
          | some e => { drillRec with status := .failed, errorDetails := some e.str }

end Drill

end Backup

end GaiaOS
