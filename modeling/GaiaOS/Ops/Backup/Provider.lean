/-
The backup provider, after `ops/backup/provider.py`.

What a verification reads is the number of rows of each audited table and a checksum of the first
hundred, each by a statement of its own.  All statements run on one connection: the first that
fails aborts its transaction, so that every later one fails as well, and each failure is
swallowed.  A database is what such statements can see of it, a table being missing or there with
its rows in the order of a scan.
-/
import GaiaOS.Lib.Python
import GaiaOS.Lib.Dict

namespace GaiaOS

namespace Backup

/-- What the statements of a verification see. -/
structure Database (Row : Type) where
  /-- What `SELECT version()` answers. -/
  version : String
  /-- The first row of `alembic_version`; the table may be missing, and it may be empty. -/
  alembicVersion : Option (Option String)
  /-- The rows of a table; `none` if it is missing or cannot be read. -/
  table : String → Option (List Row)

/-- `hashlib.sha256(json.dumps(sample, ...).encode()).hexdigest()`, which is never empty. -/
structure SampleChecksum (Row : Type) where
  hexdigest : List Row → String
  nonempty : ∀ rows, hexdigest rows ≠ ""

def tablesToAudit : List String :=
  ["users", "investigations", "hazard_events", "alert_rules", "alert_incidents", "api_keys",
    "password_reset_tokens", "metric_events"]

structure TableInfo where
  rows : Nat
  sampleChecksum : String
  sampleSize : Nat
  deriving DecidableEq

/-- A statement of the verification. -/
inductive Statement
  | version
  | migration
  | count (table : String)
  | sample (table : String)
  deriving DecidableEq

/-- The statements in the order of the source. -/
def statements : List Statement :=
  [.version, .migration] ++ tablesToAudit.flatMap fun table => [.count table, .sample table]

/-- The variables of `extract_verification_metadata`, and whether its transaction is aborted. -/
structure Extraction where
  aborted : Bool := false
  pgVersion : String := "PostgreSQL"
  migrationVersion : String := "unknown"
  /-- `row_count` of the table at hand, if it was read. -/
  rowCount : Option Nat := none
  tableMetadata : Dict String TableInfo := .empty

section Extraction

variable {Row : Type} (checksum : SampleChecksum Row)

/-- An answer as the connection hands it on. -/
def Extraction.answer {α : Type} (x : Extraction) (answer : Option α) : Option α :=
  if x.aborted then none else answer

/-- `str(val).split()[0] + " " + str(val).split()[1]`, unless it raises. -/
def shortVersion (val : String) : Option String :=
  match pySplit val with
  | name :: number :: _ => some (name ++ " " ++ number)
  | _ => none

/-- A statement, answered by the database as it stands. -/
def Extraction.exec (db : Database Row) (statement : Statement) (x : Extraction) : Extraction :=
  match statement with
  | .version =>
      match x.answer (some db.version) with
      | none => x
      | some val => { x with pgVersion := (shortVersion val).getD x.pgVersion }
  | .migration =>
      match x.answer db.alembicVersion with
      | none => { x with aborted := true }
      | some none => x
      | some (some val) => if val = "" then x else { x with migrationVersion := val }
  | .count table =>
      match x.answer (db.table table) with
      | none => { x with aborted := true, rowCount := none }
      | some rows => { x with rowCount := some rows.length }
  | .sample table =>
      -- a count that failed has gone on with the next table
      match x.rowCount with
      | none => x
      | some rowCount =>
          match x.answer (db.table table) with
          | none => { x with aborted := true }
          | some rows =>
              let sample := rows.take 100
              { x with
                tableMetadata := x.tableMetadata.set table
                  ⟨rowCount, checksum.hexdigest sample, sample.length⟩ }

structure VerificationMetadata where
  tables : Dict String TableInfo
  migrationVersion : String
  postgresVersion : String

def Extraction.metadata (x : Extraction) : VerificationMetadata :=
  ⟨x.tableMetadata, x.migrationVersion, x.pgVersion⟩

/-- `extract_verification_metadata`, given the database as each statement finds it. -/
def extractVerificationMetadata (found : Statement → Database Row) : VerificationMetadata :=
  let x : Extraction :=
    statements.foldl (fun x statement => x.exec checksum (found statement) statement) {}
  x.metadata

end Extraction

/-- The metadata as they are stored. -/
def TableInfo.toJson (info : TableInfo) : Json :=
  .obj [("rows", .int info.rows), ("sample_checksum", .str info.sampleChecksum),
    ("sample_size", .int info.sampleSize)]

def VerificationMetadata.toJson (metadata : VerificationMetadata) : Json :=
  .obj [("tables", .obj (metadata.tables.entries.map fun entry => (entry.1, entry.2.toJson))),
    ("migration_version", .str metadata.migrationVersion),
    ("postgres_version", .str metadata.postgresVersion)]

/-- What a run of `psql` meets and leaves. -/
structure Psql (Row : Type) where
  inputPath : String
  fileExists : Bool := true
  found : Bool := true
  returncode : Int := 0
  /-- The target afterwards, however far the script came. -/
  target : Database Row

/-- `restore_backup`.  A return code other than zero is only logged. -/
def restoreBackup {Row : Type} (psql : Psql Row) : Except PyError (Database Row) :=
  if psql.fileExists = false then
    .error (.exception ("Backup dump file not found: " ++ psql.inputPath))
  else if psql.found = false then
    .error (.exception ("psql executable not found in system PATH. " ++
      "Database restore requires psql to be installed and available."))
  else .ok psql.target

end Backup

end GaiaOS
