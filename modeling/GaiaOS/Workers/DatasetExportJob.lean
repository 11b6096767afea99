/-
The export of the public dataset, after `workers/jobs/dataset_export_job.py`.

A run writes one line for each record into the archive and feeds the same line to the hasher, and
counts as it goes.  When both queries are through, the digest goes into the checksum file and the
manifest, and the three files are uploaded one after the other.

An archive is the records that were written to it, and its bytes are their lines, compressed.  The
tables are in the order in which the database gives their rows.  Times are microseconds since the
epoch.
-/
import GaiaOS.App.Anonymization
import Mathlib.Logic.Function.Basic

namespace GaiaOS

namespace DatasetExport

open Anonymization (TextRuntime InvestigationRow PublicInvestigation)

/-- What a run leaves to libraries: `strftime("%Y%m%d_%H%M%S")`, `json.dumps`, the file that gzip
makes of some content, and `hexdigest` of SHA-256. -/
structure ExportRuntime extends TextRuntime where
  strftime : Int → String
  jsonDumps : Json → String
  gzip : List UInt8 → List UInt8
  sha256Hex : List UInt8 → String
  /-- Without an indent, the text is on one line. -/
  jsonDumps_line : ∀ x, '\n' ∉ (jsonDumps x).toList

/-- `Investigation`, with what the query reads. -/
structure Investigation extends InvestigationRow where
  status : String

/-- `HazardEvent`, without its point. -/
structure HazardEvent where
  id : Uuid
  eventType : String
  regionLabel : Option String
  eventDate : Int
  details : Option String
  source : Option String
  externalId : Option String

/-- The tables. -/
structure Database where
  investigations : List Investigation
  hazardEvents : List HazardEvent
  investigationsPk : (investigations.map (·.id)).Nodup
  hazardEventsPk : (hazardEvents.map (·.id)).Nodup

/-! ### The records and their lines -/

/-- A text or `None`. -/
def optStr (s : Option String) : Json := s.elim .null .str

/-- The entries of `AnonymizationPolicy.apply`. -/
def publicEntries (anon : PublicInvestigation) : List (String × Json) :=
  [("investigation_id", .str anon.investigationId),
    ("query_category", .str anon.queryCategory),
    ("domains_involved", .arr (anon.domainsInvolved.map .str)),
    ("complexity_tier", optStr anon.complexityTier),
    ("confidence_summary", anon.confidenceSummary.elim .null fun q => .float (.finite q)),
    ("consent_public_research", .bool anon.consentPublicResearch),
    ("query_text", optStr anon.queryText),
    ("execution_trace", anon.executionTrace),
    ("created_at", .str anon.createdAt),
    ("completed_at", optStr anon.completedAt)]

def investigationRecord (anon : PublicInvestigation) : Json :=
  .obj (publicEntries anon ++ [("record_type", .str "investigation")])

def hazardRecord (rt : ExportRuntime) (event : HazardEvent) : Json :=
  .obj
    [("record_type", .str "hazard_event"),
      ("id", .str event.id.text),
      ("event_type", .str event.eventType),
      ("region_label", optStr event.regionLabel),
      ("event_date", .str (rt.isoformat event.eventDate)),
      ("details", optStr event.details),
      ("source", optStr event.source),
      ("external_id", optStr event.externalId)]

/-- `json.dumps(record) + "\n"`. -/
def lineOf (rt : ExportRuntime) (record : Json) : String := rt.jsonDumps record ++ "\n"

/-- `line.encode("utf-8")`. -/
def encode (line : String) : List UInt8 := line.toUTF8.data.toList

/-- An archive, by the records written to it. -/
structure Archive where
  records : List Json := []

/-- The text of an archive. -/
def Archive.text (rt : ExportRuntime) (archive : Archive) : String :=
  String.join (archive.records.map (lineOf rt))

/-- The file on disk. -/
def Archive.bytes (rt : ExportRuntime) (archive : Archive) : List UInt8 :=
  rt.gzip (encode (archive.text rt))

/-! ### The two streams -/

/-- What the loops carry: the archive, what the hasher was fed, and the counts. -/
structure ExportState where
  archive : Archive := {}
  hasher : List UInt8 := []
  invCount : Nat := 0
  hazardCount : Nat := 0

/-- `gz.write(line)` and `hasher.update(line.encode("utf-8"))`. -/
def ExportState.write (rt : ExportRuntime) (state : ExportState) (record : Json) : ExportState :=
  { state with
    archive := ⟨state.archive.records ++ [record]⟩
    hasher := state.hasher ++ encode (lineOf rt record) }

/-- The condition of the first query. -/
def isExported (inv : Investigation) : Bool :=
  inv.consentPublicResearch && inv.status == "complete"

def streamInvestigations (rt : ExportRuntime) :
    List Investigation → ExportState → Except PyError ExportState
  | [], state => .ok state
  | inv :: rest, state => do
      let anon ← Anonymization.apply rt.toTextRuntime inv.toInvestigationRow
      let written := state.write rt (investigationRecord anon)
      streamInvestigations rt rest { written with invCount := written.invCount + 1 }

def streamHazardEvents (rt : ExportRuntime) : List HazardEvent → ExportState → ExportState
  | [], state => state
  | event :: rest, state =>
      let written := state.write rt (hazardRecord rt event)
      streamHazardEvents rt rest { written with hazardCount := written.hazardCount + 1 }

/-- `.limit(1000)`. -/
def hazardLimit : Nat := 1000

/-! ### The files -/

/-- `manifest_data`. -/
structure Manifest where
  datasetVersion : String := "v1.0"
  generatedAt : String
  schemaVersion : String := "1.0"
  recordCount : Nat
  consentingInvestigationsCount : Nat
  hazardEventsCount : Nat
  archiveFilename : String
  checksum : String
  archiveSizeBytes : Nat
  deriving DecidableEq

/-- A file of the dataset. -/
inductive ExportFile
  | archive (archive : Archive)
  | checksum (text : String)
  | manifest (manifest : Manifest)

/-- The storage backend: what is under a key. -/
abbrev Storage := String → Option ExportFile

def Storage.put (storage : Storage) (key : String) (file : ExportFile) : Storage :=
  Function.update storage key (some file)

@[simp] theorem Storage.put_self (storage : Storage) (key : String) (file : ExportFile) :
    storage.put key file key = some file :=
  Function.update_self ..

theorem Storage.put_of_ne {key key' : String} (h : key' ≠ key) (storage : Storage)
    (file : ExportFile) : storage.put key file key' = storage key' :=
  Function.update_of_ne h ..

/-- What a run meets: its settings, whether there is a session factory, the clock, and what the
queries and the uploads raise. -/
structure ExportRun where
  rt : ExportRuntime
  datasetExportEnabled : Bool
  sessionFactory : Bool := true
  now : Int
  investigationsError : Option PyError := none
  hazardEventsError : Option PyError := none
  uploadError : String → Option PyError := fun _ => none

/-- What a run returns. -/
inductive ExportReply
  | disabled
  | noDatabaseSession
  | exported (manifest : Manifest)
  deriving DecidableEq

/-- `raise exc`, where there is one. -/
def raiseIf (exc : Option PyError) : Except PyError Unit :=
  exc.elim (.ok ()) .error

namespace ExportRun

variable (run : ExportRun)

def archiveFilename : String :=
  "gaiaos_research_dataset_" ++ run.rt.strftime run.now ++ ".jsonl.gz"

/-- `f"{archive_filename}.sha256"`. -/
def checksumFilename : String := run.archiveFilename ++ ".sha256"

/-- The body of the `with`: both queries, and what is written. -/
def writeArchive (db : Database) : Except PyError ExportState := do
  raiseIf run.investigationsError
  let investigated ← streamInvestigations run.rt (db.investigations.filter isExported) {}
  raiseIf run.hazardEventsError
  return streamHazardEvents run.rt (db.hazardEvents.take hazardLimit) investigated

def manifestData (state : ExportState) : Manifest where
  generatedAt := run.rt.isoformat run.now
  recordCount := state.invCount + state.hazardCount
  consentingInvestigationsCount := state.invCount
  hazardEventsCount := state.hazardCount
  archiveFilename := run.archiveFilename
  checksum := run.rt.sha256Hex state.hasher
  archiveSizeBytes := (state.archive.bytes run.rt).length

/-- The line of the checksum file. -/
def checksumText (state : ExportState) : String :=
  run.rt.sha256Hex state.hasher ++ "  " ++ run.archiveFilename ++ "\n"

/-- The files of a dataset, in the order in which they are uploaded. -/
def files (state : ExportState) : List (String × ExportFile) :=
  [(run.archiveFilename, .archive state.archive),
    (run.checksumFilename, .checksum (run.checksumText state)),
    ("manifest.json", .manifest (run.manifestData state))]

/-- The uploads, up to the first that fails. -/
def uploadAll : List (String × ExportFile) → Storage → Except PyError Unit × Storage
  | [], storage => (.ok (), storage)
  | (key, file) :: rest, storage =>
      match run.uploadError key with
      | some e => (.error e, storage)
      | none => uploadAll rest (storage.put key file)

end ExportRun

/-- `_async_run_dataset_export`: what it returns, and the storage it leaves. -/
def asyncRunDatasetExport (run : ExportRun) (db : Database) (storage : Storage) :
    Except PyError ExportReply × Storage :=
  if run.datasetExportEnabled = false then (.ok .disabled, storage)
  else if run.sessionFactory = false then (.ok .noDatabaseSession, storage)
  else
    match run.writeArchive db with
    | .error e => (.error e, storage)
    | .ok state =>
        let uploaded := run.uploadAll (run.files state) storage
        (uploaded.1.map fun _ => .exported (run.manifestData state), uploaded.2)

end DatasetExport

end GaiaOS
