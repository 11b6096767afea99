/-
The ingestion job, after `workers/jobs/ingestion_jobs.py`, with the columns of
`db/models/hazard_event.py` and `db/models/ingestion_cursor.py` it writes.

A run reads the cursor of its source, has the adapter fetch, inserts what is new and sets the
cursor to the greatest date among the records, in one transaction.  A run that raises before
the commit leaves the tables as they were; the row of the metric is written after it.
-/
import GaiaOS.Lib.Dict
import GaiaOS.Lib.Extrema
import GaiaOS.Ingestion.HazardEventSources

namespace GaiaOS

namespace Ingestion

/-! ### Tables -/

/-- What the unique constraint of `hazard_events` is on. -/
def HazardEventRecord.key (rec : HazardEventRecord) : String × String :=
  (rec.source, rec.externalId)

/-- The ingested rows of `hazard_events`, and `ingestion_cursors`. -/
structure Tables where
  hazardEvents : List HazardEventRecord
  ingestionCursors : Dict String Int
  uqHazardEventSourceExternalId : (hazardEvents.map HazardEventRecord.key).Nodup

/-- `INSERT INTO hazard_events ... ON CONFLICT (source, external_id) DO NOTHING`, and whether a row
was inserted. -/
def Tables.insert (tables : Tables) (rec : HazardEventRecord) : Tables × Bool :=
  if h : rec.key ∈ tables.hazardEvents.map HazardEventRecord.key then (tables, false)
  else
    ({ tables with
        hazardEvents := tables.hazardEvents ++ [rec]
        uqHazardEventSourceExternalId := by
          rw [List.map_append, List.map_singleton, List.nodup_append]
          exact ⟨tables.uqHazardEventSourceExternalId, List.nodup_singleton _, by
            rintro key hkey key' hkey' rfl
            exact h (List.mem_singleton.mp hkey' ▸ hkey)⟩ }, true)

/-- The loop over the records, with `records_inserted`. -/
def insertAll : List HazardEventRecord → Tables × Nat → Tables × Nat
  | [], acc => acc
  | rec :: records, (tables, recordsInserted) =>
      let (tables, inserted) := tables.insert rec
      insertAll records (tables, if inserted then recordsInserted + 1 else recordsInserted)

/-- The upsert of the cursor. -/
def Tables.setCursor (tables : Tables) (source : String) (date : Int) : Tables :=
  { tables with ingestionCursors := tables.ingestionCursors.set source date }

/-! ### The job -/

/-- The fields of `Settings` the job reads. -/
structure IngestionSettings where
  enableUsgsIngestion : Bool := true
  enableNoaaIngestion : Bool := true
  enableCopernicusIngestion : Bool := true
  enableEra5Ingestion : Bool := true
  enableGdeltIngestion : Bool := true

/-- The feature flag of a source is off. -/
def IngestionSettings.disables (settings : IngestionSettings) (sourceClean : String) : Bool :=
  (sourceClean == "usgs" && !settings.enableUsgsIngestion) ||
    (sourceClean == "noaa" && !settings.enableNoaaIngestion) ||
    (sourceClean == "copernicus" && !settings.enableCopernicusIngestion) ||
    (sourceClean == "era5" && !settings.enableEra5Ingestion) ||
    (sourceClean == "gdelt" && !settings.enableGdeltIngestion)

/-- The clients of the sources. -/
structure Clients where
  usgs : SeismicUsgs.Query → Answer
  noaa : Station → Answer
  copernicus : Bbox → Answer
  era5 : MonitoringLocation → Int → Int → Answer
  gdelt : Int → Answer

/-- The argument of a run of the job, and what it runs in. -/
structure JobRun where
  source : String
  settings : IngestionSettings := {}
  clients : Clients
  now : Int
  /-- The clock as the articles of GDELT are gone through. -/
  nowAt : Nat → Int
  /-- There is a session factory. -/
  sessionFactory : Bool := true
  /-- What the database raises in the transaction of some records. -/
  databaseError : List HazardEventRecord → Option PyError := fun _ => none
  /-- What it raises in the one of the metric. -/
  metricError : Option PyError := none

/-- `source.strip().lower()`. -/
def JobRun.sourceClean (run : JobRun) : String := (pyStrip run.source).toLower

/-- What the job returns. -/
inductive Reply
  | disabled (source : String)
  | success (source : String) (recordsFetched recordsInserted : Nat)
  deriving DecidableEq

section Job

variable (conv : Conversions)

/-- The records a run fetches. -/
def fetchRecords (run : JobRun) (lastIngestedAt : Option Int) :
    Except PyError (List HazardEventRecord) :=
  if run.sourceClean = "usgs" then
    fetchRecentUsgsEvents conv run.clients.usgs run.now lastIngestedAt
  else if run.sourceClean = "noaa" then
    .ok (fetchRecentNoaaEvents conv run.clients.noaa run.now lastIngestedAt)
  else if run.sourceClean = "copernicus" then
    .ok (fetchRecentCopernicusEvents conv run.clients.copernicus run.now lastIngestedAt)
  else if run.sourceClean = "era5" then
    .ok (fetchRecentEra5Events conv run.clients.era5 run.now lastIngestedAt)
  else if run.sourceClean = "gdelt" then
    fetchRecentGdeltEvents conv run.clients.gdelt run.now run.nowAt lastIngestedAt
  else .error (.valueError ("Unknown ingestion source: '" ++ run.source ++ "'"))

/-- The transaction of some records: the rows, and the cursor if there are any. -/
def storeRecords (sourceClean : String) (records : List HazardEventRecord) (tables : Tables) :
    Tables × Nat :=
  if h : records = [] then (tables, 0)
  else
    let (stored, recordsInserted) := insertAll records (tables, 0)
    (stored.setCursor sourceClean (maxOf HazardEventRecord.eventDate records h), recordsInserted)

/-- `_async_run_ingestion_job`. -/
def asyncRunIngestionJob (run : JobRun) (tables : Tables) : Except PyError Reply × Tables :=
  let sourceClean := run.sourceClean
  if run.settings.disables sourceClean then (.ok (.disabled sourceClean), tables)
  else if run.sessionFactory = false then
    (.error (.exception "Database session factory is not initialised."), tables)
  else
    let lastIngestedAt := tables.ingestionCursors.get? sourceClean
    match fetchRecords conv run lastIngestedAt with
    | .error e => (.error e, tables)
    | .ok records =>
        match run.databaseError records with
        | some e => (.error e, tables)
        | none =>
            let (stored, recordsInserted) := storeRecords sourceClean records tables
            match run.metricError with
            | some e => (.error e, stored)
            | none => (.ok (.success sourceClean records.length recordsInserted), stored)

/-- The tables after some runs. -/
def afterRuns (tables : Tables) (runs : List JobRun) : Tables :=
  runs.foldl (fun tables run => (asyncRunIngestionJob conv run tables).2) tables

end Job

end Ingestion

end GaiaOS
