/-
When the cursor of an ingestion only moves forward.

The job sets the cursor to the greatest date it fetched, whatever it was before, so everything
rests on the adapters.  Four of them drop what is older than the cursor, and whatever they
return leaves it where it is or moves it on.  The one for earthquakes returns what the client
hands back, and that may be the answer to an earlier request from the cache.
-/
import GaiaOS.Workers.IngestionJob

namespace GaiaOS

namespace Ingestion

/-! ### Loops -/

section Loops

variable {α β L : Type} {body : α → Except PyError (Option β)} {r : β}

theorem mem_appendLoop {xs : List α} (h : r ∈ (appendLoop body xs).1) :
    ∃ x ∈ xs, body x = .ok (some r) := by
  induction xs with
  | nil => simp [appendLoop] at h
  | cons x xs ih =>
      unfold appendLoop at h
      split at h
      · simp at h
      · rename_i record hbody
        rcases List.mem_append.mp h with hrecord | hrest
        · rw [Option.mem_toList] at hrecord
          exact ⟨x, List.mem_cons_self, hbody.trans (by rw [hrecord])⟩
        · obtain ⟨x', hx', hbody'⟩ := ih hrest
          exact ⟨x', List.mem_cons_of_mem _ hx', hbody'⟩

/-- What a loop that went through has appended. -/
theorem mem_unguarded {xs : List α} {records : List β}
    (h : unguarded (appendLoop body xs) = .ok records) (hr : r ∈ records) :
    ∃ x ∈ xs, body x = .ok (some r) := by
  unfold unguarded at h
  split at h
  · cases h
    exact mem_appendLoop hr
  · cases h

theorem mem_overLocations {locations : List L}
    {fetch : L → Except PyError (List β × Option PyError)} (h : r ∈ overLocations locations fetch) :
    ∃ location loop, fetch location = .ok loop ∧ r ∈ loop.1 := by
  unfold overLocations at h
  obtain ⟨location, -, hr⟩ := List.mem_flatMap.mp h
  split at hr
  · simp at hr
  · rename_i records e hfetch
    exact ⟨location, _, hfetch, hr⟩

/-- What an item adds to the list, if it can be read. -/
def usable (body : α → Except PyError (Option β)) (x : α) : Option β :=
  match body x with
  | .ok record => record
  | .error _ => none

/-- A loop that nothing guards goes through if every item can be read, and appends those of
use. -/
theorem unguarded_appendLoop_iff {xs : List α} {records : List β} :
    unguarded (appendLoop body xs) = .ok records ↔
      (∀ x ∈ xs, ∃ record, body x = .ok record) ∧ records = xs.filterMap (usable body) := by
  induction xs generalizing records with
  | nil => simp [appendLoop, unguarded, eq_comm]
  | cons x xs ih =>
      rw [List.forall_mem_cons]
      cases hbody : body x with
      | error e => simp [appendLoop, unguarded, hbody]
      | ok record =>
          have husable : usable body x = record := by simp [usable, hbody]
          have hloop : unguarded (appendLoop body (x :: xs)) =
              (unguarded (appendLoop body xs)).map (record.toList ++ ·) := by
            unfold unguarded
            rw [appendLoop, hbody]
            cases (appendLoop body xs).2
            all_goals rfl
          have hfilter : (x :: xs).filterMap (usable body) =
              record.toList ++ xs.filterMap (usable body) := by
            rw [List.filterMap_cons, husable]
            cases record
            all_goals rfl
          rw [hloop, hfilter]
          cases hrest : unguarded (appendLoop body xs) with
          | error e =>
              have hunread : ¬ ∀ x ∈ xs, ∃ record, body x = .ok record := by
                intro hall
                have hok := ih.mpr ⟨hall, rfl⟩
                rw [hrest] at hok
                cases hok
              exact iff_of_false nofun fun h => hunread h.1.2
          | ok rest =>
              obtain ⟨hall, rfl⟩ := ih.mp hrest
              show Except.ok _ = Except.ok _ ↔ _
              rw [Except.ok.injEq]
              constructor
              · rintro rfl
                exact ⟨⟨⟨record, rfl⟩, hall⟩, rfl⟩
              · rintro ⟨-, rfl⟩
                rfl

end Loops

/-! ### What the adapters drop -/

section Adapters

variable {conv : Conversions} {now cursor : Int} {rec : HazardEventRecord}

theorem noaaRecord_since {start : Int} {station : Station} {obs : Json}
    (h : noaaRecord conv now start station obs = .ok (some rec)) : start ≤ rec.eventDate := by
  unfold noaaRecord at h
  split_ifs at h
  · cases h
  · obtain ⟨t, -, h⟩ := ok_of_bind h
    obtain ⟨v, -, h⟩ := ok_of_bind h
    dsimp only at h
    split_ifs at h with hmissing hdate
    · cases h
    · cases h
    · cases h
      exact Int.not_lt.mp hdate

theorem copernicusRecord_since {start : Int} {bbox : Bbox} {prod : Json}
    (h : copernicusRecord conv now start bbox prod = .ok (some rec)) : start ≤ rec.eventDate := by
  unfold copernicusRecord at h
  obtain ⟨prodId, -, h⟩ := ok_of_bind h
  obtain ⟨name, -, h⟩ := ok_of_bind h
  obtain ⟨contentDate, -, h⟩ := ok_of_bind h
  obtain ⟨dateStr, -, h⟩ := ok_of_bind h
  split_ifs at h
  · cases h
  · obtain ⟨eventDate, -, h⟩ := ok_of_bind h
    split_ifs at h with hdate
    · cases h
    · cases h
      exact Int.not_lt.mp hdate

theorem era5Record_since {start : Int} {location : MonitoringLocation} {daily : Daily}
    {entry : Json × Nat} (h : era5Record conv now start location daily entry = .ok (some rec)) :
    start ≤ rec.eventDate := by
  unfold era5Record at h
  dsimp only at h
  split_ifs at h with hdate
  · cases h
  · obtain ⟨temp, -, h⟩ := ok_of_bind h
    obtain ⟨wind, -, h⟩ := ok_of_bind h
    obtain ⟨precip, -, h⟩ := ok_of_bind h
    cases h
    exact Int.not_lt.mp hdate

theorem gdeltRecord_since {nowAt : Nat → Int} {start : Int} {entry : Json × Nat}
    (h : gdeltRecord conv nowAt start entry = .ok (some rec)) : start ≤ rec.eventDate := by
  unfold gdeltRecord at h
  obtain ⟨url, -, h⟩ := ok_of_bind h
  obtain ⟨title, -, h⟩ := ok_of_bind h
  obtain ⟨seendate, -, h⟩ := ok_of_bind h
  obtain ⟨domain, -, h⟩ := ok_of_bind h
  obtain ⟨language, -, h⟩ := ok_of_bind h
  dsimp only at h
  split_ifs at h with hurl hdate
  · cases h
  · cases h
  · split at h
    · cases h
      exact Int.not_lt.mp hdate
    · cases h

theorem fetchRecentNoaaEvents_since {client : Station → Answer}
    (h : rec ∈ fetchRecentNoaaEvents conv client now (some cursor)) : cursor ≤ rec.eventDate := by
  obtain ⟨station, loop, hfetch, hloop⟩ := mem_overLocations h
  obtain ⟨value, -, hfetch⟩ := ok_of_bind hfetch
  obtain ⟨obsList, -, hfetch⟩ := ok_of_bind hfetch
  split at hfetch
  · cases hfetch
    obtain ⟨obs, -, hobs⟩ := mem_appendLoop hloop
    exact noaaRecord_since hobs
  · cases hfetch
    cases hloop

theorem fetchRecentCopernicusEvents_since {client : Bbox → Answer}
    (h : rec ∈ fetchRecentCopernicusEvents conv client now (some cursor)) :
    cursor ≤ rec.eventDate := by
  obtain ⟨bbox, loop, hfetch, hloop⟩ := mem_overLocations h
  obtain ⟨value, -, hfetch⟩ := ok_of_bind hfetch
  obtain ⟨products, -, hfetch⟩ := ok_of_bind hfetch
  cases hfetch
  obtain ⟨prod, -, hprod⟩ := mem_appendLoop hloop
  exact copernicusRecord_since hprod

theorem fetchRecentEra5Events_since {client : MonitoringLocation → Int → Int → Answer}
    (h : rec ∈ fetchRecentEra5Events conv client now (some cursor)) : cursor ≤ rec.eventDate := by
  obtain ⟨location, loop, hfetch, hloop⟩ := mem_overLocations h
  obtain ⟨value, -, hfetch⟩ := ok_of_bind hfetch
  obtain ⟨daily, -, hfetch⟩ := ok_of_bind hfetch
  obtain ⟨times, -, hfetch⟩ := ok_of_bind hfetch
  obtain ⟨temps, -, hfetch⟩ := ok_of_bind hfetch
  obtain ⟨winds, -, hfetch⟩ := ok_of_bind hfetch
  obtain ⟨precips, -, hfetch⟩ := ok_of_bind hfetch
  obtain ⟨items, -, hfetch⟩ := ok_of_bind hfetch
  cases hfetch
  obtain ⟨entry, -, hentry⟩ := mem_appendLoop hloop
  exact era5Record_since hentry

theorem fetchRecentGdeltEvents_since {client : Int → Answer} {nowAt : Nat → Int}
    {records : List HazardEventRecord}
    (h : fetchRecentGdeltEvents conv client now nowAt (some cursor) = .ok records)
    (hrec : rec ∈ records) : cursor ≤ rec.eventDate := by
  obtain ⟨value, -, h⟩ := ok_of_bind h
  obtain ⟨articles, -, h⟩ := ok_of_bind h
  obtain ⟨unsorted, hloop, h⟩ := ok_of_bind h
  cases h
  rw [List.mem_insertionSort] at hrec
  obtain ⟨entry, -, hentry⟩ := mem_unguarded hloop hrec
  exact gdeltRecord_since hentry

/-- No adapter but the one for earthquakes returns what is older than the cursor. -/
theorem fetchRecords_since {run : JobRun} {records : List HazardEventRecord}
    (hsource : run.sourceClean ≠ "usgs") (h : fetchRecords conv run (some cursor) = .ok records) :
    ∀ rec ∈ records, cursor ≤ rec.eventDate := by
  intro rec hrec
  unfold fetchRecords at h
  rw [if_neg hsource] at h
  split_ifs at h
  · cases h
    exact fetchRecentNoaaEvents_since hrec
  · cases h
    exact fetchRecentCopernicusEvents_since hrec
  · cases h
    exact fetchRecentEra5Events_since hrec
  · exact fetchRecentGdeltEvents_since h hrec

end Adapters

/-! ### One run -/

section Step

variable {conv : Conversions} {run : JobRun} {tables : Tables}

theorem Tables.insert_cursors (tables : Tables) (rec : HazardEventRecord) :
    (tables.insert rec).1.ingestionCursors = tables.ingestionCursors := by
  unfold Tables.insert
  split
  all_goals rfl

theorem Tables.mem_insert {rec new : HazardEventRecord}
    (h : rec ∈ (tables.insert new).1.hazardEvents) : rec ∈ tables.hazardEvents ∨ rec = new := by
  unfold Tables.insert at h
  split at h
  · exact .inl h
  · exact (List.mem_append.mp h).imp_right List.mem_singleton.mp

theorem insertAll_cursors (records : List HazardEventRecord) (tables : Tables) (inserted : Nat) :
    (insertAll records (tables, inserted)).1.ingestionCursors = tables.ingestionCursors := by
  induction records generalizing tables inserted with
  | nil => rfl
  | cons rec records ih =>
      show (insertAll records ((tables.insert rec).1, _)).1.ingestionCursors = _
      rw [ih, Tables.insert_cursors]

/-- Every new row is one of the records. -/
theorem mem_insertAll {records : List HazardEventRecord} {inserted : Nat}
    {rec : HazardEventRecord} (h : rec ∈ (insertAll records (tables, inserted)).1.hazardEvents) :
    rec ∈ tables.hazardEvents ∨ rec ∈ records := by
  induction records generalizing tables inserted with
  | nil => exact .inl h
  | cons next records ih =>
      rcases ih h with h | h
      · rcases Tables.mem_insert h with h | rfl
        · exact .inl h
        · exact .inr List.mem_cons_self
      · exact .inr (List.mem_cons_of_mem _ h)

/-- The run commits these records. -/
structure Commits (conv : Conversions) (run : JobRun) (tables : Tables)
    (records : List HazardEventRecord) : Prop where
  enabled : run.settings.disables run.sourceClean = false
  sessionFactory : run.sessionFactory = true
  fetched : fetchRecords conv run (tables.ingestionCursors.get? run.sourceClean) = .ok records
  accepted : run.databaseError records = none

theorem job_of_commits {records : List HazardEventRecord} (h : Commits conv run tables records) :
    (asyncRunIngestionJob conv run tables).2 =
      (storeRecords run.sourceClean records tables).1 := by
  unfold asyncRunIngestionJob
  simp only [h.enabled, h.sessionFactory, h.fetched, h.accepted]
  cases run.metricError
  all_goals rfl

/-- A run leaves the tables as they are, or commits records. -/
theorem job_cases (conv : Conversions) (run : JobRun) (tables : Tables) :
    (asyncRunIngestionJob conv run tables).2 = tables ∨
      ∃ records, records ≠ [] ∧ Commits conv run tables records := by
  by_cases hcommits : ∃ records, Commits conv run tables records
  · obtain ⟨records, hcommits⟩ := hcommits
    by_cases hempty : records = []
    · rw [job_of_commits hcommits, hempty]
      exact .inl rfl
    · exact .inr ⟨records, hempty, hcommits⟩
  · left
    unfold asyncRunIngestionJob
    dsimp only
    split_ifs with hdisabled hsession
    · rfl
    · rfl
    · split
      · rfl
      · rename_i records hfetched
        split
        · rfl
        · rename_i haccepted
          exact absurd ⟨records, by simpa using hdisabled, by simpa using hsession, hfetched,
            haccepted⟩ hcommits

theorem storeRecords_cursor {records : List HazardEventRecord} (h : records ≠ []) (source : String)
    (sourceClean : String) (tables : Tables) :
    (storeRecords sourceClean records tables).1.ingestionCursors.get? source =
      if sourceClean = source then some (maxOf HazardEventRecord.eventDate records h)
      else tables.ingestionCursors.get? source := by
  unfold storeRecords
  rw [dif_neg h]
  dsimp only [Tables.setCursor]
  rw [Dict.get?_set, insertAll_cursors]

theorem mem_storeRecords {records : List HazardEventRecord} (sourceClean : String)
    {rec : HazardEventRecord} (h : rec ∈ (storeRecords sourceClean records tables).1.hazardEvents) :
    rec ∈ tables.hazardEvents ∨ rec ∈ records := by
  unfold storeRecords at h
  split at h
  · exact .inl h
  · exact mem_insertAll h

end Step

/-! ### The cursor -/

/-- Every cursor is where it was or further on. -/
def CursorLe (tables tables' : Tables) : Prop :=
  ∀ source cursor, tables.ingestionCursors.get? source = some cursor →
    ∃ cursor', tables'.ingestionCursors.get? source = some cursor' ∧ cursor ≤ cursor'

/-- The cursor of a run's source is not before any record the run stored. -/
def Covers (run : JobRun) (tables tables' : Tables) : Prop :=
  ∀ rec ∈ tables'.hazardEvents, rec ∉ tables.hazardEvents →
    ∃ cursor, tables'.ingestionCursors.get? run.sourceClean = some cursor ∧
      rec.eventDate ≤ cursor

/-- A run of the earthquakes that finds a cursor, is answered with features that can all be read,
and whose records the database takes. -/
structure EarthquakeRun (conv : Conversions) (run : JobRun) (tables : Tables) (cursor : Int)
    (features : List Json) : Prop where
  source : run.sourceClean = "usgs"
  enabled : run.settings.enableUsgsIngestion = true
  sessionFactory : run.sessionFactory = true
  stored : tables.ingestionCursors.get? "usgs" = some cursor
  answer : ∃ value, run.clients.usgs (usgsQuery run.now (some cursor)) = .ok value ∧
    (valueOr value (.arr [])).iter = .ok features
  readable : ∀ feat ∈ features, ∃ record, usgsRecord conv feat = .ok record
  accepted : run.databaseError (features.filterMap (usable (usgsRecord conv))) = none

/-- If any feature is of use, one of these is not older than the cursor. -/
def Fresh (conv : Conversions) (run : JobRun) (tables : Tables) : Prop :=
  ∀ cursor features, EarthquakeRun conv run tables cursor features →
    features.filterMap (usable (usgsRecord conv)) ≠ [] →
    ∃ rec ∈ features.filterMap (usable (usgsRecord conv)), cursor ≤ rec.eventDate

/-- In all states of some runs the cursors only move forward, and each run's is not before what
the run stored. -/
structure CursorMonotone (conv : Conversions) (tables : Tables) (runs : List JobRun) : Prop where
  neverDecreases : ∀ before during after, runs = before ++ during ++ after →
    CursorLe (afterRuns conv tables before) (afterRuns conv tables (before ++ during))
  covers : ∀ before run after, runs = before ++ run :: after →
    Covers run (afterRuns conv tables before) (afterRuns conv tables (before ++ [run]))

section Cursor

variable {conv : Conversions} {run : JobRun} {tables : Tables}

theorem CursorLe.refl (tables : Tables) : CursorLe tables tables :=
  fun _ cursor h => ⟨cursor, h, Int.le_refl cursor⟩

theorem CursorLe.trans {tables tables' tables'' : Tables} (h : CursorLe tables tables')
    (h' : CursorLe tables' tables'') : CursorLe tables tables'' := by
  intro source cursor hcursor
  obtain ⟨cursor', hcursor', hle⟩ := h source cursor hcursor
  obtain ⟨cursor'', hcursor'', hle'⟩ := h' source cursor' hcursor'
  exact ⟨cursor'', hcursor'', Int.le_trans hle hle'⟩

/-- The records an earthquake run commits. -/
theorem EarthquakeRun.commits {cursor : Int} {features : List Json}
    (h : EarthquakeRun conv run tables cursor features) :
    Commits conv run tables (features.filterMap (usable (usgsRecord conv))) where
  enabled := by simp [IngestionSettings.disables, h.source, h.enabled]
  sessionFactory := h.sessionFactory
  fetched := by
    obtain ⟨value, hvalue, hiter⟩ := h.answer
    have hloop := unguarded_appendLoop_iff.mpr ⟨h.readable, rfl⟩
    unfold fetchRecords fetchRecentUsgsEvents
    rw [if_pos h.source, h.source, h.stored, hvalue]
    show ((valueOr value (.arr [])).iter >>= _) = _
    rw [hiter]
    exact hloop
  accepted := h.accepted

/-- Conversely, a run that commits records of earthquakes is one of these. -/
theorem Commits.earthquakeRun {records : List HazardEventRecord} {cursor : Int}
    (h : Commits conv run tables records) (hsource : run.sourceClean = "usgs")
    (hcursor : tables.ingestionCursors.get? "usgs" = some cursor) :
    ∃ features, EarthquakeRun conv run tables cursor features ∧
      records = features.filterMap (usable (usgsRecord conv)) := by
  have hfetched := h.fetched
  unfold fetchRecords fetchRecentUsgsEvents at hfetched
  rw [if_pos hsource, hsource, hcursor] at hfetched
  obtain ⟨value, hvalue, hfetched⟩ := ok_of_bind hfetched
  obtain ⟨features, hiter, hfetched⟩ := ok_of_bind hfetched
  obtain ⟨hreadable, rfl⟩ := unguarded_appendLoop_iff.mp hfetched
  have henabled := h.enabled
  rw [hsource] at henabled
  refine ⟨features, ⟨hsource, ?_, h.sessionFactory, hcursor, ⟨value, hvalue, hiter⟩, hreadable,
    h.accepted⟩, rfl⟩
  simpa [IngestionSettings.disables] using henabled

/-- A run keeps the cursors from moving back exactly if it is fresh. -/
theorem job_cursorLe_iff :
    CursorLe tables (asyncRunIngestionJob conv run tables).2 ↔ Fresh conv run tables := by
  constructor
  · intro h cursor features hrun hsome
    obtain ⟨cursor', hcursor', hle⟩ := h "usgs" cursor hrun.stored
    rw [job_of_commits hrun.commits, storeRecords_cursor hsome, if_pos hrun.source,
      Option.some.injEq] at hcursor'
    obtain ⟨rec, hrec, hmax⟩ := exists_eq_maxOf HazardEventRecord.eventDate hsome
    exact ⟨rec, hrec, by rw [hmax, hcursor']; exact hle⟩
  · intro hfresh
    rcases job_cases conv run tables with hsame | ⟨records, hsome, hcommits⟩
    · rw [hsame]
      exact CursorLe.refl tables
    · intro source cursor hcursor
      rw [job_of_commits hcommits, storeRecords_cursor hsome]
      by_cases hsource : run.sourceClean = source
      · subst hsource
        -- some record is not older than the cursor, by the adapter or by the condition
        have hrec : ∃ rec ∈ records, cursor ≤ rec.eventDate := by
          by_cases husgs : run.sourceClean = "usgs"
          · rw [husgs] at hcursor
            obtain ⟨features, hrun, rfl⟩ := hcommits.earthquakeRun husgs hcursor
            exact hfresh cursor features hrun hsome
          · obtain ⟨rec, hrec⟩ := List.exists_mem_of_ne_nil records hsome
            have hfetched := hcommits.fetched
            rw [hcursor] at hfetched
            exact ⟨rec, hrec, fetchRecords_since husgs hfetched rec hrec⟩
        obtain ⟨rec, hrec, hle⟩ := hrec
        exact ⟨_, if_pos rfl, Int.le_trans hle (le_maxOf hrec)⟩
      · exact ⟨cursor, by rw [if_neg hsource, hcursor], Int.le_refl cursor⟩

/-- The cursor a run leaves is not before any record it stored. -/
theorem job_covers (conv : Conversions) (run : JobRun) (tables : Tables) :
    Covers run tables (asyncRunIngestionJob conv run tables).2 := by
  intro rec hrec hnew
  rcases job_cases conv run tables with hsame | ⟨records, hsome, hcommits⟩
  · rw [hsame] at hrec
    exact absurd hrec hnew
  · rw [job_of_commits hcommits] at hrec ⊢
    rw [storeRecords_cursor hsome, if_pos rfl]
    exact ⟨_, rfl, le_maxOf ((mem_storeRecords _ hrec).resolve_left hnew)⟩

theorem afterRuns_append (conv : Conversions) (tables : Tables) (runs runs' : List JobRun) :
    afterRuns conv tables (runs ++ runs') = afterRuns conv (afterRuns conv tables runs) runs' := by
  unfold afterRuns
  rw [List.foldl_append]

/-- If every run is fresh where it starts, the cursors only move forward. -/
theorem afterRuns_cursorLe {runs : List JobRun}
    (h : ∀ before run after, runs = before ++ run :: after →
      Fresh conv run (afterRuns conv tables before)) :
    CursorLe tables (afterRuns conv tables runs) := by
  induction runs using List.reverseRecOn with
  | nil => exact CursorLe.refl tables
  | append_singleton runs run ih =>
      rw [afterRuns_append]
      refine CursorLe.trans (ih fun before run' after hsplit => ?_)
        (job_cursorLe_iff.mpr (h runs run [] rfl))
      exact h before run' (after ++ [run]) (by rw [hsplit]; simp)

end Cursor

/-- **When the ingestion cursor is monotone.**  For every sequence of runs of the job, on any
sources and with any answers of the clients: the stored cursor of a source never decreases, and
after each run it is not before any record the run stored, if and only if every run of the
earthquakes that finds a cursor and stores anything has a record that is not older than the
cursor. -/
theorem ingestion_cursor_monotone_iff (conv : Conversions) (tables : Tables) (runs : List JobRun) :
    CursorMonotone conv tables runs ↔
      ∀ before run after, runs = before ++ run :: after →
        Fresh conv run (afterRuns conv tables before) := by
  constructor
  · intro h before run after hsplit
    have hle := h.neverDecreases before [run] after (by rw [hsplit]; simp)
    rw [afterRuns_append] at hle
    exact job_cursorLe_iff.mp hle
  · intro h
    refine ⟨fun before during after hsplit => ?_, fun before run after hsplit => ?_⟩
    · rw [afterRuns_append]
      refine afterRuns_cursorLe fun before' run after' hduring => ?_
      rw [← afterRuns_append]
      exact h (before ++ before') run (after' ++ after) (by rw [hsplit, hduring]; simp)
    · rw [afterRuns_append]
      exact job_covers conv run _

/-- Conversions of whole milliseconds and numbers. -/
def wholeMs : Conversions where
  repr _ := ""
  float
    | .int n => .ok (.finite n)
    | .float x => .ok x
    | _ => .error (.typeError "float() argument must be a string or a real number")
  fromtimestamp
    | .int ms => .ok (ms * 1000)
    | _ => .error (.typeError "unsupported operand type(s) for /")
  strptime _ _ := none
  fromisoformat _ := none
  sha256 text := text

/-- An earthquake with its origin time. -/
def quake (ms : Int) : Json :=
  .obj [("id", .str "us7000abcd"), ("properties", .obj [("time", .int ms)]),
    ("geometry", .obj [("coordinates", .arr [.int 139, .int 35])])]

/-- A run of the earthquakes whose client answers with one. -/
def quakeRun (now ms : Int) : JobRun where
  source := "usgs"
  clients :=
    { usgs _ := .ok (some (.arr [quake ms]))
      noaa _ := .ok none
      copernicus _ := .ok none
      era5 _ _ _ := .ok none
      gdelt _ := .ok none }
  now := now
  nowAt _ := now

/-- An earthquake is stored, its origin time is revised by half a second, and the next run is
answered with the revised one from the cache: the cursor moves back. -/
theorem cursor_moves_back :
    (afterRuns wholeMs ⟨[], .empty, List.nodup_nil⟩
        [quakeRun 1784981000000000 1784980800000]).ingestionCursors.get? "usgs" =
          some 1784980800000000 ∧
      (afterRuns wholeMs ⟨[], .empty, List.nodup_nil⟩
        [quakeRun 1784981000000000 1784980800000,
          quakeRun 1784981300000000 1784980799500]).ingestionCursors.get? "usgs" =
          some 1784980799500000 ∧
      ¬ CursorMonotone wholeMs ⟨[], .empty, List.nodup_nil⟩
        [quakeRun 1784981000000000 1784980800000,
          quakeRun 1784981300000000 1784980799500] := by
  have hfirst : (afterRuns wholeMs ⟨[], .empty, List.nodup_nil⟩
      [quakeRun 1784981000000000 1784980800000]).ingestionCursors.get? "usgs" =
        some 1784980800000000 := by
    decide +kernel
  have hsecond : (afterRuns wholeMs ⟨[], .empty, List.nodup_nil⟩
      [quakeRun 1784981000000000 1784980800000,
        quakeRun 1784981300000000 1784980799500]).ingestionCursors.get? "usgs" =
        some 1784980799500000 := by
    decide +kernel
  refine ⟨hfirst, hsecond, fun h => ?_⟩
  obtain ⟨cursor, hcursor, hle⟩ := h.neverDecreases [_] [_] [] rfl "usgs" _ hfirst
  rw [List.singleton_append, hsecond, Option.some.injEq] at hcursor
  omega

end Ingestion

end GaiaOS
