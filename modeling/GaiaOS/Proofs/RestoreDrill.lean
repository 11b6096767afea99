/-
What a successful restore drill says about the restored database.

The extraction reads the audited tables up to the first that is missing: the statement that fails
there aborts the transaction, and nothing behind it is read.  A table that is not read counts as
empty without a checksum, and what is not recorded or empty is not compared.  So a drill can
succeed on a database that lacks a table, and it says what it should exactly if everything it
relies on was recorded and read.
-/
import GaiaOS.Ops.Backup.RestoreDrill
import Mathlib.Data.List.TakeWhile

namespace GaiaOS

namespace Backup

/-! ### The extraction -/

section Extraction

variable {Row : Type} {checksum : SampleChecksum Row} {found : Statement → Database Row}
  {db : Database Row} {x : Extraction}

/-- The rows a statement finds in a table. -/
def Database.rowsOf (db : Database Row) (table : String) : List Row := (db.table table).getD []

/-- The tables that are read: the first that is missing ends it. -/
def Database.readTables (db : Database Row) : List String :=
  if db.alembicVersion.isSome then tablesToAudit.takeWhile fun table => (db.table table).isSome
  else []

/-- What is recorded of a table. -/
def infoFound (checksum : SampleChecksum Row) (found : Statement → Database Row) (table : String) :
    TableInfo :=
  let sample := ((found (.sample table)).rowsOf table).take 100
  ⟨((found (.count table)).rowsOf table).length, checksum.hexdigest sample, sample.length⟩

/-- No table comes or goes while the statements run, nor does the migration version change. -/
structure SameTables (found : Statement → Database Row) (db : Database Row) : Prop where
  table : ∀ statement table, ((found statement).table table).isSome = (db.table table).isSome
  alembicVersion : ∀ statement, (found statement).alembicVersion = db.alembicVersion

/-- The statements of one table. -/
def audit (checksum : SampleChecksum Row) (found : Statement → Database Row) (x : Extraction)
    (table : String) : Extraction :=
  (x.exec checksum (found (.count table)) (.count table)).exec checksum (found (.sample table))
    (.sample table)

theorem audit_of_aborted (h : x.aborted = true) (table : String) :
    audit checksum found x table = { x with rowCount := none } := by
  simp [audit, Extraction.exec, Extraction.answer, h]

theorem audit_of_missing (hfound : SameTables found db) (h : x.aborted = false) {table : String}
    (hmissing : (db.table table).isSome = false) :
    audit checksum found x table = { x with aborted := true, rowCount := none } := by
  have hcount := hfound.table (.count table) table
  rw [hmissing, Option.isSome_eq_false_iff, Option.isNone_iff_eq_none] at hcount
  simp [audit, Extraction.exec, Extraction.answer, h, hcount]

theorem audit_of_isSome (hfound : SameTables found db) (h : x.aborted = false) {table : String}
    (hsome : (db.table table).isSome = true) :
    audit checksum found x table =
      { x with
        rowCount := some ((found (.count table)).rowsOf table).length
        tableMetadata := x.tableMetadata.set table (infoFound checksum found table) } := by
  obtain ⟨counted, hcount⟩ :=
    Option.isSome_iff_exists.mp ((hfound.table (.count table) table).trans hsome)
  obtain ⟨sampled, hsample⟩ :=
    Option.isSome_iff_exists.mp ((hfound.table (.sample table) table).trans hsome)
  simp [audit, Extraction.exec, Extraction.answer, infoFound, Database.rowsOf, h, hcount, hsample]

theorem audits_of_aborted (tables : List String) (h : x.aborted = true) :
    (tables.foldl (audit checksum found) x).tableMetadata = x.tableMetadata := by
  induction tables generalizing x with
  | nil => rfl
  | cons table tables ih =>
      rw [List.foldl_cons, audit_of_aborted h]
      exact ih h

theorem audit_migrationVersion (table : String) :
    (audit checksum found x table).migrationVersion = x.migrationVersion := by
  unfold audit Extraction.exec
  dsimp only
  repeat' split
  all_goals rfl

/-- The loop over the tables records them up to the first that is missing. -/
theorem audits_entries (hfound : SameTables found db) {tables : List String}
    (hnodup : tables.Nodup) (hnew : ∀ table ∈ tables, table ∉ x.tableMetadata.keys)
    (h : x.aborted = false) :
    (tables.foldl (audit checksum found) x).tableMetadata.entries =
      x.tableMetadata.entries ++ (tables.takeWhile fun table => (db.table table).isSome).map
        fun table => (table, infoFound checksum found table) := by
  induction tables generalizing x with
  | nil => simp
  | cons table tables ih =>
      obtain ⟨hnot, hnodup⟩ := List.nodup_cons.mp hnodup
      obtain ⟨htable, hnew⟩ := List.forall_mem_cons.mp hnew
      rw [List.foldl_cons]
      by_cases hsome : (db.table table).isSome = true
      · rw [audit_of_isSome hfound h hsome, List.takeWhile_cons, if_pos hsome]
        have hset : (x.tableMetadata.set table (infoFound checksum found table)).entries =
            x.tableMetadata.entries ++ [(table, infoFound checksum found table)] :=
          Dict.assign_of_not_mem htable _
        refine (ih hnodup ?_ ?_).trans ?_
        · intro next hnext
          unfold Dict.keys
          rw [hset, List.map_append, List.mem_append, not_or]
          refine ⟨hnew next hnext, fun hmem => ?_⟩
          obtain rfl := List.mem_singleton.mp hmem
          exact hnot hnext
        · exact h
        · rw [hset, List.append_assoc]
          rfl
      · rw [audit_of_missing hfound h (by simpa using hsome), audits_of_aborted _ rfl,
          List.takeWhile_cons, if_neg hsome]
        simp

/-- The extraction after the two versions. -/
def versionsRead (checksum : SampleChecksum Row) (found : Statement → Database Row) : Extraction :=
  (({} : Extraction).exec checksum (found .version) .version).exec checksum (found .migration)
    .migration

/-- The rest of the extraction is the loop over the tables. -/
theorem extract_eq :
    extractVerificationMetadata checksum found =
      (tablesToAudit.foldl (audit checksum found) (versionsRead checksum found)).metadata := rfl

/-- The migration version as it is extracted. -/
def Database.migrationVersion (db : Database Row) : String :=
  match db.alembicVersion with
  | some (some val) => if val = "" then "unknown" else val
  | _ => "unknown"

theorem versionsRead_tableMetadata :
    (versionsRead checksum found).tableMetadata = .empty := by
  unfold versionsRead Extraction.exec
  dsimp only
  repeat' split
  all_goals rfl

/-- The migration version is read last: without its table the transaction is aborted. -/
theorem versionsRead_spec (checksum : SampleChecksum Row) (hfound : SameTables found db) :
    (versionsRead checksum found).aborted = db.alembicVersion.isNone ∧
      (versionsRead checksum found).migrationVersion = db.migrationVersion := by
  simp only [versionsRead, Extraction.exec, Extraction.answer, Database.migrationVersion,
    hfound.alembicVersion .migration]
  cases db.alembicVersion with
  | none => exact ⟨rfl, rfl⟩
  | some row =>
      cases row with
      | none => exact ⟨rfl, rfl⟩
      | some val =>
          by_cases hval : val = ""
          all_goals simp [hval]

/-- What the extraction records of the tables. -/
theorem extract_entries (hfound : SameTables found db) :
    (extractVerificationMetadata checksum found).tables.entries =
      db.readTables.map fun table => (table, infoFound checksum found table) := by
  rw [extract_eq]
  show (Extraction.tableMetadata _).entries = _
  have haborted := (versionsRead_spec checksum hfound).1
  unfold Database.readTables
  by_cases hversion : db.alembicVersion.isSome = true
  · rw [if_pos hversion, audits_entries hfound (by decide), versionsRead_tableMetadata]
    · rfl
    · intro table _
      rw [versionsRead_tableMetadata]
      exact List.not_mem_nil
    · rw [haborted]
      simpa using hversion
  · rw [if_neg hversion, audits_of_aborted, versionsRead_tableMetadata]
    · rfl
    · rw [haborted]
      simpa using hversion

theorem extract_migrationVersion (checksum : SampleChecksum Row) (hfound : SameTables found db) :
    (extractVerificationMetadata checksum found).migrationVersion = db.migrationVersion := by
  rw [extract_eq]
  show Extraction.migrationVersion _ = _
  have hloop : ∀ (tables : List String) (x : Extraction),
      (tables.foldl (audit checksum found) x).migrationVersion = x.migrationVersion := by
    intro tables
    induction tables with
    | nil => intro x; rfl
    | cons table tables ih => intro x; rw [List.foldl_cons, ih, audit_migrationVersion]
  rw [hloop, (versionsRead_spec checksum hfound).2]

end Extraction

/-! ### The comparison -/

/-- `x.get(key)` of a dict. -/
def stored (x : Json) (key : String) : Option Json :=
  match x with
  | .obj entries => Json.field? entries key
  | _ => none

theorem getD_eq_stored (fields : List (String × Json)) (key : String) (fallback : Json) :
    (Json.obj fields).getD key fallback = .ok ((stored (.obj fields) key).getD fallback) := rfl

section Comparison

variable {repr : Json → String} {extracted : Dict String TableInfo}

/-- A listed table is a dict, and what of it is compared is equal. -/
structure EntryAgrees (extracted : Dict String TableInfo) (entry : String × Json) : Prop where
  isDict : ∃ fields, entry.2 = .obj fields
  rows : equalsCount ((stored entry.2 "rows").getD (.int 0))
    (((extracted.get? entry.1).map TableInfo.rows).getD 0) = true
  sampleChecksum : ∀ info, extracted.get? entry.1 = some info → info.sampleChecksum ≠ "" →
    ∀ cs, stored entry.2 "sample_checksum" = some cs → cs.truthy = true →
      equalsText cs info.sampleChecksum = true

theorem compareRows_overallSuccess (verdict : Verdict) (tbl : String) (expRows : Json) (n : Nat) :
    (verdict.compareRows repr tbl expRows n).overallSuccess = true ↔
      verdict.overallSuccess = true ∧ equalsCount expRows n = true := by
  unfold Verdict.compareRows
  split_ifs with heq
  · simp [heq]
  · simp [Verdict.overallSuccess, heq]

theorem compareChecksum_success (verdict : Verdict) (tbl : String) (expCs : Json) (cs : String) :
    (∃ verdict', verdict.compareChecksum repr tbl expCs cs = .ok verdict' ∧
        verdict'.overallSuccess = true) ↔
      verdict.overallSuccess = true ∧
        (expCs.truthy = true → cs ≠ "" → equalsText expCs cs = true) := by
  unfold Verdict.compareChecksum
  by_cases hdiffers : expCs.truthy ∧ cs ≠ "" ∧ equalsText expCs cs = false
  · rw [if_pos hdiffers]
    refine iff_of_false ?_ ?_
    · rintro ⟨verdict', hok, hsuccess⟩
      obtain ⟨shown, -, hok⟩ := ok_of_bind hok
      cases hok
      simp [Verdict.overallSuccess] at hsuccess
    · rintro ⟨-, hequal⟩
      have := hequal hdiffers.1 hdiffers.2.1
      rw [hdiffers.2.2] at this
      cases this
  · rw [if_neg hdiffers]
    constructor
    · rintro ⟨verdict', hok, hsuccess⟩
      cases hok
      refine ⟨hsuccess, fun htruthy hcs => ?_⟩
      by_contra hequal
      exact hdiffers ⟨htruthy, hcs, by simpa using hequal⟩
    · rintro ⟨hsuccess, -⟩
      exact ⟨verdict, rfl, hsuccess⟩

theorem compareTable_success (verdict : Verdict) (entry : String × Json) :
    (∃ verdict', verdict.compareTable repr extracted entry = .ok verdict' ∧
        verdict'.overallSuccess = true) ↔
      verdict.overallSuccess = true ∧ EntryAgrees extracted entry := by
  obtain ⟨tbl, info⟩ := entry
  unfold Verdict.compareTable
  dsimp only
  by_cases hdict : ∃ fields, info = .obj fields
  · obtain ⟨fields, rfl⟩ := hdict
    rw [getD_eq_stored, getD_eq_stored]
    show (∃ verdict', Verdict.compareChecksum _ _ _ _ _ = .ok verdict' ∧ _) ↔ _
    rw [compareChecksum_success, compareRows_overallSuccess, and_assoc]
    refine and_congr_right fun _ => ⟨?_, ?_⟩
    · rintro ⟨hrows, hchecksum⟩
      refine ⟨⟨fields, rfl⟩, hrows, fun info hinfo hnonempty cs hcs htruthy => ?_⟩
      have hinfo : extracted.get? tbl = some info := hinfo
      have hcs : stored (.obj fields) "sample_checksum" = some cs := hcs
      rw [hinfo, hcs] at hchecksum
      exact hchecksum htruthy hnonempty
    · rintro ⟨-, hrows, hchecksum⟩
      refine ⟨hrows, ?_⟩
      intro htruthy hnonempty
      cases hinfo : extracted.get? tbl with
      | none => simp [hinfo] at hnonempty
      | some info =>
          cases hcs : stored (.obj fields) "sample_checksum" with
          | none => simp [hcs, Json.truthy] at htruthy
          | some cs =>
              rw [hinfo] at hnonempty
              rw [hcs] at htruthy
              exact hchecksum info hinfo hnonempty cs hcs htruthy
  · refine iff_of_false ?_ fun h => hdict h.2.isDict
    rintro ⟨verdict', hok, -⟩
    obtain ⟨expRows, hrows, -⟩ := ok_of_bind hok
    cases info with
    | obj fields => exact hdict ⟨fields, rfl⟩
    | _ => cases hrows

theorem compareTables_success (repr : Json → String) (entries : List (String × Json))
    (verdict : Verdict) :
    (∃ verdict', entries.foldlM (Verdict.compareTable repr extracted) verdict = .ok verdict' ∧
        verdict'.overallSuccess = true) ↔
      verdict.overallSuccess = true ∧ ∀ entry ∈ entries, EntryAgrees extracted entry := by
  induction entries generalizing verdict with
  | nil =>
      constructor
      · rintro ⟨verdict', hok, hsuccess⟩
        cases hok
        exact ⟨hsuccess, by simp⟩
      · rintro ⟨hsuccess, -⟩
        exact ⟨verdict, rfl, hsuccess⟩
  | cons entry entries ih =>
      rw [List.foldlM_cons, List.forall_mem_cons, ← and_assoc, ← compareTable_success]
      constructor
      · rintro ⟨verdict', hok, hsuccess⟩
        obtain ⟨next, hnext, hok⟩ := ok_of_bind hok
        obtain ⟨hsuccess', hall⟩ := (ih next).mp ⟨verdict', hok, hsuccess⟩
        exact ⟨⟨next, hnext, hsuccess'⟩, hall⟩
      · rintro ⟨⟨next, hnext, hsuccess⟩, hall⟩
        rw [hnext]
        exact (ih next).mpr ⟨hsuccess, hall⟩

theorem compareMigration_overallSuccess (verdict : Verdict) (expectedMig : Json)
    (extractedMig : String) :
    (verdict.compareMigration repr expectedMig extractedMig).overallSuccess = true ↔
      verdict.overallSuccess = true ∧
        (expectedMig.truthy = true → equalsText expectedMig extractedMig = true) := by
  unfold Verdict.compareMigration
  split_ifs with hequal
  · refine ⟨fun h => ⟨h, fun htruthy => hequal.resolve_left (by simp [htruthy])⟩, fun h => h.1⟩
  · rw [not_or] at hequal
    refine iff_of_false (by simp [Verdict.overallSuccess]) fun h => ?_
    exact hequal.2 (h.2 (by simpa using hequal.1))

/-- The metadata list tables that all agree with those extracted, and a migration version, if they
have one, that does. -/
structure MetadataAgrees (extracted : VerificationMetadata) (metadata : Json) : Prop where
  tables : ∃ entries, metadata.getD "tables" (.obj []) = .ok (.obj entries) ∧
    ∀ entry ∈ entries, EntryAgrees extracted.tables entry
  migration : ∀ mig, stored metadata "migration_version" = some mig → mig.truthy = true →
    equalsText mig extracted.migrationVersion = true

theorem verify_success (repr : Json → String) (metadata : Json) (extracted : VerificationMetadata) :
    (∃ verdict, verify repr metadata extracted = .ok verdict ∧ verdict.overallSuccess = true) ↔
      MetadataAgrees extracted metadata := by
  constructor
  · rintro ⟨verdict, hok, hsuccess⟩
    obtain ⟨expectedTables, htables, hok⟩ := ok_of_bind hok
    obtain ⟨entries, hentries, hok⟩ := ok_of_bind hok
    obtain ⟨compared, hcompared, hok⟩ := ok_of_bind hok
    obtain ⟨expectedMig, hmig, hok⟩ := ok_of_bind hok
    cases hok
    rw [compareMigration_overallSuccess] at hsuccess
    cases expectedTables with
    | obj entries' =>
        cases hentries
        refine ⟨⟨entries, htables, ?_⟩, fun mig hstored htruthy => ?_⟩
        · exact ((compareTables_success repr _ _).mp ⟨compared, hcompared, hsuccess.1⟩).2
        · cases metadata with
          | obj fields =>
              rw [getD_eq_stored, hstored] at hmig
              cases hmig
              exact hsuccess.2 htruthy
          | _ => cases htables
    | _ => cases hentries
  · rintro ⟨⟨entries, htables, hagree⟩, hmigration⟩
    obtain ⟨compared, hcompared, hsuccess⟩ :=
      (compareTables_success repr entries {}).mpr ⟨rfl, hagree⟩
    cases metadata with
    | obj fields =>
        unfold verify
        rw [htables]
        show ∃ verdict, (entries.foldlM (Verdict.compareTable repr extracted.tables) {} >>= _) =
          .ok verdict ∧ _
        rw [hcompared]
        rw [getD_eq_stored]
        refine ⟨_, rfl, (compareMigration_overallSuccess _ _ _).mpr ⟨hsuccess, ?_⟩⟩
        intro htruthy
        cases hmig : stored (.obj fields) "migration_version" with
        | none => simp [hmig, Json.truthy] at htruthy
        | some mig =>
            rw [hmig] at htruthy
            exact hmigration mig hmig htruthy
    | _ => cases htables

end Comparison

/-! ### The drill -/

section Drill

variable {Row : Type} {repr : Json → String} {checksum : SampleChecksum Row} {run : DrillRun Row}
  {record : BackupRecord}

/-- The drill gets as far as comparing, and nothing spoils its outcome. -/
structure Compares (run : DrillRun Row) (record : BackupRecord) : Prop where
  selected : run.record = some record
  status : record.status = .success
  download : ∃ downloaded, run.download = .ok downloaded ∧
    (record.checksum = "" ∨ downloaded = record.checksum)
  scratch : run.createScratchDatabase = .ok ()
  fileExists : run.psql.fileExists = true
  found : run.psql.found = true
  connect : run.connect = .ok ()
  recorded : run.recordError = none
  metric : run.metricError = none

/-- The metadata a drill compares with. -/
def BackupRecord.expectedMetadata (record : BackupRecord) : Json :=
  record.verificationMetadata.pyOr (.obj [])

theorem verdict_of_compares (h : Compares run record) :
    run.verdict repr checksum record =
      verify repr record.expectedMetadata
        (extractVerificationMetadata checksum fun _ => run.psql.target) := by
  obtain ⟨downloaded, hdownload, hchecksum⟩ := h.download
  have hmatches : ¬ (record.checksum ≠ "" ∧ downloaded ≠ record.checksum) :=
    fun hdiffers => hchecksum.elim hdiffers.1 hdiffers.2
  have hrestore : restoreBackup run.psql = .ok run.psql.target := by
    unfold restoreBackup
    rw [h.fileExists, h.found]
    rfl
  unfold DrillRun.verdict
  rw [hdownload, h.scratch, hrestore, h.connect]
  show (if _ then _ else _) = _
  rw [if_neg hmatches]
  rfl

/-- A drill that has a verdict got through all its steps. -/
theorem steps_of_verdict {verdict : Verdict} (h : run.verdict repr checksum record = .ok verdict) :
    (∃ downloaded, run.download = .ok downloaded ∧
        (record.checksum = "" ∨ downloaded = record.checksum)) ∧
      run.createScratchDatabase = .ok () ∧ run.psql.fileExists = true ∧ run.psql.found = true ∧
      run.connect = .ok () := by
  unfold DrillRun.verdict at h
  obtain ⟨downloaded, hdownload, h⟩ := ok_of_bind h
  by_cases hdiffers : record.checksum ≠ "" ∧ downloaded ≠ record.checksum
  · rw [if_pos hdiffers] at h
    cases h
  rw [if_neg hdiffers] at h
  obtain ⟨⟨⟩, hscratch, h⟩ := ok_of_bind h
  obtain ⟨scratch, hrestore, h⟩ := ok_of_bind h
  obtain ⟨⟨⟩, hconnect, h⟩ := ok_of_bind h
  unfold restoreBackup at hrestore
  split_ifs at hrestore with hfile hfound
  · exact ⟨⟨downloaded, hdownload, by tauto⟩, hscratch, by simpa using hfile, by simpa using hfound,
      hconnect⟩

/-- A drill succeeds exactly if it compares and all it compares agrees. -/
theorem runRestoreDrill_success_iff :
    (runRestoreDrill repr checksum run).status = .success ↔
      ∃ record, Compares run record ∧
        MetadataAgrees (extractVerificationMetadata checksum fun _ => run.psql.target)
          record.expectedMetadata := by
  constructor
  · intro h
    unfold runRestoreDrill at h
    split at h
    · cases h
    · rename_i record hrecord
      rw [Option.filter_eq_some_iff] at hrecord
      dsimp only at h
      split at h
      · cases h
      · cases h
      · rename_i verdict hverdict hrecorded
        cases hmetric : run.metricError with
        | some e =>
            rw [hmetric] at h
            cases h
        | none =>
            rw [hmetric] at h
            obtain ⟨hdownload, hscratch, hfile, hfound, hconnect⟩ := steps_of_verdict hverdict
            have hcompares : Compares run record :=
              { selected := hrecord.1
                status := by simpa using hrecord.2
                download := hdownload
                scratch := hscratch
                fileExists := hfile
                found := hfound
                connect := hconnect
                recorded := hrecorded
                metric := hmetric }
            refine ⟨record, hcompares, ?_⟩
            rw [verdict_of_compares hcompares] at hverdict
            refine (verify_success repr _ _).mp ⟨verdict, hverdict, ?_⟩
            by_contra hfailed
            dsimp only at h
            rw [if_neg hfailed] at h
            cases h
  · rintro ⟨record, hcompares, hagrees⟩
    obtain ⟨verdict, hverdict, hsuccess⟩ := (verify_success repr _ _).mpr hagrees
    rw [← verdict_of_compares hcompares] at hverdict
    have hrecord : (run.record.filter fun record => record.status == .success) = some record := by
      rw [hcompares.selected]
      simp [Option.filter, hcompares.status]
    unfold runRestoreDrill
    simp [hrecord, hverdict, hcompares.recorded, hcompares.metric, hsuccess]

/-- Extracting from a database that stands still. -/
theorem sameTables_const (db : Database Row) : SameTables (fun _ => db) db :=
  ⟨fun _ _ => rfl, fun _ => rfl⟩

/-- What is extracted of a table. -/
theorem extract_get? (checksum : SampleChecksum Row) {found : Statement → Database Row}
    {db : Database Row} (hfound : SameTables found db) (table : String) :
    (extractVerificationMetadata checksum found).tables.get? table =
      if table ∈ db.readTables then some (infoFound checksum found table) else none := by
  unfold Dict.get?
  rw [extract_entries hfound, Dict.lookup_map_pair]

theorem isSome_of_mem_readTables {db : Database Row} {table : String}
    (h : table ∈ db.readTables) : (db.table table).isSome = true := by
  unfold Database.readTables at h
  split_ifs at h
  · exact List.mem_takeWhile_imp (p := fun table => (db.table table).isSome) h
  · simp at h

theorem equalsCount_unique {x : Json} {n m : Nat} (hn : equalsCount x n = true)
    (hm : equalsCount x m = true) : n = m := by
  unfold equalsCount at hn hm
  split at hn
  · simp only [beq_iff_eq] at hn hm
    omega
  · simp only [beq_iff_eq] at hn hm
    omega
  · simp only [beq_iff_eq] at hn hm
    exact_mod_cast hn.symm.trans hm
  · cases hn

theorem equalsText_iff {x : Json} {text : String} : equalsText x text = true ↔ x = .str text := by
  unfold equalsText
  split
  · simp
  · rename_i hother
    exact iff_of_false (by simp) fun h => hother text h

/-! ### Soundness -/

/-- Every listed table is in the database with the recorded number of rows and the recorded
checksum, and the migration versions are equal. -/
structure SameAsRecorded (checksum : SampleChecksum Row) (metadata : Json) (db : Database Row) :
    Prop where
  tables : ∀ entries, metadata.getD "tables" (.obj []) = .ok (.obj entries) →
    ∀ entry ∈ entries, ∃ rows, db.table entry.1 = some rows ∧
      (∃ n, stored entry.2 "rows" = some n ∧ equalsCount n rows.length = true) ∧
      stored entry.2 "sample_checksum" = some (.str (checksum.hexdigest (rows.take 100)))
  migration : stored metadata "migration_version" = some (.str db.migrationVersion)

/-- What a listed table is compared with agrees: the table as it is read, and one that is not read
as an empty one without a checksum. -/
structure TableAgrees (checksum : SampleChecksum Row) (db : Database Row) (entry : String × Json) :
    Prop where
  isDict : ∃ fields, entry.2 = .obj fields
  rows : equalsCount ((stored entry.2 "rows").getD (.int 0))
    (if entry.1 ∈ db.readTables then (db.rowsOf entry.1).length else 0) = true
  sampleChecksum : entry.1 ∈ db.readTables →
    ∀ cs, stored entry.2 "sample_checksum" = some cs → cs.truthy = true →
      cs = .str (checksum.hexdigest ((db.rowsOf entry.1).take 100))

/-- Everything the drill compares agrees. -/
structure NoDifference (checksum : SampleChecksum Row) (metadata : Json) (db : Database Row) :
    Prop where
  tables : ∃ entries, metadata.getD "tables" (.obj []) = .ok (.obj entries) ∧
    ∀ entry ∈ entries, TableAgrees checksum db entry
  migration : ∀ mig, stored metadata "migration_version" = some mig → mig.truthy = true →
    mig = .str db.migrationVersion

/-- A migration version is recorded, and of every listed table the number of rows and a checksum;
and each of them is read, or is there, empty, with the checksum of an empty table. -/
structure Covered (checksum : SampleChecksum Row) (metadata : Json) (db : Database Row) : Prop where
  tables : ∀ entries, metadata.getD "tables" (.obj []) = .ok (.obj entries) →
    ∀ entry ∈ entries, (stored entry.2 "rows").isSome = true ∧
      ∃ cs, stored entry.2 "sample_checksum" = some cs ∧ cs.truthy = true ∧
        (entry.1 ∈ db.readTables ∨
          db.table entry.1 = some [] ∧ cs = .str (checksum.hexdigest []))
  migration : ∃ mig, stored metadata "migration_version" = some mig ∧ mig.truthy = true

theorem metadataAgrees_iff (metadata : Json) (db : Database Row) :
    MetadataAgrees (extractVerificationMetadata checksum fun _ => db) metadata ↔
      NoDifference checksum metadata db := by
  have hentry : ∀ entry, EntryAgrees (extractVerificationMetadata checksum fun _ => db).tables
      entry ↔ TableAgrees checksum db entry := by
    intro entry
    have hget := extract_get? checksum (sameTables_const db) entry.1
    constructor
    · rintro ⟨hdict, hrows, hchecksum⟩
      rw [hget] at hrows
      refine ⟨hdict, ?_, fun hread cs hcs htruthy => ?_⟩
      · split_ifs at hrows ⊢ with hread
        · exact hrows
        · exact hrows
      · rw [if_pos hread] at hget
        exact equalsText_iff.mp (hchecksum _ hget (checksum.nonempty _) cs hcs htruthy)
    · rintro ⟨hdict, hrows, hchecksum⟩
      refine ⟨hdict, ?_, fun info hinfo _ cs hcs htruthy => ?_⟩
      · rw [hget]
        split_ifs at hrows ⊢ with hread
        · exact hrows
        · exact hrows
      · rw [hget] at hinfo
        split_ifs at hinfo with hread
        cases hinfo
        exact equalsText_iff.mpr (hchecksum hread cs hcs htruthy)
  have hmigration := extract_migrationVersion checksum (sameTables_const db)
  constructor
  · rintro ⟨⟨entries, hentries, hagree⟩, hmig⟩
    refine ⟨⟨entries, hentries, fun entry hmem => (hentry entry).mp (hagree entry hmem)⟩,
      fun mig hstored htruthy => ?_⟩
    rw [← hmigration]
    exact equalsText_iff.mp (hmig mig hstored htruthy)
  · rintro ⟨⟨entries, hentries, hagree⟩, hmig⟩
    refine ⟨⟨entries, hentries, fun entry hmem => (hentry entry).mpr (hagree entry hmem)⟩,
      fun mig hstored htruthy => ?_⟩
    rw [hmigration]
    exact equalsText_iff.mpr (hmig mig hstored htruthy)

/-- A drill that compares succeeds exactly if it finds no difference. -/
theorem success_iff_of_compares (h : Compares run record) :
    (runRestoreDrill repr checksum run).status = .success ↔
      NoDifference checksum record.expectedMetadata run.psql.target := by
  rw [runRestoreDrill_success_iff, ← metadataAgrees_iff]
  constructor
  · rintro ⟨record', h', hagrees⟩
    have hsame := h.selected.symm.trans h'.selected
    cases hsame
    exact hagrees
  · intro hagrees
    exact ⟨record, h, hagrees⟩

theorem truthy_str {text : String} (h : text ≠ "") : (Json.str text).truthy = true := by
  simp [Json.truthy, h]

theorem migrationVersion_ne_empty (db : Database Row) : db.migrationVersion ≠ "" := by
  unfold Database.migrationVersion
  split
  · split_ifs with hval
    · decide
    · exact hval
  · decide

/-- Where no difference is found, the database is as recorded exactly if everything is covered. -/
theorem sameAsRecorded_iff {metadata : Json} {db : Database Row}
    (h : NoDifference checksum metadata db) :
    SameAsRecorded checksum metadata db ↔ Covered checksum metadata db := by
  obtain ⟨⟨entries, hentries, hagree⟩, hmig⟩ := h
  constructor
  · rintro ⟨htables, hmigration⟩
    refine ⟨fun entries' hentries' entry hmem => ?_,
      ⟨_, hmigration, truthy_str (migrationVersion_ne_empty db)⟩⟩
    obtain ⟨rows, htable, ⟨n, hn, hcount⟩, hcs⟩ := htables entries' hentries' entry hmem
    rw [hentries] at hentries'
    cases hentries'
    refine ⟨by rw [hn]; rfl, _, hcs, truthy_str (checksum.nonempty _), ?_⟩
    by_cases hread : entry.1 ∈ db.readTables
    · exact .inl hread
    · -- it counted as empty, so it is
      right
      have hzero := (hagree entry hmem).rows
      rw [if_neg hread, hn] at hzero
      obtain rfl := List.length_eq_zero_iff.mp (equalsCount_unique hcount hzero)
      exact ⟨htable, rfl⟩
  · rintro ⟨hcovered, mig, hstored, htruthy⟩
    refine ⟨fun entries' hentries' entry hmem => ?_, by rw [hstored, hmig mig hstored htruthy]⟩
    obtain ⟨hrows, cs, hcs, hcstruthy, hread⟩ := hcovered entries' hentries' entry hmem
    rw [hentries] at hentries'
    cases hentries'
    obtain ⟨n, hn⟩ := Option.isSome_iff_exists.mp hrows
    have hcount := (hagree entry hmem).rows
    rw [hn] at hcount
    by_cases hmemread : entry.1 ∈ db.readTables
    · obtain ⟨rows, htable⟩ := Option.isSome_iff_exists.mp (isSome_of_mem_readTables hmemread)
      have hrowsOf : db.rowsOf entry.1 = rows := by simp [Database.rowsOf, htable]
      have hcs' := (hagree entry hmem).sampleChecksum hmemread cs hcs hcstruthy
      rw [if_pos hmemread, hrowsOf] at hcount
      rw [hrowsOf] at hcs'
      exact ⟨rows, htable, ⟨n, hn, hcount⟩, by rw [hcs, hcs']⟩
    · obtain ⟨htable, rfl⟩ := hread.resolve_left hmemread
      rw [if_neg hmemread] at hcount
      exact ⟨[], htable, ⟨n, hn, hcount⟩, hcs⟩

/-- **When a successful restore drill is sound.**  For every stored metadata and every outcome of
the restore: a recorded success means that every listed table is in the restored database with the
same number of rows and the same checksum and that the migration versions are equal, if and only
if, where the drill compares and finds no difference, a migration version is recorded, and of every
listed table the number of rows and a checksum, and each listed table is read in the restored
database (it is audited and exists, as do `alembic_version` and the audited tables before it) or
exists there, empty as recorded. -/
theorem restore_drill_sound_iff (repr : Json → String) (checksum : SampleChecksum Row)
    (run : DrillRun Row) :
    ((runRestoreDrill repr checksum run).status = .success →
        ∀ record, run.record = some record →
          SameAsRecorded checksum record.expectedMetadata run.psql.target) ↔
      ∀ record, Compares run record →
        NoDifference checksum record.expectedMetadata run.psql.target →
          Covered checksum record.expectedMetadata run.psql.target := by
  constructor
  · intro h record hcompares hno
    refine (sameAsRecorded_iff hno).mp (h ?_ record hcompares.selected)
    exact (success_iff_of_compares hcompares).mpr hno
  · intro h hsuccess record hrecord
    obtain ⟨record', hcompares, hagrees⟩ := runRestoreDrill_success_iff.mp hsuccess
    rw [hcompares.selected] at hrecord
    cases hrecord
    have hno := (metadataAgrees_iff _ _).mp hagrees
    exact (sameAsRecorded_iff hno).mpr (h record hcompares hno)

/-- The checksum of an empty sample. -/
def emptySample : SampleChecksum Unit where
  hexdigest _ := "4f53cda18c2baa0c0354bb5f9a3ecbe5ed12ab4d8e11ba873c2f11161202b945"
  nonempty _ := by decide

/-- A database in which the statement that creates the tables failed. -/
def withoutTables : Database Unit where
  version := "PostgreSQL 16.3 on x86_64-pc-linux-gnu"
  alembicVersion := some (some "0017_backup_records")
  table _ := none

/-- A drill of a backup with an empty table of users, of which `psql` restores nothing but the
migration version. -/
def emptyUsersDrill : DrillRun Unit where
  record := some
    { backupId := "backup_20260725_120000_a1b2c3"
      status := .success
      checksum := ""
      verificationMetadata :=
        (VerificationMetadata.toJson
          ⟨Dict.empty.set "users" ⟨0, emptySample.hexdigest [], 0⟩, "0017_backup_records",
            "PostgreSQL 16.3"⟩) }
  download := .ok ""
  psql := { inputPath := "backup_restore.sql", returncode := 3, target := withoutTables }

/-- A drill records a success although a listed table is missing in the restored database. -/
theorem drill_succeeds_without_users :
    (runRestoreDrill (fun _ => "") emptySample emptyUsersDrill).status = .success ∧
      withoutTables.table "users" = none ∧
      ¬ ((runRestoreDrill (fun _ => "") emptySample emptyUsersDrill).status = .success →
        ∀ record, emptyUsersDrill.record = some record →
          SameAsRecorded emptySample record.expectedMetadata emptyUsersDrill.psql.target) := by
  have hsuccess :
      (runRestoreDrill (fun _ => "") emptySample emptyUsersDrill).status = .success := by
    rfl
  refine ⟨hsuccess, rfl, fun h => ?_⟩
  obtain ⟨rows, htable, -⟩ := (h hsuccess _ rfl).tables _ rfl _ List.mem_cons_self
  cases htable

end Drill

end Backup

end GaiaOS
