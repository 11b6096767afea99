/-
What a published dataset says about itself, and what it holds.

The hasher has been fed the text of the archive, by induction over the two streams, and not the
file that gzip made of it.  As the file is never its content, the digest is never that of the file.
The counts are right, and nobody is shown who did not consent; every hazard event is there as long
as the limit of the query is not passed.
-/
import GaiaOS.Workers.DatasetExportJob
import Mathlib.Data.List.Nodup
import Mathlib.Data.List.Perm.Basic

namespace GaiaOS

namespace DatasetExport

/-! ### What a reader finds in a record -/

/-- A text in a record. -/
def textField (record : Json) (key : String) : Option String :=
  match record with
  | .obj entries =>
      match Json.field? entries key with
      | some (.str text) => some text
      | _ => none
  | _ => none

/-- The investigation a record is of. -/
def investigationOf (record : Json) : Option String :=
  if textField record "record_type" = some "investigation" then textField record "investigation_id"
  else none

/-- The hazard event a record is of. -/
def hazardEventOf (record : Json) : Option String :=
  if textField record "record_type" = some "hazard_event" then textField record "id" else none

/-- An archive has one record for each complete investigation with consent and for each hazard
event, and no other of either kind. -/
structure Complete (db : Database) (archive : Archive) : Prop where
  investigations : (archive.records.filterMap investigationOf).Perm
    ((db.investigations.filter fun inv =>
      inv.status = "complete" ∧ inv.consentPublicResearch = true).map (·.id.text))
  hazardEvents : (archive.records.filterMap hazardEventOf).Perm
    (db.hazardEvents.map (·.id.text))

/-- The counts of a manifest are those of an archive: of its records, which are its lines, and of
the records of each kind. -/
structure Counts (rt : ExportRuntime) (manifest : Manifest) (archive : Archive) : Prop where
  records : manifest.recordCount = archive.records.length
  lines : manifest.recordCount = (archive.text rt).toList.count '\n'
  investigations : manifest.consentingInvestigationsCount =
    (archive.records.filterMap investigationOf).length
  hazardEvents : manifest.hazardEventsCount = (archive.records.filterMap hazardEventOf).length

/-- No record is of an investigation without consent. -/
def OnlyConsenting (db : Database) (archive : Archive) : Prop :=
  ∀ inv ∈ db.investigations, inv.consentPublicResearch = false →
    ∀ record ∈ archive.records, investigationOf record ≠ some inv.id.text

/-- The three files of a dataset are in the storage. -/
structure Published (storage : Storage) (manifest : Manifest) (archive : Archive)
    (checksumText : String) : Prop where
  archiveFile : storage manifest.archiveFilename = some (.archive archive)
  checksumFile : storage (manifest.archiveFilename ++ ".sha256") = some (.checksum checksumText)
  manifestFile : storage "manifest.json" = some (.manifest manifest)

/-- The digest in both files is that of the archive's bytes. -/
structure Verifies (rt : ExportRuntime) (manifest : Manifest) (archive : Archive)
    (checksumText : String) : Prop where
  checksum : manifest.checksum = rt.sha256Hex (archive.bytes rt)
  checksumFile : checksumText =
    rt.sha256Hex (archive.bytes rt) ++ "  " ++ manifest.archiveFilename ++ "\n"

/-- What a published dataset should be. -/
structure DatasetHolds (rt : ExportRuntime) (db : Database) (manifest : Manifest)
    (archive : Archive) (checksumText : String) : Prop where
  verifies : Verifies rt manifest archive checksumText
  complete : Complete db archive
  counts : Counts rt manifest archive
  consenting : OnlyConsenting db archive

variable {rt : ExportRuntime} {db : Database} {run : ExportRun} {storage : Storage}
  {manifest : Manifest} {record : Json} {records : List Json}
  {state state' state'' : ExportState}

@[simp] theorem investigationOf_investigationRecord (anon : Anonymization.PublicInvestigation) :
    investigationOf (investigationRecord anon) = some anon.investigationId := by
  simp [investigationOf, investigationRecord, publicEntries, textField, Json.field?]

@[simp] theorem hazardEventOf_investigationRecord (anon : Anonymization.PublicInvestigation) :
    hazardEventOf (investigationRecord anon) = none := by
  simp [hazardEventOf, investigationRecord, publicEntries, textField, Json.field?]

@[simp] theorem investigationOf_hazardRecord (event : HazardEvent) :
    investigationOf (hazardRecord rt event) = none := by
  simp [investigationOf, hazardRecord, textField, Json.field?]

@[simp] theorem hazardEventOf_hazardRecord (event : HazardEvent) :
    hazardEventOf (hazardRecord rt event) = some event.id.text := by
  simp [hazardEventOf, hazardRecord, textField, Json.field?]

/-! ### The streams -/

theorem encode_append (s t : String) : encode (s ++ t) = encode s ++ encode t := by
  simp [encode, String.toByteArray_append]

/-- What a stream adds to the state: to the archive, to the hasher and to the counts. -/
structure Streamed (rt : ExportRuntime) (added : List Json) (before after : ExportState) :
    Prop where
  records : after.archive.records = before.archive.records ++ added
  hasher : after.hasher = before.hasher ++ encode (String.join (added.map (lineOf rt)))
  invCount : after.invCount = before.invCount + (added.filterMap investigationOf).length
  hazardCount : after.hazardCount = before.hazardCount + (added.filterMap hazardEventOf).length
  total : (added.filterMap investigationOf).length + (added.filterMap hazardEventOf).length =
    added.length

theorem streamed_nil (rt : ExportRuntime) (state : ExportState) : Streamed rt [] state state where
  records := by simp
  hasher := by simp [encode, String.join_nil]
  invCount := by simp
  hazardCount := by simp
  total := by simp

theorem Streamed.trans {records' : List Json} (h : Streamed rt records state state')
    (h' : Streamed rt records' state' state'') :
    Streamed rt (records ++ records') state state'' where
  records := by rw [h'.records, h.records, List.append_assoc]
  hasher := by
    rw [h'.hasher, h.hasher, List.map_append, String.join_append, encode_append, List.append_assoc]
  invCount := by rw [h'.invCount, h.invCount, List.filterMap_append, List.length_append]; omega
  hazardCount := by
    rw [h'.hazardCount, h.hazardCount, List.filterMap_append, List.length_append]
    omega
  total := by
    have hfirst := h.total
    have hsecond := h'.total
    simp only [List.filterMap_append, List.length_append]
    omega

theorem streamed_investigation (anon : Anonymization.PublicInvestigation) (state : ExportState) :
    Streamed rt [investigationRecord anon] state
      { state.write rt (investigationRecord anon) with invCount := state.invCount + 1 } where
  records := rfl
  hasher := by simp [ExportState.write, String.join_cons, String.join_nil]
  invCount := by simp
  hazardCount := by simp [ExportState.write]
  total := by simp

theorem streamed_hazardEvent (event : HazardEvent) (state : ExportState) :
    Streamed rt [hazardRecord rt event] state
      { state.write rt (hazardRecord rt event) with hazardCount := state.hazardCount + 1 } where
  records := rfl
  hasher := by simp [ExportState.write, String.join_cons, String.join_nil]
  invCount := by simp [ExportState.write]
  hazardCount := by simp
  total := by simp

/-- The policy keeps the identifier. -/
theorem investigationId_of_apply {rt : Anonymization.TextRuntime}
    {inv : Anonymization.InvestigationRow} {anon : Anonymization.PublicInvestigation}
    (h : Anonymization.apply rt inv = .ok anon) : anon.investigationId = inv.id.text := by
  obtain ⟨domains, -, hanon⟩ := ok_of_bind h
  cases hanon
  rfl

/-- The first stream, by induction on the rows: a record of each. -/
theorem streamInvestigations_streamed : ∀ (rows : List Investigation) {state state' : ExportState},
    streamInvestigations rt rows state = .ok state' →
      ∃ records, Streamed rt records state state' ∧
        records.filterMap investigationOf = rows.map (·.id.text) ∧
        records.filterMap hazardEventOf = []
  | [], state, state', h => by
      cases h
      exact ⟨[], streamed_nil rt state, rfl, rfl⟩
  | inv :: rest, state, state', h => by
      rw [streamInvestigations] at h
      obtain ⟨anon, happly, hrest⟩ := ok_of_bind h
      obtain ⟨records, hstreamed, hids, hnone⟩ := streamInvestigations_streamed rest hrest
      refine ⟨investigationRecord anon :: records,
        (streamed_investigation anon state).trans hstreamed, ?_, ?_⟩
      · simp [hids, investigationId_of_apply happly]
      · simp [hnone]

/-- The second stream, by induction on the rows. -/
theorem streamHazardEvents_streamed : ∀ (rows : List HazardEvent) (state : ExportState),
    Streamed rt (rows.map (hazardRecord rt)) state (streamHazardEvents rt rows state)
  | [], state => streamed_nil rt state
  | event :: rest, state =>
      (streamed_hazardEvent event state).trans (streamHazardEvents_streamed rest _)

/-- What a run has written when both streams are through. -/
structure Written (run : ExportRun) (db : Database) (state : ExportState) : Prop where
  streamed : Streamed run.rt state.archive.records {} state
  investigations : state.archive.records.filterMap investigationOf =
    (db.investigations.filter isExported).map (·.id.text)
  hazardEvents : state.archive.records.filterMap hazardEventOf =
    (db.hazardEvents.take hazardLimit).map (·.id.text)

theorem writeArchive_written (h : run.writeArchive db = .ok state) : Written run db state := by
  unfold ExportRun.writeArchive at h
  obtain ⟨_, -, h⟩ := ok_of_bind h
  obtain ⟨investigated, hfirst, h⟩ := ok_of_bind h
  obtain ⟨_, -, h⟩ := ok_of_bind h
  cases h
  obtain ⟨records, hstreamed, hids, hnone⟩ := streamInvestigations_streamed _ hfirst
  have hboth := hstreamed.trans
    (streamHazardEvents_streamed (db.hazardEvents.take hazardLimit) investigated)
  have hrecords := hboth.records
  rw [List.nil_append] at hrecords
  refine ⟨hrecords ▸ hboth, ?_, ?_⟩
  · rw [hrecords, List.filterMap_append, hids, List.filterMap_map]
    simp
  · rw [hrecords, List.filterMap_append, hnone, List.filterMap_map]
    simp

/-! ### The files -/

theorem uploadAll_ok : ∀ (files : List (String × ExportFile)) (storage : Storage),
    (run.uploadAll files storage).1 = .ok () →
      (run.uploadAll files storage).2 = files.foldl
        (fun storage file => storage.put file.1 file.2) storage
  | [], _, _ => rfl
  | (key, file) :: rest, storage, h => by
      rw [ExportRun.uploadAll] at h ⊢
      cases herror : run.uploadError key with
      | some e =>
          rw [herror] at h
          cases h
      | none =>
          rw [herror] at h
          exact uploadAll_ok rest _ h

/-- The names of the archive and of its checksum begin with another letter. -/
theorem manifest_ne (run : ExportRun) (ending : String) :
    "manifest.json" ≠ run.archiveFilename ++ ending := by
  intro h
  have hfirst := congrArg (fun text : String => text.toList.head?) h
  have hstart : "gaiaos_research_dataset_".toList.head? = some 'g' := by decide
  have hmanifest : "manifest.json".toList.head? = some 'm' := by decide
  unfold ExportRun.archiveFilename at hfirst
  simp only [String.toList_append, List.head?_append, hstart, hmanifest, Option.some_or] at hfirst
  cases hfirst

theorem checksumFilename_ne (run : ExportRun) : run.checksumFilename ≠ run.archiveFilename := by
  intro h
  have hlength := congrArg String.length h
  simp [ExportRun.checksumFilename] at hlength

theorem files_published (run : ExportRun) (state : ExportState) (storage : Storage) :
    Published ((run.files state).foldl (fun storage file => storage.put file.1 file.2) storage)
      (run.manifestData state) state.archive (run.checksumText state) := by
  have harchive : run.archiveFilename ≠ "manifest.json" := by
    simpa using (manifest_ne run "").symm
  have hchecksum : run.checksumFilename ≠ "manifest.json" := (manifest_ne run ".sha256").symm
  simp only [ExportRun.files, List.foldl_cons, List.foldl_nil]
  refine ⟨?_, ?_, Storage.put_self ..⟩
  · show Storage.put _ _ _ run.archiveFilename = _
    rw [Storage.put_of_ne harchive, Storage.put_of_ne (checksumFilename_ne run).symm,
      Storage.put_self]
  · show Storage.put _ _ _ run.checksumFilename = _
    rw [Storage.put_of_ne hchecksum, Storage.put_self]

/-- A run that returns a manifest has published what it has written. -/
theorem exported_spec (h : (asyncRunDatasetExport run db storage).1 = .ok (.exported manifest)) :
    ∃ state, run.writeArchive db = .ok state ∧ manifest = run.manifestData state ∧
      Published (asyncRunDatasetExport run db storage).2 manifest state.archive
        (run.checksumText state) := by
  unfold asyncRunDatasetExport at h ⊢
  split at h
  · cases h
  · rename_i henabled
    rw [if_neg henabled]
    split at h
    · cases h
    · rename_i hsession
      rw [if_neg hsession]
      cases hwrite : run.writeArchive db with
      | error e =>
          rw [hwrite] at h
          cases h
      | ok state =>
          rw [hwrite] at h
          dsimp only at h ⊢
          cases hupload : (run.uploadAll (run.files state) storage).1 with
          | error e =>
              rw [hupload] at h
              cases h
          | ok _ =>
              rw [hupload] at h
              cases h
              refine ⟨state, rfl, rfl, ?_⟩
              rw [uploadAll_ok _ _ hupload]
              exact files_published run state storage

/-! ### The dataset -/

/-- One line for each record, by induction on the records. -/
theorem count_lines (archive : Archive) :
    (archive.text rt).toList.count '\n' = archive.records.length := by
  have hlines : ∀ records : List Json,
      (String.join (records.map (lineOf rt))).toList.count '\n' = records.length := by
    intro records
    induction records with
    | nil => rfl
    | cons record rest ih =>
        have hone : (rt.jsonDumps record).toList.count '\n' = 0 :=
          List.count_eq_zero.mpr (rt.jsonDumps_line record)
        rw [List.map_cons, String.join_cons, String.toList_append, List.count_append, ih, lineOf,
          String.toList_append, List.count_append, hone]
        simp [Nat.add_comm]
  exact hlines archive.records

theorem Written.counts (h : Written run db state) :
    Counts run.rt (run.manifestData state) state.archive := by
  have hinv : state.invCount = (state.archive.records.filterMap investigationOf).length := by
    simpa using h.streamed.invCount
  have hhazard : state.hazardCount = (state.archive.records.filterMap hazardEventOf).length := by
    simpa using h.streamed.hazardCount
  have htotal : state.invCount + state.hazardCount = state.archive.records.length := by
    rw [hinv, hhazard, h.streamed.total]
  exact ⟨htotal, htotal.trans (count_lines state.archive).symm, hinv, hhazard⟩

/-- The identifiers are primary keys, so a record is of the row that was selected for it. -/
theorem Written.onlyConsenting (h : Written run db state) : OnlyConsenting db state.archive := by
  intro inv hinv hconsent record hrecord hof
  have hid : inv.id.text ∈ state.archive.records.filterMap investigationOf :=
    List.mem_filterMap.mpr ⟨record, hrecord, hof⟩
  rw [h.investigations] at hid
  obtain ⟨shown, hshown, htext⟩ := List.mem_map.mp hid
  obtain ⟨hmem, hexported⟩ := List.mem_filter.mp hshown
  have hsame := List.inj_on_of_nodup_map db.investigationsPk hmem hinv (Uuid.ext_text htext)
  rw [hsame] at hexported
  simp [isExported, hconsent] at hexported

/-- Every hazard event is there exactly if there are no more than the query asks for. -/
theorem Written.complete_iff (h : Written run db state) :
    Complete db state.archive ↔ db.hazardEvents.length ≤ 1000 := by
  constructor
  · intro hcomplete
    have hlength := hcomplete.hazardEvents.length_eq
    rw [h.hazardEvents, List.length_map, List.length_map, List.length_take] at hlength
    exact min_eq_right_iff.mp hlength
  · intro hfew
    refine ⟨?_, ?_⟩
    · rw [h.investigations]
      refine .of_eq (congrArg _ (List.filter_congr fun inv _ => ?_))
      rw [Bool.eq_iff_iff]
      simp [isExported, and_comm]
    · have hall : db.hazardEvents.take hazardLimit = db.hazardEvents :=
        List.take_of_length_le hfew
      rw [h.hazardEvents, hall]

/-- The digest is that of the text, which is not the file. -/
theorem Written.checksum_ne (h : Written run db state)
    (hsha : Function.Injective run.rt.sha256Hex)
    (hgzip : ∀ content, run.rt.gzip content ≠ content) :
    (run.manifestData state).checksum ≠ run.rt.sha256Hex (state.archive.bytes run.rt) := by
  intro hsame
  have hhashed : state.hasher = encode (state.archive.text run.rt) := by
    rw [h.streamed.hasher, List.nil_append]
    rfl
  have hbytes := hsha hsame
  rw [hhashed] at hbytes
  exact hgzip _ hbytes.symm

theorem Published.unique {archive archive' : Archive} {text text' : String}
    (h : Published storage manifest archive text) (h' : Published storage manifest archive' text') :
    archive = archive' ∧ text = text' := by
  have harchive := h.archiveFile.symm.trans h'.archiveFile
  have htext := h.checksumFile.symm.trans h'.checksumFile
  cases harchive
  cases htext
  exact ⟨rfl, rfl⟩

/-- **No dataset that a run publishes verifies.  Its counts are right and it shows nobody who did
not consent; it is complete exactly if there are at most a thousand hazard events.** -/
theorem published_never_verifies (run : ExportRun) (db : Database) (storage : Storage)
    (manifest : Manifest) (hsha : Function.Injective run.rt.sha256Hex)
    (hgzip : ∀ content, run.rt.gzip content ≠ content)
    (hrun : (asyncRunDatasetExport run db storage).1 = .ok (.exported manifest)) :
    (∃ archive checksumText,
      Published (asyncRunDatasetExport run db storage).2 manifest archive checksumText) ∧
    ∀ archive checksumText,
      Published (asyncRunDatasetExport run db storage).2 manifest archive checksumText →
        ¬DatasetHolds run.rt db manifest archive checksumText ∧
        manifest.checksum ≠ run.rt.sha256Hex (archive.bytes run.rt) ∧
        (Complete db archive ↔ db.hazardEvents.length ≤ 1000) ∧
        Counts run.rt manifest archive ∧ OnlyConsenting db archive := by
  obtain ⟨state, hwrite, rfl, hpublished⟩ := exported_spec hrun
  have hwritten := writeArchive_written hwrite
  refine ⟨⟨_, _, hpublished⟩, fun archive checksumText h => ?_⟩
  obtain ⟨rfl, rfl⟩ := h.unique hpublished
  have hne := hwritten.checksum_ne hsha hgzip
  exact ⟨fun hholds => hne hholds.verifies.checksum, hne, hwritten.complete_iff, hwritten.counts,
    hwritten.onlyConsenting⟩

/-! ### An export of empty tables -/

/-- The functions, as they are on no bytes at all: the gzip file of nothing is twenty bytes long,
and the digest of nothing is the known one. -/
def emptyRuntime : ExportRuntime where
  lower text := text
  words _ := []
  reprs := ⟨id, fun _ => "0.0"⟩
  isoformat _ := "2026-03-01T00:00:00+00:00"
  lower_lower _ _ := rfl
  strftime _ := "20260301_000000"
  jsonDumps _ := "{}"
  gzip content := [31, 139, 8, 0, 0, 0, 0, 0, 2, 255] ++ content ++ [3, 0, 0, 0, 0, 0, 0, 0, 0, 0]
  sha256Hex bytes := "e3b0c44298fc1c149afbf4c8996fb92427ae41e4649b934ca495991b7852b855" ++
    String.ofList (bytes.map Char.ofUInt8)
  jsonDumps_line _ := by decide

def emptyDatabase : Database where
  investigations := []
  hazardEvents := []
  investigationsPk := List.nodup_nil
  hazardEventsPk := List.nodup_nil

def marchExport : ExportRun where
  rt := emptyRuntime
  datasetExportEnabled := true
  now := 1772323200000000

theorem emptyRuntime_sha256Hex_injective : Function.Injective emptyRuntime.sha256Hex := by
  intro bytes bytes' h
  have hlists := congrArg String.toList h
  simp only [emptyRuntime, String.toList_append, List.append_cancel_left_eq,
    String.toList_ofList] at hlists
  refine List.map_injective_iff.mpr (fun byte byte' hbyte => ?_) hlists
  have hvals := congrArg Char.val hbyte
  exact UInt8.toUInt32_inj.mp hvals

theorem emptyRuntime_gzip_ne (content : List UInt8) : emptyRuntime.gzip content ≠ content := by
  intro h
  have hlength := congrArg List.length h
  simp only [emptyRuntime, List.length_append, List.length_cons] at hlength
  omega

/-- What that export returns. -/
def emptyManifest : Manifest := marchExport.manifestData {}

theorem marchExport_exported (storage : Storage) :
    (asyncRunDatasetExport marchExport emptyDatabase storage).1 = .ok (.exported emptyManifest) :=
  rfl

theorem empty_export_never_verifies :
    ¬DatasetHolds emptyRuntime emptyDatabase emptyManifest {} (marchExport.checksumText {}) ∧
      Counts emptyRuntime emptyManifest {} := by
  have hexport := (published_never_verifies marchExport emptyDatabase (fun _ => none) emptyManifest
    emptyRuntime_sha256Hex_injective emptyRuntime_gzip_ne (marchExport_exported _)).2 {}
      (marchExport.checksumText {}) (files_published marchExport {} _)
  exact ⟨hexport.1, hexport.2.2.2.1⟩

/-- The dataset that is published then: its files hold the digest of nothing, and its archive is of
twenty bytes. -/
theorem empty_export_checksum_differs :
    Published (asyncRunDatasetExport marchExport emptyDatabase fun _ => none).2 emptyManifest {}
      (marchExport.checksumText {}) ∧
    emptyManifest.checksum =
      "e3b0c44298fc1c149afbf4c8996fb92427ae41e4649b934ca495991b7852b855" ∧
    emptyManifest.archiveSizeBytes = 20 ∧
    ¬DatasetHolds emptyRuntime emptyDatabase emptyManifest {} (marchExport.checksumText {}) := by
  refine ⟨files_published marchExport {} _, ?_, rfl, fun hholds => ?_⟩
  · simp [emptyManifest, ExportRun.manifestData, marchExport, emptyRuntime]
  · have hsame : emptyRuntime.sha256Hex [] =
        emptyRuntime.sha256Hex (Archive.bytes emptyRuntime {}) := hholds.verifies.checksum
    have hbytes := congrArg List.length (emptyRuntime_sha256Hex_injective hsame)
    exact absurd hbytes (by decide)

end DatasetExport

end GaiaOS
