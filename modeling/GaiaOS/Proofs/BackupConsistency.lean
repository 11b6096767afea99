/-
When a backup under live traffic passes its own drill.

The metadata are read statement by statement and the dump is taken after them, so a drill compares
a table as its count and its sample found it with the table as the dump did.  A faithful restore
passes exactly if what was committed in between left the number of rows and the checksum alone.
-/
import GaiaOS.Ops.Backup.PostgresBackup
import GaiaOS.Proofs.RestoreDrill

namespace GaiaOS

namespace Backup

section Interleavings

variable {Row : Type} {checksum : SampleChecksum Row} {db : Database Row}

/-- The database as a step finds it. -/
def databaseAt (db : Database Row) : List (Event Row) → BackupStep → Database Row
  | [], _ => db
  | .write write :: events, step => databaseAt (db.commit write) events step
  | .step next :: events, step => if next = step then db else databaseAt db events step

/-- Without writes, every step finds the database as it is. -/
theorem databaseAt_steps (db : Database Row) (steps : List BackupStep) (step : BackupStep) :
    databaseAt db (steps.map .step) step = db := by
  induction steps with
  | nil => rfl
  | cons next steps ih =>
      rw [List.map_cons, databaseAt, ih, ite_self]

/-- The same tables exist, and the migration version is the same. -/
def SameSchema (db db' : Database Row) : Prop :=
  (∀ table, (db'.table table).isSome = (db.table table).isSome) ∧
    db'.alembicVersion = db.alembicVersion

theorem commit_sameSchema (db : Database Row) (write : Write Row) :
    SameSchema db (db.commit write) := by
  refine ⟨fun table => ?_, rfl⟩
  unfold Database.commit
  dsimp only
  split_ifs
  · rw [Option.isSome_map]
  · rfl

/-- Writes do not change which tables there are. -/
theorem databaseAt_sameSchema (db : Database Row) (events : List (Event Row)) (step : BackupStep) :
    SameSchema db (databaseAt db events step) := by
  induction events generalizing db with
  | nil => exact ⟨fun _ => rfl, rfl⟩
  | cons event events ih =>
      cases event with
      | write write =>
          obtain ⟨htable, hversion⟩ := ih (db.commit write)
          obtain ⟨htable', hversion'⟩ := commit_sameSchema db write
          exact ⟨fun table => (htable table).trans (htable' table), hversion.trans hversion'⟩
      | step next =>
          unfold databaseAt
          split_ifs
          · exact ⟨fun _ => rfl, rfl⟩
          · exact ih db

theorem SameSchema.readTables {db' : Database Row} (h : SameSchema db db') :
    db'.readTables = db.readTables := by
  unfold Database.readTables
  rw [h.2, funext h.1]

theorem SameSchema.migrationVersion {db' : Database Row} (h : SameSchema db db') :
    db'.migrationVersion = db.migrationVersion := by
  unfold Database.migrationVersion
  rw [h.2]

/-! ### What a backup records -/

/-- A step of the extraction, given the database as each step finds it. -/
def execStep (checksum : SampleChecksum Row) (found : BackupStep → Database Row) (x : Extraction) :
    BackupStep → Extraction
  | .read statement => x.exec checksum (found (.read statement)) statement
  | .pgDump => x

theorem foldl_execStep_congr {found found' : BackupStep → Database Row} {steps : List BackupStep}
    (h : ∀ step ∈ steps, found step = found' step) (x : Extraction) :
    steps.foldl (execStep checksum found) x = steps.foldl (execStep checksum found') x := by
  induction steps generalizing x with
  | nil => rfl
  | cons step steps ih =>
      obtain ⟨hstep, hsteps⟩ := List.forall_mem_cons.mp h
      have hexec : execStep checksum found x step = execStep checksum found' x step := by
        cases step with
        | read statement => simp only [execStep, hstep]
        | pgDump => rfl
      rw [List.foldl_cons, List.foldl_cons, hexec, ih hsteps]

theorem filterMap_step_cons (next : BackupStep) (events : List (Event Row)) :
    (Event.step next :: events).filterMap Event.step? =
      next :: events.filterMap Event.step? := rfl

/-- Behind a step, the others find what they would without it. -/
theorem databaseAt_of_not_mem {next : BackupStep} {events : List (Event Row)}
    (h : next ∉ events.filterMap Event.step?) :
    ∀ step ∈ events.filterMap Event.step?,
      databaseAt db (.step next :: events) step = databaseAt db events step := by
  intro step hstep
  rw [databaseAt, if_neg]
  rintro rfl
  exact h hstep

/-- A run is the steps, each on the database as it finds it. -/
theorem foldl_next_extraction {events : List (Event Row)}
    (hnodup : (events.filterMap Event.step?).Nodup) (run : BackupRun Row) :
    (events.foldl (BackupRun.next checksum) run).extraction =
      (events.filterMap Event.step?).foldl (execStep checksum (databaseAt run.db events))
        run.extraction := by
  induction events generalizing run with
  | nil => rfl
  | cons event events ih =>
      cases event with
      | write write => exact ih hnodup _
      | step next =>
          obtain ⟨hnot, hnodup⟩ := List.nodup_cons.mp hnodup
          have hfirst : databaseAt run.db (.step next :: events) next = run.db := by
            rw [databaseAt, if_pos rfl]
          rw [List.foldl_cons, ih hnodup, filterMap_step_cons, List.foldl_cons,
            foldl_execStep_congr (databaseAt_of_not_mem hnot)]
          cases next with
          | read statement =>
              simp only [execStep, hfirst]
              rfl
          | pgDump => rfl

theorem foldl_next_dump {events : List (Event Row)}
    (hnodup : (events.filterMap Event.step?).Nodup) (run : BackupRun Row) :
    (events.foldl (BackupRun.next checksum) run).dump =
      if .pgDump ∈ events.filterMap Event.step? then some (databaseAt run.db events .pgDump)
      else run.dump := by
  induction events generalizing run with
  | nil => rfl
  | cons event events ih =>
      cases event with
      | write write => exact ih hnodup _
      | step next =>
          obtain ⟨hnot, hnodup⟩ := List.nodup_cons.mp hnodup
          rw [List.foldl_cons, ih hnodup, filterMap_step_cons]
          cases next with
          | read statement => simp [databaseAt, BackupRun.next]
          | pgDump =>
              rw [if_neg hnot, if_pos List.mem_cons_self, databaseAt, if_pos rfl]
              rfl

variable (interleaving : Interleaving Row)

theorem Interleaving.nodup : (interleaving.events.filterMap Event.step?).Nodup := by
  rw [interleaving.order]
  decide

/-- The metadata of a backup are extracted from the database as each statement finds it. -/
theorem after_metadata (checksum : SampleChecksum Row) (db : Database Row) :
    (BackupRun.after checksum db interleaving.events).extraction.metadata =
      extractVerificationMetadata checksum
        fun statement => databaseAt db interleaving.events (.read statement) := by
  unfold BackupRun.after
  rw [foldl_next_extraction interleaving.nodup, interleaving.order, backupSteps,
    List.foldl_append, List.foldl_map]
  rfl

theorem after_dump (checksum : SampleChecksum Row) (db : Database Row) :
    (BackupRun.after checksum db interleaving.events).dump =
      some (databaseAt db interleaving.events .pgDump) := by
  unfold BackupRun.after
  rw [foldl_next_dump interleaving.nodup, interleaving.order, if_pos (by decide)]

/-- What is committed between the count of a table and the dump leaves the number of its rows as it
was, and what is committed between its sample and the dump leaves the checksum. -/
structure Undisturbed (checksum : SampleChecksum Row) (db : Database Row)
    (interleaving : Interleaving Row) (table : String) : Prop where
  count : ((databaseAt db interleaving.events (.read (.count table))).rowsOf table).length =
    ((databaseAt db interleaving.events .pgDump).rowsOf table).length
  sample : checksum.hexdigest
      (((databaseAt db interleaving.events (.read (.sample table))).rowsOf table).take 100) =
    checksum.hexdigest (((databaseAt db interleaving.events .pgDump).rowsOf table).take 100)

/-- The metadata as they are stored list the tables that were read. -/
theorem toJson_tables (metadata : VerificationMetadata) :
    metadata.toJson.getD "tables" (.obj []) =
      .ok (.obj (metadata.tables.entries.map fun entry => (entry.1, entry.2.toJson))) := rfl

theorem compares_drillOf (checksum : SampleChecksum Row) (backupId fileChecksum : String)
    (db restored : Database Row) (interleaving : Interleaving Row) :
    Compares
      (drillOf (runPostgresBackup checksum backupId fileChecksum db interleaving) restored)
      (runPostgresBackup checksum backupId fileChecksum db interleaving) where
  selected := rfl
  status := rfl
  download := ⟨_, rfl, .inr rfl⟩
  scratch := rfl
  fileExists := rfl
  found := rfl
  connect := rfl
  recorded := rfl
  metric := rfl

/-- Of a table that is read, the counts and the checksums are compared. -/
theorem tableAgrees_toJson {interleaving : Interleaving Row} {table : String}
    (h : table ∈ (databaseAt db interleaving.events .pgDump).readTables) :
    TableAgrees checksum (databaseAt db interleaving.events .pgDump)
        (table, (infoFound checksum
          (fun statement => databaseAt db interleaving.events (.read statement)) table).toJson) ↔
      Undisturbed checksum db interleaving table := by
  constructor
  · rintro ⟨-, hrows, hchecksum⟩
    rw [if_pos h] at hrows
    refine ⟨?_, ?_⟩
    · simpa [equalsCount, stored, TableInfo.toJson, Json.field?, infoFound] using hrows
    · have hequal := hchecksum h _ rfl (truthy_str (checksum.nonempty _))
      exact Json.str.inj hequal
  · rintro ⟨hcount, hsample⟩
    refine ⟨⟨_, rfl⟩, ?_, ?_⟩
    · rw [if_pos h]
      simpa [equalsCount, stored, TableInfo.toJson, Json.field?, infoFound] using hcount
    · rintro - cs hcs -
      cases hcs
      exact congrArg Json.str hsample

end Interleavings

/-- **When a backup under live traffic passes its drill.**  For every interleaving of committed
writes to the audited tables with the steps of a backup: if the dump is one consistent snapshot and
is restored faithfully, a drill of the backup succeeds if and only if, for every table that is read
(each audited one up to the first that is missing), the writes between its count and the dump leave
the number of its rows as it was and those between its sample and the dump leave the checksum of
its first hundred rows as it was. -/
theorem backup_passes_drill_iff {Row : Type} (repr : Json → String) (checksum : SampleChecksum Row)
    (backupId fileChecksum : String) (db restored : Database Row) (interleaving : Interleaving Row)
    (hrestored : (BackupRun.after checksum db interleaving.events).dump = some restored) :
    (runRestoreDrill repr checksum
        (drillOf (runPostgresBackup checksum backupId fileChecksum db interleaving)
          restored)).status = .success ↔
      ∀ table ∈ db.readTables, Undisturbed checksum db interleaving table := by
  rw [after_dump, Option.some.injEq] at hrestored
  subst hrestored
  have hschema := databaseAt_sameSchema db interleaving.events .pgDump
  have hfound : SameTables
      (fun statement => databaseAt db interleaving.events (.read statement)) db :=
    ⟨fun _ table => (databaseAt_sameSchema db interleaving.events _).1 table,
      fun _ => (databaseAt_sameSchema db interleaving.events _).2⟩
  have hcompares := compares_drillOf checksum backupId fileChecksum db
    (databaseAt db interleaving.events .pgDump) interleaving
  rw [success_iff_of_compares hcompares]
  show NoDifference checksum (VerificationMetadata.toJson _) _ ↔ _
  rw [after_metadata]
  constructor
  · rintro ⟨⟨entries, hentries, hagree⟩, -⟩ table hread
    rw [toJson_tables, Except.ok.injEq, Json.obj.injEq, extract_entries hfound] at hentries
    subst hentries
    have hagrees := hagree (table, (infoFound checksum _ table).toJson)
      (List.mem_map.mpr ⟨_, List.mem_map.mpr ⟨table, hread, rfl⟩, rfl⟩)
    exact (tableAgrees_toJson (by rw [hschema.readTables]; exact hread)).mp hagrees
  · intro hundisturbed
    refine ⟨⟨_, toJson_tables _, ?_⟩, ?_⟩
    · rw [extract_entries hfound]
      intro entry hentry
      obtain ⟨pair, hpair, rfl⟩ := List.mem_map.mp hentry
      obtain ⟨table, hread, rfl⟩ := List.mem_map.mp hpair
      exact (tableAgrees_toJson (by rw [hschema.readTables]; exact hread)).mpr
        (hundisturbed table hread)
    · rintro mig hmig -
      cases hmig
      rw [extract_migrationVersion checksum hfound]
      exact congrArg Json.str hschema.migrationVersion.symm

/-- The checksums of no rows and of the row of the user with the id 1. -/
def userSamples : SampleChecksum Nat where
  hexdigest rows :=
    if rows = [] then "4f53cda18c2baa0c0354bb5f9a3ecbe5ed12ab4d8e11ba873c2f11161202b945"
    else "bb41eeeedb7789a3482cc74a1ac8d84effb2a508b753948130e3958c39004120"
  nonempty rows := by
    split
    all_goals decide

/-- A new installation, whose table of metrics has another name than the one that is audited. -/
def newInstallation : Database Nat where
  version := "PostgreSQL 16.3 on x86_64-pc-linux-gnu"
  alembicVersion := some (some "0017_backup_records")
  table name := if name = "metric_events" then none else some []

/-- The first user signs up. -/
def signUp : Write Nat where
  rows name rows := if name = "users" then rows ++ [1] else rows

/-- A user who signs up before anything is read. -/
def signUpBefore : Interleaving Nat where
  events := .write signUp :: backupSteps.map .step
  order := by decide

/-- A user who signs up after the metadata are extracted and before the dump. -/
def signUpBetween : Interleaving Nat where
  events := statements.map (.step <| .read ·) ++ [.write signUp, .step .pgDump]
  order := by decide

theorem backup_passes_after_signUp :
    (BackupRun.after userSamples newInstallation signUpBefore.events).dump =
        some (newInstallation.commit signUp) ∧
      (runRestoreDrill (fun _ => "") userSamples
        (drillOf (runPostgresBackup userSamples "backup_20260725_120000_a1b2c3" "" newInstallation
          signUpBefore) (newInstallation.commit signUp))).status = .success := by
  have hdump : (BackupRun.after userSamples newInstallation signUpBefore.events).dump =
      some (newInstallation.commit signUp) := rfl
  refine ⟨hdump, (backup_passes_drill_iff _ _ _ _ _ _ _ hdump).mpr ?_⟩
  have hfound : ∀ step, databaseAt newInstallation signUpBefore.events step =
      newInstallation.commit signUp := databaseAt_steps _ _
  intro table hread
  refine ⟨?_, ?_⟩
  · rw [hfound, hfound]
  · rw [hfound, hfound]

/-- A user who signs up while the backup runs makes a faithful restore fail its drill. -/
theorem backup_fails_on_signUp :
    (BackupRun.after userSamples newInstallation signUpBetween.events).dump =
        some (newInstallation.commit signUp) ∧
      (runRestoreDrill (fun _ => "") userSamples
        (drillOf (runPostgresBackup userSamples "backup_20260725_120000_a1b2c3" "" newInstallation
          signUpBetween) (newInstallation.commit signUp))).status = .failed :=
  ⟨rfl, by decide +kernel⟩

end Backup

end GaiaOS
