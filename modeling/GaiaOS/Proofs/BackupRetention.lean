/-
What a retention cleanup attempts, removes and keeps.

The loop gets to the end of its records unless one of them fails in a way that the handler fails on
too.  What it got to is a prefix of the expired records, and every fact about the store it leaves is
one about that prefix: an identifier is removed if both its steps succeed, and a file if it is the
file of a record whose deletion succeeds.
-/
import GaiaOS.Ops.Backup.Retention
import Mathlib.Data.List.Perm.Subperm

namespace GaiaOS

namespace BackupRetention

/-- A record is older than the days of retention. -/
def CleanupContext.Expired (ctx : CleanupContext) (row : BackupRow) : Prop :=
  row.createdAt < ctx.now - ctx.retentionDays * microsecondsPerDay

instance (ctx : CleanupContext) (row : BackupRow) : Decidable (ctx.Expired row) :=
  inferInstanceAs (Decidable (_ < _))

/-- The deletion of the file and the commit both succeed. -/
def CleanupContext.Succeeds (ctx : CleanupContext) (row : BackupRow) : Prop :=
  ctx.deleteError row.backupId = none ∧ ctx.commitError row.backupId = none

instance (ctx : CleanupContext) (row : BackupRow) : Decidable (ctx.Succeeds row) :=
  inferInstanceAs (Decidable (_ ∧ _))

/-- The expired records, in the order of the query. -/
def expiredRecords (ctx : CleanupContext) (store : Store) : List BackupRow :=
  (ctx.scan store.backupRecords).order.filter (ctx.Expired ·)

/-- What a cleanup of a store should leave. -/
structure SafeAndComplete (ctx : CleanupContext) (before : Store) (after : CleanupState) :
    Prop where
  attempts : ∀ row ∈ before.backupRecords, ctx.Expired row → row.backupId ∈ after.attempted
  removes : ∀ row, row ∈ after.store.backupRecords ↔
    row ∈ before.backupRecords ∧ ¬(ctx.Expired row ∧ ctx.Succeeds row)
  keepsFiles : ∀ row ∈ before.backupRecords, ¬ctx.Expired row →
    remoteKey row.backupId ∈ before.files → remoteKey row.backupId ∈ after.store.files

/-- The backup of a run still has its record and its file. -/
structure BackupKept (run : BackupRun) (before after : Store) : Prop where
  record : ∀ row ∈ before.backupRecords, row.backupId = run.backupId →
    row ∈ after.backupRecords
  file : remoteKey run.backupId ∈ after.files

/-- The cleanup that follows a backup is as it should be, and leaves that backup alone. -/
structure RetentionHolds (run : BackupRun) (store : Store) (size : Nat)
    (checksum location : String) : Prop where
  cleanup : SafeAndComplete run.cleanup (run.completed store size checksum location)
    (cleanupExpiredBackups run.cleanup (run.completed store size checksum location)).2
  own : BackupKept run (run.completed store size checksum location) (runPostgresBackup run store).2

/-- The session gets past all of the records: what fails is the last of them, or it is the deletion
of a file, not of the first, and the session's rollback leaves its objects as they are. -/
structure GetsThrough (ctx : CleanupContext) (records : List BackupRow) : Prop where
  first : ∀ rec rest, records = rec :: rest → rest ≠ [] → ctx.Succeeds rec
  others : ∀ rec ∈ records.dropLast, ctx.Succeeds rec ∨
    ctx.idleRollbackExpires = false ∧ ctx.deleteError rec.backupId ≠ none

/-- A cleanup has its cutoff if there is anything to clean, and gets through what there is. -/
structure ReachesAll (ctx : CleanupContext) (store : Store) : Prop where
  cutoff : expiredRecords ctx store ≠ [] → ∃ cutoff, ctx.cutoff = .ok cutoff
  through : GetsThrough ctx (expiredRecords ctx store)

/-- The backup of the run is not expired, or its file cannot be deleted. -/
def OwnSpared (run : BackupRun) (completed : Store) : Prop :=
  ∀ row ∈ completed.backupRecords, row.backupId = run.backupId → run.cleanup.Expired row →
    run.cleanup.deleteError run.backupId ≠ none

variable {ctx : CleanupContext} {store : Store} {rec row : BackupRow} {records : List BackupRow}
  {run : BackupRun}

/-! ### One record -/

/-- The handler does not fail on what a record meets. -/
def CleanupContext.Passes (ctx : CleanupContext) (began : Bool) (rec : BackupRow) : Prop :=
  ctx.Succeeds rec ∨
    began = false ∧ ctx.idleRollbackExpires = false ∧ ctx.deleteError rec.backupId ≠ none

instance (began : Bool) : Decidable (ctx.Passes began rec) :=
  inferInstanceAs (Decidable (_ ∨ _))

/-- What a pass of the loop leaves. -/
def CleanupState.passed (ctx : CleanupContext) (state : CleanupState) (rec : BackupRow) :
    CleanupState :=
  let tried := { state with attempted := state.attempted ++ [rec.backupId], began := false }
  match ctx.deleteError rec.backupId, ctx.commitError rec.backupId with
  | some _, _ => tried
  | none, some _ => { tried with store := tried.store.deleteFile (remoteKey rec.backupId) }
  | none, none =>
      { tried with
        store := (tried.store.deleteFile (remoteKey rec.backupId)).deleteRow rec.backupId
        deletedCount := tried.deletedCount + 1 }

/-- The step of the loop: the pass over a record, and the rest if the handler does not fail. -/
theorem cleanupLoop_cons (state : CleanupState) :
    cleanupLoop ctx (rec :: records) state =
      if ctx.Passes state.began rec then cleanupLoop ctx records (state.passed ctx rec)
      else (.error missingGreenlet, state.passed ctx rec) := by
  rw [cleanupLoop]
  cases hdelete : ctx.deleteError rec.backupId with
  | none =>
      cases hcommit : ctx.commitError rec.backupId with
      | none =>
          have hpasses : ctx.Passes state.began rec := Or.inl ⟨hdelete, hcommit⟩
          simp [hpasses, CleanupState.passed, hdelete, hcommit]
      | some e =>
          have hpasses : ¬ctx.Passes state.began rec := by
            rintro (hsucceeds | ⟨_, _, hfails⟩)
            · exact absurd (hcommit.symm.trans hsucceeds.2) (by simp)
            · exact hfails hdelete
          simp [hpasses, CleanupState.passed, hdelete, hcommit]
  | some e =>
      cases hbegan : state.began <;> cases hidle : ctx.idleRollbackExpires <;>
        simp [CleanupContext.Passes, CleanupContext.Succeeds, CleanupState.passed, hdelete, hidle,
          ← hbegan]

variable {state : CleanupState}

@[simp] theorem passed_attempted :
    (state.passed ctx rec).attempted = state.attempted ++ [rec.backupId] := by
  unfold CleanupState.passed
  cases ctx.deleteError rec.backupId <;> cases ctx.commitError rec.backupId <;> rfl

@[simp] theorem passed_began : (state.passed ctx rec).began = false := by
  unfold CleanupState.passed
  cases ctx.deleteError rec.backupId <;> cases ctx.commitError rec.backupId <;> rfl

theorem passed_deletedCount : (state.passed ctx rec).deletedCount =
    state.deletedCount + if ctx.Succeeds rec then 1 else 0 := by
  cases hdelete : ctx.deleteError rec.backupId <;> cases hcommit : ctx.commitError rec.backupId <;>
    simp [CleanupState.passed, CleanupContext.Succeeds, hdelete, hcommit]

theorem mem_passed_backupRecords : row ∈ (state.passed ctx rec).store.backupRecords ↔
    row ∈ state.store.backupRecords ∧ (ctx.Succeeds rec → rec.backupId ≠ row.backupId) := by
  unfold CleanupState.passed CleanupContext.Succeeds
  cases ctx.deleteError rec.backupId <;> cases ctx.commitError rec.backupId <;>
    simp [Store.deleteFile, Store.deleteRow, ne_comm]

theorem mem_passed_files {key : String} : key ∈ (state.passed ctx rec).store.files ↔
    key ∈ state.store.files ∧
      (ctx.deleteError rec.backupId = none → remoteKey rec.backupId ≠ key) := by
  unfold CleanupState.passed
  cases ctx.deleteError rec.backupId <;> cases ctx.commitError rec.backupId <;>
    simp [Store.deleteFile, Store.deleteRow, ne_comm]

/-! ### The records the loop gets to -/

/-- The records whose file the loop tries to delete. -/
def reached (ctx : CleanupContext) : Bool → List BackupRow → List BackupRow
  | _, [] => []
  | began, rec :: rest => rec :: if ctx.Passes began rec then reached ctx false rest else []

theorem reached_initial : ∀ began (records : List BackupRow),
    reached ctx began records <+: records
  | _, [] => List.prefix_refl _
  | began, rec :: rest => by
      rw [reached]
      refine List.prefix_cons_inj rec |>.mpr ?_
      split
      · exact reached_initial false rest
      · exact List.nil_prefix

/-- The loop gets to what follows a record exactly if it gets past that record. -/
theorem reached_cons_iff (began : Bool) :
    reached ctx began (rec :: records) = rec :: records ↔
      records = [] ∨ ctx.Passes began rec ∧ reached ctx false records = records := by
  rw [reached, List.cons.injEq]
  by_cases hpasses : ctx.Passes began rec
  · rw [if_pos hpasses]
    refine ⟨fun h => Or.inr ⟨hpasses, h.2⟩, ?_⟩
    rintro (rfl | ⟨-, h⟩)
    · exact ⟨rfl, rfl⟩
    · exact ⟨rfl, h⟩
  · rw [if_neg hpasses]
    refine ⟨fun h => Or.inl h.2.symm, ?_⟩
    rintro (rfl | ⟨h, -⟩)
    · exact ⟨rfl, rfl⟩
    · exact absurd h hpasses

theorem reached_false_iff : ∀ records : List BackupRow,
    reached ctx false records = records ↔ ∀ rec ∈ records.dropLast, ctx.Passes false rec
  | [] => by simp [reached]
  | [rec] => by simp [reached_cons_iff]
  | rec :: next :: rest => by
      rw [reached_cons_iff, reached_false_iff (next :: rest), List.dropLast_cons_cons,
        List.forall_mem_cons]
      simp

/-- The loop gets to all of the records exactly if it gets through. -/
theorem reached_eq_iff : reached ctx true records = records ↔ GetsThrough ctx records := by
  cases records with
  | nil => exact ⟨fun _ => ⟨by simp, by simp⟩, fun _ => rfl⟩
  | cons rec rest =>
      -- a transaction has begun for the first record, so only success gets past it
      have hfirst : ctx.Passes true rec ↔ ctx.Succeeds rec := by simp [CleanupContext.Passes]
      rw [reached_cons_iff, reached_false_iff, hfirst]
      constructor
      · intro h
        refine ⟨fun rec' rest' heq hne => ?_, fun rec' hrec' => ?_⟩
        · cases heq
          exact (h.resolve_left hne).1
        · by_cases hrest : rest = []
          · rw [hrest] at hrec'
            cases hrec'
          · obtain ⟨hsucceeds, hothers⟩ := h.resolve_left hrest
            rw [List.dropLast_cons_of_ne_nil hrest] at hrec'
            rcases List.mem_cons.mp hrec' with rfl | hrec'
            · exact Or.inl hsucceeds
            · exact (hothers rec' hrec').imp_right And.right
      · intro h
        by_cases hrest : rest = []
        · exact Or.inl hrest
        · refine Or.inr ⟨h.first rec rest rfl hrest, fun rec' hrec' => ?_⟩
          refine (h.others rec' ?_).imp_right fun hfails => ⟨rfl, hfails⟩
          rw [List.dropLast_cons_of_ne_nil hrest]
          exact List.mem_cons_of_mem _ hrec'

/-! ### The loop -/

/-- What a loop leaves, by the records it got to. -/
structure LoopLeaves (ctx : CleanupContext) (got : List BackupRow) (before after : CleanupState) :
    Prop where
  attempted : after.attempted = before.attempted ++ got.map BackupRow.backupId
  backupRecords : ∀ row, row ∈ after.store.backupRecords ↔ row ∈ before.store.backupRecords ∧
    ∀ rec ∈ got, ctx.Succeeds rec → rec.backupId ≠ row.backupId
  files : ∀ key, key ∈ after.store.files ↔ key ∈ before.store.files ∧
    ∀ rec ∈ got, ctx.deleteError rec.backupId = none → remoteKey rec.backupId ≠ key
  deletedCount : after.deletedCount = before.deletedCount + got.countP (ctx.Succeeds ·)

/-- Where nothing more is got to. -/
theorem loopLeaves_nil : LoopLeaves ctx [] state state :=
  ⟨by simp, by simp, by simp, by simp⟩

/-- A pass, and what the loop leaves after it. -/
theorem LoopLeaves.cons {got : List BackupRow} {after : CleanupState}
    (h : LoopLeaves ctx got (state.passed ctx rec) after) :
    LoopLeaves ctx (rec :: got) state after where
  attempted := by rw [h.attempted, passed_attempted, List.map_cons, List.append_assoc]; rfl
  backupRecords row := by
    rw [h.backupRecords, mem_passed_backupRecords, List.forall_mem_cons, and_assoc]
  files key := by rw [h.files, mem_passed_files, List.forall_mem_cons, and_assoc]
  deletedCount := by
    rw [h.deletedCount, passed_deletedCount, List.countP_cons]
    simp only [decide_eq_true_eq]
    omega

/-- The run of the loop, by induction on the records. -/
theorem cleanupLoop_leaves (records : List BackupRow) (state : CleanupState) :
    LoopLeaves ctx (reached ctx state.began records) state (cleanupLoop ctx records state).2 := by
  induction records generalizing state with
  | nil => exact loopLeaves_nil
  | cons rec rest ih =>
      rw [cleanupLoop_cons, reached]
      split
      case isTrue => exact (passed_began ▸ ih (state.passed ctx rec)).cons
      case isFalse => exact loopLeaves_nil.cons

/-! ### The cleanup -/

theorem remoteKey_injective : Function.Injective remoteKey := by
  intro id id' h
  have hlists := congrArg String.toList h
  simp only [remoteKey, String.toList_append, List.append_cancel_right_eq] at hlists
  exact String.toList_injective hlists

theorem mem_expiredRecords :
    row ∈ expiredRecords ctx store ↔ row ∈ store.backupRecords ∧ ctx.Expired row := by
  simp [expiredRecords, (ctx.scan store.backupRecords).perm.mem_iff]

theorem expiredRecords_nodup (ctx : CleanupContext) (store : Store) :
    (expiredRecords ctx store).Nodup := by
  have horder := (ctx.scan store.backupRecords).perm.nodup_iff.mpr store.uqBackupId.of_map
  exact horder.filter _

/-- A record of the table is told by its identifier. -/
theorem eq_of_backupId {row' : BackupRow} (hrow : row ∈ store.backupRecords)
    (hrow' : row' ∈ store.backupRecords) (h : row.backupId = row'.backupId) : row = row' :=
  List.inj_on_of_nodup_map store.uqBackupId hrow hrow' h

theorem CleanupContext.cutoff_ok {cutoff : Int} (h : ctx.cutoff = .ok cutoff) :
    cutoff = ctx.now - ctx.retentionDays * microsecondsPerDay := by
  unfold CleanupContext.cutoff at h
  split at h
  · cases h
  · dsimp only at h
    split at h
    · cases h
    · exact (Except.ok.inj h).symm

/-- The records a cleanup gets to. -/
def gotTo (ctx : CleanupContext) (store : Store) : List BackupRow :=
  match ctx.cutoff with
  | .error _ => []
  | .ok _ => reached ctx true (expiredRecords ctx store)

theorem gotTo_initial (ctx : CleanupContext) (store : Store) :
    gotTo ctx store <+: expiredRecords ctx store := by
  unfold gotTo
  split
  · exact List.nil_prefix
  · exact reached_initial _ _

/-- The spec of the cleanup. -/
theorem cleanup_leaves (ctx : CleanupContext) (store : Store) :
    LoopLeaves ctx (gotTo ctx store) { store := store } (cleanupExpiredBackups ctx store).2 := by
  unfold cleanupExpiredBackups gotTo
  cases hcutoff : ctx.cutoff with
  | error e => exact loopLeaves_nil
  | ok cutoff =>
      have hexpired : (ctx.scan store.backupRecords).order.filter (·.createdAt < cutoff) =
          expiredRecords ctx store := by rw [CleanupContext.cutoff_ok hcutoff]; rfl
      simp only [hexpired]
      exact cleanupLoop_leaves (expiredRecords ctx store) { store := store }

/-- A cleanup gets to every expired record exactly if it gets its cutoff and gets through. -/
theorem gotTo_eq_iff : gotTo ctx store = expiredRecords ctx store ↔ ReachesAll ctx store := by
  unfold gotTo
  cases hcutoff : ctx.cutoff with
  | ok cutoff =>
      exact reached_eq_iff.trans
        ⟨fun h => ⟨fun _ => ⟨cutoff, hcutoff⟩, h⟩, ReachesAll.through⟩
  | error e =>
      constructor
      · intro h
        refine ⟨fun hne => absurd h.symm hne, ?_⟩
        rw [← h]
        exact ⟨by simp, by simp⟩
      · intro h
        by_contra hne
        obtain ⟨cutoff, hok⟩ := h.cutoff (Ne.symm hne)
        rw [hcutoff] at hok
        cases hok

/-- A record that is not removed with its file keeps the record. -/
theorem mem_cleanup_backupRecords : row ∈ (cleanupExpiredBackups ctx store).2.store.backupRecords ↔
    row ∈ store.backupRecords ∧ ¬(row ∈ gotTo ctx store ∧ ctx.Succeeds row) := by
  rw [(cleanup_leaves ctx store).backupRecords]
  refine and_congr_right fun hrow => ⟨?_, ?_⟩
  · rintro h ⟨hgot, hsucceeds⟩
    exact h row hgot hsucceeds rfl
  · intro h rec hgot hsucceeds hid
    have hrec := (mem_expiredRecords.mp ((gotTo_initial ctx store).subset hgot)).1
    rw [eq_of_backupId hrec hrow hid] at hgot hsucceeds
    exact h ⟨hgot, hsucceeds⟩

/-- The file of a record stays unless it is got to and its deletion succeeds. -/
theorem mem_cleanup_files (hrow : row ∈ store.backupRecords) :
    remoteKey row.backupId ∈ (cleanupExpiredBackups ctx store).2.store.files ↔
      remoteKey row.backupId ∈ store.files ∧
        ¬(row ∈ gotTo ctx store ∧ ctx.deleteError row.backupId = none) := by
  rw [(cleanup_leaves ctx store).files]
  refine and_congr_right fun _ => ⟨?_, ?_⟩
  · rintro h ⟨hgot, hdeletes⟩
    exact h row hgot hdeletes rfl
  · intro h rec hgot hdeletes hkey
    have hrec := (mem_expiredRecords.mp ((gotTo_initial ctx store).subset hgot)).1
    rw [eq_of_backupId hrec hrow (remoteKey_injective hkey)] at hgot hdeletes
    exact h ⟨hgot, hdeletes⟩

/-- A cleanup attempts a record exactly if it gets to it. -/
theorem mem_cleanup_attempted (hrow : row ∈ store.backupRecords) :
    row.backupId ∈ (cleanupExpiredBackups ctx store).2.attempted ↔ row ∈ gotTo ctx store := by
  rw [(cleanup_leaves ctx store).attempted, List.nil_append, List.mem_map]
  constructor
  · rintro ⟨rec, hgot, hid⟩
    have hrec := (mem_expiredRecords.mp ((gotTo_initial ctx store).subset hgot)).1
    rwa [eq_of_backupId hrec hrow hid] at hgot
  · exact fun hgot => ⟨row, hgot, rfl⟩

/-- A cleanup is as it should be exactly if it gets to every expired record. -/
theorem safeAndComplete_iff :
    SafeAndComplete ctx store (cleanupExpiredBackups ctx store).2 ↔
      gotTo ctx store = expiredRecords ctx store := by
  constructor
  · intro h
    have hall : expiredRecords ctx store ⊆ gotTo ctx store := fun row hrow => by
      obtain ⟨hmem, hexpired⟩ := mem_expiredRecords.mp hrow
      exact (mem_cleanup_attempted hmem).mp (h.attempts row hmem hexpired)
    have hlength := (List.subperm_of_subset (expiredRecords_nodup ctx store) hall).length_le
    exact (gotTo_initial ctx store).eq_of_length_le hlength
  · intro h
    refine ⟨fun row hrow hexpired => ?_, fun row => ?_, fun row hrow hkept hfile => ?_⟩
    · rw [mem_cleanup_attempted hrow, h]
      exact mem_expiredRecords.mpr ⟨hrow, hexpired⟩
    · rw [mem_cleanup_backupRecords, h, mem_expiredRecords]
      exact and_congr_right fun hrow => by simp [hrow]
    · rw [mem_cleanup_files hrow, h]
      exact ⟨hfile, fun hgot => hkept (mem_expiredRecords.mp hgot.1).2⟩

/-! ### The run -/

/-- The file of a backup that is done is in the storage. -/
theorem mem_completed_files (run : BackupRun) (store : Store) (size : Nat)
    (checksum location : String) :
    remoteKey run.backupId ∈ (run.completed store size checksum location).files := by
  have huploaded : ∀ store : Store,
      remoteKey run.backupId ∈ (store.upload (remoteKey run.backupId)).files := fun store => by
    unfold Store.upload
    dsimp only
    split
    case isTrue h => exact h
    case isFalse => simp
  unfold BackupRun.completed
  dsimp only
  split
  · exact huploaded _
  · exact huploaded _

/-- What a cleanup does to the file of the run, whether or not it has a record. -/
theorem mem_cleanup_own_file {backupId : String} (hfile : remoteKey backupId ∈ store.files) :
    remoteKey backupId ∈ (cleanupExpiredBackups ctx store).2.store.files ↔
      ∀ row ∈ gotTo ctx store, row.backupId = backupId → ctx.deleteError backupId ≠ none := by
  rw [(cleanup_leaves ctx store).files]
  constructor
  · rintro ⟨-, h⟩ row hgot rfl hdeletes
    exact h row hgot hdeletes rfl
  · refine fun h => ⟨hfile, fun row hgot hdeletes hkey => ?_⟩
    have hid := remoteKey_injective hkey
    exact h row hgot hid (hid ▸ hdeletes)

/-- **A cleanup is safe and complete exactly if it has its cutoff and gets through; one that follows
a backup also leaves that backup alone exactly if that is not expired or its file cannot be
deleted.** -/
theorem retention_holds_iff (run : BackupRun) (store : Store) :
    (SafeAndComplete run.cleanup store (cleanupExpiredBackups run.cleanup store).2 ↔
      ReachesAll run.cleanup store) ∧
    ∀ size checksum location, run.databaseUrl ≠ "" →
      run.backedUp = .ok (size, checksum, location) →
      (RetentionHolds run store size checksum location ↔
        ReachesAll run.cleanup (run.completed store size checksum location) ∧
          OwnSpared run (run.completed store size checksum location)) := by
  refine ⟨safeAndComplete_iff.trans gotTo_eq_iff, fun size checksum location hurl hdone => ?_⟩
  have hafter : (runPostgresBackup run store).2 = (cleanupExpiredBackups run.cleanup
      (run.completed store size checksum location)).2.store := by
    unfold runPostgresBackup
    rw [if_neg hurl, hdone]
  have hfile := mem_completed_files run store size checksum location
  generalize hcompleted : run.completed store size checksum location = completed at hafter hfile
  have hholds : RetentionHolds run store size checksum location ↔
      SafeAndComplete run.cleanup completed (cleanupExpiredBackups run.cleanup completed).2 ∧
        BackupKept run completed (runPostgresBackup run store).2 := by
    rw [← hcompleted]
    exact ⟨fun h => ⟨h.cleanup, h.own⟩, fun h => ⟨h.1, h.2⟩⟩
  rw [hholds, hafter, safeAndComplete_iff, gotTo_eq_iff]
  refine and_congr_right fun hall => ?_
  have hgot := gotTo_eq_iff.mpr hall
  constructor
  · intro hkept row hrow hid hexpired
    have hmem : row ∈ gotTo run.cleanup completed :=
      hgot ▸ mem_expiredRecords.mpr ⟨hrow, hexpired⟩
    exact (mem_cleanup_own_file hfile).mp hkept.file row hmem hid
  · intro hspared
    have hown : ∀ row ∈ gotTo run.cleanup completed, row.backupId = run.backupId →
        run.cleanup.deleteError run.backupId ≠ none := fun row hmem hid => by
      rw [hgot] at hmem
      obtain ⟨hrow, hexpired⟩ := mem_expiredRecords.mp hmem
      exact hspared row hrow hid hexpired
    refine ⟨fun row hrow hid => ?_, (mem_cleanup_own_file hfile).mpr hown⟩
    rw [mem_cleanup_backupRecords]
    refine ⟨hrow, fun ⟨hmem, hsucceeds⟩ => hown row hmem hid ?_⟩
    rw [← hid]
    exact hsucceeds.1

/-- A run on the first of March, with a record of January 1 and one of January 2 in the table. -/
def marchRun (cleanup : CleanupContext) : BackupRun where
  databaseUrl := "postgresql://db/gaiaos"
  backupId := "backup_20260301"
  createdAt := 1772323200000000
  dump := .ok (2048, "ab12")
  upload := .ok "./backups/backup_20260301.sql"
  completedAt := 1772323201000000
  cleanup := cleanup

def winterStore : Store where
  backupRecords := [{ backupId := "backup_20260101", createdAt := 1767225600000000 },
    { backupId := "backup_20260102", createdAt := 1767312000000000 }]
  files := ["backup_20260101.sql", "backup_20260102.sql"]
  uqBackupId := by decide

/-- A cleanup of thirty days on that day, whose query gives the rows as they are stored. -/
def marchCleanup : CleanupContext where
  now := 1772323202000000
  scan rows := ⟨rows, .refl rows⟩

/-- Where every deletion succeeds, the two old backups go and the new one stays. -/
theorem old_backups_removed : RetentionHolds (marchRun marchCleanup) winterStore 2048 "ab12"
    "./backups/backup_20260301.sql" := by
  refine ((retention_holds_iff (marchRun marchCleanup) winterStore).2 _ _ _ (by decide) rfl).mpr
    ⟨⟨fun _ => ⟨_, rfl⟩, ⟨fun rec rest _ _ => ⟨rfl, rfl⟩, fun rec _ => Or.inl ⟨rfl, rfl⟩⟩⟩, ?_⟩
  have hfresh : ∀ row ∈ ((marchRun marchCleanup).completed winterStore 2048 "ab12"
      "./backups/backup_20260301.sql").backupRecords,
      row.backupId = "backup_20260301" → ¬marchCleanup.Expired row := by decide
  exact fun row hrow hid hexpired => absurd hexpired (hfresh row hrow hid)

/-- The file of the first cannot be deleted: the second is not attempted.  Where backups are kept
for no days at all, the one that was just made is gone. -/
theorem failed_deletion_ends_cleanup :
    ¬RetentionHolds (marchRun { marchCleanup with
      deleteError := fun backupId =>
        if backupId = "backup_20260101" then some (.exception "access denied") else none })
      winterStore 2048 "ab12" "./backups/backup_20260301.sql" ∧
    ¬RetentionHolds (marchRun { marchCleanup with retentionDays := 0 })
      winterStore 2048 "ab12" "./backups/backup_20260301.sql" := by
  constructor
  · intro h
    have hattempted := h.cleanup.attempts
      { backupId := "backup_20260102", createdAt := 1767312000000000 } (by decide) (by decide)
    revert hattempted
    decide
  · intro h
    have hfile := h.own.file
    revert hfile
    decide

end BackupRetention

end GaiaOS
