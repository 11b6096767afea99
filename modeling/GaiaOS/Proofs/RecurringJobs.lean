/-
What the scheduler service registers over its restarts, and what its jobs come to.

The registration is idempotent only as long as the set can be read: of each job there is a copy
from the first start that came to it, and one more from each later start whose check failed
(`copies_of_runs`).  A copy keeps the interval or cron string of the start that registered it.

The jobs are registered with their source as an argument.  Three of the functions cannot be
called so, and the restore drill takes it for the id of a backup (`maintenance_of_runs`): no
backup is ever taken on schedule, and every scheduled drill fails for want of a backup of that
id.
-/
import GaiaOS.Lib.Machine
import GaiaOS.Workers.Scheduler
import Mathlib.Data.Fintype.Fin
import Mathlib.Tactic.FinCases

namespace GaiaOS

namespace JobScheduler

open Backup

variable {Row : Type} {repr : Json → String} {checksum : SampleChecksum Row}
variable {s s' : State} {events : List (Event Row)} {jobs : List ScheduledJob}
variable {settings : Settings} {i j : Fin 13}

/-! ### The jobs of `main` -/

/-- The `i`th job of `main`. -/
def target (i : Fin 13) (settings : Settings) : ScheduledJob :=
  (targets settings).get i

/-- A scheduled job is taken for the `i`th of `main`. -/
def isCopy (i : Fin 13) (job : ScheduledJob) : Bool :=
  job.isFor (target i {}).funcName ((target i {}).args.headD "")

theorem target_funcName : (target i settings).funcName = (target i {}).funcName := by
  fin_cases i <;> rfl

theorem target_args : (target i settings).args = (target i {}).args := by
  fin_cases i <;> rfl

theorem target_readable : (target i settings).readable = true := by
  fin_cases i <;> rfl

theorem isCopy_target : isCopy i (target j settings) = decide (i = j) := by
  have hdefaults : ∀ i j : Fin 13, isCopy i (target j {}) = decide (i = j) := by decide +kernel
  rw [← hdefaults i j]
  unfold isCopy ScheduledJob.isFor
  rw [@target_funcName settings j, @target_args settings j]

theorem exists_target_of_mem {job : ScheduledJob} (h : job ∈ targets settings) :
    ∃ i, job = target i settings := by
  obtain ⟨i, hi⟩ := List.get_of_mem h
  exact ⟨i, hi.symm⟩

/-! ### One start -/

theorem findJob_eq_any {funcName source : String} (h : ∀ job ∈ jobs, job.readable = true) :
    findJob funcName source jobs = jobs.any (·.isFor funcName source) := by
  induction jobs with
  | nil => rfl
  | cons job rest ih =>
      have hjob := h job List.mem_cons_self
      have hrest := ih fun other hmem => h other (List.mem_cons_of_mem _ hmem)
      simp [findJob, hjob, hrest]

theorem register_eq (jobs : List ScheduledJob) (check : ScheduledJob × Option PyError) :
    register jobs check = jobs ∨ register jobs check = jobs ++ [check.1] := by
  unfold register
  dsimp only
  generalize isJobAlreadyScheduled _ _ _ = found
  cases found with
  | true => exact .inl rfl
  | false => exact .inr rfl

theorem filter_isCopy_eq_nil : jobs.filter (isCopy i) = [] ↔ jobs.any (isCopy i) = false := by
  rw [List.filter_eq_nil_iff, List.any_eq_false]

/-- A job that cannot be found is registered, and only it. -/
theorem filter_register_own (h : ∀ job ∈ jobs, job.readable = true) (failure : Option PyError) :
    (register jobs (target i settings, failure)).filter (isCopy i) =
      jobs.filter (isCopy i) ++
        if failure.isSome ∨ jobs.filter (isCopy i) = [] then [target i settings] else [] := by
  have hfor : (fun job : ScheduledJob => job.isFor (target i settings).funcName
      ((target i settings).args.headD "")) = isCopy i := by
    funext job
    rw [target_funcName, target_args]
    rfl
  have hself : isCopy i (target i settings) = true := by simp [isCopy_target]
  unfold register
  cases failure with
  | some e => simp [isJobAlreadyScheduled, List.filter_append, hself]
  | none =>
      simp only [isJobAlreadyScheduled, findJob_eq_any h, hfor, filter_isCopy_eq_nil,
        Option.isSome_none, Bool.false_eq_true, false_or]
      by_cases hany : jobs.any (isCopy i) = true
      · simp [hany]
      · simp [hany, List.filter_append, hself]

theorem filter_register_other {job : ScheduledJob} (h : isCopy i job = false)
    (failure : Option PyError) :
    (register jobs (job, failure)).filter (isCopy i) = jobs.filter (isCopy i) := by
  rcases register_eq jobs (job, failure) with heq | heq
  · rw [heq]
  · simp [heq, List.filter_append, h]

theorem filter_foldl_register {items : List (ScheduledJob × Option PyError)} :
    ∀ {jobs : List ScheduledJob}, (∀ item ∈ items, isCopy i item.1 = false) →
      (items.foldl register jobs).filter (isCopy i) = jobs.filter (isCopy i) := by
  induction items with
  | nil =>
      intro jobs _
      rfl
  | cons item items ih =>
      intro jobs h
      rw [List.foldl_cons, ih fun other hmem => h other (List.mem_cons_of_mem _ hmem)]
      exact filter_register_other (h item List.mem_cons_self) item.2

/-- A start adds jobs of its loop at most. -/
theorem mem_foldl_register {items : List (ScheduledJob × Option PyError)} {job : ScheduledJob} :
    ∀ {jobs : List ScheduledJob}, job ∈ items.foldl register jobs →
      job ∈ jobs ∨ ∃ item ∈ items, job = item.1 := by
  induction items with
  | nil =>
      intro jobs h
      exact .inl h
  | cons item items ih =>
      intro jobs h
      rcases ih h with hbefore | ⟨other, hmem, heq⟩
      · rcases register_eq jobs item with hsame | hadded
        · rw [hsame] at hbefore
          exact .inl hbefore
        · rw [hadded, List.mem_append, List.mem_singleton] at hbefore
          rcases hbefore with hold | hnew
          · exact .inl hold
          · exact .inr ⟨item, List.mem_cons_self, hnew⟩
      · exact .inr ⟨other, List.mem_cons_of_mem _ hmem, heq⟩

theorem readable_foldl_register {items : List (ScheduledJob × Option PyError)}
    (hitems : ∀ item ∈ items, item.1 ∈ targets settings)
    (h : ∀ job ∈ jobs, job.readable = true) :
    ∀ job ∈ items.foldl register jobs, job.readable = true := by
  intro job hmem
  rcases mem_foldl_register hmem with hold | ⟨item, hitem, rfl⟩
  · exact h job hold
  · obtain ⟨i, hi⟩ := exists_target_of_mem (hitems item hitem)
    rw [hi]
    exact target_readable

theorem mem_main {checks : List (Option PyError)} {job : ScheduledJob}
    (h : job ∈ main settings checks jobs) : job ∈ jobs ∨ ∃ i, job = target i settings := by
  rcases mem_foldl_register h with hold | ⟨⟨own, check⟩, hmem, rfl⟩
  · exact .inl hold
  · exact .inr (exists_target_of_mem (List.of_mem_zip hmem).1)

/-- The jobs of a start's loop are those of `main` in their order. -/
theorem getElem_zip_eq {checks : List (Option PyError)} {n : Nat}
    (h : n < ((targets settings).zip checks).length) :
    ∃ (hn : n < 13) (hc : n < checks.length),
      ((targets settings).zip checks)[n] = (target ⟨n, hn⟩ settings, checks[n]) := by
  have hlength : ((targets settings).zip checks).length = min 13 checks.length :=
    List.length_zip
  have hn : n < 13 := by omega
  have hc : n < checks.length := by omega
  exact ⟨hn, hc, List.getElem_zip⟩

/-- The copies of a job a start leaves. -/
theorem filter_main (h : ∀ job ∈ jobs, job.readable = true) (checks : List (Option PyError)) :
    (main settings checks jobs).filter (isCopy i) =
      jobs.filter (isCopy i) ++
        (checks[i.val]?.toList.flatMap fun failure =>
          if failure.isSome ∨ jobs.filter (isCopy i) = [] then [target i settings] else []) := by
  let items := (targets settings).zip checks
  have hother : ∀ n (hn : n < items.length), n ≠ i.val → isCopy i items[n].1 = false := by
    intro n hn hne
    obtain ⟨hlt, hc, hitem⟩ := getElem_zip_eq hn
    rw [hitem, isCopy_target]
    exact decide_eq_false fun heq => hne (by rw [heq])
  change (items.foldl register jobs).filter (isCopy i) = _
  by_cases hi : i.val < items.length
  · -- the loop up to the job, the job, and the loop after it
    obtain ⟨hlt, hc, hitem⟩ := getElem_zip_eq hi
    have hbefore : ∀ item ∈ items.take i.val, isCopy i item.1 = false := by
      intro item hmem
      obtain ⟨n, hn, rfl⟩ := List.mem_take_iff_getElem.mp hmem
      exact hother n (by omega) (by omega)
    have hafter : ∀ item ∈ items.drop (i.val + 1), isCopy i item.1 = false := by
      intro item hmem
      obtain ⟨n, hn, rfl⟩ := List.mem_drop_iff_getElem.mp hmem
      exact hother _ (by omega) (by omega)
    have hreadable : ∀ job ∈ (items.take i.val).foldl register jobs, job.readable = true :=
      readable_foldl_register
        (fun item hmem => (List.of_mem_zip (List.mem_of_mem_take hmem)).1) h
    rw [← List.take_append_drop i.val items, List.foldl_append, List.drop_eq_getElem_cons hi,
      List.foldl_cons, filter_foldl_register hafter, hitem, filter_register_own hreadable,
      filter_foldl_register hbefore, List.getElem?_eq_getElem hc]
    simp
  · have hnone : checks[i.val]? = none := by
      have hlength : items.length = min 13 checks.length := List.length_zip
      exact List.getElem?_eq_none (by omega)
    rw [hnone, filter_foldl_register]
    · simp
    · intro item hmem
      obtain ⟨n, hn, rfl⟩ := List.mem_iff_getElem.mp hmem
      exact hother n hn (by omega)

/-! ### Runs of starts -/

/-- The starts that came to the `i`th job: their settings, and whether the check failed. -/
def startsAt (i : Fin 13) (events : List (Event Row)) : List (Settings × Bool) :=
  events.filterMap fun event =>
    match event with
    | .start settings checks => checks[i.val]?.map fun failure => (settings, failure.isSome)
    | _ => none

/-- The settings of those starts that register the job. -/
def registering : List (Settings × Bool) → List Settings
  | [] => []
  | first :: later => first.1 :: (later.filter Prod.snd).map Prod.fst

theorem registering_append (starts : List (Settings × Bool)) (start : Settings × Bool) :
    registering (starts ++ [start]) =
      registering starts ++
        if start.2 = true ∨ registering starts = [] then [start.1] else [] := by
  cases starts with
  | nil => simp [registering]
  | cons first later =>
      by_cases hfailed : start.2 = true <;> simp [registering, List.filter_append, hfailed]

/-- No scheduled job becomes unreadable, and nobody else schedules a job that `main` takes for one
of its own. -/
def Undisturbed (_ : State) : Event Row → Prop
  | .schedule job => job.readable = true ∧ ∀ i, isCopy i job = false
  | .corrupt _ => False
  | _ => True

instance (s : State) (event : Event Row) : Decidable (Undisturbed s event) := by
  unfold Undisturbed
  split <;> infer_instance

/-- The copies that are scheduled, in any order. -/
def Copies (s : State) (i : Fin 13) (registrations : List Settings) : Prop :=
  (s.jobs.filter (isCopy i)).Perm (registrations.map (target i))

theorem Copies.of_jobs {registrations : List Settings} (h : Copies s i registrations)
    (hjobs : s'.jobs = s.jobs) : Copies s' i registrations := by
  unfold Copies
  rw [hjobs]
  exact h

theorem Copies.start {starts : List (Settings × Bool)} (h : Copies s i (registering starts))
    (hreadable : ∀ job ∈ s.jobs, job.readable = true) (checks : List (Option PyError)) :
    Copies { s with jobs := main settings checks s.jobs } i
      (registering (starts ++
        (checks[i.val]?.map fun failure => (settings, failure.isSome)).toList)) := by
  have hnil : s.jobs.filter (isCopy i) = [] ↔ registering starts = [] := by
    rw [← List.length_eq_zero_iff, h.length_eq, List.length_map, List.length_eq_zero_iff]
  unfold Copies at h ⊢
  rw [filter_main hreadable]
  cases hcheck : checks[i.val]? with
  | none => simpa using h
  | some failure =>
      simp only [Option.map_some, Option.toList_some, registering_append, List.map_append,
        List.flatMap_cons, List.flatMap_nil, List.append_nil, hnil]
      refine List.Perm.append h ?_
      split <;> exact List.Perm.refl _

/-- What an event other than a start does to the scheduled jobs. -/
theorem jobs_of_step {event : Event Row} (hstep : step repr checksum s event = some s')
    (hstart : ∀ settings checks, event ≠ .start settings checks)
    (hcorrupt : ∀ index, event ≠ .corrupt index) :
    s'.jobs.Perm s.jobs ∨ ∃ job, event = .schedule job ∧ s'.jobs = s.jobs ++ [job] := by
  cases event with
  | start settings checks => exact absurd rfl (hstart settings checks)
  | schedule job =>
      simp only [step, Option.some.injEq] at hstep
      exact .inr ⟨job, rfl, by rw [← hstep]⟩
  | reorder jobs =>
      simp only [step] at hstep
      split at hstep
      · rename_i hperm
        cases hstep
        exact .inl (List.isPerm_iff.mp hperm)
      · cases hstep
  | corrupt index => exact absurd rfl (hcorrupt index)
  | due index suffix record latest run =>
      left
      simp only [step] at hstep
      split at hstep
      · cases hstep
      · split at hstep <;> cases hstep <;> exact List.Perm.refl _
  | backup suffix record =>
      simp only [step, Option.some.injEq] at hstep
      exact .inl (by rw [← hstep]; exact List.Perm.refl _)

theorem readable_of_runs (h : Reaches (step repr checksum) Undisturbed {} events s) :
    ∀ job ∈ s.jobs, job.readable = true := by
  have hstart : ∀ job ∈ ({} : State).jobs, job.readable = true := List.forall_mem_nil _
  refine @Reaches.invariant _ _ _ _ _ _ _ (fun s => ∀ job ∈ s.jobs, job.readable = true) hstart
    (fun s event s' hreadable hallowed hstep => ?_) h
  cases event with
  | start settings checks =>
      simp only [step, Option.some.injEq] at hstep
      rw [← hstep]
      exact readable_foldl_register (fun _ hmem => (List.of_mem_zip hmem).1) hreadable
  | corrupt index => exact hallowed.elim
  | schedule job =>
      simp only [step, Option.some.injEq] at hstep
      rw [← hstep]
      intro other hmem
      rcases List.mem_append.mp hmem with hold | hnew
      · exact hreadable other hold
      · rw [List.mem_singleton.mp hnew]
        exact hallowed.1
  | reorder _ | due _ _ _ _ _ | backup _ _ =>
      rcases jobs_of_step hstep (by simp) (by simp) with hperm | ⟨job, hcontra, -⟩
      · exact fun job hmem => hreadable job (hperm.mem_iff.mp hmem)
      · cases hcontra

/-- The copies of a job after any run in which the set stays readable: one from the first start
that came to the job and one from each later start that could not read the set, with the settings
of these starts. -/
theorem copies_of_runs (h : Reaches (step repr checksum) Undisturbed {} events s) (i : Fin 13) :
    (s.jobs.filter (isCopy i)).Perm ((registering (startsAt i events)).map (target i)) := by
  change Copies s i (registering (startsAt i events))
  induction h with
  | start => exact List.Perm.refl _
  | @next events s s' event run hallowed hstep ih =>
      unfold startsAt at ih ⊢
      rw [List.filterMap_append]
      cases event with
      | start settings checks =>
          simp only [step, Option.some.injEq] at hstep
          rw [← hstep]
          exact ih.start (readable_of_runs run) checks
      | corrupt index => exact hallowed.elim
      | schedule job =>
          simp only [step, Option.some.injEq] at hstep
          have hother : isCopy i job = false := hallowed.2 i
          rw [← hstep]
          simpa [Copies, List.filter_append, hother] using ih
      | reorder _ | due _ _ _ _ _ | backup _ _ =>
          rcases jobs_of_step hstep (by simp) (by simp) with hperm | ⟨job, hcontra, -⟩
          · simpa [Copies] using (hperm.filter _).trans ih
          · cases hcontra

/-- Three starts, the second under other settings and the third unable to read the set at its
first job. -/
def sampleStarts : List (Event Unit) :=
  [.start {} (List.replicate 13 none),
    .start { ingestionPollIntervalHours := 6 } (List.replicate 13 none),
    .start { ingestionPollIntervalHours := 2 } (some (.exception "ConnectionError") ::
      List.replicate 12 none)]

/-- The first job is scheduled twice then, and never under the settings of the second start. -/
theorem sampleStarts_copies :
    ∃ s : State, (s.jobs.filter (isCopy 0)).Perm
      [target 0 {}, target 0 { ingestionPollIntervalHours := 2 }] := by
  let repr : Json → String := fun _ => ""
  let checksum : SampleChecksum Unit := ⟨fun _ => "0", by simp⟩
  have hrun : (runAllowed (step repr checksum) Undisturbed sampleStarts {}).isSome := by
    decide +kernel
  obtain ⟨s, hs⟩ := Option.isSome_iff_exists.mp hrun
  exact ⟨s, copies_of_runs (Reaches.of_runAllowed hs) 0⟩

/-! ### Executions -/

/-- Somebody else schedules jobs with functions of their own at most. -/
def Reserved (_ : State) : Event Row → Prop
  | .schedule job => job.readable = true ∧ ∀ i, job.funcName ≠ (target i {}).funcName
  | .corrupt _ => False
  | _ => True

instance (s : State) (event : Event Row) : Decidable (Reserved s event) := by
  unfold Reserved
  split <;> infer_instance

/-- A job of `main` under some settings, or one with a function it does not schedule. -/
def Known (job : ScheduledJob) : Prop :=
  (∃ i settings, job = target i settings) ∨ ∀ i, job.funcName ≠ (target i {}).funcName

/-- The jobs whose function cannot be called as it is registered: the backup, the scaling
telemetry and the calibration. -/
def uncallable : List (Fin 13) := [7, 10, 11]

/-- A call ran the backup. -/
def backsUp : Except PyError Entry → Bool
  | .ok .postgresBackup => true
  | _ => false

/-- The backup a call of the drill is for. -/
def drillOf : Except PyError Entry → Option (Option String)
  | .ok (.restoreDrill backupId) => some backupId
  | _ => none

/-- What comes of calling the `i`th job of `main`. -/
theorem perform_target (i : Fin 13) (settings : Settings) :
    let result := perform (target i settings).funcName (target i settings).args
    result.isOk = decide (i ∉ uncallable) ∧ backsUp result = false ∧
      drillOf result = if i = 8 then some (some "restore_drill") else none := by
  rw [target_funcName, target_args]
  revert i
  decide +kernel

theorem perform_other {funcName : String} (h : ∀ i, funcName ≠ (target i {}).funcName)
    (args : List String) : perform funcName args = .ok (.other funcName) := by
  unfold perform
  split
  · exact absurd rfl (h 0)
  · exact absurd rfl (h 5)
  · exact absurd rfl (h 6)
  · exact absurd rfl (h 7)
  · exact absurd rfl (h 8)
  · exact absurd rfl (h 9)
  · exact absurd rfl (h 10)
  · exact absurd rfl (h 11)
  · exact absurd rfl (h 12)
  · rfl

/-- The record a drill of the backup `restore_drill` leaves. -/
def scheduledDrill : RestoreDrillRecord where
  backupId := "restore_drill"
  status := .failed
  errorDetails :=
    some "No successful backup found for restore drill (requested backup_id=restore_drill)"

theorem restoreDrill_eq (h : ∀ record ∈ s.backups, record.backupId ≠ "restore_drill")
    (latest : Option BackupRecord) (run : DrillRun Row) :
    s.restoreDrill repr checksum (some "restore_drill") latest run = scheduledDrill := by
  have hnone : s.backups.find? (fun record => record.backupId == "restore_drill") = none := by
    rw [List.find?_eq_none]
    intro record hmem
    simpa using h record hmem
  have hrequested : (some "restore_drill").filter (fun backupId => decide (backupId ≠ "")) =
      some "restore_drill" := by decide
  unfold State.restoreDrill runRestoreDrill
  simp only [hrequested, hnone, Option.filter_none]
  rfl

/-- A due job that takes no backup, in one equation. -/
theorem due_eq {index : Nat} {job : ScheduledJob} {suffix : String} {record : BackupRecord}
    {latest : Option BackupRecord} {run : DrillRun Row} (hjob : s.jobs[index]? = some job)
    (hreadable : job.readable = true) (hbackup : backsUp (perform job.funcName job.args) = false) :
    step repr checksum s (.due index suffix record latest run) =
      some { s with
        executions := s.executions ++ [⟨job, perform job.funcName job.args⟩]
        drills := s.drills ++ ((drillOf (perform job.funcName job.args)).map fun backupId =>
          s.restoreDrill repr checksum backupId latest run).toList } := by
  simp only [step, hjob, hreadable, if_true]
  generalize perform job.funcName job.args = result at hbackup
  match result, hbackup with
  | .error _, _ | .ok (.ingestion _), _ | .ok (.literatureIngestion _), _
  | .ok .alertEvaluation, _ | .ok (.scalingSummary _), _ | .ok .calibration, _
  | .ok (.patternMining _), _ | .ok (.other _), _ => simp [drillOf]
  | .ok (.restoreDrill backupId), _ => rfl

/-- The backups that were taken by hand. -/
def byHand (events : List (Event Row)) : List BackupRecord :=
  events.filterMap fun event =>
    match event with
    | .backup suffix record => some { record with backupId := "backup_" ++ suffix }
    | _ => none

theorem backupId_of_byHand {record : BackupRecord} (h : record ∈ byHand events) :
    record.backupId ≠ "restore_drill" := by
  obtain ⟨event, -, hevent⟩ := List.mem_filterMap.mp h
  split at hevent
  · cases hevent
    intro heq
    have hchars := congrArg String.toList heq
    simp at hchars
  · cases hevent

/-- What the scheduler and the workers have brought about. -/
structure Settled (events : List (Event Row)) (s : State) : Prop where
  known : ∀ job ∈ s.jobs, Known job ∧ job.readable = true
  backups : s.backups = byHand events
  drills : s.drills =
    List.replicate (s.executions.countP fun x => isCopy 8 x.job) scheduledDrill
  results : ∀ x ∈ s.executions, ∀ i settings, x.job = target i settings →
    x.result.isOk = decide (i ∉ uncallable)

/-- An event that runs nothing and backs nothing up. -/
theorem Settled.of_jobs {event : Event Row} (h : Settled events s)
    (hjobs : ∀ job ∈ s'.jobs, Known job ∧ job.readable = true)
    (hbyHand : byHand (events ++ [event]) = byHand events) (hbackups : s'.backups = s.backups)
    (hdrills : s'.drills = s.drills) (hexecutions : s'.executions = s.executions) :
    Settled (events ++ [event]) s' where
  known := hjobs
  backups := by rw [hbackups, h.backups, hbyHand]
  drills := by rw [hdrills, hexecutions, h.drills]
  results := by
    rw [hexecutions]
    exact h.results

theorem isCopy_of_foreign {job : ScheduledJob} (h : ∀ i, job.funcName ≠ (target i {}).funcName)
    (i : Fin 13) : isCopy i job = false := by
  simp [isCopy, ScheduledJob.isFor, h i]

/-- What a job that is known comes to. -/
theorem perform_of_known {job : ScheduledJob} (h : Known job) :
    backsUp (perform job.funcName job.args) = false ∧
      drillOf (perform job.funcName job.args) =
        if isCopy 8 job then some (some "restore_drill") else none := by
  rcases h with ⟨i, settings, rfl⟩ | hforeign
  · obtain ⟨-, hbackup, hdrill⟩ := perform_target i settings
    refine ⟨hbackup, ?_⟩
    rw [hdrill]
    by_cases hi : 8 = i
    · simp [isCopy_target, ← hi]
    · simp [isCopy_target, hi, Ne.symm hi]
  · rw [perform_other hforeign, isCopy_of_foreign hforeign]
    exact ⟨rfl, rfl⟩

theorem Settled.due (h : Settled events s) {index : Nat} {suffix : String} {record : BackupRecord}
    {latest : Option BackupRecord} {run : DrillRun Row}
    (hstep : step repr checksum s (.due index suffix record latest run) = some s') :
    Settled (events ++ [.due index suffix record latest run]) s' := by
  cases hjob : s.jobs[index]? with
  | none =>
      simp only [step, hjob] at hstep
      cases hstep
  | some job =>
      have hmem : job ∈ s.jobs := List.mem_of_getElem? hjob
      obtain ⟨hknown, hreadable⟩ := h.known job hmem
      obtain ⟨hbackup, hdrill⟩ := perform_of_known hknown
      rw [due_eq hjob hreadable hbackup, Option.some.injEq] at hstep
      have hnone : ∀ record ∈ s.backups, record.backupId ≠ "restore_drill" := by
        rw [h.backups]
        exact fun record hrecord => backupId_of_byHand hrecord
      rw [← hstep]
      refine ⟨h.known, ?_, ?_, ?_⟩
      · rw [h.backups]
        simp [byHand]
      · dsimp only
        rw [hdrill, h.drills, List.countP_append]
        by_cases hcopy : isCopy 8 job = true
        · simp [hcopy, restoreDrill_eq hnone, List.replicate_succ']
        · simp [hcopy]
      · intro x hx i settings heq
        rcases List.mem_append.mp hx with hold | hnew
        · exact h.results x hold i settings heq
        · rw [List.mem_singleton] at hnew
          subst hnew
          obtain rfl : job = target i settings := heq
          exact (perform_target i settings).1

theorem settled_of_runs (h : Reaches (step repr checksum) Reserved {} events s) :
    Settled events s := by
  induction h with
  | start => exact ⟨List.forall_mem_nil _, rfl, rfl, List.forall_mem_nil _⟩
  | @next events s s' event run hallowed hstep ih =>
      cases event with
      | start settings checks =>
          simp only [step, Option.some.injEq] at hstep
          subst hstep
          refine ih.of_jobs (fun job hmem => ?_) (by simp [byHand]) rfl rfl rfl
          rcases mem_main hmem with hold | ⟨i, rfl⟩
          · exact ih.known job hold
          · exact ⟨.inl ⟨i, settings, rfl⟩, target_readable⟩
      | schedule job =>
          simp only [step, Option.some.injEq] at hstep
          subst hstep
          refine ih.of_jobs (fun other hmem => ?_) (by simp [byHand]) rfl rfl rfl
          rcases List.mem_append.mp hmem with hold | hnew
          · exact ih.known other hold
          · rw [List.mem_singleton.mp hnew]
            exact ⟨.inr hallowed.2, hallowed.1⟩
      | reorder jobs =>
          simp only [step] at hstep
          split at hstep
          · rename_i hperm
            cases hstep
            refine ih.of_jobs (fun job hmem => ?_) (by simp [byHand]) rfl rfl rfl
            exact ih.known job ((List.isPerm_iff.mp hperm).mem_iff.mp hmem)
          · cases hstep
      | corrupt index => exact hallowed.elim
      | due index suffix record latest run => exact ih.due hstep
      | backup suffix record =>
          simp only [step, Option.some.injEq] at hstep
          subst hstep
          refine ⟨ih.known, ?_, ih.drills, ih.results⟩
          simp [State.postgresBackup, ih.backups, byHand]

/-- However often the jobs are registered and run, and whatever is in the way of a drill: only
backups by hand come into the table, every scheduled drill leaves the same failure, and the
backup, the scaling telemetry and the calibration are the jobs that raise when they are
called. -/
theorem maintenance_of_runs (h : Reaches (step repr checksum) Reserved {} events s) :
    s.backups = byHand events ∧
      s.drills = List.replicate (s.executions.countP fun x => isCopy 8 x.job) scheduledDrill ∧
      ∀ x ∈ s.executions, ∀ i settings, x.job = target i settings →
        x.result.isOk = decide (i ∉ uncallable) := by
  have hsettled := settled_of_runs h
  exact ⟨hsettled.backups, hsettled.drills, hsettled.results⟩

/-- A start, a backup by hand, and the drill and the backup on schedule. -/
def sampleMaintenance : List (Event Unit) :=
  let record : BackupRecord := ⟨"", .success, "", .null⟩
  let run : DrillRun Unit :=
    { record := none
      download := .ok ""
      psql := { inputPath := "/tmp/dump.sql", target := ⟨"", none, fun _ => none⟩ } }
  [.start {} (List.replicate 13 none), .backup "20260101" record, .due 8 "" record record run,
    .due 7 "" record record run]

theorem sampleMaintenance_fruitless :
    ∃ s : State, (∃ record, s.backups = [record]) ∧ s.drills = [scheduledDrill] ∧
      ∀ x ∈ s.executions, x.job = target 7 {} → x.result.isOk = false := by
  let repr : Json → String := fun _ => ""
  let checksum : SampleChecksum Unit := ⟨fun _ => "0", by simp⟩
  have hrun : ((runAllowed (step repr checksum) Reserved sampleMaintenance {}).map fun s =>
      s.executions.countP fun x => isCopy 8 x.job) = some 1 := by
    decide +kernel
  obtain ⟨s, hs, hcount⟩ := Option.map_eq_some_iff.mp hrun
  obtain ⟨hbackups, hdrills, hresults⟩ := maintenance_of_runs (Reaches.of_runAllowed hs)
  rw [hcount] at hdrills
  exact ⟨s, ⟨_, hbackups⟩, hdrills, fun x hx heq => hresults x hx 7 {} heq⟩

end JobScheduler

end GaiaOS
