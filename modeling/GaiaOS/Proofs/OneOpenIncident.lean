/-
At most one open incident under a name.

Nothing in the tables keeps two incidents from being open under one name.  A job looks the
name up in one transaction and opens an incident in the next, and what it found may be out of
date by then; two jobs that both found nothing open one each.  From then on the lookup raises,
in every job that comes to it.

What keeps it from happening is that no name is looked up while some job stands between its
own lookup of that name, which found nothing, and the incident it is about to open (`Apart`).
Under it the names that are about to be opened are all different and have nothing open yet
(`OneOpen`).
-/
import GaiaOS.Proofs.AlertWork

namespace GaiaOS

namespace AlertJob

open Alerting AlertRepository

/-- The number of incidents open under a name. -/
def openCount (db : AlertDb) (name : String) : Nat := (openIncidents db name).length

/-- The name an incident is about to be opened under. -/
def Phase.pending : Phase → Option String
  | .found work none _ _ => some work.name
  | _ => none

/-- The name that is about to be looked up. -/
def Phase.lookup : Phase → Option String
  | .working (work :: _) _ => some work.name
  | _ => none

def Phase.isRaised : Phase → Bool
  | .raised _ => true
  | _ => false

/-- The names under which some job is about to open an incident. -/
def pendingNames (jobs : List Job) : List String := jobs.filterMap (·.phase.pending)

/-- The call does not look up a name under which an incident is about to be opened. -/
def Apart (s : Jobs) (i : Nat) : Prop :=
  ∀ name ∈ ((s.jobs[i]?).bind (·.phase.lookup)).toList, name ∉ pendingNames s.jobs

instance (s : Jobs) (i : Nat) : Decidable (Apart s i) :=
  inferInstanceAs (Decidable (∀ name ∈ ((s.jobs[i]?).bind (·.phase.lookup)).toList, _))

/-! ### A call -/

section Calls

variable {setup : Setup} {cycle : Cycle} {run run' : Run} {phase phase' : Phase} {name : String}

theorem openCount_openIncident (opened : NewIncident) (now : Int) (firing : AlertFiring)
    (due : Bool) (name : String) :
    openCount (run.openIncident opened now firing due).db name =
      openCount run.db name + if opened.ruleName = name then 1 else 0 := by
  unfold openCount
  rw [openIncident_db, openIncidents_createIncident, List.length_append]
  split
  · rfl
  · rfl

theorem openCount_updateIncident (incident : AlertIncident) (firing : AlertFiring) (due : Bool)
    (name : String) :
    openCount (run.updateIncident incident firing due).db name = openCount run.db name := by
  unfold openCount
  rw [openIncidents_updateIncident, List.length_map]

theorem openCount_resolveCleared (clock : Clock) (allFirings : Dict String AlertFiring)
    (incident : AlertIncident) (name : String) :
    openCount (resolveCleared clock allFirings run incident).db name ≤ openCount run.db name := by
  rcases resolveCleared_db clock allFirings run incident with hdb | hdb
  · rw [hdb]
  · rw [hdb]
    unfold openCount
    rw [openIncidents_markResolved]
    exact List.length_filter_le _ _

/-- A call that neither looks up a name nor opens an incident. -/
structure Aside (run run' : Run) (phase phase' : Phase) : Prop where
  lookup : phase.lookup = none
  pending : phase.pending = none
  pending' : phase'.pending = none
  raised' : phase'.isRaised = false
  count : ∀ name, openCount run'.db name ≤ openCount run.db name

/-- A lookup of a name under which at most one is open. -/
structure LooksUp (name : String) (run run' : Run) (phase phase' : Phase) : Prop where
  lookup : phase.lookup = some name
  pending : phase.pending = none
  run' : run' = run
  found : openCount run.db name ≤ 1 → phase'.isRaised = false ∧
    phase'.pending = if openCount run.db name = 0 then some name else none

/-- A call that opens an incident. -/
structure Opens (name : String) (run run' : Run) (phase phase' : Phase) : Prop where
  lookup : phase.lookup = none
  pending : phase.pending = some name
  pending' : phase'.pending = none
  raised' : phase'.isRaised = false
  count : ∀ other,
    openCount run'.db other = openCount run.db other + if name = other then 1 else 0

theorem aside_of_incidents (hincidents : run'.db.incidents = run.db.incidents)
    (hlookup : phase.lookup = none) (hpending : phase.pending = none)
    (hpending' : phase'.pending = none) (hraised : phase'.isRaised = false) :
    Aside run run' phase phase' := by
  refine ⟨hlookup, hpending, hpending', hraised, fun name => ?_⟩
  unfold openCount openIncidents
  rw [hincidents]

theorem looksUp_working {work : Work} {todo : List Work} {allFirings : Dict String AlertFiring}
    (h : Phase.call setup cycle run (.working (work :: todo) allFirings) = some (run', phase')) :
    LooksUp work.name run run' (.working (work :: todo) allFirings) phase' := by
  simp only [Phase.call] at h
  split at h
  · rename_i e herror
    cases h
    refine ⟨rfl, rfl, rfl, fun hcount => ?_⟩
    rw [getOpen_of_one hcount] at herror
    cases herror
  · rename_i found hfound
    cases h
    refine ⟨rfl, rfl, rfl, fun hcount => ⟨rfl, ?_⟩⟩
    rw [getOpen_of_one hcount] at hfound
    cases hfound
    unfold openCount
    cases openIncidents run.db work.name with
    | nil => rfl
    | cons incident rest => rfl

/-- What a call does. -/
theorem call_cases (h : phase.call setup cycle run = some (run', phase')) :
    Aside run run' phase phase' ∨ (∃ name, LooksUp name run run' phase phase') ∨
      ∃ name, Opens name run run' phase phase' := by
  cases phase with
  | listing =>
      refine Or.inl ?_
      simp only [Phase.call] at h
      split at h
      · cases h
        exact aside_of_incidents rfl rfl rfl rfl rfl
      · cases h
        exact aside_of_incidents rfl rfl rfl rfl rfl
  | seeding schemas =>
      refine Or.inl ?_
      cases schemas with
      | nil =>
          cases h
          exact aside_of_incidents rfl rfl rfl rfl rfl
      | cons schema schemas =>
          cases h
          exact aside_of_incidents rfl rfl rfl rfl rfl
  | working todo allFirings =>
      cases todo with
      | nil =>
          cases h
          exact Or.inl (aside_of_incidents rfl rfl rfl rfl rfl)
      | cons work todo => exact Or.inr (Or.inl ⟨work.name, looksUp_working h⟩)
  | found work incident todo allFirings =>
      cases incident with
      | none =>
          cases h
          refine Or.inr (Or.inr ⟨work.name, rfl, rfl, rfl, rfl, fun other => ?_⟩)
          rw [openCount_openIncident, work.opened_ruleName]
      | some incident =>
          cases h
          refine Or.inl ⟨rfl, rfl, rfl, rfl, fun name => ?_⟩
          rw [openCount_updateIncident]
  | resolving incidents allFirings =>
      cases incidents with
      | nil => cases h
      | cons incident incidents =>
          cases h
          exact Or.inl ⟨rfl, rfl, rfl, rfl, openCount_resolveCleared _ _ incident⟩
  | raised e => cases h

end Calls

/-! ### Any order of calls -/

/-- At most one incident is open under each name, none under a name about to be opened, and
those names are all different. -/
structure OneOpen (s : Jobs) : Prop where
  one_open : ∀ name, openCount s.run.db name ≤ 1
  pending_none : ∀ name ∈ pendingNames s.jobs, openCount s.run.db name = 0
  pending_nodup : (pendingNames s.jobs).Nodup
  not_raised : ∀ job ∈ s.jobs, job.phase.isRaised = false

section Runs

variable {setup : Setup} {s s' : Jobs} {i : Nat}

theorem pendingNames_split (before after : List Job) (job : Job) :
    pendingNames (before ++ job :: after) =
      pendingNames before ++ (job.phase.pending.toList ++ pendingNames after) := by
  unfold pendingNames
  rw [List.filterMap_append, List.filterMap_cons]
  cases job.phase.pending with
  | none => rfl
  | some name => rfl

/-- A step is a call of one of the jobs. -/
theorem step_cases (h : s.step setup i = some s') :
    ∃ before job after phase', s.jobs = before ++ job :: after ∧ s.jobs[i]? = some job ∧
      job.phase.call setup job.cycle s.run = some (s'.run, phase') ∧
      s'.jobs = before ++ { job with phase := phase' } :: after := by
  unfold Jobs.step at h
  split at h
  · cases h
  · rename_i job hjob
    obtain ⟨next, hcall, rfl⟩ := Option.map_eq_some_iff.mp h
    obtain ⟨hlt, rfl⟩ := List.getElem?_eq_some_iff.mp hjob
    obtain ⟨before, after, hsplit, -, hset⟩ := List.exists_of_set hlt
    exact ⟨before, _, after, next.2, hsplit, hjob, hcall, hset⟩

/-- At most one of each name is counted, and none of those that are reserved, each once. -/
structure Reserved (count : String → Nat) (names : List String) : Prop where
  one : ∀ name, count name ≤ 1
  none : ∀ name ∈ names, count name = 0
  nodup : names.Nodup

section Reserved

variable {count count' : String → Nat} {names before after : List String} {name : String}

theorem Reserved.fewer (h : Reserved count names) (hle : ∀ name, count' name ≤ count name) :
    Reserved count' names where
  one name := (hle name).trans (h.one name)
  none name hname := Nat.le_zero.mp ((hle name).trans (Nat.le_of_eq (h.none name hname)))
  nodup := h.nodup

/-- A name that is not counted can be reserved. -/
theorem Reserved.reserve (h : Reserved count (before ++ after)) (hzero : count name = 0)
    (hfresh : name ∉ before ++ after) : Reserved count (before ++ name :: after) where
  one := h.one
  none other hother := by
    rcases List.mem_cons.mp (List.perm_middle.mem_iff.mp hother) with rfl | hother
    · exact hzero
    · exact h.none other hother
  nodup := List.nodup_middle.mpr (List.nodup_cons.mpr ⟨hfresh, h.nodup⟩)

/-- A name that is reserved can be counted. -/
theorem Reserved.fill (h : Reserved count (before ++ name :: after)) :
    Reserved (fun other => count other + if name = other then 1 else 0) (before ++ after) := by
  have hzero : count name = 0 := h.none name (by simp)
  obtain ⟨hfresh, hnodup⟩ := List.nodup_cons.mp (List.nodup_middle.mp h.nodup)
  refine ⟨fun other => ?_, fun other hother => ?_, hnodup⟩
  · by_cases heq : name = other
    · rw [if_pos heq, ← heq, hzero]
    · rw [if_neg heq]
      exact h.one other
  · have hne : name ≠ other := by
      intro heq
      exact hfresh (heq ▸ hother)
    rw [if_neg hne]
    exact h.none other (List.perm_middle.mem_iff.mpr (List.mem_cons_of_mem _ hother))

end Reserved

theorem OneOpen.reserved (h : OneOpen s) : Reserved (openCount s.run.db) (pendingNames s.jobs) :=
  ⟨h.one_open, h.pending_none, h.pending_nodup⟩

/-- A call keeps the names of the incidents that are open or about to be opened apart. -/
theorem Reserved.after_call {before after : List String} {run run' : Run} {phase phase' : Phase}
    (h : Reserved (openCount run.db) (before ++ (phase.pending.toList ++ after)))
    (hapart : ∀ name ∈ phase.lookup.toList, name ∉ before ++ (phase.pending.toList ++ after))
    (hcall : phase.call setup cycle run = some (run', phase')) :
    phase'.isRaised = false ∧
      Reserved (openCount run'.db) (before ++ (phase'.pending.toList ++ after)) := by
  rcases call_cases hcall with haside | ⟨name, hlooks⟩ | ⟨name, hopens⟩
  · rw [haside.pending] at h
    rw [haside.pending']
    exact ⟨haside.raised', h.fewer haside.count⟩
  · obtain ⟨hcalm, hpending'⟩ := hlooks.found (h.one name)
    have hfresh := hapart name (by rw [hlooks.lookup]; exact List.mem_singleton_self name)
    rw [hlooks.pending] at h hfresh
    rw [hlooks.run', hpending']
    refine ⟨hcalm, ?_⟩
    split
    · rename_i hzero
      exact h.reserve hzero hfresh
    · exact h
  · rw [hopens.pending] at h
    rw [hopens.pending']
    exact ⟨hopens.raised', h.fill.fewer fun other => Nat.le_of_eq (hopens.count other)⟩

/-- The step lemma. -/
theorem OneOpen.step (h : OneOpen s) (hapart : Apart s i) (hstep : s.step setup i = some s') :
    OneOpen s' := by
  obtain ⟨before, job, after, phase', hjobs, hjob, hcall, hjobs'⟩ := step_cases hstep
  have hreserved := h.reserved
  unfold Apart at hapart
  rw [hjob, Option.bind_some] at hapart
  rw [hjobs, pendingNames_split] at hreserved hapart
  obtain ⟨hcalm, hreserved'⟩ := hreserved.after_call hapart hcall
  have hpending' := pendingNames_split before after { job with phase := phase' }
  refine ⟨hreserved'.one, ?_, ?_, fun other hother => ?_⟩
  · rw [hjobs', hpending']
    exact hreserved'.none
  · rw [hjobs', hpending']
    exact hreserved'.nodup
  · rw [hjobs'] at hother
    rcases List.mem_cons.mp (List.perm_middle.mem_iff.mp hother) with rfl | hother
    · exact hcalm
    · refine h.not_raised other ?_
      rw [hjobs]
      exact List.perm_middle.mem_iff.mpr (List.mem_cons_of_mem _ hother)

theorem oneOpen_start {run : Run} (hrun : ∀ name, openCount run.db name ≤ 1) {jobs : List Job}
    (hjobs : ∀ job ∈ jobs, job.phase = .listing) : OneOpen ⟨run, jobs⟩ := by
  have hpending : pendingNames jobs = [] := by
    unfold pendingNames
    rw [List.filterMap_eq_nil_iff]
    intro job hmem
    rw [hjobs job hmem]
    rfl
  refine ⟨hrun, ?_, ?_, ?_⟩
  · intro name hname
    rw [hpending] at hname
    cases hname
  · rw [hpending]
    exact List.nodup_nil
  · intro job hmem
    rw [hjobs job hmem]
    rfl

end Runs

/-- **One open incident per name.**  Any number of jobs, started on tables with at most one
open incident under each name, in any order of their calls: as long as no job looks up a name
under which another is about to open an incident, there is never more than one open under a
name, no lookup would raise, and no job has raised. -/
theorem one_open_incident (setup : Setup) (run : Run) (hrun : ∀ name, openCount run.db name ≤ 1)
    (jobs : List Job) (hjobs : ∀ job ∈ jobs, job.phase = .listing) (calls : List Nat) (s : Jobs)
    (hreach : Reaches (Jobs.step setup) Apart ⟨run, jobs⟩ calls s) :
    (∀ name, openCount s.run.db name ≤ 1) ∧
      (∀ name, ∃ found, getOpenIncidentByRuleName s.run.db name = .ok found) ∧
      ∀ job ∈ s.jobs, job.phase.isRaised = false := by
  have hinv : OneOpen s := hreach.invariant (oneOpen_start hrun hjobs)
    fun _ _ _ hinv hapart hstep => hinv.step hapart hstep
  refine ⟨hinv.one_open, fun name => ?_, hinv.not_raised⟩
  exact ⟨_, getOpen_of_one (hinv.one_open name)⟩

/-- The latency rule, and nothing open. -/
def latencyTables : AlertDb where
  rules := [newRule 0 highP95Latency]
  incidents := []
  nextId := 1
  rulesUnique := List.nodup_singleton _
  incidentsUnique := List.nodup_nil
  idsBelow _ hmem := absurd hmem List.not_mem_nil

/-- So many jobs that all find a high latency. -/
def latencyJobs (n : Nat) : Jobs :=
  ⟨{ db := latencyTables }, List.replicate n { cycle := windowCycle (some 25000) }⟩

/-- Two jobs, the second of which looks the name up when the first has opened its incident. -/
theorem one_open_in_turn :
    ∃ s, Reaches (Jobs.step {}) Apart (latencyJobs 2) [0, 1, 0, 0, 1, 1, 0, 1] s ∧
      ∀ name, openCount s.run.db name ≤ 1 := by
  have hsome : (runAllowed (Jobs.step {}) Apart [0, 1, 0, 0, 1, 1, 0, 1] (latencyJobs 2)).isSome =
      true := by
    decide +kernel
  obtain ⟨s, hs⟩ := Option.isSome_iff_exists.mp hsome
  have hreach := Reaches.of_runAllowed hs
  refine ⟨s, hreach, (one_open_incident {} _ ?_ _ ?_ _ s hreach).1⟩
  · intro name
    exact Nat.zero_le 1
  · intro job hmem
    rw [List.eq_of_mem_replicate hmem]

/-- Two jobs look the name up before either has opened its incident, and both do; a third one
that comes later is stopped by its lookup. -/
theorem two_open_incidents :
    ∃ s, [0, 1, 0, 1, 0, 1, 2, 2].foldlM (Jobs.step {}) (latencyJobs 3) = some s ∧
      openCount s.run.db "high_p95_latency" = 2 ∧ ∃ job ∈ s.jobs, job.phase.isRaised = true := by
  have hend : ([0, 1, 0, 1, 0, 1, 2, 2].foldlM (Jobs.step {}) (latencyJobs 3)).map (fun s =>
      (openCount s.run.db "high_p95_latency", s.jobs.any fun job => job.phase.isRaised)) =
      some (2, true) := by
    decide +kernel
  obtain ⟨s, hs, hpair⟩ := Option.map_eq_some_iff.mp hend
  obtain ⟨hcount, hany⟩ := Prod.mk.inj hpair
  refine ⟨s, hs, hcount, ?_⟩
  simpa using hany

/-! ### A job on its own -/

/-- Calls of one job with nothing in between. -/
def Alone (setup : Setup) (cycle : Cycle) : Run × Phase → Run × Phase → Prop :=
  Relation.ReflTransGen fun before after => before.2.call setup cycle before.1 = some after

section Alone

variable {setup : Setup} {cycle : Cycle}

theorem alone_call {run : Run} {phase : Phase} {next final : Run × Phase}
    (hcall : phase.call setup cycle run = some next) (h : Alone setup cycle next final) :
    Alone setup cycle (run, phase) final := Relation.ReflTransGen.head hcall h

/-- Seeding, call by call. -/
theorem alone_seeding (schemas : List AlertRuleSchema) :
    ∀ (run : Run) (final : Run × Phase),
      Alone setup cycle ({ run with db := schemas.foldl upsertAlertRule run.db },
        startWork setup cycle (listAlertRules (schemas.foldl upsertAlertRule run.db))) final →
      Alone setup cycle (run, .seeding schemas) final := by
  induction schemas with
  | nil =>
      intro run final h
      exact alone_call rfl h
  | cons schema schemas ih =>
      intro run final h
      exact alone_call rfl (ih { run with db := upsertAlertRule run.db schema } final h)

theorem listAlertRules_isEmpty (db : AlertDb) :
    (listAlertRules db).isEmpty = db.rules.isEmpty := by
  unfold listAlertRules
  rw [Bool.eq_iff_iff, List.isEmpty_iff_length_eq_zero, List.isEmpty_iff_length_eq_zero,
    List.length_insertionSort]

theorem alone_listing (run : Run) {final : Run × Phase}
    (h : Alone setup cycle ({ run with db := seedRules run.db },
      startWork setup cycle (listAlertRules (seedRules run.db))) final) :
    Alone setup cycle (run, .listing) final := by
  unfold seedRules at h
  by_cases hempty : run.db.rules.isEmpty = true
  · rw [if_pos hempty] at h
    refine alone_call ?_ (alone_seeding defaultAlertRules run final h)
    simp only [Phase.call, listAlertRules_isEmpty, hempty, if_true]
  · rw [if_neg hempty] at h
    refine alone_call ?_ h
    simp only [Phase.call, listAlertRules_isEmpty, hempty]
    rfl

/-- The firings, one after the other; an error stops the job where it is. -/
theorem alone_working (allFirings : Dict String AlertFiring) (todo : List Work) :
    ∀ (run : Run) (final : Run × Phase),
      (match todo.foldlM (reconcileWork cycle.clock) run with
        | .error (e, run') => final = (run', .raised e)
        | .ok run' => Alone setup cycle (run', .working [] allFirings) final) →
      Alone setup cycle (run, .working todo allFirings) final := by
  induction todo with
  | nil =>
      intro run final h
      exact h
  | cons work todo ih =>
      intro run final h
      rw [List.foldlM_cons] at h
      unfold reconcileWork at h
      cases hfound : getOpenIncidentByRuleName run.db work.name with
      | error e =>
          rw [hfound] at h
          cases h
          refine alone_call ?_ Relation.ReflTransGen.refl
          simp only [Phase.call, hfound]
      | ok found =>
          rw [hfound] at h
          have hcall : Phase.call setup cycle run (.working (work :: todo) allFirings) =
              some (run, .found work found todo allFirings) := by
            simp only [Phase.call, hfound]
          refine alone_call hcall ?_
          cases found with
          | none => exact alone_call rfl (ih _ final h)
          | some incident => exact alone_call rfl (ih _ final h)

/-- What is left to resolve of the page. -/
theorem alone_resolving (allFirings : Dict String AlertFiring) (listed : List AlertIncident) :
    ∀ run : Run, Alone setup cycle
      (run, .resolving (listed.filter fun incident => !allFirings.contains incident.ruleName)
        allFirings)
      (listed.foldl (resolveCleared cycle.clock allFirings) run, .resolving [] allFirings) := by
  induction listed with
  | nil =>
      intro run
      exact Relation.ReflTransGen.refl
  | cons incident listed ih =>
      intro run
      rw [List.foldl_cons]
      by_cases hfires : allFirings.contains incident.ruleName = true
      · rw [resolveCleared_of_firing cycle.clock hfires, List.filter_cons_of_neg (by simp [hfires])]
        exact ih run
      · rw [List.filter_cons_of_pos (by simp [hfires])]
        exact alone_call rfl (ih _)

/-- **A job on its own is a cycle.** -/
theorem alone_runAlertEvaluation (henabled : setup.alertingEnabled = true)
    (hready : setup.sessionReady = true) (run : Run) :
    match runAlertEvaluation setup cycle run with
    | .ok run' => ∃ allFirings, Alone setup cycle (run, .listing) (run', .resolving [] allFirings)
    | .error (e, run') => Alone setup cycle (run, .listing) (run', .raised e) := by
  have hwork := @alone_working setup cycle
    (evaluate setup cycle (listAlertRules (seedRules run.db))).allFirings
    (evaluate setup cycle (listAlertRules (seedRules run.db))).work
    { run with db := seedRules run.db }
  unfold runAlertEvaluation
  rw [henabled, hready]
  simp only [Bool.not_true, Bool.false_eq_true, if_false]
  rw [reconcile_eq]
  cases hloop : (evaluate setup cycle (listAlertRules (seedRules run.db))).work.foldlM
      (reconcileWork cycle.clock) { run with db := seedRules run.db } with
  | error e =>
      refine alone_listing run (hwork _ ?_)
      rw [hloop]
  | ok run' =>
      refine ⟨(evaluate setup cycle (listAlertRules (seedRules run.db))).allFirings, ?_⟩
      refine alone_listing run (hwork _ ?_)
      rw [hloop]
      exact alone_call rfl (alone_resolving _ _ run')

end Alone

end AlertJob

end GaiaOS
