/-
What reconciling leaves behind.

Steps 3a and 3b of a cycle do one thing over and over: look a name up, and open an incident
under it or count on the one that is open.  So both are one loop over what there is to
reconcile (`reconcile_eq`).  The loop changes the rows it finds only in what they count, and
appends one row for every name that fires with nothing open under it (`Growth`); the row is
that of the first firing of the name (`Opened`), a rule's before an objective's.
-/
import GaiaOS.Proofs.AlertResolution
import GaiaOS.Workers.AlertJobs
import Mathlib.Data.List.Dedup

namespace GaiaOS

namespace AlertJob

open Alerting AlertRepository

/-! ### One loop -/

/-- A firing reconciled without interruption. -/
def reconcileWork (clock : Clock) (run : Run) (work : Work) : Outcome :=
  match getOpenIncidentByRuleName run.db work.name with
  | .error e => .error (e, run)
  | .ok none =>
      .ok (run.openIncident work.opened (clock.created run.db.nextId) work.firing work.dueFirst)
  | .ok (some incident) => .ok (run.updateIncident incident work.firing (work.dueAgain incident))

/-- The rules that do not fire need no call. -/
theorem foldlM_reconcileRule (clock : Clock) (firings : Dict String AlertFiring)
    (rules : List AlertRule) :
    ∀ run : Run, rules.foldlM (reconcileRule clock firings) run =
      (rules.filterMap fun rule => (firings.get? rule.name).map (Work.ofRule rule)).foldlM
        (reconcileWork clock) run := by
  induction rules with
  | nil =>
      intro run
      rfl
  | cons rule rules ih =>
      intro run
      rw [List.foldlM_cons, List.filterMap_cons]
      cases hfiring : firings.get? rule.name with
      | none =>
          have hsame : reconcileRule clock firings run rule = .ok run := by
            simp only [reconcileRule, hfiring]
          rw [hsame]
          exact ih run
      | some firing =>
          have hwork : reconcileRule clock firings run rule =
              reconcileWork clock run (.ofRule rule firing) := by
            simp only [reconcileRule, hfiring]
            rfl
          rw [Option.map_some]
          dsimp only
          rw [List.foldlM_cons, hwork]
          congr 1
          funext run'
          exact ih run'

/-- Steps 3a and 3b are the job's work. -/
theorem reconcile_eq (setup : Setup) (cycle : Cycle) (run : Run) :
    reconcile setup cycle run =
      (evaluate setup cycle (listAlertRules (seedRules run.db))).work.foldlM
        (reconcileWork cycle.clock) { run with db := seedRules run.db } := by
  unfold reconcile evaluate
  dsimp only
  rw [List.foldlM_append, foldlM_reconcileRule]
  simp only [List.foldlM_map]
  rfl

/-! ### The rows -/

/-- A row that may have counted on. -/
structure SameIncident (row row' : AlertIncident) : Prop where
  id : row'.id = row.id
  ruleName : row'.ruleName = row.ruleName
  status : row'.status = row.status
  firedAt : row'.firedAt = row.firedAt
  ruleId : row'.ruleId = row.ruleId
  threshold : row'.threshold = row.threshold

/-- The tables have grown by `new`, one row for a name that had none open. -/
structure Growth (clock : Clock) (start : AlertDb) (run : Run) (new : List AlertIncident) :
    Prop where
  rows : ∃ keep : AlertIncident → AlertIncident, (∀ row, SameIncident row (keep row)) ∧
    run.db.incidents = start.incidents.map keep ++ new
  nextId : run.db.nextId = start.nextId + new.length
  ids : ∀ row ∈ new, start.nextId ≤ row.id
  times : new.map (·.firedAt) =
    (List.range new.length).map fun i => clock.created (start.nextId + i)
  firing : ∀ row ∈ new, row.status = "firing"
  names : (new.map (·.ruleName)).Nodup
  fresh : ∀ row ∈ new, openIncidents start row.ruleName = []

section Growing

variable {clock : Clock} {start : AlertDb} {run : Run} {new : List AlertIncident}

theorem growth_start (clock : Clock) (run : Run) : Growth clock run.db run [] where
  rows := ⟨id, fun _ => ⟨rfl, rfl, rfl, rfl, rfl, rfl⟩, by simp⟩
  nextId := rfl
  ids := by simp
  times := rfl
  firing := by simp
  names := List.nodup_nil
  fresh := by simp

/-- Nothing is open under a name exactly if nothing was, and no row was added. -/
theorem Growth.open_eq_nil_iff (h : Growth clock start run new) (name : String) :
    openIncidents run.db name = [] ↔
      openIncidents start name = [] ∧ name ∉ new.map (·.ruleName) := by
  obtain ⟨keep, hkeep, hrows⟩ := h.rows
  unfold openIncidents
  rw [hrows, List.filter_append, List.append_eq_nil_iff]
  refine and_congr ?_ ?_
  · simp only [List.filter_eq_nil_iff, List.mem_map, forall_exists_index, and_imp,
      forall_apply_eq_imp_iff₂, (hkeep _).ruleName, (hkeep _).status]
  · simp only [List.filter_eq_nil_iff, List.mem_map, not_exists, not_and]
    refine forall₂_congr fun row hmem => ?_
    simp [h.firing row hmem]

/-- Opening an incident adds its row. -/
theorem Growth.openIncident (h : Growth clock start run new) {opened : NewIncident}
    (hnone : openIncidents run.db opened.ruleName = []) (firing : AlertFiring) (due : Bool) :
    Growth clock start (run.openIncident opened (clock.created run.db.nextId) firing due)
      (new ++ [opened.row run.db.nextId (clock.created run.db.nextId)]) := by
  obtain ⟨hstart, hnew⟩ := (h.open_eq_nil_iff _).mp hnone
  obtain ⟨keep, hkeep, hrows⟩ := h.rows
  refine ⟨⟨keep, hkeep, ?_⟩, ?_, ?_, ?_, ?_, ?_, ?_⟩
  · rw [openIncident_db]
    show run.db.incidents ++ _ = _
    rw [hrows, List.append_assoc]
  · rw [openIncident_db]
    show run.db.nextId + 1 = _
    rw [h.nextId, List.length_append, List.length_singleton]
    rfl
  · intro row hmem
    rcases List.mem_append.mp hmem with hold | hlast
    · exact h.ids row hold
    · rw [List.mem_singleton.mp hlast]
      show start.nextId ≤ run.db.nextId
      rw [h.nextId]
      exact Nat.le_add_right _ _
  · rw [List.map_append, h.times, List.length_append, List.length_singleton, List.range_succ,
      List.map_append, h.nextId]
    rfl
  · intro row hmem
    rcases List.mem_append.mp hmem with hold | hlast
    · exact h.firing row hold
    · rw [List.mem_singleton.mp hlast]
      rfl
  · rw [List.map_append, List.nodup_append]
    refine ⟨h.names, List.nodup_singleton _, ?_⟩
    intro name hname other hother heq
    rw [List.map_singleton, List.mem_singleton] at hother
    rw [heq, hother] at hname
    exact hnew hname
  · intro row hmem
    rcases List.mem_append.mp hmem with hold | hlast
    · exact h.fresh row hold
    · rw [List.mem_singleton.mp hlast]
      exact hstart

/-- What counting on makes of a row. -/
def countedOn (incident : AlertIncident) (firing : AlertFiring) (row : AlertIncident) :
    AlertIncident :=
  if row.id = incident.id then
    { row with
      lastValue := firing.currentValue
      consecutiveViolations := incident.consecutiveViolations + 1 }
  else row

theorem sameIncident_countedOn (incident : AlertIncident) (firing : AlertFiring)
    (row : AlertIncident) : SameIncident row (countedOn incident firing row) := by
  unfold countedOn
  split
  · exact ⟨rfl, rfl, rfl, rfl, rfl, rfl⟩
  · exact ⟨rfl, rfl, rfl, rfl, rfl, rfl⟩

theorem countedOn_names (incident : AlertIncident) (firing : AlertFiring)
    (rows : List AlertIncident) :
    (rows.map (countedOn incident firing)).map (·.ruleName) = rows.map (·.ruleName) := by
  rw [List.map_map]
  exact List.map_congr_left fun row _ => (sameIncident_countedOn incident firing row).ruleName

theorem SameIncident.trans {row row' row'' : AlertIncident} (h : SameIncident row row')
    (h' : SameIncident row' row'') : SameIncident row row'' :=
  ⟨h'.id.trans h.id, h'.ruleName.trans h.ruleName, h'.status.trans h.status,
    h'.firedAt.trans h.firedAt, h'.ruleId.trans h.ruleId, h'.threshold.trans h.threshold⟩

/-- Counting on changes nothing that is looked at here. -/
theorem Growth.updateIncident (h : Growth clock start run new) (incident : AlertIncident)
    (firing : AlertFiring) (due : Bool) :
    Growth clock start (run.updateIncident incident firing due)
      (new.map (countedOn incident firing)) := by
  have hsame := sameIncident_countedOn incident firing
  obtain ⟨keep, hkeep, hrows⟩ := h.rows
  refine ⟨⟨countedOn incident firing ∘ keep, fun row => (hkeep row).trans (hsame _), ?_⟩,
    ?_, ?_, ?_, ?_, ?_, ?_⟩
  · rw [updateIncident_db]
    show run.db.incidents.map (countedOn incident firing) = _
    rw [hrows, List.map_append, List.map_map]
  · rw [updateIncident_db, List.length_map]
    exact h.nextId
  · intro row hmem
    obtain ⟨old, hold, rfl⟩ := List.mem_map.mp hmem
    rw [(hsame old).id]
    exact h.ids old hold
  · rw [List.map_map, List.length_map, ← h.times]
    exact List.map_congr_left fun row _ => (hsame row).firedAt
  · intro row hmem
    obtain ⟨old, hold, rfl⟩ := List.mem_map.mp hmem
    rw [(hsame old).status]
    exact h.firing old hold
  · rw [countedOn_names]
    exact h.names
  · intro row hmem
    obtain ⟨old, hold, rfl⟩ := List.mem_map.mp hmem
    rw [(hsame old).ruleName]
    exact h.fresh old hold

/-- The row is the one that was opened for the firing. -/
structure Work.OpenedAs (work : Work) (row : AlertIncident) : Prop where
  ruleName : row.ruleName = work.name
  ruleId : row.ruleId = work.opened.ruleId
  threshold : row.threshold = work.opened.threshold

theorem Work.opened_ruleName (work : Work) : work.opened.ruleName = work.name := by
  cases work with
  | ofRule rule firing => rfl
  | ofSlo firing => rfl

/-- Of the names that were reconciled, those with nothing open have got a row, that of the first
firing of the name, and no other has. -/
def Opened (clock : Clock) (start : AlertDb) (done : List Work) (run : Run) : Prop :=
  ∃ new, Growth clock start run new ∧
    (∀ row ∈ new, ∃ work, done.find? (fun work => work.name = row.ruleName) = some work ∧
      work.OpenedAs row) ∧
    ∀ work ∈ done, work.name ∈ new.map (·.ruleName) ∨ openIncidents start work.name ≠ []

variable {done : List Work}

/-- A firing that finds nothing open. -/
theorem Opened.openIncident (h : Opened clock start done run) {work : Work}
    (hnone : openIncidents run.db work.name = []) :
    Opened clock start (done ++ [work])
      (run.openIncident work.opened (clock.created run.db.nextId) work.firing work.dueFirst) := by
  obtain ⟨new, hgrowth, honly, hall⟩ := h
  have hname := work.opened_ruleName
  refine ⟨_, hgrowth.openIncident (by rw [hname]; exact hnone) _ _, ?_, ?_⟩
  · intro row hmem
    rcases List.mem_append.mp hmem with hold | hlast
    · obtain ⟨first, hfirst, hopened⟩ := honly row hold
      exact ⟨first, by rw [List.find?_append, hfirst]; rfl, hopened⟩
    · rw [List.mem_singleton.mp hlast]
      refine ⟨work, ?_, hname, rfl, rfl⟩
      -- nothing was reconciled under the name yet, or it would be open
      have hnew : done.find? (fun other => other.name = work.opened.ruleName) = none := by
        rw [List.find?_eq_none]
        intro other hother hsame
        rw [decide_eq_true_eq, hname] at hsame
        obtain ⟨hstart, hfresh⟩ := (hgrowth.open_eq_nil_iff _).mp hnone
        rw [← hsame] at hstart hfresh
        exact (hall other hother).elim hfresh fun hsome => hsome hstart
      rw [List.find?_append]
      show (done.find? fun other => other.name = work.opened.ruleName).or _ = _
      rw [hnew, Option.none_or]
      exact List.find?_cons_of_pos (decide_eq_true hname.symm)
  · intro other hother
    rw [List.map_append]
    rcases List.mem_append.mp hother with hold | hlast
    · exact (hall other hold).imp_left (List.mem_append_left _)
    · rw [List.mem_singleton.mp hlast]
      exact Or.inl (List.mem_append_right _ (by
        rw [List.map_singleton, List.mem_singleton]
        exact hname.symm))

/-- A firing that finds an incident open. -/
theorem Opened.updateIncident (h : Opened clock start done run) {incident : AlertIncident}
    {work : Work} (hopen : incident ∈ openIncidents run.db work.name) (due : Bool) :
    Opened clock start (done ++ [work]) (run.updateIncident incident work.firing due) := by
  obtain ⟨new, hgrowth, honly, hall⟩ := h
  have hsame := sameIncident_countedOn incident work.firing
  refine ⟨_, hgrowth.updateIncident incident work.firing due, ?_, ?_⟩
  · intro row hmem
    obtain ⟨old, hold, rfl⟩ := List.mem_map.mp hmem
    obtain ⟨first, hfirst, hopened⟩ := honly old hold
    refine ⟨first, ?_, (hsame old).ruleName.trans hopened.ruleName,
      (hsame old).ruleId.trans hopened.ruleId, (hsame old).threshold.trans hopened.threshold⟩
    rw [(hsame old).ruleName, List.find?_append, hfirst]
    rfl
  · intro other hother
    rw [countedOn_names]
    rcases List.mem_append.mp hother with hold | hlast
    · exact hall other hold
    · rw [List.mem_singleton.mp hlast]
      have hsome : ¬ openIncidents run.db work.name = [] := List.ne_nil_of_mem hopen
      rw [hgrowth.open_eq_nil_iff, not_and_or, not_not] at hsome
      exact hsome.symm

theorem open_nil_of_getOpen {name : String} (h : getOpenIncidentByRuleName run.db name = .ok none) :
    openIncidents run.db name = [] := by
  unfold getOpenIncidentByRuleName at h
  split at h
  · assumption
  · cases h
  · cases h

/-- The step lemma. -/
theorem Opened.reconcileWork {work : Work} {run' : Run} (h : Opened clock start done run)
    (hrun : AlertJob.reconcileWork clock run work = .ok run') :
    Opened clock start (done ++ [work]) run' := by
  unfold AlertJob.reconcileWork at hrun
  split at hrun
  · cases hrun
  · rename_i hnone
    cases hrun
    exact h.openIncident (open_nil_of_getOpen hnone)
  · rename_i incident hopen
    cases hrun
    exact h.updateIncident (mem_of_getOpen hopen) _

theorem openIncidents_seedRules (db : AlertDb) (name : String) :
    openIncidents (seedRules db) name = openIncidents db name := by
  unfold openIncidents
  rw [(seedRules_incidents db).1]

/-- What there is to reconcile in a cycle. -/
def works (setup : Setup) (cycle : Cycle) (db : AlertDb) : List Work :=
  (evaluate setup cycle (listAlertRules (seedRules db))).work

/-- The run lemma: after steps 3a and 3b. -/
theorem reconcile_opened {setup : Setup} {cycle : Cycle} {run' : Run}
    (hrun : reconcile setup cycle run = .ok run') :
    Opened cycle.clock (seedRules run.db) (works setup cycle run.db) run' := by
  rw [reconcile_eq] at hrun
  refine foldlM_of_ok hrun ?_ fun done work s s' _ hdone hpass => hdone.reconcileWork hpass
  exact ⟨[], growth_start cycle.clock { run with db := seedRules run.db }, by simp, by simp⟩

/-- The firings of the active rules, and those of the objectives. -/
theorem mem_works {setup : Setup} {cycle : Cycle} {db : AlertDb} {work : Work} :
    work ∈ works setup cycle db ↔
      (∃ rule ∈ activeRules db, ∃ firing,
        (byName (ruleFirings setup cycle db)).get? rule.name = some firing ∧
          work = .ofRule rule firing) ∨
        ∃ firing ∈ sloFirings setup cycle, work = .ofSlo firing := by
  unfold works evaluate
  rw [List.mem_append, List.mem_filterMap, List.mem_map]
  refine or_congr ?_ ?_
  · refine exists_congr fun rule => and_congr_right fun _ => ?_
    rw [Option.map_eq_some_iff]
    exact exists_congr fun firing => and_congr_right fun _ => eq_comm
  · exact exists_congr fun firing => and_congr_right fun _ => eq_comm

/-- The names reconciled are those that fire. -/
theorem exists_works_iff {setup : Setup} {cycle : Cycle} {db : AlertDb} {name : String} :
    (∃ work ∈ works setup cycle db, work.name = name) ↔ Fires setup cycle db name := by
  unfold Fires
  constructor
  · rintro ⟨work, hwork, rfl⟩
    rcases mem_works.mp hwork with ⟨rule, hrule, firing, hfiring, rfl⟩ | ⟨firing, hfiring, rfl⟩
    · obtain ⟨hmem, hname⟩ := mem_of_byName hfiring
      exact ⟨firing, List.mem_append_left _ hmem, hname⟩
    · exact ⟨firing, List.mem_append_right _ hfiring, rfl⟩
  · rintro ⟨firing, hfiring, rfl⟩
    rcases List.mem_append.mp hfiring with hrule | hslo
    · obtain ⟨rule, hmem, -, snapshot, -, hfires⟩ := mem_evaluateRules.mp hrule
      have hname := ruleFiring_ruleName hfires
      have hcontains : (byName (ruleFirings setup cycle db)).contains rule.name = true :=
        contains_byName.mpr ⟨firing, hrule, hname⟩
      obtain ⟨found, hfound⟩ := Option.isSome_iff_exists.mp hcontains
      exact ⟨.ofRule rule found, mem_works.mpr (Or.inl ⟨rule, hmem, found, hfound, rfl⟩),
        hname.symm⟩
    · exact ⟨.ofSlo firing, mem_works.mpr (Or.inr ⟨firing, hslo, rfl⟩), rfl⟩

end Growing

end AlertJob

end GaiaOS
