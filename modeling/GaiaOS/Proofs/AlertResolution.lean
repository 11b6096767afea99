/-
What is resolved, and on what grounds.

A cycle resolves what is open under a name that nothing fires under.  So the question is what
fires: `fires_iff` says it in terms of what the queries returned, a rule by the value measured
in its window, or zero where nothing was measured, and an objective by its samples if it has
any.  A cycle then does one of two things to an incident (`resolved_if_not_violated`).  Either
it resolves it and says so, once, and no rule or objective of its name that it could evaluate
is violated; or it leaves its status alone, and changes nothing of it unless one is.

What it could not evaluate, because the window's query raised or an objective had no samples,
does not count as violated, and neither does the zero of an empty window.
-/
import GaiaOS.Proofs.AlertAlarm

namespace GaiaOS

namespace AlertJob

open Alerting AlertRepository

/-! ### What fires -/

/-- What the queries of a window measure, by metric. -/
def measured (queries : Queries) (interval : Nat) (row : Option SnapshotRow) (metric : String) :
    Option ℚ :=
  match metric with
  | "investigation.p95_latency_ms" => row.bind (·.p95LatencyMs)
  | "investigation.job_failure_rate" => row.bind (·.jobFailureRate)
  | "job_failure_rate" => row.bind (·.jobFailureRate)
  | "investigation.avg_cost_estimate" => row.bind (·.avgCostEstimate)
  | "scaling.p95_queue_wait_s" =>
      ((queries.queueWaitP95 interval).toOption.bind Option.join).map (· / 1000)
  | "scaling.queue_depth" => (queries.telemetrySnapshot interval).toOption.join.bind (·.queueDepth)
  | "scaling.worker_utilization_pct" =>
      (queries.telemetrySnapshot interval).toOption.join.bind (·.workerUtilizationPct)
  | _ => none

/-- The rule's window was read, and the value measured there, or zero, violates it. -/
def RuleViolated (setup : Setup) (cycle : Cycle) (rule : AlertRule) : Prop :=
  rule.metric ∈ supportedMetrics ∧
    ∃ row, cycle.queries.windowSnapshot ((windowInterval rule.window).getD 15) = .ok row ∧
      isThresholdViolated
        ((measured cycle.queries ((windowInterval rule.window).getD 15) row rule.metric).getD 0)
        (effectiveThreshold setup.workerPoolSize rule) rule.comparison = true

/-- The objective has samples, and they burn its budget fast enough to alert. -/
def SloViolated (cycle : Cycle) (slo : SLODefinition) : Prop :=
  fetchSloActuals cycle.queries slo ≠ [] ∧
    (evaluateSloBurnRate slo (fetchSloActuals cycle.queries slo)).alertSeverity ≠ none

section Evaluation

variable {queries : Queries} {setup : Setup} {cycle : Cycle}

theorem get?_record_of_ne {snapshot : Dict String ℚ} {key metric : String} {value : Option ℚ}
    (hne : key ≠ metric) : (record snapshot key value).get? metric = snapshot.get? metric := by
  cases value with
  | none => rfl
  | some value =>
      have hset := Dict.get?_set snapshot key value metric
      rw [if_neg hne] at hset
      exact hset

theorem getD_record {snapshot : Dict String ℚ} {key : String} {value : Option ℚ}
    (hzero : (snapshot.get? key).getD 0 = 0) :
    ((record snapshot key value).get? key).getD 0 = value.getD 0 := by
  cases value with
  | none => exact hzero
  | some value =>
      have hset := Dict.get?_set snapshot key value key
      rw [if_pos rfl] at hset
      exact congrArg (Option.getD · 0) hset

theorem zeroSnapshot_getD (metric : String) : (zeroSnapshot.get? metric).getD 0 = 0 := by
  cases hget : zeroSnapshot.get? metric with
  | none => rfl
  | some value =>
      have hmem := Dict.mem_of_get?_ofPairs hget
      simp only [List.mem_cons, Prod.mk.injEq, List.not_mem_nil, or_false] at hmem
      rw [Option.getD_some]
      rcases hmem with h | h | h | h | h | h | h
      all_goals exact h.2

/-- A snapshot holds what was measured, and zero for everything else. -/
theorem snapshot_value {window : String} {snapshot : Dict String ℚ}
    (h : fetchWindowMetricsSnapshot queries window = .ok snapshot) :
    ∃ row, queries.windowSnapshot ((windowInterval window).getD 15) = .ok row ∧
      ∀ metric, (snapshot.get? metric).getD 0 =
        (measured queries ((windowInterval window).getD 15) row metric).getD 0 := by
  obtain ⟨row, hrow, hsnapshot⟩ := ok_of_bind h
  cases hsnapshot
  refine ⟨row, hrow, fun metric => ?_⟩
  unfold measured
  split
  case h_8 hlatency hfailure hfailure' hcost hwait hdepth hutilization =>
    rw [get?_record_of_ne (Ne.symm hutilization), get?_record_of_ne (Ne.symm hdepth),
      get?_record_of_ne (Ne.symm hwait), get?_record_of_ne (Ne.symm hcost),
      get?_record_of_ne (Ne.symm hfailure'), get?_record_of_ne (Ne.symm hfailure),
      get?_record_of_ne (Ne.symm hlatency)]
    exact zeroSnapshot_getD metric
  -- past the keys recorded later, at its own key, and past those recorded before
  all_goals
    try simp (disch := decide) only [get?_record_of_ne]
    rw [getD_record]
    try simp (disch := decide) only [get?_record_of_ne]
    exact zeroSnapshot_getD _

theorem fetchWindowMetricsSnapshot_of_ok {window : String} {row : Option SnapshotRow}
    (hrow : queries.windowSnapshot ((windowInterval window).getD 15) = .ok row) :
    ∃ snapshot, fetchWindowMetricsSnapshot queries window = .ok snapshot := by
  unfold fetchWindowMetricsSnapshot
  simp only [hrow]
  exact ⟨_, rfl⟩

theorem ruleFiring_ruleName {workerPoolSize now : Int} {snapshot : Dict String ℚ} {rule : AlertRule}
    {firing : AlertFiring} (h : ruleFiring workerPoolSize now snapshot rule = some firing) :
    firing.ruleName = rule.name := by
  unfold ruleFiring at h
  split at h
  · cases h
  · dsimp only at h
    split at h
    · cases h
      rfl
    · cases h

theorem ruleFiring_isSome_iff {workerPoolSize now : Int} {snapshot : Dict String ℚ}
    {rule : AlertRule} :
    (∃ firing, ruleFiring workerPoolSize now snapshot rule = some firing) ↔
      rule.metric ∈ supportedMetrics ∧
        isThresholdViolated ((snapshot.get? rule.metric).getD 0)
          (effectiveThreshold workerPoolSize rule) rule.comparison = true := by
  unfold ruleFiring
  by_cases hsupported : rule.metric ∈ supportedMetrics
  · rw [if_neg (not_not_intro hsupported)]
    dsimp only
    split
    · rename_i hviolated
      exact ⟨fun _ => ⟨hsupported, hviolated⟩, fun _ => ⟨_, rfl⟩⟩
    · rename_i hkept
      constructor
      · rintro ⟨firing, hfiring⟩
        cases hfiring
      · rintro ⟨-, hviolated⟩
        exact absurd hviolated hkept
  · rw [if_pos hsupported]
    constructor
    · rintro ⟨firing, hfiring⟩
      cases hfiring
    · rintro ⟨hyes, -⟩
      exact absurd hyes hsupported

/-- The rules of a window are evaluated on its snapshot, whichever window they are grouped
under. -/
theorem mem_evaluateRules {workerPoolSize now : Int} {rules : List AlertRule} {firing : AlertFiring} :
    firing ∈ evaluateRules queries workerPoolSize now rules ↔
      ∃ rule ∈ rules, rule.isEnabled = true ∧
        ∃ snapshot, fetchWindowMetricsSnapshot queries rule.window = .ok snapshot ∧
          ruleFiring workerPoolSize now snapshot rule = some firing := by
  unfold evaluateRules
  rw [List.mem_flatMap]
  constructor
  · rintro ⟨⟨window, grouped⟩, hentry, hfiring⟩
    have hgrouped := Dict.values_of_mem_group hentry
    unfold windowFirings at hfiring
    split at hfiring
    · cases hfiring
    · rename_i snapshot hsnapshot
      obtain ⟨rule, hrule, hfires⟩ := List.mem_filterMap.mp hfiring
      dsimp only at hgrouped hsnapshot hrule
      rw [hgrouped] at hrule
      obtain ⟨pair, hpair, rfl⟩ := List.mem_map.mp hrule
      obtain ⟨hpair, hwindow⟩ := List.mem_filter.mp hpair
      obtain ⟨enabled, henabled, rfl⟩ := List.mem_map.mp hpair
      obtain ⟨hmem, henabled⟩ := List.mem_filter.mp henabled
      have hsame : enabled.window = window := by simpa using hwindow
      exact ⟨enabled, hmem, henabled, snapshot, by rw [hsame]; exact hsnapshot, hfires⟩
  · rintro ⟨rule, hmem, henabled, snapshot, hsnapshot, hfires⟩
    have hpair : (rule.window, rule) ∈
        (rules.filter (·.isEnabled)).map fun rule => (rule.window, rule) :=
      List.mem_map.mpr ⟨rule, List.mem_filter.mpr ⟨hmem, henabled⟩, rfl⟩
    refine ⟨_, Dict.mem_group_of_mem hpair, ?_⟩
    unfold windowFirings
    rw [hsnapshot]
    refine List.mem_filterMap.mpr ⟨rule, ?_, hfires⟩
    exact List.mem_map.mpr ⟨_, List.mem_filter.mpr ⟨hpair, decide_eq_true rfl⟩, rfl⟩

theorem evaluateSloBurnRate_insufficientData (slo : SLODefinition) (actuals : List ℚ) :
    (evaluateSloBurnRate slo actuals).insufficientData = actuals.isEmpty := by
  unfold evaluateSloBurnRate
  cases actuals with
  | nil => rfl
  | cons x rest => rfl

theorem sloFiring_ruleName {now : Int} {slo : SLODefinition} {firing : AlertFiring}
    (h : sloFiring queries now slo = some firing) : firing.ruleName = slo.name := by
  unfold sloFiring at h
  dsimp only at h
  split at h
  · cases h
  · obtain ⟨severity, -, rfl⟩ := Option.map_eq_some_iff.mp h
    rfl

theorem sloFiring_isSome_iff {slo : SLODefinition} {now : Int} :
    (∃ firing, sloFiring cycle.queries now slo = some firing) ↔ SloViolated cycle slo := by
  unfold sloFiring SloViolated
  dsimp only
  rw [evaluateSloBurnRate_insufficientData]
  cases hactuals : fetchSloActuals cycle.queries slo with
  | nil => simp
  | cons x rest =>
      simp only [List.isEmpty_cons, Bool.false_eq_true, if_false, ne_eq, reduceCtorEq,
        not_false_eq_true, true_and, Option.map_eq_some_iff]
      constructor
      · rintro ⟨firing, severity, hseverity, -⟩ hnone
        rw [hseverity] at hnone
        cases hnone
      · intro hsome
        obtain ⟨severity, hseverity⟩ := Option.ne_none_iff_exists'.mp hsome
        exact ⟨_, severity, hseverity, rfl⟩

/-- A rule of the name fires exactly if it could be evaluated and is violated. -/
theorem ruleFires_iff {db : AlertDb} {name : String} :
    (∃ firing ∈ ruleFirings setup cycle db, firing.ruleName = name) ↔
      ∃ rule ∈ activeRules db, rule.name = name ∧ RuleViolated setup cycle rule := by
  constructor
  · rintro ⟨firing, hfiring, rfl⟩
    obtain ⟨rule, hmem, -, snapshot, hsnapshot, hfires⟩ := mem_evaluateRules.mp hfiring
    obtain ⟨row, hrow, hvalue⟩ := snapshot_value hsnapshot
    obtain ⟨hsupported, hviolated⟩ := ruleFiring_isSome_iff.mp ⟨firing, hfires⟩
    rw [hvalue] at hviolated
    exact ⟨rule, hmem, (ruleFiring_ruleName hfires).symm, hsupported, row, hrow, hviolated⟩
  · rintro ⟨rule, hmem, rfl, hsupported, row, hrow, hviolated⟩
    obtain ⟨snapshot, hsnapshot⟩ := fetchWindowMetricsSnapshot_of_ok hrow
    obtain ⟨row', hrow', hvalue⟩ := snapshot_value hsnapshot
    rw [hrow] at hrow'
    cases hrow'
    rw [← hvalue] at hviolated
    obtain ⟨firing, hfires⟩ := ruleFiring_isSome_iff.mpr ⟨hsupported, hviolated⟩
    refine ⟨firing, ?_, ruleFiring_ruleName hfires⟩
    exact mem_evaluateRules.mpr
      ⟨rule, hmem, (mem_activeRules.mp hmem).2, snapshot, hsnapshot, hfires⟩

/-- An objective of the name fires exactly if it has samples and is violated. -/
theorem sloFires_iff {name : String} :
    (∃ firing ∈ sloFirings setup cycle, firing.ruleName = name) ↔
      ∃ slo ∈ setup.slos, slo.name = name ∧ SloViolated cycle slo := by
  constructor
  · rintro ⟨firing, hfiring, rfl⟩
    obtain ⟨slo, hmem, hfires⟩ := List.mem_filterMap.mp hfiring
    exact ⟨slo, hmem, (sloFiring_ruleName hfires).symm, sloFiring_isSome_iff.mp ⟨firing, hfires⟩⟩
  · rintro ⟨slo, hmem, rfl, hviolated⟩
    obtain ⟨firing, hfires⟩ := sloFiring_isSome_iff.mpr hviolated
    exact ⟨firing, List.mem_filterMap.mpr ⟨slo, hmem, hfires⟩, sloFiring_ruleName hfires⟩

/-- **Something fires under a name exactly if a rule or an objective of that name could be
evaluated and is violated.** -/
theorem fires_iff {db : AlertDb} {name : String} :
    Fires setup cycle db name ↔
      (∃ rule ∈ activeRules db, rule.name = name ∧ RuleViolated setup cycle rule) ∨
        ∃ slo ∈ setup.slos, slo.name = name ∧ SloViolated cycle slo := by
  rw [← ruleFires_iff, ← sloFires_iff]
  unfold Fires
  simp only [List.mem_append, or_and_right, exists_or]

end Evaluation

/-! ### What becomes of an incident -/

/-- The tables and notifications a cycle leaves behind, also if it raises. -/
def finalRun : Outcome → Run
  | .ok run => run
  | .error (_, run) => run

/-- The resolutions sent for an incident. -/
def resolutionsFor (incidentId : Nat) (sent : List Sent) : Nat :=
  sent.countP fun s => s.incidentId = incidentId ∧ s.notification.isFiring = false

/-- While firings are reconciled, every incident keeps its status and its name, and is left as it
is if nothing fires under the name; only firings are sent. -/
structure Reconciles (fires : String → Prop) (run run' : Run) : Prop where
  rows : ∀ incident ∈ run.db.incidents, ∃ row ∈ run'.db.incidents,
    row.id = incident.id ∧ row.ruleName = incident.ruleName ∧ row.status = incident.status ∧
      (¬ fires incident.ruleName → row = incident)
  sent : ∃ more, run'.sent = run.sent ++ more ∧ ∀ s ∈ more, s.notification.isFiring = true

section Reconciling

variable {fires : String → Prop} {run run' run'' : Run}

theorem Reconciles.refl (run : Run) : Reconciles fires run run where
  rows incident hmem := ⟨incident, hmem, rfl, rfl, rfl, fun _ => rfl⟩
  sent := ⟨[], (List.append_nil _).symm, by simp⟩

theorem Reconciles.trans (h : Reconciles fires run run') (h' : Reconciles fires run' run'') :
    Reconciles fires run run'' where
  rows incident hmem := by
    obtain ⟨row, hrow, hid, hname, hstatus, hkept⟩ := h.rows incident hmem
    obtain ⟨row', hrow', hid', hname', hstatus', hkept'⟩ := h'.rows row hrow
    refine ⟨row', hrow', hid'.trans hid, hname'.trans hname, hstatus'.trans hstatus, ?_⟩
    intro hquiet
    rw [hkept' (by rw [hname]; exact hquiet), hkept hquiet]
  sent := by
    obtain ⟨more, hmore, hfirings⟩ := h.sent
    obtain ⟨more', hmore', hfirings'⟩ := h'.sent
    refine ⟨more ++ more', by rw [hmore', hmore, List.append_assoc], fun s hs => ?_⟩
    rcases List.mem_append.mp hs with hold | hnew
    · exact hfirings s hold
    · exact hfirings' s hnew

theorem openIncident_reconciles (run : Run) (new : NewIncident) (now : Int) (firing : AlertFiring)
    (due : Bool) : Reconciles fires run (run.openIncident new now firing due) where
  rows incident hmem := by
    refine ⟨incident, ?_, rfl, rfl, rfl, fun _ => rfl⟩
    rw [openIncident_db]
    exact List.mem_append_left _ hmem
  sent := ⟨_, openIncident_sent .., fun s hs => by rw [mem_dueFiring hs]; rfl⟩

/-- Counting on changes a row under a name that fires. -/
theorem updateIncident_reconciles {incident : AlertIncident} {name : String}
    (hopen : incident ∈ openIncidents run.db name) (hfires : fires name) (firing : AlertFiring)
    (due : Bool) : Reconciles fires run (run.updateIncident incident firing due) where
  rows row hmem := by
    refine ⟨_, by rw [updateIncident_db]; exact List.mem_map_of_mem hmem, ?_⟩
    obtain ⟨hincident, hname, -⟩ := mem_openIncidents.mp hopen
    split
    · rename_i hid
      refine ⟨rfl, rfl, rfl, fun hquiet => absurd hfires ?_⟩
      rw [← hname, ← eq_of_id hmem hincident hid]
      exact hquiet
    · exact ⟨rfl, rfl, rfl, fun _ => rfl⟩
  sent := ⟨_, updateIncident_sent .., fun s hs => by rw [mem_dueFiring hs]; rfl⟩

theorem mem_of_getOpen {name : String} {incident : AlertIncident}
    (h : getOpenIncidentByRuleName run.db name = .ok (some incident)) :
    incident ∈ openIncidents run.db name := by
  unfold getOpenIncidentByRuleName at h
  split at h
  · cases h
  · rename_i found hfound
    cases h
    rw [hfound]
    exact List.mem_singleton_self _
  · cases h

theorem reconcileRule_reconciles (clock : Clock) {firings : List AlertFiring} {rule : AlertRule}
    (hfires : ∀ firing ∈ firings, fires firing.ruleName) (run : Run) :
    Reconciles fires run (finalRun (reconcileRule clock (byName firings) run rule)) := by
  unfold reconcileRule
  split
  · exact Reconciles.refl run
  · rename_i firing hfiring
    obtain ⟨hmem, hname⟩ := mem_of_byName hfiring
    split
    · exact Reconciles.refl run
    · dsimp only [finalRun]
      exact openIncident_reconciles ..
    · rename_i incident hopen
      refine updateIncident_reconciles (mem_of_getOpen hopen) ?_ _ _
      rw [← hname]
      exact hfires firing hmem

theorem reconcileSlo_reconciles (clock : Clock) {firing : AlertFiring}
    (hfires : fires firing.ruleName) (run : Run) :
    Reconciles fires run (finalRun (reconcileSlo clock run firing)) := by
  unfold reconcileSlo
  split
  · exact Reconciles.refl run
  · dsimp only [finalRun]
    exact openIncident_reconciles ..
  · rename_i incident hopen
    dsimp only [finalRun]
    exact updateIncident_reconciles (mem_of_getOpen hopen) hfires _ _

theorem reconcile_reconciles (setup : Setup) (cycle : Cycle) (run : Run) :
    Reconciles (Fires setup cycle run.db) run (finalRun (reconcile setup cycle run)) := by
  have hseeded : Reconciles (Fires setup cycle run.db) run { run with db := seedRules run.db } := by
    refine ⟨fun incident hmem => ⟨incident, ?_, rfl, rfl, rfl, fun _ => rfl⟩, [],
      (List.append_nil _).symm, by simp⟩
    rw [(seedRules_incidents run.db).1]
    exact hmem
  have hrules : Reconciles (Fires setup cycle run.db) { run with db := seedRules run.db }
      (finalRun ((activeRules run.db).foldlM
        (reconcileRule cycle.clock (byName (ruleFirings setup cycle run.db)))
        { run with db := seedRules run.db })) := by
    refine foldlM_settles finalRun (fun _ => rfl) Reconciles.refl Reconciles.trans _ ?_
    intro rule _ s
    refine reconcileRule_reconciles cycle.clock (fun firing hmem => ?_) s
    exact ⟨firing, List.mem_append_left _ hmem, rfl⟩
  unfold reconcile
  dsimp only
  cases hloop : (activeRules run.db).foldlM
      (reconcileRule cycle.clock (byName (ruleFirings setup cycle run.db)))
      { run with db := seedRules run.db } with
  | error e =>
      rw [hloop] at hrules
      exact hseeded.trans hrules
  | ok run' =>
      rw [hloop] at hrules
      refine (hseeded.trans hrules).trans ?_
      refine foldlM_settles finalRun (fun _ => rfl) Reconciles.refl Reconciles.trans run' ?_
      intro firing hfiring s
      exact reconcileSlo_reconciles cycle.clock ⟨firing, List.mem_append_right _ hfiring, rfl⟩ s

end Reconciling

/-! ### Resolving -/

section Resolving

variable {run : Run} {incident : AlertIncident}

theorem resolutionsFor_append (incidentId : Nat) (sent more : List Sent) :
    resolutionsFor incidentId (sent ++ more) =
      resolutionsFor incidentId sent + resolutionsFor incidentId more := List.countP_append

theorem resolutionsFor_firings {incidentId : Nat} {more : List Sent}
    (h : ∀ s ∈ more, s.notification.isFiring = true) : resolutionsFor incidentId more = 0 := by
  unfold resolutionsFor
  rw [List.countP_eq_zero]
  intro s hs hfor
  simp [h s hs] at hfor

theorem resolutionsFor_resolutionSent (clock : Clock) (incidentId : Nat) (incident : AlertIncident) :
    resolutionsFor incidentId [resolutionSent clock incident] =
      if incident.id = incidentId then 1 else 0 := by
  simp [resolutionsFor, resolutionSent, Notification.isFiring, List.countP_singleton]

/-- What step 4 makes of one row: resolved and said so, once, if it is listed under a name that
does not fire, and untouched otherwise. -/
def Settles (clock : Clock) (firings : List AlertFiring) (listed : List AlertIncident)
    (row : AlertIncident) (run run' : Run) : Prop :=
  if row ∈ listed ∧ (byName firings).contains row.ruleName = false then
    resolved (clock.resolved row.id) row ∈ run'.db.incidents ∧
      resolutionsFor row.id run'.sent = resolutionsFor row.id run.sent + 1
  else
    row ∈ run'.db.incidents ∧ resolutionsFor row.id run'.sent = resolutionsFor row.id run.sent

theorem mem_markResolved {db : AlertDb} {row : AlertIncident} (hmem : row ∈ db.incidents) (now : Int) :
    resolved now row ∈ (markResolved db row.id now).incidents :=
  List.mem_map.mpr ⟨row, hmem, if_pos rfl⟩

theorem mem_markResolved_of_ne {db : AlertDb} {row : AlertIncident} (hmem : row ∈ db.incidents)
    {incidentId : Nat} (hne : row.id ≠ incidentId) (now : Int) :
    row ∈ (markResolved db incidentId now).incidents :=
  List.mem_map.mpr ⟨row, hmem, if_neg hne⟩

/-- A row further down the list, or not on it, is not concerned by a resolution before it. -/
theorem Settles.cons {clock : Clock} {firings : List AlertFiring} {listed : List AlertIncident}
    {row : AlertIncident} {run' : Run} (h : Settles clock firings listed row run run')
    (hne : row = incident → (byName firings).contains row.ruleName = true) :
    Settles clock firings (incident :: listed) row run run' := by
  have hiff : row ∈ incident :: listed ∧ (byName firings).contains row.ruleName = false ↔
      row ∈ listed ∧ (byName firings).contains row.ruleName = false := by
    rw [List.mem_cons]
    constructor
    · rintro ⟨heq | hmem, hquiet⟩
      · rw [hne heq] at hquiet
        cases hquiet
      · exact ⟨hmem, hquiet⟩
    · rintro ⟨hmem, hquiet⟩
      exact ⟨Or.inr hmem, hquiet⟩
  unfold Settles at h ⊢
  simp only [hiff]
  exact h

/-- The row that is resolved is not open any more, so the rest of the list does not concern it. -/
theorem Settles.resolved_here {clock : Clock} {firings : List AlertFiring}
    {listed : List AlertIncident} {run' : Run}
    (hopen : ∀ other ∈ listed, other.status = "firing")
    (hfires : (byName firings).contains incident.ruleName = false)
    (h : Settles clock firings listed (resolved (clock.resolved incident.id) incident)
      (afterResolution clock run incident) run') :
    Settles clock firings (incident :: listed) incident run run' := by
  have hcount : resolutionsFor incident.id (afterResolution clock run incident).sent =
      resolutionsFor incident.id run.sent + 1 := by
    rw [afterResolution, resolutionsFor_append, resolutionsFor_resolutionSent, if_pos rfl]
  have hlisted : resolved (clock.resolved incident.id) incident ∉ listed := by
    intro hmem
    have hstatus := hopen _ hmem
    simp [resolved] at hstatus
  unfold Settles at h ⊢
  rw [if_neg (fun hcleared => hlisted hcleared.1)] at h
  rw [if_pos ⟨List.mem_cons_self, hfires⟩]
  exact ⟨h.1, h.2.trans hcount⟩

/-- Another row is neither changed nor spoken of. -/
theorem Settles.resolved_elsewhere {clock : Clock} {firings : List AlertFiring}
    {listed : List AlertIncident} {row : AlertIncident} {run' : Run} (hne : row.id ≠ incident.id)
    (h : Settles clock firings listed row (afterResolution clock run incident) run') :
    Settles clock firings (incident :: listed) row run run' := by
  have hcount : resolutionsFor row.id (afterResolution clock run incident).sent =
      resolutionsFor row.id run.sent := by
    rw [afterResolution, resolutionsFor_append, resolutionsFor_resolutionSent,
      if_neg (Ne.symm hne)]
    rfl
  refine Settles.cons ?_ fun heq => absurd (congrArg AlertIncident.id heq) hne
  unfold Settles at h ⊢
  simp only [hcount] at h
  exact h

/-- The incidents of the list are different rows, so that each is resolved once. -/
theorem foldl_resolveCleared_settles (clock : Clock) (firings : List AlertFiring) :
    ∀ (listed : List AlertIncident) (run : Run),
      (∀ incident ∈ listed, incident ∈ run.db.incidents ∧ incident.status = "firing") →
      (listed.map (·.id)).Nodup →
      ∀ row ∈ run.db.incidents, Settles clock firings listed row run
        (listed.foldl (resolveCleared clock (byName firings)) run) := by
  intro listed
  induction listed with
  | nil =>
      intro run _ _ row hrow
      unfold Settles
      rw [if_neg (by simp)]
      exact ⟨hrow, rfl⟩
  | cons incident rest ih =>
      intro run hlisted hnodup row hrow
      rw [List.map_cons, List.nodup_cons] at hnodup
      obtain ⟨hfresh, hnodup⟩ := hnodup
      have hrest : ∀ other ∈ rest, other ∈ run.db.incidents ∧ other.status = "firing" :=
        fun other hother => hlisted other (List.mem_cons_of_mem _ hother)
      rw [List.foldl_cons]
      by_cases hfires : (byName firings).contains incident.ruleName = true
      · rw [resolveCleared_of_firing clock hfires]
        refine (ih run hrest hnodup row hrow).cons fun heq => ?_
        rw [heq]
        exact hfires
      · rw [Bool.not_eq_true] at hfires
        obtain ⟨hincident, hstatus⟩ := hlisted incident List.mem_cons_self
        rw [resolveCleared_of_open clock hincident hstatus hfires]
        have hrest' : ∀ other ∈ rest,
            other ∈ (afterResolution clock run incident).db.incidents ∧
              other.status = "firing" := by
          intro other hother
          obtain ⟨hmem, hopen⟩ := hrest other hother
          have hne : other.id ≠ incident.id := fun hid =>
            hfresh (List.mem_map.mpr ⟨other, hother, hid⟩)
          exact ⟨mem_markResolved_of_ne hmem hne _, hopen⟩
        by_cases hid : row.id = incident.id
        · have hrowEq := eq_of_id hrow hincident hid
          subst hrowEq
          refine Settles.resolved_here (fun other hother => (hrest other hother).2) hfires ?_
          exact ih _ hrest' hnodup _ (mem_markResolved hrow _)
        · refine Settles.resolved_elsewhere hid ?_
          exact ih _ hrest' hnodup row (mem_markResolved_of_ne hrow hid _)

theorem listed_open {limit : Nat}
    (h : incident ∈ listIncidents run.db (some "firing") limit 0) :
    incident ∈ run.db.incidents ∧ incident.status = "firing" := by
  obtain ⟨hmem, -, hstatus⟩ := mem_openIncidents.mp (mem_listIncidents h)
  exact ⟨hmem, hstatus⟩

end Resolving

/-! ### A cycle -/

/-- A rule or an objective of the name could be evaluated and is violated. -/
def FoundViolated (setup : Setup) (cycle : Cycle) (db : AlertDb) (name : String) : Prop :=
  (∃ rule ∈ activeRules db, rule.name = name ∧ RuleViolated setup cycle rule) ∨
    ∃ slo ∈ setup.slos, slo.name = name ∧ SloViolated cycle slo

/-- What a cycle may do to an incident: resolve it, and say so once, if nothing is found violated
under its name; or keep its status and say nothing of the kind, changing no more of it than what
is found violated calls for. -/
def Treats (setup : Setup) (cycle : Cycle) (run run' : Run) (incident : AlertIncident) : Prop :=
  ∃ row ∈ run'.db.incidents, row.id = incident.id ∧
    ((incident.status = "firing" ∧ ¬ FoundViolated setup cycle run.db incident.ruleName ∧
        row = resolved (cycle.clock.resolved incident.id) incident ∧
        resolutionsFor incident.id run'.sent = resolutionsFor incident.id run.sent + 1) ∨
      (row.status = incident.status ∧
        (¬ FoundViolated setup cycle run.db incident.ruleName → row = incident) ∧
        resolutionsFor incident.id run'.sent = resolutionsFor incident.id run.sent))

section Cycle

variable {setup : Setup} {cycle : Cycle} {run run' : Run} {incident : AlertIncident}

theorem Treats.of_reconciles (h : Reconciles (Fires setup cycle run.db) run run')
    (hmem : incident ∈ run.db.incidents) : Treats setup cycle run run' incident := by
  obtain ⟨row, hrow, hid, -, hstatus, hkept⟩ := h.rows incident hmem
  obtain ⟨more, hmore, hfirings⟩ := h.sent
  refine ⟨row, hrow, hid, Or.inr ⟨hstatus, fun hquiet => hkept ?_, ?_⟩⟩
  · rw [fires_iff]
    exact hquiet
  · rw [hmore, resolutionsFor_append, resolutionsFor_firings hfirings]
    rfl

/-- Step 4 after the firings were reconciled. -/
theorem Treats.of_resolveListed (h : Reconciles (Fires setup cycle run.db) run run')
    (hmem : incident ∈ run.db.incidents) :
    Treats setup cycle run (resolveListed cycle
      (byName (ruleFirings setup cycle run.db ++ sloFirings setup cycle)) run') incident := by
  obtain ⟨row, hrow, hid, hname, hstatus, hkept⟩ := h.rows incident hmem
  obtain ⟨more, hmore, hfirings⟩ := h.sent
  have hcount : resolutionsFor incident.id run'.sent = resolutionsFor incident.id run.sent := by
    rw [hmore, resolutionsFor_append, resolutionsFor_firings hfirings]
    rfl
  have hsettles := foldl_resolveCleared_settles cycle.clock
    (ruleFirings setup cycle run.db ++ sloFirings setup cycle)
    (listIncidents run'.db (some "firing") 50 0) run' (fun _ hlisted => listed_open hlisted)
    listIncidents_nodup row hrow
  unfold Settles at hsettles
  split at hsettles
  · rename_i hcleared
    obtain ⟨hlisted, hquiet⟩ := hcleared
    have hnotFires : ¬ Fires setup cycle run.db incident.ruleName := by
      unfold Fires
      rw [← contains_byName, ← hname, hquiet]
      exact Bool.false_ne_true
    have hsame := hkept hnotFires
    subst hsame
    refine ⟨_, hsettles.1, rfl, Or.inl ⟨(listed_open hlisted).2, ?_, rfl, ?_⟩⟩
    · rw [fires_iff] at hnotFires
      exact hnotFires
    · rw [hcount] at hsettles
      exact hsettles.2
  · refine ⟨row, hsettles.1, hid, Or.inr ⟨hstatus, fun hquiet => hkept ?_, ?_⟩⟩
    · rw [fires_iff]
      exact hquiet
    · rw [← hcount, ← hid]
      exact hsettles.2

/-- **A cycle resolves an incident, and says so, only if it is open and no rule or objective of
its name that the cycle could evaluate is violated; every other incident keeps its status, and
what nothing is found violated under is left as it is.** -/
theorem resolved_if_not_violated (setup : Setup) (cycle : Cycle) (run : Run) :
    ∀ incident ∈ run.db.incidents,
      Treats setup cycle run (finalRun (runAlertEvaluation setup cycle run)) incident := by
  intro incident hmem
  have hreconciles := reconcile_reconciles setup cycle run
  unfold runAlertEvaluation
  split
  · exact .of_reconciles (.refl run) hmem
  · split
    · exact .of_reconciles (.refl run) hmem
    · cases hrun : reconcile setup cycle run with
      | error e =>
          rw [hrun] at hreconciles
          exact .of_reconciles hreconciles hmem
      | ok run' =>
          rw [hrun] at hreconciles
          exact .of_resolveListed hreconciles hmem

/-- A rule or an objective of the name was evaluated on data: its window was read and holds a
value of its metric, or it has samples. -/
def EvaluatedOnData (setup : Setup) (cycle : Cycle) (db : AlertDb) (name : String) : Prop :=
  (∃ rule ∈ activeRules db, rule.name = name ∧ rule.metric ∈ supportedMetrics ∧
    ∃ row, cycle.queries.windowSnapshot ((windowInterval rule.window).getD 15) = .ok row ∧
      measured cycle.queries ((windowInterval rule.window).getD 15) row rule.metric ≠ none) ∨
    ∃ slo ∈ setup.slos, slo.name = name ∧ fetchSloActuals cycle.queries slo ≠ []

/-- A cycle that finds a latency in its window, or nothing at all. -/
def windowCycle (p95LatencyMs : Option ℚ) : Cycle where
  queries :=
    { windowSnapshot := fun _ => .ok (some ⟨p95LatencyMs, none, none⟩)
      queueWaitP95 := fun _ => .ok (some none)
      telemetrySnapshot := fun _ => .ok none
      metricsLatency := fun _ => .ok []
      metricsSuccess := fun _ => .ok []
      evalEce := fun _ => .ok []
      evalFallback := fun _ => .ok [] }

/-- Empty tables after a cycle with a high latency: the default rules, and one of them open. -/
def busyRun : Run := finalRun (runAlertEvaluation {} (windowCycle (some 25000)) { db := .empty })

/-- With the latency down again, its incident may be resolved. -/
theorem treats_recovered_latency :
    ∃ incident ∈ busyRun.db.incidents,
      incident.ruleName = "high_p95_latency" ∧ incident.status = "firing" ∧
        Treats {} (windowCycle (some 400)) busyRun
          (finalRun (runAlertEvaluation {} (windowCycle (some 400)) busyRun)) incident := by
  have hopen : ∃ incident ∈ busyRun.db.incidents,
      incident.ruleName = "high_p95_latency" ∧ incident.status = "firing" := by
    decide +kernel
  obtain ⟨incident, hmem, hname, hstatus⟩ := hopen
  exact ⟨incident, hmem, hname, hstatus,
    resolved_if_not_violated {} (windowCycle (some 400)) busyRun incident hmem⟩

/-- With the metrics gone, its incident is resolved on no data at all. -/
theorem empty_window_resolves :
    ∃ incident ∈ busyRun.db.incidents, incident.status = "firing" ∧
      (∃ row ∈ (finalRun (runAlertEvaluation {} (windowCycle none) busyRun)).db.incidents,
        row.id = incident.id ∧ row.status = "resolved") ∧
      resolutionsFor incident.id (finalRun (runAlertEvaluation {} (windowCycle none) busyRun)).sent
        = 1 ∧
      ¬ EvaluatedOnData {} (windowCycle none) busyRun.db incident.ruleName := by
  have hresolved : ∃ incident ∈ busyRun.db.incidents, incident.status = "firing" ∧
      (∃ row ∈ (finalRun (runAlertEvaluation {} (windowCycle none) busyRun)).db.incidents,
        row.id = incident.id ∧ row.status = "resolved") ∧
      resolutionsFor incident.id (finalRun (runAlertEvaluation {} (windowCycle none) busyRun)).sent
        = 1 := by
    decide +kernel
  obtain ⟨incident, hmem, hopen, hrow, hcount⟩ := hresolved
  refine ⟨incident, hmem, hopen, hrow, hcount, ?_⟩
  rintro (⟨rule, -, -, -, row, hread, hvalue⟩ | ⟨slo, hslo, -⟩)
  · cases hread
    refine hvalue ?_
    unfold measured
    split
    all_goals rfl
  · cases hslo

end Cycle

end AlertJob

end GaiaOS
