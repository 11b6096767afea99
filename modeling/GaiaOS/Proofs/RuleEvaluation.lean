/-
Whether a rule fires on what was measured.

The snapshot of a window starts every metric at zero, so a window without data is read as a
zero, and a rule that a zero violates fires on it.  Three of the supported metrics are read by
no query of the snapshot at all; their rules are held against the zero whatever the tables
hold.  And the threshold of the queue depth follows the size of the pool where it is compared,
and the rule's own column where the incident is opened.

All three are exact: `rule_evaluation_faithful_iff` says for which rules the verdict is that of
the data, and for which the incident holds the threshold that was compared.
-/
import GaiaOS.Proofs.AlertWork

namespace GaiaOS

namespace AlertJob

open Alerting AlertRepository

/-! ### What the tables hold -/

/-- Every query comes back. -/
structure AllAnswer (queries : Queries) : Prop where
  windowSnapshot : ∀ interval, ∃ row, queries.windowSnapshot interval = .ok row
  queueWaitP95 : ∀ interval, ∃ row, queries.queueWaitP95 interval = .ok row
  telemetrySnapshot : ∀ interval, ∃ row, queries.telemetrySnapshot interval = .ok row
  metricsSuccess : ∀ interval, ∃ rows, queries.metricsSuccess interval = .ok rows
  evalEce : ∀ interval, ∃ rows, queries.evalEce interval = .ok rows
  evalFallback : ∀ interval, ∃ rows, queries.evalFallback interval = .ok rows

/-- The samples of a query that came back. -/
def samplesOf (rows : Except PyError (List (Option ℚ))) : List ℚ :=
  (rows.toOption.getD []).filterMap id

/-- The samples of the metrics that are supported and in no snapshot. -/
def sampled (queries : Queries) (interval : Nat) (metric : String) : Option (List ℚ) :=
  match metric with
  | "investigation.job_success_rate" => some (samplesOf (queries.metricsSuccess interval))
  | "calibration_ece" => some (samplesOf (queries.evalEce interval))
  | "citation_fallback_rate" => some (samplesOf (queries.evalFallback interval))
  | _ => none

section Tables

variable (summary : List ℚ → ℚ) (setup : Setup) (cycle : Cycle)

/-- The minutes of a rule's window. -/
def interval (rule : AlertRule) : Nat := (windowInterval rule.window).getD 15

/-- What the snapshot measures for a rule. -/
def readValue (rule : AlertRule) : Option ℚ :=
  measured cycle.queries (interval rule)
    (cycle.queries.windowSnapshot (interval rule)).toOption.join rule.metric

/-- The value of a rule's metric in its window: what the snapshot measures, or, for the metrics
it does not know, its samples in one number. -/
def tableValue (rule : AlertRule) : Option ℚ :=
  match sampled cycle.queries (interval rule) rule.metric with
  | none => readValue cycle rule
  | some [] => none
  | some (x :: samples) => some (summary (x :: samples))

/-- The value violates the rule. -/
def violates (rule : AlertRule) (value : ℚ) : Bool :=
  isThresholdViolated value (effectiveThreshold setup.workerPoolSize rule) rule.comparison

/-- A rule fires exactly if its window holds data and that violates it. -/
def FiresOnData (db : AlertDb) : Prop :=
  ∀ rule ∈ activeRules db, rule.metric ∈ supportedMetrics →
    ((∃ firing ∈ ruleFirings setup cycle db, firing.ruleName = rule.name) ↔
      ∃ value, tableValue summary cycle rule = some value ∧ violates setup rule value = true)

/-- An incident opened for a rule in the cycle holds the threshold that was compared. -/
def StoresCompared (run run' : Run) : Prop :=
  ∀ rule ∈ activeRules run.db, ∀ row ∈ run'.db.incidents, run.db.nextId ≤ row.id →
    row.ruleName = rule.name → row.ruleId = some rule.id →
    row.threshold = effectiveThreshold setup.workerPoolSize rule

/-- The zero of a snapshot says no more of a rule than its data does: without data the zero does
not violate it, and where the snapshot does not know the metric it violates it exactly if the
samples do. -/
def ZeroHarmless (rule : AlertRule) : Prop :=
  match sampled cycle.queries (interval rule) rule.metric with
  | none => readValue cycle rule = none → violates setup rule 0 = false
  | some [] => violates setup rule 0 = false
  | some (x :: samples) => violates setup rule 0 = violates setup rule (summary (x :: samples))

end Tables

section Firing

variable {summary : List ℚ → ℚ} {setup : Setup} {cycle : Cycle} {rule : AlertRule}

/-- The snapshot does not know the sampled metrics. -/
theorem readValue_of_sampled {samples : List ℚ}
    (h : sampled cycle.queries (interval rule) rule.metric = some samples) :
    readValue cycle rule = none := by
  unfold sampled at h
  unfold readValue measured
  split at h
  · rename_i hmetric
    rw [hmetric]
    rfl
  · rename_i hmetric
    rw [hmetric]
    rfl
  · rename_i hmetric
    rw [hmetric]
    rfl
  · cases h

/-- A rule is violated as the snapshot reads it. -/
theorem ruleViolated_iff (hanswer : AllAnswer cycle.queries)
    (hsupported : rule.metric ∈ supportedMetrics) :
    RuleViolated setup cycle rule ↔ violates setup rule ((readValue cycle rule).getD 0) = true := by
  obtain ⟨row, hrow⟩ := hanswer.windowSnapshot (interval rule)
  have hread : readValue cycle rule = measured cycle.queries (interval rule) row rule.metric := by
    unfold readValue
    rw [hrow]
    rfl
  rw [hread]
  unfold RuleViolated
  constructor
  · rintro ⟨-, row', hrow', hviolated⟩
    have hsame : row' = row := by
      unfold interval at hrow
      rw [hrow'] at hrow
      cases hrow
      rfl
    rw [hsame] at hviolated
    exact hviolated
  · intro hviolated
    exact ⟨hsupported, row, hrow, hviolated⟩

/-- Names are unique, so a firing of the name is one of the rule. -/
theorem fires_iff_violated {db : AlertDb} (hanswer : AllAnswer cycle.queries)
    (hrule : rule ∈ activeRules db) (hsupported : rule.metric ∈ supportedMetrics) :
    (∃ firing ∈ ruleFirings setup cycle db, firing.ruleName = rule.name) ↔
      violates setup rule ((readValue cycle rule).getD 0) = true := by
  rw [ruleFires_iff, ← ruleViolated_iff hanswer hsupported]
  constructor
  · rintro ⟨other, hother, hname, hviolated⟩
    have hsame : other = rule := List.inj_on_of_nodup_map (seedRules db).rulesUnique
      (mem_activeRules.mp hother).1 (mem_activeRules.mp hrule).1 hname
    rw [← hsame]
    exact hviolated
  · intro hviolated
    exact ⟨rule, hrule, rfl, hviolated⟩

/-- The verdict on what is read is that on the data exactly if the zero is harmless. -/
theorem zeroHarmless_iff :
    (violates setup rule ((readValue cycle rule).getD 0) = true ↔
      ∃ value, tableValue summary cycle rule = some value ∧ violates setup rule value = true) ↔
      ZeroHarmless summary setup cycle rule := by
  unfold tableValue ZeroHarmless
  cases hsampled : sampled cycle.queries (interval rule) rule.metric with
  | none =>
      cases hread : readValue cycle rule with
      | none => simp
      | some value => simp
  | some samples =>
      rw [readValue_of_sampled hsampled]
      cases samples with
      | nil => simp
      | cons x samples =>
          simp only [Option.getD_none, Option.some.injEq, exists_eq_left']
          exact Bool.eq_iff_iff.symm

end Firing

/-! ### The threshold of an incident -/

/-- The rows are the same but for their status and what they count. -/
def Rewritten (rows rows' : List AlertIncident) : Prop :=
  ∃ f : AlertIncident → AlertIncident, rows' = rows.map f ∧
    ∀ row, (f row).id = row.id ∧ (f row).ruleName = row.ruleName ∧
      (f row).ruleId = row.ruleId ∧ (f row).threshold = row.threshold

section Threshold

variable {setup : Setup} {cycle : Cycle} {run run' : Run}

theorem Rewritten.refl (rows : List AlertIncident) : Rewritten rows rows :=
  ⟨id, (List.map_id _).symm, fun _ => ⟨rfl, rfl, rfl, rfl⟩⟩

theorem Rewritten.trans {rows rows' rows'' : List AlertIncident} (h : Rewritten rows rows')
    (h' : Rewritten rows' rows'') : Rewritten rows rows'' := by
  obtain ⟨f, rfl, hf⟩ := h
  obtain ⟨g, rfl, hg⟩ := h'
  refine ⟨g ∘ f, List.map_map, fun row => ?_⟩
  obtain ⟨hid, hname, hrule, hthreshold⟩ := hg (f row)
  obtain ⟨hid', hname', hrule', hthreshold'⟩ := hf row
  exact ⟨hid.trans hid', hname.trans hname', hrule.trans hrule', hthreshold.trans hthreshold'⟩

theorem resolveCleared_rewritten (clock : Clock) (allFirings : Dict String AlertFiring) (run : Run)
    (incident : AlertIncident) :
    Rewritten run.db.incidents (resolveCleared clock allFirings run incident).db.incidents := by
  rcases resolveCleared_db clock allFirings run incident with hdb | hdb
  · rw [hdb]
    exact Rewritten.refl _
  · rw [hdb]
    refine ⟨_, rfl, fun row => ?_⟩
    split
    · exact ⟨rfl, rfl, rfl, rfl⟩
    · exact ⟨rfl, rfl, rfl, rfl⟩

theorem foldl_resolveCleared_rewritten (clock : Clock) (allFirings : Dict String AlertFiring)
    (listed : List AlertIncident) :
    ∀ run : Run, Rewritten run.db.incidents
      (listed.foldl (resolveCleared clock allFirings) run).db.incidents := by
  induction listed with
  | nil =>
      intro run
      exact Rewritten.refl _
  | cons incident listed ih =>
      intro run
      exact (resolveCleared_rewritten clock allFirings run incident).trans (ih _)

/-- A rule that fires is reconciled before any objective of its name. -/
theorem find_works {rule : AlertRule} (hrule : rule ∈ activeRules run.db)
    (hfires : ∃ firing ∈ ruleFirings setup cycle run.db, firing.ruleName = rule.name) :
    ∃ firing, (works setup cycle run.db).find? (fun work => work.name = rule.name) =
      some (.ofRule rule firing) := by
  have hcontains := contains_byName.mpr hfires
  obtain ⟨firing, hfiring⟩ := Option.isSome_iff_exists.mp hcontains
  unfold works evaluate
  rw [List.find?_append]
  cases hfind : ((listAlertRules (seedRules run.db)).filter (·.isEnabled)).filterMap
      (fun rule => ((byName (ruleFirings setup cycle run.db)).get? rule.name).map (Work.ofRule rule))
      |>.find? (fun work => work.name = rule.name) with
  | none =>
      rw [List.find?_eq_none] at hfind
      refine absurd rfl (of_decide_eq_false (Bool.not_eq_true _ ▸ hfind (.ofRule rule firing) ?_))
      exact List.mem_filterMap.mpr ⟨rule, hrule, by rw [hfiring]; rfl⟩
  | some work =>
      have hname : work.name = rule.name := by simpa using List.find?_some hfind
      obtain ⟨other, hother, hmap⟩ := List.mem_filterMap.mp (List.mem_of_find?_eq_some hfind)
      obtain ⟨firing', -, rfl⟩ := Option.map_eq_some_iff.mp hmap
      have hsame : other = rule := List.inj_on_of_nodup_map (seedRules run.db).rulesUnique
        (mem_activeRules.mp hother).1 (mem_activeRules.mp hrule).1 hname
      rw [hsame] at hfind
      refine ⟨firing', ?_⟩
      exact (congrArg (Option.or · _) hfind).trans (Option.some_or ..)

/-- The rows a cycle has added are those of the first firings of their names. -/
theorem created_iff (henabled : setup.alertingEnabled = true) (hready : setup.sessionReady = true)
    (hrun : runAlertEvaluation setup cycle run = .ok run') (ruleName : String)
    (ruleId : Option Nat) (threshold : ℚ) :
    (∃ row ∈ run'.db.incidents, run.db.nextId ≤ row.id ∧ row.ruleName = ruleName ∧
        row.ruleId = ruleId ∧ row.threshold = threshold) ↔
      openIncidents run.db ruleName = [] ∧
        ∃ work, (works setup cycle run.db).find? (fun work => work.name = ruleName) = some work ∧
          work.opened.ruleId = ruleId ∧ work.opened.threshold = threshold := by
  unfold runAlertEvaluation at hrun
  rw [henabled, hready] at hrun
  obtain ⟨reconciled, hreconcile, hlast⟩ := ok_of_bind hrun
  cases hlast
  obtain ⟨new, hgrowth, honly, hall⟩ := reconcile_opened hreconcile
  obtain ⟨keep, hkeep, hrows⟩ := hgrowth.rows
  obtain ⟨f, hrewritten, hf⟩ := foldl_resolveCleared_rewritten cycle.clock
    (byName (ruleFirings setup cycle run.db ++ sloFirings setup cycle))
    (listIncidents reconciled.db (some "firing") 50 0) reconciled
  obtain ⟨hincidents, hnext⟩ := seedRules_incidents run.db
  have hmem : ∀ row', row' ∈ (resolveListed cycle
      (byName (ruleFirings setup cycle run.db ++ sloFirings setup cycle)) reconciled).db.incidents ↔
      ∃ row ∈ run.db.incidents.map keep ++ new, f row = row' := by
    intro row'
    unfold resolveListed
    rw [hrewritten, List.mem_map, hrows, hincidents]
  simp only [hmem]
  constructor
  · rintro ⟨-, ⟨row, hrow, rfl⟩, hid, rfl, rfl, rfl⟩
    obtain ⟨hsameId, hsameName, hsameRule, hsameThreshold⟩ := hf row
    rcases List.mem_append.mp hrow with hold | hnew
    · -- an old row has an older identifier
      obtain ⟨old, hmemOld, rfl⟩ := List.mem_map.mp hold
      rw [hsameId, (hkeep old).id] at hid
      exact absurd (run.db.idsBelow old hmemOld) (Nat.not_lt.mpr hid)
    · obtain ⟨work, hfind, hopened⟩ := honly row hnew
      rw [hsameName, hsameRule, hsameThreshold, ← openIncidents_seedRules]
      exact ⟨hgrowth.fresh row hnew, work, hfind, hopened.ruleId.symm, hopened.threshold.symm⟩
  · rintro ⟨hnone, work, hfind, rfl, rfl⟩
    have hname : work.name = ruleName := by simpa using List.find?_some hfind
    rw [← openIncidents_seedRules, ← hname] at hnone
    have hcreated := (hall work (List.mem_of_find?_eq_some hfind)).resolve_right
      (not_not_intro hnone)
    obtain ⟨row, hrow, hrowName⟩ := List.mem_map.mp hcreated
    obtain ⟨work', hfind', hopened⟩ := honly row hrow
    have hsame : work' = work := by
      rw [hrowName, hname, hfind] at hfind'
      exact (Option.some.inj hfind').symm
    rw [hsame] at hopened
    obtain ⟨hsameId, hsameName, hsameRule, hsameThreshold⟩ := hf row
    refine ⟨f row, ⟨row, List.mem_append_right _ hrow, rfl⟩, ?_, ?_, ?_, ?_⟩
    · rw [hsameId]
      exact hnext.trans (hgrowth.ids row hrow)
    · rw [hsameName, hrowName, hname]
    · rw [hsameRule, hopened.ruleId]
    · rw [hsameThreshold, hopened.threshold]

/-- The incidents hold the compared threshold exactly if the column of each queue depth rule that
opens one is that of the pool. -/
theorem storesCompared_iff (hanswer : AllAnswer cycle.queries)
    (henabled : setup.alertingEnabled = true) (hready : setup.sessionReady = true)
    (hrun : runAlertEvaluation setup cycle run = .ok run') :
    StoresCompared setup run run' ↔
      ∀ rule ∈ activeRules run.db, rule.metric = "scaling.queue_depth" →
        violates setup rule ((readValue cycle rule).getD 0) = true →
        openIncidents run.db rule.name = [] → rule.threshold = 10 * setup.workerPoolSize := by
  constructor
  · intro h rule hrule hmetric hviolated hnone
    have hsupported : rule.metric ∈ supportedMetrics := by
      rw [hmetric]
      decide
    obtain ⟨firing, hfind⟩ :=
      find_works hrule ((fires_iff_violated hanswer hrule hsupported).mpr hviolated)
    obtain ⟨row, hrow, hid, hname, hruleId, hthreshold⟩ :=
      (created_iff henabled hready hrun rule.name (some rule.id) rule.threshold).mpr
        ⟨hnone, _, hfind, rfl, rfl⟩
    have hcompared := h rule hrule row hrow hid hname hruleId
    rw [hthreshold, effectiveThreshold, if_pos hmetric] at hcompared
    exact hcompared
  · intro h rule hrule row hrow hid hname hruleId
    obtain ⟨hnone, work, hfind, hworkId, hthreshold⟩ :=
      (created_iff henabled hready hrun row.ruleName row.ruleId row.threshold).mp
        ⟨row, hrow, hid, rfl, rfl, rfl⟩
    rw [hname] at hnone hfind
    have hworkName : work.name = rule.name := by simpa using List.find?_some hfind
    rcases mem_works.mp (List.mem_of_find?_eq_some hfind) with
      ⟨other, hother, firing, hfiring, rfl⟩ | ⟨firing, -, rfl⟩
    · have hsame : other = rule := List.inj_on_of_nodup_map (seedRules run.db).rulesUnique
        (mem_activeRules.mp hother).1 (mem_activeRules.mp hrule).1 hworkName
      subst hsame
      rw [← hthreshold]
      show other.threshold = _
      unfold effectiveThreshold
      split
      · rename_i hmetric
        have hsupported : other.metric ∈ supportedMetrics := by
          rw [hmetric]
          decide
        refine h other hother hmetric ?_ hnone
        obtain ⟨hmem, hfiringName⟩ := mem_of_byName hfiring
        exact (fires_iff_violated hanswer hother hsupported).mp ⟨firing, hmem, hfiringName⟩
      · rfl
    · rw [hruleId] at hworkId
      cases hworkId

end Threshold

/-- **When rules are evaluated faithfully.**  For every content of the tables with every query
coming back, and every way to sum up the samples of a metric: the rules fire exactly on data
that violates them and the incidents opened for them hold the threshold that was compared, if
and only if the zero of the snapshot is harmless for every rule over a supported metric, and a
rule over the queue depth that fires with nothing open has ten times the size of the pool as
its threshold. -/
theorem rule_evaluation_faithful_iff (summary : List ℚ → ℚ) (setup : Setup) (cycle : Cycle)
    (run run' : Run) (hanswer : AllAnswer cycle.queries)
    (henabled : setup.alertingEnabled = true) (hready : setup.sessionReady = true)
    (hrun : runAlertEvaluation setup cycle run = .ok run') :
    (FiresOnData summary setup cycle run.db ∧ StoresCompared setup run run') ↔
      (∀ rule ∈ activeRules run.db, rule.metric ∈ supportedMetrics →
        ZeroHarmless summary setup cycle rule) ∧
      ∀ rule ∈ activeRules run.db, rule.metric = "scaling.queue_depth" →
        violates setup rule ((readValue cycle rule).getD 0) = true →
        openIncidents run.db rule.name = [] → rule.threshold = 10 * setup.workerPoolSize := by
  refine and_congr ?_ (storesCompared_iff hanswer henabled hready hrun)
  unfold FiresOnData
  refine forall₂_congr fun rule hrule => forall_congr' fun hsupported => ?_
  rw [fires_iff_violated hanswer hrule hsupported]
  exact zeroHarmless_iff

/-- The mean of some samples. -/
def mean (samples : List ℚ) : ℚ := samples.sum / samples.length

/-- Every query of this cycle comes back. -/
theorem windowCycle_answers (p95LatencyMs : Option ℚ) :
    AllAnswer (windowCycle p95LatencyMs).queries :=
  ⟨fun _ => ⟨_, rfl⟩, fun _ => ⟨_, rfl⟩, fun _ => ⟨_, rfl⟩, fun _ => ⟨_, rfl⟩, fun _ => ⟨_, rfl⟩,
    fun _ => ⟨_, rfl⟩⟩

/-- The default rules on a high latency. -/
theorem faithful_high_latency :
    ∃ run', runAlertEvaluation {} (windowCycle (some 25000)) { db := .empty } = .ok run' ∧
      FiresOnData mean {} (windowCycle (some 25000)) .empty ∧
      StoresCompared {} { db := .empty } run' := by
  cases hrun : runAlertEvaluation {} (windowCycle (some 25000)) { db := .empty } with
  | error e =>
      have hok : (runAlertEvaluation {} (windowCycle (some 25000)) { db := .empty }).isOk = true := by
        decide +kernel
      rw [hrun] at hok
      cases hok
  | ok run' =>
      refine ⟨run', rfl, (rule_evaluation_faithful_iff mean {} _ { db := .empty } run'
        (windowCycle_answers _) rfl rfl hrun).mpr ⟨?_, ?_⟩⟩
      · have hall : ∀ rule ∈ activeRules .empty,
            sampled (windowCycle (some 25000)).queries (interval rule) rule.metric = none ∧
              violates {} rule 0 = false := by
          decide +kernel
        intro rule hrule _
        obtain ⟨hsampled, hzero⟩ := hall rule hrule
        unfold ZeroHarmless
        rw [hsampled]
        exact fun _ => hzero
      · have hall : ∀ rule ∈ activeRules .empty, rule.metric = "scaling.queue_depth" →
            rule.threshold = 20 := by
          decide +kernel
        intro rule hrule hmetric _ _
        rw [hall rule hrule hmetric]
        norm_num

theorem queue_depth_supported : "scaling.queue_depth" ∈ supportedMetrics := by decide

/-- A rule that is violated by small values, and one over the queue depth; what they do not say
is as in the first of the defaults. -/
def oddRules : AlertDb :=
  upsertAlertRule
    (upsertAlertRule .empty
      { name := "cheap_investigations"
        metric := "investigation.avg_cost_estimate"
        threshold := 1
        comparison := "lt"
        windowKnown := highP95Latency.windowKnown
        severityKnown := highP95Latency.severityKnown
        cyclesPositive := highP95Latency.cyclesPositive })
    { name := "deep_queue"
      metric := "scaling.queue_depth"
      threshold := 20
      metricSupported := queue_depth_supported
      comparisonKnown := highP95Latency.comparisonKnown
      windowKnown := highP95Latency.windowKnown
      severityKnown := highP95Latency.severityKnown
      cyclesPositive := highP95Latency.cyclesPositive }

/-- A cycle that finds no metrics and a queue of a hundred. -/
def deepQueueCycle : Cycle where
  queries :=
    { windowSnapshot := fun _ => .ok (some ⟨none, none, none⟩)
      queueWaitP95 := fun _ => .ok (some none)
      telemetrySnapshot := fun _ => .ok (some ⟨some 100, none⟩)
      metricsLatency := fun _ => .ok []
      metricsSuccess := fun _ => .ok []
      evalEce := fun _ => .ok []
      evalFallback := fun _ => .ok [] }

/-- The first rule fires on an empty window; and with four workers the second is held to forty
and its incident says twenty. -/
theorem odd_rules_unfaithful :
    ∃ run', runAlertEvaluation { workerPoolSize := 4 } deepQueueCycle { db := oddRules } = .ok run' ∧
      ¬ FiresOnData mean { workerPoolSize := 4 } deepQueueCycle oddRules ∧
      ¬ StoresCompared { workerPoolSize := 4 } { db := oddRules } run' := by
  cases hrun : runAlertEvaluation { workerPoolSize := 4 } deepQueueCycle { db := oddRules } with
  | error e =>
      have hok : (runAlertEvaluation { workerPoolSize := 4 } deepQueueCycle
          { db := oddRules }).isOk = true := by
        decide +kernel
      rw [hrun] at hok
      cases hok
  | ok run' =>
      refine ⟨run', rfl, fun h => ?_, fun h => ?_⟩
      · have hfires : ∃ rule ∈ activeRules oddRules, rule.metric ∈ supportedMetrics ∧
            (∃ firing ∈ ruleFirings { workerPoolSize := 4 } deepQueueCycle oddRules,
              firing.ruleName = rule.name) ∧ tableValue mean deepQueueCycle rule = none := by
          decide +kernel
        obtain ⟨rule, hrule, hsupported, hfiring, hnone⟩ := hfires
        obtain ⟨value, hvalue, -⟩ := (h rule hrule hsupported).mp hfiring
        rw [hnone] at hvalue
        cases hvalue
      · have hrows : ∃ rule ∈ activeRules oddRules, ∃ row ∈ (finalRun (runAlertEvaluation
            { workerPoolSize := 4 } deepQueueCycle { db := oddRules })).db.incidents,
            oddRules.nextId ≤ row.id ∧ row.ruleName = rule.name ∧ row.ruleId = some rule.id ∧
              row.threshold ≠ effectiveThreshold 4 rule := by
          decide +kernel
        obtain ⟨rule, hrule, row, hrow, hid, hname, hruleId, hne⟩ := hrows
        rw [hrun] at hrow
        exact hne (h rule hrule row hrow hid hname hruleId)

end AlertJob

end GaiaOS
