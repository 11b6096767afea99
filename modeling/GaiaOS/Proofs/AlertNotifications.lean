/-
What is announced, over whole runs of the alert job.

The job tells from an incident's count whether its firing has been announced: it is announced
when the count equals the rule's `consecutive_cycles`, and at once if the first count is
already enough.  As long as a rule stays as it is that is the alarm of `Lib/Alarm.lean`, and
`runAlertEvaluation_moves` carries its two laws over to runs of the job.

Each law has one way to fail.  A resolution is announced whether or not the firing was, so the
notifications under a name alternate if no incident clears before its count is met
(`notifications_alternate`).  And once `consecutive_cycles` is moved past the count of an open
incident, in either direction, the count meets it never or a second time; short of that an
incident whose count is met has been announced exactly once (`sustained_announced_once`).
Both laws take it that a name belongs to a rule or to an objective, not to both.
-/
import GaiaOS.Proofs.AlertAlarm

namespace GaiaOS

namespace AlertJob

open Alerting AlertRepository

/-- No incident is open. -/
def NoneOpen (db : AlertDb) : Prop := ∀ incident ∈ db.incidents, incident.status ≠ "firing"

section Start

variable {db : AlertDb} {name : String}

theorem openIncidents_of_noneOpen (h : NoneOpen db) : openIncidents db name = [] := by
  rw [List.eq_nil_iff_forall_not_mem]
  intro incident hmem
  obtain ⟨hincident, -, hstatus⟩ := mem_openIncidents.mp hmem
  exact h incident hincident hstatus

theorem sound_start (h : NoneOpen db) : Sound { db := db } where
  one_open name := by
    rw [openIncidents_of_noneOpen h]
    exact Nat.zero_le 1
  counted name incident hmem := by
    rw [openIncidents_of_noneOpen h] at hmem
    cases hmem
  sent_known s hs := by cases hs

theorem orderly_start (h : NoneOpen db) (threshold : Int) :
    (alarmOf name { db := db }).Orderly threshold := by
  rw [alarmOf_of_none (openIncidents_of_noneOpen h)]
  refine ⟨?_, alternating_nil, ?_⟩
  · intro episode hepisode
    cases hepisode
  · simp [spokenOf]

end Start

/-! ### Alternation -/

/-- One cycle after another; a cycle that raises leads nowhere. -/
def cycleStep (setup : Setup) (run : Run) (cycle : Cycle) : Option Run :=
  (runAlertEvaluation setup cycle run).toOption

/-- Every open incident that clears has reached the count of its name. -/
def ClearsAnnounced (setup : Setup) (cycle : Cycle) (db : AlertDb) : Prop :=
  ∀ incident ∈ db.incidents, incident.status = "firing" →
    ¬ Fires setup cycle db incident.ruleName →
    thresholdOf (seedRules db).rules incident.ruleName ≤ incident.consecutiveViolations

/-- A cycle in which no rule shares its name with an objective that fires, and no incident
clears early. -/
def Undisturbed (setup : Setup) (run : Run) (cycle : Cycle) : Prop :=
  NamesApart setup cycle run.db ∧ ClearsAnnounced setup cycle run.db

section Alternation

variable {setup : Setup} {run run' : Run} {cycle : Cycle}

theorem runAlertEvaluation_of_step (h : cycleStep setup run cycle = some run') :
    runAlertEvaluation setup cycle run = .ok run' := by
  unfold cycleStep at h
  cases hrun : runAlertEvaluation setup cycle run with
  | error e =>
      rw [hrun] at h
      cases h
  | ok after =>
      rw [hrun] at h
      cases h
      rfl

theorem episode_violations {name : String} {episode : Episode}
    (h : (alarmOf name run).episode = some episode) :
    ∃ incident ∈ openIncidents run.db name,
      episode = ⟨incident.consecutiveViolations, firingsFor incident.id run.sent⟩ := by
  obtain ⟨incident, hhead, rfl⟩ := Option.map_eq_some_iff.mp h
  exact ⟨incident, List.mem_of_mem_head? hhead, rfl⟩

/-- The alarms of a run. -/
structure AllOrderly (run : Run) : Prop where
  sound : Sound run
  orderly : ∀ name, (alarmOf name run).Orderly (thresholdOf (seedRules run.db).rules name)

/-- An undisturbed cycle clears only what it has announced. -/
theorem AllOrderly.step (h : AllOrderly run) (hquiet : Undisturbed setup run cycle)
    (hstep : runAlertEvaluation setup cycle run = .ok run') : AllOrderly run' := by
  obtain ⟨after, hafter, hsound, hrules, hmoves⟩ := runAlertEvaluation_moves h.sound hquiet.1
  rw [hstep] at hafter
  cases hafter
  refine ⟨hsound, fun name => ?_⟩
  rw [hrules]
  rcases hmoves name with ⟨k, hraised⟩ | ⟨hnot, hcleared⟩
  · rw [hraised]
    exact (h.orderly name).iterate_raise k
  · rw [hcleared]
    refine (h.orderly name).clear fun episode hepisode => ?_
    obtain ⟨incident, hopen, rfl⟩ := episode_violations hepisode
    obtain ⟨hmem, hname, hstatus⟩ := mem_openIncidents.mp hopen
    have hmet := hquiet.2 incident hmem hstatus (by rw [hname]; exact hnot)
    rw [hname] at hmet
    exact hmet

/-- **From a table with nothing open, through cycles that are undisturbed, what is sent under
every name alternates, and every such cycle goes through.** -/
theorem notifications_alternate {db : AlertDb} {cycles : List Cycle} (hstart : NoneOpen db)
    (h : Reaches (cycleStep setup) (Undisturbed setup) { db := db } cycles run) :
    (∀ name, Alternating (spokenOf name run.sent)) ∧
      ∀ cycle, Undisturbed setup run cycle →
        ∃ run', runAlertEvaluation setup cycle run = .ok run' := by
  have hall : AllOrderly run := by
    refine h.invariant ⟨sound_start hstart, fun name => orderly_start hstart _⟩ ?_
    intro s cycle s' hs hquiet hstep
    exact hs.step hquiet (runAlertEvaluation_of_step hstep)
  refine ⟨fun name => (hall.orderly name).alternating, fun cycle hquiet => ?_⟩
  obtain ⟨run', hrun, -⟩ := runAlertEvaluation_moves hall.sound hquiet.1
  exact ⟨run', hrun⟩

end Alternation

section Samples

/-- The default rule on latency, asking for some number of cycles. -/
def latencyRule (consecutiveCycles : Int) : AlertRule :=
  { newRule 0 highP95Latency with consecutiveCycles }

/-- A table with that rule only. -/
def latencyDb (consecutiveCycles : Int) : AlertDb :=
  { AlertDb.empty with
    rules := [latencyRule consecutiveCycles]
    nextId := 1
    rulesUnique := List.nodup_singleton _
    idsBelow := fun _ hmem => absurd hmem List.not_mem_nil }

/-- A cycle that measures a latency. -/
def latencyCycle (p95LatencyMs : ℚ) : Cycle where
  queries :=
    { windowSnapshot := fun _ => .ok (some ⟨some p95LatencyMs, none, none⟩)
      queueWaitP95 := fun _ => .ok (some none)
      telemetrySnapshot := fun _ => .ok none
      metricsLatency := fun _ => .ok [some p95LatencyMs]
      metricsSuccess := fun _ => .ok []
      evalEce := fun _ => .ok []
      evalFallback := fun _ => .ok [] }

instance (setup : Setup) (cycle : Cycle) (db : AlertDb) (name : String) :
    Decidable (Fires setup cycle db name) :=
  inferInstanceAs (Decidable (∃ firing ∈ _, _))

instance (setup : Setup) (run : Run) (cycle : Cycle) : Decidable (Undisturbed setup run cycle) :=
  inferInstanceAs (Decidable ((∀ firing ∈ _, ∀ rule ∈ _, _) ∧ ∀ incident ∈ _, _ → _ → _))

/-- Two cycles over the threshold and one below it. -/
theorem alternate_announced_resolved :
    ∃ run, Reaches (cycleStep {}) (Undisturbed {}) { db := latencyDb 2 }
        [latencyCycle 18000, latencyCycle 19000, latencyCycle 100] run ∧
      spokenOf "high_p95_latency" run.sent = [true, false] ∧
      (∀ name, Alternating (spokenOf name run.sent)) := by
  have hrun : (runAllowed (cycleStep {}) (Undisturbed {})
      [latencyCycle 18000, latencyCycle 19000, latencyCycle 100]
      { db := latencyDb 2 }).map (fun run => spokenOf "high_p95_latency" run.sent) =
        some [true, false] := by
    decide
  obtain ⟨run, hrun, hspoken⟩ := Option.map_eq_some_iff.mp hrun
  have hreaches := Reaches.of_runAllowed hrun
  refine ⟨run, hreaches, hspoken, (notifications_alternate ?_ hreaches).1⟩
  intro incident hmem
  cases hmem

/-- An objective of the same name on the same samples. -/
def latencySlo : SLODefinition where
  name := "high_p95_latency"
  target := 95 / 100
  metric := "investigation.p95_latency_ms"
  threshold := some 10000
  nameLength := highP95Latency.nameLength

/-- One cycle over the threshold and one below it: nothing was announced, and its end is.  With
an objective of the same name counting along, even a violation that lasts is not announced. -/
theorem unannounced_resolved :
    (∃ run, [latencyCycle 18000, latencyCycle 100].foldlM (cycleStep {})
        { db := latencyDb 2 } = some run ∧
      ¬ Alternating (spokenOf "high_p95_latency" run.sent)) ∧
    ∃ run, [latencyCycle 18000, latencyCycle 18000, latencyCycle 100].foldlM
        (cycleStep { slos := [latencySlo] })
        { db := latencyDb 2 } = some run ∧
      ¬ Alternating (spokenOf "high_p95_latency" run.sent) := by
  have hfalse : ¬ Alternating [false] := fun halternating => by
    have hfirst := (halternating 0 false rfl).mpr rfl
    cases hfirst
  have hearly : ([latencyCycle 18000, latencyCycle 100].foldlM (cycleStep {})
      { db := latencyDb 2 }).map (fun run => spokenOf "high_p95_latency" run.sent) = some [false] := by
    decide
  have hshared : ([latencyCycle 18000, latencyCycle 18000, latencyCycle 100].foldlM
      (cycleStep { slos := [latencySlo] })
      { db := latencyDb 2 }).map (fun run => spokenOf "high_p95_latency" run.sent) = some [false] := by
    decide +kernel
  obtain ⟨run, hrun, hspoken⟩ := Option.map_eq_some_iff.mp hearly
  obtain ⟨run', hrun', hspoken'⟩ := Option.map_eq_some_iff.mp hshared
  refine ⟨⟨run, hrun, ?_⟩, run', hrun', ?_⟩
  · rw [hspoken]
    exact hfalse
  · rw [hspoken']
    exact hfalse

end Samples

/-! ### Sustained violations -/

/-- What happens between two states: a cycle, or an operator's upsert of a rule. -/
inductive Event
  | cycle (cycle : Cycle)
  | edit (schema : AlertRuleSchema)

def eventStep (setup : Setup) (run : Run) : Event → Option Run
  | .cycle cycle => cycleStep setup run cycle
  | .edit schema => some { run with db := upsertAlertRule run.db schema }

/-- The upsert changes nothing of a rule but its `consecutive_cycles`. -/
def EditsCycles (db : AlertDb) (schema : AlertRuleSchema) : Prop :=
  ∃ rule ∈ db.rules, rule.name = schema.name ∧
    assignRule schema rule = { rule with consecutiveCycles := schema.consecutiveCycles }

/-- A cycle in which no rule shares its name with an objective that fires, or an edit that leaves
the count of the rule's open incident on the same side of `consecutive_cycles`. -/
def Steady (setup : Setup) (run : Run) : Event → Prop
  | .cycle cycle => NamesApart setup cycle run.db
  | .edit schema => EditsCycles run.db schema ∧
      ∀ rule ∈ run.db.rules, rule.name = schema.name → rule.isEnabled = true →
        ∀ incident ∈ openIncidents run.db rule.name,
          (rule.consecutiveCycles ≤ incident.consecutiveViolations ↔
            schema.consecutiveCycles ≤ incident.consecutiveViolations)

/-- Every open incident that has reached its rule's count has been announced once. -/
def AnnouncedOnce (run : Run) : Prop :=
  ∀ rule ∈ run.db.rules, ∀ incident ∈ openIncidents run.db rule.name,
    rule.consecutiveCycles ≤ incident.consecutiveViolations →
    firingsFor incident.id run.sent = 1

section Sustained

variable {setup : Setup} {run run' : Run}

/-- What an edit makes of a rule. -/
def editRule (schema : AlertRuleSchema) (rule : AlertRule) : AlertRule :=
  if rule.name = schema.name then { rule with consecutiveCycles := schema.consecutiveCycles }
  else rule

theorem editRule_name (schema : AlertRuleSchema) (rule : AlertRule) :
    (editRule schema rule).name = rule.name := by
  unfold editRule
  split
  · rfl
  · rfl

theorem editRule_isEnabled (schema : AlertRuleSchema) (rule : AlertRule) :
    (editRule schema rule).isEnabled = rule.isEnabled := by
  unfold editRule
  split
  · rfl
  · rfl

/-- An upsert that edits a rule. -/
theorem upsertRules_of_edit {db : AlertDb} {schema : AlertRuleSchema}
    (hedit : EditsCycles db schema) :
    (upsertAlertRule db schema).rules = db.rules.map (editRule schema) := by
  obtain ⟨edited, hedited, hname, hassign⟩ := hedit
  show upsertRules schema db.nextId db.rules = _
  unfold upsertRules
  rw [if_pos (List.mem_map.mpr ⟨edited, hedited, hname⟩)]
  refine List.map_congr_left fun rule hrule => ?_
  unfold editRule
  split
  · rename_i hsame
    have heq : rule = edited :=
      List.inj_on_of_nodup_map db.rulesUnique hrule hedited (hsame.trans hname.symm)
    rw [heq, hassign]
  · rfl

/-- An edit moves the threshold of its own name, if the rule is enabled, and no other. -/
theorem thresholdOf_edit {rules : List AlertRule} {schema : AlertRuleSchema}
    (hunique : (rules.map (·.name)).Nodup) (name : String) :
    thresholdOf (rules.map (editRule schema)) name = thresholdOf rules name ∨
      name = schema.name ∧ ∃ rule ∈ rules, rule.name = name ∧ rule.isEnabled = true ∧
        thresholdOf (rules.map (editRule schema)) name = schema.consecutiveCycles := by
  have hunique' : ((rules.map (editRule schema)).map (·.name)).Nodup := by
    have hnames : (rules.map (editRule schema)).map (·.name) = rules.map (·.name) := by
      rw [List.map_map]
      exact List.map_congr_left fun rule _ => editRule_name schema rule
    rw [hnames]
    exact hunique
  by_cases hrule : ∃ rule ∈ rules, rule.name = name ∧ rule.isEnabled = true
  · obtain ⟨rule, hmem, rfl, henabled⟩ := hrule
    have hedited : thresholdOf (rules.map (editRule schema)) rule.name =
        (editRule schema rule).consecutiveCycles := by
      rw [← editRule_name schema rule]
      refine thresholdOf_of_mem hunique' (List.mem_map_of_mem hmem) ?_
      rw [editRule_isEnabled]
      exact henabled
    by_cases hname : rule.name = schema.name
    · refine Or.inr ⟨hname, rule, hmem, rfl, henabled, ?_⟩
      rw [hedited]
      unfold editRule
      rw [if_pos hname]
    · refine Or.inl ?_
      rw [hedited, thresholdOf_of_mem hunique hmem henabled]
      unfold editRule
      rw [if_neg hname]
  · refine Or.inl ?_
    rw [thresholdOf_of_not_mem fun rule hmem henabled hname => hrule ⟨rule, hmem, hname, henabled⟩]
    refine thresholdOf_of_not_mem fun edited hedited henabled hname => ?_
    obtain ⟨rule, hmem, rfl⟩ := List.mem_map.mp hedited
    rw [editRule_isEnabled] at henabled
    rw [editRule_name] at hname
    exact hrule ⟨rule, hmem, hname, henabled⟩

/-- The alarms of a run, as far as they count. -/
structure AllCounted (run : Run) : Prop where
  sound : Sound run
  counted : ∀ name, (alarmOf name run).Counted (thresholdOf (seedRules run.db).rules name)

theorem AllCounted.cycle {cycle : Cycle} (h : AllCounted run)
    (hapart : NamesApart setup cycle run.db)
    (hstep : runAlertEvaluation setup cycle run = .ok run') : AllCounted run' := by
  obtain ⟨after, hafter, hsound, hrules, hmoves⟩ := runAlertEvaluation_moves h.sound hapart
  rw [hstep] at hafter
  cases hafter
  refine ⟨hsound, fun name => ?_⟩
  rw [hrules]
  rcases hmoves name with ⟨k, hraised⟩ | ⟨-, hcleared⟩
  · rw [hraised]
    exact (h.counted name).iterate_raise k
  · rw [hcleared]
    exact (h.counted name).clear

theorem AllCounted.edit {schema : AlertRuleSchema} (h : AllCounted run)
    (hsteady : Steady setup run (.edit schema)) :
    AllCounted { run with db := upsertAlertRule run.db schema } := by
  obtain ⟨hedit, hside⟩ := hsteady
  have hseeded : seedRules run.db = run.db := by
    obtain ⟨rule, hmem, -⟩ := hedit
    exact seedRules_of_rules (List.ne_nil_of_mem hmem)
  have hseeded' : seedRules (upsertAlertRule run.db schema) = upsertAlertRule run.db schema :=
    seedRules_of_rules (upsertAlertRule_rules_ne_nil run.db schema)
  refine ⟨h.sound.of_incidents rfl (Nat.le_succ _), fun name => ?_⟩
  have halarm : alarmOf name { run with db := upsertAlertRule run.db schema } = alarmOf name run :=
    alarmOf_of_incidents rfl name
  rw [halarm, hseeded', upsertRules_of_edit hedit]
  have hcounted := h.counted name
  rw [hseeded] at hcounted
  rcases thresholdOf_edit run.db.rulesUnique name with
    hsame | ⟨hname, rule, hmem, hrule, henabled, hmoved⟩
  · rw [hsame]
    exact hcounted
  · rw [hmoved]
    refine hcounted.move fun episode hepisode => ?_
    obtain ⟨incident, hopen, rfl⟩ := episode_violations hepisode
    rw [← hrule, thresholdOf_of_mem run.db.rulesUnique hmem henabled]
    rw [← hrule] at hopen
    exact hside rule hmem (hrule.trans hname) henabled incident hopen

theorem AllCounted.announcedOnce (h : AllCounted run) : AnnouncedOnce run := by
  intro rule hrule incident hopen hmet
  have hseeded : seedRules run.db = run.db := seedRules_of_rules (List.ne_nil_of_mem hrule)
  have hepisode : (alarmOf rule.name run).episode =
      some ⟨incident.consecutiveViolations, firingsFor incident.id run.sent⟩ := by
    rw [alarmOf_of_open (h.sound.eq_singleton hopen)]
  obtain ⟨hpos, hannounced⟩ := h.counted rule.name _ hepisode
  rw [hseeded] at hannounced
  have hthreshold : thresholdOf run.db.rules rule.name ≤ incident.consecutiveViolations := by
    by_cases henabled : rule.isEnabled = true
    · rw [thresholdOf_of_mem run.db.rulesUnique hrule henabled]
      exact hmet
    · -- a disabled rule has no namesake, so the incident is an objective's
      rw [thresholdOf_of_not_mem]
      · exact hpos
      · intro other hother hotherEnabled hname
        have hsame := List.inj_on_of_nodup_map run.db.rulesUnique hother hrule hname
        rw [hsame] at hotherEnabled
        exact henabled hotherEnabled
  rw [if_pos hthreshold] at hannounced
  exact hannounced

/-- **From a table with nothing open, through cycles and edits that are steady, every open
incident that has reached its rule's `consecutive_cycles` has been announced exactly once, and
every such cycle goes through.** -/
theorem sustained_announced_once {db : AlertDb} {events : List Event} (hstart : NoneOpen db)
    (h : Reaches (eventStep setup) (Steady setup) { db := db } events run) :
    AnnouncedOnce run ∧
      ∀ cycle, Steady setup run (.cycle cycle) →
        ∃ run', runAlertEvaluation setup cycle run = .ok run' := by
  have hall : AllCounted run := by
    refine h.invariant ⟨sound_start hstart, fun name => (orderly_start hstart _).counted⟩ ?_
    intro s event s' hs hsteady hstep
    cases event with
    | cycle cycle => exact hs.cycle hsteady (runAlertEvaluation_of_step hstep)
    | edit schema =>
        cases hstep
        exact hs.edit hsteady
  refine ⟨hall.announcedOnce, fun cycle hapart => ?_⟩
  obtain ⟨run', hrun, -⟩ := runAlertEvaluation_moves hall.sound hapart
  exact ⟨run', hrun⟩

instance (setup : Setup) (run : Run) (event : Event) : Decidable (Steady setup run event) :=
  match event with
  | .cycle _ => inferInstanceAs (Decidable (∀ firing ∈ _, ∀ rule ∈ _, _))
  | .edit _ => inferInstanceAs (Decidable ((∃ rule ∈ _, _) ∧ ∀ rule ∈ _, _ → _ → ∀ incident ∈ _, _))

instance (run : Run) : Decidable (AnnouncedOnce run) :=
  inferInstanceAs (Decidable (∀ rule ∈ _, ∀ incident ∈ _, _ → _))

/-- The rule of the samples with another `consecutive_cycles`. -/
def latencyEdit (consecutiveCycles : Int) (h : 1 ≤ consecutiveCycles) : AlertRuleSchema :=
  { highP95Latency with
    consecutiveCycles
    cyclesPositive := h }

/-- Three cycles asked for, one seen, two asked for, and the second announces. -/
theorem announced_once_after_edit :
    ∃ run, Reaches (eventStep {}) (Steady {}) { db := latencyDb 3 }
        [.cycle (latencyCycle 18000), .edit (latencyEdit 2 (by decide)),
          .cycle (latencyCycle 18000)] run ∧
      run.sent.map (·.notification.isFiring) = [true] ∧ AnnouncedOnce run := by
  have hrun : (runAllowed (eventStep {}) (Steady {})
      [.cycle (latencyCycle 18000), .edit (latencyEdit 2 (by decide)), .cycle (latencyCycle 18000)]
      { db := latencyDb 3 }).map (fun run => run.sent.map (·.notification.isFiring)) =
        some [true] := by
    decide
  obtain ⟨run, hrun, hsent⟩ := Option.map_eq_some_iff.mp hrun
  have hreaches := Reaches.of_runAllowed hrun
  refine ⟨run, hreaches, hsent, (sustained_announced_once ?_ hreaches).1⟩
  intro incident hmem
  cases hmem

/-- Two of five cycles seen, two asked for instead: the third is past the count, and nothing is
ever sent.  Announced at the first and three asked for: the third announces it again. -/
theorem edit_skips_announcement :
    (∃ run, [.cycle (latencyCycle 18000), .cycle (latencyCycle 18000),
          .edit (latencyEdit 2 (by decide)), .cycle (latencyCycle 18000)].foldlM (eventStep {})
          { db := latencyDb 5 } = some run ∧
        run.sent = [] ∧ ¬ AnnouncedOnce run) ∧
    ∃ run, [.cycle (latencyCycle 18000), .edit (latencyEdit 3 (by decide)),
          .cycle (latencyCycle 18000), .cycle (latencyCycle 18000)].foldlM (eventStep {})
          { db := latencyDb 1 } = some run ∧
        run.sent.map (·.notification.isFiring) = [true, true] ∧ ¬ AnnouncedOnce run := by
  have hskipped : ([.cycle (latencyCycle 18000), .cycle (latencyCycle 18000),
      .edit (latencyEdit 2 (by decide)), .cycle (latencyCycle 18000)].foldlM (eventStep {})
      { db := latencyDb 5 }).map (fun run => (run.sent, decide (AnnouncedOnce run))) =
        some ([], false) := by
    decide
  have htwice : ([.cycle (latencyCycle 18000), .edit (latencyEdit 3 (by decide)),
      .cycle (latencyCycle 18000), .cycle (latencyCycle 18000)].foldlM (eventStep {})
      { db := latencyDb 1 }).map
        (fun run => (run.sent.map (·.notification.isFiring), decide (AnnouncedOnce run))) =
        some ([true, true], false) := by
    decide
  obtain ⟨run, hrun, hsent⟩ := Option.map_eq_some_iff.mp hskipped
  obtain ⟨run', hrun', hsent'⟩ := Option.map_eq_some_iff.mp htwice
  rw [Prod.mk.injEq, decide_eq_false_iff_not] at hsent hsent'
  exact ⟨⟨run, hrun, hsent⟩, run', hrun', hsent'⟩

end Sustained

end AlertJob

end GaiaOS
