/-
The alert tables, after `db/models/alert_incident.py` and the `AlertRepository` of
`db/repository.py`.

An incident is open while its status is "firing".  Rule names are unique by a constraint of
the table; that at most one incident under a name is open is not, and a lookup that finds two
raises.  Identifiers are `uuid4` values, taken never to repeat: they are handed out in turn.
Every call is one committed transaction.
-/
import GaiaOS.Alerting.Rules
import Mathlib.Data.List.Sort

namespace GaiaOS

namespace Alerting

/-- `AlertIncident`. -/
structure AlertIncident where
  id : Nat
  ruleId : Option Nat
  ruleName : String
  sloName : Option String
  severity : String
  status : String
  lastValue : ℚ
  threshold : ℚ
  consecutiveViolations : Int
  firedAt : Int
  resolvedAt : Option Int := none
  deriving DecidableEq

/-- The two tables. -/
structure AlertDb where
  rules : List AlertRule
  incidents : List AlertIncident
  nextId : Nat
  rulesUnique : (rules.map (·.name)).Nodup
  incidentsUnique : (incidents.map (·.id)).Nodup
  idsBelow : ∀ incident ∈ incidents, incident.id < nextId

/-- The tables as the migrations leave them. -/
def AlertDb.empty : AlertDb where
  rules := []
  incidents := []
  nextId := 0
  rulesUnique := List.nodup_nil
  incidentsUnique := List.nodup_nil
  idsBelow _ hmem := absurd hmem List.not_mem_nil

namespace AlertRepository

/-- The columns an upsert writes. -/
def assignRule (schema : AlertRuleSchema) (rule : AlertRule) : AlertRule :=
  { rule with
    metric := schema.metric
    threshold := schema.threshold
    comparison := schema.comparison
    window := schema.window
    severity := schema.severity
    consecutiveCycles := schema.consecutiveCycles
    isEnabled := schema.isEnabled }

/-- `AlertRule(...)`. -/
def newRule (id : Nat) (schema : AlertRuleSchema) : AlertRule where
  id
  name := schema.name
  metric := schema.metric
  threshold := schema.threshold
  comparison := schema.comparison
  window := schema.window
  severity := schema.severity
  consecutiveCycles := schema.consecutiveCycles
  isEnabled := schema.isEnabled

/-- The rules after an upsert. -/
def upsertRules (schema : AlertRuleSchema) (id : Nat) (rules : List AlertRule) : List AlertRule :=
  if schema.name ∈ rules.map (·.name) then
    rules.map fun rule => if rule.name = schema.name then assignRule schema rule else rule
  else rules ++ [newRule id schema]

theorem upsertRules_names (schema : AlertRuleSchema) (id : Nat) (rules : List AlertRule) :
    (upsertRules schema id rules).map (·.name) =
      if schema.name ∈ rules.map (·.name) then rules.map (·.name)
      else rules.map (·.name) ++ [schema.name] := by
  unfold upsertRules
  split
  · rw [List.map_map]
    refine List.map_congr_left fun rule _ => ?_
    simp only [Function.comp_apply]
    split
    · rfl
    · rfl
  · rw [List.map_append]
    rfl

/-- `upsert_alert_rule`. -/
def upsertAlertRule (db : AlertDb) (schema : AlertRuleSchema) : AlertDb :=
  { db with
    rules := upsertRules schema db.nextId db.rules
    nextId := db.nextId + 1
    rulesUnique := by
      rw [upsertRules_names]
      split
      · exact db.rulesUnique
      · rename_i hnew
        rw [List.nodup_append]
        refine ⟨db.rulesUnique, List.nodup_singleton _, fun a ha b hb heq => hnew ?_⟩
        rw [List.mem_singleton] at hb
        rw [← hb, ← heq]
        exact ha
    idsBelow := fun incident hmem => Nat.lt_succ_of_lt (db.idsBelow incident hmem) }

/-- `list_alert_rules`, ordered by name. -/
def listAlertRules (db : AlertDb) : List AlertRule :=
  db.rules.insertionSort fun rule other => rule.name ≤ other.name

/-- The open incidents under a name. -/
def openIncidents (db : AlertDb) (ruleName : String) : List AlertIncident :=
  db.incidents.filter fun incident => incident.ruleName = ruleName ∧ incident.status = "firing"

/-- `get_open_incident_by_rule_name`. -/
def getOpenIncidentByRuleName (db : AlertDb) (ruleName : String) :
    Except PyError (Option AlertIncident) :=
  match openIncidents db ruleName with
  | [] => .ok none
  | [incident] => .ok (some incident)
  | _ => .error (.exception "Multiple rows were found when one or none was required")

/-- What `create_incident` is given. -/
structure NewIncident where
  ruleId : Option Nat
  ruleName : String
  severity : String
  lastValue : ℚ
  threshold : ℚ
  consecutiveViolations : Int
  sloName : Option String := none

/-- The row `create_incident` adds. -/
def NewIncident.row (new : NewIncident) (id : Nat) (now : Int) : AlertIncident where
  id
  ruleId := new.ruleId
  ruleName := new.ruleName
  sloName := new.sloName
  severity := new.severity
  status := "firing"
  lastValue := new.lastValue
  threshold := new.threshold
  consecutiveViolations := new.consecutiveViolations
  firedAt := now

/-- `create_incident`; the row gets the next identifier. -/
def createIncident (db : AlertDb) (new : NewIncident) (now : Int) : AlertDb :=
  { db with
    incidents := db.incidents ++ [new.row db.nextId now]
    nextId := db.nextId + 1
    incidentsUnique := by
      rw [List.map_append, List.nodup_append]
      refine ⟨db.incidentsUnique, List.nodup_singleton _, fun a ha b hb heq => ?_⟩
      obtain ⟨incident, hmem, rfl⟩ := List.mem_map.mp ha
      have hbelow := db.idsBelow incident hmem
      rw [List.map_singleton, List.mem_singleton] at hb
      rw [heq, hb] at hbelow
      exact Nat.lt_irrefl _ hbelow
    idsBelow := by
      intro incident hmem
      rcases List.mem_append.mp hmem with hold | hnew
      · exact Nat.lt_succ_of_lt (db.idsBelow incident hold)
      · rw [List.mem_singleton.mp hnew]
        exact Nat.lt_succ_self _ }

/-- The row with an identifier rewritten, keeping the identifier. -/
def modifyIncident (db : AlertDb) (incidentId : Nat) (change : AlertIncident → AlertIncident)
    (hid : ∀ incident, (change incident).id = incident.id) : AlertDb :=
  have hids : (db.incidents.map fun incident =>
      if incident.id = incidentId then change incident else incident).map (·.id) =
        db.incidents.map (·.id) := by
    rw [List.map_map]
    refine List.map_congr_left fun incident _ => ?_
    simp only [Function.comp_apply]
    split
    · exact hid incident
    · rfl
  { db with
    incidents := db.incidents.map fun incident =>
      if incident.id = incidentId then change incident else incident
    incidentsUnique := by
      rw [hids]
      exact db.incidentsUnique
    idsBelow := by
      intro incident hmem
      have hmapped := List.mem_map_of_mem (f := (·.id)) hmem
      rw [hids] at hmapped
      obtain ⟨old, hold, hsame⟩ := List.mem_map.mp hmapped
      rw [← hsame]
      exact db.idsBelow old hold }

/-- `update_incident_last_value`. -/
def updateIncidentLastValue (db : AlertDb) (incidentId : Nat) (lastValue : ℚ)
    (consecutiveViolations : Int) : AlertDb :=
  modifyIncident db incidentId
    (fun incident => { incident with lastValue, consecutiveViolations }) fun _ => rfl

/-- The row with an identifier. -/
def incidentById (db : AlertDb) (incidentId : Nat) : Option AlertIncident :=
  db.incidents.find? fun incident => incident.id = incidentId

/-- What `resolve_incident` makes of an open row. -/
def resolved (now : Int) (incident : AlertIncident) : AlertIncident :=
  { incident with status := "resolved", resolvedAt := some now }

/-- The row resolved where it stands. -/
def markResolved (db : AlertDb) (incidentId : Nat) (now : Int) : AlertDb :=
  modifyIncident db incidentId (resolved now) fun _ => rfl

/-- `resolve_incident`; a row that is not open is handed back as it is. -/
def resolveIncident (db : AlertDb) (incidentId : Nat) (now : Int) :
    AlertDb × Option AlertIncident :=
  match incidentById db incidentId with
  | none => (db, none)
  | some incident =>
      if incident.status = "firing" then
        (markResolved db incidentId now, some (resolved now incident))
      else (db, some incident)

/-- `list_incidents`, newest first; rows fired at one time stay in the order of the table. -/
def listIncidents (db : AlertDb) (status : Option String) (limit offset : Nat) :
    List AlertIncident :=
  let rows := db.incidents.filter fun incident =>
    match status with
    | none => true
    | some wanted => wanted = "" ∨ incident.status = wanted
  let newestFirst := rows.insertionSort fun incident other => other.firedAt ≤ incident.firedAt
  (newestFirst.drop offset).take limit

end AlertRepository

end Alerting

end GaiaOS
