/-
One cycle of alert evaluation, after `workers/jobs/alert_evaluation_job.py`.

A cycle evaluates the enabled rules and the objectives, reconciles what fires with the open
incidents, first the rules and then the objectives, and resolves the open incidents it finds
listed under a name that does not fire.  It keeps no record of what it has announced: whether
a firing is due is read off the incident's count.

Calling the notifier is the event recorded, with the incident it is called for; whether the
webhook took it is only counted and logged.
-/
import GaiaOS.Alerting.Evaluator

namespace GaiaOS

namespace AlertJob

open Alerting AlertRepository

/-- The settings a cycle reads, and what `load_slo_definitions` returns. -/
structure Setup where
  alertingEnabled : Bool := true
  sessionReady : Bool := true
  workerPoolSize : Int := 2
  slos : List SLODefinition := []

/-- The readings of the clock in a cycle; those for an incident go by its identifier. -/
structure Clock where
  rules : Int := 0
  slos : Int := 0
  created : Nat → Int := fun _ => 0
  resolved : Nat → Int := fun _ => 0
  notified : Nat → Int := fun _ => 0

/-- What a cycle finds. -/
structure Cycle where
  queries : Queries
  clock : Clock := {}

/-- A call of the notifier, and the incident it is made for. -/
structure Sent where
  incidentId : Nat
  notification : Notification
  deriving DecidableEq

/-- The tables, and the notifications so far. -/
structure Run where
  db : AlertDb
  sent : List Sent := []

/-- Where a cycle gets; what was committed before an error stays. -/
abbrev Outcome := Except (PyError × Run) Run

namespace Run

def notify (run : Run) (incidentId : Nat) (notification : Notification) : Run :=
  { run with sent := run.sent ++ [⟨incidentId, notification⟩] }

/-- `create_incident`, and the firing if it is due. -/
def openIncident (run : Run) (new : NewIncident) (now : Int) (firing : AlertFiring) (due : Bool) :
    Run :=
  let opened := { run with db := createIncident run.db new now }
  if due then opened.notify run.db.nextId (.firing firing) else opened

/-- `update_incident_last_value`, and the firing if it is due. -/
def updateIncident (run : Run) (incident : AlertIncident) (firing : AlertFiring) (due : Bool) :
    Run :=
  let updated :=
    { run with
      db := updateIncidentLastValue run.db incident.id firing.currentValue
        (incident.consecutiveViolations + 1) }
  if due then updated.notify incident.id (.firing firing) else updated

end Run

section Steps

variable (clock : Clock)

/-- An active rule that fires or not (3a). -/
def reconcileRule (ruleFirings : Dict String AlertFiring) (run : Run) (rule : AlertRule) :
    Outcome :=
  match ruleFirings.get? rule.name with
  | none => .ok run
  | some firing =>
      match getOpenIncidentByRuleName run.db rule.name with
      | .error e => .error (e, run)
      | .ok none =>
          let new : NewIncident :=
            { ruleId := some rule.id
              ruleName := rule.name
              severity := rule.severity
              lastValue := firing.currentValue
              threshold := rule.threshold
              consecutiveViolations := 1 }
          .ok (run.openIncident new (clock.created run.db.nextId) firing
            (rule.consecutiveCycles ≤ new.consecutiveViolations))
      | .ok (some incident) =>
          .ok (run.updateIncident incident firing
            (incident.consecutiveViolations + 1 = rule.consecutiveCycles))

/-- An objective that fires (3b). -/
def reconcileSlo (run : Run) (firing : AlertFiring) : Outcome :=
  match getOpenIncidentByRuleName run.db firing.ruleName with
  | .error e => .error (e, run)
  | .ok none =>
      let new : NewIncident :=
        { ruleId := none
          ruleName := firing.ruleName
          severity := firing.severity
          lastValue := firing.currentValue
          threshold := firing.threshold
          consecutiveViolations := 1
          sloName := firing.sloName }
      .ok (run.openIncident new (clock.created run.db.nextId) firing true)
  | .ok (some incident) => .ok (run.updateIncident incident firing false)

/-- A listed incident, resolved if its name does not fire (4). -/
def resolveCleared (allFirings : Dict String AlertFiring) (run : Run) (incident : AlertIncident) :
    Run :=
  if allFirings.contains incident.ruleName then run
  else
    let result := resolveIncident run.db incident.id (clock.resolved incident.id)
    let after := { run with db := result.1 }
    if result.2.isSome then
      after.notify incident.id (.resolution
        { ruleName := incident.ruleName
          metric := incident.ruleName
          severity := incident.severity
          resolvedAt := clock.notified incident.id })
    else after

end Steps

/-- The rules are seeded if there are none. -/
def seedRules (db : AlertDb) : AlertDb :=
  if db.rules.isEmpty then defaultAlertRules.foldl upsertAlertRule db else db

/-- The rules a cycle evaluates. -/
def activeRules (db : AlertDb) : List AlertRule :=
  (listAlertRules (seedRules db)).filter (·.isEnabled)

/-- `{f.rule_name: f for f in firings}`. -/
def byName (firings : List AlertFiring) : Dict String AlertFiring :=
  Dict.ofPairs (firings.map fun firing => (firing.ruleName, firing))

section Cycle

variable (setup : Setup) (cycle : Cycle)

/-- The rule firings of a cycle. -/
def ruleFirings (db : AlertDb) : List AlertFiring :=
  evaluateRules cycle.queries setup.workerPoolSize cycle.clock.rules (activeRules db)

/-- The objectives' firings. -/
def sloFirings : List AlertFiring := evaluateSlos cycle.queries cycle.clock.slos setup.slos

/-- Steps 3a and 3b. -/
def reconcile (run : Run) : Outcome := do
  let seeded := { run with db := seedRules run.db }
  let run' ← (activeRules run.db).foldlM
    (reconcileRule cycle.clock (byName (ruleFirings setup cycle run.db))) seeded
  (sloFirings setup cycle).foldlM (reconcileSlo cycle.clock) run'

/-- Step 4, on what `list_incidents` returns. -/
def resolveListed (allFirings : Dict String AlertFiring) (run : Run) : Run :=
  (listIncidents run.db (some "firing") 50 0).foldl (resolveCleared cycle.clock allFirings) run

/-- `_async_run_alert_evaluation`. -/
def runAlertEvaluation (run : Run) : Outcome :=
  if !setup.alertingEnabled then .ok run
  else if !setup.sessionReady then .ok run
  else do
    let reconciled ← reconcile setup cycle run
    return resolveListed cycle
      (byName (ruleFirings setup cycle run.db ++ sloFirings setup cycle)) reconciled

end Cycle

end AlertJob

end GaiaOS
