/-
Alert evaluation jobs running at the same time, after `workers/jobs/alert_evaluation_job.py`.

Every call of the repository is one committed transaction, and between two of its calls a job
may be overtaken by any other.  So a job is taken apart at its calls: a `Phase` says where it
stands, with what it has read so far, and an event is one call of one job.  Evaluating reads
the metric tables only and goes with the call before it, and calling the notifier goes with
the call it follows.

A job that nobody overtakes is the cycle of `AlertEvaluationJob` (`Proofs/OneOpenIncident.lean`).
-/
import GaiaOS.Lib.Machine
import GaiaOS.Workers.AlertEvaluationJob

namespace GaiaOS

namespace AlertJob

open Alerting AlertRepository

/-- A firing to be reconciled: that of an active rule (3a), or of an objective (3b). -/
inductive Work
  | ofRule (rule : AlertRule) (firing : AlertFiring)
  | ofSlo (firing : AlertFiring)

namespace Work

/-- The name the open incident is looked up by. -/
def name : Work → String
  | .ofRule rule _ => rule.name
  | .ofSlo firing => firing.ruleName

def firing : Work → AlertFiring
  | .ofRule _ firing => firing
  | .ofSlo firing => firing

/-- The incident that is opened if there is none. -/
def opened : Work → NewIncident
  | .ofRule rule firing =>
      { ruleId := some rule.id
        ruleName := rule.name
        severity := rule.severity
        lastValue := firing.currentValue
        threshold := rule.threshold
        consecutiveViolations := 1 }
  | .ofSlo firing =>
      { ruleId := none
        ruleName := firing.ruleName
        severity := firing.severity
        lastValue := firing.currentValue
        threshold := firing.threshold
        consecutiveViolations := 1
        sloName := firing.sloName }

/-- Whether opening it is announced. -/
def dueFirst : Work → Bool
  | .ofRule rule _ => rule.consecutiveCycles ≤ 1
  | .ofSlo _ => true

/-- Whether counting it on is announced. -/
def dueAgain (incident : AlertIncident) : Work → Bool
  | .ofRule rule _ => incident.consecutiveViolations + 1 = rule.consecutiveCycles
  | .ofSlo _ => false

end Work

/-- What evaluating has come to. -/
structure Plan where
  work : List Work
  allFirings : Dict String AlertFiring

/-- The rules that were listed, evaluated with the objectives. -/
def evaluate (setup : Setup) (cycle : Cycle) (rules : List AlertRule) : Plan :=
  let activeRules := rules.filter (·.isEnabled)
  let ruleFirings :=
    evaluateRules cycle.queries setup.workerPoolSize cycle.clock.rules activeRules
  let sloFirings := evaluateSlos cycle.queries cycle.clock.slos setup.slos
  { work :=
      (activeRules.filterMap fun rule =>
        ((byName ruleFirings).get? rule.name).map (Work.ofRule rule)) ++ sloFirings.map Work.ofSlo
    allFirings := byName (ruleFirings ++ sloFirings) }

/-- Where a job stands. -/
inductive Phase
  /-- About to list the rules. -/
  | listing
  /-- Seeding, with these left; then the rules are listed again. -/
  | seeding (schemas : List AlertRuleSchema)
  /-- About to look up the next firing's name, or to list what is open. -/
  | working (todo : List Work) (allFirings : Dict String AlertFiring)
  /-- A name was looked up. -/
  | found (work : Work) (incident : Option AlertIncident) (todo : List Work)
      (allFirings : Dict String AlertFiring)
  /-- About to resolve the next of these. -/
  | resolving (incidents : List AlertIncident) (allFirings : Dict String AlertFiring)
  | raised (e : PyError)

/-- A job, and what it finds in the metric tables. -/
structure Job where
  cycle : Cycle
  phase : Phase := .listing

/-- The tables and the jobs. -/
structure Jobs where
  run : Run
  jobs : List Job

section Call

variable (setup : Setup) (cycle : Cycle)

/-- A job goes on to its firings. -/
def startWork (rules : List AlertRule) : Phase :=
  let plan := evaluate setup cycle rules
  .working plan.work plan.allFirings

/-- The next call of a job; there is none after the last or after an error. -/
def Phase.call (run : Run) : Phase → Option (Run × Phase)
  | .listing =>
      let rules := listAlertRules run.db
      if rules.isEmpty then some (run, .seeding defaultAlertRules)
      else some (run, startWork setup cycle rules)
  | .seeding [] => some (run, startWork setup cycle (listAlertRules run.db))
  | .seeding (schema :: schemas) =>
      some ({ run with db := upsertAlertRule run.db schema }, .seeding schemas)
  | .working (work :: todo) allFirings =>
      match getOpenIncidentByRuleName run.db work.name with
      | .error e => some (run, .raised e)
      | .ok incident => some (run, .found work incident todo allFirings)
  | .found work none todo allFirings =>
      some (run.openIncident work.opened (cycle.clock.created run.db.nextId) work.firing
        work.dueFirst, .working todo allFirings)
  | .found work (some incident) todo allFirings =>
      some (run.updateIncident incident work.firing (work.dueAgain incident),
        .working todo allFirings)
  | .working [] allFirings =>
      some (run, .resolving ((listIncidents run.db (some "firing") 50 0).filter fun incident =>
        !allFirings.contains incident.ruleName) allFirings)
  | .resolving (incident :: incidents) allFirings =>
      some (resolveCleared cycle.clock allFirings run incident, .resolving incidents allFirings)
  | .resolving [] _ => none
  | .raised _ => none

end Call

/-- One call of one job. -/
def Jobs.step (setup : Setup) (s : Jobs) (i : Nat) : Option Jobs :=
  match s.jobs[i]? with
  | none => none
  | some job =>
      (job.phase.call setup job.cycle s.run).map fun next =>
        { run := next.1, jobs := s.jobs.set i { job with phase := next.2 } }

end AlertJob

end GaiaOS
