/-
One attempt of an investigation job, after `workers/jobs/investigation_job.py`.

The attempt prepares outside the inner `try` and works inside it: what raises while it
prepares leaves the job as it is, what raises while it works is handled.  The handler asks
only how many retries are left, and the number it reports is counted from a constant.

The graph is invoked with an input that names five of the ten channels.  A thread that has
a checkpoint already keeps the others, and `agent_outputs` is appended to.

`versions` are the committed versions of the investigation's row, oldest first; the last is
what is stored.  How far the graph gets is part of an attempt: `steps` nodes, and if it is
not over by then, `interruption` is what ends the call.
-/
import GaiaOS.Db.Investigations

namespace GaiaOS

namespace InvestigationJob

/-- The metric events of a job. -/
inductive JobEvent
  | started
  | completed (complexityTier : Option TierValue)
  | failed (errorCode errorMessage : String) (attemptNumber : Int)
  deriving DecidableEq

structure JobState where
  versions : List Investigation := []
  thread : Option TaskGraphState := none
  emitted : List JobEvent := []
  metrics : List JobEvent := []

/-- The stored row. -/
def JobState.row (s : JobState) : Option Investigation := s.versions.getLast?

/--
What one attempt meets with.  `job` is `get_current_job()`, by its `retries_left`; a
`finalize_node` whose update raised kept it if `finalizeKept`.
-/
structure Attempt where
  services : Services
  steps : Nat
  job : Option (Option Int) := none
  query : Option String := none
  redis : Option PyError := none
  persistStarted : WriteOutcome := .committed
  buildGraph : Option PyError := none
  fetchQuery : Option PyError := none
  interruption : PyError := .exception "Task exceeded maximum timeout value"
  finalizeKept : Bool := false
  persistCompleted : WriteOutcome := .committed
  markFailed : WriteOutcome := .committed
  persistFailed : WriteOutcome := .committed
  now : Int := 0

namespace Attempt

variable (a : Attempt) (investigationId : Uuid)

/-- `AsyncSessionLocal is not None`. -/
def hasDatabase : Bool := a.services.database.isSome

/-- `job.retries_left if (job and job.retries_left is not None) else 0`. -/
def retriesLeft : Int := (a.job.bind id).getD 0

def isTerminalFailure : Bool := a.retriesLeft ≤ 0

def errorCode : String :=
  if a.isTerminalFailure then "job_retries_exhausted" else "job_attempt_failed"

def attemptNumber : Int := if a.job.isSome then max 1 (3 - a.retriesLeft) else 1

/-- `emit`. -/
def emit (event : JobEvent) (s : JobState) : JobState := { s with emitted := s.emitted ++ [event] }

/-- `persist_metric` and its commit, if there is a database. -/
def persistMetric (outcome : WriteOutcome) (event : JobEvent) (s : JobState) :
    JobState × Except PyError Unit :=
  if a.hasDatabase then
    ({ s with metrics := if outcome.stores then s.metrics ++ [event] else s.metrics },
      outcome.result)
  else (s, .ok ())

/-- A committed update of the row; a row that is not there stays so. -/
def storeFields (fields : StatusFields) (s : JobState) : JobState :=
  match s.row with
  | none => s
  | some row => { s with versions := s.versions ++ [updateInvestigationStatus a.now fields row] }

/-- The query, from the database when the job was not given one. -/
def resolveQuery (s : JobState) : Except PyError String :=
  match a.query.filter fun text => text ≠ "" with
  | some query => .ok query
  | none =>
      if a.hasDatabase then
        match a.fetchQuery with
        | some e => .error e
        | none =>
            match s.row with
            | none => .error (.valueError
                ("Investigation " ++ investigationId.text ++ " not found in database."))
            | some row => .ok row.queryText
      else .error (.exception "Database session factory is not initialised.")

/-- Everything before the inner `try`. -/
def prepare (s : JobState) : JobState × Except PyError String :=
  match a.redis with
  | some e => (s, .error e)
  | none =>
      match a.persistMetric a.persistStarted .started (emit .started s) with
      | (s, .error e) => (s, .error e)
      | (s, .ok ()) =>
          match a.buildGraph with
          | some e => (s, .error e)
          | none => (s, a.resolveQuery investigationId s)

/-- The job's input on a thread: the named channels written, the others as they were saved. -/
def threadInput (query : String) : Option TaskGraphState → TaskGraphState
  | none => { investigationId, query }
  | some saved =>
      { saved with
        investigationId, query
        complexityTier := none
        agentOutputs := saved.agentOutputs ++ []
        finalAnswer := none }

/-- `graph.ainvoke(state, config=config)`, as far as it gets. -/
def graphRun (query : String) (thread : Option TaskGraphState) : GraphRun :=
  (GraphRun.start (threadInput investigationId query thread)).advance a.services a.steps

/-- The updates of `finalize_node` that were committed. -/
def committedUpdates (run : GraphRun) : List StatusUpdate :=
  match run.status with
  | .finished => run.statusUpdates
  | _ => if a.finalizeKept then run.statusUpdates else []

/-- How the invocation ends. -/
def outcome (run : GraphRun) : Except PyError (Option TierValue) :=
  match run.status with
  | .finished => .ok run.state.complexityTier
  | .raised _ e => .error e
  | .running _ => .error a.interruption

/-- The invocation: every node's state is saved on the thread. -/
def invoke (query : String) (s : JobState) : JobState × Except PyError (Option TierValue) :=
  let run := a.graphRun investigationId query s.thread
  let s := { s with thread := some run.state }
  ((a.committedUpdates run).foldl (fun s update => a.storeFields update.fields s) s, a.outcome run)

/-- The inner `try`. -/
def work (query : String) (s : JobState) : JobState × Except PyError Unit :=
  match a.invoke investigationId query s with
  | (s, .error e) => (s, .error e)
  | (s, .ok complexityTier) =>
      a.persistMetric a.persistCompleted (.completed complexityTier)
        (emit (.completed complexityTier) s)

/-- The fields of a failed investigation. -/
def failedFields (exc : PyError) : StatusFields where
  status := "failed"
  executionTrace := some (.error exc.str (some a.errorCode))

/-- `except Exception as exc`. -/
def handle (exc : PyError) (s : JobState) : JobState × Except PyError Unit :=
  let failed := JobEvent.failed a.errorCode exc.str a.attemptNumber
  let s := emit failed s
  if a.isTerminalFailure && a.hasDatabase then
    let s := if a.markFailed.stores then a.storeFields (a.failedFields exc) s else s
    match a.markFailed.result with
    | .error e => (s, .error e)
    | .ok () =>
        match a.persistMetric a.persistFailed failed s with
        | (s, .error e) => (s, .error e)
        | (s, .ok ()) => (s, .error exc)
  else (s, .error exc)

/-- `_async_run_investigation`. -/
def run (s : JobState) : JobState × Except PyError Unit :=
  match a.prepare investigationId s with
  | (s, .error e) => (s, .error e)
  | (s, .ok query) =>
      match a.work investigationId query s with
      | (s, .ok ()) => (s, .ok ())
      | (s, .error e) => if e.isException then a.handle e s else (s, .error e)

end Attempt

/-- Attempts one after another. -/
def runAll (investigationId : Uuid) (attempts : List Attempt) (s : JobState) : JobState :=
  attempts.foldl (fun s a => (a.run investigationId s).1) s

/-- The attempt RQ makes after `index` failed ones: `Retry(max=maxRetries)` less one each. -/
def scheduled (maxRetries : Nat) (index : Nat) (a : Attempt) : Attempt :=
  { a with job := some (some ((maxRetries : Int) - index)) }

end InvestigationJob

end GaiaOS
