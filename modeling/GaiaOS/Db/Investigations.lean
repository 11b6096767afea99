/-
The investigations table, after `db/models/investigation.py` and the `InvestigationRepository`
of `db/repository.py`.

An update of the status writes the fields it is given and leaves the others alone; it asks
nothing about what is stored.  A write may fail before it is committed, and also after: the
repository refreshes the row once the commit is through.
-/
import GaiaOS.Graph.Builder

namespace GaiaOS

/-- What `execution_trace` holds: the trace of a finished run, or what went wrong. -/
inductive StoredTrace
  | execution (trace : ExecutionTrace)
  | error (message : String) (errorCode : Option String)
  deriving DecidableEq

/-- `Investigation`. -/
structure Investigation where
  id : Uuid
  userId : Option Uuid
  queryText : String
  complexityTier : Option String := none
  status : String := "planning"
  answer : Option String := none
  confidence : Option ℚ := none
  executionTrace : Option StoredTrace := none
  consentPublicResearch : Bool := false
  createdAt : Int
  completedAt : Option Int := none
  deriving DecidableEq

/-- The arguments of `update_investigation_status`; `none` is the default of each. -/
structure StatusFields where
  status : String
  complexityTier : Option String := none
  answer : Option String := none
  confidence : Option ℚ := none
  executionTrace : Option StoredTrace := none

/-- `InvestigationRepository.update_investigation_status`, on the row it finds. -/
def updateInvestigationStatus (now : Int) (fields : StatusFields) (row : Investigation) :
    Investigation :=
  { row with
    status := fields.status
    complexityTier := fields.complexityTier.or row.complexityTier
    answer := fields.answer.or row.answer
    confidence := fields.confidence.or row.confidence
    executionTrace := fields.executionTrace.or row.executionTrace
    completedAt :=
      if fields.status = "complete" ∨ fields.status = "failed" then some now
      else row.completedAt }

/-- What `finalize_node` passes. -/
def StatusUpdate.fields (update : StatusUpdate) : StatusFields where
  status := update.status
  complexityTier := some update.complexityTier
  answer := some update.answer
  confidence := some update.confidence
  executionTrace := some (.execution update.executionTrace)

/-- How a write ends: committed, or raising before or after the commit. -/
inductive WriteOutcome
  | committed
  | lost (error : PyError)
  | late (error : PyError)

namespace WriteOutcome

def stores : WriteOutcome → Bool
  | .lost _ => false
  | _ => true

def result : WriteOutcome → Except PyError Unit
  | .committed => .ok ()
  | .lost e => .error e
  | .late e => .error e

end WriteOutcome

end GaiaOS
