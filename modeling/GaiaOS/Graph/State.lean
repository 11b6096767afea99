/-
The channels of the task graph, after `orchestrator/schemas/graph_state.py`.

A node returns a partial dict.  LangGraph writes each channel it names, except that
`agent_outputs` is declared with `operator.add` and so is appended to.  A channel that
was never written is absent, which is what the `state.get(..., default)` calls of the
nodes are about.
-/
import GaiaOS.Schemas.AgentIo

namespace GaiaOS

/-- What `complexity_tier` can hold: the enum, a plain string, or anything else. -/
inductive TierValue
  | tier (t : ComplexityTier)
  | text (s : String)
  | other
  deriving DecidableEq

/-- `TaskGraphState`. -/
structure TaskGraphState where
  investigationId : Uuid
  query : String
  complexityTier : Option TierValue := none
  matchedDomains : Option (List String) := none
  agentOutputs : List AgentOutput := []
  synthesisOutput : Option SynthesisOutput := none
  criticFlags : Option (List CriticFlag) := none
  needsSimulation : Option Bool := none
  finalAnswer : Option String := none
  replanCount : Option Nat := none

/-- The dict a node returns. -/
structure Update where
  complexityTier : Option TierValue := none
  matchedDomains : Option (List String) := none
  agentOutputs : Option (List AgentOutput) := none
  synthesisOutput : Option SynthesisOutput := none
  criticFlags : Option (List CriticFlag) := none
  needsSimulation : Option Bool := none
  finalAnswer : Option String := none
  replanCount : Option Nat := none

namespace TaskGraphState

/-- How LangGraph merges what a node returned. -/
def apply (s : TaskGraphState) (u : Update) : TaskGraphState where
  investigationId := s.investigationId
  query := s.query
  complexityTier := u.complexityTier.or s.complexityTier
  matchedDomains := u.matchedDomains.or s.matchedDomains
  agentOutputs := s.agentOutputs ++ u.agentOutputs.getD []
  synthesisOutput := u.synthesisOutput.or s.synthesisOutput
  criticFlags := u.criticFlags.or s.criticFlags
  needsSimulation := u.needsSimulation.or s.needsSimulation
  finalAnswer := u.finalAnswer.or s.finalAnswer
  replanCount := u.replanCount.or s.replanCount

/-- `state.get("replan_count", 0)`. -/
def replans (s : TaskGraphState) : Nat := s.replanCount.getD 0

/-- `state.get("needs_simulation", False)`. -/
def simulates (s : TaskGraphState) : Bool := s.needsSimulation.getD false

/-- `state.get("critic_flags", [])`. -/
def flags (s : TaskGraphState) : List CriticFlag := s.criticFlags.getD []

end TaskGraphState

end GaiaOS
