/-
The investigation graph, after `orchestrator/graph/builder.py`.

What the nodes call out to is a `Services` record: the classifier, the agents, synthesis,
the critic's verification, the settings and the database.  Nothing is assumed of what they
answer, and an answer may depend on how many nodes ran before, so that one critic can flag
a claim in one pass and not in the next.

A node's call has a result, the update it returns or the error it raises, and effects that
are there whichever it is: the events it published and the status update it sent to the
database.  `step` runs the node the graph stands at, merges its update and follows the
declared edge; a node that raises ends the run.  The history keeps, for every node that
returned, what it returned.
-/
import GaiaOS.Critic.Replan
import GaiaOS.Graph.State
import GaiaOS.Schemas.Events
import Mathlib.Logic.Function.Iterate

namespace GaiaOS

/-- The nodes of the graph. -/
inductive Node
  | supervisor
  | airQuality
  | fanOut
  | simulation
  | synthesis
  | critic
  | replan
  | finalize
  deriving DecidableEq, Repr

/-- The name a node is registered under. -/
def Node.name : Node → String
  | .supervisor => "supervisor"
  | .airQuality => "air_quality"
  | .fanOut => "fan_out"
  | .simulation => "simulation"
  | .synthesis => "synthesis"
  | .critic => "critic"
  | .replan => "replan"
  | .finalize => "finalize"

/-- What the classifier returns; a missing key is `none`. -/
structure Classification where
  tier : Option TierValue
  matchedDomains : Option (List String)
  needsSimulation : Option Bool

/-- A flag as the persisted trace shows it. -/
structure TraceFlag where
  claimText : String
  flaggedReason : String
  severity : Severity
  deriving DecidableEq

/-- The `execution_trace` dict. -/
structure ExecutionTrace where
  nodesExecuted : List String
  evidenceCount : Nat
  replanCount : Nat
  criticFlags : List TraceFlag
  deriving DecidableEq

/-- The arguments of `update_investigation_status` as `finalize_node` passes them. -/
structure StatusUpdate where
  investigationId : Uuid
  status : String
  complexityTier : String
  answer : String
  confidence : ℚ
  executionTrace : ExecutionTrace
  deriving DecidableEq

/--
What the graph calls out to.

The first argument of an answer is the number of nodes that ran before.  `fixed2` is
`f"{x:.2f}"`, `strBounds` the text of a pair of floats, `now` the formatted clock;
`database` is `None` while `AsyncSessionLocal` is.
-/
structure Services where
  rt : Runtime
  classify : String → Except PyError Classification
  runAirQuality : Nat → AgentInput → Except PyError AgentOutput
  runFanOut : Nat → List String → AgentInput → Except PyError (List AgentOutput)
  runSimulation : Nat → AgentInput → List AgentOutput → Except PyError AgentOutput
  synthesize : Nat → List AgentOutput → Except PyError SynthesisOutput
  verify : Nat → SynthesisOutput → Except PyError (List CriticFlag)
  enableReplanLoop : Bool
  listDomains : List String
  fixed2 : ℚ → String
  strBounds : ℚ × ℚ → String
  now : Nat → String
  database : Option (StatusUpdate → Except PyError Unit)

/-- One call of a node. -/
structure NodeCall where
  result : Except PyError Update
  events : List InvestigationEvent := []
  statusUpdates : List StatusUpdate := []

section Nodes

variable (sv : Services) (ran : Nat) (state : TaskGraphState)

/-- `AgentInput(investigation_id=..., query=..., region_hint=None)`. -/
def agentInput : AgentInput := ⟨state.investigationId, state.query, none⟩

/-- What the supervisor falls back on when classification raises. -/
def fallbackUpdate : Update :=
  { complexityTier := some (.tier .moderate), matchedDomains := some [],
    needsSimulation := some false }

/-- `supervisor_node`.  A missing key raises inside the same `try`. -/
def supervisorNode : NodeCall where
  events := [.planning {}]
  result := .ok <|
    match sv.classify state.query with
    | .ok ⟨some tier, some matchedDomains, needsSimulation⟩ =>
        { complexityTier := some tier, matchedDomains := some matchedDomains,
          needsSimulation := some (needsSimulation.getD false) }
    | _ => fallbackUpdate

/-- `route_by_complexity`. -/
def routeByComplexity : Node := .fanOut

/-- The body `air_quality_node` and `simulation_node` share: announce, run, announce. -/
def agentNode (agent : String) (answer : Except PyError AgentOutput) : NodeCall :=
  let started := InvestigationEvent.agentStarted ⟨agent, sv.now ran⟩
  match answer with
  | .ok output =>
      { result := .ok { agentOutputs := some [output] }
        events := [started, .agentCompleted ⟨agent, output.evidence.length⟩] }
  | .error err => { result := .error err, events := [started] }

/-- `air_quality_node`. -/
def airQualityNode : NodeCall :=
  agentNode sv ran "air_quality" (sv.runAirQuality ran (agentInput state))

/-- `fan_out_node`. -/
def fanOutNode : NodeCall where
  result := do
    let outputs ← sv.runFanOut ran (state.matchedDomains.getD []) (agentInput state)
    return { agentOutputs := some outputs }

/-- The lines of one claim in the rendered answer. -/
def renderClaim (claim : SynthesizedClaim) : List String :=
  ["- **Claim:** " ++ claim.text ++ " (Confidence: " ++ sv.fixed2 claim.confidence ++ ")"]
    ++ (match claim.uncertaintyBounds with
      | some bounds => ["  - *Uncertainty Bounds:* " ++ sv.strBounds bounds]
      | none => [])
    ++ (match claim.assumptions with
      | some (a :: as) => ["  - *Assumptions:* " ++ ", ".intercalate (a :: as)]
      | _ => [])
    ++ claim.supportingEvidence.mapIdx fun i ev =>
      "  - Citation [" ++ toString (i + 1) ++ "]: " ++ ev.claim ++ " (Source: " ++ ev.source ++ ")"

/-- `render_synthesis_output`. -/
def renderSynthesisOutput (synthesisOutput : SynthesisOutput) : String :=
  "\n".intercalate <|
    ["### Synthesized Answer\n"] ++ synthesisOutput.claims.flatMap (renderClaim sv)
      ++ if synthesisOutput.evidenceGaps.isEmpty then []
        else "\n### Identified Gaps" :: synthesisOutput.evidenceGaps.map fun gap =>
          "- No evidence gathered for domain: " ++ gap

/-- `simulation_node`. -/
def simulationNode : NodeCall :=
  agentNode sv ran "simulation" (sv.runSimulation ran (agentInput state) state.agentOutputs)

/-- `route_after_domain_agents`. -/
def routeAfterDomainAgents : Node := if state.simulates then .simulation else .synthesis

/-- `synthesis_node`. -/
def synthesisNode : NodeCall where
  events := [.synthesizing Dict.empty]
  result := do
    let synthesisOutput ← sv.synthesize ran state.agentOutputs
    return { synthesisOutput := some synthesisOutput }

/-- The event of a flag: the confidence of the first claim with the flag's text, else zero. -/
def flagEvent (synthesisOutput : SynthesisOutput) (flag : CriticFlag) : InvestigationEvent :=
  let claim := synthesisOutput.claims.find? fun claim => claim.text = flag.claimText
  .criticFlag ⟨flag.claimText, .finite ((claim.map (·.confidence)).getD 0), flag.flaggedReason⟩

/-- `critic_node`. -/
def criticNode : NodeCall :=
  match state.synthesisOutput with
  | none =>
      { result := .ok
          { criticFlags := some [], finalAnswer := some "No synthesized output to verify." } }
  | some synthesisOutput =>
      match sv.verify ran synthesisOutput with
      | .error err => { result := .error err }
      | .ok criticFlags =>
          { events := criticFlags.map (flagEvent synthesisOutput)
            result := .ok
              { criticFlags := some criticFlags
                finalAnswer := some (renderSynthesisOutput sv synthesisOutput) } }

/-- `route_after_critic`. -/
def routeAfterCritic : Node :=
  if shouldReplan sv.enableReplanLoop state.flags state.replans then .replan else .finalize

/-- The reason a replan is announced with. -/
def triggerReason (criticFlags : List CriticFlag) : String :=
  match criticFlags.filter fun f => f.severity = .high with
  | flag :: _ => flag.flaggedReason
  | [] =>
      match criticFlags with
      | flag :: _ => flag.flaggedReason
      | [] => "Critic verification flag"

/-- `replan_node`. -/
def replanNode : NodeCall :=
  let replanCount := state.replans + 1
  let targets := buildReplanTargets sv.rt sv.listDomains state.flags (state.matchedDomains.getD [])
  { events := [.replanning ⟨replanCount, targets, triggerReason state.flags⟩]
    result := do
      let outputs ← sv.runFanOut ran targets (agentInput state)
      return { replanCount := some replanCount, agentOutputs := some outputs } }

/-- The note of a replan budget spent with a conflict left. -/
def unresolvedNote : String := "\n\nUnresolved conflicting evidence."

/-- `x or y` on an optional text. -/
def textOr (text : Option String) (other : String) : String :=
  match text with
  | some t => if t = "" then other else t
  | none => other

/-- The `final_answer` that `finalize_node` builds. -/
def finalizeAnswer : String :=
  let answer := textOr state.finalAnswer
    (match state.synthesisOutput with
      | some synthesisOutput => renderSynthesisOutput sv synthesisOutput
      | none => "No synthesis output.")
  if state.replans ≥ 2 ∧ hasHighSeverity state.flags then answer ++ unresolvedNote else answer

/-- The average confidence of the synthesised claims. -/
def averageConfidence : ℚ :=
  match state.synthesisOutput with
  | some synthesisOutput =>
      if synthesisOutput.claims.isEmpty then 0
      else (synthesisOutput.claims.map (·.confidence)).sum / synthesisOutput.claims.length
  | none => 0

/-- `ComplexityTier.value`. -/
def ComplexityTier.value : ComplexityTier → String
  | .trivial => "trivial"
  | .moderate => "moderate"
  | .complex => "complex"

/-- The tier as it is persisted. -/
def tierValue : String :=
  match state.complexityTier with
  | some (.tier t) => t.value
  | some (.text s) => s
  | _ => ComplexityTier.value .trivial

/-- The `nodes_executed` list, put together from the summary fields. -/
def nodesExecuted : List String :=
  ["supervisor", "fan_out"] ++ (if state.simulates then ["simulation"] else [])
    ++ ["synthesis", "critic"] ++ (if state.replans > 0 then ["replan"] else []) ++ ["finalize"]

/-- The `trace` dict. -/
def executionTrace : ExecutionTrace where
  nodesExecuted := nodesExecuted state
  evidenceCount := (state.agentOutputs.map (·.evidence.length)).sum
  replanCount := state.replans
  criticFlags := state.flags.map fun flag => ⟨flag.claimText, flag.flaggedReason, flag.severity⟩

/-- The status update of `finalize_node`. -/
def finalizeUpdate : StatusUpdate where
  investigationId := state.investigationId
  status := "complete"
  complexityTier := tierValue state
  answer := finalizeAnswer sv state
  confidence := averageConfidence state
  executionTrace := executionTrace state

/-- `finalize_node`. -/
def finalizeNode : NodeCall :=
  let done := InvestigationEvent.done ⟨state.investigationId, "complete"⟩
  let returned : Update := { finalAnswer := some (finalizeAnswer sv state) }
  match sv.database with
  | none => { result := .ok returned, events := [done] }
  | some persist =>
      match persist (finalizeUpdate sv state) with
      | .ok () =>
          { result := .ok returned, events := [done], statusUpdates := [finalizeUpdate sv state] }
      | .error err => { result := .error err, statusUpdates := [finalizeUpdate sv state] }

/-- The node registered under each name. -/
def callNode : Node → NodeCall
  | .supervisor => supervisorNode sv state
  | .airQuality => airQualityNode sv ran state
  | .fanOut => fanOutNode sv ran state
  | .simulation => simulationNode sv ran state
  | .synthesis => synthesisNode sv ran state
  | .critic => criticNode sv ran state
  | .replan => replanNode sv ran state
  | .finalize => finalizeNode sv state

/-- The declared edges, with `none` for `END`. -/
def nextNode : Node → Option Node
  | .supervisor => some routeByComplexity
  | .airQuality => some (routeAfterDomainAgents state)
  | .fanOut => some (routeAfterDomainAgents state)
  | .simulation => some .synthesis
  | .synthesis => some .critic
  | .critic => some (routeAfterCritic sv state)
  | .replan => some .synthesis
  | .finalize => none

end Nodes

/-! ### Runs of the compiled graph -/

/-- Where a run stands. -/
inductive Status
  | running (node : Node)
  | finished
  | raised (node : Node) (err : PyError)

/-- A node that returned, and what it returned. -/
structure Executed where
  node : Node
  update : Update

/-- A run so far. -/
structure GraphRun where
  status : Status
  state : TaskGraphState
  history : List Executed := []
  events : List InvestigationEvent := []
  statusUpdates : List StatusUpdate := []

namespace GraphRun

/-- A run about to start. -/
def start (state : TaskGraphState) : GraphRun := { status := .running .supervisor, state }

/-- A node whose call is over: its update merged and the next edge taken, or the run ended. -/
def conclude (sv : Services) (r : GraphRun) (node : Node) (call : NodeCall) : GraphRun :=
  let events := r.events ++ call.events
  let statusUpdates := r.statusUpdates ++ call.statusUpdates
  match call.result with
  | .error err => { r with status := .raised node err, events, statusUpdates }
  | .ok update =>
      let state := r.state.apply update
      { state, events, statusUpdates
        status := match nextNode sv state node with
          | some next => .running next
          | none => .finished
        history := r.history ++ [⟨node, update⟩] }

/-- One step of the graph; a run that is over stays as it is. -/
def step (sv : Services) (r : GraphRun) : GraphRun :=
  match r.status with
  | .running node => r.conclude sv node (callNode sv r.history.length r.state node)
  | _ => r

/-- `n` steps. -/
def advance (sv : Services) (n : Nat) (r : GraphRun) : GraphRun := (step sv)^[n] r

/-- The nodes executed so far, in order; a node that raised was executed too. -/
def executedNodes (r : GraphRun) : List Node :=
  r.history.map (·.node) ++ match r.status with
    | .raised node _ => [node]
    | _ => []

/-- How often a node was executed. -/
def executions (r : GraphRun) (node : Node) : Nat := r.executedNodes.count node

/-- What the critic passes returned, in order. -/
def criticPasses (r : GraphRun) : List Update :=
  (r.history.filter fun e => e.node = .critic).map (·.update)

/-- Everything `fan_out`, `simulation` and the replan passes returned, in order. -/
def passOutputs (r : GraphRun) : List AgentOutput :=
  (r.history.filter fun e => e.node = .fanOut ∨ e.node = .simulation ∨ e.node = .replan).flatMap
    fun e => e.update.agentOutputs.getD []

end GraphRun

end GaiaOS
