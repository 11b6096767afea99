/-
Fan-out over the domain agents, after `orchestrator/graph/fan_out_coordinator.py` and
`collaboration_bus.py`.

Runners and peer hooks are plugins: they may return anything, raise, hang or be cancelled.
What they do is a `Fleet`, indexed by the position in the list of domains, so that two
entries of one domain can behave differently.  The tasks of the first pass run
concurrently, but the coordinator only looks at their results in order, and at what is on
the bus when all of them are done; the refinements of Stage B run one after another.

A runner is not held to its annotation, so a result is a `Value`, an `AgentOutput` or some
other object.  Of the other object only what the coordinator touches is kept: its truth
value, and the truth value and length of its `evidence` attribute, each of which may raise.
-/
import GaiaOS.Schemas.AgentIo

namespace GaiaOS

/-! ### The collaboration bus -/

/-- `CollaborationBus.peer_findings` on the messages of the bus. -/
def peerFindings (messages : List CollaborationMessage) (requestingAgent : String)
    (sinceRound : Nat) : List CollaborationMessage :=
  messages.filter fun msg => msg.fromAgent ≠ requestingAgent ∧ msg.round ≥ sinceRound

/-! ### Runners and hooks -/

/-- An object that is not an `AgentOutput`. -/
structure OtherValue where
  truth : Except PyError Bool
  evidenceTruth : Except PyError Bool
  evidenceLen : Except PyError Nat

/-- `None`. -/
def OtherValue.none : OtherValue where
  truth := .ok false
  evidenceTruth := .error (.attributeError "evidence")
  evidenceLen := .error (.attributeError "evidence")

/-- What a runner can hand back. -/
inductive Value
  | output (o : AgentOutput)
  | other (v : OtherValue)

/-- How a runner's call ends. -/
inductive RunnerResult
  | returns (v : Value)
  /-- An `Exception`, by its text. -/
  | raises (message : String)
  | timesOut
  | cancelled

/-- The input of a refinement: a hook is not held to its annotation either. -/
inductive RefinedInput
  | input (i : AgentInput)
  | other (hasInvestigationId : Bool)

/-- What a peer hook does with one message. -/
inductive HookResult
  | declines
  | proposes (i : RefinedInput)
  | raises (message : String)

/--
The agents and the settings of one fan-out.

`broadcasts` is the content of the bus when the first pass is over, and
`refineBroadcasts i` what the refinement of the `i`-th domain adds to it.
-/
structure Fleet where
  registered : String → Bool
  hasPeerHook : String → Bool
  firstPass : Nat → String → AgentInput → RunnerResult
  broadcasts : List CollaborationMessage
  peerHook : Nat → String → CollaborationMessage → AgentInput → HookResult
  refine : Nat → String → RefinedInput → RunnerResult
  refineBroadcasts : Nat → List CollaborationMessage
  enableAgentCollaboration : Bool
  agentTimeout : String

namespace FanOutCoordinator

/-- `len(output.evidence) if output and output.evidence else 0`. -/
def evidenceCount : Value → Except PyError Nat
  | .output o => .ok o.evidence.length
  | .other v => do
      if ← v.truth then
        if ← v.evidenceTruth then v.evidenceLen else return 0
      else return 0

/-- `_make_failed_runner`. -/
def failedRunner (domain : String) : RunnerResult :=
  .returns (.output ⟨domain, [], ["Agent implementation not found for domain: " ++ domain]⟩)

/-- The output of a runner that raised. -/
def failedOutput (domain message : String) : AgentOutput :=
  ⟨domain, [], ["Agent execution failed: " ++ message]⟩

/-- The output of a runner that took too long. -/
def timedOutOutput (domain timeout : String) : AgentOutput :=
  ⟨domain, [], ["Agent execution timed out after " ++ timeout ++ " seconds"]⟩

/--
`_run_agent_with_monitoring`, by what the runner did.

Counting the evidence for the completion event happens inside the `try`, so an object the
count fails on becomes a failed output.  A cancellation is not an `Exception` and passes
through.
-/
def runAgentWithMonitoring (timeout domain : String) : RunnerResult → Except PyError Value
  | .returns v =>
      match evidenceCount v with
      | .ok _ => .ok v
      | .error err =>
          if err.isException then .ok (.output (failedOutput domain err.str)) else .error err
  | .raises message => .ok (.output (failedOutput domain message))
  | .timesOut => .ok (.output (timedOutOutput domain timeout))
  | .cancelled => .error .cancelledError

/-- What the loop over the gathered results keeps of one of them. -/
def processResult (domain : String) : Except PyError Value → Option Value
  | .error err =>
      if err.isException then
        some (.output ⟨domain, [], ["Unhandled exception during agent run: " ++ err.str]⟩)
      else none
  | .ok (.output o) => some (.output o)
  | .ok (.other _) => none

section Run

variable (fleet : Fleet) (domains : List String) (agentInput : AgentInput)

/-- The runner of the first pass: the registered one, or the one that reports its absence. -/
def firstResult (idx : Nat) (domain : String) : RunnerResult :=
  if fleet.registered domain then fleet.firstPass idx domain agentInput else failedRunner domain

/-- One gathered result of the first pass. -/
def gathered (idx : Nat) (domain : String) : Except PyError Value :=
  runAgentWithMonitoring fleet.agentTimeout domain (firstResult fleet agentInput idx domain)

/-- The `processed_results` after the loop over the gathered results. -/
def processedResults : List Value :=
  (domains.mapIdx fun idx domain =>
    processResult domain (gathered fleet agentInput idx domain)).filterMap id

/-- The refined input the hook's answers select: the last one proposed. -/
def selectedInput (idx : Nat) (domain : String) (messages : List CollaborationMessage) :
    Option RefinedInput :=
  ((peerFindings messages domain 0).filterMap fun msg =>
    match fleet.peerHook idx domain msg agentInput with
    | .proposes i => some i
    | _ => none).getLast?

/-- The monitored run of a refinement; the input's identifier is read before the `try`. -/
def runRefinement (idx : Nat) (domain : String) (i : RefinedInput) : Except PyError Value :=
  match i with
  | .other false => .error (.attributeError "investigation_id")
  | _ => runAgentWithMonitoring fleet.agentTimeout domain (fleet.refine idx domain i)

/-- Whether Stage B looks at a domain, and the refined input it then runs with. -/
def triggeredInput (idx : Nat) (domain : String) (messages : List CollaborationMessage) :
    Option RefinedInput :=
  if fleet.registered domain && fleet.hasPeerHook domain then
    selectedInput fleet agentInput idx domain messages
  else none

/-- Stage B over the domains from position `idx` on. -/
def stageB : Nat → List String → List Value → List CollaborationMessage →
    Except PyError (List Value)
  | _, [], processed, _ => .ok processed
  | idx, domain :: rest, processed, messages =>
      match triggeredInput fleet agentInput idx domain messages with
      | none => stageB (idx + 1) rest processed messages
      | some i => do
          let refinedOutput ← runRefinement fleet idx domain i
          if idx < processed.length then
            stageB (idx + 1) rest (processed.set idx refinedOutput)
              (messages ++ fleet.refineBroadcasts idx)
          else .error .indexError

/-- `FanOutCoordinator.run`. -/
def run : Except PyError (List Value) :=
  if domains.isEmpty then .ok []
  else
    let processed := processedResults fleet domains agentInput
    -- without a bus, or with nothing on it, there is no Stage B
    if fleet.enableAgentCollaboration && !fleet.broadcasts.isEmpty then
      stageB fleet agentInput 0 domains processed fleet.broadcasts
    else .ok processed

end Run

end FanOutCoordinator

end GaiaOS
