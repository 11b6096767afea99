/-
What the nodes of the graph return.

A node writes a few channels of the state and leaves the others alone, and which ones
depends on the node and not on what the services answer.  `UpdateShape` says so node by
node; the invariant of a run only ever looks at an update through it, so a change to one
node's body ends here.
-/
import GaiaOS.Graph.Builder

namespace GaiaOS

section Shape

variable {sv : Services} {ran : Nat} {s : TaskGraphState}

theorem renderSynthesisOutput_ne_empty (out : SynthesisOutput) :
    renderSynthesisOutput sv out ≠ "" := by
  unfold renderSynthesisOutput
  rw [List.append_assoc, List.singleton_append]
  generalize out.claims.flatMap (renderClaim sv) ++ _ = rest
  cases rest with
  | nil =>
      rw [String.intercalate_singleton]
      decide
  | cons line rest =>
      rw [String.intercalate_cons_cons]
      intro h
      have hlen := congrArg String.length h
      simp at hlen

/-- The update a node returns, by the channels it writes. -/
def UpdateShape (sv : Services) (s : TaskGraphState) (u : Update) : Node → Prop
  | .supervisor => ∃ tier domains sim, u =
      { complexityTier := some tier, matchedDomains := some domains, needsSimulation := some sim }
  | .airQuality | .fanOut | .simulation => ∃ outputs, u = { agentOutputs := some outputs }
  | .synthesis => ∃ out, u = { synthesisOutput := some out }
  | .critic => ∃ flags answer, answer ≠ "" ∧
      u = { criticFlags := some flags, finalAnswer := some answer }
  | .replan => ∃ outputs, u =
      { replanCount := some (s.replans + 1), agentOutputs := some outputs }
  | .finalize => u = { finalAnswer := some (finalizeAnswer sv s) }

theorem agentNode_shape {agent : String} {answer : Except PyError AgentOutput} {u : Update}
    (h : (agentNode sv ran agent answer).result = .ok u) :
    ∃ outputs, u = { agentOutputs := some outputs } := by
  unfold agentNode at h
  cases answer with
  | error err => cases h
  | ok output => exact ⟨[output], by cases h; rfl⟩

/-- Every node that returns, returns an update of its shape. -/
theorem callNode_shape {node : Node} {u : Update}
    (h : (callNode sv ran s node).result = .ok u) : UpdateShape sv s u node := by
  cases node with
  | supervisor =>
      simp only [callNode, supervisorNode, Except.ok.injEq] at h
      subst h
      split
      · exact ⟨_, _, _, rfl⟩
      · exact ⟨_, _, _, rfl⟩
  | airQuality => exact agentNode_shape h
  | simulation => exact agentNode_shape h
  | fanOut =>
      obtain ⟨outputs, -, hret⟩ := ok_of_bind h
      cases hret
      exact ⟨outputs, rfl⟩
  | synthesis =>
      obtain ⟨out, -, hret⟩ := ok_of_bind h
      cases hret
      exact ⟨out, rfl⟩
  | critic =>
      simp only [callNode, criticNode] at h
      split at h
      · cases h
        exact ⟨[], _, by decide, rfl⟩
      · split at h
        · cases h
        · cases h
          exact ⟨_, _, renderSynthesisOutput_ne_empty _, rfl⟩
  | replan =>
      obtain ⟨outputs, -, hret⟩ := ok_of_bind h
      cases hret
      exact ⟨outputs, rfl⟩
  | finalize =>
      simp only [callNode, finalizeNode] at h
      split at h
      · cases h
        rfl
      · split at h
        · cases h
          rfl
        · cases h

/-- Which channels a node leaves alone. -/
theorem UpdateShape.channels {node : Node} {u : Update} (hu : UpdateShape sv s u node) :
    (node ≠ .critic → node ≠ .finalize → u.criticFlags = none ∧ u.finalAnswer = none) ∧
    (node ≠ .supervisor → u.needsSimulation = none) ∧
    u.replanCount = (if node = .replan then some (s.replans + 1) else none) ∧
    (node = .supervisor ∨ node = .synthesis ∨ node = .critic ∨ node = .finalize →
      u.agentOutputs = none) := by
  cases node with
  | supervisor =>
      obtain ⟨tier, domains, sim, rfl⟩ := hu
      simp
  | airQuality | fanOut | simulation =>
      obtain ⟨outputs, rfl⟩ := hu
      simp
  | synthesis =>
      obtain ⟨out, rfl⟩ := hu
      simp
  | critic =>
      obtain ⟨flags, answer, -, rfl⟩ := hu
      simp
  | replan =>
      obtain ⟨outputs, rfl⟩ := hu
      simp
  | finalize =>
      cases hu
      simp

/-- Only `finalize` talks to the database. -/
theorem callNode_statusUpdates {node : Node} (h : node ≠ .finalize) :
    (callNode sv ran s node).statusUpdates = [] := by
  cases node with
  | finalize => exact absurd rfl h
  | airQuality | simulation =>
      simp only [callNode, airQualityNode, simulationNode, agentNode]
      split <;> rfl
  | critic =>
      simp only [callNode, criticNode]
      split
      · rfl
      · split <;> rfl
  | _ => rfl

/-- What `finalize` sends to the database, if it sends anything. -/
theorem finalizeNode_statusUpdates {u : StatusUpdate}
    (h : u ∈ (callNode sv ran s .finalize).statusUpdates) : u = finalizeUpdate sv s := by
  simp only [callNode, finalizeNode] at h
  split at h
  · cases h
  · split at h
    · exact List.mem_singleton.mp h
    · exact List.mem_singleton.mp h

end Shape

end GaiaOS
