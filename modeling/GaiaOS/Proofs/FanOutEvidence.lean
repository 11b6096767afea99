/-
What Stage B leaves of the first pass's evidence.

A refinement runs behind the same error boundary as a first pass, which turns a failure
into an output without evidence.  Stage B cannot tell it from a refinement that found
nothing and writes it over the first pass.  The evidence of a first pass survives exactly
when what is written at its slot has evidence too.
-/
import GaiaOS.Proofs.FanOut

namespace GaiaOS

namespace FanOutCoordinator

section Evidence

variable (fleet : Fleet) (domains : List String) (agentInput : AgentInput)

/-- The first pass of position `p` came back with evidence. -/
def Carried (p : Nat) (o : AgentOutput) : Prop :=
  ∃ domain, domains[p]? = some domain ∧
    gathered fleet agentInput p domain = .ok (.output o) ∧ o.evidence ≠ []

/--
A domain whose first pass carried evidence is returned with evidence, by its first pass
or by its own refinement.  So a refinement without evidence leaves the first pass in place.
-/
def KeepsEvidence : Prop :=
  ∀ p o, Carried fleet domains agentInput p o → ∃ values o',
    run fleet domains agentInput = .ok values ∧
    values[slot fleet domains agentInput p]? = some (.output o') ∧ o'.evidence ≠ [] ∧
    (o' = o ∨ refinement fleet domains agentInput p = some (.ok (.output o')))

/--
Stage B writes no loss: where a first pass carried evidence, every refinement comes back
and finds its position, and one that is written over that first pass has evidence and is
the domain's own.
-/
def RefinementsKeepEvidence : Prop :=
  ∀ p o, Carried fleet domains agentInput p o →
    Completes fleet domains agentInput 0 (processedResults fleet domains agentInput).length ∧
    ∀ r, refinement fleet domains agentInput (slot fleet domains agentInput p) = some r →
      ∃ o', r = .ok (.output o') ∧ o'.evidence ≠ [] ∧
        (o' = o ∨ refinement fleet domains agentInput p = some (.ok (.output o')))

variable {fleet domains agentInput}

/-- A first pass that carried evidence stands at its slot before Stage B. -/
theorem Carried.at_slot {p : Nat} {o : AgentOutput} (h : Carried fleet domains agentInput p o) :
    (processedResults fleet domains agentInput)[slot fleet domains agentInput p]?
      = some (.output o) := by
  obtain ⟨domain, hdom, hgathered, -⟩ := h
  refine processedResults_slot hdom ?_
  rw [hgathered]
  rfl

/-- What the result holds at the slot of a first pass that carried evidence. -/
theorem Carried.returned {p : Nat} {o : AgentOutput} (h : Carried fleet domains agentInput p o) :
    (overwrite fleet domains agentInput 0 (processedResults fleet domains agentInput))[
        slot fleet domains agentInput p]?
      = some (match refinement fleet domains agentInput (slot fleet domains agentInput p) with
        | some (.ok v) => v
        | _ => .output o) := by
  rw [overwrite_getElem?, h.at_slot]
  rfl

theorem RefinementsKeepEvidence.keeps (h : RefinementsKeepEvidence fleet domains agentInput) :
    KeepsEvidence fleet domains agentInput := by
  intro p o hcarried
  obtain ⟨hcomp, hsafe⟩ := h p o hcarried
  have hret := hcarried.returned
  cases href : refinement fleet domains agentInput (slot fleet domains agentInput p) with
  | none =>
      rw [href] at hret
      obtain ⟨-, -, -, hne⟩ := hcarried
      exact ⟨_, o, run_ok hcomp, hret, hne, Or.inl rfl⟩
  | some r =>
      obtain ⟨o', rfl, hne, hown⟩ := hsafe r href
      rw [href] at hret
      exact ⟨_, o', run_ok hcomp, hret, hne, hown⟩

theorem KeepsEvidence.refinements (h : KeepsEvidence fleet domains agentInput) :
    RefinementsKeepEvidence fleet domains agentInput := by
  intro p o hcarried
  obtain ⟨values, o', hrun, hat, hne, hown⟩ := h p o hcarried
  have hcomp : Completes fleet domains agentInput 0
      (processedResults fleet domains agentInput).length := by
    by_contra hnot
    obtain ⟨err, herr⟩ := run_error hnot
    rw [hrun] at herr
    cases herr
  refine ⟨hcomp, ?_⟩
  intro r hr
  obtain ⟨⟨v, rfl⟩, -⟩ := hcomp _ (Nat.zero_le _) r hr
  have hret := hcarried.returned
  rw [run_ok hcomp] at hrun
  rw [hr, Except.ok.inj hrun, hat] at hret
  exact ⟨o', congrArg _ (Option.some.inj hret).symm, hne, hown⟩

end Evidence

/--
**Collaboration keeps the evidence of the first pass exactly when the refinements do.**

A domain that had evidence after the first pass is returned with evidence of its own if
and only if, for each such domain, Stage B completes and writes over its output nothing
but an output with evidence of that domain itself.
-/
theorem fan_out_keeps_evidence_iff (fleet : Fleet) (domains : List String)
    (agentInput : AgentInput) :
    KeepsEvidence fleet domains agentInput ↔ RefinementsKeepEvidence fleet domains agentInput :=
  ⟨KeepsEvidence.refinements, RefinementsKeepEvidence.keeps⟩

def quakeEvidence : Evidence where
  id := ⟨"44444444-4444-4444-8444-444444444444", rfl⟩
  source := "USGS"
  claim := "M4.2 event"
  uncertainty := ⟨1 / 2, 2 / 5, 3 / 5, .modelUncertainty, by norm_num, by norm_num, by norm_num,
    by norm_num⟩
  retrievedAt := 0
  documentId := none
  chunkId := none
  title := none
  sourceUrl := none
  extraMetadata := []
  uncertaintyBounds := none
  assumptions := none

/-- An agent that finds something, is told of a peer's finding, and times out on the second try. -/
def refiningFleet : Fleet where
  registered _ := true
  hasPeerHook domain := domain = "seismic"
  firstPass _ domain _ := .returns (.output ⟨domain, [quakeEvidence], []⟩)
  broadcasts := [⟨"ocean", "Tsunami buoy anomaly", quakeEvidence.uncertainty, none, 0⟩]
  peerHook _ _ _ agentInput := .proposes (.input agentInput)
  refine _ _ _ := .timesOut
  refineBroadcasts _ := []
  enableAgentCollaboration := true
  agentTimeout := "30.0"

/-- The evidence of the first pass is gone, and an empty output with an error in its place. -/
theorem fan_out_refinement_timeout :
    gathered refiningFleet sampleInput 0 "seismic"
      = .ok (.output ⟨"seismic", [quakeEvidence], []⟩) ∧
    run refiningFleet ["seismic", "ocean"] sampleInput
      = .ok [.output ⟨"seismic", [], ["Agent execution timed out after 30.0 seconds"]⟩,
          .output ⟨"ocean", [quakeEvidence], []⟩] ∧
    ¬ KeepsEvidence refiningFleet ["seismic", "ocean"] sampleInput := by
  have hrun : run refiningFleet ["seismic", "ocean"] sampleInput
      = .ok [.output ⟨"seismic", [], ["Agent execution timed out after 30.0 seconds"]⟩,
          .output ⟨"ocean", [quakeEvidence], []⟩] := rfl
  refine ⟨rfl, hrun, ?_⟩
  intro h
  obtain ⟨values, o, hvalues, hat, hne, -⟩ :=
    h 0 ⟨"seismic", [quakeEvidence], []⟩ ⟨"seismic", rfl, rfl, by simp⟩
  rw [hrun] at hvalues
  cases hvalues
  cases hat
  exact hne rfl

end FanOutCoordinator

end GaiaOS
