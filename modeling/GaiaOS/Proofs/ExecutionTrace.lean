/-
When the persisted execution trace is the truth.

`finalize_node` does not record what ran.  It puts `nodes_executed` together from two
fields of the final state, the simulation flag and the replan counter: `replan` is written
down once, and the synthesis and critic passes that follow it not at all.  The nodes that
did run are the word `pathTo` of `Proofs/ReplanLoop.lean` in the same two fields.  One
replan adds one name to the list and three nodes to the run, so the two agree exactly when
there was none, and whether there is one is decided by the first critic pass.
-/
import GaiaOS.Proofs.ReplanLoop

namespace GaiaOS

section Trace

variable {sv : Services} {s₀ : TaskGraphState} {r : GraphRun}

/-- A status update was sent by `finalize`, from the state it was called with. -/
theorem Reached.sent_by_finalize (h : Reached sv s₀ r) {u : StatusUpdate}
    (hu : u ∈ r.statusUpdates) :
    ∃ r', At sv s₀ r' .finalize ∧ r = r'.step sv ∧ u = finalizeUpdate sv r'.state := by
  rcases h with ⟨node, hat⟩ | ⟨r', node, hat, rfl, -⟩
  · rw [hat.unsent] at hu
    cases hu
  · have hsent : (r'.step sv).statusUpdates
        = (callNode sv r'.history.length r'.state node).statusUpdates := by
      simp only [GraphRun.step, hat.running, GraphRun.conclude]
      split <;> simp [hat.unsent]
    rw [hsent] at hu
    by_cases hfinal : node = .finalize
    · subst hfinal
      exact ⟨r', hat, rfl, finalizeNode_statusUpdates hu⟩
    · rw [callNode_statusUpdates hfinal] at hu
      cases hu

/-- `finalize` adds no critic pass. -/
theorem At.criticPasses_step (h : At sv s₀ r .finalize) :
    (r.step sv).criticPasses = r.criticPasses := by
  simp only [GraphRun.step, h.running, GraphRun.conclude, GraphRun.criticPasses]
  split
  · rfl
  · simp

theorem names_pathTo (sim : Bool) :
    (pathTo sim 0 .finalize ++ [Node.finalize]).map Node.name
      = ["supervisor", "fan_out"] ++ (if sim then ["simulation"] else [])
        ++ ["synthesis", "critic"] ++ ["finalize"] := by
  cases sim <;> rfl

/-- The persisted list is the word of the run exactly when there was no replan. -/
theorem At.nodesExecuted_eq_iff (h : At sv s₀ r .finalize) :
    nodesExecuted r.state = (r.step sv).executedNodes.map Node.name ↔ r.state.replans = 0 := by
  rw [executedNodes_step h.running, h.path]
  constructor
  · intro heq
    -- one replan adds one name to the list but three nodes to the run
    have hlen := congrArg List.length heq
    by_contra hne
    have hpos : r.state.replans > 0 := Nat.pos_of_ne_zero hne
    have hcycles : (cycles r.state.replans).length = 3 * r.state.replans := by
      simp [cycles, Nat.mul_comm]
    simp only [nodesExecuted, if_pos hpos, pathTo, prologue, List.length_append, List.length_map,
      hcycles] at hlen
    cases hsim : r.state.simulates <;> simp [hsim] at hlen <;> omega
  · intro hzero
    have hnot : ¬ r.state.replans > 0 := by omega
    rw [hzero, names_pathTo]
    simp only [nodesExecuted, if_neg hnot, List.append_nil]

theorem shouldReplan_zero_eq_false (enable : Bool) (flags : List CriticFlag) :
    ¬ shouldReplan enable flags 0 = true ↔ enable = false ∨ hasHighSeverity flags = false := by
  cases enable <;> simp [shouldReplan]

end Trace

/--
**The persisted trace is the run's exactly when the first critic pass lets it go.**

Whatever is sent to the database, at any point of any run, lists the nodes that were
executed, in order and with multiplicity, if and only if the replan loop is switched off
or the first critic pass returned no high-severity flag.
-/
theorem nodes_executed_truthful_iff (sv : Services) (s₀ : TaskGraphState)
    (h₀ : s₀.replanCount = none) (n : Nat) (u : StatusUpdate)
    (hu : u ∈ (GraphRun.advance sv n (.start s₀)).statusUpdates) :
    u.executionTrace.nodesExecuted
        = (GraphRun.advance sv n (.start s₀)).executedNodes.map Node.name
      ↔ sv.enableReplanLoop = false ∨
        ∀ pass, (GraphRun.advance sv n (.start s₀)).criticPasses.head? = some pass →
          hasHighSeverity (pass.criticFlags.getD []) = false := by
  have hreached : Reached sv s₀ (GraphRun.advance sv n (.start s₀)) := reached_advance h₀ n
  obtain ⟨r, hat, hr, rfl⟩ := hreached.sent_by_finalize hu
  rw [hr, hat.criticPasses_step]
  refine hat.nodesExecuted_eq_iff.trans ?_
  obtain ⟨last, hlast⟩ := hat.exists_lastPass
  cases hpasses : r.criticPasses with
  | nil =>
      rw [hpasses] at hlast
      cases hlast
  | cons first rest =>
      have hfirst := hat.firstPass first (by rw [hpasses]; rfl)
      simp only [reduceCtorEq, or_false] at hfirst
      have hzero : r.state.replans = 0 ↔ ¬ 0 < r.state.replans := by omega
      rw [hzero, ← hfirst, shouldReplan_zero_eq_false]
      simp

/-- A critic without flags: the persisted list is the run. -/
theorem nodes_executed_without_conflict :
    ∃ u ∈ (GraphRun.advance (conflictServices 0) 12 (.start jobState)).statusUpdates,
      u.executionTrace.nodesExecuted
        = (GraphRun.advance (conflictServices 0) 12 (.start jobState)).executedNodes.map
            Node.name := by
  have hsent : finalizeUpdate (conflictServices 0)
      (GraphRun.advance (conflictServices 0) 4 (.start jobState)).state
        ∈ (GraphRun.advance (conflictServices 0) 12 (.start jobState)).statusUpdates :=
    List.mem_singleton.mpr rfl
  refine ⟨_, hsent, ?_⟩
  refine (nodes_executed_truthful_iff (conflictServices 0) jobState rfl 12 _ hsent).mpr ?_
  refine Or.inr ?_
  intro pass hpass
  cases hpass
  rfl

/-- One replan: the second synthesis and the second critic pass are not in the list. -/
theorem nodes_executed_one_replan :
    (GraphRun.advance (conflictServices 4) 12 (.start jobState)).statusUpdates.map
        (fun u => u.executionTrace.nodesExecuted)
      = [["supervisor", "fan_out", "synthesis", "critic", "replan", "finalize"]] ∧
    (GraphRun.advance (conflictServices 4) 12 (.start jobState)).executedNodes.map Node.name
      = ["supervisor", "fan_out", "synthesis", "critic", "replan", "synthesis", "critic",
          "finalize"] := by
  exact ⟨by decide, by decide⟩

end GaiaOS
