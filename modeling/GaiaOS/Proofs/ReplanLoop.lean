/-
The replan loop of the investigation graph is bounded.

The two limits on the loop are written down in different places: `should_replan` stops at
two replans and `finalize_node` adds its note from two replans on.  Both are read off the
invariant of a run, which holds as long as the run is going.

Termination is a rank on the node and the counter: twelve at the supervisor, three less
for every replan, one at `finalize`.
-/
import GaiaOS.Proofs.GraphInvariant
import GaiaOS.Lib.Machine

namespace GaiaOS

/-! ### Whole runs

A run is still going, and then the invariant holds, or it is over, and then it came out
of such a run in one step.
-/

/-- No node is left to run. -/
def GraphRun.Over (r : GraphRun) : Prop := ∀ node, r.status ≠ .running node

/-- What every run from `s₀` satisfies. -/
def Reached (sv : Services) (s₀ : TaskGraphState) (r : GraphRun) : Prop :=
  (∃ node, At sv s₀ r node) ∨ ∃ r' node, At sv s₀ r' node ∧ r = r'.step sv ∧ r.Over

section Runs

variable {sv : Services} {s₀ : TaskGraphState} {r : GraphRun} {node : Node}

theorem step_of_over (h : r.Over) : r.step sv = r := by
  unfold GraphRun.step
  split
  · rename_i node hrun
    exact absurd hrun (h node)
  · rfl

/-- What a step does: nothing any more, raise, or return and go on. -/
theorem step_cases (sv : Services) (r : GraphRun) :
    (r.Over ∧ r.step sv = r) ∨
    ∃ node, r.status = .running node ∧
      ((∃ err, (callNode sv r.history.length r.state node).result = .error err ∧
        r.step sv = { r with
          status := .raised node err
          events := r.events ++ (callNode sv r.history.length r.state node).events
          statusUpdates :=
            r.statusUpdates ++ (callNode sv r.history.length r.state node).statusUpdates }) ∨
      ∃ u, (callNode sv r.history.length r.state node).result = .ok u ∧
        r.step sv = r.returned sv node u) := by
  cases hstatus : r.status with
  | running node =>
      refine Or.inr ⟨node, rfl, ?_⟩
      cases hres : (callNode sv r.history.length r.state node).result with
      | error err =>
          refine Or.inl ⟨err, rfl, ?_⟩
          unfold GraphRun.step
          rw [hstatus]
          show r.conclude sv node _ = _
          unfold GraphRun.conclude
          rw [hres]
      | ok u => exact Or.inr ⟨u, rfl, step_eq_returned hstatus hres⟩
  | finished | raised =>
      have hover : r.Over := by
        intro node hrun
        rw [hstatus] at hrun
        cases hrun
      exact Or.inl ⟨hover, step_of_over hover⟩

/-- A step from `node`: on to the next node, or the run is over. -/
theorem At.step_cases (h : At sv s₀ r node) :
    (∃ u next, (callNode sv r.history.length r.state node).result = .ok u ∧
      nextNode sv (r.state.apply u) node = some next ∧ At sv s₀ (r.step sv) next) ∨
    (r.step sv).Over ∧ (node = .finalize ∨
      ∃ err, (callNode sv r.history.length r.state node).result = .error err) := by
  cases hres : (callNode sv r.history.length r.state node).result with
  | error err =>
      refine Or.inr ⟨?_, Or.inr ⟨err, rfl⟩⟩
      intro n hn
      simp only [GraphRun.step, h.running, GraphRun.conclude, hres] at hn
      cases hn
  | ok u =>
      cases hnext : nextNode sv (r.state.apply u) node with
      | some next => exact Or.inl ⟨u, next, rfl, hnext, h.step hres hnext⟩
      | none =>
          refine Or.inr ⟨?_, Or.inl ?_⟩
          · intro n hn
            simp only [GraphRun.step, h.running, GraphRun.conclude, hres, hnext] at hn
            cases hn
          · cases node with
            | finalize => rfl
            | _ => cases hnext

theorem reached_start (h₀ : s₀.replanCount = none) : Reached sv s₀ (.start s₀) :=
  Or.inl ⟨.supervisor, at_start h₀⟩

theorem Reached.step (h : Reached sv s₀ r) : Reached sv s₀ (r.step sv) := by
  rcases h with ⟨node, hat⟩ | ⟨r', node, hat, hr, hover⟩
  · rcases hat.step_cases with ⟨u, next, -, -, hnext⟩ | ⟨hover, -⟩
    · exact Or.inl ⟨next, hnext⟩
    · exact Or.inr ⟨r, node, hat, rfl, hover⟩
  · rw [step_of_over hover]
    exact Or.inr ⟨r', node, hat, hr, hover⟩

/-- The run lemma. -/
theorem reached_advance (h₀ : s₀.replanCount = none) (n : Nat) :
    Reached sv s₀ (GraphRun.advance sv n (.start s₀)) :=
  Function.Iterate.rec (Reached sv s₀) (reached_start h₀) (fun _ h => Reached.step h) n

/-- The last critic pass before `finalize`. -/
theorem At.exists_lastPass (h : At sv s₀ r .finalize) :
    ∃ pass, r.criticPasses.getLast? = some pass := by
  have hlen : r.criticPasses.length = r.state.replans + 1 := by
    rw [criticPasses_length, h.path]
    simp [pathTo, (count_cycles _).1, (count_prologue _).1]
  cases hlast : r.criticPasses.getLast? with
  | some pass => exact ⟨pass, rfl⟩
  | none =>
      rw [List.getLast?_eq_none_iff] at hlast
      rw [hlast] at hlen
      simp at hlen

/-- The nodes executed once a node's call is over. -/
theorem executedNodes_step (h : r.status = .running node) :
    (r.step sv).executedNodes = r.history.map (·.node) ++ [node] := by
  unfold GraphRun.step GraphRun.executedNodes
  rw [h]
  simp only [GraphRun.conclude]
  split
  · rfl
  · split <;> simp

end Runs

/-- Services whose critic raises one conflict in every pass before that node number. -/
def conflictServices (conflictUntil : Nat) : Services where
  rt := Runtime.reference
  classify _ := .ok ⟨some (.tier .moderate), some ["seismic"], some false⟩
  runAirQuality _ _ := .ok ⟨"air_quality", [], []⟩
  runFanOut _ domains _ := .ok (domains.map fun domain => ⟨domain, [], []⟩)
  runSimulation _ _ _ := .ok ⟨"simulation", [], []⟩
  synthesize _ _ := .ok ⟨[], ["seismic"]⟩
  verify ran _ := .ok <| if ran < conflictUntil then
    [⟨"Conflicting fault displacement claim", "Persistent hypocenter contradiction", .high,
      some ["seismic"]⟩] else []
  enableReplanLoop := true
  listDomains := ["seismic"]
  fixed2 _ := "0.00"
  strBounds _ := "(0.0, 1.0)"
  now _ := "2026-04-15T14:30:00Z"
  database := some fun _ => .ok ()

/-- The state `run_investigation_job` starts the graph from. -/
def jobState : TaskGraphState where
  investigationId := ⟨"22222222-2222-4222-8222-222222222222", rfl⟩
  query := "Conflicting seismic query"

end GaiaOS
