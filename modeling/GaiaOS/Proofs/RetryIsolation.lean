/-
What a retried investigation takes over from the attempts before it.

The input an attempt starts the graph with resets less than it looks: an empty list under a
reducer that appends leaves the saved outputs where they are, and the replan counter is not
in the input at all.  The other stale channels do no harm, because every node that reads one
runs after the node that writes it.  That is the lockstep argument below: two runs that start
alike, up to channels nobody reads before they are written, make the same calls with the
same answers and finalize the same (`Lockstep.step`).

So the last attempt finalizes what it would have on a fresh thread, with nothing but its own
outputs and its own replans, exactly when the thread it found had no outputs and no replans
counted (`retry_isolated_iff`).
-/
import GaiaOS.Proofs.InvestigationJob
import GaiaOS.Proofs.ReplanLoop

namespace GaiaOS

/-! ### Two states that no node can tell apart -/

/-- Equal as far as the nodes from `node` on can see. -/
structure Alike (node : Node) (s t : TaskGraphState) : Prop where
  investigationId : s.investigationId = t.investigationId
  query : s.query = t.query
  complexityTier : s.complexityTier = t.complexityTier
  agentOutputs : s.agentOutputs = t.agentOutputs
  finalAnswer : s.finalAnswer = t.finalAnswer
  replans : s.replans = t.replans
  /-- Written by the supervisor. -/
  classified : node ≠ .supervisor →
    s.matchedDomains = t.matchedDomains ∧ s.needsSimulation = t.needsSimulation
  /-- Written by synthesis. -/
  synthesised : node = .critic ∨ node = .replan ∨ node = .finalize →
    s.synthesisOutput = t.synthesisOutput
  /-- Written by the critic. -/
  flagged : node = .replan ∨ node = .finalize → s.criticFlags = t.criticFlags

section Alike

variable {sv : Services} {ran : Nat} {node next : Node} {s t : TaskGraphState} {u : Update}

theorem Alike.agentInput (h : Alike node s t) : agentInput s = agentInput t := by
  unfold GaiaOS.agentInput
  rw [h.investigationId, h.query]

/-- `finalize` reads everything, and by then everything is written. -/
theorem Alike.finalize (h : Alike .finalize s t) :
    finalizeAnswer sv s = finalizeAnswer sv t ∧ finalizeUpdate sv s = finalizeUpdate sv t := by
  have hsynthesis := h.synthesised (by simp)
  have hflags : s.flags = t.flags := by
    unfold TaskGraphState.flags
    rw [h.flagged (by simp)]
  have hsimulates : s.simulates = t.simulates := by
    unfold TaskGraphState.simulates
    rw [(h.classified (by simp)).2]
  have hanswer : finalizeAnswer sv s = finalizeAnswer sv t := by
    unfold finalizeAnswer
    rw [h.finalAnswer, hsynthesis, h.replans, hflags]
  refine ⟨hanswer, ?_⟩
  unfold finalizeUpdate tierValue averageConfidence executionTrace nodesExecuted
  rw [hanswer, h.investigationId, h.complexityTier, hsynthesis, hsimulates, h.replans, hflags,
    h.agentOutputs]

/-- A node makes the same call. -/
theorem Alike.callNode_eq (h : Alike node s t) :
    callNode sv ran s node = callNode sv ran t node := by
  cases node with
  | supervisor =>
      show supervisorNode sv s = supervisorNode sv t
      unfold supervisorNode
      rw [h.query]
  | airQuality =>
      show airQualityNode sv ran s = airQualityNode sv ran t
      unfold airQualityNode
      rw [h.agentInput]
  | fanOut =>
      show fanOutNode sv ran s = fanOutNode sv ran t
      unfold fanOutNode
      rw [h.agentInput, (h.classified (by simp)).1]
  | simulation =>
      show simulationNode sv ran s = simulationNode sv ran t
      unfold simulationNode
      rw [h.agentInput, h.agentOutputs]
  | synthesis =>
      show synthesisNode sv ran s = synthesisNode sv ran t
      unfold synthesisNode
      rw [h.agentOutputs]
  | critic =>
      show criticNode sv ran s = criticNode sv ran t
      unfold criticNode
      rw [h.synthesised (by simp)]
  | replan =>
      have hflags : s.flags = t.flags := by
        unfold TaskGraphState.flags
        rw [h.flagged (by simp)]
      show replanNode sv ran s = replanNode sv ran t
      unfold replanNode
      rw [h.agentInput, h.replans, hflags, (h.classified (by simp)).1]
  | finalize =>
      show finalizeNode sv s = finalizeNode sv t
      unfold finalizeNode
      rw [h.finalize.1, h.finalize.2, h.investigationId]

/-- The channels an update leaves equal whatever it is. -/
theorem Alike.replans_apply (h : s.replans = t.replans) (u : Update) :
    (s.apply u).replans = (t.apply u).replans := by
  show (u.replanCount.or s.replanCount).getD 0 = (u.replanCount.or t.replanCount).getD 0
  cases u.replanCount with
  | none => exact h
  | some k => rfl

/-- The same edge is taken, and the states are alike for the node it leads to. -/
theorem Alike.edge (h : Alike node s t) (hu : UpdateShape sv s u node) :
    nextNode sv (s.apply u) node = nextNode sv (t.apply u) node ∧
      ∀ next, nextNode sv (s.apply u) node = some next →
        Alike next (s.apply u) (t.apply u) := by
  have hreplans := Alike.replans_apply h.replans u
  cases node with
  | supervisor =>
      obtain ⟨tier, domains, sim, rfl⟩ := hu
      refine ⟨rfl, ?_⟩
      intro next hnext
      cases hnext
      exact ⟨h.investigationId, h.query, rfl, by simp [TaskGraphState.apply, h.agentOutputs],
        h.finalAnswer, hreplans, fun _ => ⟨rfl, rfl⟩, by simp [routeByComplexity],
        by simp [routeByComplexity]⟩
  | airQuality | fanOut =>
      obtain ⟨outputs, rfl⟩ := hu
      have hclassified := h.classified (by simp)
      have hroute : routeAfterDomainAgents (s.apply { agentOutputs := some outputs }) =
          routeAfterDomainAgents (t.apply { agentOutputs := some outputs }) := by
        unfold routeAfterDomainAgents TaskGraphState.simulates TaskGraphState.apply
        rw [hclassified.2]
      refine ⟨congrArg some hroute, ?_⟩
      intro next hnext
      have hnode : next = .simulation ∨ next = .synthesis := by
        cases hnext
        unfold routeAfterDomainAgents
        split
        · exact Or.inl rfl
        · exact Or.inr rfl
      refine ⟨h.investigationId, h.query, h.complexityTier,
        by simp [TaskGraphState.apply, h.agentOutputs], h.finalAnswer, hreplans,
        fun _ => hclassified, ?_, ?_⟩
      · rcases hnode with rfl | rfl <;> simp
      · rcases hnode with rfl | rfl <;> simp
  | simulation | replan =>
      obtain ⟨outputs, rfl⟩ := hu
      refine ⟨rfl, ?_⟩
      intro next hnext
      cases hnext
      exact ⟨h.investigationId, h.query, h.complexityTier,
        by simp [TaskGraphState.apply, h.agentOutputs], h.finalAnswer, hreplans,
        fun _ => h.classified (by simp), by simp, by simp⟩
  | synthesis =>
      obtain ⟨out, rfl⟩ := hu
      refine ⟨rfl, ?_⟩
      intro next hnext
      cases hnext
      exact ⟨h.investigationId, h.query, h.complexityTier,
        by simp [TaskGraphState.apply, h.agentOutputs], h.finalAnswer, hreplans,
        fun _ => h.classified (by simp), fun _ => rfl, by simp⟩
  | critic =>
      obtain ⟨flags, answer, -, rfl⟩ := hu
      have hroute : routeAfterCritic sv
            (s.apply { criticFlags := some flags, finalAnswer := some answer }) =
          routeAfterCritic sv
            (t.apply { criticFlags := some flags, finalAnswer := some answer }) := by
        unfold routeAfterCritic
        rw [hreplans]
        rfl
      refine ⟨congrArg some hroute, ?_⟩
      intro next _
      exact ⟨h.investigationId, h.query, h.complexityTier,
        by simp [TaskGraphState.apply, h.agentOutputs], rfl, hreplans,
        fun _ => h.classified (by simp), fun _ => h.synthesised (by simp), fun _ => rfl⟩
  | finalize =>
      cases hu
      refine ⟨rfl, ?_⟩
      intro next hnext
      cases hnext

end Alike

/-! ### Two runs in lockstep -/

section Lockstep

variable {sv : Services} {r f : GraphRun} {s₀ : TaskGraphState}

/-- The two runs have done the same and cannot be told apart from here on. -/
structure Lockstep (r f : GraphRun) : Prop where
  status : r.status = f.status
  history : r.history = f.history
  statusUpdates : r.statusUpdates = f.statusUpdates
  alike : ∀ node, r.status = .running node → Alike node r.state f.state
  ended : r.Over → r.state.agentOutputs = f.state.agentOutputs ∧
    r.state.replans = f.state.replans ∧ r.state.finalAnswer = f.state.finalAnswer

/-- The step lemma. -/
theorem Lockstep.step (h : Lockstep r f) : Lockstep (r.step sv) (f.step sv) := by
  rcases step_cases sv r with ⟨hover, hsame⟩ | ⟨node, hrun, hstep⟩
  · have hover' : f.Over := by
      intro node hnode
      exact hover node (h.status.trans hnode)
    rw [hsame, step_of_over hover']
    exact h
  · have halike := h.alike node hrun
    have hrun' : f.status = .running node := h.status.symm.trans hrun
    have hcall : callNode sv f.history.length f.state node =
        callNode sv r.history.length r.state node := by
      rw [← h.history]
      exact halike.callNode_eq.symm
    rcases hstep with ⟨err, herr, hr⟩ | ⟨u, hu, hr⟩
    · have hf : f.step sv = { f with
          status := .raised node err
          events := f.events ++ (callNode sv r.history.length r.state node).events
          statusUpdates :=
            f.statusUpdates ++ (callNode sv r.history.length r.state node).statusUpdates } := by
        unfold GraphRun.step
        rw [hrun']
        show f.conclude sv node _ = _
        unfold GraphRun.conclude
        rw [hcall, herr]
      rw [hr, hf]
      refine ⟨rfl, h.history, ?_, ?_, ?_⟩
      · show r.statusUpdates ++ _ = f.statusUpdates ++ _
        rw [h.statusUpdates]
      · intro next hnext
        cases hnext
      · intro _
        exact ⟨halike.agentOutputs, halike.replans, halike.finalAnswer⟩
    · have hf : f.step sv = f.returned sv node u := step_eq_returned hrun' (hcall ▸ hu)
      obtain ⟨hnext, hedge⟩ := halike.edge (callNode_shape hu)
      rw [hr, hf]
      refine ⟨?_, ?_, ?_, ?_, ?_⟩
      · simp only [GraphRun.returned, GraphRun.conclude]
        rw [hnext]
      · rw [returned_history, returned_history, h.history]
      · show r.statusUpdates ++ (callNode sv r.history.length r.state node).statusUpdates =
          f.statusUpdates ++ (callNode sv f.history.length f.state node).statusUpdates
        rw [h.statusUpdates, hcall]
      · intro next hrunning
        refine hedge next ?_
        cases hn : nextNode sv (r.state.apply u) node with
        | none =>
            simp only [GraphRun.returned, GraphRun.conclude, hn] at hrunning
            cases hrunning
        | some next' =>
            simp only [GraphRun.returned, GraphRun.conclude, hn] at hrunning
            cases hrunning
            rfl
      · intro _
        refine ⟨?_, Alike.replans_apply halike.replans u, ?_⟩
        · show r.state.agentOutputs ++ _ = f.state.agentOutputs ++ _
          rw [halike.agentOutputs]
        · show u.finalAnswer.or r.state.finalAnswer = u.finalAnswer.or f.state.finalAnswer
          rw [halike.finalAnswer]

/-- The run lemma. -/
theorem lockstep_advance (sv : Services) (h : Lockstep r f) (n : Nat) :
    Lockstep (r.advance sv n) (f.advance sv n) := by
  induction n with
  | zero => exact h
  | succ n ih =>
      unfold GraphRun.advance at ih ⊢
      rw [Function.iterate_succ_apply', Function.iterate_succ_apply']
      exact ih.step

/-! ### What a run adds to what it found -/

/-- The outputs are those found and those of the run's own passes, and so are the replans. -/
structure Accrued (s₀ : TaskGraphState) (r : GraphRun) : Prop where
  notAirQuality : r.status ≠ .running .airQuality
  outputs : r.state.agentOutputs = s₀.agentOutputs ++ r.passOutputs
  replans : r.state.replans = s₀.replans + (r.history.map (·.node)).count .replan

theorem accrued_start (s₀ : TaskGraphState) : Accrued s₀ (.start s₀) where
  notAirQuality := by
    intro h
    cases h
  outputs := by simp [GraphRun.start, GraphRun.passOutputs]
  replans := rfl

theorem Accrued.step (h : Accrued s₀ r) : Accrued s₀ (r.step sv) := by
  rcases step_cases sv r with ⟨-, hsame⟩ | ⟨node, hrun, ⟨err, -, hr⟩ | ⟨u, hu, hr⟩⟩
  · rw [hsame]
    exact h
  · rw [hr]
    exact ⟨by simp, h.outputs, h.replans⟩
  · have hshape := callNode_shape hu
    rw [hr]
    refine ⟨?_, ?_, ?_⟩
    · intro hair
      cases hn : nextNode sv (r.state.apply u) node with
      | none =>
          simp only [GraphRun.returned, GraphRun.conclude, hn] at hair
          cases hair
      | some next =>
          simp only [GraphRun.returned, GraphRun.conclude, hn] at hair
          cases hair
          -- no edge leads to the air quality node
          cases node with
          | airQuality | fanOut =>
              simp only [nextNode, routeAfterDomainAgents, Option.some.injEq] at hn
              split at hn <;> cases hn
          | critic =>
              simp only [nextNode, routeAfterCritic, Option.some.injEq] at hn
              split at hn <;> cases hn
          | _ => cases hn
    · refine outputs_returned h.outputs ?_ hshape
      intro heq
      exact h.notAirQuality (heq ▸ hrun)
    · rw [returned_state, returned_history, replans_apply hshape, h.replans, List.map_append,
        List.count_append]
      by_cases hnode : node = .replan
      · simp [hnode, Nat.add_assoc]
      · simp [hnode]

theorem accrued_advance (sv : Services) (s₀ : TaskGraphState) (n : Nat) :
    Accrued s₀ ((GraphRun.start s₀).advance sv n) :=
  Function.Iterate.rec (Accrued s₀) (accrued_start s₀) (fun _ h => h.step) n

end Lockstep

/-! ### The last attempt and a fresh one -/

namespace InvestigationJob

/-- The outputs and the replans a thread comes with. -/
def savedOutputs (thread : Option TaskGraphState) : List AgentOutput :=
  (thread.map (·.agentOutputs)).getD []

def savedReplans (thread : Option TaskGraphState) : Nat := (thread.map (·.replans)).getD 0

/-- A run that finalizes what the fresh one does, and nothing but its own. -/
structure Isolated (run fresh : GraphRun) : Prop where
  agentOutputs : run.state.agentOutputs = fresh.state.agentOutputs
  replans : run.state.replans = fresh.state.replans
  finalAnswer : run.state.finalAnswer = fresh.state.finalAnswer
  persisted : run.statusUpdates = fresh.statusUpdates
  /-- No output of an earlier attempt is in it. -/
  ownOutputs : run.state.agentOutputs = run.passOutputs
  /-- No replan of an earlier attempt is counted. -/
  ownReplans : run.state.replans = (run.history.map (·.node)).count .replan

section Attempts

variable (investigationId : Uuid) (query : String)

theorem threadInput_agentOutputs (thread : Option TaskGraphState) :
    (Attempt.threadInput investigationId query thread).agentOutputs = savedOutputs thread := by
  cases thread with
  | none => rfl
  | some saved => exact List.append_nil _

theorem threadInput_replans (thread : Option TaskGraphState) :
    (Attempt.threadInput investigationId query thread).replans = savedReplans thread := by
  cases thread <;> rfl

/-- Without outputs and replans the input is as good as a fresh one. -/
theorem lockstep_start {thread : Option TaskGraphState} (houtputs : savedOutputs thread = [])
    (hreplans : savedReplans thread = 0) :
    Lockstep (GraphRun.start (Attempt.threadInput investigationId query thread))
      (GraphRun.start (Attempt.threadInput investigationId query none)) where
  status := rfl
  history := rfl
  statusUpdates := rfl
  ended := by
    intro hover
    exact absurd rfl (hover .supervisor)
  alike := by
    intro node hrun
    cases hrun
    refine ⟨?_, ?_, ?_, ?_, ?_, ?_, by simp, by simp, by simp⟩
    · cases thread <;> rfl
    · cases thread <;> rfl
    · cases thread <;> rfl
    · show (Attempt.threadInput investigationId query thread).agentOutputs = []
      rw [threadInput_agentOutputs, houtputs]
    · cases thread <;> rfl
    · show (Attempt.threadInput investigationId query thread).replans = 0
      rw [threadInput_replans, hreplans]

end Attempts

/--
**A retry is isolated exactly when there was nothing to take over.**  Whatever attempts came
before and however far their graphs got, the attempt that succeeds finalizes the outputs, the
replan count and the answer of a fresh thread, with no output and no replan of an earlier
attempt among them, if and only if the thread it found held no outputs and no replans.
-/
theorem retry_isolated_iff (investigationId : Uuid) (earlier : List Attempt) (last : Attempt)
    (created : JobState)
    (hsucceeds : (last.run investigationId (runAll investigationId earlier created)).2 = .ok ()) :
    ∃ query,
      (last.prepare investigationId (runAll investigationId earlier created)).2 = .ok query ∧
      (last.graphRun investigationId query
        (runAll investigationId earlier created).thread).status = .finished ∧
      (Isolated
        (last.graphRun investigationId query (runAll investigationId earlier created).thread)
        (last.graphRun investigationId query none) ↔
      savedOutputs (runAll investigationId earlier created).thread = [] ∧
        savedReplans (runAll investigationId earlier created).thread = 0) := by
  obtain ⟨query, hprepare, hfinished, -⟩ := completes_of_run last investigationId _ hsucceeds
  refine ⟨query, hprepare, hfinished, ?_⟩
  generalize (runAll investigationId earlier created).thread = thread at hfinished ⊢
  have haccrued := accrued_advance last.services
    (Attempt.threadInput investigationId query thread) last.steps
  have houtputs := haccrued.outputs
  have hreplans := haccrued.replans
  rw [threadInput_agentOutputs] at houtputs
  rw [threadInput_replans] at hreplans
  constructor
  · intro h
    constructor
    · exact List.append_left_eq_self.mp (houtputs.symm.trans h.ownOutputs)
    · have hown := hreplans.symm.trans h.ownReplans
      unfold Attempt.graphRun at hown
      omega
  · rintro ⟨hnone, hzero⟩
    have hlock := lockstep_advance last.services (lockstep_start investigationId query hnone hzero)
      last.steps
    have hover : (last.graphRun investigationId query thread).Over := by
      intro node hnode
      rw [hfinished] at hnode
      cases hnode
    obtain ⟨hout, hrep, hans⟩ := hlock.ended hover
    refine ⟨hout, hrep, hans, hlock.statusUpdates, ?_, ?_⟩
    · rw [hnone, List.nil_append] at houtputs
      exact houtputs
    · rw [hzero, Nat.zero_add] at hreplans
      exact hreplans

/-- An investigation as the API creates it. -/
def createdJob : JobState where
  versions := [
    { id := jobState.investigationId, userId := none, queryText := "Conflicting seismic query"
      createdAt := 0 }]

/-- An attempt whose critic raises a conflict before that node, and which gets that far. -/
def jobAttempt (conflictUntil steps : Nat) : Attempt where
  services := conflictServices conflictUntil
  steps
  query := some "Conflicting seismic query"

/-- An attempt that never reached the graph leaves nothing to take over. -/
theorem retry_after_redis_failure :
    ∃ query, Isolated
      ((jobAttempt 0 12).graphRun jobState.investigationId query none)
      ((jobAttempt 0 12).graphRun jobState.investigationId query none) := by
  obtain ⟨query, -, -, hiff⟩ := retry_isolated_iff jobState.investigationId
    [{ jobAttempt 0 12 with redis := some (.exception "Redis is not initialised.") }]
    (jobAttempt 0 12) createdJob rfl
  exact ⟨query, hiff.mpr ⟨rfl, rfl⟩⟩

/--
The first attempt is cut off after the fan-out, the second one finishes: it finalizes the
domain's output twice, where a fresh thread has it once.
-/
theorem retry_repeats_outputs :
    let thread := (runAll jobState.investigationId [jobAttempt 0 2] createdJob).thread
    let retried := (jobAttempt 0 12).graphRun jobState.investigationId "Conflicting seismic query" thread
    let fresh := (jobAttempt 0 12).graphRun jobState.investigationId "Conflicting seismic query" none
    ((jobAttempt 0 2).run jobState.investigationId createdJob).2 =
        .error (.exception "Task exceeded maximum timeout value") ∧
      ((jobAttempt 0 12).run jobState.investigationId
        (runAll jobState.investigationId [jobAttempt 0 2] createdJob)).2 = .ok () ∧
      retried.state.agentOutputs.map (·.agentName) = ["seismic", "seismic"] ∧
      fresh.state.agentOutputs.map (·.agentName) = ["seismic"] ∧
      ¬ Isolated retried fresh := by
  refine ⟨rfl, rfl, by decide, by decide, ?_⟩
  intro h
  have hnames := congrArg (List.map (·.agentName)) h.agentOutputs
  revert hnames
  decide

end InvestigationJob

end GaiaOS
