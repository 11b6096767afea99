/-
When an evidence gap is a real one.

Synthesis lists a gap for every empty output, and the outputs of an agent pile up over the replan
passes.  An agent that fails twice is listed twice, and one that fails first and answers later stays
listed next to its evidence.

What a synthesis pass lists is a function of what the passes before it returned
(`Traced.synthesised`), so the condition is one on that list alone (`realGaps_iff`): no agent has
two empty outputs, or an empty one and one with evidence.
-/
import GaiaOS.Proofs.ReplanLoop
import GaiaOS.Proofs.Synthesis

namespace GaiaOS

/-- The services with the synthesis agent in place; the model's reply may be anything. -/
def Services.withSynthesis (sv : Services) (minCross : Int)
    (reply : Nat → List AgentOutput → Except PyError Json) : Services :=
  { sv with synthesize := fun ran outputs =>
      GaiaOS.synthesize sv.rt minCross (reply ran outputs) outputs }

/-- The agents that were asked and of which no output carries evidence, each listed once. -/
def RealGaps (outputs : List AgentOutput) (gaps : List String) : Prop :=
  (∀ name, name ∈ gaps ↔
    (∃ o ∈ outputs, o.agentName = name) ∧ ∀ o ∈ outputs, o.agentName = name → o.evidence = []) ∧
  gaps.Nodup

/-- Of the outputs of an agent that left one empty, no other is empty and none carries evidence. -/
structure FailsOnce (outputs : List AgentOutput) : Prop where
  once : ((outputs.filter (·.evidence.isEmpty)).map (·.agentName)).Nodup
  never : ∀ o ∈ outputs, ∀ o' ∈ outputs, o.agentName = o'.agentName → o.evidence = [] →
    o'.evidence = []

/-! ### One synthesis -/

/-- The gaps are the agents of the empty outputs, whatever the model replies. -/
theorem synthesize_gaps {rt : Runtime} {minCross : Int} {reply : Except PyError Json}
    {outputs : List AgentOutput} {out : SynthesisOutput}
    (h : synthesize rt minCross reply outputs = .ok out) :
    out.evidenceGaps = (outputs.filter (·.evidence.isEmpty)).map (·.agentName) := by
  unfold synthesize at h
  simp only at h
  split at h
  · obtain ⟨_, -, h⟩ := ok_of_bind h
    rw [← Except.ok.inj h]
  · cases reply with
    | error err =>
        obtain ⟨_, -, h⟩ := ok_of_bind h
        rw [← Except.ok.inj h]
    | ok parsed =>
        obtain ⟨_, -, h⟩ := ok_of_bind h
        obtain ⟨_, -, h⟩ := ok_of_bind h
        obtain ⟨claims, -, h⟩ := ok_of_bind h
        split at h
        · obtain ⟨_, -, h⟩ := ok_of_bind h
          rw [← Except.ok.inj h]
        · rw [← Except.ok.inj h]

theorem mem_gaps {outputs : List AgentOutput} {name : String} :
    name ∈ (outputs.filter (·.evidence.isEmpty)).map (·.agentName) ↔
      ∃ o ∈ outputs, o.agentName = name ∧ o.evidence = [] := by
  simp only [List.mem_map, List.mem_filter, List.isEmpty_iff]
  constructor
  · rintro ⟨o, ⟨ho, hempty⟩, hname⟩
    exact ⟨o, ho, hname, hempty⟩
  · rintro ⟨o, ho, hname, hempty⟩
    exact ⟨o, ⟨ho, hempty⟩, hname⟩

/-- **The gaps are real exactly if every agent fails at most once and never answers besides.** -/
theorem realGaps_iff (outputs : List AgentOutput) :
    RealGaps outputs ((outputs.filter (·.evidence.isEmpty)).map (·.agentName)) ↔
      FailsOnce outputs := by
  constructor
  · rintro ⟨hreal, hnodup⟩
    refine ⟨hnodup, ?_⟩
    intro o ho o' ho' hname hempty
    exact ((hreal o.agentName).mp (mem_gaps.mpr ⟨o, ho, rfl, hempty⟩)).2 o' ho' hname.symm
  · intro h
    refine ⟨?_, h.once⟩
    intro name
    rw [mem_gaps]
    constructor
    · rintro ⟨o, ho, rfl, hempty⟩
      exact ⟨⟨o, ho, rfl⟩, fun o' ho' hname => h.never o ho o' ho' hname.symm hempty⟩
    · rintro ⟨⟨o, ho, rfl⟩, hall⟩
      exact ⟨o, ho, rfl, hall o ho rfl⟩

/-! ### Every synthesis of a run -/

/-- Everything the nodes of a history returned as agent outputs, in order. -/
def outputsOf (history : List Executed) : List AgentOutput :=
  history.flatMap fun e => e.update.agentOutputs.getD []

/-- A run whose outputs are those its nodes returned, and whose syntheses worked on those that were
there at the time. -/
structure Traced (sv : Services) (s₀ : TaskGraphState) (r : GraphRun) : Prop where
  outputs : r.state.agentOutputs = s₀.agentOutputs ++ outputsOf r.history
  synthesised : ∀ before u after, r.history = before ++ ⟨.synthesis, u⟩ :: after →
    ∃ ran out, sv.synthesize ran (s₀.agentOutputs ++ outputsOf before) = .ok out ∧
      u.synthesisOutput = some out

section Run

variable {sv : Services} {s₀ : TaskGraphState} {r : GraphRun} {node : Node}

theorem traced_start (sv : Services) (s₀ : TaskGraphState) : Traced sv s₀ (.start s₀) where
  outputs := (List.append_nil _).symm
  synthesised := by
    intro before u after h
    cases before <;> cases h

theorem synthesisNode_ok {ran : Nat} {s : TaskGraphState} {u : Update}
    (h : (synthesisNode sv ran s).result = .ok u) :
    ∃ out, sv.synthesize ran s.agentOutputs = .ok out ∧ u.synthesisOutput = some out := by
  obtain ⟨out, hout, h⟩ := ok_of_bind h
  exact ⟨out, hout, by rw [← Except.ok.inj h]⟩

/-- The step lemma: a node that returns adds its outputs, and if it is a synthesis it worked on
those there were. -/
theorem Traced.returned (h : Traced sv s₀ r) {u : Update}
    (hu : (callNode sv r.history.length r.state node).result = .ok u) :
    Traced sv s₀ (r.returned sv node u) := by
  refine ⟨?_, ?_⟩
  · show r.state.agentOutputs ++ u.agentOutputs.getD [] = _
    rw [returned_history, outputsOf, List.flatMap_append, h.outputs, List.append_assoc]
    simp [outputsOf]
  · intro before v after hsplit
    rw [returned_history] at hsplit
    rcases List.eq_nil_or_concat after with rfl | ⟨after', last, rfl⟩
    · -- the synthesis is the node that just ran
      obtain ⟨hbefore, hlast⟩ := List.append_inj' hsplit rfl
      obtain ⟨rfl, rfl⟩ := Executed.mk.inj (List.cons.inj hlast).1
      obtain ⟨out, hout, hv⟩ := synthesisNode_ok hu
      rw [h.outputs, hbefore] at hout
      exact ⟨_, out, hout, hv⟩
    · have hinit : r.history ++ [⟨node, u⟩] = (before ++ ⟨.synthesis, v⟩ :: after') ++ [last] := by
        rw [hsplit]
        simp
      exact h.synthesised before v after' (List.append_inj' hinit rfl).1

theorem Traced.step (h : Traced sv s₀ r) : Traced sv s₀ (r.step sv) := by
  rcases step_cases sv r with ⟨-, hr⟩ | ⟨node, -, ⟨err, -, hr⟩ | ⟨u, hu, hr⟩⟩
  · rw [hr]
    exact h
  · rw [hr]
    exact ⟨h.outputs, h.synthesised⟩
  · rw [hr]
    exact h.returned hu

theorem traced_advance (sv : Services) (s₀ : TaskGraphState) (n : Nat) :
    Traced sv s₀ ((GraphRun.start s₀).advance sv n) :=
  Function.Iterate.rec (Traced sv s₀) (traced_start sv s₀) (fun _ h => h.step) n

end Run

/--
**The gaps of every synthesis of a run.**

Whatever the agents, the model and the critic do, each synthesis of a run lists the real gaps of the
outputs gathered so far exactly if, among these, every agent that left an output empty did so once
and has no other output.
-/
theorem evidence_gaps_iff (sv : Services) (minCross : Int)
    (reply : Nat → List AgentOutput → Except PyError Json) (s₀ : TaskGraphState) (n : Nat)
    (before : List Executed) (u : Update) (after : List Executed)
    (hsynthesis : ((GraphRun.start s₀).advance (sv.withSynthesis minCross reply) n).history
      = before ++ ⟨.synthesis, u⟩ :: after) :
    ∃ out, u.synthesisOutput = some out ∧
      (RealGaps (s₀.agentOutputs ++ outputsOf before) out.evidenceGaps ↔
        FailsOnce (s₀.agentOutputs ++ outputsOf before)) := by
  obtain ⟨ran, out, hout, hu⟩ :=
    (traced_advance (sv.withSynthesis minCross reply) s₀ n).synthesised before u after hsynthesis
  refine ⟨out, hu, ?_⟩
  rw [synthesize_gaps hout]
  exact realGaps_iff _

/-! ### An agent that recovers -/

/-- The seismic agent times out in the first pass and answers when it is asked again; the model
cannot be reached. -/
def recoveringServices : Services :=
  { conflictServices 6 with
    runFanOut := fun ran _ _ =>
      .ok (if ran < 4 then [⟨"seismic", [], ["Agent execution timed out after 30 seconds"]⟩]
        else [sampleOutput]) }.withSynthesis 2 fun _ _ => .error (.exception "LLM query failed")

/-- What a history shows of a node: the gaps it listed, if it is a synthesis. -/
def shownGaps (e : Executed) : Node × Option (List String) :=
  (e.node, e.update.synthesisOutput.map (·.evidenceGaps))

theorem exists_synthesis (history : List Executed) (i : Nat) (gaps : List String)
    (h : (history.map shownGaps)[i]? = some (.synthesis, some gaps)) :
    ∃ u after out, history = history.take i ++ ⟨.synthesis, u⟩ :: after ∧
      u.synthesisOutput = some out ∧ out.evidenceGaps = gaps := by
  rw [List.getElem?_map, Option.map_eq_some_iff] at h
  obtain ⟨⟨node, u⟩, hget, hshown⟩ := h
  obtain ⟨rfl, hgaps⟩ := Prod.mk.inj hshown
  obtain ⟨out, hout, hgaps⟩ := Option.map_eq_some_iff.mp hgaps
  obtain ⟨hi, hget⟩ := List.getElem?_eq_some_iff.mp hget
  refine ⟨u, history.drop (i + 1), out, ?_, hout, hgaps⟩
  rw [← hget, ← List.drop_eq_getElem_cons hi, List.take_append_drop]

/-- The second synthesis has the agent's evidence and still lists the agent as a gap. -/
theorem evidence_gaps_stale :
    ∃ before u after out,
      ((GraphRun.start jobState).advance recoveringServices 8).history
        = before ++ ⟨.synthesis, u⟩ :: after ∧ u.synthesisOutput = some out ∧
      ¬ RealGaps (jobState.agentOutputs ++ outputsOf before) out.evidenceGaps := by
  obtain ⟨u, after, out, hsplit, hout, hgaps⟩ := exists_synthesis
    ((GraphRun.start jobState).advance recoveringServices 8).history 5 ["seismic"] (by decide +kernel)
  refine ⟨_, u, after, out, hsplit, hout, ?_⟩
  rintro ⟨hreal, -⟩
  rw [hgaps] at hreal
  have hall := ((hreal "seismic").mp (by simp)).2
  have hshown : (outputsOf (((GraphRun.start jobState).advance recoveringServices 8).history.take
      5)).map (fun o => (o.agentName, o.evidence.length)) = [("seismic", 0), ("seismic", 1)] := by
    decide +kernel
  have hmem : ("seismic", 1) ∈ (outputsOf (((GraphRun.start jobState).advance recoveringServices
      8).history.take 5)).map (fun o => (o.agentName, o.evidence.length)) := by
    rw [hshown]
    simp
  obtain ⟨o, ho, hpair⟩ := List.mem_map.mp hmem
  obtain ⟨hname, hlen⟩ := Prod.mk.inj hpair
  rw [hall o (List.mem_append_right _ ho) hname] at hlen
  cases hlen

theorem evidence_gaps_first_pass :
    ∃ before u after out,
      ((GraphRun.start jobState).advance recoveringServices 8).history
        = before ++ ⟨.synthesis, u⟩ :: after ∧ u.synthesisOutput = some out ∧
      RealGaps (jobState.agentOutputs ++ outputsOf before) out.evidenceGaps := by
  obtain ⟨u, after, -, hsplit, -, -⟩ := exists_synthesis
    ((GraphRun.start jobState).advance recoveringServices 8).history 2 ["seismic"] (by decide +kernel)
  obtain ⟨out, hout, hiff⟩ := evidence_gaps_iff _ 2 _ jobState 8 _ u after hsplit
  refine ⟨_, u, after, out, hsplit, hout, hiff.mpr ?_⟩
  have hshown : (outputsOf (((GraphRun.start jobState).advance recoveringServices 8).history.take
      2)).map (fun o => (o.agentName, o.evidence.length)) = [("seismic", 0)] := by
    decide +kernel
  obtain ⟨o, houtputs, hpair⟩ := List.map_eq_singleton_iff.mp hshown
  obtain ⟨-, hlen⟩ := Prod.mk.inj hpair
  have hone : jobState.agentOutputs ++ outputsOf
      (((GraphRun.start jobState).advance recoveringServices 8).history.take 2) = [o] := houtputs
  rw [hone]
  refine ⟨?_, ?_⟩
  · exact List.Nodup.sublist (List.filter_sublist.map _) (List.nodup_singleton o.agentName)
  · intro _ _ o' ho' _ _
    rw [List.mem_singleton.mp ho']
    exact List.eq_nil_of_length_eq_zero hlen

end GaiaOS
