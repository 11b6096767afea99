/-
The invariant of a run of the graph.

The graph has one cycle, synthesis to critic to replan and back.  A run that is still
going stands `At` a node: the nodes executed so far are a fixed word in the simulation
flag and the replan counter (`pathTo`), the counter is what the guard of the node allows
(`Enabled`), the outputs gathered are those of the passes, and the flags and the answer in
the state are those of the last critic pass.

One step keeps it, because each node returns an update of a known shape and the edge taken
leads to a node whose guard holds.
-/
import GaiaOS.Proofs.NodeUpdates

namespace GaiaOS

/-! ### The nodes executed so far -/

/-- The nodes before the first synthesis. -/
def prologue (sim : Bool) : List Node :=
  [.supervisor, .fanOut] ++ if sim then [.simulation] else []

/-- `k` rounds of the cycle. -/
def cycles (k : Nat) : List Node :=
  (List.replicate k [Node.synthesis, .critic, .replan]).flatten

/-- The nodes executed before a node is reached after `k` replans. -/
def pathTo (sim : Bool) (k : Nat) : Node → List Node
  | .supervisor => []
  | .airQuality | .fanOut => [.supervisor]
  | .simulation => [.supervisor, .fanOut]
  | .synthesis => prologue sim ++ cycles k
  | .critic => prologue sim ++ cycles k ++ [.synthesis]
  | .replan | .finalize => prologue sim ++ cycles k ++ [.synthesis, .critic]

theorem cycles_succ (k : Nat) : cycles (k + 1) = cycles k ++ [.synthesis, .critic, .replan] := by
  simp [cycles, List.replicate_succ', List.flatten_append]

theorem count_cycles (k : Nat) : (cycles k).count .critic = k ∧ (cycles k).count .replan = k := by
  induction k with
  | zero => exact ⟨rfl, rfl⟩
  | succ k ih =>
      rw [cycles_succ, List.count_append, List.count_append, ih.1, ih.2]
      exact ⟨rfl, rfl⟩

theorem count_prologue (sim : Bool) :
    (prologue sim).count .critic = 0 ∧ (prologue sim).count .replan = 0 := by
  cases sim <;> exact ⟨rfl, rfl⟩

/-- What is true of the counters when a node is about to run. -/
def Enabled (sv : Services) (s : TaskGraphState) : Node → Prop
  | .supervisor | .fanOut => s.replans = 0
  | .airQuality => False
  | .simulation => s.replans = 0 ∧ s.simulates = true
  | .synthesis | .critic | .finalize => s.replans ≤ 2
  | .replan => s.replans < 2 ∧ shouldReplan sv.enableReplanLoop s.flags s.replans = true

theorem shouldReplan_lt {enable : Bool} {flags : List CriticFlag} {k : Nat}
    (h : shouldReplan enable flags k = true) : k < 2 := by
  unfold shouldReplan at h
  split at h
  · cases h
  · split at h
    · cases h
    · omega

/-! ### The invariant -/

/-- A run that stands at `node`. -/
structure At (sv : Services) (s₀ : TaskGraphState) (r : GraphRun) (node : Node) : Prop where
  running : r.status = .running node
  enabled : Enabled sv r.state node
  /-- The nodes executed are a word in the simulation flag and the replan counter. -/
  path : r.history.map (·.node) = pathTo r.state.simulates r.state.replans node
  /-- No pass's outputs are lost or repeated. -/
  outputs : r.state.agentOutputs = s₀.agentOutputs ++ r.passOutputs
  /-- The state shows the flags and the answer of the last critic pass. -/
  lastPass : ∀ u, r.criticPasses.getLast? = some u →
    ∃ flags answer, answer ≠ "" ∧ u = { criticFlags := some flags, finalAnswer := some answer } ∧
      r.state.criticFlags = some flags ∧ r.state.finalAnswer = some answer
  /-- The first critic pass decided whether there is a replan at all. -/
  firstPass : ∀ u, r.criticPasses.head? = some u →
    (shouldReplan sv.enableReplanLoop (u.criticFlags.getD []) 0 = true
      ↔ 0 < r.state.replans ∨ node = .replan)
  /-- Nothing was sent to the database yet. -/
  unsent : r.statusUpdates = []

section Invariant

variable {sv : Services} {s₀ : TaskGraphState} {r : GraphRun} {node : Node}

theorem criticPasses_length (r : GraphRun) :
    r.criticPasses.length = (r.history.map (·.node)).count .critic := by
  unfold GraphRun.criticPasses
  rw [List.length_map, List.count_eq_length_filter, List.filter_map, List.length_map]
  congr 1

theorem At.criticPasses_length_critic (h : At sv s₀ r .critic) :
    r.criticPasses.length = r.state.replans := by
  rw [criticPasses_length, h.path]
  simp [pathTo, (count_cycles _).1, (count_prologue _).1]

/-- A run about to start. -/
theorem at_start (h₀ : s₀.replanCount = none) : At sv s₀ (.start s₀) .supervisor where
  running := rfl
  enabled := by
    show s₀.replanCount.getD 0 = 0
    rw [h₀]
    rfl
  path := rfl
  outputs := by simp [GraphRun.start, GraphRun.passOutputs]
  lastPass := by
    intro u h
    cases h
  firstPass := by
    intro u h
    cases h
  unsent := rfl

/-! One step.  What it does to a run is read off `conclude` once; the invariant is then
checked field by field, each by the node that ran. -/

/-- The run after `node` returned `u`. -/
def GraphRun.returned (sv : Services) (r : GraphRun) (node : Node) (u : Update) : GraphRun :=
  r.conclude sv node { callNode sv r.history.length r.state node with result := .ok u }

theorem step_eq_returned (hrun : r.status = .running node) {u : Update}
    (hu : (callNode sv r.history.length r.state node).result = .ok u) :
    r.step sv = r.returned sv node u := by
  unfold GraphRun.step GraphRun.returned
  rw [hrun]
  show r.conclude sv node _ = _
  rw [← hu]

@[simp] theorem returned_state (u : Update) : (r.returned sv node u).state = r.state.apply u := rfl

@[simp] theorem returned_history (u : Update) :
    (r.returned sv node u).history = r.history ++ [⟨node, u⟩] := rfl

theorem returned_criticPasses (u : Update) :
    (r.returned sv node u).criticPasses
      = r.criticPasses ++ if node = .critic then [u] else [] := by
  unfold GraphRun.criticPasses
  rw [returned_history, List.filter_append, List.map_append]
  by_cases hnode : node = .critic <;> simp [hnode]

theorem returned_passOutputs (u : Update) :
    (r.returned sv node u).passOutputs = r.passOutputs ++
      if node = .fanOut ∨ node = .simulation ∨ node = .replan then u.agentOutputs.getD [] else [] := by
  unfold GraphRun.passOutputs
  rw [returned_history, List.filter_append, List.flatMap_append]
  by_cases hnode : node = .fanOut ∨ node = .simulation ∨ node = .replan <;> simp [hnode]

variable {u : Update} {next : Node}

/-- A pass's outputs come after those there were. -/
theorem outputs_returned (h : r.state.agentOutputs = s₀.agentOutputs ++ r.passOutputs)
    (hair : node ≠ .airQuality) (hu : UpdateShape sv r.state u node) :
    (r.returned sv node u).state.agentOutputs
      = s₀.agentOutputs ++ (r.returned sv node u).passOutputs := by
  have hsame : (r.state.apply u).agentOutputs = s₀.agentOutputs ++ (r.passOutputs ++
      u.agentOutputs.getD []) := by
    show r.state.agentOutputs ++ u.agentOutputs.getD [] = _
    rw [h, List.append_assoc]
  rw [returned_state, returned_passOutputs, hsame]
  cases node with
  | airQuality => exact absurd rfl hair
  | fanOut | simulation | replan => rfl
  | supervisor | synthesis | critic | finalize =>
      -- not a pass: nothing is appended on either side
      rw [hu.channels.2.2.2 (by simp)]
      rfl

/-- Only `replan` counts, and by one. -/
theorem replans_apply (hu : UpdateShape sv r.state u node) :
    (r.state.apply u).replans = r.state.replans + if node = .replan then 1 else 0 := by
  show (u.replanCount.or r.state.replanCount).getD 0 = _
  rw [hu.channels.2.2.1]
  by_cases hnode : node = .replan <;> simp [hnode, TaskGraphState.replans]

/-- After the supervisor the simulation flag is settled. -/
theorem simulates_apply (hu : UpdateShape sv r.state u node) (hsup : node ≠ .supervisor) :
    (r.state.apply u).simulates = r.state.simulates := by
  show (u.needsSimulation.or r.state.needsSimulation).getD false = _
  rw [hu.channels.2.1 hsup]
  rfl

/-- Only the critic and `finalize` touch the flags and the answer. -/
theorem flags_apply (hu : UpdateShape sv r.state u node) (hcritic : node ≠ .critic)
    (hfinal : node ≠ .finalize) :
    (r.state.apply u).criticFlags = r.state.criticFlags ∧
      (r.state.apply u).finalAnswer = r.state.finalAnswer := by
  show u.criticFlags.or r.state.criticFlags = _ ∧ u.finalAnswer.or r.state.finalAnswer = _
  rw [(hu.channels.1 hcritic hfinal).1, (hu.channels.1 hcritic hfinal).2]
  exact ⟨rfl, rfl⟩

/-- The edge taken leads to a node whose guard holds, along the word of the run. -/
theorem At.edge (h : At sv s₀ r node) (hu : UpdateShape sv r.state u node)
    (hnext : nextNode sv (r.state.apply u) node = some next) :
    Enabled sv (r.state.apply u) next ∧
      pathTo r.state.simulates r.state.replans node ++ [node]
        = pathTo (r.state.apply u).simulates (r.state.apply u).replans next := by
  have hen := h.enabled
  have hcount := replans_apply hu
  cases node with
  | airQuality => exact absurd hen (by simp [Enabled])
  | finalize => cases hnext
  | supervisor =>
      cases hnext
      exact ⟨hcount.trans hen, rfl⟩
  | fanOut =>
      have hzero : (r.state.apply u).replans = 0 := hcount.trans hen
      rw [← simulates_apply hu (by simp)]
      simp only [nextNode, routeAfterDomainAgents, Option.some.injEq] at hnext
      split at hnext
      · rename_i hsim
        subst hnext
        exact ⟨⟨hzero, hsim⟩, rfl⟩
      · rename_i hsim
        subst hnext
        have hno : (r.state.apply u).simulates = false := by simpa using hsim
        refine ⟨by simp [Enabled, hzero], ?_⟩
        rw [hzero, hno]
        rfl
  | simulation =>
      have hzero : (r.state.apply u).replans = 0 := hcount.trans hen.1
      cases hnext
      refine ⟨by simp [Enabled, hzero], ?_⟩
      rw [hzero, simulates_apply hu (by simp), hen.2]
      rfl
  | synthesis =>
      cases hnext
      rw [simulates_apply hu (by simp), hcount]
      exact ⟨hcount.trans_le hen, by simp [pathTo]⟩
  | critic =>
      rw [simulates_apply hu (by simp)]
      have hword : pathTo r.state.simulates r.state.replans .critic ++ [.critic]
          = pathTo r.state.simulates (r.state.apply u).replans .finalize := by
        rw [hcount]
        simp [pathTo]
      simp only [nextNode, routeAfterCritic, Option.some.injEq] at hnext
      split at hnext
      · rename_i hreplan
        subst hnext
        exact ⟨⟨shouldReplan_lt hreplan, hreplan⟩, hword⟩
      · subst hnext
        exact ⟨hcount.trans_le hen, hword⟩
  | replan =>
      cases hnext
      rw [simulates_apply hu (by simp), hcount]
      refine ⟨?_, ?_⟩
      · show (r.state.apply u).replans ≤ 2
        have hlt : r.state.replans < 2 := hen.1
        rw [hcount]
        simp only [if_true]
        omega
      · simp [pathTo, cycles_succ]

theorem At.lastPass_returned (h : At sv s₀ r node) (hu : UpdateShape sv r.state u node)
    (hfinal : node ≠ .finalize) (v : Update)
    (hv : (r.returned sv node u).criticPasses.getLast? = some v) :
    ∃ flags answer, answer ≠ "" ∧ v = { criticFlags := some flags, finalAnswer := some answer } ∧
      (r.state.apply u).criticFlags = some flags ∧ (r.state.apply u).finalAnswer = some answer := by
  rw [returned_criticPasses] at hv
  by_cases hcritic : node = .critic
  · subst hcritic
    obtain ⟨flags, answer, hne, rfl⟩ := hu
    rw [if_pos rfl, List.getLast?_append_of_ne_nil _ (by simp)] at hv
    cases hv
    exact ⟨flags, answer, hne, rfl, rfl, rfl⟩
  · rw [if_neg hcritic, List.append_nil] at hv
    obtain ⟨flags, answer, hne, hshape, hflags, hanswer⟩ := h.lastPass v hv
    obtain ⟨hsameFlags, hsameAnswer⟩ := flags_apply hu hcritic hfinal
    exact ⟨flags, answer, hne, hshape, hsameFlags.trans hflags, hsameAnswer.trans hanswer⟩

/-- `replan` is entered from the critic only. -/
theorem next_eq_replan (hnext : nextNode sv (r.state.apply u) node = some .replan) :
    node = .critic := by
  cases node with
  | critic => rfl
  | airQuality | fanOut =>
      simp only [nextNode, routeAfterDomainAgents, Option.some.injEq] at hnext
      split at hnext <;> cases hnext
  | _ => cases hnext

theorem At.firstPass_returned (h : At sv s₀ r node) (hu : UpdateShape sv r.state u node)
    (hnext : nextNode sv (r.state.apply u) node = some next) (v : Update)
    (hv : (r.returned sv node u).criticPasses.head? = some v) :
    shouldReplan sv.enableReplanLoop (v.criticFlags.getD []) 0 = true
      ↔ 0 < (r.state.apply u).replans ∨ next = .replan := by
  have hcount := replans_apply hu
  rw [returned_criticPasses] at hv
  by_cases hcritic : node = .critic
  · subst hcritic
    have hlen := h.criticPasses_length_critic
    simp only [reduceCtorEq, if_false, Nat.add_zero] at hcount
    rw [if_pos rfl] at hv
    obtain ⟨flags, answer, -, rfl⟩ := hu
    cases hpasses : r.criticPasses with
    | nil =>
        -- the first pass: its flags are the ones the edge is chosen by
        rw [hpasses] at hlen hv
        have hzero : r.state.replans = 0 := hlen.symm
        cases hv
        rw [hcount, hzero]
        simp only [nextNode, routeAfterCritic, hcount, hzero, Option.some.injEq] at hnext
        have hedge : (if shouldReplan sv.enableReplanLoop flags 0 = true then Node.replan
          else .finalize) = next := hnext
        show shouldReplan sv.enableReplanLoop flags 0 = true ↔ _
        by_cases hreplan : shouldReplan sv.enableReplanLoop flags 0 = true
        · rw [if_pos hreplan] at hedge
          exact iff_of_true hreplan (Or.inr hedge.symm)
        · rw [if_neg hreplan] at hedge
          subst hedge
          exact iff_of_false hreplan (by simp)
    | cons first rest =>
        rw [hpasses] at hlen hv
        cases hv
        have hpos : 0 < r.state.replans := by
          simp only [List.length_cons] at hlen
          omega
        rw [h.firstPass v (by rw [hpasses]; rfl), hcount]
        exact iff_of_true (Or.inl hpos) (Or.inl hpos)
  · rw [if_neg hcritic, List.append_nil] at hv
    have hnot : next ≠ .replan := by
      intro heq
      subst heq
      exact hcritic (next_eq_replan hnext)
    rw [h.firstPass v hv, hcount]
    by_cases hreplan : node = .replan <;> simp [hreplan, hnot]

/-- The step lemma: a node that returns and has an edge to `next` leaves the run at `next`. -/
theorem At.step (h : At sv s₀ r node)
    (hu : (callNode sv r.history.length r.state node).result = .ok u)
    (hnext : nextNode sv (r.state.apply u) node = some next) : At sv s₀ (r.step sv) next := by
  have hshape := callNode_shape hu
  have hfinal : node ≠ .finalize := by
    intro heq
    subst heq
    cases hnext
  have hair : node ≠ .airQuality := by
    intro heq
    subst heq
    exact h.enabled
  obtain ⟨henabled, hpath⟩ := h.edge hshape hnext
  rw [step_eq_returned h.running hu]
  refine ⟨?_, henabled, ?_, outputs_returned h.outputs hair hshape,
    h.lastPass_returned hshape hfinal, h.firstPass_returned hshape hnext, ?_⟩
  · simp only [GraphRun.returned, GraphRun.conclude, hnext]
  · rw [returned_history, List.map_append, h.path]
    exact hpath
  · show r.statusUpdates ++ (callNode sv r.history.length r.state node).statusUpdates = []
    rw [h.unsent, callNode_statusUpdates hfinal]
    rfl

end Invariant

end GaiaOS
