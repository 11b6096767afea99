/-
What a trace shows of the critic's flags and of collaborations.

An entry that reads `critic` gets the flags, and where no entry is classified as the critic a node
of their own shows them (`flags_and_partners_shown`).  The last node of a failed investigation is
marked as failed, whatever it shows.  The ends of a collaboration are looked up by the names in
the identifiers of the nodes, and the first one is taken.
-/
import GaiaOS.Proofs.TraceRobustness

namespace GaiaOS

namespace TraceTransformer

open Anonymization (TextRuntime)

variable {rt : TextRuntime} {title : String → String}

/-! ### The critic -/

variable (rt) in
theorem lower_critic : rt.lower (pyStrip "critic") = "critic" := by
  have hstrip : pyStrip "critic" = "critic" := by decide +kernel
  rw [hstrip]
  exact rt.lower_lower "critic" (by simp)

variable (rt title) in
theorem classifyNode_critic :
    classifyNode rt title (.str "critic") =
      ("Critic Claim Verification", "critic_flag", "critic", []) := by
  have hname : Json.pyStr rt.reprs (.str "critic") = "critic" := rfl
  have hknown : knownNodeMappings.lookup "critic" =
      some ("Critic Claim Verification", "critic_flag") := by decide +kernel
  unfold classifyNode
  simp only [hname, lower_critic, hknown]

/-- The node carries the flags, and is one of the critic. -/
structure ShowsFlags (r : Reading) (node : TraceNode) : Prop where
  type : node.type = "critic_flag"
  flags : node.details.get? "critic_flags" = some (.arr r.criticFlags)

theorem nodeOf_critic (r : Reading) (hflags : r.criticFlags ≠ []) (i : Nat) :
    ShowsFlags r (r.nodeOf rt title (.str "critic", i)) ∧
      (r.nodeOf rt title (.str "critic", i)).status =
        if r.invStatus = "failed" ∧ i + 1 = r.nodesExecuted.length then "failed"
        else "flagged" := by
  have hname : Json.pyStr rt.reprs (.str "critic") = "critic" := rfl
  have hkind : ∀ details, r.ofKind rt (.str "critic") "critic_flag" details =
      ("flagged", details.set "critic_flags" (.arr r.criticFlags)) := by
    intro details
    unfold Reading.ofKind
    simp only [hname]
    rw [if_pos ⟨trivial, hflags⟩]
  unfold Reading.nodeOf
  simp only [classifyNode_critic, hkind]
  refine ⟨⟨rfl, ?_⟩, trivial⟩
  dsimp only
  split
  · rw [Dict.get?_set_of_ne _ (by decide)]
    exact Dict.get?_set_self _ _ _
  · exact Dict.get?_set_self _ _ _

theorem criticNode_shows (r : Reading) (nodes : List TraceNode) :
    ShowsFlags r (r.criticNode nodes) :=
  ⟨rfl, Dict.get?_set_self _ _ _⟩

theorem nodeOf_type (r : Reading) (entry : Json × Nat) :
    (r.nodeOf rt title entry).type = (classifyNode rt title entry.1).2.1 := rfl

/-- Flags that no entry is classified for get a node of their own. -/
theorem criticNode_mem {r : Reading} {graph : List TraceNode × List TraceEdge}
    (h : r.graph rt title = .ok graph) (hflags : r.criticFlags ≠ [])
    (hnone : ∀ item ∈ r.nodesExecuted, (classifyNode rt title item).2.1 ≠ "critic_flag") :
    r.criticNode (r.executedGraph rt title).1 ∈ graph.1 := by
  have hall : ((r.executedGraph rt title).1.all (·.type ≠ "critic_flag")) = true := by
    rw [List.all_eq_true]
    intro node hnode
    rw [decide_eq_true_iff]
    rcases executedGraph_cases rt title r with ⟨-, heq⟩ | ⟨-, heq⟩
    · rw [heq, List.mem_singleton] at hnode
      rw [hnode]
      show "planning" ≠ "critic_flag"
      decide
    · rw [heq] at hnode
      obtain ⟨pair, hpair, rfl⟩ := List.mem_map.mp hnode
      obtain ⟨entry, hentry, rfl⟩ := List.mem_map.mp hpair
      rw [nodeOf_type]
      exact hnone entry.1
        (List.mem_of_getElem? (List.mk_mem_zipIdx_iff_getElem?.mp hentry))
  rw [(graph_spec h).nodes]
  refine List.mem_append_left _ ?_
  unfold Reading.criticGraph
  dsimp only
  rw [if_pos ⟨hflags, hall⟩]
  exact List.mem_append_right _ (List.mem_singleton.mpr rfl)

/-! ### Collaborations -/

/-- The edge joins the first nodes with the names of the event's agents in their identifiers. -/
structure JoinsNamed (nodes : List TraceNode) (entry : Json × Nat) (e : TraceEdge) : Prop where
  id : e.id = "edge_collab_" ++ toString entry.2
  ends : ∃ source target, collaborators entry.1 = (.str source, .str target) ∧
    (nodes.find? fun node => pyIn source node.id).map (·.id) = some e.source ∧
    (nodes.find? fun node => pyIn target node.id).map (·.id) = some e.target

/-- The first of some nodes stays the first when others come after them. -/
theorem find?_append_of_some {nodes : List TraceNode} {p : TraceNode → Bool} {id : String}
    (h : (nodes.find? p).map (·.id) = some id) (more : List TraceNode) :
    ((nodes ++ more).find? p).map (·.id) = some id := by
  obtain ⟨node, hnode, rfl⟩ := Option.map_eq_some_iff.mp h
  rw [List.find?_append, hnode]
  rfl

theorem JoinsNamed.append {nodes : List TraceNode} {entry : Json × Nat} {e : TraceEdge}
    (h : JoinsNamed nodes entry e) (more : List TraceNode) :
    JoinsNamed (nodes ++ more) entry e := by
  obtain ⟨source, target, hnames, hsource, htarget⟩ := h.ends
  exact ⟨h.id, source, target, hnames, find?_append_of_some hsource more,
    find?_append_of_some htarget more⟩

/-- What drawing an event adds. -/
theorem addCollaboration_cases {graph graph' : List TraceNode × List TraceEdge}
    {entry : Json × Nat} (h : addCollaboration rt graph entry = .ok graph') :
    graph'.1 = graph.1 ++ [Reading.collaborationNode rt entry] ∧
      (graph'.2 = graph.2 ∨ ∃ e, graph'.2 = graph.2 ++ [e] ∧ JoinsNamed graph'.1 entry e) := by
  unfold addCollaboration at h
  obtain ⟨src, hsrc, h⟩ := ok_of_bind h
  obtain ⟨target, htarget, h⟩ := ok_of_bind h
  obtain ⟨source, hsourceName, rfl⟩ := nodeNaming_ok hsrc
  obtain ⟨targetName, htargetName, rfl⟩ := nodeNaming_ok htarget
  split at h
  · next src target hsource htarget =>
      obtain rfl := Except.ok.inj h
      refine ⟨rfl, .inr ⟨_, rfl, rfl, source, targetName, Prod.ext hsourceName htargetName, ?_, ?_⟩⟩
      · rw [hsource]
        rfl
      · rw [htarget]
        rfl
  · obtain rfl := Except.ok.inj h
    exact ⟨rfl, .inl rfl⟩

theorem type_of_mem_executedEdges (l : List (TraceNode × Json)) :
    ∀ e ∈ executedEdges rt l, e.type ≠ "collaboration" := by
  intro e he
  obtain ⟨i, hi⟩ := List.mem_iff_getElem?.mp he
  obtain ⟨a, b, -, -, rfl⟩ := (executedEdges_getElem? l).mp hi
  show (if Json.pyStr rt.reprs b.2 = "replan" then "replan" else "sequential") ≠ _
  split <;> decide

theorem type_of_mem_criticGraph (r : Reading) :
    ∀ e ∈ (r.criticGraph rt title).2, e.type ≠ "collaboration" := by
  have hexecuted : ∀ e ∈ (r.executedGraph rt title).2, e.type ≠ "collaboration" := by
    rcases executedGraph_cases rt title r with ⟨-, heq⟩ | ⟨-, heq⟩
    · rw [heq]
      intro e he
      cases he
    · rw [heq]
      exact type_of_mem_executedEdges _
  intro e he
  rcases criticGraph_cases rt title r with heq | ⟨last, -, heq⟩
  · rw [heq] at he
    exact hexecuted e he
  · rw [heq] at he
    rcases List.mem_append.mp he with he | he
    · exact hexecuted e he
    · rw [List.mem_singleton.mp he]
      show "sequential" ≠ "collaboration"
      decide

/-- **Every edge of a collaboration joins the nodes its event names.** -/
theorem collaboration_joins {r : Reading} {graph : List TraceNode × List TraceEdge}
    (h : r.graph rt title = .ok graph) :
    ∀ e ∈ graph.2, e.type = "collaboration" →
      ∃ entry ∈ r.collaboration.zipIdx, JoinsNamed graph.1 entry e := by
  refine foldlM_of_ok (P := fun done graph => ∀ e ∈ graph.2, e.type = "collaboration" →
    ∃ entry ∈ done, JoinsNamed graph.1 entry e) h ?_ ?_
  · intro e he htype
    exact absurd htype (type_of_mem_criticGraph r e he)
  · intro done entry before after _ hbefore hadd e he htype
    obtain ⟨hnodes, hedges⟩ := addCollaboration_cases hadd
    have hkept : e ∈ before.2 → ∃ other ∈ done ++ [entry], JoinsNamed after.1 other e := by
      intro he
      obtain ⟨other, hother, hjoins⟩ := hbefore e he htype
      rw [hnodes]
      exact ⟨other, List.mem_append_left _ hother, hjoins.append _⟩
    rcases hedges with hsame | ⟨link, hlink, hjoins⟩
    · rw [hsame] at he
      exact hkept he
    · rw [hlink] at he
      rcases List.mem_append.mp he with he | he
      · exact hkept he
      · rw [List.mem_singleton.mp he]
        exact ⟨entry, List.mem_append_right _ (List.mem_singleton.mpr rfl), hjoins⟩

/--
**What a trace shows of flags and collaborations.**  If there are flags, each entry that reads
`critic` is shown by a node of the critic with exactly the flags, which is flagged, or failed
where it is the last of a failed investigation; and if no entry is classified as the critic, some
flagged node of the critic shows them.  Every edge of a collaboration belongs to an event, and
joins the first node with the name of the one agent in its identifier to the first with the name
of the other.
-/
theorem flags_and_partners_shown (rt : TextRuntime) (title : String → String) (now : Int)
    (investigation : TracedInvestigation) (response : InvestigationTraceResponse)
    (h : investigationTraceResponse rt title now investigation = .ok response) :
    let r := Reading.of investigation.status investigation.executionTrace
    (r.criticFlags ≠ [] →
      (∀ i, r.nodesExecuted[i]? = some (.str "critic") →
        ∃ node, response.nodes[i]? = some node ∧ ShowsFlags r node ∧
          node.status =
            if investigation.status = "failed" ∧ i + 1 = r.nodesExecuted.length then "failed"
            else "flagged") ∧
      ((∀ item ∈ r.nodesExecuted, (classifyNode rt title item).2.1 ≠ "critic_flag") →
        ∃ node ∈ response.nodes, ShowsFlags r node ∧ node.status = "flagged")) ∧
    ∀ e ∈ response.edges, e.type = "collaboration" →
      ∃ entry ∈ r.collaboration.zipIdx, JoinsNamed response.nodes entry e := by
  intro r
  unfold investigationTraceResponse at h
  obtain ⟨evidenceCount, -, h⟩ := ok_of_bind h
  obtain ⟨replanCount, -, h⟩ := ok_of_bind h
  obtain ⟨⟨nodes, edges⟩, hgraph, h⟩ := ok_of_bind h
  obtain rfl := Except.ok.inj h
  refine ⟨fun hflags => ⟨?_, ?_⟩, collaboration_joins hgraph⟩
  · intro i hi
    obtain ⟨hshows, hstatus⟩ := @nodeOf_critic rt title r hflags i
    exact ⟨_, graph_nodes_getElem? hgraph hi, hshows, hstatus⟩
  · intro hnone
    exact ⟨_, criticNode_mem hgraph hflags hnone, criticNode_shows r _, rfl⟩

/-! ### Traces that are misread -/

theorem exists_ok_of_test {α ε : Type} {x : Except ε α} {p : α → Bool}
    (h : x.toOption.any p = true) : ∃ a, x = .ok a ∧ p a = true := by
  cases x with
  | error e => cases h
  | ok a => exact ⟨a, rfl, h⟩

/-- An investigation with a status, executed nodes, a flag and a collaboration. -/
def flaggedInvestigation (status : String) (nodesExecuted : List Json) :
    TracedInvestigation where
  id := ⟨"88888888-8888-4888-8888-888888888888", rfl⟩
  status := status
  complexityTier := none
  createdAt := 0
  completedAt := some 1
  confidence := none
  executionTrace := .obj
    [("nodes_executed", .arr nodesExecuted), ("critic_flags", .arr [.str "unsupported claim"]),
      ("collaboration",
        .arr [.obj [("from_agent", .str "ocean"), ("to_agent", .str "seismic")]])]

/-- A flagged node of a completed investigation, with the agents of its collaboration. -/
theorem flags_and_partners_sample :
    ∃ response, investigationTraceResponse Anonymization.asciiRuntime id 0
        (flaggedInvestigation "complete" [.str "ocean", .str "seismic", .str "critic"]) =
          .ok response ∧
      (∃ node, response.nodes[2]? = some node ∧ node.status = "flagged") ∧
      ∃ e ∈ response.edges, e.type = "collaboration" ∧ e.source = "node_0_ocean" ∧
        e.target = "node_1_seismic" := by
  obtain ⟨response, hok, hedge⟩ := exists_ok_of_test (x := investigationTraceResponse
    Anonymization.asciiRuntime id 0
    (flaggedInvestigation "complete" [.str "ocean", .str "seismic", .str "critic"]))
    (p := fun response => response.edges.any fun e => e.type = "collaboration" ∧
      e.source = "node_0_ocean" ∧ e.target = "node_1_seismic") (by decide +kernel)
  obtain ⟨node, hnode, -, hstatus⟩ := ((flags_and_partners_shown _ _ _ _ response hok).1
    (List.cons_ne_nil _ _)).1 2 rfl
  obtain ⟨e, he, hends⟩ := List.any_eq_true.mp hedge
  exact ⟨response, hok, ⟨node, hnode, hstatus.trans rfl⟩, e, he, of_decide_eq_true hends⟩

/-- The critic as the last node of a failed investigation is not flagged.  Spelled `Critic` it is
classified as the critic, and no node has the flags.  And an edge for the agent `ocean` leaves the
node of `ocean_currents`. -/
theorem flags_and_partners_misreported :
    (∃ response, investigationTraceResponse Anonymization.asciiRuntime id 0
        (flaggedInvestigation "failed" [.str "critic"]) = .ok response ∧
      ∀ node ∈ response.nodes, ¬ (node.type = "critic_flag" ∧ node.status = "flagged")) ∧
    (∃ response, investigationTraceResponse Anonymization.asciiRuntime id 0
        (flaggedInvestigation "complete" [.str "Critic"]) = .ok response ∧
      ∀ node ∈ response.nodes, node.details.get? "critic_flags" = none) ∧
    ∃ response, investigationTraceResponse Anonymization.asciiRuntime id 0
        (flaggedInvestigation "complete"
          [.str "ocean_currents", .str "ocean", .str "seismic"]) = .ok response ∧
      ∃ e ∈ response.edges, e.type = "collaboration" ∧ e.source = "node_0_ocean_currents" ∧
        "node_1_ocean" ∈ response.nodes.map (·.id) := by
  refine ⟨?_, ?_, ?_⟩
  · obtain ⟨response, hok, hnodes⟩ := exists_ok_of_test (x := investigationTraceResponse
      Anonymization.asciiRuntime id 0 (flaggedInvestigation "failed" [.str "critic"]))
      (p := fun response => response.nodes.all fun node =>
        ¬ (node.type = "critic_flag" ∧ node.status = "flagged")) (by decide +kernel)
    exact ⟨response, hok, fun node hnode =>
      of_decide_eq_true (List.all_eq_true.mp hnodes node hnode)⟩
  · obtain ⟨response, hok, hnodes⟩ := exists_ok_of_test (x := investigationTraceResponse
      Anonymization.asciiRuntime id 0 (flaggedInvestigation "complete" [.str "Critic"]))
      (p := fun response => response.nodes.all fun node =>
        (node.details.get? "critic_flags").isNone) (by decide +kernel)
    exact ⟨response, hok, fun node hnode =>
      Option.isNone_iff_eq_none.mp (List.all_eq_true.mp hnodes node hnode)⟩
  · obtain ⟨response, hok, hedge⟩ := exists_ok_of_test (x := investigationTraceResponse
      Anonymization.asciiRuntime id 0 (flaggedInvestigation "complete"
        [.str "ocean_currents", .str "ocean", .str "seismic"]))
      (p := fun response => response.edges.any fun e => e.type = "collaboration" ∧
        e.source = "node_0_ocean_currents" ∧ "node_1_ocean" ∈ response.nodes.map (·.id))
      (by decide +kernel)
    obtain ⟨e, he, hends⟩ := List.any_eq_true.mp hedge
    exact ⟨response, hok, e, he, of_decide_eq_true hends⟩

end TraceTransformer

end GaiaOS
