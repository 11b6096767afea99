/-
Trace graphs are well formed.

Identifiers are put together from an index and the text of the trace, by four schemes that share
one namespace.  What keeps them apart is the piece after the first underscore: digits for an
executed node, a word of its own for each of the others (`nodeTag`).  An edge between nodes begins
with the identifier it comes from, so the same piece keeps the edges apart (`edgeTag`), and an edge
of a collaboration has no such piece.

The graph grows in three stages and nothing is taken back, so an edge whose ends were there when
it was drawn keeps them.  Of the edges drawn later than those of the chain, one leads to the
critic's own node and the others are marked as collaborations; none is a second link of the chain.
-/
import GaiaOS.Explainability.TraceTransformer
import GaiaOS.Lib.Machine
import GaiaOS.Lib.PoolIndex
import GaiaOS.Lib.Text
import GaiaOS.Proofs.Anonymization

namespace GaiaOS

namespace TraceTransformer

open Anonymization (TextRuntime)

section Identifiers

variable {rt : TextRuntime} {title : String → String}

/-! ### What tells identifiers apart -/

/-- The text between the underscore after `start` characters and the next. -/
def tagAfter (start : Nat) (id : String) : List Char :=
  (id.toList.drop start).takeWhile (· ≠ '_')

/-- The piece of a node's identifier after `node_`. -/
def nodeTag (id : String) : List Char := tagAfter 5 id

/-- The piece of an edge's identifier after `edge_node_`. -/
def edgeTag (id : String) : List Char := tagAfter 10 id

theorem takeWhile_tag {tag : List Char} (htag : '_' ∉ tag) (rest : List Char) :
    (tag ++ '_' :: rest).takeWhile (· ≠ '_') = tag := by
  induction tag with
  | nil => rfl
  | cons c tag ih =>
      rw [List.mem_cons, not_or] at htag
      rw [List.cons_append, List.takeWhile_cons, if_pos (by simpa using Ne.symm htag.1),
        ih htag.2]

theorem underscore_not_mem_toString (n : Nat) : '_' ∉ (toString n).toList := by
  intro h
  simp at h

theorem toString_toList_inj {m n : Nat} (h : (toString m).toList = (toString n).toList) : m = n :=
  toDigits_inj (by simpa using h)

theorem nodeOf_id (r : Reading) (entry : Json × Nat) :
    (r.nodeOf rt title entry).id =
      "node_" ++ toString entry.2 ++ "_" ++ (classifyNode rt title entry.1).2.2.1 := rfl

theorem nodeTag_nodeOf (r : Reading) (entry : Json × Nat) :
    nodeTag (r.nodeOf rt title entry).id = (toString entry.2).toList := by
  rw [nodeOf_id]
  unfold nodeTag tagAfter
  simp only [String.toList_append, List.append_assoc]
  exact takeWhile_tag (underscore_not_mem_toString _) _

theorem edgeTag_nodeOf (r : Reading) (entry : Json × Nat) (target : TraceNode) (type : String) :
    edgeTag (edgeBetween (r.nodeOf rt title entry) target type).id
      = (toString entry.2).toList := by
  show edgeTag ("edge_" ++ (r.nodeOf rt title entry).id ++ "_to_" ++ target.id) = _
  rw [nodeOf_id]
  unfold edgeTag tagAfter
  simp only [String.toList_append, List.append_assoc]
  exact takeWhile_tag (underscore_not_mem_toString _) _

/-! ### The executed nodes -/

variable (rt title) in
/-- The executed nodes from position `k` on. -/
def executedFrom (r : Reading) (items : List Json) (k : Nat) : List (TraceNode × Json) :=
  (items.zipIdx k).map fun entry => (r.nodeOf rt title entry, entry.1)

theorem executedFrom_cons (r : Reading) (item : Json) (items : List Json) (k : Nat) :
    executedFrom rt title r (item :: items) k =
      (r.nodeOf rt title (item, k), item) :: executedFrom rt title r items (k + 1) := rfl

theorem executedFrom_getElem? (r : Reading) (items : List Json) (k i : Nat) :
    (executedFrom rt title r items k)[i]? =
      (items[i]?).map fun item => (r.nodeOf rt title (item, k + i), item) := by
  unfold executedFrom
  rw [List.getElem?_map, List.getElem?_zipIdx, Option.map_map]
  rfl

theorem map_nodeTag_executedFrom (r : Reading) (items : List Json) : ∀ k,
    (executedFrom rt title r items k).map (fun p => nodeTag p.1.id) =
      (List.range' k items.length).map fun i => (toString i).toList := by
  induction items with
  | nil =>
      intro k
      rfl
  | cons item items ih =>
      intro k
      rw [executedFrom_cons, List.map_cons, ih, nodeTag_nodeOf]
      rfl

theorem nodup_map_toString (k n : Nat) :
    ((List.range' k n).map fun i => (toString i).toList).Nodup :=
  (List.nodup_range' 1).map fun _ _ h => toString_toList_inj h

/-- Every link joins two consecutive nodes. -/
theorem executedEdges_getElem? (l : List (TraceNode × Json)) : ∀ {i : Nat} {e : TraceEdge},
    (executedEdges rt l)[i]? = some e ↔
      ∃ a b, l[i]? = some a ∧ l[i + 1]? = some b ∧
        e = edgeBetween a.1 b.1
          (if Json.pyStr rt.reprs b.2 = "replan" then "replan" else "sequential") := by
  induction l with
  | nil => simp [executedEdges]
  | cons a l ih =>
      intro i e
      cases l with
      | nil => simp [executedEdges]
      | cons b rest =>
          cases i with
          | zero => simp [executedEdges, eq_comm]
          | succ i =>
              rw [executedEdges, List.getElem?_cons_succ, ih]
              rfl

theorem executedEdges_length (l : List (TraceNode × Json)) :
    (executedEdges rt l).length = l.length - 1 := by
  induction l with
  | nil => rfl
  | cons a l ih =>
      cases l with
      | nil => rfl
      | cons b rest =>
          rw [executedEdges, List.length_cons, ih]
          rfl

/-- The links begin with the digits of the nodes they leave. -/
theorem map_edgeTag_executedEdges (r : Reading) (items : List Json) : ∀ k,
    (executedEdges rt (executedFrom rt title r items k)).map (fun e => edgeTag e.id) =
      (List.range' k (items.length - 1)).map fun i => (toString i).toList := by
  induction items with
  | nil =>
      intro k
      rfl
  | cons item items ih =>
      intro k
      cases items with
      | nil => rfl
      | cons item' items =>
          have hrest := ih (k + 1)
          rw [executedFrom_cons] at hrest
          rw [executedFrom_cons, executedFrom_cons, executedEdges, List.map_cons, hrest,
            edgeTag_nodeOf]
          rfl

/-! ### The stages of the graph -/

theorem executed_eq (r : Reading) :
    r.executed rt title = executedFrom rt title r r.nodesExecuted 0 := rfl

variable (rt title) in
theorem executedGraph_cases (r : Reading) :
    (r.nodesExecuted = [] ∧ r.executedGraph rt title = ([r.startNode rt], [])) ∨
    (r.nodesExecuted ≠ [] ∧ r.executedGraph rt title =
      ((executedFrom rt title r r.nodesExecuted 0).map (·.1),
        executedEdges rt (executedFrom rt title r r.nodesExecuted 0))) := by
  unfold Reading.executedGraph
  rw [executed_eq]
  by_cases hnil : r.nodesExecuted = []
  · exact .inl ⟨hnil, by rw [if_pos (by rw [hnil]; rfl)]⟩
  · exact .inr ⟨hnil, by rw [if_neg (by rwa [List.isEmpty_iff])]⟩

theorem executedGraph_ne_nil (r : Reading) : (r.executedGraph rt title).1 ≠ [] := by
  rcases executedGraph_cases rt title r with ⟨-, heq⟩ | ⟨hne, heq⟩
  · rw [heq]
    exact List.cons_ne_nil _ _
  · rw [heq]
    intro hnil
    have hlen := congrArg List.length hnil
    simp only [executedFrom, List.length_map, List.length_zipIdx, List.length_nil] at hlen
    exact hne (List.eq_nil_of_length_eq_zero hlen)

variable (rt title) in
theorem criticGraph_cases (r : Reading) :
    r.criticGraph rt title = r.executedGraph rt title ∨
    ∃ last, (r.executedGraph rt title).1.getLast? = some last ∧
      r.criticGraph rt title =
        ((r.executedGraph rt title).1 ++ [r.criticNode (r.executedGraph rt title).1],
          (r.executedGraph rt title).2 ++
            [edgeBetween last (r.criticNode (r.executedGraph rt title).1) "sequential"]) := by
  obtain ⟨last, hlast⟩ : ∃ last, (r.executedGraph rt title).1.getLast? = some last :=
    ⟨_, List.getLast?_eq_some_getLast (executedGraph_ne_nil r)⟩
  unfold Reading.criticGraph
  dsimp only
  split
  · exact .inr ⟨last, hlast, by rw [hlast]; rfl⟩
  · exact .inl rfl

/-- What the collaboration events add: a node each, and links that are marked as such. -/
structure Collaborated (rt : TextRuntime) (base : List TraceNode × List TraceEdge)
    (events : List (Json × Nat)) (graph : List TraceNode × List TraceEdge) : Prop where
  nodes : graph.1 = base.1 ++ events.map (Reading.collaborationNode rt)
  edges : ∃ links, graph.2 = base.2 ++ links ∧
    (links.map (·.id)).Sublist (events.map fun entry => "edge_collab_" ++ toString entry.2) ∧
    ∀ e ∈ links, e.type = "collaboration" ∧ e.source ∈ graph.1.map (·.id) ∧
      e.target ∈ graph.1.map (·.id)

theorem nodeNaming_mem {nodes : List TraceNode} {agent : Json} {node : TraceNode}
    (h : nodeNaming nodes agent = .ok (some node)) : node ∈ nodes := by
  cases agent with
  | str name => exact List.mem_of_find?_eq_some (Except.ok.inj h)
  | _ => cases h

theorem addCollaboration_spec {base graph graph' : List TraceNode × List TraceEdge}
    {events : List (Json × Nat)} {entry : Json × Nat} (h : Collaborated rt base events graph)
    (hadd : addCollaboration rt graph entry = .ok graph') :
    Collaborated rt base (events ++ [entry]) graph' := by
  unfold addCollaboration at hadd
  obtain ⟨src, hsrc, hadd⟩ := ok_of_bind hadd
  obtain ⟨target, htarget, hadd⟩ := ok_of_bind hadd
  obtain ⟨links, hedges, hids, hlinks⟩ := h.edges
  have hnodes : graph.1 ++ [Reading.collaborationNode rt entry]
      = base.1 ++ (events ++ [entry]).map (Reading.collaborationNode rt) := by
    rw [h.nodes, List.map_append, List.append_assoc]
    rfl
  have hkept : ∀ e ∈ links, e.type = "collaboration" ∧
      e.source ∈ (graph.1 ++ [Reading.collaborationNode rt entry]).map (·.id) ∧
      e.target ∈ (graph.1 ++ [Reading.collaborationNode rt entry]).map (·.id) := by
    intro e he
    obtain ⟨htype, hs, ht⟩ := hlinks e he
    rw [List.map_append]
    exact ⟨htype, List.mem_append_left _ hs, List.mem_append_left _ ht⟩
  have hsub : (links.map (·.id)).Sublist
      ((events ++ [entry]).map fun entry => "edge_collab_" ++ toString entry.2) := by
    rw [List.map_append]
    exact hids.trans (List.sublist_append_left _ _)
  split at hadd
  · rename_i src target
    obtain rfl := Except.ok.inj hadd
    refine ⟨hnodes, links ++ [_], by rw [hedges, List.append_assoc], ?_, ?_⟩
    · rw [List.map_append, List.map_append]
      exact hids.append (List.Sublist.refl _)
    · intro e he
      rcases List.mem_append.mp he with he | he
      · exact hkept e he
      · rw [List.mem_singleton.mp he]
        exact ⟨rfl, List.mem_map_of_mem (nodeNaming_mem hsrc),
          List.mem_map_of_mem (nodeNaming_mem htarget)⟩
  · obtain rfl := Except.ok.inj hadd
    exact ⟨hnodes, links, hedges, hsub, hkept⟩

theorem graph_spec {r : Reading} {graph : List TraceNode × List TraceEdge}
    (h : r.graph rt title = .ok graph) :
    Collaborated rt (r.criticGraph rt title) r.collaboration.zipIdx graph := by
  refine foldlM_of_ok (P := Collaborated rt (r.criticGraph rt title)) h ?_ ?_
  · exact ⟨(List.append_nil _).symm, [], (List.append_nil _).symm, List.Sublist.refl _,
      fun e he => by cases he⟩
  · intro events entry graph graph' _ hgraph hadd
    exact addCollaboration_spec hgraph hadd

/-! ### Identifiers stay apart -/

/-- The piece of an executed node is no word. -/
theorem toString_ne_word (n : Nat) (rest : List Char) : (toString n).toList ≠ 'c' :: rest := by
  intro h
  have hmem : 'c' ∈ (toString n).toList := by
    rw [h]
    exact List.mem_cons_self
  have hdigit := Nat.isDigit_of_mem_toDigits (b := 10) (by decide) (by decide)
    (show 'c' ∈ Nat.toDigits 10 n by simpa using hmem)
  cases hdigit

theorem nodeTag_criticNode (r : Reading) (nodes : List TraceNode) :
    nodeTag (r.criticNode nodes).id = "critic".toList := by
  show nodeTag ("node_critic_flags_" ++ toString nodes.length) = _
  unfold nodeTag tagAfter
  rw [String.toList_append]
  exact takeWhile_tag (show '_' ∉ "critic".toList by decide) _

theorem collaborationNode_id (entry : Json × Nat) :
    (Reading.collaborationNode rt entry).id = "node_collab_" ++ toString entry.2 := rfl

theorem nodeTag_collaborationNode (entry : Json × Nat) :
    nodeTag (Reading.collaborationNode rt entry).id = "collab".toList := by
  rw [collaborationNode_id]
  unfold nodeTag tagAfter
  rw [String.toList_append]
  exact takeWhile_tag (show '_' ∉ "collab".toList by decide) _

variable (rt title) in
theorem executedGraph_nodeTags (r : Reading) :
    ((r.executedGraph rt title).1.map fun n => nodeTag n.id).Nodup ∧
      ∀ n ∈ (r.executedGraph rt title).1, ∀ rest, nodeTag n.id ≠ 'c' :: rest := by
  rcases executedGraph_cases rt title r with ⟨-, heq⟩ | ⟨-, heq⟩
  · rw [heq]
    refine ⟨List.nodup_singleton _, ?_⟩
    intro n hn rest
    rw [List.mem_singleton.mp hn]
    show nodeTag "node_start" ≠ _
    unfold nodeTag tagAfter
    simp
  · rw [heq, List.map_map]
    refine ⟨?_, ?_⟩
    · show ((executedFrom rt title r r.nodesExecuted 0).map fun p => nodeTag p.1.id).Nodup
      rw [map_nodeTag_executedFrom]
      exact nodup_map_toString _ _
    · intro n hn rest
      simp only [executedFrom, List.map_map, List.mem_map, Function.comp_apply] at hn
      obtain ⟨entry, -, rfl⟩ := hn
      rw [nodeTag_nodeOf]
      exact toString_ne_word _ _

variable (rt title) in
theorem criticGraph_nodeTags (r : Reading) :
    ((r.criticGraph rt title).1.map fun n => nodeTag n.id).Nodup ∧
      ∀ n ∈ (r.criticGraph rt title).1, nodeTag n.id ≠ "collab".toList := by
  obtain ⟨hnodup, hword⟩ := executedGraph_nodeTags rt title r
  rcases criticGraph_cases rt title r with heq | ⟨last, -, heq⟩
  · rw [heq]
    exact ⟨hnodup, fun n hn => hword n hn _⟩
  · rw [heq]
    refine ⟨?_, ?_⟩
    · rw [List.map_append, List.map_singleton, nodeTag_criticNode]
      refine List.nodup_append.mpr ⟨hnodup, List.nodup_singleton _, ?_⟩
      intro tag htag tag' htag' hsame
      obtain ⟨n, hn, rfl⟩ := List.mem_map.mp htag
      rw [List.mem_singleton.mp htag'] at hsame
      exact hword n hn _ hsame
    · intro n hn
      rcases List.mem_append.mp hn with hn | hn
      · exact hword n hn _
      · rw [List.mem_singleton.mp hn, nodeTag_criticNode]
        decide

/-- The edge leaves an executed node or the only node. -/
def LeavesNode (e : TraceEdge) : Prop := ∃ rest, e.id = "edge_node_" ++ rest

theorem leavesNode_edgeBetween {source target : TraceNode} {type : String}
    (h : ∃ rest, source.id = "node_" ++ rest) : LeavesNode (edgeBetween source target type) := by
  obtain ⟨rest, hrest⟩ := h
  refine ⟨rest ++ ("_to_" ++ target.id), ?_⟩
  show "edge_" ++ source.id ++ "_to_" ++ target.id = _
  rw [hrest]
  refine String.toList_inj.mp ?_
  simp only [String.toList_append, List.append_assoc]
  rfl

theorem executedGraph_node_id (r : Reading) {n : TraceNode}
    (hn : n ∈ (r.executedGraph rt title).1) : ∃ rest, n.id = "node_" ++ rest := by
  rcases executedGraph_cases rt title r with ⟨-, heq⟩ | ⟨-, heq⟩
  · rw [heq] at hn
    rw [List.mem_singleton.mp hn]
    exact ⟨"start", rfl⟩
  · rw [heq] at hn
    simp only [executedFrom, List.map_map, List.mem_map, Function.comp_apply] at hn
    obtain ⟨entry, -, rfl⟩ := hn
    rw [nodeOf_id, String.append_assoc, String.append_assoc]
    exact ⟨_, rfl⟩

/-- Where the link at a position of the chain comes from and goes to. -/
theorem mem_executedGraph_edges (r : Reading) {e : TraceEdge}
    (he : e ∈ (r.executedGraph rt title).2) :
    ∃ i a b, (r.executedGraph rt title).1[i]? = some a ∧
      (r.executedGraph rt title).1[i + 1]? = some b ∧ e.source = a.id ∧ e.target = b.id ∧
      LeavesNode e := by
  rcases executedGraph_cases rt title r with ⟨-, heq⟩ | ⟨-, heq⟩
  · rw [heq] at he
    cases he
  · have hmem := heq ▸ he
    obtain ⟨i, hi⟩ := List.getElem?_of_mem hmem
    obtain ⟨a, b, ha, hb, rfl⟩ := executedEdges_getElem? _ |>.mp hi
    have ha' : (r.executedGraph rt title).1[i]? = some a.1 := by
      rw [heq, List.getElem?_map, ha]
      rfl
    have hb' : (r.executedGraph rt title).1[i + 1]? = some b.1 := by
      rw [heq, List.getElem?_map, hb]
      rfl
    exact ⟨i, a.1, b.1, ha', hb', rfl, rfl,
      leavesNode_edgeBetween (executedGraph_node_id r (List.mem_of_getElem? ha'))⟩

/-- The links of the chain join two of its nodes. -/
theorem executedGraph_ends (r : Reading) : ∀ e ∈ (r.executedGraph rt title).2, LeavesNode e ∧
    e.source ∈ (r.executedGraph rt title).1.map (·.id) ∧
    e.target ∈ (r.executedGraph rt title).1.map (·.id) := by
  intro e he
  obtain ⟨i, a, b, ha, hb, hs, ht, hleaves⟩ := mem_executedGraph_edges r he
  rw [hs, ht]
  exact ⟨hleaves, List.mem_map_of_mem (List.mem_of_getElem? ha),
    List.mem_map_of_mem (List.mem_of_getElem? hb)⟩

/-- The pieces of the links are the positions they leave, all but the last. -/
theorem executedGraph_edgeTags (r : Reading) :
    ((r.executedGraph rt title).2.map fun e => edgeTag e.id) =
      (List.range' 0 (r.nodesExecuted.length - 1)).map fun i => (toString i).toList := by
  rcases executedGraph_cases rt title r with ⟨hnil, heq⟩ | ⟨-, heq⟩
  · rw [heq, hnil]
    rfl
  · rw [heq]
    exact map_edgeTag_executedEdges r r.nodesExecuted 0

/-- The last node of the chain shows the last position. -/
theorem executedGraph_getLast? (r : Reading) {last : TraceNode} (hne : r.nodesExecuted ≠ [])
    (hlast : (r.executedGraph rt title).1.getLast? = some last) :
    ∃ item, last = r.nodeOf rt title (item, r.nodesExecuted.length - 1) := by
  rcases executedGraph_cases rt title r with ⟨hnil, -⟩ | ⟨-, hg⟩
  · exact absurd hnil hne
  rw [hg, List.getLast?_eq_getElem?, List.getElem?_map, executedFrom_getElem?] at hlast
  simp only [Option.map_map, Option.map_eq_some_iff, Function.comp_apply] at hlast
  obtain ⟨item, -, rfl⟩ := hlast
  exact ⟨item, by simp [executedFrom]⟩

/-- Identifiers with different pieces are different. -/
theorem nodup_ids_of_edgeTags {l : List TraceEdge} (h : (l.map fun e => edgeTag e.id).Nodup) :
    (l.map (·.id)).Nodup := by
  refine List.Nodup.of_map edgeTag ?_
  rw [List.map_map]
  exact h

variable (rt title) in
/-- The identifiers of the edges, before there is any collaboration. -/
theorem criticGraph_edgeIds (r : Reading) : ((r.criticGraph rt title).2.map (·.id)).Nodup := by
  have hchain : ((r.executedGraph rt title).2.map fun e => edgeTag e.id).Nodup := by
    rw [executedGraph_edgeTags]
    exact nodup_map_toString _ _
  rcases criticGraph_cases rt title r with heq | ⟨last, hlast, heq⟩
  · rw [heq]
    exact nodup_ids_of_edgeTags hchain
  · rw [heq]
    rcases executedGraph_cases rt title r with ⟨-, hg⟩ | ⟨hne, -⟩
    · rw [hg]
      exact List.nodup_singleton _
    · -- the edge to the critic's node leaves the last position
      refine nodup_ids_of_edgeTags ?_
      rw [List.map_append]
      refine List.nodup_append.mpr ⟨hchain, List.nodup_singleton _, ?_⟩
      obtain ⟨item, rfl⟩ := executedGraph_getLast? r hne hlast
      intro tag htag tag' htag' hsame
      rw [executedGraph_edgeTags] at htag
      obtain ⟨i, hi, rfl⟩ := List.mem_map.mp htag
      rw [List.mem_range'_1] at hi
      rw [List.map_singleton, List.mem_singleton] at htag'
      rw [htag', edgeTag_nodeOf] at hsame
      have := toString_toList_inj hsame
      omega

variable (rt title) in
/-- The ends of the edges, before there is any collaboration. -/
theorem criticGraph_ends (r : Reading) : ∀ e ∈ (r.criticGraph rt title).2, LeavesNode e ∧
    e.source ∈ (r.criticGraph rt title).1.map (·.id) ∧
    e.target ∈ (r.criticGraph rt title).1.map (·.id) := by
  rcases criticGraph_cases rt title r with heq | ⟨last, hlast, heq⟩
  · rw [heq]
    exact executedGraph_ends r
  · rw [heq]
    have hmem : last ∈ (r.executedGraph rt title).1 := List.mem_of_getLast? hlast
    intro e he
    rw [List.map_append]
    rcases List.mem_append.mp he with he | he
    · obtain ⟨hleaves, hs, ht⟩ := executedGraph_ends r e he
      exact ⟨hleaves, List.mem_append_left _ hs, List.mem_append_left _ ht⟩
    · rw [List.mem_singleton.mp he]
      exact ⟨leavesNode_edgeBetween (executedGraph_node_id r hmem),
        List.mem_append_left _ (List.mem_map_of_mem hmem),
        List.mem_append_right _ List.mem_cons_self⟩

/-! ### The whole graph -/

section Graph

variable {r : Reading} {graph : List TraceNode × List TraceEdge}

theorem graph_nodeIds (h : r.graph rt title = .ok graph) : (graph.1.map (·.id)).Nodup := by
  obtain ⟨htags, hword⟩ := criticGraph_nodeTags rt title r
  rw [(graph_spec h).nodes, List.map_append]
  refine List.nodup_append.mpr ⟨?_, ?_, ?_⟩
  · refine List.Nodup.of_map nodeTag ?_
    rw [List.map_map]
    exact htags
  · have hids : (r.collaboration.zipIdx.map (Reading.collaborationNode rt)).map (·.id) =
        (List.range' 0 r.collaboration.length).map fun i => "node_collab_" ++ toString i := by
      rw [← List.zipIdx_map_snd, List.map_map, List.map_map]
      rfl
    rw [hids]
    refine (List.nodup_range' 1).map ?_
    intro i j hij
    exact toString_toList_inj (congrArg String.toList (String.append_right_inj _ |>.mp hij))
  · intro id hid id' hid' hsame
    obtain ⟨n, hn, rfl⟩ := List.mem_map.mp hid
    obtain ⟨n', hn', rfl⟩ := List.mem_map.mp hid'
    obtain ⟨entry, -, rfl⟩ := List.mem_map.mp hn'
    exact hword n hn ((congrArg nodeTag hsame).trans (nodeTag_collaborationNode entry))

theorem graph_edgeIds (h : r.graph rt title = .ok graph) : (graph.2.map (·.id)).Nodup := by
  obtain ⟨links, heq, hsub, -⟩ := (graph_spec h).edges
  rw [heq, List.map_append]
  refine List.nodup_append.mpr ⟨criticGraph_edgeIds rt title r, ?_, ?_⟩
  · refine hsub.nodup ?_
    have hids : (r.collaboration.zipIdx.map fun entry => "edge_collab_" ++ toString entry.2) =
        (List.range' 0 r.collaboration.length).map fun i => "edge_collab_" ++ toString i := by
      rw [← List.zipIdx_map_snd, List.map_map]
      rfl
    rw [hids]
    refine (List.nodup_range' 1).map ?_
    intro i j hij
    exact toString_toList_inj (congrArg String.toList (String.append_right_inj _ |>.mp hij))
  · intro id hid id' hid' hsame
    obtain ⟨e, he, rfl⟩ := List.mem_map.mp hid
    obtain ⟨rest, hrest⟩ := (criticGraph_ends rt title r e he).1
    obtain ⟨entry, -, rfl⟩ := List.mem_map.mp (hsub.subset hid')
    rw [hrest] at hsame
    have hchars := congrArg String.toList hsame
    simp at hchars

theorem graph_ends (h : r.graph rt title = .ok graph) :
    ∀ e ∈ graph.2, e.source ∈ graph.1.map (·.id) ∧ e.target ∈ graph.1.map (·.id) := by
  obtain ⟨links, heq, -, hlinks⟩ := (graph_spec h).edges
  intro e he
  rw [heq] at he
  rcases List.mem_append.mp he with he | he
  · obtain ⟨-, hs, ht⟩ := criticGraph_ends rt title r e he
    rw [(graph_spec h).nodes, List.map_append]
    exact ⟨List.mem_append_left _ hs, List.mem_append_left _ ht⟩
  · exact (hlinks e he).2

/-- The nodes of the executed items come first, in their order. -/
theorem graph_nodes_getElem? (h : r.graph rt title = .ok graph) {i : Nat} {item : Json}
    (hitem : r.nodesExecuted[i]? = some item) :
    graph.1[i]? = some (r.nodeOf rt title (item, i)) := by
  have hexecuted : (r.executedGraph rt title).1[i]? = some (r.nodeOf rt title (item, i)) := by
    rcases executedGraph_cases rt title r with ⟨hnil, -⟩ | ⟨-, heq⟩
    · rw [hnil] at hitem
      cases hitem
    · rw [heq, List.getElem?_map, executedFrom_getElem?, hitem, Nat.zero_add]
      rfl
  have hstart : (r.executedGraph rt title).1 <+: graph.1 := by
    rw [(graph_spec h).nodes]
    rcases criticGraph_cases rt title r with heq | ⟨last, -, heq⟩
    · rw [heq]
      exact List.prefix_append _ _
    · rw [heq, List.append_assoc]
      exact List.prefix_append _ _
  obtain ⟨rest, hrest⟩ := hstart
  rw [← hrest, List.getElem?_append_left (List.getElem?_eq_some_iff.mp hexecuted).1]
  exact hexecuted

/-- The link between two positions of the chain. -/
theorem executedGraph_link (r : Reading) {i : Nat} (hi : i + 1 < r.nodesExecuted.length) :
    ∃ e, (r.executedGraph rt title).2[i]? = some e ∧
      e.source = (r.nodeOf rt title (r.nodesExecuted[i], i)).id ∧
      e.target = (r.nodeOf rt title (r.nodesExecuted[i + 1], i + 1)).id ∧
      (e.type = "sequential" ∨ e.type = "replan") := by
  rcases executedGraph_cases rt title r with ⟨hnil, -⟩ | ⟨-, heq⟩
  · rw [hnil] at hi
    cases hi
  rw [heq]
  have hchain : i < (executedEdges rt (executedFrom rt title r r.nodesExecuted 0)).length := by
    rw [executedEdges_length]
    simp only [executedFrom, List.length_map, List.length_zipIdx]
    omega
  have he := List.getElem?_eq_getElem hchain
  obtain ⟨a, b, ha, hb, hlink⟩ := (executedEdges_getElem? _).mp he
  rw [executedFrom_getElem?, List.getElem?_eq_getElem (Nat.lt_of_succ_lt hi), Option.map_some,
    Option.some.injEq, Nat.zero_add] at ha
  rw [executedFrom_getElem?, List.getElem?_eq_getElem hi, Option.map_some, Option.some.injEq,
    Nat.zero_add] at hb
  refine ⟨_, he, ?_⟩
  rw [hlink, ← ha, ← hb]
  simp only [edgeBetween, true_and]
  split
  · exact .inr rfl
  · exact .inl rfl

/-- No other link leaves the same position. -/
theorem executedGraph_link_unique (r : Reading) {i : Nat} {item : Json} {e w : TraceEdge}
    (he : (r.executedGraph rt title).2[i]? = some e) (hw : w ∈ (r.executedGraph rt title).2)
    (hs : w.source = (r.nodeOf rt title (item, i)).id) : w = e := by
  obtain ⟨j, hj⟩ := List.getElem?_of_mem hw
  rcases executedGraph_cases rt title r with ⟨-, heq⟩ | ⟨-, heq⟩
  · rw [heq] at hw
    cases hw
  have hj' := hj
  rw [heq] at hj'
  obtain ⟨a, b, ha, -, rfl⟩ := (executedEdges_getElem? _).mp hj'
  rw [executedFrom_getElem?, Option.map_eq_some_iff] at ha
  obtain ⟨item', -, rfl⟩ := ha
  have htag := congrArg nodeTag hs
  simp only [edgeBetween] at htag
  rw [nodeTag_nodeOf, nodeTag_nodeOf, Nat.zero_add] at htag
  obtain rfl := toString_toList_inj htag
  exact Option.some.inj (hj.symm.trans he)

/-- An edge of the graph is a link of the chain, leads to the critic's node or is marked as a
collaboration. -/
theorem mem_graph_edges (h : r.graph rt title = .ok graph) {e : TraceEdge} (he : e ∈ graph.2) :
    e ∈ (r.executedGraph rt title).2 ∨
      e.target = (r.criticNode (r.executedGraph rt title).1).id ∨ e.type = "collaboration" := by
  obtain ⟨links, hedges, -, hlinks⟩ := (graph_spec h).edges
  rw [hedges] at he
  rcases List.mem_append.mp he with he | he
  · rcases criticGraph_cases rt title r with heq | ⟨last, -, heq⟩
    · rw [heq] at he
      exact .inl he
    · rw [heq] at he
      rcases List.mem_append.mp he with he | he
      · exact .inl he
      · rw [List.mem_singleton.mp he]
        exact .inr (.inl rfl)
  · exact .inr (.inr (hlinks e he).1)

/-- The links of the chain are among the edges. -/
theorem executedGraph_subset (h : r.graph rt title = .ok graph) :
    ∀ e ∈ (r.executedGraph rt title).2, e ∈ graph.2 := by
  intro e he
  obtain ⟨links, hedges, -, -⟩ := (graph_spec h).edges
  rw [hedges]
  refine List.mem_append_left _ ?_
  rcases criticGraph_cases rt title r with heq | ⟨last, -, heq⟩
  · rwa [heq]
  · rw [heq]
    exact List.mem_append_left _ he

/-- **Consecutive nodes of the chain have one link.** -/
theorem graph_link (h : r.graph rt title = .ok graph) {i : Nat} {a b : TraceNode}
    (hi : i + 1 < r.nodesExecuted.length) (ha : graph.1[i]? = some a)
    (hb : graph.1[i + 1]? = some b) :
    (graph.2.filter fun e => e.source = a.id ∧ e.target = b.id ∧
      (e.type = "sequential" ∨ e.type = "replan")).length = 1 := by
  have hitem := List.getElem?_eq_getElem (Nat.lt_of_succ_lt hi)
  have hitem' := List.getElem?_eq_getElem hi
  obtain rfl := Option.some.inj (ha.symm.trans (graph_nodes_getElem? h hitem))
  obtain rfl := Option.some.inj (hb.symm.trans (graph_nodes_getElem? h hitem'))
  obtain ⟨e, he, hends⟩ := @executedGraph_link rt title r i hi
  have hone : PoolIndex.single? (graph.2.filter fun w =>
      w.source = (r.nodeOf rt title (r.nodesExecuted[i], i)).id ∧
        w.target = (r.nodeOf rt title (r.nodesExecuted[i + 1], i + 1)).id ∧
        (w.type = "sequential" ∨ w.type = "replan")) = some e := by
    rw [PoolIndex.single?_filter_eq_some_iff (List.Nodup.of_map _ (graph_edgeIds h))]
    refine ⟨executedGraph_subset h e (List.mem_of_getElem? he), decide_eq_true hends, ?_⟩
    intro w hw hsame
    obtain ⟨hs, ht, htype⟩ := of_decide_eq_true hsame
    rcases mem_graph_edges h hw with hw | hcritic | hcollab
    · exact executedGraph_link_unique r he hw hs
    · -- an edge to the critic's own node
      rw [hcritic] at ht
      have htag := congrArg nodeTag ht
      rw [nodeTag_criticNode, nodeTag_nodeOf] at htag
      exact absurd htag.symm (toString_ne_word _ _)
    · rw [hcollab] at htype
      simp at htype
  rw [PoolIndex.single?_eq_some_iff] at hone
  rw [hone]
  rfl

end Graph

/--
**Trace graphs are well formed.**

Whatever the stored trace holds, when it is transformed the nodes have different identifiers and so
have the edges, every edge joins two of the nodes, the counts are those of the lists, and the
executed nodes come first, in their order, each linked to the next by one sequential or replan edge.
-/
theorem trace_graph_well_formed (rt : TextRuntime) (title : String → String) (now : Int)
    (investigation : TracedInvestigation) (response : InvestigationTraceResponse)
    (h : investigationTraceResponse rt title now investigation = .ok response) :
    let r := Reading.of investigation.status investigation.executionTrace
    (response.nodes.map (·.id)).Nodup ∧ (response.edges.map (·.id)).Nodup ∧
    (∀ e ∈ response.edges,
      e.source ∈ response.nodes.map (·.id) ∧ e.target ∈ response.nodes.map (·.id)) ∧
    response.metadata.nodeCount = response.nodes.length ∧
    response.metadata.edgeCount = response.edges.length ∧
    response.summary.criticFlagCount = r.criticFlags.length ∧
    response.summary.collaborationEventCount = r.collaboration.length ∧
    (∀ i item, r.nodesExecuted[i]? = some item →
      response.nodes[i]? = some (r.nodeOf rt title (item, i))) ∧
    ∀ i a b, i + 1 < r.nodesExecuted.length → response.nodes[i]? = some a →
      response.nodes[i + 1]? = some b →
      (response.edges.filter fun e => e.source = a.id ∧ e.target = b.id ∧
        (e.type = "sequential" ∨ e.type = "replan")).length = 1 := by
  intro r
  unfold investigationTraceResponse at h
  obtain ⟨evidenceCount, -, h⟩ := ok_of_bind h
  obtain ⟨replanCount, -, h⟩ := ok_of_bind h
  obtain ⟨⟨nodes, edges⟩, hgraph, h⟩ := ok_of_bind h
  obtain rfl := Except.ok.inj h
  exact ⟨graph_nodeIds hgraph, graph_edgeIds hgraph, graph_ends hgraph, rfl, rfl, rfl, rfl,
    fun i item hitem => graph_nodes_getElem? hgraph hitem,
    fun i a b hi ha hb => graph_link hgraph hi ha hb⟩

end Identifiers

/-- A replan whose collaboration names its agents by parts of other identifiers. -/
def sampleInvestigation : TracedInvestigation where
  id := ⟨"66666666-6666-4666-8666-666666666666", rfl⟩
  status := "complete"
  complexityTier := some "moderate"
  createdAt := 0
  completedAt := some 1
  confidence := some (1 / 2)
  executionTrace := .obj
    [("nodes_executed", .arr [.str "supervisor", .str "1_node", .str "replan"]),
      ("critic_flags", .arr [.str "unsupported"]),
      ("collaboration", .arr [.obj [("from_agent", .str "node"), ("to_agent", .str "critic")]])]

theorem trace_graph_sample :
    ∃ response, investigationTraceResponse Anonymization.asciiRuntime id 0 sampleInvestigation
        = .ok response ∧
      response.edges.map (·.id) = ["edge_node_0_supervisor_to_node_1_1_node",
        "edge_node_1_1_node_to_node_2_replan", "edge_node_2_replan_to_node_critic_flags_3",
        "edge_collab_0"] ∧
      (response.nodes.map (·.id)).Nodup ∧
      response.metadata.edgeCount = response.edges.length := by
  have hrun : (investigationTraceResponse Anonymization.asciiRuntime id 0
      sampleInvestigation).toOption.map (fun response => response.edges.map (·.id)) =
        some ["edge_node_0_supervisor_to_node_1_1_node", "edge_node_1_1_node_to_node_2_replan",
          "edge_node_2_replan_to_node_critic_flags_3", "edge_collab_0"] := by
    decide +kernel
  obtain ⟨response, hsome, hedges⟩ := Option.map_eq_some_iff.mp hrun
  have hok : investigationTraceResponse Anonymization.asciiRuntime id 0 sampleInvestigation
      = .ok response := by
    cases hres : investigationTraceResponse Anonymization.asciiRuntime id 0 sampleInvestigation with
    | error e => rw [hres] at hsome; cases hsome
    | ok response' => rw [hres] at hsome; rw [Option.some.inj hsome]
  have hwell := trace_graph_well_formed Anonymization.asciiRuntime id 0 sampleInvestigation response
    hok
  exact ⟨response, hok, hedges, hwell.1, hwell.2.2.2.2.1⟩

end TraceTransformer
end GaiaOS
