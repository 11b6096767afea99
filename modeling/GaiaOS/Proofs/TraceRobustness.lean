/-
When the trace of an investigation can be shown, and what it shows of the critic and of
collaborations.

A stored trace may hold anything, and almost all of it is read with a guard.  Two things are not
guarded: a count that is no finite number, and a collaborating agent that is named by something
else than a text (`trace_returned_iff`).

The flags of the critic are attached to the entries that read `critic`, or shown by a node of
their own where no entry is classified as the critic.  The ends of a collaboration are the first
nodes with the agents' names in their identifiers.
-/
import GaiaOS.App.Investigations
import GaiaOS.Proofs.TraceGraph

namespace GaiaOS

namespace TraceTransformer

open Anonymization (TextRuntime)

/-- A number that has no integer. -/
def IsInfinite : Json → Prop
  | .float .infinity => True
  | .float .negInfinity => True
  | _ => False

/-- Both ends of the event are named by texts. -/
def NamesAgents (event : Json) : Prop :=
  ∃ source target, collaborators event = (.str source, .str target)

/-- What a trace must not hold: an infinite count, or an agent named by something else than a
text. -/
structure Reading.Transformable (r : Reading) : Prop where
  evidenceCount : ¬ IsInfinite ((Json.field? r.rawTrace "evidence_count").getD (.int 0))
  replanCount : ¬ IsInfinite ((Json.field? r.rawTrace "replan_count").getD (.int 0))
  collaboration : ∀ event ∈ r.collaboration, NamesAgents event

variable {rt : TextRuntime} {title : String → String}

theorem countOf_ok_iff (value : Json) : (∃ n, countOf value = .ok n) ↔ ¬ IsInfinite value := by
  unfold countOf IsInfinite
  constructor
  · rintro ⟨n, hn⟩ hinfinite
    split at hinfinite
    · cases hn
    · cases hn
    · exact hinfinite
  · intro hfinite
    split
    · exact ⟨_, rfl⟩
    · exact ⟨_, rfl⟩
    · exact ⟨_, rfl⟩
    · exact absurd trivial hfinite
    · exact absurd trivial hfinite
    · exact ⟨_, rfl⟩
    · exact ⟨_, rfl⟩

theorem nodeNaming_ok {nodes : List TraceNode} {agent : Json} {found : Option TraceNode}
    (h : nodeNaming nodes agent = .ok found) :
    ∃ name, agent = .str name ∧ found = nodes.find? fun node => pyIn name node.id := by
  unfold nodeNaming at h
  split at h
  · next name => exact ⟨name, rfl, (Except.ok.inj h).symm⟩
  · cases h

/-- A collaboration event is drawn exactly if it names its agents. -/
theorem addCollaboration_ok_iff (graph : List TraceNode × List TraceEdge) (entry : Json × Nat) :
    (∃ graph', addCollaboration rt graph entry = .ok graph') ↔ NamesAgents entry.1 := by
  constructor
  · rintro ⟨graph', h⟩
    unfold addCollaboration at h
    obtain ⟨srcNode, hsrc, h⟩ := ok_of_bind h
    obtain ⟨targetNode, htarget, -⟩ := ok_of_bind h
    obtain ⟨source, hsource, -⟩ := nodeNaming_ok hsrc
    obtain ⟨target, htarget, -⟩ := nodeNaming_ok htarget
    exact ⟨source, target, Prod.ext hsource htarget⟩
  · rintro ⟨source, target, hnames⟩
    unfold addCollaboration
    rw [hnames]
    simp only [nodeNaming, bind, Except.bind]
    split <;> exact ⟨_, rfl⟩

variable (rt title) in
theorem graph_ok_iff (r : Reading) :
    (∃ graph, r.graph rt title = .ok graph) ↔ ∀ event ∈ r.collaboration, NamesAgents event := by
  have hmem : ∀ event, event ∈ r.collaboration ↔ ∃ i, (event, i) ∈ r.collaboration.zipIdx := by
    intro event
    constructor
    · intro hevent
      obtain ⟨i, hi⟩ := List.mem_iff_getElem?.mp hevent
      exact ⟨i, List.mk_mem_zipIdx_iff_getElem?.mpr hi⟩
    · rintro ⟨i, hi⟩
      exact List.mem_of_getElem? (List.mk_mem_zipIdx_iff_getElem?.mp hi)
  constructor
  · rintro ⟨graph, hgraph⟩ event hevent
    have hall : ∀ entry ∈ r.collaboration.zipIdx, NamesAgents entry.1 := by
      refine foldlM_of_ok (P := fun done _ => ∀ entry ∈ done, NamesAgents entry.1) hgraph
        (fun _ h => by cases h) ?_
      intro done entry before after _ hdone hadd other hother
      rcases List.mem_append.mp hother with hother | hother
      · exact hdone other hother
      · rw [List.mem_singleton.mp hother]
        exact (addCollaboration_ok_iff before entry).mp ⟨after, hadd⟩
    obtain ⟨i, hi⟩ := (hmem event).mp hevent
    exact hall _ hi
  · intro hall
    exact foldlM_completes (r.criticGraph rt title) fun entry hentry before =>
      (addCollaboration_ok_iff before entry).mpr
        (hall entry.1 ((hmem entry.1).mpr ⟨entry.2, hentry⟩))

/-- **When a trace is transformed.** -/
theorem investigationTraceResponse_ok_iff (now : Int) (investigation : TracedInvestigation) :
    (∃ response, investigationTraceResponse rt title now investigation = .ok response) ↔
      (Reading.of investigation.status investigation.executionTrace).Transformable := by
  constructor
  · rintro ⟨response, h⟩
    unfold investigationTraceResponse at h
    obtain ⟨evidenceCount, hevidence, h⟩ := ok_of_bind h
    obtain ⟨replanCount, hreplan, h⟩ := ok_of_bind h
    obtain ⟨graph, hgraph, -⟩ := ok_of_bind h
    exact ⟨(countOf_ok_iff _).mp ⟨_, hevidence⟩, (countOf_ok_iff _).mp ⟨_, hreplan⟩,
      (graph_ok_iff rt title _).mp ⟨graph, hgraph⟩⟩
  · rintro ⟨hevidence, hreplan, hcollaboration⟩
    obtain ⟨evidenceCount, hevidence⟩ := (countOf_ok_iff _).mpr hevidence
    obtain ⟨replanCount, hreplan⟩ := (countOf_ok_iff _).mpr hreplan
    obtain ⟨graph, hgraph⟩ := (graph_ok_iff rt title _).mpr hcollaboration
    unfold investigationTraceResponse
    simp only [hevidence, hreplan, hgraph, bind, Except.bind]
    exact ⟨_, rfl⟩

section Endpoint

open InvestigationsApi

/-- A row as the transformer reads it; `column` is what the table holds as its trace.  The
confidence comes from the table as a `Decimal`, which is not taken for a number. -/
def tracedRow (column : Investigation → Json) (investigation : Investigation) :
    TracedInvestigation where
  id := investigation.id
  status := investigation.status
  complexityTier := investigation.complexityTier
  createdAt := investigation.createdAt
  completedAt := investigation.completedAt
  confidence := none
  executionTrace := column investigation

/--
**When the trace of a stored investigation is returned.**  The transformation returns, and the
endpoint answers nobody with an exception of it, exactly if no count is infinite and every
collaboration event names its agents by texts, whatever else the trace holds.
-/
theorem trace_returned_iff (rt : TextRuntime) (title : String → String) (now : Int)
    (column : Investigation → Json) (investigation : Investigation) :
    let transform := fun row => investigationTraceResponse rt title now (tracedRow column row)
    ((∃ response, transform investigation = .ok response) ∧
      ∀ world investigationId state, world.investigations investigationId = some investigation →
        ∀ e, getInvestigationTrace transform world investigationId state ≠ .trace (.error e)) ↔
      (Reading.of investigation.status (column investigation)).Transformable := by
  intro transform
  have hiff : (∃ response, transform investigation = .ok response) ↔
      (Reading.of investigation.status (column investigation)).Transformable :=
    investigationTraceResponse_ok_iff now (tracedRow column investigation)
  constructor
  · rintro ⟨hreturns, -⟩
    exact hiff.mp hreturns
  · intro htransformable
    obtain ⟨response, hresponse⟩ := hiff.mpr htransformable
    refine ⟨⟨response, hresponse⟩, ?_⟩
    intro world investigationId state hrow e
    unfold getInvestigationTrace authorized
    rw [hrow]
    simp only [hresponse]
    split
    · exact fun h => by cases h
    · split
      · exact fun h => by cases h
      · exact fun h => by cases h

/-- An investigation that has been completed. -/
def completedInvestigation : Investigation where
  id := ⟨"77777777-7777-4777-8777-777777777777", rfl⟩
  userId := none
  queryText := "Is the air in Delhi safe?"
  status := "complete"
  createdAt := 0
  completedAt := some 1

/-- A collaboration event of an agent with a number for a name, and the endpoint fails. -/
theorem trace_of_numbered_agent_raises :
    let column := fun _ : Investigation =>
      Json.obj [("collaboration", .arr [.obj [("from_agent", .int 5)]])]
    let transform := fun row =>
      investigationTraceResponse Anonymization.asciiRuntime id 0 (tracedRow column row)
    getInvestigationTrace transform ⟨fun _ => some completedInvestigation, [], true⟩
        completedInvestigation.id {} =
      .trace (.error (.typeError "'in <string>' requires string as left operand")) := by
  rfl

end Endpoint

end TraceTransformer

end GaiaOS
