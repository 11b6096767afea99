/-
The trace graph, after `orchestrator/explainability/trace_transformer.py`.

The transformer reads the stored trace by key and takes whatever is missing or of another type as
empty.  `transformExecutionTrace` is the nodes alone, which is all that some readers ask for;
`investigationTraceResponse` is the whole of it.  It can raise at two places: an infinite count
cannot be converted, and the name of a collaborating agent is searched for in text, so it has to
be text.
-/
import GaiaOS.Lib.Dict
import GaiaOS.App.Anonymization

namespace GaiaOS

namespace TraceTransformer

open Anonymization (TextRuntime)

structure TraceNode where
  id : String
  label : String
  type : String
  status : String := "completed"
  details : Dict String Json

structure TraceEdge where
  id : String
  source : String
  target : String
  label : Option String := none
  type : String := "sequential"

structure TraceSummary where
  evidenceCount : Int
  replanCount : Int
  criticFlagCount : Nat
  collaborationEventCount : Nat
  degradedSources : List String

structure TraceMetadata where
  investigationId : Uuid
  schemaVersion : String
  generatedAt : Int
  status : String
  complexityTier : Option String
  createdAt : Int
  completedAt : Option Int
  confidence : Option ℚ
  nodeCount : Nat
  edgeCount : Nat
  hasReplan : Bool
  hasCollaboration : Bool
  hasDegradedMode : Bool

structure InvestigationTraceResponse where
  investigationId : Uuid
  schemaVersion : String
  metadata : TraceMetadata
  nodes : List TraceNode
  edges : List TraceEdge
  summary : TraceSummary

/-- The columns of an investigation the transformer reads. -/
structure TracedInvestigation where
  id : Uuid
  status : String
  complexityTier : Option String
  createdAt : Int
  completedAt : Option Int
  /-- As a float; a value that is neither a number nor the text of one counts as none. -/
  confidence : Option ℚ
  /-- `null` if there is none. -/
  executionTrace : Json

def schemaVersion : String := "1.0"

/-- `KNOWN_NODE_MAPPINGS`. -/
def knownNodeMappings : List (String × String × String) :=
  [("supervisor", "Supervisor Planner", "planning"),
    ("planning", "Planner Initialized", "planning"),
    ("fan_out", "Parallel Fan-Out Coordinator", "agent_started"),
    ("air_quality", "Air Quality Domain Agent", "agent_started"),
    ("seismic", "Seismic Hazard Agent", "agent_started"),
    ("atmosphere", "Atmospheric Data Agent", "agent_started"),
    ("ocean", "Oceanography Agent", "agent_started"),
    ("wildfire", "Wildfire Risk Agent", "agent_started"),
    ("simulation", "Plume & Transport Simulation Agent", "agent_started"),
    ("causal_chain", "Causal Chain Reasoning Agent", "agent_started"),
    ("literature_rag", "Literature Evidence RAG Agent", "agent_started"),
    ("synthesis", "Cross-Domain Synthesis", "synthesizing"),
    ("critic", "Critic Claim Verification", "critic_flag"),
    ("replan", "Targeted Replan Pass", "replanning"),
    ("finalize", "Final Answer Synthesis & Persistence", "finalize")]

/-- The keys with a meaning of their own. -/
def reservedKeys : List String :=
  ["nodes_executed", "evidence_count", "replan_count", "critic_flags", "collaboration",
    "collaboration_events", "degraded_sources", "resilience_degraded", "errors", "error", "domains",
    "matched_domains"]

/-- `x.get(key)` of a dict that is no other thing. -/
def get (rawTrace : List (String × Json)) (key : String) : Json :=
  (Json.field? rawTrace key).getD .null

/-- The list at a key, empty if there is none. -/
def listAt (rawTrace : List (String × Json)) (key : String) : List Json :=
  match get rawTrace key with
  | .arr items => items
  | _ => []

section Transform

variable (rt : TextRuntime) (title : String → String)

/-- A list of texts, or one text. -/
def textsOf : Json → List String
  | .str s => [s]
  | .arr items => items.map (Json.pyStr rt.reprs)
  | _ => []

/-- `_classify_node`: the label, the type, the raw name and the other entries. -/
def classifyNode (nodeObj : Json) : String × String × String × List (String × Json) :=
  let (rawName, extraDetails) : String × List (String × Json) :=
    match nodeObj with
    | .obj entries =>
        let name := (get entries "name").pyOr ((get entries "node").pyOr
          ((get entries "event").pyOr (.str "unknown_event")))
        (Json.pyStr rt.reprs name,
          entries.filter fun entry => entry.1 ∉ ["name", "node", "event"])
    | _ => (Json.pyStr rt.reprs nodeObj, [])
  let cleanName := rt.lower (pyStrip rawName)
  match knownNodeMappings.lookup cleanName with
  | some (label, taxType) => (label, taxType, rawName, extraDetails)
  | none =>
      let label := title (pyReplace '_' " " cleanName)
      if pyIn "agent" cleanName then (label, "agent_started", rawName, extraDetails)
      else (label, "custom", rawName, extraDetails)

/-- What the nodes are built from. -/
structure Reading where
  rawTrace : List (String × Json)
  invStatus : String
  evidenceCount : Json

/-- A number that is no whole one is converted, if it can be. -/
def evidenceCountOf (value : Json) : Json :=
  match value with
  | .int _ | .bool _ => value
  | .float (.finite q) => .int (pyTrunc q)
  | .str s => (pyInt s).elim (.int 0) .int
  | _ => .int 0

def Reading.of (invStatus : String) (executionTrace : Json) : Reading :=
  let rawTrace :=
    match executionTrace with
    | .obj entries => entries
    | _ => []
  ⟨rawTrace, invStatus,
    evidenceCountOf ((Json.field? rawTrace "evidence_count").getD (.int 0))⟩

namespace Reading

variable (r : Reading)

def nodesExecuted : List Json := listAt r.rawTrace "nodes_executed"

def criticFlags : List Json := listAt r.rawTrace "critic_flags"

def collaboration : List Json :=
  match (get r.rawTrace "collaboration").pyOr (get r.rawTrace "collaboration_events") with
  | .arr items => items
  | _ => []

def degradedSources : List String :=
  textsOf rt ((get r.rawTrace "degraded_sources").pyOr (get r.rawTrace "resilience_degraded"))

def errorsList : List String :=
  textsOf rt ((get r.rawTrace "errors").pyOr (get r.rawTrace "error"))

def extraPluginMetadata : List (String × Json) :=
  r.rawTrace.filter fun entry => entry.1 ∉ reservedKeys

/-- `details["plugin_context"]`, if there is something for it. -/
def withPluginContext (details : Dict String Json) : Dict String Json :=
  if r.extraPluginMetadata.isEmpty then details
  else details.set "plugin_context" (.obj r.extraPluginMetadata)

/-- The status and the details the kind of a node adds. -/
def ofKind (nodeItem : Json) (taxType : String) (details : Dict String Json) :
    String × Dict String Json :=
  let name := Json.pyStr rt.reprs nodeItem
  if name = "critic" ∧ r.criticFlags ≠ [] then
    ("flagged", details.set "critic_flags" (.arr r.criticFlags))
  else if name = "fan_out" then
    let domains := (get r.rawTrace "domains").pyOr (get r.rawTrace "matched_domains")
    ("completed", if domains.truthy then details.set "domains" domains else details)
  else if taxType = "agent_started" then
    let details := details.set "evidence_count" r.evidenceCount
    if (r.degradedSources rt).any fun source => pyIn name source || pyIn source name then
      ("degraded", details.set "degraded_reason"
        (.str "Circuit breaker tripped / degraded mode fallback"))
    else ("completed", details)
  else ("completed", details)

/-- The node of an executed one. -/
def nodeOf (entry : Json × Nat) : TraceNode :=
  let (nodeItem, idx) := entry
  let (label, taxType, rawName, extraDetails) := classifyNode rt title nodeItem
  let details := extraDetails.foldl (fun details entry => details.set entry.1 entry.2)
    (Dict.empty.set "raw_item" nodeItem)
  let (status, details) := r.ofKind rt nodeItem taxType (r.withPluginContext details)
  let failed := r.invStatus = "failed" ∧ idx + 1 = r.nodesExecuted.length
  { id := "node_" ++ toString idx ++ "_" ++ rawName
    label := label
    type := taxType
    status := if failed then "failed" else status
    details :=
      if failed then details.set "errors" (.arr ((r.errorsList rt).map .str)) else details }

/-- The only node of a trace that lists none. -/
def startNode : TraceNode where
  id := "node_start"
  label := "Investigation (" ++ r.invStatus ++ ")"
  type := "planning"
  status := if r.invStatus = "failed" then "failed" else "completed"
  details := r.withPluginContext
    (if (r.errorsList rt).isEmpty then Dict.empty.set "trace" (.str "minimal")
      else Dict.empty.set "errors" (.arr ((r.errorsList rt).map .str)))

/-- The node of critic flags that no other node shows. -/
def criticNode (nodes : List TraceNode) : TraceNode where
  id := "node_critic_flags_" ++ toString nodes.length
  label := "Critic Verification"
  type := "critic_flag"
  status := "flagged"
  details := Dict.empty.set "critic_flags" (.arr r.criticFlags)

/-- The node of a collaboration event. -/
def collaborationNode (entry : Json × Nat) : TraceNode :=
  let (event, idx) := entry
  let (fromAgent, toAgent, details) : Json × Json × Dict String Json :=
    match event with
    | .obj entries =>
        ((Json.field? entries "from_agent").getD (.str "unknown"),
          (Json.field? entries "to_agent").getD (.str "all"), Dict.ofPairs entries)
    | _ =>
        (.str "agent", .str "peer",
          Dict.empty.set "event" (.str (Json.pyStr rt.reprs event)))
  { id := "node_collab_" ++ toString idx
    label := "Collaboration (" ++ Json.pyStr rt.reprs fromAgent ++ " → " ++
      Json.pyStr rt.reprs toAgent ++ ")"
    type := "collaboration"
    details := details }

/-- The nodes of `transform_execution_trace`. -/
def nodes : List TraceNode :=
  let executed :=
    if r.nodesExecuted.isEmpty then [r.startNode rt]
    else r.nodesExecuted.zipIdx.map (r.nodeOf rt title)
  let withCritic :=
    if r.criticFlags ≠ [] ∧ executed.all (·.type ≠ "critic_flag") then
      executed ++ [r.criticNode executed]
    else executed
  withCritic ++ r.collaboration.zipIdx.map (collaborationNode rt)

end Reading

/-- `transform_execution_trace`, as far as the nodes go. -/
def transformExecutionTrace (invStatus : String) (executionTrace : Json) : List TraceNode :=
  (Reading.of invStatus executionTrace).nodes rt title

/-- A count as a whole number.  Only an infinite one is not converted and not caught. -/
def countOf (value : Json) : Except PyError Int :=
  match value with
  | .int n => .ok n
  | .bool b => .ok (if b then 1 else 0)
  | .float (.finite q) => .ok (pyTrunc q)
  | .float .infinity | .float .negInfinity =>
      .error (.exception "cannot convert float infinity to integer")
  | .str s => .ok ((pyInt s).getD 0)
  | _ => .ok 0

/-- The edge from one node to the next. -/
def edgeBetween (source target : TraceNode) (type : String) : TraceEdge where
  id := "edge_" ++ source.id ++ "_to_" ++ target.id
  source := source.id
  target := target.id
  type := type

/-- The edges along executed nodes, each node with the item it shows. -/
def executedEdges : List (TraceNode × Json) → List TraceEdge
  | prev :: next :: rest =>
      edgeBetween prev.1 next.1
        (if Json.pyStr rt.reprs next.2 = "replan" then "replan" else "sequential") ::
        executedEdges (next :: rest)
  | _ => []

/-- The two ends of a collaboration event. -/
def collaborators (event : Json) : Json × Json :=
  match event with
  | .obj entries =>
      ((Json.field? entries "from_agent").getD (.str "unknown"),
        (Json.field? entries "to_agent").getD (.str "all"))
  | _ => (.str "agent", .str "peer")

/-- The first node with the agent's name in its identifier. -/
def nodeNaming (nodes : List TraceNode) (agent : Json) : Except PyError (Option TraceNode) :=
  match agent with
  | .str name => .ok (nodes.find? fun node => pyIn name node.id)
  | _ => .error (.typeError "'in <string>' requires string as left operand")

/-- One pass of the loop over the collaboration events. -/
def addCollaboration (graph : List TraceNode × List TraceEdge) (entry : Json × Nat) :
    Except PyError (List TraceNode × List TraceEdge) := do
  let nodes := graph.1 ++ [Reading.collaborationNode rt entry]
  let srcNode ← nodeNaming nodes (collaborators entry.1).1
  let targetNode ← nodeNaming nodes (collaborators entry.1).2
  match srcNode, targetNode with
  | some src, some target =>
      let edge : TraceEdge :=
        { id := "edge_collab_" ++ toString entry.2, source := src.id, target := target.id,
          label := some "peer_refinement", type := "collaboration" }
      return (nodes, graph.2 ++ [edge])
  | _, _ => return (nodes, graph.2)

namespace Reading

variable (r : Reading)

/-- The executed nodes and what each of them shows. -/
def executed : List (TraceNode × Json) :=
  r.nodesExecuted.zipIdx.map fun entry => (r.nodeOf rt title entry, entry.1)

/-- The graph of the executed nodes, or the only node of a trace that lists none. -/
def executedGraph : List TraceNode × List TraceEdge :=
  if r.nodesExecuted.isEmpty then ([r.startNode rt], [])
  else ((r.executed rt title).map (·.1), executedEdges rt (r.executed rt title))

/-- The graph with the node of critic flags that no other node shows. -/
def criticGraph : List TraceNode × List TraceEdge :=
  let (nodes, edges) := r.executedGraph rt title
  if r.criticFlags ≠ [] ∧ nodes.all (·.type ≠ "critic_flag") then
    (nodes ++ [r.criticNode nodes],
      edges ++ (nodes.getLast?.map fun last =>
        edgeBetween last (r.criticNode nodes) "sequential").toList)
  else (nodes, edges)

/-- The graph with the collaboration events. -/
def graph : Except PyError (List TraceNode × List TraceEdge) :=
  r.collaboration.zipIdx.foldlM (addCollaboration rt) (r.criticGraph rt title)

end Reading

/-- `transform_execution_trace`; `now` is the clock. -/
def investigationTraceResponse (now : Int) (investigation : TracedInvestigation) :
    Except PyError InvestigationTraceResponse := do
  let r := Reading.of investigation.status investigation.executionTrace
  let evidenceCount ← countOf ((Json.field? r.rawTrace "evidence_count").getD (.int 0))
  let replanCount ← countOf ((Json.field? r.rawTrace "replan_count").getD (.int 0))
  let (nodes, edges) ← r.graph rt title
  let degradedSources := r.degradedSources rt
  return {
    investigationId := investigation.id
    schemaVersion
    metadata := {
      investigationId := investigation.id
      schemaVersion
      generatedAt := now
      status := investigation.status
      complexityTier := investigation.complexityTier
      createdAt := investigation.createdAt
      completedAt := investigation.completedAt
      confidence := investigation.confidence
      nodeCount := nodes.length
      edgeCount := edges.length
      hasReplan := decide (replanCount > 0) || nodes.any (·.type = "replanning")
      hasCollaboration := !r.collaboration.isEmpty
      hasDegradedMode := !degradedSources.isEmpty || nodes.any (·.status = "degraded") }
    nodes
    edges
    summary := {
      evidenceCount
      replanCount
      criticFlagCount := r.criticFlags.length
      collaborationEventCount := r.collaboration.length
      degradedSources } }

end Transform

end TraceTransformer

end GaiaOS
