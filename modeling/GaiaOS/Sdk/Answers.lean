/-
The answers of the investigation routes as the client library gets them, after the response models
of `app/api/v1/investigations.py` and `orchestrator/explainability/trace_transformer.py`.

What a route returns is written field by field, in the order of the response model, and a refusal is
written by the framework with its text alone.  A value that is no JSON, and an exception, are
answered with a text.
-/
import GaiaOS.App.Investigations
import GaiaOS.Db.ResearchInvestigations
import GaiaOS.Explainability.TraceTransformer
import GaiaOS.Sdk.Client

namespace GaiaOS

namespace Json

/-- `json.dumps(x, allow_nan=False)` does not raise. -/
def finite : Json → Bool :=
  fold
    { leaf := fun
        | .float (.finite _) => true
        | .float _ => false
        | _ => true
      arr := fun items => items.all id
      obj := fun entries => entries.all (·.2) }

end Json

namespace Sdk

open Codec TraceTransformer

/-! ### Bodies -/

/-- A moment as a `datetime`. -/
def utc (t : Int) : DateTime := ⟨t, some 0⟩

/-- The text of a moment in a response, which the client can read. -/
structure Stamps (iso : IsoFormat) where
  text : Int → String
  read_text : ∀ t, iso.fromisoformat (text t) = some (utc t)

def strOrNull (text : Option String) : Json := (text.map Json.str).getD .null

def floatOrNull (x : Option ℚ) : Json := (x.map fun q => Json.float (.finite q)).getD .null

section Bodies

variable {iso : IsoFormat} (stamps : Stamps iso)

def stampOrNull (t : Option Int) : Json := (t.map fun t => Json.str (stamps.text t)).getD .null

def nodeBody (node : TraceNode) : Json :=
  .obj [("id", .str node.id), ("label", .str node.label), ("type", .str node.type),
    ("status", .str node.status), ("timestamp", .null), ("details", .obj node.details.entries)]

def edgeBody (edge : TraceEdge) : Json :=
  .obj [("id", .str edge.id), ("source", .str edge.source), ("target", .str edge.target),
    ("label", strOrNull edge.label), ("type", .str edge.type)]

def summaryBody (summary : TraceSummary) : Json :=
  .obj [("evidence_count", .int summary.evidenceCount),
    ("replan_count", .int summary.replanCount),
    ("critic_flag_count", .int summary.criticFlagCount),
    ("collaboration_event_count", .int summary.collaborationEventCount),
    ("degraded_sources", .arr (summary.degradedSources.map .str))]

def metadataBody (metadata : TraceMetadata) : Json :=
  .obj [("investigation_id", .str metadata.investigationId.text),
    ("schema_version", .str metadata.schemaVersion),
    ("generated_at", .str (stamps.text metadata.generatedAt)), ("status", .str metadata.status),
    ("complexity_tier", strOrNull metadata.complexityTier),
    ("created_at", .str (stamps.text metadata.createdAt)),
    ("completed_at", stampOrNull stamps metadata.completedAt),
    ("confidence", floatOrNull metadata.confidence), ("node_count", .int metadata.nodeCount),
    ("edge_count", .int metadata.edgeCount), ("has_replan", .bool metadata.hasReplan),
    ("has_collaboration", .bool metadata.hasCollaboration),
    ("has_degraded_mode", .bool metadata.hasDegradedMode)]

def traceBody (body : InvestigationTraceResponse) : Json :=
  .obj [("investigation_id", .str body.investigationId.text),
    ("schema_version", .str body.schemaVersion), ("metadata", metadataBody stamps body.metadata),
    ("nodes", .arr (body.nodes.map nodeBody)), ("edges", .arr (body.edges.map edgeBody)),
    ("summary", summaryBody body.summary)]

def statusBody (body : InvestigationsApi.InvestigationStatusResponse) : Json :=
  .obj [("investigation_id", .str body.investigationId.text), ("status", .str body.status),
    ("complexity_tier", strOrNull body.complexityTier), ("answer", strOrNull body.answer),
    ("confidence", floatOrNull body.confidence),
    ("evidence_gaps", .arr (body.evidenceGaps.map .str)),
    ("execution_trace", (body.executionTrace.map StoredTrace.toJson).getD .null),
    ("created_at", .str (stamps.text body.createdAt)),
    ("completed_at", stampOrNull stamps body.completedAt)]

/-! ### Answers -/

/-- "Internal Server Error". -/
def serverError : HttpResponse := ⟨500, none, none⟩

/-- A returned body. -/
def okAnswer (body : Json) : HttpResponse :=
  if body.finite then ⟨200, some body, none⟩ else serverError

/-- `JSONResponse` with a detail and an error code. -/
def errorAnswer (statusCode : Nat) (detail errorCode : String) : HttpResponse :=
  ⟨statusCode, some (.obj [("detail", .str detail), ("error_code", .str errorCode)]), none⟩

/-- What the framework makes of an `HTTPException`. -/
def refusal (e : HttpException) : HttpResponse :=
  ⟨e.statusCode, some (.obj [("detail", .str e.detail)]), e.retryAfter.map toString⟩

/-- What a route answers; the stream is no JSON. -/
def answerOf : InvestigationsApi.Response (Except PyError InvestigationTraceResponse) →
    HttpResponse
  | .notFound id =>
      errorAnswer 404 ("Investigation " ++ id.text ++ " not found.") "investigation_not_found"
  | .refused e => refusal e
  | .failed _ => serverError
  | .unavailable =>
      errorAnswer 503 "Events streaming backend is currently unreachable."
        "checkpointer_unavailable"
  | .status body => okAnswer (statusBody stamps body)
  | .trace (.ok body) => okAnswer (traceBody stamps body)
  | .trace (.error _) => serverError
  | .stream _ => ⟨200, none, none⟩

end Bodies

end Sdk

end GaiaOS
