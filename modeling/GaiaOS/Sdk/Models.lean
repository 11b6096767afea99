/-
The models of the client library, after `sdk/python/gaiaos_sdk/_generated/models/`.

A generated class pops its keys one after the other, keeps what is left as additional properties,
and writes both back.  Every class is the list of its keys here, in the order they are popped; a
union with `None` that is more than a cast is lenient.
-/
import GaiaOS.Lib.RecordCodec
import GaiaOS.Schemas.AgentIo

namespace GaiaOS

namespace Sdk

open Codec

/-! ### Scalars -/

/-- A `datetime`: the microseconds its clock shows, and its offset from UTC if it has one. -/
structure DateTime where
  micros : Int
  offset : Option Int
  deriving DecidableEq

/-- `datetime.fromisoformat`, with `none` for a `ValueError`, and `datetime.isoformat`. -/
structure IsoFormat where
  fromisoformat : String → Option DateTime
  isoformat : DateTime → String
  fromisoformat_isoformat : ∀ text d, fromisoformat text = some d →
    fromisoformat (isoformat d) = some d

/-- What is spelled as text. -/
inductive ScalarKind
  | uuid
  | datetime
  /-- The one status of an investigation that has just been created. -/
  | accepted

inductive Scalar
  | uuid (u : Uuid)
  | datetime (d : DateTime)
  | accepted
  deriving DecidableEq

section Scalars

variable (rt : Runtime) (iso : IsoFormat)

/-- `UUID(x)`, `datetime.fromisoformat(x)`, and the comparison with `'accepted'`. -/
def readScalar : ScalarKind → Json → Except PyError Scalar
  | .uuid, .str s =>
      match rt.uuidOf s with
      | some u => .ok (.uuid u)
      | none => .error (.valueError "badly formed hexadecimal UUID string")
  | .uuid, .null => .error (.typeError "one of the arguments must be given")
  | .uuid, _ => .error (.attributeError "replace")
  | .datetime, .str s =>
      match iso.fromisoformat s with
      | some d => .ok (.datetime d)
      | none => .error (.valueError ("Invalid isoformat string: '" ++ s ++ "'"))
  | .datetime, _ => .error (.typeError "fromisoformat: argument must be str")
  | .accepted, .str s =>
      if s = "accepted" then .ok .accepted
      else .error (.valueError ("status must match const 'accepted', got '" ++ s ++ "'"))
  | .accepted, _ => .error (.valueError "status must match const 'accepted'")

def writeScalar : Scalar → String
  | .uuid u => u.text
  | .datetime d => iso.isoformat d
  | .accepted => "accepted"

/-- `except (TypeError, ValueError, AttributeError, KeyError)`. -/
def isCaught : PyError → Bool
  | .typeError _ => true
  | .valueError _ => true
  | .validationError _ _ => true
  | .unicodeDecodeError => true
  | .attributeError _ => true
  | .keyError _ => true
  | _ => false

theorem readScalar_writeScalar (i : ScalarKind) (x : Json) (v : Scalar)
    (h : readScalar rt iso i x = .ok v) :
    readScalar rt iso i (.str (writeScalar iso v)) = .ok v := by
  cases i with
  | uuid =>
      cases x with
      | str s =>
          rw [readScalar] at h
          split at h
          · cases h
            simp only [writeScalar, readScalar, rt.uuidOf_text]
          · cases h
      | _ => cases h
  | datetime =>
      cases x with
      | str s =>
          rw [readScalar] at h
          split at h
          · rename_i d hd
            cases h
            simp only [writeScalar, readScalar, iso.fromisoformat_isoformat s d hd]
          · cases h
      | _ => cases h
  | accepted =>
      cases x with
      | str s =>
          rw [readScalar] at h
          split at h
          · cases h
            rfl
          · cases h
      | _ => cases h

def scalars : Scalars ScalarKind Scalar where
  read := readScalar rt iso
  write := writeScalar iso
  caught := isCaught
  read_write := readScalar_writeScalar rt iso

end Scalars

/-! ### The classes -/

/-- A class, by its name and its keys. -/
structure Model where
  name : String
  slots : List (Slot ScalarKind)

def Model.kind (model : Model) : Kind ScalarKind := .record model.slots

/-- A key whose value is kept as it is. -/
def plain (key : String) : Slot ScalarKind := .required key .plain

/-- `d.pop(key, UNSET)`. -/
def orUnset (key : String) : Slot ScalarKind := .optional key .plain

def uuid (key : String) : Slot ScalarKind := .required key (.scalar .uuid)

def datetime (key : String) : Slot ScalarKind := .required key (.scalar .datetime)

/-- A class of additional properties only. -/
def anyObject : Kind ScalarKind := .record []

def errorResponse : Model where
  name := "ErrorResponse"
  slots := [plain "detail", plain "error_code"]

def validationError : Model where
  name := "ValidationError"
  slots := [.required "loc" (.listOf .plain), plain "msg", plain "type",
    .optional "ctx" anyObject, orUnset "input"]

def httpValidationError : Model where
  name := "HTTPValidationError"
  slots := [.optional "detail" (.listOf validationError.kind)]

def traceNode : Model where
  name := "TraceNode"
  slots := [plain "id", plain "label", plain "type", .optional "details" anyObject,
    orUnset "status", orUnset "timestamp"]

def traceEdge : Model where
  name := "TraceEdge"
  slots := [plain "id", plain "source", plain "target", orUnset "label", orUnset "type"]

def traceMetadata : Model where
  name := "TraceMetadata"
  slots := [datetime "created_at", uuid "investigation_id", plain "status",
    .optional "completed_at" (.lenient (.scalar .datetime)), orUnset "complexity_tier",
    orUnset "confidence", orUnset "edge_count", .optional "generated_at" (.scalar .datetime),
    orUnset "has_collaboration", orUnset "has_degraded_mode", orUnset "has_replan",
    orUnset "node_count", orUnset "schema_version"]

def traceSummary : Model where
  name := "TraceSummary"
  slots := [orUnset "collaboration_event_count", orUnset "critic_flag_count",
    orUnset "degraded_sources", orUnset "evidence_count", orUnset "replan_count"]

def investigationTraceResponse : Model where
  name := "InvestigationTraceResponse"
  slots := [.required "edges" (.listOf traceEdge.kind), uuid "investigation_id",
    .required "metadata" traceMetadata.kind, .required "nodes" (.listOf traceNode.kind),
    .required "summary" traceSummary.kind, orUnset "schema_version"]

def investigationStatusResponse : Model where
  name := "InvestigationStatusResponse"
  slots := [plain "answer", .required "completed_at" (.lenient (.scalar .datetime)),
    plain "complexity_tier", plain "confidence", datetime "created_at",
    .required "execution_trace" (.lenient anyObject), uuid "investigation_id", plain "status",
    orUnset "evidence_gaps"]

def investigationCreateResponse : Model where
  name := "InvestigationCreateResponse"
  slots := [uuid "investigation_id", plain "poll_url", .required "status" (.scalar .accepted),
    plain "stream_url"]

def tokenResponse : Model where
  name := "TokenResponse"
  slots := [plain "access_token", plain "expires_in", orUnset "token_type"]

def userResponse : Model where
  name := "UserResponse"
  slots := [datetime "created_at", plain "email", plain "full_name", uuid "id",
    plain "is_active", plain "is_verified",
    .required "last_login_at" (.lenient (.scalar .datetime)), plain "role"]

def apiKeyCreatedResponse : Model where
  name := "ApiKeyCreatedResponse"
  slots := [datetime "created_at", uuid "id", plain "key", plain "key_id", plain "name"]

def apiKeyResponse : Model where
  name := "ApiKeyResponse"
  slots := [datetime "created_at", uuid "id", plain "is_revoked", plain "key_id", plain "name",
    .optional "last_used_at" (.lenient (.scalar .datetime)),
    .optional "revoked_at" (.lenient (.scalar .datetime))]

def apiKeyRevokedResponse : Model where
  name := "ApiKeyRevokedResponse"
  slots := [plain "key_id", orUnset "status"]

def patternFindingResponse : Model where
  name := "PatternFindingResponse"
  slots := [plain "algorithm_version", plain "baseline_rate", datetime "created_at",
    plain "description", uuid "id", plain "lift", datetime "mined_at", plain "observed_rate",
    plain "pattern_hash", plain "region_label", plain "source_event_type",
    plain "statistical_confidence", plain "support_count", plain "supporting_event_ids",
    plain "target_event_type", plain "time_window_days", plain "total_source_events",
    plain "total_target_events", .required "uncertainty" anyObject, plain "version"]

def hazardEventResponse : Model where
  name := "HazardEventResponse"
  slots := [datetime "created_at", plain "details", datetime "event_date", plain "event_type",
    plain "external_id", uuid "id", plain "region_label", plain "source"]

def researchInvestigationResponse : Model where
  name := "ResearchInvestigationResponse"
  slots := [plain "complexity_tier", plain "confidence_summary", plain "consent_public_research",
    datetime "created_at", plain "domains_involved", uuid "investigation_id",
    plain "query_category", .optional "completed_at" (.lenient (.scalar .datetime)),
    .optional "execution_trace" (.lenient anyObject), orUnset "query_text"]

/-- The classes an answer is read as. -/
def models : List Model :=
  [errorResponse, httpValidationError, investigationTraceResponse, investigationStatusResponse,
    investigationCreateResponse, tokenResponse, userResponse, apiKeyCreatedResponse,
    apiKeyResponse, apiKeyRevokedResponse, patternFindingResponse, hazardEventResponse,
    researchInvestigationResponse]

end Sdk

end GaiaOS
