/-
What a user of the client library sees of the server.

The classes read back what they write and carry what they do not know, so a server may answer with
more than a client was made for.  The bodies of the investigation routes are read attribute by
attribute as what was returned, in whatever order they are written.  The exceptions of a call are
another matter: the text of a refusal is never in them, and one without an error code is not even
raised as such, since the body is read before the status is looked at.
-/
import GaiaOS.Proofs.TraceRobustness
import GaiaOS.Sdk.Answers

namespace GaiaOS

namespace Sdk

open Codec TraceTransformer

/-! ### Round trips -/

section Models

variable {rt : Runtime} {iso : IsoFormat}

theorem distinct_of_mem {m : Model} (h : m ∈ models) : m.kind.distinct = true := by
  have hall : ∀ m ∈ models, m.kind.distinct = true := by decide
  exact hall m h

/-- The value under the key is read, and not just kept. -/
def Model.Parses (m : Model) (key : String) : Prop :=
  ∃ slot ∈ m.slots, slot.key = key ∧ slot.kind ≠ .plain

/-- A value of a class is written to a dict that shows what it was read from. -/
theorem written_of_fromDict {m : Model} (hm : m ∈ models) {x : Json} {v : Datum Scalar}
    (h : fromDict rt iso m x = .ok v) :
    ∃ d d' : Dict String Json, x.asDict = .ok d ∧ v.write (scalars rt iso) = .obj d'.entries ∧
      ∀ key, ¬ m.Parses key → d'.get? key = d.get? key := by
  have hnodup : (m.slots.map Slot.key).Nodup := by
    have hdistinct := distinct_of_mem hm
    rw [Model.kind, Kind.distinct, Bool.and_eq_true, decide_eq_true_eq] at hdistinct
    exact hdistinct.1
  obtain ⟨d, attributes, left, hd, hslots, rfl⟩ := read_record h
  refine ⟨d, _, hd, rfl, fun key hkey => ?_⟩
  refine get?_written hnodup hslots (written_entries hnodup hslots) fun slot hslot heq => ?_
  by_contra hkind
  exact hkey ⟨slot, hslot, heq, hkind⟩

/--
**The classes of the client library keep what they are given.**

What a value of a class is written to reads back as that value, at any depth, and shows under every
key that is kept or not known what it was read from.  And bodies that differ only in what no class
knows are read alike: the same attributes, or the same exception.
-/
theorem models_round_trip (rt : Runtime) (iso : IsoFormat) (m : Model) (hm : m ∈ models) :
    (∀ x v, fromDict rt iso m x = .ok v →
      fromDict rt iso m (v.write (scalars rt iso)) = .ok v ∧
      ∃ d d' : Dict String Json, x.asDict = .ok d ∧ v.write (scalars rt iso) = .obj d'.entries ∧
        ∀ key, ¬ m.Parses key → d'.get? key = d.get? key) ∧
    ∀ x y, m.kind.prune (scalars rt iso) x = m.kind.prune (scalars rt iso) y →
      (fromDict rt iso m x).map Datum.known = (fromDict rt iso m y).map Datum.known := by
  have hdistinct := distinct_of_mem hm
  constructor
  · intro x v h
    exact ⟨Kind.read_write hdistinct h, written_of_fromDict hm h⟩
  · intro x y hsame
    have hx := @Kind.read_prune ScalarKind Scalar (scalars rt iso) m.kind hdistinct x
    have hy := @Kind.read_prune ScalarKind Scalar (scalars rt iso) m.kind hdistinct y
    unfold fromDict
    rw [← hx, ← hy, hsame]

end Models

/-- A text for every number, of as many signs. -/
def tally (t : Int) : String :=
  String.ofList (List.replicate t.natAbs (if 0 ≤ t then '+' else '-'))

def ofTally (text : String) : Option Int :=
  if text.toList.all (· = '+') then some text.toList.length
  else if text.toList.all (· = '-') then some (-text.toList.length)
  else none

theorem ofTally_tally (t : Int) : ofTally (tally t) = some t := by
  unfold ofTally tally
  rw [String.toList_ofList]
  by_cases h : 0 ≤ t
  · rw [if_pos h, if_pos (by simp [List.all_replicate])]
    simp [abs_of_nonneg h]
  · have hne : t.natAbs ≠ 0 := by omega
    rw [if_neg h, if_neg (by simp [List.all_replicate, hne]),
      if_pos (by simp [List.all_replicate])]
    simp only [List.length_replicate, Option.some.injEq]
    omega

/-- A moment, with its real text at the epoch and a tally elsewhere. -/
def sampleText (t : Int) : String := if t = 0 then "1970-01-01T00:00:00+00:00" else tally t

def readSample (text : String) : Option DateTime :=
  if text = "1970-01-01T00:00:00Z" ∨ text = "1970-01-01T00:00:00+00:00" then some (utc 0)
  else (ofTally text).map utc

theorem readSample_sampleText (t : Int) : readSample (sampleText t) = some (utc t) := by
  unfold readSample sampleText
  by_cases hzero : t = 0
  · rw [if_pos hzero, if_pos (.inr rfl), hzero]
  · rw [if_neg hzero, if_neg, ofTally_tally]
    · rfl
    · rintro (heq | heq)
      · have hnone : ofTally "1970-01-01T00:00:00Z" = none := by decide +kernel
        rw [← heq, ofTally_tally] at hnone
        cases hnone
      · have hnone : ofTally "1970-01-01T00:00:00+00:00" = none := by decide +kernel
        rw [← heq, ofTally_tally] at hnone
        cases hnone

/-- Dates that are all in UTC. -/
def sampleIso : IsoFormat where
  fromisoformat := readSample
  isoformat d := sampleText d.micros
  fromisoformat_isoformat text d h := by
    obtain ⟨t, rfl⟩ : ∃ t, d = utc t := by
      unfold readSample at h
      split at h
      · exact ⟨0, (Option.some.inj h).symm⟩
      · obtain ⟨t, -, rfl⟩ := Option.map_eq_some_iff.mp h
        exact ⟨t, rfl⟩
    exact readSample_sampleText t

def sampleStamps : Stamps sampleIso where
  text := sampleText
  read_text := readSample_sampleText

/-- A body with a key that the client does not know. -/
def newerBody : Json :=
  .obj [("detail", .str "Not found."), ("error_code", .str "not_found"), ("trace_id", .int 7)]

/-- The same body as the client knows it. -/
def olderBody : Json := .obj [("detail", .str "Not found."), ("error_code", .str "not_found")]

/-- A newer server is read like an older one. -/
theorem models_round_trip_newer :
    (fromDict Runtime.reference sampleIso errorResponse newerBody).map Datum.known =
      (fromDict Runtime.reference sampleIso errorResponse olderBody).map Datum.known :=
  (models_round_trip Runtime.reference sampleIso errorResponse (by simp [models])).2 newerBody
    olderBody rfl

/-! ### Bodies -/

/-- An attribute that is kept as it stands. -/
def kept (key : String) (x : Json) : Attribute Scalar := .set key (.raw x)

/-- A moment as it is read. -/
def moment (t : Int) : Datum Scalar := .scalar (.datetime (utc t))

def momentOrNone (t : Option Int) : Datum Scalar := (t.map moment).getD (.raw .null)

/-- A node of the trace as it is read. -/
def nodeValue (node : TraceNode) : Datum Scalar :=
  .record [kept "id" (.str node.id), kept "label" (.str node.label), kept "type" (.str node.type),
    .set "details" (.record [] node.details), kept "status" (.str node.status),
    kept "timestamp" .null] Dict.empty

def edgeValue (edge : TraceEdge) : Datum Scalar :=
  .record [kept "id" (.str edge.id), kept "source" (.str edge.source),
    kept "target" (.str edge.target), kept "label" (strOrNull edge.label),
    kept "type" (.str edge.type)] Dict.empty

def summaryValue (summary : TraceSummary) : Datum Scalar :=
  .record [kept "collaboration_event_count" (.int summary.collaborationEventCount),
    kept "critic_flag_count" (.int summary.criticFlagCount),
    kept "degraded_sources" (.arr (summary.degradedSources.map .str)),
    kept "evidence_count" (.int summary.evidenceCount),
    kept "replan_count" (.int summary.replanCount)] Dict.empty

def metadataValue (metadata : TraceMetadata) : Datum Scalar :=
  .record [.set "created_at" (moment metadata.createdAt),
    .set "investigation_id" (.scalar (.uuid metadata.investigationId)),
    kept "status" (.str metadata.status),
    .set "completed_at" (momentOrNone metadata.completedAt),
    kept "complexity_tier" (strOrNull metadata.complexityTier),
    kept "confidence" (floatOrNull metadata.confidence),
    kept "edge_count" (.int metadata.edgeCount),
    .set "generated_at" (moment metadata.generatedAt),
    kept "has_collaboration" (.bool metadata.hasCollaboration),
    kept "has_degraded_mode" (.bool metadata.hasDegradedMode),
    kept "has_replan" (.bool metadata.hasReplan), kept "node_count" (.int metadata.nodeCount),
    kept "schema_version" (.str metadata.schemaVersion)] Dict.empty

/-- The trace as it is read. -/
def traceValue (body : InvestigationTraceResponse) : Datum Scalar :=
  .record [.set "edges" (.list (body.edges.map edgeValue)),
    .set "investigation_id" (.scalar (.uuid body.investigationId)),
    .set "metadata" (metadataValue body.metadata),
    .set "nodes" (.list (body.nodes.map nodeValue)),
    .set "summary" (summaryValue body.summary),
    kept "schema_version" (.str body.schemaVersion)] Dict.empty

/-- The column of the trace as it is read. -/
def storedTraceValue (trace : Option StoredTrace) : Datum Scalar :=
  match trace.map StoredTrace.toJson with
  | some (.obj entries) => .record [] (Dict.ofPairs entries)
  | _ => .raw .null

/-- The status of an investigation as it is read. -/
def statusValue (investigation : Investigation) : Datum Scalar :=
  .record [kept "answer" (strOrNull investigation.answer),
    .set "completed_at" (momentOrNone investigation.completedAt),
    kept "complexity_tier" (strOrNull investigation.complexityTier),
    kept "confidence" (floatOrNull investigation.confidence),
    .set "created_at" (moment investigation.createdAt),
    .set "execution_trace" (storedTraceValue investigation.executionTrace),
    .set "investigation_id" (.scalar (.uuid investigation.id)),
    kept "status" (.str investigation.status), kept "evidence_gaps" (.arr [])] Dict.empty

section Bodies

variable {rt : Runtime} {iso : IsoFormat} {stamps : Stamps iso}

theorem shows_plain {entries : List (String × Json)} {key : String} {x : Json}
    (h : Dict.lookup entries key = some x) :
    Shows (scalars rt iso) entries (plain key) (kept key x) :=
  ⟨x, _, h, rfl, rfl⟩

theorem shows_orUnset {entries : List (String × Json)} {key : String} {x : Json}
    (h : Dict.lookup entries key = some x) :
    Shows (scalars rt iso) entries (orUnset key) (kept key x) :=
  ⟨x, _, h, rfl, rfl⟩

theorem read_uuid (u : Uuid) :
    (Kind.scalar .uuid).read (scalars rt iso) (.str u.text) = .ok (.scalar (.uuid u)) := by
  rw [Kind.read]
  show (readScalar rt iso .uuid (.str u.text)).map _ = _
  rw [readScalar, rt.uuidOf_text]
  rfl

theorem read_moment (t : Int) :
    (Kind.scalar .datetime).read (scalars rt iso) (.str (stamps.text t)) = .ok (moment t) := by
  rw [Kind.read]
  show (readScalar rt iso .datetime (.str (stamps.text t))).map _ = _
  rw [readScalar, stamps.read_text]
  rfl

theorem read_momentOrNone (t : Option Int) :
    (Kind.lenient (.scalar .datetime)).read (scalars rt iso) (stampOrNull stamps t) =
      .ok (momentOrNone t) := by
  cases t with
  | none => rfl
  | some t => exact read_lenient_of_ok rfl (read_moment t)

theorem read_node (node : TraceNode) :
    traceNode.kind.read (scalars rt iso) (nodeBody node) = .ok (nodeValue node) := by
  refine read_record_of_shows (by decide)
    (show List.Perm ["id", "label", "type", "status", "timestamp", "details"]
      ["id", "label", "type", "details", "status", "timestamp"] by decide) ?_
  refine .cons (shows_plain rfl) (.cons (shows_plain rfl) (.cons (shows_plain rfl) (.cons ?_
    (.cons (shows_orUnset rfl) (.cons (shows_orUnset rfl) .nil)))))
  exact ⟨_, _, rfl, read_anything node.details, rfl⟩

theorem read_edge (edge : TraceEdge) :
    traceEdge.kind.read (scalars rt iso) (edgeBody edge) = .ok (edgeValue edge) :=
  read_record_of_shows (by decide) (List.Perm.refl _)
    (.cons (shows_plain rfl) (.cons (shows_plain rfl) (.cons (shows_plain rfl)
      (.cons (shows_orUnset rfl) (.cons (shows_orUnset rfl) .nil)))))

theorem read_summary (summary : TraceSummary) :
    traceSummary.kind.read (scalars rt iso) (summaryBody summary) = .ok (summaryValue summary) :=
  read_record_of_shows (by decide)
    (show List.Perm ["evidence_count", "replan_count", "critic_flag_count",
        "collaboration_event_count", "degraded_sources"]
      ["collaboration_event_count", "critic_flag_count", "degraded_sources", "evidence_count",
        "replan_count"] by decide)
    (.cons (shows_orUnset rfl) (.cons (shows_orUnset rfl) (.cons (shows_orUnset rfl)
      (.cons (shows_orUnset rfl) (.cons (shows_orUnset rfl) .nil)))))

theorem read_metadata (metadata : TraceMetadata) :
    traceMetadata.kind.read (scalars rt iso) (metadataBody stamps metadata) =
      .ok (metadataValue metadata) := by
  refine read_record_of_shows (by decide)
    (show List.Perm ["investigation_id", "schema_version", "generated_at", "status",
        "complexity_tier", "created_at", "completed_at", "confidence", "node_count", "edge_count",
        "has_replan", "has_collaboration", "has_degraded_mode"]
      ["created_at", "investigation_id", "status", "completed_at", "complexity_tier", "confidence",
        "edge_count", "generated_at", "has_collaboration", "has_degraded_mode", "has_replan",
        "node_count", "schema_version"] by decide) ?_
  refine .cons ⟨_, _, rfl, read_moment _, rfl⟩ (.cons ⟨_, _, rfl, read_uuid _, rfl⟩
    (.cons (shows_plain rfl) (.cons ⟨_, _, rfl, read_momentOrNone _, rfl⟩
      (.cons (shows_orUnset rfl) (.cons (shows_orUnset rfl) (.cons (shows_orUnset rfl)
        (.cons ⟨_, _, rfl, read_moment _, rfl⟩ ?_)))))))
  exact .cons (shows_orUnset rfl) (.cons (shows_orUnset rfl) (.cons (shows_orUnset rfl)
    (.cons (shows_orUnset rfl) (.cons (shows_orUnset rfl) .nil))))

/-- **The trace is read as it was returned.** -/
theorem read_trace (body : InvestigationTraceResponse) :
    fromDict rt iso investigationTraceResponse (traceBody stamps body) = .ok (traceValue body) := by
  refine read_record_of_shows (by decide)
    (show List.Perm ["investigation_id", "schema_version", "metadata", "nodes", "edges", "summary"]
      ["edges", "investigation_id", "metadata", "nodes", "summary", "schema_version"]
      by decide) ?_
  exact .cons ⟨_, _, rfl, read_listOf_of_ok read_edge body.edges, rfl⟩
    (.cons ⟨_, _, rfl, read_uuid _, rfl⟩ (.cons ⟨_, _, rfl, read_metadata _, rfl⟩
      (.cons ⟨_, _, rfl, read_listOf_of_ok read_node body.nodes, rfl⟩
        (.cons ⟨_, _, rfl, read_summary _, rfl⟩ (.cons (shows_orUnset rfl) .nil)))))

theorem read_storedTrace (trace : Option StoredTrace) :
    (Kind.lenient anyObject).read (scalars rt iso)
        ((trace.map StoredTrace.toJson).getD .null) = .ok (storedTraceValue trace) := by
  cases trace with
  | none => rfl
  | some trace =>
      have hobj : ∃ entries, trace.toJson = .obj entries := by
        cases trace with
        | execution trace => exact ⟨_, rfl⟩
        | error message errorCode => cases errorCode <;> exact ⟨_, rfl⟩
      obtain ⟨entries, hentries⟩ := hobj
      unfold storedTraceValue
      rw [Option.map_some, Option.getD_some, hentries]
      exact read_lenient_of_ok rfl rfl

/-- **The status is read as it was returned.** -/
theorem read_status (investigation : Investigation) :
    fromDict rt iso investigationStatusResponse (statusBody stamps
      { investigationId := investigation.id
        status := investigation.status
        complexityTier := investigation.complexityTier
        answer := investigation.answer
        confidence := investigation.confidence
        evidenceGaps := []
        executionTrace := investigation.executionTrace
        createdAt := investigation.createdAt
        completedAt := investigation.completedAt }) = .ok (statusValue investigation) := by
  refine read_record_of_shows (by decide)
    (show List.Perm ["investigation_id", "status", "complexity_tier", "answer", "confidence",
        "evidence_gaps", "execution_trace", "created_at", "completed_at"]
      ["answer", "completed_at", "complexity_tier", "confidence", "created_at",
        "execution_trace", "investigation_id", "status", "evidence_gaps"] by decide) ?_
  refine .cons (shows_plain rfl) (.cons ⟨_, _, rfl, read_momentOrNone _, rfl⟩
    (.cons (shows_plain rfl) (.cons (shows_plain rfl) (.cons ⟨_, _, rfl, read_moment _, rfl⟩
      (.cons ⟨_, _, rfl, read_storedTrace _, rfl⟩ ?_)))))
  exact .cons ⟨_, _, rfl, read_uuid _, rfl⟩
    (.cons (shows_plain rfl) (.cons (shows_orUnset rfl) .nil))

/-! ### What can be written as JSON -/

theorem finite_arr (items : List Json) : (Json.arr items).finite = items.all Json.finite := by
  unfold Json.finite
  rw [Json.fold_arr]
  dsimp only
  rw [List.all_map]
  rfl

theorem finite_obj (entries : List (String × Json)) :
    (Json.obj entries).finite = entries.all fun entry => entry.2.finite := by
  unfold Json.finite
  rw [Json.fold_obj]
  dsimp only
  rw [List.all_map]
  rfl

theorem finite_strs (texts : List String) : (Json.arr (texts.map .str)).finite = true := by
  rw [finite_arr, List.all_map, List.all_eq_true]
  intro text _
  rfl

theorem finite_strOrNull (text : Option String) : (strOrNull text).finite = true := by
  cases text <;> rfl

theorem finite_floatOrNull (x : Option ℚ) : (floatOrNull x).finite = true := by
  cases x <;> rfl

theorem finite_stampOrNull (t : Option Int) : (stampOrNull stamps t).finite = true := by
  cases t <;> rfl

/-- A stored trace has no floats in it. -/
theorem finite_storedTrace (trace : StoredTrace) : trace.toJson.finite = true := by
  cases trace with
  | execution trace =>
      have hflags : (Json.arr (trace.criticFlags.map TraceFlag.toJson)).finite = true := by
        rw [finite_arr, List.all_map, List.all_eq_true]
        intro flag _
        show (flag.toJson).finite = true
        rw [TraceFlag.toJson, finite_obj]
        rfl
      show (ExecutionTrace.toJson trace).finite = true
      rw [ExecutionTrace.toJson, finite_obj]
      simp only [List.all_cons, List.all_nil, finite_strs, hflags, Bool.and_true, Bool.true_and]
      rfl
  | error message errorCode =>
      cases errorCode with
      | none =>
          rw [StoredTrace.toJson, finite_obj]
          rfl
      | some errorCode =>
          rw [StoredTrace.toJson, finite_obj]
          rfl

theorem finite_status (body : InvestigationsApi.InvestigationStatusResponse) :
    (statusBody stamps body).finite = true := by
  have htrace : ((body.executionTrace.map StoredTrace.toJson).getD .null).finite = true := by
    cases body.executionTrace with
    | none => rfl
    | some trace => exact finite_storedTrace trace
  rw [statusBody, finite_obj]
  simp only [List.all_cons, List.all_nil, finite_strs, finite_strOrNull, finite_floatOrNull,
    finite_stampOrNull, htrace, Bool.and_true, Bool.true_and]
  rfl

end Bodies

/-! ### Exceptions -/

section Calls

variable {rt : Runtime} {iso : IsoFormat} {reprs : Json.Reprs} {operation : Operation}
  {response : HttpResponse}

/-- What is raised for an error status, without a word of the body. -/
def statusError (response : HttpResponse) : ApiError where
  errorClass := errorClassOf response.statusCode
  statusCode := response.statusCode
  message := failedMessage response.statusCode
  retryAfter := if response.statusCode = 429 then retryAfterOf response.retryAfter else none

/-- What cannot be read is raised as it is, whatever the status. -/
theorem call_of_unread (hstatus : response.statusCode ∈ httpStatuses) {e : PyError}
    (h : parseResponse rt iso operation.responses response = .error e) :
    call rt iso reprs operation response = .error (.python e) := by
  unfold call
  rw [if_neg (not_not.mpr hstatus), h]

/-- What can be read of an error status is raised without a word of it. -/
theorem call_of_error (hstatus : response.statusCode ∈ httpStatuses)
    (herror : 400 ≤ response.statusCode) {parsed : Parsed}
    (h : parseResponse rt iso operation.responses response = .ok parsed) :
    call rt iso reprs operation response = .error (.api (statusError response)) := by
  have hraise : raiseForStatus reprs response.statusCode .content response.retryAfter =
      .error (statusError response) := by
    unfold raiseForStatus
    rw [if_neg (by omega)]
    rfl
  unfold call
  rw [if_neg (not_not.mpr hstatus), h]
  dsimp only
  rw [hraise]

theorem raiseForStatus_of_ok (hok : response.statusCode < 400) :
    raiseForStatus reprs response.statusCode .content response.retryAfter = .ok () :=
  if_pos hok

/-- What is read as the class of the call is returned. -/
theorem call_of_ok (hstatus : response.statusCode ∈ httpStatuses)
    (hok : response.statusCode < 400) {parsed result : Parsed}
    (h : parseResponse rt iso operation.responses response = .ok parsed)
    (hanswer : operation.answer parsed = some result) :
    call rt iso reprs operation response = .ok result := by
  unfold call
  rw [if_neg (not_not.mpr hstatus), h]
  dsimp only
  rw [raiseForStatus_of_ok hok]
  dsimp only
  rw [hanswer]

/-- The answer of a success is what the call returns, and nothing is no answer. -/
structure Operation.Sound (operation : Operation) : Prop where
  accepts : ∀ (rt : Runtime) (iso : IsoFormat) (response : HttpResponse) reading parsed,
    operation.responses.lookup response.statusCode = some reading → response.statusCode < 400 →
      reading.read rt iso response = .ok parsed → operation.answer parsed = some parsed
  refuses : operation.answer .nothing = none

end Calls

/-! ### The investigation routes -/

section Routes

variable {rt : Runtime} {iso : IsoFormat} {stamps : Stamps iso} {reprs : Json.Reprs}
  {transform : Investigation → Except PyError InvestigationTraceResponse}
  {world : InvestigationsApi.World} {id : Uuid} {state : RequestState} {row : Investigation}

/-- The requester, if there is one, may see the row. -/
def Permitted (state : RequestState) (row : Investigation) : Prop :=
  ∀ user, state.user = some user → Auth.checkOwnerOrRole row.userId user [.admin] = .ok ()

/-- What a call for an investigation comes to. -/
def seen (rt : Runtime) (iso : IsoFormat) (stamps : Stamps iso) (reprs : Json.Reprs)
    (transform : Investigation → Except PyError InvestigationTraceResponse)
    (world : InvestigationsApi.World) (id : Uuid) (state : RequestState) (operation : Operation)
    (endpoint : InvestigationsApi.Endpoint) : Except SdkError Parsed :=
  call rt iso reprs operation
    (answerOf stamps (InvestigationsApi.route rt transform world id state endpoint))

/-- The two calls that read one answer, with the routes they go to. -/
def reads : List (Operation × InvestigationsApi.Endpoint) :=
  [(getInvestigation, .get), (getTrace, .trace)]

theorem eq_of_mem_reads {p : Operation × InvestigationsApi.Endpoint} (h : p ∈ reads) :
    p = (getInvestigation, .get) ∨ p = (getTrace, .trace) := by
  simpa [reads] using h

theorem route_of_absent (habsent : world.investigations id = none)
    (endpoint : InvestigationsApi.Endpoint) :
    InvestigationsApi.route rt transform world id state endpoint = .notFound id := by
  have hauthorized : ∀ answer : Investigation →
      InvestigationsApi.Response (Except PyError InvestigationTraceResponse),
      InvestigationsApi.authorized world id state answer = .notFound id := by
    intro answer
    unfold InvestigationsApi.authorized
    rw [habsent]
  cases endpoint with
  | get => exact hauthorized _
  | trace => exact hauthorized _
  | stream => exact hauthorized _

/-- A requester who is not permitted is refused. -/
theorem authorized_of_forbidden {Trace : Type} (hrow : world.investigations id = some row)
    (hforbidden : ¬ Permitted state row)
    (answer : Investigation → InvestigationsApi.Response Trace) :
    ∃ detail, InvestigationsApi.authorized world id state answer =
      .refused ⟨403, detail, none, none⟩ := by
  unfold Permitted at hforbidden
  push Not at hforbidden
  obtain ⟨user, huser, hcheck⟩ := hforbidden
  unfold InvestigationsApi.authorized
  rw [hrow, huser]
  dsimp only
  unfold Auth.checkOwnerOrRole at hcheck ⊢
  split_ifs at hcheck ⊢
  all_goals first
    | exact absurd rfl hcheck
    | exact ⟨_, rfl⟩

theorem route_of_forbidden (hrow : world.investigations id = some row)
    (hforbidden : ¬ Permitted state row) (endpoint : InvestigationsApi.Endpoint) :
    ∃ detail, InvestigationsApi.route rt transform world id state endpoint =
      .refused ⟨403, detail, none, none⟩ := by
  cases endpoint with
  | get => exact authorized_of_forbidden hrow hforbidden _
  | trace => exact authorized_of_forbidden hrow hforbidden _
  | stream => exact authorized_of_forbidden hrow hforbidden _

theorem authorized_of_permitted {Trace : Type} (hrow : world.investigations id = some row)
    (hpermitted : Permitted state row)
    (answer : Investigation → InvestigationsApi.Response Trace) :
    InvestigationsApi.authorized world id state answer = answer row := by
  unfold InvestigationsApi.authorized
  rw [hrow]
  dsimp only
  cases huser : state.user with
  | none => rfl
  | some user =>
      dsimp only
      rw [hpermitted user huser]

theorem route_trace_of_permitted (hrow : world.investigations id = some row)
    (hpermitted : Permitted state row) :
    InvestigationsApi.route rt transform world id state .trace = .trace (transform row) :=
  authorized_of_permitted hrow hpermitted _

theorem seen_of_absent (habsent : world.investigations id = none) :
    ∀ p ∈ reads, seen rt iso stamps reprs transform world id state p.1 p.2 =
      .error (.api
        { errorClass := .notFound, statusCode := 404, message := failedMessage 404 }) := by
  intro p hp
  have hstatus : 404 ∈ httpStatuses := by decide
  have herror : 400 ≤ 404 := by decide
  unfold seen
  rw [route_of_absent habsent]
  rcases eq_of_mem_reads hp with rfl | rfl
  · exact call_of_error hstatus herror rfl
  · exact call_of_error hstatus herror rfl

/-- A refusal has no code, and that is what is raised. -/
theorem seen_of_forbidden (hrow : world.investigations id = some row)
    (hforbidden : ¬ Permitted state row) :
    ∀ p ∈ reads, seen rt iso stamps reprs transform world id state p.1 p.2 =
      .error (.python (.keyError "error_code")) := by
  intro p hp
  obtain ⟨detail, hroute⟩ :=
    @route_of_forbidden rt transform world id state row hrow hforbidden p.2
  have hstatus : 403 ∈ httpStatuses := by decide
  unfold seen
  rw [hroute]
  rcases eq_of_mem_reads hp with rfl | rfl
  · exact call_of_unread hstatus rfl
  · exact call_of_unread hstatus rfl

/-- A body that can be written is parsed as it is read. -/
theorem parse_okAnswer {operation : Operation} {m : Model} {body : Json} {value : Datum Scalar}
    (hfinite : body.finite = true) (hdocumented : operation.responses.lookup 200 = some (.model m))
    (hread : fromDict rt iso m body = .ok value) :
    parseResponse rt iso operation.responses (okAnswer body) = .ok (.model m.name value) := by
  unfold parseResponse okAnswer
  rw [if_pos hfinite]
  dsimp only
  rw [hdocumented]
  show (fromDict rt iso m body >>= fun value => pure (Parsed.model m.name value)) = _
  rw [hread]
  rfl

theorem call_of_body {operation : Operation} {m : Model} {body : Json} {value : Datum Scalar}
    (hfinite : body.finite = true) (hdocumented : operation.responses.lookup 200 = some (.model m))
    (hanswer : operation.answer = asModel m) (hread : fromDict rt iso m body = .ok value) :
    call rt iso reprs operation (okAnswer body) = .ok (.model m.name value) := by
  have hparse := parse_okAnswer hfinite hdocumented hread
  have hstatus : (okAnswer body).statusCode = 200 := by
    unfold okAnswer
    rw [if_pos hfinite]
  refine call_of_ok (by rw [hstatus]; decide) (by rw [hstatus]; decide) hparse ?_
  rw [hanswer]
  exact if_pos rfl

theorem seen_status (hrow : world.investigations id = some row) (hpermitted : Permitted state row) :
    seen rt iso stamps reprs transform world id state getInvestigation .get =
      .ok (.model "InvestigationStatusResponse" (statusValue row)) := by
  have hroute : InvestigationsApi.route rt transform world id state .get = .status _ :=
    authorized_of_permitted hrow hpermitted _
  unfold seen
  rw [hroute]
  exact call_of_body (finite_status _) rfl rfl (read_status row)

theorem seen_trace (hrow : world.investigations id = some row) (hpermitted : Permitted state row)
    {body : InvestigationTraceResponse} (hbody : transform row = .ok body)
    (hfinite : (traceBody stamps body).finite = true) :
    seen rt iso stamps reprs transform world id state getTrace .trace =
      .ok (.model "InvestigationTraceResponse" (traceValue body)) := by
  unfold seen
  rw [route_trace_of_permitted hrow hpermitted, hbody]
  exact call_of_body hfinite rfl rfl (read_trace body)

/-- A trace that cannot be made or written is an error of the server. -/
theorem seen_failure (hrow : world.investigations id = some row) (hpermitted : Permitted state row)
    (hfailure : ∀ body, transform row = .ok body → (traceBody stamps body).finite = false) :
    seen rt iso stamps reprs transform world id state getTrace .trace =
      .error (.api { errorClass := .server, statusCode := 500, message := failedMessage 500 }) := by
  unfold seen
  rw [route_trace_of_permitted hrow hpermitted]
  cases hbody : transform row with
  | error e =>
      show call rt iso reprs getTrace serverError = _
      exact call_of_error (by decide) (by decide) rfl
  | ok body =>
      have hanswer : okAnswer (traceBody stamps body) = serverError :=
        if_neg (by rw [hfailure body hbody]; decide)
      show call rt iso reprs getTrace (okAnswer (traceBody stamps body)) = _
      rw [hanswer]
      exact call_of_error (by decide) (by decide) rfl

end Routes

/--
**What a caller of `get` and `get_trace` sees.**

Of an investigation that is not there, a `NotFoundError` with the status and not a word of the
answer; of one the requester may not see, no `PermissionDeniedError` but the `KeyError` of reading
the refusal; and of every other one the status as it is stored, and the trace as it was made, node
by node and edge by edge, or a `ServerError` if it could not be made or written.
-/
theorem seen_by_caller (rt : Runtime) (iso : IsoFormat) (stamps : Stamps iso) (reprs : Json.Reprs)
    (text : Anonymization.TextRuntime) (title : String → String) (now : Int)
    (column : Investigation → Json) (world : InvestigationsApi.World) (id : Uuid)
    (state : RequestState) :
    let transform := fun row =>
      TraceTransformer.investigationTraceResponse text title now (tracedRow column row)
    let seen := seen rt iso stamps reprs transform world id state
    (world.investigations id = none → ∀ p ∈ reads, seen p.1 p.2 =
      .error (.api
        { errorClass := .notFound, statusCode := 404, message := failedMessage 404 })) ∧
    ∀ row, world.investigations id = some row →
      (¬ Permitted state row →
        ∀ p ∈ reads, seen p.1 p.2 = .error (.python (.keyError "error_code"))) ∧
      (Permitted state row →
        seen getInvestigation .get =
          .ok (.model "InvestigationStatusResponse" (statusValue row)) ∧
        (∀ body, transform row = .ok body → (traceBody stamps body).finite = true →
          seen getTrace .trace = .ok (.model "InvestigationTraceResponse" (traceValue body))) ∧
        ((∀ body, transform row = .ok body → (traceBody stamps body).finite = false) →
          seen getTrace .trace = .error (.api
            { errorClass := .server, statusCode := 500, message := failedMessage 500 }))) := by
  intro transform seen
  refine ⟨seen_of_absent, fun row hrow => ⟨seen_of_forbidden hrow, fun hpermitted => ?_⟩⟩
  exact ⟨seen_status hrow hpermitted, fun body => seen_trace hrow hpermitted,
    seen_failure hrow hpermitted⟩

/-- Someone with no investigation of their own. -/
def stranger : User where
  id := ⟨"aaaaaaaa-1111-4aaa-8aaa-aaaaaaaa1111", rfl⟩
  role := "user"
  isActive := true
  isVerified := true
  deletedAt := none

/-- A stranger's call for the trace of an investigation that is nobody's. -/
theorem seen_by_stranger :
    seen Runtime.reference sampleIso sampleStamps ⟨id, fun _ => "0.0"⟩
      (fun row => TraceTransformer.investigationTraceResponse Anonymization.asciiRuntime id 0
        (tracedRow (fun _ => .null) row))
      ⟨fun _ => some completedInvestigation, [], true⟩ completedInvestigation.id
      { user := some stranger } getTrace .trace = .error (.python (.keyError "error_code")) :=
  ((seen_by_caller Runtime.reference sampleIso sampleStamps ⟨id, fun _ => "0.0"⟩
      Anonymization.asciiRuntime id 0 (fun _ => .null)
      ⟨fun _ => some completedInvestigation, [], true⟩ completedInvestigation.id
      { user := some stranger }).2 completedInvestigation rfl).1
    (fun hpermitted => by cases hpermitted stranger rfl) (getTrace, .trace) (by simp [reads])

end Sdk

end GaiaOS
