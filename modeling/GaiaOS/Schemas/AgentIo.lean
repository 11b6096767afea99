/-
The records agents, synthesis and the critic exchange, after
`orchestrator/schemas/agent_io.py`, `synthesis.py`, `complexity.py` and
`collaboration.py`.

An identifier is kept as its canonical text, `str(uuid)`, because that text is what
the source uses as a dictionary key and puts on the wire; the field says the text is
canonical, so two identifiers with the same text are the same identifier.
-/
import GaiaOS.Schemas.Uncertainty

namespace GaiaOS

/-- `8-4-4-4-12` lower-case hexadecimal digits. -/
def isCanonicalUuid (text : String) : Bool :=
  text.length == 36 && text.toList.zipIdx.all fun (c, i) =>
    if i == 8 || i == 13 || i == 18 || i == 23 then c == '-'
    else c.isDigit || ('a' ≤ c && c ≤ 'f')

/-- A UUID, by its canonical text. -/
structure Uuid where
  text : String
  canonical : isCanonicalUuid text = true
  deriving DecidableEq

theorem Uuid.ext_text {u v : Uuid} (h : u.text = v.text) : u = v := by
  cases u
  cases v
  simp_all

/--
Conversions the source leaves to Python's library and to pydantic.

They are parameters of everything that uses them; what is relied on is stated as a
field.  `uuidOf` is `uuid.UUID(text)`, with `none` for a `ValueError`; `floatOfStr` and
`intOfStr` are pydantic's reading of a numeric string.
-/
structure Runtime where
  lower : String → String
  strOf : Json → String
  uuidOf : String → Option Uuid
  floatOfStr : String → Option PyFloat
  intOfStr : String → Option Int
  strOf_str : ∀ s, strOf (.str s) = s
  uuidOf_text : ∀ u : Uuid, uuidOf u.text = some u

/-- A runtime for evaluation: ASCII case, canonical identifiers, no numeric strings. -/
def Runtime.reference : Runtime where
  lower := String.toLower
  strOf
    | .str s => s
    | .int n => toString n
    | .bool b => if b then "True" else "False"
    | _ => ""
  uuidOf text := if h : isCanonicalUuid text = true then some ⟨text, h⟩ else none
  floatOfStr _ := none
  intOfStr _ := none
  strOf_str _ := rfl
  uuidOf_text u := dif_pos u.canonical

/-- Pydantic's lax reading of a float field. -/
def Json.asFloat? (rt : Runtime) : Json → Option PyFloat
  | .float x => some x
  | .int n => some (.finite n)
  | .bool b => some (.finite (if b then 1 else 0))
  | .str s => rt.floatOfStr s
  | _ => none

/-- Pydantic's lax reading of an int field: a float is accepted when it is integral. -/
def Json.asInt? (rt : Runtime) : Json → Option Int
  | .int n => some n
  | .bool b => some (if b then 1 else 0)
  | .float (.finite q) => if q.den = 1 then some q.num else none
  | .str s => rt.intOfStr s
  | _ => none

/-- Pydantic's reading of a UUID field. -/
def Json.asUuid? (rt : Runtime) : Json → Option Uuid
  | .str s => rt.uuidOf s
  | _ => none

/-- `Evidence`.  Timestamps count microseconds from the epoch. -/
structure Evidence where
  id : Uuid
  source : String
  claim : String
  uncertainty : UncertaintyEstimate
  retrievedAt : Int
  documentId : Option String
  chunkId : Option (String ⊕ Int)
  title : Option String
  sourceUrl : Option String
  extraMetadata : List (String × Json)
  uncertaintyBounds : Option (ℚ × ℚ)
  assumptions : Option (List String)

/-- The read-only `confidence` property. -/
def Evidence.confidence (e : Evidence) : ℚ := e.uncertainty.pointEstimate

/-- `Evidence(confidence=..., ...)`: a confidence out of range is refused, one in range becomes
an interval.  The identifier and the time are those the defaults draw. -/
def Evidence.ofConfidence (id : Uuid) (retrievedAt : Int) (confidence : ℚ) (source claim : String)
    (documentId : Option String) (chunkId : Option (String ⊕ Int)) (title sourceUrl : Option String)
    (extraMetadata : List (String × Json)) : Except PyError Evidence :=
  if 0 ≤ confidence ∧ confidence ≤ 1 then do
    let uncertainty ← UncertaintyEstimate.fromLegacyConfidence confidence .modelUncertainty
    .ok
      { id, source, claim, uncertainty, retrievedAt, documentId, chunkId, title, sourceUrl,
        extraMetadata, uncertaintyBounds := none, assumptions := none }
  else .error (.validationError "Evidence" "confidence")

section OfConfidence

variable {id : Uuid} {retrievedAt : Int} {confidence : ℚ} {source claim : String}
  {documentId : Option String} {chunkId : Option (String ⊕ Int)} {title sourceUrl : Option String}
  {extraMetadata : List (String × Json)}

/-- A confidence in range always builds the evidence. -/
theorem Evidence.ofConfidence_ok (h0 : 0 ≤ confidence) (h1 : confidence ≤ 1) :
    ∃ e, Evidence.ofConfidence id retrievedAt confidence source claim documentId chunkId title
      sourceUrl extraMetadata = .ok e := by
  obtain ⟨uncertainty, huncertainty, -⟩ :=
    UncertaintyEstimate.fromLegacyConfidence_ok .modelUncertainty h0 h1
  unfold Evidence.ofConfidence
  rw [if_pos ⟨h0, h1⟩, huncertainty]
  exact ⟨_, rfl⟩

/-- The evidence has that confidence, and the fields it was built with. -/
theorem Evidence.of_ofConfidence {e : Evidence}
    (h : Evidence.ofConfidence id retrievedAt confidence source claim documentId chunkId title
      sourceUrl extraMetadata = .ok e) :
    e.confidence = confidence ∧ e.source = source ∧ e.claim = claim ∧
      e.documentId = documentId ∧ e.sourceUrl = sourceUrl ∧ e.extraMetadata = extraMetadata := by
  unfold Evidence.ofConfidence at h
  split at h
  · rename_i hunit
    obtain ⟨uncertainty, huncertainty, hpoint⟩ :=
      UncertaintyEstimate.fromLegacyConfidence_ok .modelUncertainty hunit.1 hunit.2
    rw [huncertainty] at h
    cases h
    exact ⟨hpoint, rfl, rfl, rfl, rfl, rfl⟩
  · cases h

end OfConfidence

/-- `AgentInput`. -/
structure AgentInput where
  investigationId : Uuid
  query : String
  regionHint : Option String
  deriving DecidableEq

/-- `AgentOutput`. -/
structure AgentOutput where
  agentName : String
  evidence : List Evidence
  errors : List String

/-- `ComplexityTier`. -/
inductive ComplexityTier
  | trivial
  | moderate
  | complex
  deriving DecidableEq, Repr

/-- `CollaborationMessage`. -/
structure CollaborationMessage where
  fromAgent : String
  findingSummary : String
  uncertainty : UncertaintyEstimate
  suggestedRefinement : Option (List (String × Json))
  round : Nat

/-- `RawCitedEvidence`: one citation as the model wrote it. -/
structure RawCitedEvidence where
  evidenceId : Option Uuid
  source : String
  claim : String
  confidence : ℚ

inductive ClaimType
  | singleDomain
  | crossDomainPattern
  deriving DecidableEq, Repr

/-- `SynthesizedClaim`. -/
structure SynthesizedClaim where
  text : String
  claimType : ClaimType
  supportingEvidence : List Evidence
  uncertainty : UncertaintyEstimate
  uncertaintyBounds : Option (ℚ × ℚ)
  assumptions : Option (List String)

namespace SynthesizedClaim

/-- The read-only `confidence` property. -/
def confidence (c : SynthesizedClaim) : ℚ := c.uncertainty.pointEstimate

/-- `SynthesizedClaim(confidence=..., ...)`: the legacy scalar becomes an interval. -/
def ofConfidence (confidence : ℚ) (text : String) (claimType : ClaimType)
    (supportingEvidence : List Evidence) (uncertaintyBounds : Option (ℚ × ℚ))
    (assumptions : Option (List String)) : Except PyError SynthesizedClaim :=
  if 0 ≤ confidence ∧ confidence ≤ 1 then do
    let uncertainty ← UncertaintyEstimate.fromLegacyConfidence confidence .modelUncertainty
    return { text, claimType, supportingEvidence, uncertainty, uncertaintyBounds, assumptions }
  else .error (.validationError "SynthesizedClaim" "confidence")

/-- A confidence in range always builds the claim, with that confidence and these citations. -/
theorem ofConfidence_ok {confidence : ℚ} (h0 : 0 ≤ confidence) (h1 : confidence ≤ 1)
    (text : String) (claimType : ClaimType) (evidence : List Evidence)
    (bounds : Option (ℚ × ℚ)) (assumptions : Option (List String)) :
    ∃ c, ofConfidence confidence text claimType evidence bounds assumptions = .ok c ∧
      c.text = text ∧ c.claimType = claimType ∧ c.supportingEvidence = evidence ∧
      c.confidence = confidence := by
  obtain ⟨u, hu, hpt⟩ := UncertaintyEstimate.fromLegacyConfidence_ok .modelUncertainty h0 h1
  refine ⟨⟨text, claimType, evidence, u, bounds, assumptions⟩, ?_, rfl, rfl, rfl, hpt⟩
  unfold ofConfidence
  rw [if_pos ⟨h0, h1⟩, hu]
  rfl

end SynthesizedClaim

/-- `SynthesisOutput`. -/
structure SynthesisOutput where
  claims : List SynthesizedClaim
  evidenceGaps : List String

inductive Severity
  | low
  | medium
  | high
  deriving DecidableEq, Repr

/-- `CriticFlag`. -/
structure CriticFlag where
  claimText : String
  flaggedReason : String
  severity : Severity
  flaggedDomains : Option (List String)
  deriving DecidableEq

end GaiaOS
