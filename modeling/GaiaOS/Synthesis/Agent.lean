/-
The synthesis agent, after `orchestrator/agents/synthesis/agent.py`.

`synthesize` has three exits.  With no evidence at all it returns one claim that says
so.  When the model cannot be asked or its answer is not JSON, every evidence item
becomes a claim of its own.  Otherwise the answer is walked claim by claim: citations
are read, mapped back to gathered evidence, and the claim is built from the mapped
evidence and rejected if it cites too few domains for its type.

The answer is arbitrary JSON and the code does not check its shape, so reading it can
raise at many points; those are the `Except`s below.  The model's answer enters as
`reply`, which is an error when the query or `json.loads` raised.  Prompts are not
modelled: what comes back is unconstrained whatever was asked.
-/
import GaiaOS.Synthesis.CitationMapper
import GaiaOS.Synthesis.UncertaintyPropagation

namespace GaiaOS

/-- `RawCitedEvidence(...)`: two strings and a confidence in `[0, 1]`. -/
def RawCitedEvidence.new (rt : Runtime) (evidenceId : Option Uuid) (source claim confidence : Json) :
    Except PyError RawCitedEvidence :=
  match source.asStr?, claim.asStr?, confidence.asFloat? rt with
  | some source, some claim, some (.finite q) =>
      if 0 ≤ q ∧ q ≤ 1 then .ok ⟨evidenceId, source, claim, q⟩
      else .error (.validationError "RawCitedEvidence" "confidence")
  | some _, some _, _ => .error (.validationError "RawCitedEvidence" "confidence")
  | some _, none, _ => .error (.validationError "RawCitedEvidence" "claim")
  | none, _, _ => .error (.validationError "RawCitedEvidence" "source")

/-- One entry of `supporting_evidence` in the model's answer. -/
def readCitation (rt : Runtime) (c : Json) : Except PyError RawCitedEvidence := do
  let evidenceId ← c.getD "evidence_id" .null
  let id ← c.getD "id" .null
  let rawId := evidenceId.pyOr id
  let parsedUuid := if rawId.truthy then rt.uuidOf (rt.strOf rawId) else none
  let source ← c.getItem "source"
  let claim ← c.getItem "claim"
  let confidence ← c.getD "confidence" (.float (.finite 1))
  RawCitedEvidence.new rt parsedUuid source claim confidence

/-- The explicit bounds of the last cited item that has them. -/
def lastBounds (verified : List Evidence) : Option (ℚ × ℚ) :=
  verified.foldl (fun acc ev => ev.uncertaintyBounds.orElse fun _ => acc) none

/-- The assumptions of the last cited item that has some. -/
def lastAssumptions (verified : List Evidence) : Option (List String) :=
  verified.foldl (fun acc ev =>
    match ev.assumptions with
    | some (a :: as) => some (a :: as)
    | _ => acc) none

/-- `raw_claim.get("claim_type", "single_domain")`, with anything unknown read as the default. -/
def readClaimType (raw : Json) : ClaimType :=
  match raw with
  | .str "cross_domain_pattern" => .crossDomainPattern
  | _ => .singleDomain

/-- `SynthesizedClaim(text=..., ...)`: the text has to be a string. -/
def buildClaim (text : Json) (claimType : ClaimType) (verified : List Evidence)
    (uncertainty : UncertaintyEstimate) : Except PyError SynthesizedClaim :=
  match text.asStr? with
  | none => .error (.validationError "SynthesizedClaim" "text")
  | some text => .ok
      { text, claimType, uncertainty
        supportingEvidence := verified
        uncertaintyBounds := some ((lastBounds verified).getD
          (uncertainty.lowerBound, uncertainty.upperBound))
        assumptions := lastAssumptions verified }

/-- One claim of the answer: rejected (`none`), accepted, or malformed. -/
def readClaim (rt : Runtime) (minCrossDomainEvidence : Int) (m : CitationMapper) (rawClaim : Json) :
    Except PyError (Option SynthesizedClaim × CitationMapper) := do
  let entries ← (← rawClaim.getD "supporting_evidence" (.arr [])).iter
  let citations ← entries.mapM (readCitation rt)
  match m.mapCitations rt citations with
  | (none, m') => do
      -- the log line of a rejected claim reads its text
      let _ ← rawClaim.getItem "text"
      return (none, m')
  | (some verified, m') => do
      let uncertainty ← propagateUncertainty (verified.map (·.uncertainty))
      let claimType := readClaimType (← rawClaim.getD "claim_type" (.str "single_domain"))
      let candidate ← buildClaim (← rawClaim.getItem "text") claimType verified uncertainty
      if candidate.claimType = .crossDomainPattern ∧
          ((m'.getCitedDomains rt candidate).length : Int) < minCrossDomainEvidence then
        return (none, m')
      else
        return (some candidate, m')

/-- The loop over the answer's claims, keeping the accepted ones. -/
def readClaims (rt : Runtime) (minCrossDomainEvidence : Int) :
    CitationMapper → List Json → Except PyError (List SynthesizedClaim)
  | _, [] => .ok []
  | m, rawClaim :: rest => do
      let (claim, m') ← readClaim rt minCrossDomainEvidence m rawClaim
      let claims ← readClaims rt minCrossDomainEvidence m' rest
      return claim.toList ++ claims

/-- The claim of an empty pool. -/
def emptyPoolText : String := "Unable to gather sufficient evidence to answer the query."

/-- The claim that replaces an answer of which nothing was accepted. -/
def nothingSupportedText : String :=
  "Unable to gather sufficient evidence to support any synthesized claims."

/-- A claim that cites nothing, at confidence zero. -/
def noEvidenceClaim (text : String) : Except PyError SynthesizedClaim :=
  SynthesizedClaim.ofConfidence 0 text .singleDomain [] none none

/-- The claim an evidence item becomes when the model is of no help. -/
def localClaim (ev : Evidence) : Except PyError SynthesizedClaim :=
  SynthesizedClaim.ofConfidence ev.confidence ev.claim .singleDomain [ev] ev.uncertaintyBounds
    ev.assumptions

/-- `synthesize`. -/
def synthesize (rt : Runtime) (minCrossDomainEvidence : Int) (reply : Except PyError Json)
    (evidence : List AgentOutput) : Except PyError SynthesisOutput := do
  let allEvidence := gatheredEvidence evidence
  let evidenceGaps := (evidence.filter (·.evidence.isEmpty)).map (·.agentName)
  if allEvidence.isEmpty then
    return ⟨[← noEvidenceClaim emptyPoolText], evidenceGaps⟩
  match reply with
  | .error _ => do
      return ⟨← allEvidence.mapM localClaim, evidenceGaps⟩
  | .ok parsed => do
      let rawClaims ← (← parsed.getD "claims" (.arr [])).iter
      let claims ← readClaims rt minCrossDomainEvidence (CitationMapper.init rt evidence) rawClaims
      if claims.isEmpty then
        return ⟨[← noEvidenceClaim nothingSupportedText], evidenceGaps⟩
      else
        return ⟨claims, evidenceGaps⟩

end GaiaOS
