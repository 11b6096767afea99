/-
Mapping citations back to gathered evidence, after
`orchestrator/agents/synthesis/citation_mapper.py`.

The mapper is built once per synthesis from the agents' outputs: the pool of evidence,
the agent each identifier came from, an index by identifier and an index by normalised
text.  A lookup also advances the telemetry counters, so it returns the mapper it leaves
behind along with the match.
-/
import GaiaOS.Lib.Dict
import GaiaOS.Schemas.AgentIo
import Mathlib.Data.List.Dedup

namespace GaiaOS

/-- The telemetry counters of a mapper. -/
structure CitationCounters where
  totalCitations : Nat := 0
  matchedById : Nat := 0
  matchedByTextFallback : Nat := 0
  citationMissingId : Nat := 0
  citationAmbiguousFallback : Nat := 0
  deriving DecidableEq, Repr

/-- `CitationMapper`. -/
structure CitationMapper where
  evidencePool : List Evidence
  evidenceDomainMap : Dict String String
  idIndex : Dict String Evidence
  textIndex : Dict (String × String) (List Evidence)
  counters : CitationCounters

/-- `_normalize_text`: drop whitespace, then lower the case. -/
def normalizeText (rt : Runtime) (text : String) : String :=
  if text = "" then "" else rt.lower (String.ofList (text.toList.filter fun c => !isPySpace c))

/-- The key of the text index. -/
def textKey (rt : Runtime) (source claim : String) : String × String :=
  (normalizeText rt source, normalizeText rt claim)

/-- Every evidence item of every output, in order. -/
def gatheredEvidence (outputs : List AgentOutput) : List Evidence :=
  outputs.flatMap (·.evidence)

/-- An evidence item as a citation of itself. -/
def Evidence.asCitation (e : Evidence) : RawCitedEvidence :=
  ⟨some e.id, e.source, e.claim, e.confidence⟩

namespace CitationMapper

/-- `citation_fallback_rate`: the share of lookups that the text answered. -/
def citationFallbackRate (m : CitationMapper) : ℚ :=
  if m.counters.totalCitations = 0 then 0
  else (m.counters.matchedByTextFallback : ℚ) / m.counters.totalCitations

/-- `CitationMapper.__init__`.  A UUID is always truthy, so every item is indexed. -/
def init (rt : Runtime) (gatheredOutputs : List AgentOutput) : CitationMapper where
  evidencePool := gatheredEvidence gatheredOutputs
  evidenceDomainMap := Dict.ofPairs
    (gatheredOutputs.flatMap fun output => output.evidence.map fun e => (e.id.text, output.agentName))
  idIndex := Dict.ofPairs ((gatheredEvidence gatheredOutputs).map fun e => (e.id.text, e))
  textIndex := Dict.group
    ((gatheredEvidence gatheredOutputs).map fun e => (textKey rt e.source e.claim, e))
  counters := {}

/-- The source names `get_cited_domains` falls back on. -/
def knownSources : List String :=
  ["usgs", "noaa", "openaq", "open-meteo", "firms", "rag", "causal", "seismic", "ocean",
    "wildfire", "atmosphere", "air_quality", "simulation"]

/-- The domain one citation counts for: the agent that gathered it, else what its metadata
or its source text suggest, else nothing. -/
def citedDomain (rt : Runtime) (m : CitationMapper) (ev : Evidence) : Option String :=
  match m.evidenceDomainMap.get? ev.id.text with
  | some domain => some domain
  | none =>
      match Json.field? ev.extraMetadata "domain" with
      | some domain =>
          if domain.truthy then some (rt.strOf domain) else fromSource ev
      | none => fromSource ev
where
  fromSource (ev : Evidence) : Option String :=
    if ev.source = "" then none
    else (knownSources.find? fun known => pyIn known (rt.lower ev.source)).orElse
      fun _ => some ev.source

/-- `get_cited_domains`: the set of domains, as a list without repetitions. -/
def getCitedDomains (rt : Runtime) (m : CitationMapper) (claim : SynthesizedClaim) : List String :=
  (claim.supportingEvidence.filterMap (m.citedDomain rt)).dedup

/-- `_find_matching_evidence_fields`: by identifier first, then by unambiguous text. -/
def findMatchingEvidenceFields (rt : Runtime) (m : CitationMapper) (evidenceId : Option Uuid)
    (source claim : String) : Option Evidence × CitationMapper :=
  let counters := { m.counters with totalCitations := m.counters.totalCitations + 1 }
  match evidenceId.bind fun id => m.idIndex.get? id.text with
  | some found =>
      (some found, { m with counters := { counters with matchedById := counters.matchedById + 1 } })
  | none =>
      let counters := { counters with citationMissingId := counters.citationMissingId + 1 }
      match (m.textIndex.get? (textKey rt source claim)).getD [] with
      | [found] =>
          (some found, { m with counters :=
            { counters with matchedByTextFallback := counters.matchedByTextFallback + 1 } })
      | [] => (none, { m with counters := counters })
      | _ :: _ :: _ =>
          (none, { m with counters :=
            { counters with citationAmbiguousFallback := counters.citationAmbiguousFallback + 1 } })

/-- `_find_matching_evidence`. -/
def findMatchingEvidence (rt : Runtime) (m : CitationMapper) (cited : RawCitedEvidence) :
    Option Evidence × CitationMapper :=
  m.findMatchingEvidenceFields rt cited.evidenceId cited.source cited.claim

/-- The loop of `map_citations`, which gives up at the first citation without a match. -/
def mapCitationsLoop (rt : Runtime) :
    CitationMapper → List RawCitedEvidence → Option (List Evidence) × CitationMapper
  | m, [] => (some [], m)
  | m, cited :: rest =>
      match m.findMatchingEvidence rt cited with
      | (none, m') => (none, m')
      | (some found, m') =>
          match mapCitationsLoop rt m' rest with
          | (none, m'') => (none, m'')
          | (some verified, m'') => (some (found :: verified), m'')

/-- `map_citations`: a claim without citations, or with one that has no match, maps to `None`. -/
def mapCitations (rt : Runtime) (m : CitationMapper) (citations : List RawCitedEvidence) :
    Option (List Evidence) × CitationMapper :=
  if citations.isEmpty then (none, m) else m.mapCitationsLoop rt citations

/-- `_verify_evidence_pool_membership`: the loop of `map_citations` over finished items. -/
def verifyEvidencePoolMembership (rt : Runtime) (m : CitationMapper) (evidenceList : List Evidence) :
    Option (List Evidence) × CitationMapper :=
  m.mapCitations rt (evidenceList.map Evidence.asCitation)

/-- `validate_claim`: the verdict, and the claim with its evidence replaced by the pool's own. -/
def validateClaim (rt : Runtime) (m : CitationMapper) (claim : SynthesizedClaim) :
    Bool × SynthesizedClaim × CitationMapper :=
  if claim.supportingEvidence.isEmpty then (false, claim, m)
  else
    match m.verifyEvidencePoolMembership rt claim.supportingEvidence with
    | (none, m') => (false, claim, m')
    | (some verified, m') => (true, { claim with supportingEvidence := verified }, m')

end CitationMapper

end GaiaOS
