/-
Every claim of a synthesis cites gathered evidence.

The model's answer is untrusted: it may cite by identifier, by text, or invent.  What
keeps the result honest is that an accepted citation is never the model's own record
but an item the mapper found in the pool, so its fields are those the agents gathered.

The argument follows the code outwards.  A lookup that succeeds returns a pool item and
leaves the indexes alone (`find_spec`); the citation loop therefore returns pool items,
one for each citation (`mapCitations_spec`); and a claim that survives `readClaim` is
`Grounded`: it cites something, all of it gathered, from enough agents for its type, and
its uncertainty is the combination of exactly what it cites.

Which agent gathered an item is looked up by its identifier, so counting agents needs
identifiers to be distinct across the pool; that is the only place they matter.
-/
import GaiaOS.Synthesis.Agent
import GaiaOS.Proofs.UncertaintyPropagation

namespace GaiaOS

/-- The evidence identifiers of a list of outputs are pairwise distinct. -/
def DistinctIds (outputs : List AgentOutput) : Prop :=
  ((gatheredEvidence outputs).map (·.id)).Nodup

theorem mem_gatheredEvidence {outputs : List AgentOutput} {e : Evidence} :
    e ∈ gatheredEvidence outputs ↔ ∃ o ∈ outputs, e ∈ o.evidence := by
  simp [gatheredEvidence]

/-- What a claim accepted from the model's answer satisfies. -/
structure Grounded (outputs : List AgentOutput) (minCross : Int) (c : SynthesizedClaim) : Prop where
  /-- It cites something. -/
  cited : c.supportingEvidence ≠ []
  /-- Every citation is an item some agent gathered, unchanged. -/
  gathered : ∀ e ∈ c.supportingEvidence, ∃ o ∈ outputs, e ∈ o.evidence
  /-- A cross-domain pattern cites items of at least `minCross` different agents. -/
  domains : c.claimType = .crossDomainPattern →
    ∃ names : List String, names.Nodup ∧ minCross ≤ names.length ∧
      ∀ n ∈ names, ∃ o ∈ outputs, o.agentName = n ∧ ∃ e ∈ c.supportingEvidence, e ∈ o.evidence
  /-- Its uncertainty is the combination of exactly what it cites. -/
  combined : propagateUncertainty (c.supportingEvidence.map (·.uncertainty)) = .ok c.uncertainty

/-! ### A lookup returns a pool item -/

/-- The mapper is the one built from `outputs`, up to its counters. -/
structure IndexesOf (rt : Runtime) (outputs : List AgentOutput) (m : CitationMapper) : Prop where
  domainMap : m.evidenceDomainMap = (CitationMapper.init rt outputs).evidenceDomainMap
  byId : m.idIndex = (CitationMapper.init rt outputs).idIndex
  byText : m.textIndex = (CitationMapper.init rt outputs).textIndex

section Lookup

variable {rt : Runtime} {outputs : List AgentOutput} {m : CitationMapper}

theorem idIndex_mem {key : String} {e : Evidence}
    (h : (CitationMapper.init rt outputs).idIndex.get? key = some e) :
    e ∈ gatheredEvidence outputs := by
  have hmem := Dict.mem_of_get?_ofPairs h
  simp only [List.mem_map, Prod.mk.injEq] at hmem
  obtain ⟨e', he', -, rfl⟩ := hmem
  exact he'

theorem textIndex_mem (rt : Runtime) (key : String × String) {e : Evidence}
    (h : e ∈ ((CitationMapper.init rt outputs).textIndex.get? key).getD []) :
    e ∈ gatheredEvidence outputs := by
  have hget := Dict.get?_group_getD
    ((gatheredEvidence outputs).map fun e => (textKey rt e.source e.claim, e)) key
  rw [show (CitationMapper.init rt outputs).textIndex = Dict.group
    ((gatheredEvidence outputs).map fun e => (textKey rt e.source e.claim, e)) from rfl, hget] at h
  simp only [List.mem_map, List.mem_filter] at h
  obtain ⟨p, ⟨⟨e', he', rfl⟩, -⟩, rfl⟩ := h
  exact he'

/-- The lookup: what it finds was gathered, and the indexes stay as they were. -/
theorem find_spec (hm : IndexesOf rt outputs m) (id : Option Uuid) (source claim : String) :
    IndexesOf rt outputs (m.findMatchingEvidenceFields rt id source claim).2 ∧
      ∀ e, (m.findMatchingEvidenceFields rt id source claim).1 = some e →
        e ∈ gatheredEvidence outputs := by
  unfold CitationMapper.findMatchingEvidenceFields
  simp only
  split
  · rename_i found hfound
    refine ⟨⟨hm.domainMap, hm.byId, hm.byText⟩, ?_⟩
    intro e he
    obtain ⟨u, -, hget⟩ := Option.bind_eq_some_iff.mp hfound
    rw [hm.byId] at hget
    rw [← Option.some.inj he]
    exact idIndex_mem hget
  · split
    · rename_i found hfound
      refine ⟨⟨hm.domainMap, hm.byId, hm.byText⟩, ?_⟩
      intro e he
      rw [← Option.some.inj he]
      refine textIndex_mem rt (textKey rt source claim) ?_
      rw [← hm.byText, hfound]
      exact List.mem_singleton.mpr rfl
    · exact ⟨⟨hm.domainMap, hm.byId, hm.byText⟩, fun e he => by cases he⟩
    · exact ⟨⟨hm.domainMap, hm.byId, hm.byText⟩, fun e he => by cases he⟩

/-! ### The citation loop -/

theorem mapCitationsLoop_spec (citations : List RawCitedEvidence) :
    ∀ {m : CitationMapper}, IndexesOf rt outputs m →
      IndexesOf rt outputs (m.mapCitationsLoop rt citations).2 ∧
      ∀ verified, (m.mapCitationsLoop rt citations).1 = some verified →
        verified.length = citations.length ∧ ∀ e ∈ verified, e ∈ gatheredEvidence outputs := by
  induction citations with
  | nil =>
      intro m hm
      refine ⟨hm, ?_⟩
      intro verified hv
      rw [← Option.some.inj hv]
      exact ⟨rfl, by simp⟩
  | cons cited rest ih =>
      intro m hm
      obtain ⟨hidx, hfound⟩ := find_spec hm cited.evidenceId cited.source cited.claim
      have hfind : m.findMatchingEvidence rt cited
          = m.findMatchingEvidenceFields rt cited.evidenceId cited.source cited.claim := rfl
      rw [← hfind] at hidx hfound
      rw [CitationMapper.mapCitationsLoop]
      rcases hres : m.findMatchingEvidence rt cited with ⟨_ | found, m'⟩
      · rw [hres] at hidx
        exact ⟨hidx, fun verified hv => by cases hv⟩
      · rw [hres] at hidx hfound
        obtain ⟨hidx', hrest⟩ := ih hidx
        simp only
        rcases hloop : m'.mapCitationsLoop rt rest with ⟨_ | tail, m''⟩
        · rw [hloop] at hidx'
          exact ⟨hidx', fun verified hv => by cases hv⟩
        · rw [hloop] at hidx' hrest
          obtain ⟨hlen, hmem⟩ := hrest tail rfl
          refine ⟨hidx', ?_⟩
          intro verified hv
          rw [← Option.some.inj hv]
          refine ⟨by simp [hlen], ?_⟩
          intro e he
          rcases List.mem_cons.mp he with rfl | htail
          · exact hfound e rfl
          · exact hmem e htail

/-- An accepted citation list maps to as many gathered items, and to at least one. -/
theorem mapCitations_spec (hm : IndexesOf rt outputs m) (citations : List RawCitedEvidence) :
    IndexesOf rt outputs (m.mapCitations rt citations).2 ∧
      ∀ verified, (m.mapCitations rt citations).1 = some verified →
        verified ≠ [] ∧ ∀ e ∈ verified, e ∈ gatheredEvidence outputs := by
  unfold CitationMapper.mapCitations
  by_cases hempty : citations.isEmpty = true
  · rw [if_pos hempty]
    exact ⟨hm, fun verified hv => by cases hv⟩
  · rw [if_neg hempty]
    obtain ⟨hidx, hspec⟩ := mapCitationsLoop_spec citations hm
    refine ⟨hidx, ?_⟩
    intro verified hv
    obtain ⟨hlen, hmem⟩ := hspec verified hv
    refine ⟨?_, hmem⟩
    intro hnil
    rw [hnil] at hlen
    exact hempty (by rw [List.isEmpty_iff]; exact List.eq_nil_of_length_eq_zero hlen.symm)

/-! ### Which agents a claim cites -/

/-- With distinct identifiers the domain of a gathered item is the agent that gathered it. -/
theorem citedDomain_eq (hids : DistinctIds outputs) (hm : IndexesOf rt outputs m) {e : Evidence}
    (he : e ∈ gatheredEvidence outputs) {domain : String} (hd : m.citedDomain rt e = some domain) :
    ∃ o ∈ outputs, o.agentName = domain ∧ e ∈ o.evidence := by
  set ps := outputs.flatMap fun output => output.evidence.map fun e => (e.id.text, output.agentName)
    with hps
  have hmap : m.evidenceDomainMap = Dict.ofPairs ps := hm.domainMap
  obtain ⟨o, ho, heo⟩ := mem_gatheredEvidence.mp he
  have hkey : e.id.text ∈ ps.map Prod.fst := by
    refine List.mem_map.mpr ⟨(e.id.text, o.agentName), ?_, rfl⟩
    exact List.mem_flatMap.mpr ⟨o, ho, List.mem_map.mpr ⟨e, heo, rfl⟩⟩
  obtain ⟨found, hfound⟩ := Option.isSome_iff_exists.mp (Dict.get?_ofPairs_isSome hkey)
  unfold CitationMapper.citedDomain at hd
  rw [hmap, hfound] at hd
  rw [← Option.some.inj hd]
  obtain ⟨o', ho', hpair⟩ := List.mem_flatMap.mp (Dict.mem_of_get?_ofPairs hfound)
  obtain ⟨e', he', heq⟩ := List.mem_map.mp hpair
  obtain ⟨htext, hname⟩ := Prod.mk.inj heq
  -- the item stored under this identifier is this item
  have hsame : e' = e :=
    List.inj_on_of_nodup_map hids (mem_gatheredEvidence.mpr ⟨o', ho', he'⟩) he (Uuid.ext_text htext)
  exact ⟨o', ho', hname, by rw [← hsame]; exact he'⟩

end Lookup

/-! ### One claim of the answer -/

theorem buildClaim_eq {text : Json} {claimType : ClaimType} {verified : List Evidence}
    {uncertainty : UncertaintyEstimate} {c : SynthesizedClaim}
    (h : buildClaim text claimType verified uncertainty = .ok c) :
    c.supportingEvidence = verified ∧ c.uncertainty = uncertainty := by
  unfold buildClaim at h
  split at h
  · exact absurd h (by simp)
  · rw [← Except.ok.inj h]
    exact ⟨rfl, rfl⟩

theorem readClaim_spec {rt : Runtime} {outputs : List AgentOutput} (hids : DistinctIds outputs)
    {minCross : Int} {m m' : CitationMapper} (hm : IndexesOf rt outputs m) {rawClaim : Json}
    {result : Option SynthesizedClaim}
    (h : readClaim rt minCross m rawClaim = .ok (result, m')) :
    IndexesOf rt outputs m' ∧ ∀ c, result = some c → Grounded outputs minCross c := by
  unfold readClaim at h
  obtain ⟨supporting, -, h⟩ := ok_of_bind h
  obtain ⟨entries, -, h⟩ := ok_of_bind h
  obtain ⟨citations, -, h⟩ := ok_of_bind h
  obtain ⟨hidx, hverified⟩ := mapCitations_spec hm citations
  rcases hres : m.mapCitations rt citations with ⟨_ | verified, m''⟩
  · rw [hres] at h hidx
    obtain ⟨text, -, h⟩ := ok_of_bind h
    obtain ⟨rfl, rfl⟩ := Prod.mk.inj (Except.ok.inj h)
    exact ⟨hidx, fun c hc => by cases hc⟩
  · rw [hres] at h hidx hverified
    obtain ⟨hne, hmem⟩ := hverified verified rfl
    obtain ⟨uncertainty, hu, h⟩ := ok_of_bind h
    obtain ⟨rawType, -, h⟩ := ok_of_bind h
    obtain ⟨text, -, h⟩ := ok_of_bind h
    obtain ⟨candidate, hbuild, h⟩ := ok_of_bind h
    obtain ⟨hevidence, huncertainty⟩ := buildClaim_eq hbuild
    split at h
    · obtain ⟨rfl, rfl⟩ := Prod.mk.inj (Except.ok.inj h)
      exact ⟨hidx, fun c hc => by cases hc⟩
    · rename_i hgate
      obtain ⟨rfl, rfl⟩ := Prod.mk.inj (Except.ok.inj h)
      refine ⟨hidx, ?_⟩
      intro c hc
      rw [← Option.some.inj hc]
      refine ⟨?_, ?_, ?_, ?_⟩
      · rw [hevidence]; exact hne
      · intro e he
        rw [hevidence] at he
        exact mem_gatheredEvidence.mp (hmem e he)
      · intro htype
        refine ⟨m''.getCitedDomains rt candidate, List.nodup_dedup _, ?_, ?_⟩
        · by_contra hlt
          exact hgate ⟨htype, not_le.mp hlt⟩
        · intro n hn
          rw [CitationMapper.getCitedDomains, List.mem_dedup, List.mem_filterMap] at hn
          obtain ⟨e, he, hdomain⟩ := hn
          have hgathered : e ∈ gatheredEvidence outputs := hmem e (by rw [← hevidence]; exact he)
          obtain ⟨o, ho, hname, heo⟩ := citedDomain_eq hids hidx hgathered hdomain
          exact ⟨o, ho, hname, e, he, heo⟩
      · rw [hevidence, huncertainty]
        exact hu

theorem readClaims_spec {rt : Runtime} {outputs : List AgentOutput} (hids : DistinctIds outputs)
    {minCross : Int} (rawClaims : List Json) :
    ∀ {m : CitationMapper}, IndexesOf rt outputs m → ∀ {claims : List SynthesizedClaim},
      readClaims rt minCross m rawClaims = .ok claims →
      ∀ c ∈ claims, Grounded outputs minCross c := by
  induction rawClaims with
  | nil =>
      intro m _ claims h
      rw [← Except.ok.inj h]
      simp
  | cons rawClaim rest ih =>
      intro m hm claims h
      rw [readClaims] at h
      obtain ⟨⟨result, m'⟩, hread, h⟩ := ok_of_bind h
      obtain ⟨tail, htail, h⟩ := ok_of_bind h
      obtain ⟨hidx, hgrounded⟩ := readClaim_spec hids hm hread
      rw [← Except.ok.inj h]
      intro c hc
      rcases List.mem_append.mp hc with hhead | hrest
      · exact hgrounded c (by simpa using hhead)
      · exact ih hidx htail c hrest

/-! ### The three exits -/

/-- The claim of either fallback cites nothing and has confidence zero. -/
theorem noEvidenceClaim_spec {text : String} {c : SynthesizedClaim}
    (h : noEvidenceClaim text = .ok c) :
    c.text = text ∧ c.supportingEvidence = [] ∧ c.confidence = 0 := by
  obtain ⟨c', hc', htext, -, hevidence, hconf⟩ := SynthesizedClaim.ofConfidence_ok
    (le_refl (0 : ℚ)) zero_le_one text .singleDomain [] none none
  have heq : noEvidenceClaim text = .ok c' := hc'
  rw [heq] at h
  rw [← Except.ok.inj h]
  exact ⟨htext, hevidence, hconf⟩

theorem localClaim_spec {ev : Evidence} {c : SynthesizedClaim} (h : localClaim ev = .ok c) :
    c.supportingEvidence = [ev] ∧ c.claimType = .singleDomain := by
  have h0 : 0 ≤ ev.confidence := le_trans ev.uncertainty.lower_nonneg ev.uncertainty.lower_le_point
  have h1 : ev.confidence ≤ 1 := le_trans ev.uncertainty.point_le_upper ev.uncertainty.upper_le_one
  obtain ⟨c', hc', -, htype, hevidence, -⟩ := SynthesizedClaim.ofConfidence_ok h0 h1 ev.claim
    .singleDomain [ev] ev.uncertaintyBounds ev.assumptions
  have heq : localClaim ev = .ok c' := hc'
  rw [heq] at h
  rw [← Except.ok.inj h]
  exact ⟨hevidence, htype⟩

theorem localClaims_spec (evidence : List Evidence) :
    ∀ {claims : List SynthesizedClaim}, evidence.mapM localClaim = .ok claims →
      ∀ c ∈ claims, ∃ ev ∈ evidence, c.supportingEvidence = [ev] ∧ c.claimType = .singleDomain := by
  induction evidence with
  | nil =>
      intro claims h
      rw [← Except.ok.inj h]
      simp
  | cons ev rest ih =>
      intro claims h
      rw [List.mapM_cons] at h
      obtain ⟨first, hfirst, h⟩ := ok_of_bind h
      obtain ⟨tail, htail, h⟩ := ok_of_bind h
      rw [← Except.ok.inj h]
      intro c hc
      rcases List.mem_cons.mp hc with rfl | hrest
      · exact ⟨ev, by simp, localClaim_spec hfirst⟩
      · obtain ⟨ev', hev', hspec⟩ := ih htail c hrest
        exact ⟨ev', by simp [hev'], hspec⟩

/-- A claim that says nothing was found: no citations, confidence zero. -/
def IsNoEvidence (c : SynthesizedClaim) : Prop :=
  (c.text = emptyPoolText ∨ c.text = nothingSupportedText) ∧
    c.supportingEvidence = [] ∧ c.confidence = 0

/--
**Citation integrity of synthesis.**

Whatever the model answers, when synthesis returns, each returned claim is either the
one no-evidence claim or cites at least one item and only items the agents gathered, from
enough agents if it claims a cross-domain pattern; and a claim built from the model's
answer has the combined uncertainty of what it cites, so its interval covers every cited
item's.
-/
theorem synthesize_citation_integrity (rt : Runtime) (minCross : Int)
    (reply : Except PyError Json) (outputs : List AgentOutput) (hids : DistinctIds outputs)
    (out : SynthesisOutput) (h : synthesize rt minCross reply outputs = .ok out) :
    ∀ c ∈ out.claims,
      (out.claims = [c] ∧ IsNoEvidence c) ∨
      (c.supportingEvidence ≠ [] ∧
        (∀ e ∈ c.supportingEvidence, ∃ o ∈ outputs, e ∈ o.evidence) ∧
        (c.claimType = .crossDomainPattern →
          ∃ names : List String, names.Nodup ∧ minCross ≤ names.length ∧
            ∀ n ∈ names, ∃ o ∈ outputs, o.agentName = n ∧
              ∃ e ∈ c.supportingEvidence, e ∈ o.evidence) ∧
        (∀ parsed, reply = .ok parsed →
          propagateUncertainty (c.supportingEvidence.map (·.uncertainty)) = .ok c.uncertainty ∧
            ∀ e ∈ c.supportingEvidence, c.uncertainty.Covers e.uncertainty)) := by
  have hfallback : ∀ {text : String}, text = emptyPoolText ∨ text = nothingSupportedText →
      ∀ {claim : SynthesizedClaim}, noEvidenceClaim text = .ok claim → out.claims = [claim] →
      ∀ c ∈ out.claims, out.claims = [c] ∧ IsNoEvidence c := by
    intro text htext claim hclaim hsingle c hc
    rw [hsingle, List.mem_singleton] at hc
    obtain ⟨ht, hcited, hconf⟩ := noEvidenceClaim_spec hclaim
    rw [hc]
    exact ⟨hsingle, by rw [ht]; exact htext, hcited, hconf⟩
  unfold synthesize at h
  simp only at h
  split at h
  · -- nothing was gathered
    obtain ⟨claim, hclaim, h⟩ := ok_of_bind h
    intro c hc
    exact Or.inl (hfallback (Or.inl rfl) hclaim (by rw [← Except.ok.inj h]) c hc)
  · cases reply with
    | error err =>
        -- the model is of no help: one claim for each item
        obtain ⟨claims, hclaims, h⟩ := ok_of_bind h
        rw [← Except.ok.inj h]
        intro c hc
        obtain ⟨ev, hev, hcited, htype⟩ := localClaims_spec _ hclaims c hc
        refine Or.inr ⟨by rw [hcited]; simp, ?_, ?_, ?_⟩
        · intro e he
          rw [hcited, List.mem_singleton] at he
          rw [he]
          exact mem_gatheredEvidence.mp hev
        · intro hcross
          rw [htype] at hcross
          cases hcross
        · intro parsed hparsed
          cases hparsed
    | ok parsed =>
        simp only at h
        obtain ⟨rawField, -, h⟩ := ok_of_bind h
        obtain ⟨rawClaims, -, h⟩ := ok_of_bind h
        obtain ⟨claims, hclaims, h⟩ := ok_of_bind h
        split at h
        · -- every claim of the answer was rejected
          obtain ⟨claim, hclaim, h⟩ := ok_of_bind h
          intro c hc
          exact Or.inl (hfallback (Or.inr rfl) hclaim (by rw [← Except.ok.inj h]) c hc)
        · rw [← Except.ok.inj h]
          intro c hc
          have hg := readClaims_spec hids rawClaims ⟨rfl, rfl, rfl⟩ hclaims c hc
          refine Or.inr ⟨hg.cited, hg.gathered, hg.domains, ?_⟩
          intro _ _
          refine ⟨hg.combined, ?_⟩
          intro e he
          have hne : c.supportingEvidence.map (·.uncertainty) ≠ [] := by simpa using hg.cited
          obtain ⟨r, hr, hcov, -⟩ := propagateUncertainty_covers hne
          rw [hg.combined] at hr
          rw [Except.ok.inj hr]
          exact hcov e.uncertainty (List.mem_map_of_mem he)

/-! ### An answer that cites by identifier -/

/-- The identifier the prompt of the source uses as its example. -/
def sampleId : Uuid := ⟨"a1b2c3d4-e5f6-7890-abcd-ef1234567890", rfl⟩

def sampleEvidence : Evidence where
  id := sampleId
  source := "USGS Seismic API"
  claim := "Earthquake of mag 6.0."
  uncertainty := ⟨7 / 8, 3 / 4, 15 / 16, .wellSupported, by norm_num, by norm_num, by norm_num,
    by norm_num⟩
  retrievedAt := 0
  documentId := none
  chunkId := none
  title := none
  sourceUrl := none
  extraMetadata := []
  uncertaintyBounds := none
  assumptions := none

def sampleOutput : AgentOutput := ⟨"seismic", [sampleEvidence], []⟩

/-- One claim that cites the sample item by identifier but misquotes it. -/
def sampleAnswer : Json :=
  .obj [("claims", .arr [.obj [("text", .str "Seismic activity was recorded."),
    ("supporting_evidence", .arr [.obj [("evidence_id", .str sampleId.text),
      ("source", .str "elsewhere"), ("claim", .str "something else")]])]])]

theorem synthesize_sample_cites :
    ∃ out, synthesize Runtime.reference 2 (.ok sampleAnswer) [sampleOutput] = .ok out ∧
      out.claims.map (·.supportingEvidence.length) = [1] ∧
      ∀ c ∈ out.claims, ∀ e ∈ c.supportingEvidence, c.uncertainty.Covers e.uncertainty := by
  have hrun : (synthesize Runtime.reference 2 (.ok sampleAnswer) [sampleOutput]).toOption.map
      (fun out => out.claims.map (·.supportingEvidence.length)) = some [1] := by decide +kernel
  obtain ⟨out, hout, hlen⟩ := Option.map_eq_some_iff.mp hrun
  have hok : synthesize Runtime.reference 2 (.ok sampleAnswer) [sampleOutput] = .ok out := by
    cases hres : synthesize Runtime.reference 2 (.ok sampleAnswer) [sampleOutput] with
    | error e => rw [hres] at hout; cases hout
    | ok out' => rw [hres] at hout; rw [Option.some.inj hout]
  refine ⟨out, hok, hlen, ?_⟩
  intro c hc e he
  rcases synthesize_citation_integrity Runtime.reference 2 (.ok sampleAnswer) [sampleOutput]
    (by unfold DistinctIds; decide) out hok c hc with ⟨-, -, hnone, -⟩ | ⟨-, -, -, hbuilt⟩
  · rw [hnone] at he
    simp at he
  · exact (hbuilt sampleAnswer rfl).2 e he

end GaiaOS
