/-
Which answers of the model synthesis survives.

Only the query and the parse are guarded; a reply that fails there is replaced by one claim for
each item.  What was parsed is walked without a check, so an answer of another shape than the
prompt asks for raises in the middle of it.  The critic, which asks the same model the same way,
reads its answer inside the guard.

Each reader is described by the shape it accepts: an entry of a citation list
(`readCitation_ok_iff`), a claim (`readClaim_ok_iff`) and the list of claims.  A claim that is
dropped still has to have a text, because the log line reads it; a claim that is kept needs a
string there.  Which of the two it is depends on whether its citations are found.
-/
import GaiaOS.Proofs.CitationLookup

namespace GaiaOS

open Json (field?)

variable {rt : Runtime}

/-! ### One entry of a citation list -/

/-- The identifier an entry gives, if it can be parsed. -/
def citedId (rt : Runtime) (entries : List (String × Json)) : Option Uuid :=
  let rawId := ((field? entries "evidence_id").getD .null).pyOr ((field? entries "id").getD .null)
  if rawId.truthy then rt.uuidOf (rt.strOf rawId) else none

/-- An object with the fields of a citation, and the citation it says. -/
structure ReadsAs (rt : Runtime) (entries : List (String × Json)) (cited : RawCitedEvidence) :
    Prop where
  id : cited.evidenceId = citedId rt entries
  source : field? entries "source" = some (.str cited.source)
  claim : field? entries "claim" = some (.str cited.claim)
  confidence : ((field? entries "confidence").getD (.float (.finite 1))).asFloat? rt
    = some (.finite cited.confidence)
  inRange : 0 ≤ cited.confidence ∧ cited.confidence ≤ 1

/-- An entry that is an object and reads as a citation. -/
def EntryReadsAs (rt : Runtime) (item : Json) (cited : RawCitedEvidence) : Prop :=
  ∃ entries, item = .obj entries ∧ ReadsAs rt entries cited

theorem asStr?_eq_some_iff {x : Json} {s : String} : x.asStr? = some s ↔ x = .str s := by
  cases x <;> simp [Json.asStr?]

theorem getD_ok_iff {x fallback v : Json} {key : String} :
    x.getD key fallback = .ok v ↔
      ∃ entries, x = .obj entries ∧ (field? entries key).getD fallback = v := by
  cases x <;> simp [Json.getD]

theorem getItem_ok_iff {x v : Json} {key : String} :
    x.getItem key = .ok v ↔ ∃ entries, x = .obj entries ∧ field? entries key = some v := by
  cases x with
  | obj entries =>
      unfold Json.getItem
      cases h : field? entries key <;> simp [h]
  | _ => simp [Json.getItem]

theorem rawCitedEvidence_new_ok_iff {id : Option Uuid} {source claim confidence : Json}
    {cited : RawCitedEvidence} :
    RawCitedEvidence.new rt id source claim confidence = .ok cited ↔
      cited.evidenceId = id ∧ source = .str cited.source ∧ claim = .str cited.claim ∧
        confidence.asFloat? rt = some (.finite cited.confidence) ∧
        0 ≤ cited.confidence ∧ cited.confidence ≤ 1 := by
  obtain ⟨id', source', claim', confidence'⟩ := cited
  simp only [← asStr?_eq_some_iff]
  unfold RawCitedEvidence.new
  split
  · rename_i s c q hs hc hq
    rw [hs, hc, hq]
    split
    · simp only [Except.ok.injEq, RawCitedEvidence.mk.injEq, Option.some.injEq,
        PyFloat.finite.injEq]
      constructor
      · rintro ⟨rfl, rfl, rfl, rfl⟩
        exact ⟨rfl, rfl, rfl, rfl, ‹_›⟩
      · rintro ⟨rfl, rfl, rfl, rfl, -⟩
        exact ⟨rfl, rfl, rfl, rfl⟩
    · rename_i hrange
      simp only [reduceCtorEq, false_iff, Option.some.injEq, PyFloat.finite.injEq]
      rintro ⟨-, -, -, rfl, hin⟩
      exact hrange hin
  · rename_i s c hs hc hq
    simp only [reduceCtorEq, false_iff]
    rintro ⟨-, hsource, hclaim, hconfidence, -⟩
    exact hq _ hconfidence
  · rename_i hc
    simp [hc]
  · rename_i hs
    simp [hs]

/-- **An entry is read exactly if it is an object with the fields of a citation.** -/
theorem readCitation_ok_iff {item : Json} {cited : RawCitedEvidence} :
    readCitation rt item = .ok cited ↔ EntryReadsAs rt item cited := by
  unfold readCitation
  simp only [except_bind_ok_iff, getD_ok_iff, getItem_ok_iff, rawCitedEvidence_new_ok_iff]
  constructor
  · rintro ⟨_, ⟨entries, rfl, rfl⟩, _, ⟨entries', h, rfl⟩, source, ⟨entries₂, h₂, hsource⟩,
      claim, ⟨entries₃, h₃, hclaim⟩, _, ⟨entries₄, h₄, rfl⟩, hid, rfl, rfl, hconfidence, hrange⟩
    obtain rfl := Json.obj.inj h
    obtain rfl := Json.obj.inj h₂
    obtain rfl := Json.obj.inj h₃
    obtain rfl := Json.obj.inj h₄
    exact ⟨entries, rfl, hid, hsource, hclaim, hconfidence, hrange⟩
  · rintro ⟨entries, rfl, hid, hsource, hclaim, hconfidence, hrange⟩
    exact ⟨_, ⟨entries, rfl, rfl⟩, _, ⟨entries, rfl, rfl⟩, _, ⟨entries, rfl, hsource⟩,
      _, ⟨entries, rfl, hclaim⟩, _, ⟨entries, rfl, rfl⟩, hid, rfl, rfl, hconfidence, hrange⟩

/-! ### One claim -/

/-- The claim a raw claim becomes once its citations are mapped and combined. -/
def candidateClaim (entries : List (String × Json)) (text : String) (verified : List Evidence)
    (uncertainty : UncertaintyEstimate) : SynthesizedClaim where
  text := text
  claimType := readClaimType ((field? entries "claim_type").getD (.str "single_domain"))
  supportingEvidence := verified
  uncertainty := uncertainty
  uncertaintyBounds := some ((lastBounds verified).getD
    (uncertainty.lowerBound, uncertainty.upperBound))
  assumptions := lastAssumptions verified

/-- A cross-domain pattern that cites too few domains. -/
def TooFewDomains (rt : Runtime) (minCross : Int) (m : CitationMapper) (c : SynthesizedClaim) :
    Prop :=
  c.claimType = .crossDomainPattern ∧ ((m.getCitedDomains rt c).length : Int) < minCross

instance (rt : Runtime) (minCross : Int) (m : CitationMapper) (c : SynthesizedClaim) :
    Decidable (TooFewDomains rt minCross m c) :=
  inferInstanceAs (Decidable (_ ∧ _))

theorem buildClaim_ok_iff {text : Json} {entries : List (String × Json)} {verified : List Evidence}
    {uncertainty : UncertaintyEstimate} {c : SynthesizedClaim} :
    buildClaim text (readClaimType ((field? entries "claim_type").getD (.str "single_domain")))
        verified uncertainty = .ok c ↔
      ∃ s, text = .str s ∧ c = candidateClaim entries s verified uncertainty := by
  simp only [← asStr?_eq_some_iff]
  unfold buildClaim
  split
  · rename_i hnone
    simp [hnone]
  · rename_i s hs
    rw [hs]
    simp only [Except.ok.injEq, Option.some.injEq, exists_eq_left']
    exact eq_comm

/-- The readable part of a claim: its entries, its citations and its text. -/
structure ClaimReadsAs (rt : Runtime) (raw : Json) (entries : List (String × Json))
    (items : List Json) (citations : List RawCitedEvidence) (text : Json) : Prop where
  object : raw = .obj entries
  supporting : ((field? entries "supporting_evidence").getD (.arr [])).iter = .ok items
  citations : List.Forall₂ (EntryReadsAs rt) items citations
  text : field? entries "text" = some text

/-- **A claim is read through its entries, its citations and its text.**  One whose citations are
not all found is dropped; one whose citations are needs a string for its text, and is dropped only
if it is a cross-domain pattern over too few domains. -/
theorem readClaim_ok_iff {minCross : Int} {m : CitationMapper} {raw : Json}
    {r : Option SynthesizedClaim × CitationMapper} :
    readClaim rt minCross m raw = .ok r ↔
      ∃ entries items citations text, ClaimReadsAs rt raw entries items citations text ∧
        (((m.mapCitations rt citations).1 = none ∧ r = (none, (m.mapCitations rt citations).2)) ∨
        ∃ verified s uncertainty, (m.mapCitations rt citations).1 = some verified ∧ text = .str s ∧
          propagateUncertainty (verified.map (·.uncertainty)) = .ok uncertainty ∧
          r = (if TooFewDomains rt minCross (m.mapCitations rt citations).2
                (candidateClaim entries s verified uncertainty) then none
              else some (candidateClaim entries s verified uncertainty),
            (m.mapCitations rt citations).2)) := by
  have hread : ∀ {items : List Json} {citations : List RawCitedEvidence},
      List.Forall₂ (fun a b => readCitation rt a = .ok b) items citations ↔
        List.Forall₂ (EntryReadsAs rt) items citations := by
    intro items citations
    rw [show (fun a b => readCitation rt a = .ok b) = EntryReadsAs rt from
      funext fun a => funext fun b => propext readCitation_ok_iff]
  unfold readClaim
  simp only [except_bind_ok_iff, except_mapM_ok_iff, hread, getD_ok_iff]
  constructor
  · rintro ⟨_, ⟨entries, rfl, rfl⟩, items, hitems, citations, hcitations, h⟩
    rcases hmap : m.mapCitations rt citations with ⟨_ | verified, m'⟩
    · rw [hmap] at h
      obtain ⟨text, htext, h⟩ := except_bind_ok_iff.mp h
      obtain ⟨entries', hobj, htext⟩ := getItem_ok_iff.mp htext
      obtain rfl := Json.obj.inj hobj
      exact ⟨entries, items, citations, text, ⟨rfl, hitems, hcitations, htext⟩,
        .inl ⟨by rw [hmap], by rw [hmap]; exact (Except.ok.inj h).symm⟩⟩
    · rw [hmap] at h
      obtain ⟨uncertainty, hu, h⟩ := except_bind_ok_iff.mp h
      obtain ⟨_, htype, h⟩ := except_bind_ok_iff.mp h
      obtain ⟨entries₁, hobj₁, rfl⟩ := getD_ok_iff.mp htype
      obtain rfl := Json.obj.inj hobj₁
      obtain ⟨text, htext, h⟩ := except_bind_ok_iff.mp h
      obtain ⟨entries₂, hobj₂, htext⟩ := getItem_ok_iff.mp htext
      obtain rfl := Json.obj.inj hobj₂
      obtain ⟨candidate, hbuild, h⟩ := except_bind_ok_iff.mp h
      obtain ⟨s, rfl, rfl⟩ := buildClaim_ok_iff.mp hbuild
      refine ⟨entries, items, citations, _, ⟨rfl, hitems, hcitations, htext⟩, .inr
        ⟨verified, s, uncertainty, by rw [hmap], rfl, hu, ?_⟩⟩
      rw [hmap]
      by_cases hfew : TooFewDomains rt minCross m' (candidateClaim entries s verified uncertainty)
      · rw [if_pos hfew]
        exact (Except.ok.inj ((if_pos hfew).symm.trans h)).symm
      · rw [if_neg hfew]
        exact (Except.ok.inj ((if_neg hfew).symm.trans h)).symm
  · rintro ⟨entries, items, citations, text, ⟨rfl, hitems, hcitations, htext⟩, h⟩
    refine ⟨_, ⟨entries, rfl, rfl⟩, items, hitems, citations, hcitations, ?_⟩
    have htext' : Json.getItem (.obj entries) "text" = .ok text :=
      getItem_ok_iff.mpr ⟨entries, rfl, htext⟩
    rcases hmap : m.mapCitations rt citations with ⟨_ | verified, m'⟩
    · rw [hmap] at h
      rcases h with ⟨-, rfl⟩ | ⟨verified, _, _, hsome, -⟩
      · exact except_bind_ok_iff.mpr ⟨text, htext', rfl⟩
      · cases hsome
    · rw [hmap] at h
      rcases h with ⟨hnone, -⟩ | ⟨verified', s, uncertainty, hsome, rfl, hu, rfl⟩
      · cases hnone
      · obtain rfl := Option.some.inj hsome
        refine except_bind_ok_iff.mpr ⟨uncertainty, hu, ?_⟩
        refine except_bind_ok_iff.mpr ⟨_, getD_ok_iff.mpr ⟨entries, rfl, rfl⟩, ?_⟩
        refine except_bind_ok_iff.mpr ⟨_, htext', ?_⟩
        refine except_bind_ok_iff.mpr ⟨_, buildClaim_ok_iff.mpr ⟨s, rfl, rfl⟩, ?_⟩
        by_cases hfew : TooFewDomains rt minCross m' (candidateClaim entries s verified uncertainty)
        · rw [if_pos hfew]
          exact if_pos hfew
        · rw [if_neg hfew]
          exact if_neg hfew

/-! ### When reading returns -/

section Returns

variable {outputs : List AgentOutput} {m : CitationMapper} {minCross : Int}

/-- What reading a claim leaves behind has the indexes it started with. -/
theorem readClaim_indexesOf (hm : IndexesOf rt outputs m) {raw : Json}
    {r : Option SynthesizedClaim × CitationMapper} (h : readClaim rt minCross m raw = .ok r) :
    IndexesOf rt outputs r.2 := by
  obtain ⟨_, _, citations, _, -, hr⟩ := readClaim_ok_iff.mp h
  have hidx := (mapCitations_spec hm citations).1
  rcases hr with ⟨-, rfl⟩ | ⟨_, _, _, -, -, -, rfl⟩
  · exact hidx
  · exact hidx

end Returns

end GaiaOS
