/-
The citation mapper finds what a reader of the pool would find.

The mapper's two dictionaries are the indexes of a pool (`find_eq_indexed`), so a citation
is answered as a scan of the gathered evidence would answer it: the item whose identifier is
cited or, where no item has it, the only item with the same normalised source and claim.  The
loop over a claim's citations gives up at the first one without an answer, but a list
is accepted or refused as a whole, so the early exit shows only in the counters.  These never
go down, and what they count adds up after any sequence of calls (`run_counted`).

Growing the pool is another matter.  An identifier stays good, but a text that a later
output repeats is ambiguous from then on and its citations are refused.
-/
import GaiaOS.Lib.PoolIndex
import GaiaOS.Lib.Relations
import GaiaOS.Proofs.Synthesis

namespace GaiaOS

/-- The text keys of an item. -/
def Evidence.textKey (rt : Runtime) (e : Evidence) : String × String :=
  GaiaOS.textKey rt e.source e.claim

/-- The item that a citation is about: the one with its identifier or, where no item of the pool
has that, the only one whose normalised source and claim are the citation's. -/
def Cites (rt : Runtime) (pool : List Evidence) (cited : RawCitedEvidence) (e : Evidence) : Prop :=
  e ∈ pool ∧ (cited.evidenceId = some e.id ∨
    (∀ e' ∈ pool, cited.evidenceId ≠ some e'.id) ∧
      e.textKey rt = textKey rt cited.source cited.claim ∧
      ∀ e' ∈ pool, e'.textKey rt = textKey rt cited.source cited.claim → e' = e)

/-- A citation looked up by reading the pool from front to back. -/
def scanPool (rt : Runtime) (pool : List Evidence) (cited : RawCitedEvidence) : Option Evidence :=
  PoolIndex.scan (fun e => e.id.text) (Evidence.textKey rt) pool (cited.evidenceId.map (·.text))
    (textKey rt cited.source cited.claim)

/-- The indexes of a pool of evidence. -/
def evidenceIndex (rt : Runtime) (pool : List Evidence) :
    PoolIndex String (String × String) Evidence :=
  PoolIndex.build (fun e => e.id.text) (Evidence.textKey rt) pool

/-- One citation looked up in the indexes of a pool. -/
def indexedMatch (rt : Runtime) (pool : List Evidence) (cited : RawCitedEvidence) :
    Option Evidence :=
  (evidenceIndex rt pool).find (cited.evidenceId.map (·.text)) (textKey rt cited.source cited.claim)

theorem cites_iff_names {rt : Runtime} {pool : List Evidence} {cited : RawCitedEvidence}
    {e : Evidence} :
    Cites rt pool cited e ↔
      PoolIndex.Names (fun e => e.id.text) (Evidence.textKey rt) pool
        (cited.evidenceId.map (·.text)) (textKey rt cited.source cited.claim) e := by
  have hid : ∀ e : Evidence, cited.evidenceId = some e.id ↔
      cited.evidenceId.map (·.text) = some e.id.text := by
    intro e
    induction cited.evidenceId with
    | none => simp
    | some id =>
        rw [Option.map_some, Option.some.injEq, Option.some.injEq]
        exact ⟨congrArg _, Uuid.ext_text⟩
  unfold Cites PoolIndex.Names
  simp only [Ne, hid]

/-! ### One lookup -/

section Lookup

variable {rt : Runtime} {outputs : List AgentOutput} {m : CitationMapper}

theorem nodup_idTexts (hids : DistinctIds outputs) :
    ((gatheredEvidence outputs).map fun e => e.id.text).Nodup := by
  have hmap : ((gatheredEvidence outputs).map fun e => e.id.text)
      = ((gatheredEvidence outputs).map (·.id)).map Uuid.text := by
    rw [List.map_map]
    rfl
  rw [hmap]
  exact List.Nodup.map (fun _ _ => Uuid.ext_text) hids

/-- The mapper's answer to a citation is the one of its indexes. -/
theorem find_eq_indexed (hm : IndexesOf rt outputs m) (cited : RawCitedEvidence) :
    (m.findMatchingEvidence rt cited).1 = indexedMatch rt (gatheredEvidence outputs) cited := by
  have hid : ∀ id : Option Uuid, (id.bind fun id => m.idIndex.get? id.text)
      = (id.map (·.text)).bind (evidenceIndex rt (gatheredEvidence outputs)).primary.get? := by
    intro id
    rw [hm.byId]
    induction id with
    | none => rfl
    | some id => rfl
  have htext : m.textIndex = (evidenceIndex rt (gatheredEvidence outputs)).secondary := hm.byText
  unfold CitationMapper.findMatchingEvidence CitationMapper.findMatchingEvidenceFields
    indexedMatch PoolIndex.find
  rw [hid, htext]
  simp only
  split
  · rename_i found hfound
    rw [hfound, Option.some_or]
  · rename_i hnone
    rw [hnone, Option.none_or]
    split
    · rename_i found hfound
      rw [hfound]
      rfl
    · rename_i hnil
      rw [hnil]
      rfl
    · rename_i hmany
      rw [hmany]
      rfl

/-! ### The citation loop -/

/-- The loop as one pass that fails as a whole. -/
theorem mapCitationsLoop_eq (citations : List RawCitedEvidence) :
    ∀ {m : CitationMapper}, IndexesOf rt outputs m →
      (m.mapCitationsLoop rt citations).1
        = citations.mapM (indexedMatch rt (gatheredEvidence outputs)) := by
  induction citations with
  | nil =>
      intro m _
      rfl
  | cons cited rest ih =>
      intro m hm
      have hfind := find_eq_indexed hm cited
      have hidx : IndexesOf rt outputs (m.findMatchingEvidence rt cited).2 :=
        (find_spec hm cited.evidenceId cited.source cited.claim).1
      rw [CitationMapper.mapCitationsLoop, List.mapM_cons, ← hfind]
      rcases hres : m.findMatchingEvidence rt cited with ⟨_ | found, m'⟩
      · rfl
      · rw [hres] at hidx
        have hrest := ih hidx
        rcases hloop : m'.mapCitationsLoop rt rest with ⟨_ | verified, m''⟩
        · rw [hloop] at hrest
          simp only [hloop, ← hrest]
          rfl
        · rw [hloop] at hrest
          simp only [hloop, ← hrest]
          rfl

theorem mapCitations_eq (hm : IndexesOf rt outputs m) (citations : List RawCitedEvidence) :
    (m.mapCitations rt citations).1 =
      if citations = [] then none
      else citations.mapM (indexedMatch rt (gatheredEvidence outputs)) := by
  unfold CitationMapper.mapCitations
  simp only [List.isEmpty_iff]
  split
  · rfl
  · exact mapCitationsLoop_eq citations hm

/-- **With distinct identifiers a lookup is a scan, and finds the item the citation is about.** -/
theorem indexedMatch_eq_scanPool (hids : DistinctIds outputs) (cited : RawCitedEvidence) :
    indexedMatch rt (gatheredEvidence outputs) cited
      = scanPool rt (gatheredEvidence outputs) cited :=
  PoolIndex.find_build (nodup_idTexts hids) _ _

theorem scanPool_eq_some_iff (hids : DistinctIds outputs) {cited : RawCitedEvidence}
    {e : Evidence} :
    scanPool rt (gatheredEvidence outputs) cited = some e ↔
      Cites rt (gatheredEvidence outputs) cited e := by
  rw [cites_iff_names]
  exact PoolIndex.scan_eq_some_iff (nodup_idTexts hids)

end Lookup

/-! ### Any sequence of calls -/

/-- The calls that look citations up. -/
inductive CitationMapper.Call
  | mapCitations (citations : List RawCitedEvidence)
  | validateClaim (claim : SynthesizedClaim)

namespace CitationMapper

/-- The mapper after one call. -/
def call (rt : Runtime) (m : CitationMapper) : Call → CitationMapper
  | .mapCitations citations => (m.mapCitations rt citations).2
  | .validateClaim claim => (m.validateClaim rt claim).2.2

/-- The mapper after a sequence of calls. -/
def run (rt : Runtime) (m : CitationMapper) (calls : List Call) : CitationMapper :=
  calls.foldl (call rt) m

/-- The counters add up: every lookup went by identifier or is counted as missing one, and a missing
one was answered by text, found ambiguous, or neither. -/
structure Counted (m : CitationMapper) : Prop where
  total : m.counters.totalCitations = m.counters.matchedById + m.counters.citationMissingId
  missing : m.counters.matchedByTextFallback + m.counters.citationAmbiguousFallback
    ≤ m.counters.citationMissingId

variable {rt : Runtime} {m : CitationMapper}

theorem find_counted (hm : m.Counted) (id : Option Uuid) (source claim : String) :
    (m.findMatchingEvidenceFields rt id source claim).2.Counted := by
  obtain ⟨htotal, hmissing⟩ := hm
  unfold findMatchingEvidenceFields
  simp only
  split
  · exact ⟨by simp only; omega, hmissing⟩
  · split
    · exact ⟨by simp only; omega, by simp only; omega⟩
    · exact ⟨by simp only; omega, by simp only; omega⟩
    · exact ⟨by simp only; omega, by simp only; omega⟩

theorem mapCitationsLoop_counted (citations : List RawCitedEvidence) :
    ∀ {m : CitationMapper}, m.Counted → (m.mapCitationsLoop rt citations).2.Counted := by
  induction citations with
  | nil =>
      intro m hm
      exact hm
  | cons cited rest ih =>
      intro m hm
      have hfind : (m.findMatchingEvidence rt cited).2.Counted := find_counted hm _ _ _
      rw [mapCitationsLoop]
      rcases hres : m.findMatchingEvidence rt cited with ⟨_ | found, m'⟩
      · rw [hres] at hfind
        exact hfind
      · rw [hres] at hfind
        have hrest : (m'.mapCitationsLoop rt rest).2.Counted := ih hfind
        rcases hloop : m'.mapCitationsLoop rt rest with ⟨_ | verified, m''⟩
        · rw [hloop] at hrest
          simpa only [hloop] using hrest
        · rw [hloop] at hrest
          simpa only [hloop] using hrest

theorem mapCitations_counted (hm : m.Counted) (citations : List RawCitedEvidence) :
    (m.mapCitations rt citations).2.Counted := by
  unfold mapCitations
  split
  · exact hm
  · exact mapCitationsLoop_counted citations hm

/-- A validated claim goes through the same loop, or through none. -/
theorem validateClaim_mapper (m : CitationMapper) (claim : SynthesizedClaim) :
    (m.validateClaim rt claim).2.2 =
      (m.mapCitations rt (claim.supportingEvidence.map Evidence.asCitation)).2 := by
  unfold validateClaim verifyEvidencePoolMembership
  by_cases hempty : claim.supportingEvidence.isEmpty = true
  · rw [if_pos hempty, List.isEmpty_iff.mp hempty]
    rfl
  · rw [if_neg hempty]
    rcases m.mapCitations rt (claim.supportingEvidence.map Evidence.asCitation)
      with ⟨_ | verified, m'⟩
    · rfl
    · rfl

/-- What holds of a new mapper and is kept by the citation loop holds after any calls. -/
theorem run_induction {P : CitationMapper → Prop}
    (hmap : ∀ m citations, P m → P (m.mapCitations rt citations).2) (calls : List Call) :
    ∀ {m : CitationMapper}, P m → P (m.run rt calls) := by
  induction calls with
  | nil =>
      intro m hm
      exact hm
  | cons c calls ih =>
      intro m hm
      refine ih (m := m.call rt c) ?_
      cases c with
      | mapCitations citations => exact hmap m citations hm
      | validateClaim claim =>
          show P (m.validateClaim rt claim).2.2
          rw [validateClaim_mapper]
          exact hmap m _ hm

variable (rt) in
theorem run_counted (outputs : List AgentOutput) (calls : List Call) :
    ((init rt outputs).run rt calls).Counted := by
  refine run_induction (P := Counted) ?_ calls ⟨rfl, le_refl 0⟩
  intro m citations hm
  exact mapCitations_counted hm citations

theorem run_indexesOf (outputs : List AgentOutput) (calls : List Call) :
    IndexesOf rt outputs ((init rt outputs).run rt calls) := by
  refine run_induction (P := IndexesOf rt outputs) ?_ calls ⟨rfl, rfl, rfl⟩
  intro m citations hm
  exact (mapCitations_spec hm citations).1

/-- A share of what was counted. -/
theorem Counted.fallbackRate (hm : m.Counted) :
    0 ≤ m.citationFallbackRate ∧ m.citationFallbackRate ≤ 1 := by
  have hle : m.counters.matchedByTextFallback ≤ m.counters.totalCitations := by
    have := hm.total
    have := hm.missing
    omega
  unfold citationFallbackRate
  split
  · exact ⟨le_refl _, zero_le_one⟩
  · refine ⟨div_nonneg (Nat.cast_nonneg _) (Nat.cast_nonneg _), ?_⟩
    exact div_le_one_of_le₀ (by exact_mod_cast hle) (Nat.cast_nonneg _)

end CitationMapper

/--
**The indexed citation lookup is the plain one.**

Over a pool with distinct identifiers and after any sequence of calls, a non-empty list of
citations is mapped as a scan of the pool maps it: to the items the citations are about, in their
order, and to nothing if some citation is about no item.  The counters add up throughout.
-/
theorem mapCitations_refines_scan (rt : Runtime) (outputs : List AgentOutput)
    (hids : DistinctIds outputs) (calls : List CitationMapper.Call) :
    let m := (CitationMapper.init rt outputs).run rt calls
    (∀ citations, (m.mapCitations rt citations).1 =
      if citations = [] then none else citations.mapM (scanPool rt (gatheredEvidence outputs))) ∧
    (∀ citations verified, (m.mapCitations rt citations).1 = some verified ↔
      citations ≠ [] ∧
        List.Forall₂ (Cites rt (gatheredEvidence outputs)) citations verified) ∧
    (∀ citations, (m.mapCitations rt citations).1 = none ↔
      citations = [] ∨
        ∃ cited ∈ citations, ∀ e, ¬ Cites rt (gatheredEvidence outputs) cited e) ∧
    m.counters.totalCitations = m.counters.matchedById + m.counters.citationMissingId ∧
    m.counters.matchedByTextFallback + m.counters.citationAmbiguousFallback
      ≤ m.counters.citationMissingId ∧
    0 ≤ m.citationFallbackRate ∧ m.citationFallbackRate ≤ 1 := by
  have hcounted := CitationMapper.run_counted rt outputs calls
  have hscan : ∀ citations : List RawCitedEvidence,
      (((CitationMapper.init rt outputs).run rt calls).mapCitations rt citations).1 =
        if citations = [] then none
        else citations.mapM (scanPool rt (gatheredEvidence outputs)) := by
    intro citations
    rw [mapCitations_eq (CitationMapper.run_indexesOf outputs calls),
      option_mapM_congr fun cited _ => indexedMatch_eq_scanPool hids cited]
  have hcites : (fun cited e => scanPool rt (gatheredEvidence outputs) cited = some e)
      = Cites rt (gatheredEvidence outputs) := by
    funext cited e
    exact propext (scanPool_eq_some_iff hids)
  refine ⟨hscan, ?_, ?_, hcounted.total, hcounted.missing, hcounted.fallbackRate⟩
  · intro citations verified
    rw [hscan]
    by_cases hempty : citations = []
    · simp [hempty]
    · rw [if_neg hempty, option_mapM_eq_some_iff, hcites]
      exact (and_iff_right hempty).symm
  · intro citations
    rw [hscan]
    by_cases hempty : citations = []
    · simp [hempty]
    · rw [if_neg hempty, ← Option.not_isSome_iff_eq_none, option_mapM_isSome_iff]
      simp only [hempty, false_or, not_forall, exists_prop, Option.isSome_iff_exists,
        scanPool_eq_some_iff hids, not_exists]

/-- A claim without citations is refused, although no citation of it fails. -/
theorem mapCitations_refuses_no_citations :
    ¬ ∀ (outputs : List AgentOutput), DistinctIds outputs →
      ∀ citations : List RawCitedEvidence,
        ((∃ verified, ((CitationMapper.init Runtime.reference outputs).mapCitations
            Runtime.reference citations).1 = some verified) ↔
          ∀ cited ∈ citations, ∃ e,
            Cites Runtime.reference (gatheredEvidence outputs) cited e) := by
  intro h
  have hiff := h [sampleOutput] (by unfold DistinctIds; decide) []
  obtain ⟨verified, hnone⟩ := hiff.mpr fun _ hmem => by cases hmem
  cases hnone

theorem mapCitations_refines_scan_sample :
    0 ≤ ((CitationMapper.init Runtime.reference [sampleOutput]).run Runtime.reference
        [.mapCitations [sampleEvidence.asCitation]]).citationFallbackRate ∧
      ((CitationMapper.init Runtime.reference [sampleOutput]).run Runtime.reference
        [.mapCitations [sampleEvidence.asCitation]]).citationFallbackRate ≤ 1 :=
  (mapCitations_refines_scan Runtime.reference [sampleOutput] (by unfold DistinctIds; decide)
    [.mapCitations [sampleEvidence.asCitation]]).2.2.2.2.2

/-! ### Evidence gathered again -/

theorem mapCitations_init (rt : Runtime) (outputs : List AgentOutput)
    {citations : List RawCitedEvidence} (h : citations ≠ []) :
    ((CitationMapper.init rt outputs).mapCitations rt citations).1 =
      citations.mapM (indexedMatch rt (gatheredEvidence outputs)) := by
  rw [mapCitations_eq ⟨rfl, rfl, rfl⟩, if_neg h]

theorem gatheredEvidence_append (outputs further : List AgentOutput) :
    gatheredEvidence (outputs ++ further) = gatheredEvidence outputs ++ gatheredEvidence further :=
  List.flatMap_append

/-- The citation carries the identifier of an item of the pool. -/
def CitesById (pool : List Evidence) (cited : RawCitedEvidence) : Prop :=
  ∃ e ∈ pool, cited.evidenceId = some e.id

/-- No item of the pool reads like the citation. -/
def NoneReadsAs (rt : Runtime) (pool : List Evidence) (cited : RawCitedEvidence) : Prop :=
  ∀ e ∈ pool, e.textKey rt ≠ textKey rt cited.source cited.claim

theorem citesById_iff {pool : List Evidence} {cited : RawCitedEvidence} :
    CitesById pool cited ↔ ∃ e ∈ pool, cited.evidenceId.map (·.text) = some e.id.text := by
  unfold CitesById
  refine exists_congr fun e => and_congr_right fun _ => ?_
  induction cited.evidenceId with
  | none => simp
  | some id =>
      rw [Option.map_some, Option.some.injEq, Option.some.injEq]
      exact ⟨congrArg _, Uuid.ext_text⟩

/-- One citation found in a pool is found in a larger one unless the new items repeat its text. -/
theorem indexedMatch_append_isSome_iff {rt : Runtime} {pool more : List Evidence}
    {cited : RawCitedEvidence} (h : (indexedMatch rt pool cited).isSome = true) :
    (indexedMatch rt (pool ++ more) cited).isSome = true ↔
      CitesById (pool ++ more) cited ∨ NoneReadsAs rt more cited := by
  rw [citesById_iff]
  exact PoolIndex.find_append_isSome_iff h

/-- And it is the same item, unless the citation carries the identifier of a new one. -/
theorem indexedMatch_append_eq (rt : Runtime) {pool more : List Evidence}
    {cited : RawCitedEvidence} (hnew : ¬ CitesById more cited)
    (hkept : CitesById (pool ++ more) cited ∨ NoneReadsAs rt more cited) :
    indexedMatch rt (pool ++ more) cited = indexedMatch rt pool cited := by
  refine PoolIndex.find_append_eq ?_ ?_
  · intro e he heq
    exact hnew (citesById_iff.mpr ⟨e, he, heq⟩)
  · refine hkept.imp_left ?_
    rintro ⟨e, he, heq⟩
    rcases List.mem_append.mp he with hold | hmore
    · exact citesById_iff.mp ⟨e, hold, heq⟩
    · exact absurd ⟨e, hmore, heq⟩ hnew

/--
**What a replan pass does to accepted citations.**

A list of citations that the mapper of some outputs accepts stays accepted when outputs are
appended exactly if each citation carries the identifier of an item gathered by then or has
a text that no appended item repeats.  The items it is mapped to stay the same too, as long
as no citation carries the identifier of an appended item.
-/
theorem mapCitations_append (rt : Runtime) (outputs further : List AgentOutput)
    (citations : List RawCitedEvidence) (verified : List Evidence)
    (haccepted : ((CitationMapper.init rt outputs).mapCitations rt citations).1 = some verified) :
    ((∃ verified', ((CitationMapper.init rt (outputs ++ further)).mapCitations rt citations).1
        = some verified') ↔
      ∀ cited ∈ citations, CitesById (gatheredEvidence (outputs ++ further)) cited ∨
        NoneReadsAs rt (gatheredEvidence further) cited) ∧
    ((∀ cited ∈ citations, ¬ CitesById (gatheredEvidence further) cited) →
      ∀ verified', ((CitationMapper.init rt (outputs ++ further)).mapCitations rt citations).1
        = some verified' → verified' = verified) := by
  have hne : citations ≠ [] := by
    intro hnil
    rw [hnil] at haccepted
    cases haccepted
  rw [mapCitations_init rt outputs hne] at haccepted
  rw [mapCitations_init rt (outputs ++ further) hne, gatheredEvidence_append]
  have hfound : ∀ cited ∈ citations,
      (indexedMatch rt (gatheredEvidence outputs) cited).isSome = true :=
    option_mapM_isSome_iff.mp (by rw [haccepted]; rfl)
  have hiff : (∃ verified', citations.mapM
        (indexedMatch rt (gatheredEvidence outputs ++ gatheredEvidence further)) = some verified') ↔
      ∀ cited ∈ citations,
        CitesById (gatheredEvidence outputs ++ gatheredEvidence further) cited ∨
          NoneReadsAs rt (gatheredEvidence further) cited := by
    rw [← Option.isSome_iff_exists, option_mapM_isSome_iff]
    exact forall₂_congr fun cited hcited => indexedMatch_append_isSome_iff (hfound cited hcited)
  refine ⟨hiff, ?_⟩
  intro hnew verified' haccepted'
  have hkept := hiff.mp ⟨verified', haccepted'⟩
  have hsame := option_mapM_congr fun cited hcited =>
    indexedMatch_append_eq rt (hnew cited hcited) (hkept cited hcited)
  rw [hsame, haccepted] at haccepted'
  exact (Option.some.inj haccepted').symm

/-- The identifier of the sample item when its agent reports it a second time. -/
def sampleId' : Uuid := ⟨"b1b2c3d4-e5f6-7890-abcd-ef1234567890", rfl⟩

/-- The sample reading gathered again. -/
def sampleOutput' : AgentOutput := ⟨"seismic", [{ sampleEvidence with id := sampleId' }], []⟩

/-- The sample item cited by its text alone. -/
def sampleTextCitation : RawCitedEvidence :=
  ⟨none, sampleEvidence.source, sampleEvidence.claim, 1⟩

/-- When a single citation is accepted. -/
theorem mapCitations_singleton_iff (rt : Runtime) (outputs : List AgentOutput)
    (cited : RawCitedEvidence) :
    ((CitationMapper.init rt outputs).mapCitations rt [cited]).1.isSome = true ↔
      (∃ e ∈ gatheredEvidence outputs, cited.evidenceId.map (·.text) = some e.id.text) ∨
        ((gatheredEvidence outputs).filter fun e =>
          Evidence.textKey rt e = textKey rt cited.source cited.claim).length = 1 := by
  rw [mapCitations_init rt outputs (List.cons_ne_nil cited []), option_mapM_isSome_iff,
    List.forall_mem_singleton]
  exact PoolIndex.find_isSome_iff _ _ _

/-- A citation by text is accepted until its agent returns the same reading again. -/
theorem mapCitations_append_refuses :
    ((CitationMapper.init Runtime.reference [sampleOutput]).mapCitations Runtime.reference
        [sampleTextCitation]).1.isSome = true ∧
      (∀ e ∈ gatheredEvidence [sampleOutput'], ∃ e' ∈ gatheredEvidence [sampleOutput],
        (e.source, e.claim) = (e'.source, e'.claim)) ∧
      (∀ e ∈ gatheredEvidence [sampleOutput'], ∀ e' ∈ gatheredEvidence [sampleOutput],
        e.id ≠ e'.id) ∧
      ((CitationMapper.init Runtime.reference ([sampleOutput] ++ [sampleOutput'])).mapCitations
        Runtime.reference [sampleTextCitation]).1 = none := by
  have hreads : ∀ e ∈ [sampleEvidence, { sampleEvidence with id := sampleId' }],
      Evidence.textKey Runtime.reference e =
        textKey Runtime.reference sampleTextCitation.source sampleTextCitation.claim := by
    intro e he
    rcases List.mem_pair.mp he with rfl | rfl
    · rfl
    · rfl
  refine ⟨(mapCitations_singleton_iff ..).mpr (.inr ?_), ?_, ?_, ?_⟩
  · show ([sampleEvidence].filter _).length = 1
    rw [List.filter_eq_self.mpr]
    · rfl
    · intro e he
      exact decide_eq_true (hreads e (List.mem_cons.mpr (.inl (List.mem_singleton.mp he))))
  · intro e he
    obtain rfl : e = { sampleEvidence with id := sampleId' } := List.mem_singleton.mp he
    exact ⟨sampleEvidence, List.mem_singleton.mpr rfl, rfl⟩
  · intro e he e' he'
    obtain rfl : e = { sampleEvidence with id := sampleId' } := List.mem_singleton.mp he
    obtain rfl : e' = sampleEvidence := List.mem_singleton.mp he'
    decide
  · -- two items read as the text now
    rw [← Option.not_isSome_iff_eq_none, mapCitations_singleton_iff, not_or]
    refine ⟨fun ⟨e, _, he⟩ => (by cases he), ?_⟩
    show ¬ ([sampleEvidence, { sampleEvidence with id := sampleId' }].filter _).length = 1
    rw [List.filter_eq_self.mpr fun e he => decide_eq_true (hreads e he)]
    exact Nat.succ_ne_self 1

theorem mapCitations_append_sample :
    ∃ verified, ((CitationMapper.init Runtime.reference
      ([sampleOutput] ++ [sampleOutput'])).mapCitations Runtime.reference
      [sampleEvidence.asCitation]).1 = some verified := by
  have hsome : ((CitationMapper.init Runtime.reference [sampleOutput]).mapCitations
      Runtime.reference [sampleEvidence.asCitation]).1.isSome = true :=
    (mapCitations_singleton_iff ..).mpr (.inl ⟨sampleEvidence, List.mem_singleton.mpr rfl, rfl⟩)
  obtain ⟨verified, hverified⟩ := Option.isSome_iff_exists.mp hsome
  refine (mapCitations_append Runtime.reference [sampleOutput] [sampleOutput']
    [sampleEvidence.asCitation] verified hverified).1.mpr ?_
  intro cited hcited
  obtain rfl : cited = sampleEvidence.asCitation := List.mem_singleton.mp hcited
  exact .inl ⟨sampleEvidence, by simp [gatheredEvidence, sampleOutput], rfl⟩

end GaiaOS
