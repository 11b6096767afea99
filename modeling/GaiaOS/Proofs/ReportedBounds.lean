/-
What a claim reports depends on the order of its citations.

A claim built from the answer combines the uncertainty of its evidence in a way that no order
changes, but takes its explicit bounds and its assumptions from the last cited item that has some.
Two cited items that disagree therefore show one at a time: reordering the citations swaps which,
and the reported bounds need not contain those of the other item.

`claimOf_eq_some_iff` says what a raw claim becomes; `claimOf_reordered` and `exists_reordered`
carry a reordering of the citations over to the mapped evidence and back.  What remains is
about a variable that a loop overwrites.
-/
import GaiaOS.Lib.Overwrite
import GaiaOS.Proofs.SynthesisAnswers

namespace GaiaOS

open Json (field?)

/-- The claim that synthesis builds from one raw claim of the answer, if it keeps it. -/
def claimOf (rt : Runtime) (minCross : Int) (outputs : List AgentOutput) (raw : Json) :
    Option SynthesizedClaim :=
  match readClaim rt minCross (CitationMapper.init rt outputs) raw with
  | .ok (claim, _) => claim
  | .error _ => none

/-- The same claim with its citations in another order. -/
def Reordered (raw raw' : Json) : Prop :=
  ∃ entries entries' items items', raw = .obj entries ∧ raw' = .obj entries' ∧
    field? entries "supporting_evidence" = some (.arr items) ∧
    field? entries' "supporting_evidence" = some (.arr items') ∧ items.Perm items' ∧
    ∀ key, key ≠ "supporting_evidence" → field? entries' key = field? entries key

/-- The raw claim cites the item. -/
def CitedBy (rt : Runtime) (pool : List Evidence) (raw : Json) (e : Evidence) : Prop :=
  ∃ entries items, raw = .obj entries ∧
    field? entries "supporting_evidence" = some (.arr items) ∧
    ∃ item ∈ items, ∃ cited, EntryReadsAs rt item cited ∧ indexedMatch rt pool cited = some e

/-- The assumptions of an item, if it states any. -/
def statedAssumptions (e : Evidence) : Option (List String) :=
  match e.assumptions with
  | some (a :: as) => some (a :: as)
  | _ => none

/-- The same strings, in any order. -/
def SameMembers (l l' : List String) : Prop := ∀ s, s ∈ l ↔ s ∈ l'

/-- One interval contains another. -/
def Contains (outer inner : ℚ × ℚ) : Prop := outer.1 ≤ inner.1 ∧ inner.2 ≤ outer.2

section Claims

variable {rt : Runtime} {outputs : List AgentOutput} {m : CitationMapper} {minCross : Int}

/-! ### What a raw claim becomes -/

theorem tooFewDomains_iff (hm : IndexesOf rt outputs m) (c : SynthesizedClaim) :
    TooFewDomains rt minCross m c ↔
      TooFewDomains rt minCross (CitationMapper.init rt outputs) c := by
  have hdomain : m.citedDomain rt = (CitationMapper.init rt outputs).citedDomain rt := by
    funext e
    unfold CitationMapper.citedDomain
    rw [hm.domainMap]
  unfold TooFewDomains CitationMapper.getCitedDomains
  rw [hdomain]

/-- A raw claim is kept if its citations are all found and are from enough domains. -/
structure BuiltFrom (rt : Runtime) (minCross : Int) (outputs : List AgentOutput)
    (entries : List (String × Json)) (items : List Json) (verified : List Evidence) (s : String)
    (uncertainty : UncertaintyEstimate) (c : SynthesizedClaim) : Prop where
  cited : items ≠ []
  supporting : field? entries "supporting_evidence" = some (.arr items)
  mapped : List.Forall₂ (fun item e => ∃ cited, EntryReadsAs rt item cited ∧
    indexedMatch rt (gatheredEvidence outputs) cited = some e) items verified
  text : field? entries "text" = some (.str s)
  combined : propagateUncertainty (verified.map (·.uncertainty)) = .ok uncertainty
  domains : ¬ TooFewDomains rt minCross (CitationMapper.init rt outputs)
    (candidateClaim entries s verified uncertainty)
  claim : c = candidateClaim entries s verified uncertainty

/-- Entries that read as citations stand in a list. -/
theorem iter_eq_arr {x : Json} {items : List Json} (h : x.iter = .ok items)
    {citations : List RawCitedEvidence} (hread : List.Forall₂ (EntryReadsAs rt) items citations)
    (hne : citations ≠ []) : x = .arr items := by
  have hobj : ∀ item ∈ items, ∃ entries, item = .obj entries := by
    intro item hitem
    obtain ⟨cited, -, entries, hentries, -⟩ := forall₂_mem_left hread hitem
    exact ⟨entries, hentries⟩
  have hcons : ∃ item, item ∈ items := by
    refine List.exists_mem_of_ne_nil items ?_
    intro hnil
    rw [hnil, List.forall₂_nil_left_iff] at hread
    exact hne hread
  obtain ⟨item, hitem⟩ := hcons
  obtain ⟨entries, hentries⟩ := hobj item hitem
  cases x with
  | arr l => rw [Except.ok.inj h]
  | str s =>
      rw [← Except.ok.inj h, hentries] at hitem
      simp at hitem
  | obj l =>
      rw [← Except.ok.inj h, hentries] at hitem
      simp at hitem
  | _ => cases h

theorem claimOf_eq_some_iff {raw : Json} {c : SynthesizedClaim} :
    claimOf rt minCross outputs raw = some c ↔
      ∃ entries items verified s uncertainty, raw = .obj entries ∧
        BuiltFrom rt minCross outputs entries items verified s uncertainty c := by
  have hok : claimOf rt minCross outputs raw = some c ↔ ∃ m',
      readClaim rt minCross (CitationMapper.init rt outputs) raw = .ok (some c, m') := by
    unfold claimOf
    rcases readClaim rt minCross (CitationMapper.init rt outputs) raw with err | ⟨claim, m'⟩
    · simp
    · simp
  have hinit : IndexesOf rt outputs (CitationMapper.init rt outputs) := ⟨rfl, rfl, rfl⟩
  rw [hok]
  simp only [readClaim_ok_iff]
  constructor
  · rintro ⟨m', entries, items, citations, text, hreads,
      ⟨-, hr⟩ | ⟨verified, s, u, hmap, rfl, hu, hr⟩⟩
    · cases hr
    · obtain ⟨hclaim, -⟩ := Prod.mk.inj hr
      have hidx := (mapCitations_spec hinit citations).1
      rw [mapCitations_eq hinit] at hmap
      have hne : citations ≠ [] := by
        intro hnil
        rw [if_pos hnil] at hmap
        cases hmap
      rw [if_neg hne, option_mapM_eq_some_iff] at hmap
      have harr := iter_eq_arr hreads.supporting hreads.citations hne
      split at hclaim
      · cases hclaim
      · rename_i hdomains
        refine ⟨entries, items, verified, s, u, hreads.object, ?_, ?_, ?_, hreads.text, hu,
          fun hfew => hdomains ((tooFewDomains_iff hidx _).mpr hfew), Option.some.inj hclaim⟩
        · intro hnil
          have hcitations := hreads.citations
          rw [hnil, List.forall₂_nil_left_iff] at hcitations
          exact hne hcitations
        · cases hfield : field? entries "supporting_evidence" with
          | none =>
              rw [hfield, Option.getD_none] at harr
              have hcitations := hreads.citations
              rw [← Json.arr.inj harr, List.forall₂_nil_left_iff] at hcitations
              exact absurd hcitations hne
          | some x =>
              rw [hfield, Option.getD_some] at harr
              rw [harr]
        · exact forall₂_comp_iff.mpr ⟨citations, hreads.citations, hmap⟩
  · rintro ⟨entries, items, verified, s, u, rfl, hb⟩
    obtain ⟨citations, hcitations, hmapped⟩ := forall₂_comp_iff.mp hb.mapped
    have hne : citations ≠ [] := by
      intro hnil
      rw [hnil, List.forall₂_nil_right_iff] at hcitations
      exact hb.cited hcitations
    have hmap : ((CitationMapper.init rt outputs).mapCitations rt citations).1 = some verified := by
      rw [mapCitations_eq hinit, if_neg hne, option_mapM_eq_some_iff]
      exact hmapped
    have hidx := (mapCitations_spec hinit citations).1
    refine ⟨_, entries, items, citations, _, ⟨rfl, ?_, hcitations, hb.text⟩,
      .inr ⟨verified, s, u, hmap, rfl, hb.combined, Prod.ext ?_ rfl⟩⟩
    · rw [hb.supporting]
      rfl
    · rw [if_neg fun hfew => hb.domains ((tooFewDomains_iff hidx _).mp hfew), hb.claim]

/-! ### Reordering carries over -/

theorem field?_concat (entries : List (String × Json)) (k key : String) (v : Json) :
    field? (entries ++ [(k, v)]) key = if key = k then some v else field? entries key := by
  unfold Json.field?
  rw [List.reverse_append, List.reverse_singleton, List.singleton_append, List.find?_cons]
  by_cases hk : key = k
  · simp [hk]
  · simp [hk, beq_false_of_ne (Ne.symm hk)]

/-- The domains a claim cites do not depend on the order of its evidence. -/
theorem tooFewDomains_perm {entries : List (String × Json)} {s : String}
    {verified verified' : List Evidence} {u : UncertaintyEstimate} (hp : verified.Perm verified') :
    TooFewDomains rt minCross m (candidateClaim entries s verified' u) ↔
      TooFewDomains rt minCross m (candidateClaim entries s verified u) := by
  have hlen : (m.getCitedDomains rt (candidateClaim entries s verified' u)).length =
      (m.getCitedDomains rt (candidateClaim entries s verified u)).length :=
    ((hp.filterMap (m.citedDomain rt)).dedup.length_eq).symm
  unfold TooFewDomains
  rw [hlen]
  exact Iff.rfl

/-- Other entries with the same claim but for the order of its citations. -/
theorem BuiltFrom.reorder {entries entries' : List (String × Json)} {items items' : List Json}
    {verified verified' : List Evidence} {s : String} {u : UncertaintyEstimate}
    {c : SynthesizedClaim} (hb : BuiltFrom rt minCross outputs entries items verified s u c)
    (hother : ∀ key, key ≠ "supporting_evidence" → field? entries' key = field? entries key)
    (hitems : field? entries' "supporting_evidence" = some (.arr items'))
    (hmapped : List.Forall₂ (fun item e => ∃ cited, EntryReadsAs rt item cited ∧
      indexedMatch rt (gatheredEvidence outputs) cited = some e) items' verified')
    (hp : verified.Perm verified') :
    BuiltFrom rt minCross outputs entries' items' verified' s u
      (candidateClaim entries s verified' u) := by
  have hsame : candidateClaim entries' s verified' u = candidateClaim entries s verified' u := by
    unfold candidateClaim
    rw [hother "claim_type" (by decide)]
  have hne : verified.map (·.uncertainty) ≠ [] := by
    intro hnil
    have hmapped := hb.mapped
    rw [List.map_eq_nil_iff.mp hnil, List.forall₂_nil_right_iff] at hmapped
    exact hb.cited hmapped
  refine ⟨?_, hitems, hmapped, ?_, ?_, ?_, hsame.symm⟩
  · intro hnil
    rw [hnil, List.forall₂_nil_left_iff] at hmapped
    rw [hmapped] at hp
    exact hne (by rw [hp.eq_nil]; rfl)
  · rw [hother "text" (by decide), hb.text]
  · rw [propagateUncertainty_perm hne (hp.map _), hb.combined]
  · rw [hsame]
    exact fun hfew => hb.domains ((tooFewDomains_perm hp).mp hfew)

theorem claimOf_reordered {entries : List (String × Json)} {items : List Json}
    {verified : List Evidence} {s : String} {u : UncertaintyEstimate} {c : SynthesizedClaim}
    (hb : BuiltFrom rt minCross outputs entries items verified s u c) {raw' : Json}
    (hr : Reordered (.obj entries) raw') :
    ∃ verified', verified.Perm verified' ∧
      claimOf rt minCross outputs raw' = some (candidateClaim entries s verified' u) := by
  obtain ⟨entries₀, entries', items₀, items', hobj, rfl, hitems₀, hitems', hperm, hother⟩ := hr
  obtain rfl := Json.obj.inj hobj
  obtain rfl : items = items₀ := by
    have := hb.supporting.symm.trans hitems₀
    exact Json.arr.inj (Option.some.inj this)
  obtain ⟨verified', hmapped', hp⟩ := List.perm_comp_forall₂ hperm.symm hb.mapped
  exact ⟨verified', hp.symm, claimOf_eq_some_iff.mpr
    ⟨entries', items', verified', s, u, rfl, hb.reorder hother hitems' hmapped' hp.symm⟩⟩

/-- Every order of the mapped evidence is that of some order of the citations. -/
theorem exists_reordered {entries : List (String × Json)} {items : List Json}
    {verified verified' : List Evidence} {s : String} {u : UncertaintyEstimate}
    {c : SynthesizedClaim} (hb : BuiltFrom rt minCross outputs entries items verified s u c)
    (hp : verified.Perm verified') :
    ∃ raw', Reordered (.obj entries) raw' ∧
      claimOf rt minCross outputs raw' = some (candidateClaim entries s verified' u) := by
  obtain ⟨items', hmapped', hperm⟩ := List.perm_comp_forall₂ hp.symm hb.mapped.flip
  have hitems' : field? (entries ++ [("supporting_evidence", .arr items')]) "supporting_evidence"
      = some (.arr items') := by
    rw [field?_concat, if_pos rfl]
  have hother : ∀ key, key ≠ "supporting_evidence" →
      field? (entries ++ [("supporting_evidence", .arr items')]) key = field? entries key := by
    intro key hkey
    rw [field?_concat, if_neg hkey]
  exact ⟨.obj (entries ++ [("supporting_evidence", .arr items')]),
    ⟨entries, _, items, items', rfl, rfl, hb.supporting, hitems', hperm.symm, hother⟩,
    claimOf_eq_some_iff.mpr ⟨_, items', verified', s, u, rfl,
      hb.reorder hother hitems' hmapped'.flip hp⟩⟩

/-! ### When the order does not show -/

theorem lastBounds_eq (verified : List Evidence) :
    lastBounds verified = lastWith (·.uncertaintyBounds) verified := by
  unfold lastBounds lastWith
  congr 1
  funext acc e
  exact Option.orElse_eq_or

theorem lastAssumptions_eq (verified : List Evidence) :
    lastAssumptions verified = lastWith statedAssumptions verified := by
  unfold lastAssumptions lastWith
  congr 1
  funext acc e
  unfold statedAssumptions
  rcases e.assumptions with _ | ⟨_ | ⟨a, as⟩⟩
  · rfl
  · rfl
  · rfl

/-- What a claim cites is what its citations are mapped to. -/
theorem citedBy_iff {entries : List (String × Json)} {items : List Json}
    {verified : List Evidence} {s : String} {u : UncertaintyEstimate} {c : SynthesizedClaim}
    (hb : BuiltFrom rt minCross outputs entries items verified s u c) {e : Evidence} :
    CitedBy rt (gatheredEvidence outputs) (.obj entries) e ↔ e ∈ verified := by
  constructor
  · rintro ⟨entries', items', hobj, hitems', item, hitem, cited, hreads, hmatch⟩
    obtain rfl := Json.obj.inj hobj
    obtain rfl : items = items' := Json.arr.inj (Option.some.inj (hb.supporting.symm.trans hitems'))
    obtain ⟨e', he', cited', hreads', hmatch'⟩ := forall₂_mem_left hb.mapped hitem
    -- an entry reads as one citation only
    have hsame : cited = cited' := Except.ok.inj
      ((readCitation_ok_iff.mpr hreads).symm.trans (readCitation_ok_iff.mpr hreads'))
    rw [hsame, hmatch'] at hmatch
    rw [← Option.some.inj hmatch]
    exact he'
  · intro he
    obtain ⟨item, hitem, cited, hreads, hmatch⟩ := forall₂_mem_right hb.mapped he
    exact ⟨entries, items, rfl, hb.supporting, item, hitem, cited, hreads, hmatch⟩

end Claims

/-- The claim reports the same bounds and the same assumptions in every order of its citations, and
its bounds contain the explicit bounds of all it cites. -/
def ReportsFaithfully (rt : Runtime) (minCross : Int) (outputs : List AgentOutput) (raw : Json)
    (c : SynthesizedClaim) : Prop :=
  (∀ raw', Reordered raw raw' → ∃ c', claimOf rt minCross outputs raw' = some c' ∧
    c'.uncertaintyBounds = c.uncertaintyBounds ∧
    Option.Rel SameMembers c'.assumptions c.assumptions) ∧
  ∀ e, CitedBy rt (gatheredEvidence outputs) raw e → ∀ b, e.uncertaintyBounds = some b →
    ∃ reported, c.uncertaintyBounds = some reported ∧ Contains reported b

/-- All items the claim cites that have explicit bounds have the same, and all that state
assumptions state the same. -/
def CitesInAgreement (rt : Runtime) (outputs : List AgentOutput) (raw : Json) : Prop :=
  ∀ e e', CitedBy rt (gatheredEvidence outputs) raw e →
    CitedBy rt (gatheredEvidence outputs) raw e' →
    (∀ b b', e.uncertaintyBounds = some b → e'.uncertaintyBounds = some b' → b = b') ∧
    ∀ as as', statedAssumptions e = some as → statedAssumptions e' = some as' → SameMembers as as'

section Faithful

variable {rt : Runtime} {minCross : Int} {outputs : List AgentOutput}
  {entries : List (String × Json)} {items : List Json} {verified verified' : List Evidence}
  {s : String} {u : UncertaintyEstimate} {c : SynthesizedClaim}

/-- A claim reports the explicit bounds of the last item that has some. -/
theorem candidateClaim_bounds {reported : ℚ × ℚ}
    (hlast : lastWith (·.uncertaintyBounds) verified = some reported) :
    (candidateClaim entries s verified u).uncertaintyBounds = some reported := by
  show some ((lastBounds verified).getD _) = some reported
  rw [lastBounds_eq, hlast, Option.getD_some]

/-- With its citations in any order, a faithful claim reports the same. -/
theorem candidateClaim_of_faithful
    (hb : BuiltFrom rt minCross outputs entries items verified s u c)
    (hfaithful : ReportsFaithfully rt minCross outputs (.obj entries) c)
    (hp : verified.Perm verified') :
    (candidateClaim entries s verified' u).uncertaintyBounds = c.uncertaintyBounds ∧
      Option.Rel SameMembers (candidateClaim entries s verified' u).assumptions
        c.assumptions := by
  obtain ⟨raw', hr, hraw'⟩ := exists_reordered hb hp
  obtain ⟨c', hc', hbounds, hassumptions⟩ := hfaithful.1 raw' hr
  rw [hraw'] at hc'
  rw [Option.some.inj hc']
  exact ⟨hbounds, hassumptions⟩

/-- So it reports the bounds of any item it cites: that item may come last. -/
theorem bounds_of_faithful (hb : BuiltFrom rt minCross outputs entries items verified s u c)
    (hfaithful : ReportsFaithfully rt minCross outputs (.obj entries) c) {e : Evidence}
    (he : e ∈ verified) {b : ℚ × ℚ} (hbounds : e.uncertaintyBounds = some b) :
    c.uncertaintyBounds = some b := by
  obtain ⟨verified', hp, hlast⟩ := exists_perm_lastWith (f := (·.uncertaintyBounds)) he hbounds
  rw [← (candidateClaim_of_faithful hb hfaithful hp).1]
  exact candidateClaim_bounds hlast

/-- In the same way the assumptions. -/
theorem assumptions_of_faithful (hb : BuiltFrom rt minCross outputs entries items verified s u c)
    (hfaithful : ReportsFaithfully rt minCross outputs (.obj entries) c) {e : Evidence}
    (he : e ∈ verified) {as : List String} (has : statedAssumptions e = some as) :
    ∃ reported, c.assumptions = some reported ∧ SameMembers as reported := by
  obtain ⟨verified', hp, hlast⟩ := exists_perm_lastWith (f := statedAssumptions) he has
  have hrel : Option.Rel SameMembers (lastAssumptions verified') c.assumptions :=
    (candidateClaim_of_faithful hb hfaithful hp).2
  rw [lastAssumptions_eq, hlast] at hrel
  exact optionRel_some hrel

theorem citesInAgreement_of_faithful
    (hb : BuiltFrom rt minCross outputs entries items verified s u c)
    (hfaithful : ReportsFaithfully rt minCross outputs (.obj entries) c) :
    CitesInAgreement rt outputs (.obj entries) := by
  intro e e' he he'
  rw [citedBy_iff hb] at he he'
  refine ⟨?_, ?_⟩
  · intro b b' hbounds hbounds'
    exact Option.some.inj ((bounds_of_faithful hb hfaithful he hbounds).symm.trans
      (bounds_of_faithful hb hfaithful he' hbounds'))
  · intro as as' has has'
    obtain ⟨reported, hreported, hsame⟩ := assumptions_of_faithful hb hfaithful he has
    obtain ⟨reported', hreported', hsame'⟩ := assumptions_of_faithful hb hfaithful he' has'
    obtain rfl := Option.some.inj (hreported.symm.trans hreported')
    exact fun x => (hsame x).trans (hsame' x).symm

/-- Where the items agree, their order does not show in what is reported. -/
theorem candidateClaim_perm (hbounds : ValuesAgree (·.uncertaintyBounds) (· = ·) verified)
    (hassumptions : ValuesAgree statedAssumptions SameMembers verified)
    (hp : verified.Perm verified') :
    (candidateClaim entries s verified' u).uncertaintyBounds =
        (candidateClaim entries s verified u).uncertaintyBounds ∧
      Option.Rel SameMembers (candidateClaim entries s verified' u).assumptions
        (candidateClaim entries s verified u).assumptions := by
  refine ⟨?_, ?_⟩
  · show some ((lastBounds verified').getD _) = some ((lastBounds verified).getD _)
    rw [lastBounds_eq, lastBounds_eq, eq_of_optionRel_eq (lastWith_rel_of_agree hbounds hp)]
  · show Option.Rel SameMembers (lastAssumptions verified') (lastAssumptions verified)
    rw [lastAssumptions_eq, lastAssumptions_eq]
    refine lastWith_rel_of_agree ?_ hp.symm
    intro e he e' he' as as' has has'
    exact hassumptions e (hp.mem_iff.mpr he) e' (hp.mem_iff.mpr he') as as' has has'

/-- Where they agree on their bounds, these are reported. -/
theorem candidateClaim_bounds_of_agree
    (hbounds : ValuesAgree (·.uncertaintyBounds) (· = ·) verified) {e : Evidence}
    (he : e ∈ verified) {b : ℚ × ℚ} (hb : e.uncertaintyBounds = some b) :
    (candidateClaim entries s verified u).uncertaintyBounds = some b := by
  cases hlast : lastWith (·.uncertaintyBounds) verified with
  | none =>
      have hnone := lastWith_eq_none_iff.mp hlast e he
      rw [hb] at hnone
      cases hnone
  | some reported =>
      obtain ⟨e', he', hreported⟩ := mem_of_lastWith hlast
      obtain rfl := hbounds e he e' he' b reported hb hreported
      exact candidateClaim_bounds hlast

theorem faithful_of_citesInAgreement
    (hb : BuiltFrom rt minCross outputs entries items verified s u c)
    (hagree : CitesInAgreement rt outputs (.obj entries)) :
    ReportsFaithfully rt minCross outputs (.obj entries) c := by
  have hcited : ∀ e ∈ verified, CitedBy rt (gatheredEvidence outputs) (.obj entries) e :=
    fun e he => (citedBy_iff hb).mpr he
  have hbounds : ValuesAgree (·.uncertaintyBounds) (· = ·) verified := by
    intro e he e' he'
    exact (hagree e e' (hcited e he) (hcited e' he')).1
  have hassumptions : ValuesAgree statedAssumptions SameMembers verified := by
    intro e he e' he'
    exact (hagree e e' (hcited e he) (hcited e' he')).2
  refine ⟨?_, ?_⟩
  · intro raw' hr
    obtain ⟨verified', hp, hraw'⟩ := claimOf_reordered hb hr
    refine ⟨_, hraw', ?_⟩
    rw [hb.claim]
    exact candidateClaim_perm hbounds hassumptions hp
  · intro e he b hexplicit
    rw [citedBy_iff hb] at he
    refine ⟨b, ?_, le_refl _, le_refl _⟩
    rw [hb.claim]
    exact candidateClaim_bounds_of_agree hbounds he hexplicit

theorem reportsFaithfully_iff {raw : Json} (hc : claimOf rt minCross outputs raw = some c) :
    ReportsFaithfully rt minCross outputs raw c ↔ CitesInAgreement rt outputs raw := by
  obtain ⟨entries, items, verified, s, u, rfl, hb⟩ := claimOf_eq_some_iff.mp hc
  exact ⟨citesInAgreement_of_faithful hb, faithful_of_citesInAgreement hb⟩

end Faithful

/-! ### The whole answer -/

section Answer

variable {rt : Runtime} {outputs : List AgentOutput} {m : CitationMapper} {minCross : Int}

/-- What a raw claim becomes does not depend on the claims before it. -/
theorem claimOf_eq (hm : IndexesOf rt outputs m) {raw : Json}
    {r : Option SynthesizedClaim × CitationMapper} (h : readClaim rt minCross m raw = .ok r) :
    claimOf rt minCross outputs raw = r.1 := by
  have hinit : IndexesOf rt outputs (CitationMapper.init rt outputs) := ⟨rfl, rfl, rfl⟩
  obtain ⟨entries, items, citations, text, hreads, hr⟩ := readClaim_ok_iff.mp h
  have hmap : (m.mapCitations rt citations).1
      = ((CitationMapper.init rt outputs).mapCitations rt citations).1 := by
    rw [mapCitations_eq hm, mapCitations_eq hinit]
  have hfew : ∀ c, TooFewDomains rt minCross (m.mapCitations rt citations).2 c ↔
      TooFewDomains rt minCross
        ((CitationMapper.init rt outputs).mapCitations rt citations).2 c := by
    intro c
    rw [tooFewDomains_iff (mapCitations_spec hm citations).1,
      tooFewDomains_iff (mapCitations_spec hinit citations).1]
  have hsame : ∃ m',
      readClaim rt minCross (CitationMapper.init rt outputs) raw = .ok (r.1, m') := by
    rcases hr with ⟨hnone, rfl⟩ | ⟨verified, s, u, hsome, rfl, hu, rfl⟩
    · exact ⟨_, readClaim_ok_iff.mpr ⟨entries, items, citations, text, hreads,
        .inl ⟨hmap ▸ hnone, rfl⟩⟩⟩
    · refine ⟨((CitationMapper.init rt outputs).mapCitations rt citations).2,
        readClaim_ok_iff.mpr ⟨entries, items, citations, _, hreads,
          .inr ⟨verified, s, u, hmap ▸ hsome, rfl, hu, ?_⟩⟩⟩
      simp only [hfew]
  obtain ⟨m', hread⟩ := hsame
  unfold claimOf
  rw [hread]

variable (outputs) in
theorem readClaims_eq (rawClaims : List Json) :
    ∀ {m : CitationMapper}, IndexesOf rt outputs m → ∀ {claims : List SynthesizedClaim},
      readClaims rt minCross m rawClaims = .ok claims →
      claims = rawClaims.filterMap (claimOf rt minCross outputs) := by
  induction rawClaims with
  | nil =>
      intro m _ claims h
      exact (Except.ok.inj h).symm
  | cons raw rest ih =>
      intro m hm claims h
      rw [readClaims] at h
      obtain ⟨⟨claim, m'⟩, hread, h⟩ := ok_of_bind h
      obtain ⟨tail, htail, h⟩ := ok_of_bind h
      rw [← Except.ok.inj h, ih (readClaim_indexesOf hm hread) htail, List.filterMap_cons,
        claimOf_eq hm hread]
      cases claim with
      | none => rfl
      | some c => rfl

/--
**The bounds synthesis reports, and when they are faithful.**

When synthesis returns on an answer of the model, its claims are those built from the raw claims of
the answer, in order, or the one claim that says none was kept.  A built claim reports the same
bounds and assumptions in every order of its citations, with bounds that contain the explicit
bounds of all it cites, exactly if what it cites is in agreement.
-/
theorem synthesize_reports_iff (rt : Runtime) (minCross : Int) (parsed : Json)
    (outputs : List AgentOutput) (hpool : gatheredEvidence outputs ≠ []) (out : SynthesisOutput)
    (hout : synthesize rt minCross (.ok parsed) outputs = .ok out) :
    ∃ entries rawClaims, parsed = .obj entries ∧
      ((field? entries "claims").getD (.arr [])).iter = .ok rawClaims ∧
      (out.claims = rawClaims.filterMap (claimOf rt minCross outputs) ∨
        rawClaims.filterMap (claimOf rt minCross outputs) = [] ∧
          ∀ c ∈ out.claims, IsNoEvidence c) ∧
      ∀ raw ∈ rawClaims, ∀ c, claimOf rt minCross outputs raw = some c →
        (ReportsFaithfully rt minCross outputs raw c ↔ CitesInAgreement rt outputs raw) := by
  unfold synthesize at hout
  simp only [List.isEmpty_iff, if_neg hpool] at hout
  obtain ⟨_, hfield, hout⟩ := ok_of_bind hout
  obtain ⟨entries, rfl, rfl⟩ := getD_ok_iff.mp hfield
  obtain ⟨rawClaims, hraw, hout⟩ := ok_of_bind hout
  obtain ⟨claims, hclaims, hout⟩ := ok_of_bind hout
  have heq := readClaims_eq outputs rawClaims ⟨rfl, rfl, rfl⟩ hclaims
  refine ⟨entries, rawClaims, rfl, hraw, ?_, fun raw _ c hc => reportsFaithfully_iff hc⟩
  by_cases hnone : claims = []
  · rw [if_pos hnone] at hout
    obtain ⟨c, hc, hout⟩ := ok_of_bind hout
    refine .inr ⟨heq ▸ hnone, ?_⟩
    intro c' hc'
    rw [← Except.ok.inj hout] at hc'
    rw [List.mem_singleton.mp hc']
    obtain ⟨htext, hcited, hconfidence⟩ := noEvidenceClaim_spec hc
    exact ⟨.inr htext, hcited, hconfidence⟩
  · rw [if_neg hnone] at hout
    rw [← Except.ok.inj hout]
    exact .inl heq

/-- A claim cites gathered items only. -/
theorem mem_of_citedBy {raw : Json} {e : Evidence}
    (h : CitedBy rt (gatheredEvidence outputs) raw e) : e ∈ gatheredEvidence outputs := by
  obtain ⟨_, _, -, -, _, -, cited, -, hmatch⟩ := h
  have hinit : IndexesOf rt outputs (CitationMapper.init rt outputs) := ⟨rfl, rfl, rfl⟩
  rw [← find_eq_indexed hinit] at hmatch
  exact (find_spec hinit cited.evidenceId cited.source cited.claim).2 e hmatch

end Answer

theorem synthesize_reports_sample :
    ∃ raw c, claimOf Runtime.reference 2 [sampleOutput] raw = some c ∧
      ReportsFaithfully Runtime.reference 2 [sampleOutput] raw c := by
  have hrun : (synthesize Runtime.reference 2 (.ok sampleAnswer) [sampleOutput]).toOption.map
      (fun out => out.claims.map (·.supportingEvidence.length)) = some [1] := by decide +kernel
  obtain ⟨out, hsome, hlen⟩ := Option.map_eq_some_iff.mp hrun
  have hout : synthesize Runtime.reference 2 (.ok sampleAnswer) [sampleOutput] = .ok out := by
    cases hres : synthesize Runtime.reference 2 (.ok sampleAnswer) [sampleOutput] with
    | error e => rw [hres] at hsome; cases hsome
    | ok out' => rw [hres] at hsome; rw [Option.some.inj hsome]
  obtain ⟨entries, rawClaims, -, -, hclaims, hiff⟩ := synthesize_reports_iff Runtime.reference 2
    sampleAnswer [sampleOutput] (by simp [gatheredEvidence, sampleOutput]) out hout
  obtain ⟨c, hc⟩ : ∃ c, c ∈ out.claims := by
    refine List.exists_mem_of_ne_nil _ ?_
    intro hnil
    simp [hnil] at hlen
  rcases hclaims with heq | ⟨-, hnone⟩
  · rw [heq] at hc
    obtain ⟨raw, hraw, hc⟩ := List.mem_filterMap.mp hc
    refine ⟨raw, c, hc, (hiff raw hraw c hc).mpr ?_⟩
    -- the only item there is has neither bounds nor assumptions
    intro e e' he he'
    obtain rfl : e = sampleEvidence := List.mem_singleton.mp (mem_of_citedBy he)
    refine ⟨?_, ?_⟩
    · intro b b' hb
      cases hb
    · intro as as' has
      cases has
  · -- the sample answer cites, so its claim is not the one that says none was kept
    have hone : c.supportingEvidence.length ∈ out.claims.map (·.supportingEvidence.length) :=
      List.mem_map.mpr ⟨c, hc, rfl⟩
    rw [hlen, (hnone c hc).2.1] at hone
    simp at hone

/-- Two items with explicit bounds that do not overlap. -/
def boundedOutput : AgentOutput :=
  ⟨"simulation", [{ sampleEvidence with uncertaintyBounds := some (0, 1) },
    { sampleEvidence with id := sampleId', uncertaintyBounds := some (2, 3) }], []⟩

/-- One claim that cites items by identifier, in this order. -/
def boundedAnswer (ids : List Uuid) : Json :=
  .obj [("claims", .arr [.obj [("text", .str "Two scenarios were simulated."),
    ("supporting_evidence", .arr (ids.map fun id => .obj [("evidence_id", .str id.text),
      ("source", .str "simulation"), ("claim", .str "scenario")]))]])]

/-- The bounds are those of whichever item is cited last. -/
theorem synthesize_reports_last_bounds :
    (synthesize Runtime.reference 2 (.ok (boundedAnswer [sampleId, sampleId']))
        [boundedOutput]).toOption.map (fun out => out.claims.map (·.uncertaintyBounds))
      = some [some (2, 3)] ∧
    (synthesize Runtime.reference 2 (.ok (boundedAnswer [sampleId', sampleId]))
        [boundedOutput]).toOption.map (fun out => out.claims.map (·.uncertaintyBounds))
      = some [some (0, 1)] ∧
    ¬ Contains (2, 3) (0, 1) := by
  refine ⟨by decide +kernel, by decide +kernel, ?_⟩
  unfold Contains
  norm_num

end GaiaOS
