/-
When the anonymization hides what it excludes.

Two traces differ only under excluded keys if they are the same once those values are blanked.  The
sanitized trace is then the same, for what is dropped does not matter.  The domains are printed from
the trace as it is stored: they are the same for all such traces exactly if no excluded key occurs
in them, for a value under one can be as long as one likes, and so is what is printed.
-/
import GaiaOS.App.Anonymization

namespace GaiaOS

namespace Json

variable {p : String → Bool} {filler : Json}

theorem truthy_fill (p : String → Bool) (filler x : Json) :
    (fill p filler x).truthy = x.truthy := by
  cases x with
  | arr items =>
      rw [fill_arr]
      simp [truthy]
  | obj entries =>
      rw [fill_obj]
      simp [truthy]
  | _ => rw [fill_of_isLeaf rfl]

/-- An entry that is not filled itself. -/
theorem field?_fill {key : String} (h : p key = false) (entries : List (String × Json)) :
    field? (entries.map fun entry =>
        (entry.1, if p entry.1 then filler else fill p filler entry.2)) key =
      (field? entries key).map (fill p filler) := by
  unfold field?
  rw [← List.map_reverse, List.find?_map, Option.map_map, Option.map_map]
  show ((entries.reverse.find? fun entry => entry.1 == key).map _) = _
  cases hfind : entries.reverse.find? fun entry => entry.1 == key with
  | none => rfl
  | some entry =>
      have hkey : entry.1 = key := by simpa using List.find?_some hfind
      simp [hkey, h]

theorem getD_fill {key : String} (h : p key = false) (filler x : Json) :
    (fill p filler x).getD key .null = (x.getD key .null).map (fill p filler) := by
  cases x with
  | obj entries =>
      rw [fill_obj]
      unfold getD
      dsimp only
      rw [field?_fill h]
      cases field? entries key with
      | none => simp [Except.map, fill_of_isLeaf (x := .null) rfl]
      | some value => rfl
  | arr items =>
      rw [fill_arr]
      rfl
  | _ =>
      rw [fill_of_isLeaf rfl]
      rfl

theorem pyOr_fill (p : String → Bool) (filler x y : Json) :
    (fill p filler x).pyOr (fill p filler y) = fill p filler (x.pyOr y) := by
  unfold pyOr
  rw [truthy_fill]
  split_ifs
  all_goals rfl

end Json

namespace Anonymization

open Json

section Traces

variable {rt : TextRuntime}

theorem not_excluded_of_lower {key : String}
    (h : key.toList.all (fun c => c.isLower || c == '_') = true)
    (hkey : key ∉ excludedTraceKeys) (hparts : ∀ part ∈ sensitiveParts, pyIn part key = false) :
    isExcluded rt key = false := by
  unfold isExcluded
  rw [rt.lower_lower key (by simpa using h)]
  simpa [hkey] using hparts

theorem domains_not_excluded : isExcluded rt "domains" = false :=
  not_excluded_of_lower rfl (by decide) (by decide)

theorem active_agents_not_excluded : isExcluded rt "active_agents" = false :=
  not_excluded_of_lower rfl (by decide) (by decide)

/-- Filling what is excluded in a trace fills it in the domains. -/
theorem domainsValue_fill (rt : TextRuntime) (filler trace : Json) :
    domainsValue (fill (isExcluded rt) filler trace) =
      (domainsValue trace).map (fill (isExcluded rt) filler) := by
  unfold domainsValue
  rw [getD_fill domains_not_excluded, getD_fill active_agents_not_excluded]
  cases trace.getD "domains" .null with
  | error e => rfl
  | ok domains =>
      cases trace.getD "active_agents" .null with
      | error e => rfl
      | ok activeAgents =>
          show Except.ok (pyOr _ (pyOr _ _)) = Except.ok _
          rw [← pyOr_fill, ← pyOr_fill]
          rw [fill_arr]
          rfl

/-- No excluded key occurs in the domains of a trace. -/
def CleanDomains (rt : TextRuntime) (trace : Json) : Prop :=
  ∀ domains, domainsValue trace = .ok domains → domains.hasKey (isExcluded rt) = false

/-- The traces are the same but for values under excluded keys. -/
def SameTrace (rt : TextRuntime) (trace trace' : Json) : Prop :=
  fill (isExcluded rt) .null trace = fill (isExcluded rt) .null trace'

theorem SameTrace.sanitize {trace trace' : Json} (h : SameTrace rt trace trace') :
    sanitizeExecutionTrace rt trace = sanitizeExecutionTrace rt trace' := by
  unfold sanitizeExecutionTrace
  rw [← dropKeys_fill _ .null trace, h, dropKeys_fill]

/-- Clean domains are the same in all such traces. -/
theorem SameTrace.domainsValue {trace trace' : Json} (h : SameTrace rt trace trace')
    (hclean : CleanDomains rt trace) : domainsValue trace' = domainsValue trace := by
  have hfill : (Anonymization.domainsValue trace').map (fill (isExcluded rt) .null) =
      (Anonymization.domainsValue trace).map (fill (isExcluded rt) .null) := by
    rw [← domainsValue_fill, ← domainsValue_fill, h]
  cases hdomains : Anonymization.domainsValue trace with
  | error e =>
      rw [hdomains] at hfill
      cases hdomains' : Anonymization.domainsValue trace' with
      | error e' =>
          rw [hdomains'] at hfill
          cases hfill
          rfl
      | ok domains' =>
          rw [hdomains'] at hfill
          cases hfill
  | ok domains =>
      rw [hdomains] at hfill
      cases hdomains' : Anonymization.domainsValue trace' with
      | error e' =>
          rw [hdomains'] at hfill
          cases hfill
      | ok domains' =>
          rw [hdomains'] at hfill
          have hsame : fill (isExcluded rt) .null domains' = domains := by
            rw [← fill_of_hasKey_false .null (hclean domains hdomains)]
            exact Except.ok.inj hfill
          have hclean' : domains'.hasKey (isExcluded rt) = false := by
            rw [← hasKey_fill_null, hsame]
            exact hclean domains hdomains
          rw [← hsame, fill_of_hasKey_false .null hclean']

theorem SameTrace.extract {trace trace' : Json} (h : SameTrace rt trace trace')
    (hclean : CleanDomains rt trace) :
    extractDomainsInvolved rt trace' = extractDomainsInvolved rt trace := by
  have htruthy : trace'.truthy = trace.truthy := by
    rw [← truthy_fill (isExcluded rt) .null trace', ← h, truthy_fill]
  unfold extractDomainsInvolved
  rw [htruthy, h.domainsValue hclean]

/-- What is printed of a value with an excluded key changes with the value under it. -/
theorem exists_pyStr_ne (rt : TextRuntime) {x : Json} (h : x.hasKey (isExcluded rt) = true) :
    ∃ filler, pyStr rt.reprs (fill (isExcluded rt) filler x) ≠ pyStr rt.reprs x := by
  refine ⟨.arr (List.replicate ((pyRepr rt.reprs x).length + 1) .null), fun hsame => ?_⟩
  have hlong := le_length_fill rt.reprs h ((pyRepr rt.reprs x).length + 1)
  cases x with
  | arr items =>
      rw [fill_arr] at hsame hlong
      have hrepr : pyRepr rt.reprs _ = pyRepr rt.reprs (.arr items) := hsame
      rw [hrepr] at hlong
      omega
  | obj entries =>
      rw [fill_obj] at hsame hlong
      have hrepr : pyRepr rt.reprs _ = pyRepr rt.reprs (.obj entries) := hsame
      rw [hrepr] at hlong
      omega
  | _ => cases h

/-- What is printed of the domains. -/
def printed (rt : TextRuntime) : Json → List String
  | .arr domains => domains.map (pyStr rt.reprs)
  | domains => [pyStr rt.reprs domains]

theorem extract_eq_printed {trace domains : Json} (htruthy : trace.truthy = true)
    (hdomains : domainsValue trace = .ok domains) :
    extractDomainsInvolved rt trace = .ok (printed rt domains) := by
  unfold extractDomainsInvolved
  rw [if_neg (by simp [htruthy]), hdomains]
  cases domains
  all_goals rfl

theorem exists_printed_ne {domains : Json} (h : domains.hasKey (isExcluded rt) = true) :
    ∃ filler, printed rt (fill (isExcluded rt) filler domains) ≠ printed rt domains := by
  cases domains with
  | arr items =>
      rw [hasKey_arr, List.any_eq_true] at h
      obtain ⟨item, hitem, hkey⟩ := h
      obtain ⟨filler, hne⟩ := exists_pyStr_ne rt hkey
      refine ⟨filler, fun hsame => hne ?_⟩
      rw [fill_arr, printed, printed, List.map_map] at hsame
      exact List.map_inj_left.mp hsame item hitem
  | obj entries =>
      obtain ⟨filler, hne⟩ := exists_pyStr_ne rt h
      refine ⟨filler, fun hsame => hne ?_⟩
      rw [fill_obj] at hsame ⊢
      exact List.singleton_inj.mp hsame
  | _ => cases h

theorem truthy_of_hasKey {trace domains : Json} (hdomains : domainsValue trace = .ok domains)
    (h : domains.hasKey (isExcluded rt) = true) : trace.truthy = true := by
  cases trace with
  | obj entries =>
      cases entries with
      | nil =>
          cases hdomains
          cases h
      | cons entry entries => rfl
  | _ => cases hdomains

/-- If an excluded key occurs in the domains, another value under it gives other domains. -/
theorem exists_extract_ne {trace domains : Json} (hdomains : domainsValue trace = .ok domains)
    (h : domains.hasKey (isExcluded rt) = true) :
    ∃ trace', SameTrace rt trace trace' ∧
      extractDomainsInvolved rt trace' ≠ extractDomainsInvolved rt trace := by
  have htruthy := truthy_of_hasKey hdomains h
  obtain ⟨filler, hne⟩ := exists_printed_ne h
  refine ⟨fill (isExcluded rt) filler trace, (fill_fill _ _ _ _).symm, fun hsame => hne ?_⟩
  have hfilled : domainsValue (fill (isExcluded rt) filler trace) =
      .ok (fill (isExcluded rt) filler domains) := by
    rw [domainsValue_fill, hdomains]
    rfl
  rw [extract_eq_printed (by rw [truthy_fill]; exact htruthy) hfilled,
    extract_eq_printed htruthy hdomains] at hsame
  exact Except.ok.inj hsame

end Traces

/-- Two investigations differ only in what the policy hides: the user, the query without consent if
its category is the same, and values under excluded keys of the trace. -/
structure DifferOnlyHidden (rt : TextRuntime) (row row' : InvestigationRow) : Prop where
  id : row.id = row'.id
  queryText : row.queryText = row'.queryText ∨
    row.consentPublicResearch = false ∧
      deriveQueryCategory rt row.queryText row.complexityTier =
        deriveQueryCategory rt row'.queryText row.complexityTier
  complexityTier : row.complexityTier = row'.complexityTier
  confidence : row.confidence = row'.confidence
  consentPublicResearch : row.consentPublicResearch = row'.consentPublicResearch
  executionTrace : SameTrace rt row.executionTrace row'.executionTrace
  createdAt : row.createdAt = row'.createdAt
  completedAt : row.completedAt = row'.completedAt

/-- **When the anonymization is non-interfering.**  For every investigation: all investigations that
differ from it only in the user, in the query without consent and with the same category, and in
values under excluded keys at any depth of the trace have the same anonymization, if and only if no
excluded key occurs, at any depth, in the value of the trace that is used as its domains. -/
theorem anonymization_noninterfering_iff (rt : TextRuntime) (row : InvestigationRow) :
    (∀ row', DifferOnlyHidden rt row row' → apply rt row' = apply rt row) ↔
      CleanDomains rt row.executionTrace := by
  constructor
  · intro h domains hdomains
    by_contra hkey
    obtain ⟨trace', hsame, hne⟩ := exists_extract_ne hdomains (by simpa using hkey)
    have happly := h { row with executionTrace := trace' }
      ⟨rfl, .inl rfl, rfl, rfl, rfl, hsame, rfl, rfl⟩
    refine hne ?_
    unfold apply at happly
    cases hleft : extractDomainsInvolved rt trace' with
    | error e =>
        cases hright : extractDomainsInvolved rt row.executionTrace with
        | error e' =>
            rw [hleft, hright] at happly
            cases happly
            rfl
        | ok domains' =>
            rw [hleft, hright] at happly
            cases happly
    | ok domains' =>
        cases hright : extractDomainsInvolved rt row.executionTrace with
        | error e' =>
            rw [hleft, hright] at happly
            cases happly
        | ok domains'' =>
            rw [hleft, hright] at happly
            have hinvolved := congrArg PublicInvestigation.domainsInvolved (Except.ok.inj happly)
            exact congrArg Except.ok hinvolved
  · intro hclean row' h
    have hcategory : deriveQueryCategory rt row'.queryText row'.complexityTier =
        deriveQueryCategory rt row.queryText row.complexityTier := by
      rw [← h.complexityTier]
      rcases h.queryText with hquery | ⟨-, hsame⟩
      · rw [hquery]
      · exact hsame.symm
    have hquery : (if row'.consentPublicResearch then some row'.queryText else none) =
        if row.consentPublicResearch then some row.queryText else none := by
      rw [← h.consentPublicResearch]
      rcases h.queryText with hquery | ⟨hconsent, -⟩
      · rw [hquery]
      · rw [hconsent]
        rfl
    unfold apply
    rw [h.executionTrace.extract hclean, hcategory, hquery, ← h.executionTrace.sanitize, ← h.id,
      ← h.complexityTier, ← h.confidence, ← h.consentPublicResearch, ← h.createdAt,
      ← h.completedAt]

/-- A runtime for evaluation: ASCII case, words of ASCII letters and digits, texts in single
quotes. -/
def asciiRuntime : TextRuntime where
  lower text := String.ofList (text.toList.map Char.toLower)
  words text := ((text.toList.splitOnP fun c => !(c.isAlphanum || c = '_')).filter
    (!·.isEmpty)).map String.ofList
  reprs := ⟨fun s => "'" ++ s ++ "'", fun _ => "nan"⟩
  isoformat := toString
  lower_lower text h := by
    have hlower : ∀ c ∈ text.toList, c.toLower = c := by
      intro c hc
      unfold Char.toLower
      rw [dif_neg]
      rintro ⟨-, hle⟩
      rcases h c hc with hlower | rfl
      · change (decide (c.val ≥ 'a'.val) && decide (c.val ≤ 'z'.val)) = true at hlower
        rw [Bool.and_eq_true, decide_eq_true_eq, decide_eq_true_eq] at hlower
        exact absurd (UInt32.le_trans hlower.1 hle) (by decide)
      · exact absurd hle (by decide)
    rw [List.map_congr_left hlower, List.map_id', String.ofList_toList]

/-- An investigation whose agents are listed with the key they used. -/
def agentWithKey (apiKey : String) : InvestigationRow where
  id := ⟨"00000000-0000-0000-0000-000000000001", rfl⟩
  userId := none
  queryText := "Recent seismic activity"
  complexityTier := none
  confidence := none
  consentPublicResearch := false
  executionTrace :=
    .obj [("active_agents", .arr [.obj [("name", .str "seismic"), ("api_key", .str apiKey)]])]
  createdAt := 0
  completedAt := none

/-- Two investigations that differ in an API key have different anonymizations: the key is printed
among the domains. -/
theorem api_key_among_domains :
    DifferOnlyHidden asciiRuntime (agentWithKey "k-1") (agentWithKey "k-2") ∧
      extractDomainsInvolved asciiRuntime (agentWithKey "k-1").executionTrace =
        .ok ["\x7b'name': 'seismic', 'api_key': 'k-1'\x7d"] ∧
      apply asciiRuntime (agentWithKey "k-1") ≠ apply asciiRuntime (agentWithKey "k-2") := by
  refine ⟨⟨rfl, .inl rfl, rfl, rfl, rfl, rfl, rfl, rfl⟩, rfl, fun h => ?_⟩
  have hdomains : (Except.ok ["\x7b'name': 'seismic', 'api_key': 'k-1'\x7d"] :
      Except PyError (List String)) = .ok ["\x7b'name': 'seismic', 'api_key': 'k-2'\x7d"] :=
    congrArg (Except.map PublicInvestigation.domainsInvolved) h
  rw [Except.ok.injEq] at hdomains
  exact absurd hdomains (by decide)

end Anonymization

end GaiaOS
