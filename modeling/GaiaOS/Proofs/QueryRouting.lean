/-
What a query makes the graph do.

The classifier reads a query clause by clause: what ends a clause belongs to no word and to no
pattern, so every search in the query is a search in one of its clauses.  The graph carries what
the supervisor wrote from there on, since no other node writes it, and the nodes that ask for it
are the fan-out, once, and the edge after it.
-/
import GaiaOS.Agents.Classifier
import GaiaOS.Proofs.ReplanLoop

namespace GaiaOS

namespace Classifier

open Regex

/-! ### Clauses -/

section Clauses

variable (word : WordChars)

/-- What ends a clause: no part of a word, no white space and no dot. -/
def endsClause (c : Char) : Bool := !word.isWord c && !isPySpace c && c != '.'

/-- The clauses of a lower-case text. -/
def clauses (text : List Char) : List (List Char) := text.splitOnP (endsClause word)

/-- Letters, digits and dots of ASCII, and at least one. -/
def spelled (text : String) : Bool :=
  text != "" && text.toList.all fun c => (c.toNat < 128 && c.isAlphanum) || c == '.'

variable {word} {c : Char}

theorem ne_of_spelled (hc : endsClause word c = true) {d : Char}
    (hd : ((d.toNat < 128 && d.isAlphanum) || d == '.') = true) : d ≠ c := by
  rintro rfl
  simp only [endsClause, Bool.and_eq_true, Bool.not_eq_true', bne_iff_ne, ne_eq] at hc
  rcases Bool.or_eq_true_iff.mp hd with hd | hd
  · obtain ⟨hascii, halnum⟩ := Bool.and_eq_true_iff.mp hd
    have hword := word.ascii d (by simpa using hascii)
    rw [halnum, Bool.true_or, hc.1.1] at hword
    cases hword
  · exact hc.2 (beq_iff_eq.mp hd)

theorem avoids_word {ps : List (Char → Bool)} (h : ∀ p ∈ ps, p c = false) :
    (Pattern.word ps).avoids c = true := by
  induction ps with
  | nil => rfl
  | cons p ps ih =>
      have hp := h p List.mem_cons_self
      have hps := ih fun q hq => h q (List.mem_cons_of_mem p hq)
      simp [Pattern.word, Pattern.avoids, hp, hps]

theorem keyword_avoids (hc : endsClause word c = true) {text : String}
    (h : spelled text = true) : (keyword text).avoids c = true := by
  refine avoids_word fun p hp => ?_
  obtain ⟨d, hd, rfl⟩ := List.mem_map.mp hp
  have hall := List.all_eq_true.mp (Bool.and_eq_true_iff.mp h).2 d hd
  simpa using (ne_of_spelled hc hall).symm

theorem keyword_separates (hc : endsClause word c = true) {text : String}
    (h : spelled text = true) : Separates word.isWord c (keyword text) where
  noWord := by
    simp only [endsClause, Bool.and_eq_true, Bool.not_eq_true'] at hc
    exact hc.1.1
  avoided := keyword_avoids hc h
  nonempty := by
    have hne : text.toList ≠ [] := by
      intro hnil
      have hempty : text = "" := by
        rw [← String.toList_inj, hnil]
        rfl
      rw [hempty] at h
      cases h
    obtain ⟨d, rest, htext⟩ := List.exists_cons_of_ne_nil hne
    simp [keyword, literal, htext, Pattern.word, Pattern.ways]

theorem separates_seq {a b : Pattern Char} (ha : Separates word.isWord c a)
    (hb : b.avoids c = true) : Separates word.isWord c (a.seq b) where
  noWord := ha.noWord
  avoided := by simp [Pattern.avoids, ha.avoided, hb]
  nonempty := by rw [Pattern.ways, ha.nonempty, List.flatMap_nil]

theorem plural_separates (hc : endsClause word c = true) {text : String}
    (h : spelled text = true) : Separates word.isWord c (plural text) := by
  refine separates_seq (keyword_separates hc h) ?_
  have hs := keyword_avoids hc (show spelled "s" = true by decide)
  simp [Pattern.opt, Pattern.avoids, hs]

theorem either_separates (hc : endsClause word c = true) {text first second : String}
    (h : spelled text = true) (hfirst : spelled first = true) (hsecond : spelled second = true) :
    Separates word.isWord c ((keyword text).seq ((keyword first).alt (keyword second))) := by
  refine separates_seq (keyword_separates hc h) ?_
  simp [Pattern.avoids, keyword_avoids hc hfirst, keyword_avoids hc hsecond]

theorem phrase_separates (hc : endsClause word c = true) {a b : Pattern Char}
    (ha : Separates word.isWord c a) (hb : Separates word.isWord c b) :
    Separates word.isWord c (phrase a b) := by
  refine separates_seq ha ?_
  have hspace : isPySpace c = false := by
    simp only [endsClause, Bool.and_eq_true, Bool.not_eq_true'] at hc
    exact hc.1.2
  simp [Pattern.plus, Pattern.avoids, hspace, hb.avoided]

/-- The lists of patterns that are searched for. -/
def vocabulary : List (List (Pattern Char)) :=
  complexKeywords :: moderateKeywords :: simKeywords :: domainPatterns.map Prod.snd

/-- What ends a clause separates for every pattern of the classifier. -/
theorem vocabulary_separates (hc : endsClause word c = true) :
    ∀ patterns ∈ vocabulary, ∀ r ∈ patterns, Separates word.isWord c r := by
  simp only [vocabulary, complexKeywords, moderateKeywords, simKeywords, domainPatterns,
    List.map_cons, List.map_nil, List.forall_mem_cons, List.not_mem_nil, false_imp_iff,
    implies_true, and_true]
  and_intros
  all_goals first
    | exact keyword_separates hc (by decide)
    | exact plural_separates hc (by decide)
    | exact either_separates hc (by decide) (by decide) (by decide)
    | exact phrase_separates hc (keyword_separates hc (by decide))
        (keyword_separates hc (by decide))
    | exact phrase_separates hc (keyword_separates hc (by decide))
        (plural_separates hc (by decide))

/-- A list of patterns is found in a text if it is found in one of its clauses. -/
theorem finds_clauses {patterns : List (Pattern Char)} (h : patterns ∈ vocabulary)
    (text : List Char) :
    finds word patterns text = (clauses word text).any (finds word patterns) :=
  anyBounded_splitOnP (fun _ hc => vocabulary_separates hc patterns h) text

/-- The domains of the classifier, in order. -/
def domainNames : List String := domainPatterns.map Prod.fst

/-- The domains of some clauses, in the order of the classifier. -/
def domainsOf (word : WordChars) (cs : List (List Char)) : List String :=
  domainNames.filter fun domain => cs.any fun clause => (matchedDomains word clause).contains domain

theorem contains_matchedDomains {domain : String × List (Pattern Char)}
    (h : domain ∈ domainPatterns) (text : List Char) :
    (matchedDomains word text).contains domain.1 = finds word domain.2 text := by
  have hnodup : (domainPatterns.map Prod.fst).Nodup := by decide
  have hnames : ∀ d ∈ domainPatterns, ∀ d' ∈ domainPatterns, d.1 = d'.1 → d = d' :=
    fun d hd d' hd' => List.inj_on_of_nodup_map hnodup hd hd'
  rw [Bool.eq_iff_iff, List.contains_iff_mem, matchedDomains, List.mem_map]
  constructor
  · rintro ⟨domain', hmem, hname⟩
    obtain ⟨hmem, hfinds⟩ := List.mem_filter.mp hmem
    rwa [← hnames domain' hmem domain h hname]
  · intro hfinds
    exact ⟨domain, List.mem_filter.mpr ⟨h, hfinds⟩, rfl⟩

/-- The domains of a text are those of its clauses. -/
theorem matchedDomains_clauses (text : List Char) :
    matchedDomains word text = domainsOf word (clauses word text) := by
  have hpatterns : ∀ domain ∈ domainPatterns, domain.2 ∈ vocabulary := by
    intro domain hdomain
    exact List.mem_cons_of_mem _ (List.mem_cons_of_mem _ (List.mem_cons_of_mem _
      (List.mem_map_of_mem hdomain)))
  unfold matchedDomains domainsOf domainNames
  rw [List.filter_map]
  congr 1
  refine List.filter_congr fun domain hdomain => ?_
  rw [finds_clauses (hpatterns domain hdomain)]
  simp only [Function.comp_apply, contains_matchedDomains hdomain]

/-- The tier of some clauses. -/
def tierOf (word : WordChars) (cs : List (List Char)) : ComplexityTier :=
  if cs.any (finds word complexKeywords) then .complex
  else if cs.any (finds word moderateKeywords) || 1 < (domainsOf word cs).length then .moderate
  else .trivial

/-- A query is classified by its clauses. -/
theorem classify_clauses (rt : Runtime) (query : String) :
    let result := classifyQueryComplexity word rt query
    let cs := clauses word (rt.lower query).toList
    result.tier = tierOf word cs ∧ result.matchedDomains = domainsOf word cs ∧
      result.needsSimulation = cs.any (finds word simKeywords) := by
  intro result cs
  have hcomplex : complexKeywords ∈ vocabulary := by simp [vocabulary]
  have hmoderate : moderateKeywords ∈ vocabulary := by simp [vocabulary]
  have hsim : simKeywords ∈ vocabulary := by simp [vocabulary]
  simp only [result, classifyQueryComplexity, tierOf, cs]
  rw [finds_clauses hcomplex, finds_clauses hmoderate, finds_clauses hsim,
    matchedDomains_clauses]
  refine ⟨?_, rfl, rfl⟩
  split
  · rfl
  · split
    · rfl
    · rfl

end Clauses

/-! ### Runs of the graph -/

section Graph

variable {word : WordChars} {sv : Services} {s₀ : TaskGraphState} {r : GraphRun} {node : Node}

/-- Services that classify a query by its words. -/
def withClassifier (word : WordChars) (sv : Services) : Services :=
  { sv with classify query := .ok (classifyQueryComplexity word sv.rt query).asClassification }

/-- What the supervisor wrote is what the state shows, and what the fan-out is asked with. -/
structure Routed (word : WordChars) (sv : Services) (s₀ : TaskGraphState)
    (r : GraphRun) : Prop where
  inputs : r.state.investigationId = s₀.investigationId ∧ r.state.query = s₀.query
  tier : r.state.complexityTier =
    some (.tier (classifyQueryComplexity word sv.rt s₀.query).tier)
  domains : r.state.matchedDomains =
    some (classifyQueryComplexity word sv.rt s₀.query).matchedDomains
  simulates : r.state.needsSimulation =
    some (classifyQueryComplexity word sv.rt s₀.query).needsSimulation
  past : r.status ≠ .running .supervisor
  fanOut : r.status = .running .fanOut → r.history.length = 1
  asked : ∀ e ∈ r.history, e.node = .fanOut → ∃ outputs,
    sv.runFanOut 1 (classifyQueryComplexity word sv.rt s₀.query).matchedDomains
      ⟨s₀.investigationId, s₀.query, none⟩ = .ok outputs ∧
      e.update = { agentOutputs := some outputs }

/-- The first step is the supervisor's. -/
theorem routed_first : Routed word sv s₀ ((GraphRun.start s₀).step (withClassifier word sv)) where
  inputs := ⟨rfl, rfl⟩
  tier := rfl
  domains := rfl
  simulates := rfl
  past := by
    intro h
    cases h
  fanOut _ := rfl
  asked := by
    intro e he hnode
    obtain rfl := List.mem_singleton.mp he
    cases hnode

/-- No edge leads back to the supervisor, and only its own to the fan-out. -/
theorem nextNode_cases {s : TaskGraphState} {next : Node} (h : nextNode sv s node = some next) :
    next ≠ .supervisor ∧ (next = .fanOut → node = .supervisor) := by
  cases node with
  | supervisor =>
      cases h
      exact ⟨by decide, fun _ => rfl⟩
  | airQuality | fanOut =>
      simp only [nextNode, routeAfterDomainAgents, Option.some.injEq] at h
      split at h
      all_goals
        subst h
        simp
  | simulation | synthesis | replan =>
      cases h
      simp
  | critic =>
      simp only [nextNode, routeAfterCritic, Option.some.injEq] at h
      split at h
      all_goals
        subst h
        simp
  | finalize => cases h

/-- Only the supervisor writes the tier and the domains. -/
theorem unrouted {s : TaskGraphState} {u : Update} (hnode : node ≠ .supervisor)
    (h : UpdateShape sv s u node) :
    u.complexityTier = none ∧ u.matchedDomains = none ∧ u.needsSimulation = none := by
  cases node with
  | supervisor => exact absurd rfl hnode
  | airQuality | fanOut | simulation =>
      obtain ⟨outputs, rfl⟩ := h
      simp
  | synthesis =>
      obtain ⟨out, rfl⟩ := h
      simp
  | critic =>
      obtain ⟨flags, answer, -, rfl⟩ := h
      simp
  | replan =>
      obtain ⟨outputs, rfl⟩ := h
      simp
  | finalize =>
      cases h
      simp

/-- What the fan-out returns once the supervisor has run. -/
theorem Routed.fanOut_result (h : Routed word sv s₀ r) (hnode : r.status = .running .fanOut)
    {u : Update}
    (hu : (callNode (withClassifier word sv) r.history.length r.state .fanOut).result = .ok u) :
    ∃ outputs, sv.runFanOut 1 (classifyQueryComplexity word sv.rt s₀.query).matchedDomains
      ⟨s₀.investigationId, s₀.query, none⟩ = .ok outputs ∧
      u = { agentOutputs := some outputs } := by
  obtain ⟨outputs, hrun, hret⟩ := ok_of_bind hu
  cases hret
  rw [h.fanOut hnode, h.domains] at hrun
  simp only [agentInput, h.inputs.1, h.inputs.2] at hrun
  exact ⟨outputs, hrun, rfl⟩

theorem Routed.returned (h : Routed word sv s₀ r) (hnode : r.status = .running node) {u : Update}
    (hu : (callNode (withClassifier word sv) r.history.length r.state node).result = .ok u) :
    Routed word sv s₀ (r.returned (withClassifier word sv) node u) := by
  have hsup : node ≠ .supervisor := by
    intro heq
    subst heq
    exact h.past hnode
  obtain ⟨htier, hdomains, hsim⟩ := unrouted hsup (callNode_shape hu)
  have hnext : ∀ next, (r.returned (withClassifier word sv) node u).status = .running next →
      next ≠ .supervisor ∧ next ≠ .fanOut := by
    intro next hnext
    simp only [GraphRun.returned, GraphRun.conclude] at hnext
    split at hnext
    · rename_i edge hedge
      cases hnext
      obtain ⟨hne, hfan⟩ := nextNode_cases hedge
      exact ⟨hne, fun heq => hsup (hfan heq)⟩
    · cases hnext
  refine ⟨h.inputs, ?_, ?_, ?_, ?_, ?_, ?_⟩
  · simp only [returned_state, TaskGraphState.apply, htier, Option.none_or]
    exact h.tier
  · simp only [returned_state, TaskGraphState.apply, hdomains, Option.none_or]
    exact h.domains
  · simp only [returned_state, TaskGraphState.apply, hsim, Option.none_or]
    exact h.simulates
  · exact fun hrun => (hnext _ hrun).1 rfl
  · exact fun hrun => absurd rfl (hnext _ hrun).2
  · intro e he hfan
    rw [returned_history, List.mem_append, List.mem_singleton] at he
    rcases he with he | rfl
    · exact h.asked e he hfan
    · cases hfan
      exact h.fanOut_result hnode hu

theorem Routed.step (h : Routed word sv s₀ r) :
    Routed word sv s₀ (r.step (withClassifier word sv)) := by
  rcases step_cases (withClassifier word sv) r with ⟨-, hstep⟩ | ⟨node, hnode, hstep⟩
  · rw [hstep]
    exact h
  · rcases hstep with ⟨err, -, hstep⟩ | ⟨u, hu, hstep⟩
    · rw [hstep]
      exact ⟨h.inputs, h.tier, h.domains, h.simulates, by simp, by simp, h.asked⟩
    · rw [hstep]
      exact h.returned hnode hu

/-- The run lemma. -/
theorem routed_advance (n : Nat) :
    Routed word sv s₀ (GraphRun.advance (withClassifier word sv) (n + 1) (.start s₀)) := by
  unfold GraphRun.advance
  rw [Function.iterate_succ_apply]
  exact Function.Iterate.rec (Routed word sv s₀) routed_first (fun _ h => Routed.step h) n

/-- Nothing after the supervisor changes the simulation flag. -/
theorem simulates_step (h : At sv s₀ r node) (hsup : node ≠ .supervisor) :
    (r.step sv).state.simulates = r.state.simulates := by
  rcases step_cases sv r with ⟨-, hstep⟩ | ⟨node', hnode, hstep⟩
  · rw [hstep]
  · have hsame : node' = node := by
      rw [h.running] at hnode
      cases hnode
      rfl
    subst hsame
    rcases hstep with ⟨err, -, hstep⟩ | ⟨u, hu, hstep⟩
    · rw [hstep]
    · rw [hstep, returned_state]
      exact simulates_apply (callNode_shape hu) hsup

/-- The path to a node has the simulation on it exactly if the flag is set. -/
theorem mem_pathTo {sim : Bool} {k : Nat} (h : node ≠ .supervisor) :
    (.simulation ∈ pathTo sim k node → sim = true) ∧
    (.synthesis ∈ pathTo sim k node ++ [node] → sim = true → .simulation ∈ pathTo sim k node) := by
  have hcycles : Node.simulation ∉ cycles k := by simp [cycles]
  cases node with
  | supervisor => exact absurd rfl h
  | airQuality | fanOut | simulation => simp [pathTo]
  | synthesis | critic | replan | finalize =>
      cases sim with
      | false => simp [pathTo, prologue, hcycles]
      | true => simp [pathTo, prologue]

theorem at_simulation (h : At sv s₀ r node) (hsup : node ≠ .supervisor) :
    (.simulation ∈ r.history.map (·.node) ++ [node] → r.state.simulates = true) ∧
    (.synthesis ∈ r.history.map (·.node) ++ [node] → r.state.simulates = true →
      .simulation ∈ r.history.map (·.node)) := by
  rw [h.path]
  obtain ⟨hsim, hsyn⟩ := @mem_pathTo _ r.state.simulates r.state.replans hsup
  refine ⟨fun hmem => ?_, hsyn⟩
  rcases List.mem_append.mp hmem with hmem | hmem
  · exact hsim hmem
  · have hnode : node = .simulation := (List.mem_singleton.mp hmem).symm
    subst hnode
    exact h.enabled.2

/-- The supervisor does not end a run. -/
theorem not_over_supervisor (h : At sv s₀ r .supervisor) : ¬ (r.step sv).Over := by
  intro hover
  rcases h.step_cases with ⟨u, next, -, -, hnext⟩ | ⟨-, heq | ⟨err, herr⟩⟩
  · exact hover next hnext.running
  · cases heq
  · cases herr

/-- A run past the supervisor simulates only if the flag is set, and before it synthesises. -/
theorem simulation_of_reached (h : Reached sv s₀ r) (hsup : r.status ≠ .running .supervisor) :
    (.simulation ∈ r.executedNodes → r.state.simulates = true) ∧
    (.synthesis ∈ r.executedNodes → r.state.simulates = true → .simulation ∈ r.executedNodes) := by
  rcases h with ⟨node, hat⟩ | ⟨r', node, hat, rfl, hover⟩
  · have hne : node ≠ .supervisor := by
      intro heq
      subst heq
      exact hsup hat.running
    obtain ⟨hsim, hsyn⟩ := at_simulation hat hne
    have hnodes : r.executedNodes = r.history.map (·.node) := by
      simp [GraphRun.executedNodes, hat.running]
    rw [hnodes]
    exact ⟨fun hmem => hsim (List.mem_append_left _ hmem),
      fun hmem => hsyn (List.mem_append_left _ hmem)⟩
  · have hne : node ≠ .supervisor := by
      intro heq
      subst heq
      exact not_over_supervisor hat hover
    obtain ⟨hsim, hsyn⟩ := at_simulation hat hne
    rw [executedNodes_step hat.running, simulates_step hat hne]
    exact ⟨hsim, fun hmem hflag => List.mem_append_left _ (hsyn hmem hflag)⟩

/--
**What the graph does with a query is decided clause by clause.**

Whatever is no part of a word, no white space and no dot ends a clause.  At any point after the
supervisor, whatever the services answer, the state shows the domains that some clause names, in
the classifier's order, and the tier of the clauses; the run has simulated only if some clause asks
for it, and has not synthesised without it if one does; and what the fan-out returned are the
outputs for those domains.
-/
theorem routed_by_clauses (word : WordChars) (sv : Services) (s₀ : TaskGraphState)
    (h₀ : s₀.replanCount = none) (n : Nat) :
    let r := GraphRun.advance (withClassifier word sv) (n + 1) (.start s₀)
    let cs := clauses word (sv.rt.lower s₀.query).toList
    let asked := cs.any (finds word simKeywords)
    r.state.complexityTier = some (.tier (tierOf word cs)) ∧
    r.state.matchedDomains = some (domainsOf word cs) ∧
    (.simulation ∈ r.executedNodes → asked = true) ∧
    (.synthesis ∈ r.executedNodes → asked = true → .simulation ∈ r.executedNodes) ∧
    ∀ e ∈ r.history, e.node = .fanOut → ∃ outputs,
      sv.runFanOut 1 (domainsOf word cs) ⟨s₀.investigationId, s₀.query, none⟩ = .ok outputs ∧
        e.update = { agentOutputs := some outputs } := by
  intro r cs asked
  have hrouted : Routed word sv s₀ r := routed_advance n
  have hreached : Reached (withClassifier word sv) s₀ r := reached_advance h₀ (n + 1)
  obtain ⟨htier, hdomains, hneeds⟩ := @classify_clauses word sv.rt s₀.query
  have hflag : r.state.simulates = asked := by
    rw [TaskGraphState.simulates, hrouted.simulates, hneeds]
    rfl
  obtain ⟨hsim, hsyn⟩ := simulation_of_reached hreached hrouted.past
  rw [hflag] at hsim hsyn
  refine ⟨?_, ?_, hsim, hsyn, ?_⟩
  · rw [hrouted.tier, htier]
  · rw [hrouted.domains, hdomains]
  · intro e he hfan
    obtain ⟨outputs, hrun, hupdate⟩ := hrouted.asked e he hfan
    rw [hdomains] at hrun
    exact ⟨outputs, hrun, hupdate⟩

/-- The word characters of ASCII. -/
def asciiWords : WordChars := ⟨fun c => c.isAlphanum || c == '_', fun _ _ => rfl⟩

/-- An investigation of two clauses. -/
def plumeState : TaskGraphState := { jobState with query := "Fires; how will the plume drift?" }

/-- One clause names the domain, the other asks for the simulation. -/
theorem routed_plume :
    let r := GraphRun.advance (withClassifier asciiWords (conflictServices 0)) 4 (.start plumeState)
    r.state.matchedDomains = some ["wildfire"] ∧ .simulation ∈ r.executedNodes := by
  intro r
  obtain ⟨-, hdomains, -, hsyn, -⟩ :=
    routed_by_clauses asciiWords (conflictServices 0) plumeState rfl 3
  refine ⟨hdomains.trans ?_, hsyn ?_ ?_⟩
  · decide +kernel
  · decide +kernel
  · decide +kernel

end Graph

end Classifier

end GaiaOS
