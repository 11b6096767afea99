/-
Which replan targets an agent can be found for.

A domain counts as valid if it is registered or is `simulation`, which is a node of the graph and
not an agent of the registry.  Three strategies look for targets, each only if the one before found
none: the domains the flags name, the domains their texts mention, and the fallback list.  The first
two collect each domain once; the third only filters.

What is returned is what is selected (`mem_buildReplanTargets_iff`), so there are two ways to
go wrong and no others: `simulation` is selected and nobody registered it, or the fallback list is
used and repeats a valid domain.
-/
import GaiaOS.Agents.Registry
import GaiaOS.Critic.Replan

namespace GaiaOS

/-! ### The registry -/

namespace AgentRegistry

variable {Runner : Type}

/-- An agent is found for exactly the listed domains. -/
theorem get_ok_iff (reg : AgentRegistry Runner) (name : String) :
    (∃ runner, reg.get name = .ok runner) ↔ name ∈ reg.listDomains := by
  unfold get listDomains
  rw [List.mem_append, Dict.mem_keys_iff, Dict.mem_keys_iff]
  cases reg.firstPartyRegistry.get? name with
  | some runner => simp
  | none =>
      cases reg.pluginRegistry.get? name with
      | some plugin => simp
      | none => simp

/-- A plugin that is accepted takes a domain nobody had. -/
theorem registerPlugin_ok {reg reg' : AgentRegistry Runner} {manifest : PluginManifest}
    {runner : Runner} (h : reg.registerPlugin manifest runner = .ok reg') :
    manifest.domain ∉ reg.listDomains ∧ reg' = { reg with
      pluginRegistry := reg.pluginRegistry.set manifest.domain { manifest, runner } } := by
  unfold registerPlugin at h
  split at h
  · cases h
  · rename_i hcore
    split at h
    · cases h
    · rename_i hplugin
      refine ⟨?_, (Except.ok.inj h).symm⟩
      unfold listDomains
      rw [List.mem_append, Dict.mem_keys_iff, Dict.mem_keys_iff, hplugin]
      simpa [Dict.contains] using hcore

/-- A call only adds domains. -/
theorem listDomains_call {reg : AgentRegistry Runner} {name : String} (h : name ∈ reg.listDomains)
    (c : Call Runner) : name ∈ (reg.call c).listDomains := by
  have hkeys : ∀ {V : Type} (d : Dict String V) (k : String) (v : V), name ∈ d.keys →
      name ∈ (d.set k v).keys := by
    intro V d k v hname
    rw [Dict.mem_keys_iff] at hname ⊢
    rw [Dict.get?_set]
    split
    · rfl
    · exact hname
  have hadd : ∀ (reg' : AgentRegistry Runner),
      (name ∈ reg.firstPartyRegistry.keys → name ∈ reg'.firstPartyRegistry.keys) →
      (name ∈ reg.pluginRegistry.keys → name ∈ reg'.pluginRegistry.keys) →
      name ∈ reg'.listDomains := by
    intro reg' hfirst hplugin
    rcases List.mem_append.mp h with hmem | hmem
    · exact List.mem_append_left _ (hfirst hmem)
    · exact List.mem_append_right _ (hplugin hmem)
  cases c with
  | register k runner => exact hadd _ (hkeys _ k runner) id
  | registerPlugin manifest runner =>
      cases hres : reg.registerPlugin manifest runner with
      | error err =>
          have hcall : reg.call (.registerPlugin manifest runner) = reg := by
            simp only [call, hres]
          rw [hcall]
          exact h
      | ok reg' =>
          have hcall : reg.call (.registerPlugin manifest runner) = reg' := by
            simp only [call, hres]
          rw [hcall, (registerPlugin_ok hres).2]
          exact hadd _ id (hkeys _ manifest.domain _)

theorem listDomains_run (calls : List (Call Runner)) : ∀ {reg : AgentRegistry Runner}
    {name : String}, name ∈ reg.listDomains → name ∈ (reg.run calls).listDomains := by
  induction calls with
  | nil =>
      intro reg name h
      exact h
  | cons c calls ih =>
      intro reg name h
      exact ih (listDomains_call h c)

/-- Names that are new and different are registered in their order. -/
theorem listDomains_foldl_registerCore (runnerOf : String → Runner) (names : List String) :
    ∀ {reg : AgentRegistry Runner}, (∀ name ∈ names, name ∉ reg.firstPartyRegistry.keys) →
      names.Nodup → reg.pluginRegistry.keys = [] →
      (names.foldl (registerCore runnerOf) reg).listDomains =
        reg.firstPartyRegistry.keys ++ names := by
  induction names with
  | nil =>
      intro reg _ _ hplugin
      show reg.firstPartyRegistry.keys ++ reg.pluginRegistry.keys = _
      rw [hplugin]
  | cons name names ih =>
      intro reg hnew hnodup hplugin
      obtain ⟨hname, hrest⟩ := List.forall_mem_cons.mp hnew
      obtain ⟨hnot, hnodup⟩ := List.nodup_cons.mp hnodup
      have hcore : registerCore runnerOf reg name = reg.register name (runnerOf name) := by
        refine if_neg fun hthere => hname ?_
        rw [Dict.mem_keys_iff]
        exact hthere
      have hkeys : (reg.register name (runnerOf name)).firstPartyRegistry.keys =
          reg.firstPartyRegistry.keys ++ [name] := Dict.keys_set_of_not_mem hname _
      have hfresh : ∀ other ∈ names,
          other ∉ (reg.register name (runnerOf name)).firstPartyRegistry.keys := by
        intro other hmem hold
        rw [hkeys, List.mem_append, List.mem_singleton] at hold
        rcases hold with hold | rfl
        · exact hrest other hmem hold
        · exact hnot hmem
      have hsame : (reg.register name (runnerOf name)).pluginRegistry.keys = [] := hplugin
      rw [List.foldl_cons, hcore, ih hfresh hnodup hsame, hkeys, List.append_assoc]
      rfl

theorem listDomains_registerAgents (runnerOf : String → Runner) :
    (registerAgents runnerOf init).listDomains = coreDomains :=
  listDomains_foldl_registerCore runnerOf coreDomains (fun _ _ => List.not_mem_nil)
    (by decide) rfl

end AgentRegistry

/-! ### Collecting targets -/

section Targets

variable {rt : Runtime} {listDomains : List String}

theorem mem_addTarget (targets : List String) (name : String) {d : String} :
    d ∈ addTarget listDomains targets name ↔
      d ∈ targets ∨ d = name ∧ isValidDomain listDomains d = true := by
  unfold addTarget
  by_cases hnew : (isValidDomain listDomains name && !targets.contains name) = true
  · rw [if_pos hnew, List.mem_append, List.mem_singleton]
    refine or_congr_right ⟨?_, And.left⟩
    rintro rfl
    exact ⟨rfl, (Bool.and_eq_true_iff.mp hnew).1⟩
  · rw [if_neg hnew]
    refine ⟨.inl, ?_⟩
    rintro (h | ⟨rfl, hvalid⟩)
    · exact h
    · by_contra hnot
      exact hnew (by simp [hvalid, hnot])

theorem mem_foldl_addTarget (names : List String) : ∀ (targets : List String) {d : String},
    d ∈ names.foldl (addTarget listDomains) targets ↔
      d ∈ targets ∨ d ∈ names ∧ isValidDomain listDomains d = true := by
  induction names with
  | nil => simp
  | cons name names ih =>
      intro targets d
      rw [List.foldl_cons, ih, mem_addTarget, List.mem_cons, or_assoc, or_and_right]

theorem nodup_foldl_addTarget (names : List String) : ∀ {targets : List String}, targets.Nodup →
    (names.foldl (addTarget listDomains) targets).Nodup := by
  induction names with
  | nil =>
      intro targets h
      exact h
  | cons name names ih =>
      intro targets h
      refine ih ?_
      unfold addTarget
      split
      · rename_i hnew
        simp only [Bool.and_eq_true, Bool.not_eq_true', ← Bool.not_eq_true,
          List.contains_iff_mem] at hnew
        exact List.nodup_append.mpr ⟨h, List.nodup_singleton _, by
          intro a ha b hb hab
          rw [List.mem_singleton.mp hb] at hab
          exact hnew.2 (hab ▸ ha)⟩
      · exact h

/-- The flags that are looked at: the severe ones, if there are any. -/
def targetFlags (criticFlags : List CriticFlag) : List CriticFlag :=
  let highFlags := criticFlags.filter fun f => f.severity = .high
  if highFlags.isEmpty then criticFlags else highFlags

/-- Some flag lists the domain, up to case and outer space. -/
def Names (rt : Runtime) (flags : List CriticFlag) (d : String) : Prop :=
  ∃ flag ∈ flags, ∃ name ∈ flag.flaggedDomains.getD [], rt.lower (pyStrip name) = d

/-- Some flag's texts contain a keyword of the domain. -/
def Mentions (rt : Runtime) (flags : List CriticFlag) (d : String) : Prop :=
  ∃ flag ∈ flags, d ∈ keywordDomains rt flag

/-- No valid domain has the property. -/
def NoValid (listDomains : List String) (P : String → Prop) : Prop :=
  ∀ d, isValidDomain listDomains d = true → ¬ P d

/-- The domain comes up in the first strategy that turns up a valid one. -/
def Selects (rt : Runtime) (listDomains : List String) (flags : List CriticFlag)
    (fallbackDomains : List String) (d : String) : Prop :=
  Names rt flags d ∨ NoValid listDomains (Names rt flags) ∧
    (Mentions rt flags d ∨ NoValid listDomains (Mentions rt flags) ∧ d ∈ fallbackDomains)

theorem mem_structuredTargets_iff {flags : List CriticFlag} {d : String} :
    d ∈ structuredTargets rt listDomains flags ↔
      Names rt flags d ∧ isValidDomain listDomains d = true := by
  unfold structuredTargets Names
  rw [mem_foldl_addTarget]
  simp only [List.not_mem_nil, false_or, List.mem_flatMap, List.mem_map]

theorem mem_keywordTargets_iff {flags : List CriticFlag} {d : String} :
    d ∈ keywordTargets rt listDomains flags ↔
      Mentions rt flags d ∧ isValidDomain listDomains d = true := by
  unfold keywordTargets Mentions
  rw [mem_foldl_addTarget]
  simp only [List.not_mem_nil, false_or, List.mem_flatMap]

theorem isEmpty_iff_noValid {targets : List String} {P : String → Prop}
    (h : ∀ d, d ∈ targets ↔ P d ∧ isValidDomain listDomains d = true) :
    targets.isEmpty = true ↔ NoValid listDomains P := by
  rw [List.isEmpty_iff, List.eq_nil_iff_forall_not_mem]
  unfold NoValid
  simp only [h, not_and, imp_not_comm]

/-- **The strategies, by what they find.** -/
theorem buildReplanTargets_cases (rt : Runtime) (listDomains : List String)
    (criticFlags : List CriticFlag) (fallbackDomains : List String) :
    let flags := targetFlags criticFlags
    let targets := buildReplanTargets rt listDomains criticFlags fallbackDomains
    (¬ NoValid listDomains (Names rt flags) ∧ targets = structuredTargets rt listDomains flags) ∨
    (NoValid listDomains (Names rt flags) ∧ ¬ NoValid listDomains (Mentions rt flags) ∧
      targets = keywordTargets rt listDomains flags) ∨
    (NoValid listDomains (Names rt flags) ∧ NoValid listDomains (Mentions rt flags) ∧
      fallbackDomains.filter (isValidDomain listDomains) ≠ [] ∧
      targets = fallbackDomains.filter (isValidDomain listDomains)) ∨
    (NoValid listDomains (Names rt flags) ∧ NoValid listDomains (Mentions rt flags) ∧
      fallbackDomains.filter (isValidDomain listDomains) = [] ∧ targets = ["air_quality"]) := by
  intro flags targets
  have hnames : (structuredTargets rt listDomains flags).isEmpty = true ↔
      NoValid listDomains (Names rt flags) :=
    isEmpty_iff_noValid fun d => mem_structuredTargets_iff
  have hmentions : (keywordTargets rt listDomains flags).isEmpty = true ↔
      NoValid listDomains (Mentions rt flags) :=
    isEmpty_iff_noValid fun d => mem_keywordTargets_iff
  have htargets : targets =
      if !(structuredTargets rt listDomains flags).isEmpty then
        structuredTargets rt listDomains flags
      else if !(keywordTargets rt listDomains flags).isEmpty then
        keywordTargets rt listDomains flags
      else if !(fallbackDomains.filter (isValidDomain listDomains)).isEmpty then
        fallbackDomains.filter (isValidDomain listDomains)
      else ["air_quality"] := rfl
  rw [htargets, ← hnames, ← hmentions]
  by_cases h₁ : (structuredTargets rt listDomains flags).isEmpty = true
  · by_cases h₂ : (keywordTargets rt listDomains flags).isEmpty = true
    · by_cases h₃ : fallbackDomains.filter (isValidDomain listDomains) = []
      · simp [h₁, h₂, h₃]
      · simp [h₁, h₂, h₃]
    · simp [h₁, h₂]
  · simp [h₁]

/-- Where the strategy in use turns up a valid domain, its targets are what is selected. -/
theorem mem_strategy_iff {flags : List CriticFlag} {fallbackDomains targets : List String}
    {P : String → Prop} {d : String}
    (hselects : ∀ e, isValidDomain listDomains e = true →
      (Selects rt listDomains flags fallbackDomains e ↔ P e))
    (hsome : ¬ NoValid listDomains P)
    (hmem : d ∈ targets ↔ P d ∧ isValidDomain listDomains d = true) :
    d ∈ targets ↔
      isValidDomain listDomains d = true ∧ Selects rt listDomains flags fallbackDomains d ∨
        NoValid listDomains (Selects rt listDomains flags fallbackDomains) ∧
          d = "air_quality" := by
  have hnot : ¬ NoValid listDomains (Selects rt listDomains flags fallbackDomains) := by
    intro hnone
    exact hsome fun e he hPe => hnone e he ((hselects e he).mpr hPe)
  rw [hmem, or_iff_left fun h => hnot h.1, and_comm]
  exact and_congr_right fun hvalid => (hselects d hvalid).symm

/-- **What is returned is what is selected**, or the default where nothing is. -/
theorem mem_buildReplanTargets_iff {criticFlags : List CriticFlag} {fallbackDomains : List String}
    {d : String} :
    d ∈ buildReplanTargets rt listDomains criticFlags fallbackDomains ↔
      isValidDomain listDomains d = true ∧
          Selects rt listDomains (targetFlags criticFlags) fallbackDomains d ∨
        NoValid listDomains (Selects rt listDomains (targetFlags criticFlags) fallbackDomains) ∧
          d = "air_quality" := by
  rcases buildReplanTargets_cases rt listDomains criticFlags fallbackDomains with
    ⟨hn, heq⟩ | ⟨hn, hm, heq⟩ | ⟨hn, hm, hne, heq⟩ | ⟨hn, hm, hnil, heq⟩
  · -- some flag names a valid domain
    rw [heq]
    exact mem_strategy_iff (fun e _ => or_iff_left fun h => hn h.1) hn mem_structuredTargets_iff
  · -- none does, and some flag mentions one
    rw [heq]
    refine mem_strategy_iff (fun e he => ?_) hm mem_keywordTargets_iff
    unfold Selects
    rw [or_iff_right (hn e he), and_iff_right hn, or_iff_left fun h => hm h.1]
  · -- none does either, and the fallback has one
    rw [heq]
    refine mem_strategy_iff (P := (· ∈ fallbackDomains)) (fun e he => ?_) ?_ List.mem_filter
    · unfold Selects
      rw [or_iff_right (hn e he), and_iff_right hn, or_iff_right (hm e he), and_iff_right hm]
    · intro hnone
      refine hne (List.filter_eq_nil_iff.mpr fun e he hvalid => ?_)
      exact hnone e hvalid he
  · -- nothing is selected
    have hnone : NoValid listDomains
        (Selects rt listDomains (targetFlags criticFlags) fallbackDomains) := by
      rintro e he (hnamed | ⟨-, hmentioned | ⟨-, hlist⟩⟩)
      · exact hn e he hnamed
      · exact hm e he hmentioned
      · exact List.filter_eq_nil_iff.mp hnil e hlist he
    rw [heq, List.mem_singleton, and_iff_right hnone]
    exact (or_iff_right fun h => hnone d h.1 h.2).symm

theorem buildReplanTargets_ne_nil (rt : Runtime) (listDomains : List String)
    (criticFlags : List CriticFlag) (fallbackDomains : List String) :
    buildReplanTargets rt listDomains criticFlags fallbackDomains ≠ [] := by
  by_cases hnone : NoValid listDomains
      (Selects rt listDomains (targetFlags criticFlags) fallbackDomains)
  · exact List.ne_nil_of_mem (mem_buildReplanTargets_iff.mpr (.inr ⟨hnone, rfl⟩))
  · unfold NoValid at hnone
    simp only [not_forall, not_not] at hnone
    obtain ⟨d, hvalid, hsel⟩ := hnone
    exact List.ne_nil_of_mem (mem_buildReplanTargets_iff.mpr (.inl ⟨hvalid, hsel⟩))

/-- Only the fallback list can bring a domain twice. -/
theorem nodup_buildReplanTargets_iff {criticFlags : List CriticFlag}
    {fallbackDomains : List String} :
    (buildReplanTargets rt listDomains criticFlags fallbackDomains).Nodup ↔
      (NoValid listDomains (Names rt (targetFlags criticFlags)) →
        NoValid listDomains (Mentions rt (targetFlags criticFlags)) →
        (fallbackDomains.filter (isValidDomain listDomains)).Nodup) := by
  rcases buildReplanTargets_cases rt listDomains criticFlags fallbackDomains with
    ⟨hn, heq⟩ | ⟨-, hm, heq⟩ | ⟨hn, hm, -, heq⟩ | ⟨hn, hm, hnil, heq⟩
  · rw [heq]
    exact iff_of_true (nodup_foldl_addTarget _ List.nodup_nil) fun h => absurd h hn
  · rw [heq]
    exact iff_of_true (nodup_foldl_addTarget _ List.nodup_nil) fun _ h => absurd h hm
  · rw [heq]
    exact ⟨fun h _ _ => h, fun h => h hn hm⟩
  · rw [heq, hnil]
    exact iff_of_true (List.nodup_singleton _) fun _ _ => List.nodup_nil

end Targets

/-- A severe flag lists the domain, up to case and outer space. -/
def NamedAsSevere (rt : Runtime) (criticFlags : List CriticFlag) (d : String) : Prop :=
  ∃ flag ∈ criticFlags, flag.severity = .high ∧
    ∃ name ∈ flag.flaggedDomains.getD [], rt.lower (pyStrip name) = d

theorem names_of_namedAsSevere {rt : Runtime} {criticFlags : List CriticFlag} {d : String}
    (h : NamedAsSevere rt criticFlags d) : Names rt (targetFlags criticFlags) d := by
  obtain ⟨flag, hflag, hsevere, hnames⟩ := h
  have hhigh : flag ∈ criticFlags.filter fun f => f.severity = .high :=
    List.mem_filter.mpr ⟨hflag, by simpa using hsevere⟩
  refine ⟨flag, ?_, hnames⟩
  unfold targetFlags
  rw [if_neg fun hempty => List.ne_nil_of_mem hhigh (List.isEmpty_iff.mp hempty)]
  exact hhigh

/--
**When replan targets are usable.**

However the registry was filled after `register_agents`, and whatever the flags and the fallback
list say: the targets are a non-empty list without repetitions of domains that the registry finds,
with every registered domain that a severe flag names, exactly if `simulation` is not selected
unless it was registered, and the fallback list, where it is used, repeats no valid domain.
-/
theorem replan_targets_usable_iff {Runner : Type} (rt : Runtime) (runnerOf : String → Runner)
    (calls : List (AgentRegistry.Call Runner)) (criticFlags : List CriticFlag)
    (fallbackDomains : List String) :
    let reg := (AgentRegistry.registerAgents runnerOf AgentRegistry.init).run calls
    let targets := buildReplanTargets rt reg.listDomains criticFlags fallbackDomains
    (targets ≠ [] ∧ targets.Nodup ∧ (∀ d ∈ targets, ∃ runner, reg.get d = .ok runner) ∧
      ∀ d ∈ reg.listDomains, NamedAsSevere rt criticFlags d → d ∈ targets) ↔
    (Selects rt reg.listDomains (targetFlags criticFlags) fallbackDomains "simulation" →
      "simulation" ∈ reg.listDomains) ∧
    (NoValid reg.listDomains (Names rt (targetFlags criticFlags)) →
      NoValid reg.listDomains (Mentions rt (targetFlags criticFlags)) →
      (fallbackDomains.filter (isValidDomain reg.listDomains)).Nodup) := by
  intro reg targets
  have hvalid : ∀ d, isValidDomain reg.listDomains d = true ↔
      d ∈ reg.listDomains ∨ d = "simulation" := by
    intro d
    unfold isValidDomain
    simp
  have hdefault : "air_quality" ∈ reg.listDomains := by
    refine AgentRegistry.listDomains_run calls ?_
    rw [AgentRegistry.listDomains_registerAgents]
    exact List.mem_cons_self
  simp only [AgentRegistry.get_ok_iff]
  constructor
  · rintro ⟨-, hnodup, hfound, -⟩
    refine ⟨?_, nodup_buildReplanTargets_iff.mp hnodup⟩
    intro hsel
    exact hfound "simulation" (mem_buildReplanTargets_iff.mpr
      (.inl ⟨(hvalid _).mpr (.inr rfl), hsel⟩))
  · rintro ⟨hsim, hnodup⟩
    refine ⟨buildReplanTargets_ne_nil rt _ _ _, nodup_buildReplanTargets_iff.mpr hnodup, ?_, ?_⟩
    · intro d hd
      rcases mem_buildReplanTargets_iff.mp hd with ⟨hd, hsel⟩ | ⟨-, rfl⟩
      · rcases (hvalid d).mp hd with hreg | rfl
        · exact hreg
        · exact hsim hsel
      · exact hdefault
    · intro d hd hnamed
      exact mem_buildReplanTargets_iff.mpr
        (.inl ⟨(hvalid d).mpr (.inl hd), .inl (names_of_namedAsSevere hnamed)⟩)

/-- A severe flag that names the simulation sends the investigation to an agent nobody has. -/
theorem replan_targets_simulation :
    let reg := AgentRegistry.registerAgents id AgentRegistry.init
    let targets := buildReplanTargets Runtime.reference reg.listDomains
      [⟨"Dispersion reaches the coast.", "Contradicts the wind readings.", .high,
        some ["simulation"]⟩] ["atmosphere"]
    targets = ["simulation"] ∧
      reg.get "simulation" = .error (.valueError "Agent 'simulation' is not registered.") := by
  decide +kernel

end GaiaOS
