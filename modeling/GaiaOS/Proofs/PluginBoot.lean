/-
Which plugins a worker runs with after its start.

An entry point is usable if what it loads can itself be called, has a manifest, and passes the
checks (`usable`).  One that loads a manifest is not, whatever `entry_point` says: its value is
resolved to the manifest again, and a manifest cannot be called; nor is one that loads a module.
A worker that is lenient always starts, keeps its first-party agents and gives each other domain
to the first usable entry point that asks for it (`plugins_of_boot`).  A strict one starts exactly
if nothing is wrong with any of them (`strict_boot_iff`).
-/
import GaiaOS.Agents.PluginLoader
import GaiaOS.Proofs.ReplanTargets

namespace GaiaOS

namespace Plugins

variable {Runner : Type} {env : Environment Runner}

/-! ### Usable entry points -/

/-- The checks a manifest and its runner have to pass. -/
def accepts (env : Environment Runner) (manifest : Manifest) (runner : Runner) : Bool :=
  (validatePluginCompatibility env manifest).isOk &&
    (missingSettings env manifest).isEmpty &&
      match validateRunnerContract env runner manifest.domain with
      | .ok [] => true
      | _ => false

/-- The manifest and the runner of an entry point that is usable. -/
def usable (env : Environment Runner) (ep : EntryPoint) : Option (Manifest × Runner) :=
  match ep.load env with
  | .ok object =>
      match object.kind, (findManifest object).1 with
      | .runner runner, some manifest =>
          if accepts env manifest runner then some (manifest, runner) else none
      | _, _ => none
  | .error _ => none

/-- What is to be run: the object a manifest was found at, or else the entry point's value. -/
def asRunner (ep : EntryPoint) : Option (PyObject Runner) → RunnerObj Runner
  | some object => .object object
  | none => .path ep.value

/-- What discovery finds at an entry point. -/
def found (env : Environment Runner) (ep : EntryPoint) : Option (Manifest × RunnerObj Runner) :=
  match ep.load env with
  | .ok object =>
      (findManifest object).1.map fun manifest => (manifest, asRunner ep (findManifest object).2)
  | .error _ => none

/-- Names are those of Python: no colon in an entry point's, no dot in an attribute's. -/
structure Named (env : Environment Runner) (ep : EntryPoint) : Prop where
  moduleName : ':' ∉ ep.moduleName.toList
  attr : ':' ∉ ep.attr.toList
  attributes : ∀ name object, env.importModule name = .ok object →
    ∀ entry ∈ object.attributes, '.' ∉ entry.1.toList

/-! ### A manifest as an entry point -/

theorem rpartition_none {text : String} (h : ':' ∉ text.toList) :
    rpartition ':' text = ("", text) := by
  have hdrop : text.toList.reverse.dropWhile (· ≠ ':') = [] := by
    rw [List.dropWhile_eq_nil_iff]
    intro c hc
    exact decide_eq_true fun heq => h (heq ▸ List.mem_reverse.mp hc)
  unfold rpartition
  simp only [hdrop]

theorem rpartition_some {before after : String} (h : ':' ∉ after.toList) :
    rpartition ':' (before ++ ":" ++ after) = (before, after) := by
  have hne : ∀ c ∈ after.toList.reverse, decide (c ≠ ':') = true := by
    intro c hc
    exact decide_eq_true fun heq => h (heq ▸ List.mem_reverse.mp hc)
  have htext : (before ++ ":" ++ after).toList.reverse =
      after.toList.reverse ++ ':' :: before.toList.reverse := by
    simp [String.toList_append]
  unfold rpartition
  simp only [htext, List.dropWhile_append_of_pos hne, List.takeWhile_append_of_pos hne]
  simp

/-- A name without a dot is one component. -/
theorem pySplitOn_of_not_mem {c : Char} {text : String} (h : c ∉ text.toList) :
    pySplitOn (String.singleton c) text = [text] := by
  unfold pySplitOn
  have hword := splitPieces_word h [] [] []
  rw [List.append_nil, List.append_nil] at hword
  simp [hword, splitPieces]

/-- The value of an entry point is resolved to what the entry point loads, or not at all. -/
theorem resolveRunner_path {ep : EntryPoint} {object object' : PyObject Runner}
    {manifest : Manifest} (hnamed : Named env ep) (hload : ep.load env = .ok object)
    (h : resolveRunner env manifest (.path ep.value) = .ok object') : object' = object := by
  unfold EntryPoint.load at hload
  obtain ⟨module, hmodule, hattrs⟩ := ok_of_bind hload
  by_cases hattr : ep.attr = ""
  · rw [EntryPoint.value, if_pos hattr] at h
    simp [resolveRunner, rpartition_none hnamed.moduleName] at h
  · rw [EntryPoint.value, if_neg hattr] at h
    simp only [resolveRunner, rpartition_some hnamed.attr, hmodule] at h
    split at h
    · cases h
    · by_cases hdot : '.' ∈ ep.attr.toList
      · -- the loaded module has no attribute with a dot in its name
        have hnone : module.attributes.lookup ep.attr = none := by
          rw [List.lookup_eq_none_iff]
          intro entry hentry
          refine bne_iff_ne.mpr fun heq => ?_
          rw [heq] at hdot
          exact hnamed.attributes _ _ hmodule entry hentry hdot
        simp [PyObject.getattr, hnone, bind, Except.bind] at h
      · have hsplit : (pySplitOn "." ep.attr).filter (· ≠ "") = [ep.attr] := by
          rw [show "." = String.singleton '.' from rfl, pySplitOn_of_not_mem hdot]
          simp [hattr]
        rw [hsplit, List.foldlM_cons] at hattrs
        cases hget : module.getattr ep.attr with
        | error e =>
            simp [hget, bind, Except.bind] at hattrs
        | ok found =>
            simp only [hget, bind, Except.bind, Except.ok.injEq] at h hattrs
            rw [← h]
            exact Except.ok.inj hattrs

/-- A plugin is loaded if its runner is found and everything is accepted. -/
theorem loadAndValidatePlugin_ok_iff {manifest : Manifest} {runnerObj : RunnerObj Runner}
    {runner : Runner} :
    loadAndValidatePlugin env manifest runnerObj = .ok runner ↔
      ∃ object, resolveRunner env manifest runnerObj = .ok object ∧
        object.kind = .runner runner ∧ accepts env manifest runner = true := by
  constructor
  · intro h
    obtain ⟨_, hversion, h⟩ := ok_of_bind h
    obtain ⟨_, hsettings, h⟩ := ok_of_bind h
    obtain ⟨object, hresolve, h⟩ := ok_of_bind h
    have hmissing : missingSettings env manifest = [] := by
      by_contra hmissing
      simp [validateRequiredSettings, hmissing] at hsettings
    refine ⟨object, hresolve, ?_⟩
    split at h
    · rename_i found hkind
      obtain ⟨errors, hcontract, h⟩ := ok_of_bind h
      split at h
      · rename_i hnone
        obtain rfl : found = runner := Except.ok.inj h
        exact ⟨hkind, by simp [accepts, hversion, hmissing, hcontract, hnone, Except.isOk,
          Except.toBool]⟩
      · cases h
    · cases h
  · rintro ⟨object, hresolve, hkind, haccepts⟩
    simp only [accepts, Bool.and_eq_true, List.isEmpty_iff] at haccepts
    obtain ⟨⟨hversion, hmissing⟩, hcontract⟩ := haccepts
    have hversion : validatePluginCompatibility env manifest = .ok () := by
      cases h : validatePluginCompatibility env manifest with
      | ok u => rfl
      | error e => simp [h, Except.isOk, Except.toBool] at hversion
    have hcontract : validateRunnerContract env runner manifest.domain = .ok [] := by
      split at hcontract
      · assumption
      · cases hcontract
    simp [loadAndValidatePlugin, hversion, validateRequiredSettings, hmissing, hresolve, hkind,
      hcontract, bind, Except.bind, pure, Except.pure]

theorem usable_eq_some_iff {ep : EntryPoint} {manifest : Manifest} {runner : Runner} :
    usable env ep = some (manifest, runner) ↔
      ∃ object, ep.load env = .ok object ∧ object.kind = .runner runner ∧
        (findManifest object).1 = some manifest ∧ accepts env manifest runner = true := by
  unfold usable
  cases hload : ep.load env with
  | error e => simp
  | ok object =>
      cases hkind : object.kind with
      | manifest _ => simp [hkind]
      | other => simp [hkind]
      | runner own =>
          cases hmanifest : (findManifest object).1 with
          | none => simp [hkind, hmanifest]
          | some own' =>
              by_cases haccepts : accepts env own' own = true <;>
                simp [hkind, hmanifest, haccepts] <;> grind

/-- The object a manifest was found at is the runner, unless it is a manifest itself. -/
theorem findManifest_cases {object : PyObject Runner} {manifest : Manifest}
    {own : Option (PyObject Runner)} (h : findManifest object = (some manifest, own)) :
    own = some object ∨ own = none ∧ ∃ m, object.kind = .manifest m := by
  unfold findManifest at h
  split at h
  · rename_i m hm
    refine .inr ⟨(congrArg Prod.snd h).symm, m, ?_⟩
    unfold PyObject.asManifest at hm
    split at hm
    · rename_i m' hkind
      rw [hkind, Option.some.inj hm]
    · cases hm
  · exact .inl (congrArg Prod.snd h).symm
  · exact .inl (congrArg Prod.snd h).symm
  · cases congrArg Prod.fst h

theorem found_eq_some_iff {ep : EntryPoint} {plugin : Manifest × RunnerObj Runner} :
    found env ep = some plugin ↔
      ∃ object own, ep.load env = .ok object ∧ findManifest object = (some plugin.1, own) ∧
        plugin.2 = asRunner ep own := by
  unfold found
  cases hload : ep.load env with
  | error e => simp
  | ok object =>
      obtain ⟨manifest, runnerObj⟩ := plugin
      simp only [Option.map_eq_some_iff, Prod.mk.injEq, Except.ok.injEq]
      constructor
      · rintro ⟨m, hmanifest, rfl, rfl⟩
        exact ⟨object, _, rfl, Prod.ext hmanifest rfl, rfl⟩
      · rintro ⟨object', own, rfl, hmanifest, rfl⟩
        exact ⟨manifest, by rw [hmanifest], rfl, by rw [hmanifest]⟩

/-- Loading what was found at an entry point comes down to whether it is usable. -/
theorem loadAndValidatePlugin_found {ep : EntryPoint} {plugin : Manifest × RunnerObj Runner}
    (hnamed : Named env ep) (hfound : found env ep = some plugin) (runner : Runner) :
    loadAndValidatePlugin env plugin.1 plugin.2 = .ok runner ↔
      usable env ep = some (plugin.1, runner) := by
  obtain ⟨object, own, hload, hmanifest, hown⟩ := found_eq_some_iff.mp hfound
  rw [loadAndValidatePlugin_ok_iff, usable_eq_some_iff, hown, hload]
  rcases findManifest_cases hmanifest with rfl | ⟨rfl, m, hkind⟩
  · simp [asRunner, resolveRunner, hmanifest]
  · -- a manifest: its value leads back to it
    constructor
    · rintro ⟨object', hresolve, hrunner, -⟩
      rw [resolveRunner_path hnamed hload hresolve, hkind] at hrunner
      cases hrunner
    · rintro ⟨object', hsame, hrunner, -⟩
      cases hsame
      rw [hkind] at hrunner
      cases hrunner

/-! ### Discovery -/

theorem discover_eq (discovered : List (Manifest × RunnerObj Runner)) (ep : EntryPoint) :
    discover env false discovered ep = .ok (discovered ++ (found env ep).toList) := by
  unfold discover found
  cases hload : ep.load env with
  | error e => simp
  | ok object =>
      dsimp only
      generalize findManifest object = answer
      match answer with
      | (none, _) => simp
      | (some manifest, some own) => simp [asRunner]
      | (some manifest, none) => simp [asRunner]

/-- A lenient discovery keeps what it finds. -/
theorem discoverPlugins_lenient (eps : List EntryPoint) :
    discoverPlugins env false (.ok eps) = .ok (eps.filterMap (found env)) := by
  have hfold : ∀ (discovered : List (Manifest × RunnerObj Runner)),
      eps.foldlM (discover env false) discovered =
        .ok (discovered ++ eps.filterMap (found env)) := by
    induction eps with
    | nil =>
        intro discovered
        simp [pure, Except.pure]
    | cons ep eps ih =>
        intro discovered
        rw [List.foldlM_cons, discover_eq]
        simp only [bind, Except.bind, ih, List.append_assoc]
        cases hfound : found env ep <;> simp [hfound]
  exact hfold []

/-- A strict discovery ends at what cannot be loaded. -/
theorem discoverPlugins_strict (eps : List EntryPoint) :
    (∀ ep ∈ eps, (ep.load env).isOk = true) ∧
        discoverPlugins env true (.ok eps) = .ok (eps.filterMap (found env)) ∨
      (∃ ep ∈ eps, (ep.load env).isOk = false) ∧
        ∃ e, discoverPlugins env true (.ok eps) = .error e := by
  have hfold : ∀ (discovered : List (Manifest × RunnerObj Runner)),
      (∀ ep ∈ eps, (ep.load env).isOk = true) ∧
          eps.foldlM (discover env true) discovered =
            .ok (discovered ++ eps.filterMap (found env)) ∨
        (∃ ep ∈ eps, (ep.load env).isOk = false) ∧
          ∃ e, eps.foldlM (discover env true) discovered = .error e := by
    induction eps with
    | nil =>
        intro discovered
        exact .inl ⟨by simp, by simp [pure, Except.pure]⟩
    | cons ep eps ih =>
        intro discovered
        rw [List.foldlM_cons]
        cases hload : ep.load env with
        | error e =>
            refine .inr ⟨⟨ep, List.mem_cons_self, by rw [hload]; rfl⟩, ?_⟩
            simp [discover, hload, bind, Except.bind]
        | ok object =>
            have hsame : discover env true discovered ep = discover env false discovered ep := by
              simp [discover, hload]
            rw [hsame, discover_eq]
            rcases ih (discovered ++ (found env ep).toList) with
              ⟨hall, hrest⟩ | ⟨⟨ep', hmem, hbad⟩, e, hrest⟩
            · refine .inl ⟨?_, ?_⟩
              · intro ep' hmem
                rcases List.mem_cons.mp hmem with rfl | hmem
                · rw [hload]
                  rfl
                · exact hall ep' hmem
              · simp only [bind, Except.bind, hrest, List.append_assoc]
                cases hfound : found env ep <;> simp [hfound]
            · exact .inr ⟨⟨ep', List.mem_cons_of_mem _ hmem, hbad⟩, e, hrest⟩
  exact hfold []

/-! ### Registration -/

/-- What a lenient loop does with a plugin: it is registered if it can be. -/
def settle (registry : AgentRegistry Runner) (plugin : Manifest × Runner) : AgentRegistry Runner :=
  registry.call (.registerPlugin plugin.1.toPluginManifest plugin.2)

/-- The plugins that load, with their runners. -/
def loaded (env : Environment Runner) (plugin : Manifest × RunnerObj Runner) :
    Option (Manifest × Runner) :=
  match loadAndValidatePlugin env plugin.1 plugin.2 with
  | .ok runner => some (plugin.1, runner)
  | .error _ => none

theorem filterMap_loaded {eps : List EntryPoint} (hnamed : ∀ ep ∈ eps, Named env ep) :
    (eps.filterMap (found env)).filterMap (loaded env) = eps.filterMap (usable env) := by
  rw [List.filterMap_filterMap]
  refine List.filterMap_congr fun ep hep => ?_
  cases hfound : found env ep with
  | none =>
      refine (Option.eq_none_iff_forall_ne_some.mpr fun plugin husable => ?_).symm
      obtain ⟨object, hload, -, hmanifest, -⟩ := usable_eq_some_iff.mp husable
      have hsome : found env ep = some (plugin.1, asRunner ep (findManifest object).2) :=
        found_eq_some_iff.mpr ⟨object, _, hload, Prod.ext hmanifest rfl, rfl⟩
      rw [hfound] at hsome
      cases hsome
  | some plugin =>
      have hiff := loadAndValidatePlugin_found (hnamed ep hep) hfound
      simp only [Option.bind_some, loaded]
      cases hload : loadAndValidatePlugin env plugin.1 plugin.2 with
      | ok runner => exact ((hiff runner).mp hload).symm
      | error e =>
          refine (Option.eq_none_iff_forall_ne_some.mpr fun usablePlugin husable => ?_).symm
          obtain ⟨object, hobject, -, hmanifest, -⟩ := usable_eq_some_iff.mp husable
          obtain ⟨object', own, hobject', hmanifest', -⟩ := found_eq_some_iff.mp hfound
          obtain rfl : object' = object := Except.ok.inj (hobject'.symm.trans hobject)
          have hsame : plugin.1 = usablePlugin.1 := by
            rw [hmanifest'] at hmanifest
            exact Option.some.inj hmanifest
          have hok := (hiff usablePlugin.2).mpr (by rw [hsame]; exact husable)
          rw [hload] at hok
          cases hok

theorem settle_registry (registry : AgentRegistry Runner) (plugin : Manifest × Runner) :
    (settle registry plugin).firstPartyRegistry = registry.firstPartyRegistry ∧
      ∀ domain, (settle registry plugin).pluginRegistry.get? domain =
        (registry.pluginRegistry.get? domain).or
          (if registry.firstPartyRegistry.contains domain = true ∨ plugin.1.domain ≠ domain then
            none
          else some { manifest := plugin.1.toPluginManifest, runner := plugin.2 }) := by
  unfold settle AgentRegistry.call AgentRegistry.registerPlugin
  by_cases hcore : registry.firstPartyRegistry.contains plugin.1.domain = true
  · refine ⟨by simp [hcore], fun domain => ?_⟩
    by_cases hdomain : plugin.1.domain = domain
    · simp [← hdomain, hcore]
    · simp [hcore, hdomain]
  · cases hold : registry.pluginRegistry.get? plugin.1.domain with
    | some old =>
        refine ⟨by simp [hcore, hold], fun domain => ?_⟩
        by_cases hdomain : plugin.1.domain = domain
        · simp [← hdomain, hcore, hold]
        · simp [hcore, hold, hdomain]
    | none =>
        refine ⟨by simp [hcore, hold], fun domain => ?_⟩
        by_cases hdomain : plugin.1.domain = domain
        · simp [← hdomain, hcore, hold, Dict.get?_set_self]
        · simp [hcore, hold, hdomain, Dict.get?_set_of_ne]

/-- Each domain that is not taken goes to the first plugin that asks for it. -/
theorem foldl_settle :
    ∀ (plugins : List (Manifest × Runner)) (registry : AgentRegistry Runner),
      (plugins.foldl settle registry).firstPartyRegistry = registry.firstPartyRegistry ∧
        ∀ domain, (plugins.foldl settle registry).pluginRegistry.get? domain =
          (registry.pluginRegistry.get? domain).or
            (if registry.firstPartyRegistry.contains domain = true then none
            else (plugins.find? fun p => p.1.domain == domain).map fun p =>
              { manifest := p.1.toPluginManifest, runner := p.2 }) := by
  intro plugins
  induction plugins with
  | nil =>
      intro registry
      exact ⟨rfl, fun domain => by simp⟩
  | cons plugin plugins ih =>
      intro registry
      obtain ⟨hfirst, hplugins⟩ := settle_registry registry plugin
      obtain ⟨ihfirst, ihplugins⟩ := ih (settle registry plugin)
      rw [List.foldl_cons]
      refine ⟨ihfirst.trans hfirst, fun domain => ?_⟩
      rw [ihplugins, hplugins, hfirst, List.find?_cons]
      by_cases hcore : registry.firstPartyRegistry.contains domain = true
      · simp [hcore]
      · by_cases hdomain : plugin.1.domain = domain
        · cases registry.pluginRegistry.get? domain <;> simp [hcore, hdomain]
        · have hbeq : (plugin.1.domain == domain) = false := beq_false_of_ne hdomain
          simp [hcore, hdomain, hbeq]

/-- A plugin is installed, or nothing changes. -/
theorem install_cases (registry : AgentRegistry Runner)
    (plugin : Manifest × RunnerObj Runner) :
    (∃ runner registry', loaded env plugin = some (plugin.1, runner) ∧
        install env registry plugin = .ok registry' ∧
        registry' = settle registry (plugin.1, runner) ∧
        registry'.pluginRegistry.keys = registry.pluginRegistry.keys ++ [plugin.1.domain]) ∨
      ∃ e, install env registry plugin = .error e ∧
        (loaded env plugin).toList.foldl settle registry = registry := by
  unfold loaded install
  cases hload : loadAndValidatePlugin env plugin.1 plugin.2 with
  | error e => exact .inr ⟨e, rfl, rfl⟩
  | ok runner =>
      cases hregister : registry.registerPlugin plugin.1.toPluginManifest runner with
      | error e =>
          refine .inr ⟨e, hregister, ?_⟩
          simp [settle, AgentRegistry.call, hregister]
      | ok registry' =>
          obtain ⟨hnew, hregistry⟩ := AgentRegistry.registerPlugin_ok hregister
          refine .inl ⟨runner, registry', rfl, hregister, ?_, ?_⟩
          · simp [settle, AgentRegistry.call, hregister]
          · rw [AgentRegistry.listDomains, List.mem_append, not_or] at hnew
            rw [hregistry]
            exact Dict.keys_set_of_not_mem hnew.2 _

/-- The domains of the plugins that are recorded as active. -/
def Boot.activeDomains (boot : Boot Runner) : List String :=
  (boot.telemetryRecords.filter fun r => r.status == "active").map fun r => r.manifest.domain

/-- A lenient loop registers what it can and records every plugin. -/
theorem initializeLoop_lenient :
    ∀ (plugins : List (Manifest × RunnerObj Runner)) (boot : Boot Runner),
      ∃ boot', initializeLoop env false plugins boot = (boot', none) ∧
        boot'.registry = (plugins.filterMap (loaded env)).foldl settle boot.registry ∧
        boot'.telemetryRecords.map (·.manifest) =
          boot.telemetryRecords.map (·.manifest) ++ plugins.map Prod.fst ∧
        ∀ keys, boot.registry.pluginRegistry.keys = keys ++ boot.activeDomains →
          boot'.registry.pluginRegistry.keys = keys ++ boot'.activeDomains := by
  intro plugins
  induction plugins with
  | nil =>
      intro boot
      exact ⟨boot, rfl, rfl, by simp, fun keys h => h⟩
  | cons plugin plugins ih =>
      intro boot
      rw [initializeLoop]
      rcases @install_cases _ env boot.registry plugin with
        ⟨runner, registry', hloaded, hinstall, hregistry, hkeys⟩ | ⟨e, hinstall, hsame⟩
      · obtain ⟨boot', hloop, hfold, hrecords, hactive⟩ :=
          ih ⟨registry', boot.telemetryRecords ++ [⟨plugin.1, "active", none⟩]⟩
        refine ⟨boot', ?_, ?_, ?_, ?_⟩
        · rw [hinstall]
          exact hloop
        · rw [hfold, List.filterMap_cons, hloaded, List.foldl_cons, hregistry]
        · rw [hrecords]
          simp
        · intro keys h
          refine hactive keys ?_
          rw [hkeys, h]
          simp [Boot.activeDomains, List.filter_append]
      · obtain ⟨boot', hloop, hfold, hrecords, hactive⟩ :=
          ih { boot with telemetryRecords :=
            boot.telemetryRecords ++ [⟨plugin.1, "failed", some e.str⟩] }
        refine ⟨boot', ?_, ?_, ?_, ?_⟩
        · rw [hinstall]
          exact hloop
        · rw [hfold, List.filterMap_cons]
          cases hloaded : loaded env plugin with
          | none => rfl
          | some own =>
              rw [hloaded] at hsame
              rw [List.foldl_cons, show settle boot.registry own = boot.registry from hsame]
        · rw [hrecords]
          simp
        · intro keys h
          refine hactive keys ?_
          rw [h]
          simp [Boot.activeDomains, List.filter_append]

/-- **What a lenient worker starts with**: its first-party agents, for each other domain the first
usable entry point that asks for it, and a record of every plugin that was discovered. -/
theorem plugins_of_boot {eps : List EntryPoint} (hnamed : ∀ ep ∈ eps, Named env ep)
    (registry : AgentRegistry Runner) :
    let started := initializePlugins env {} (.ok eps) registry
    started.2 = none ∧
      started.1.registry.firstPartyRegistry = registry.firstPartyRegistry ∧
      (∀ domain, started.1.registry.pluginRegistry.get? domain =
        (registry.pluginRegistry.get? domain).or
          (if registry.firstPartyRegistry.contains domain = true then none
          else ((eps.filterMap (usable env)).find? fun p => p.1.domain == domain).map fun p =>
            { manifest := p.1.toPluginManifest, runner := p.2 })) ∧
      started.1.telemetryRecords.map (·.manifest) = (eps.filterMap (found env)).map Prod.fst ∧
      started.1.registry.pluginRegistry.keys =
        registry.pluginRegistry.keys ++ started.1.activeDomains := by
  intro started
  obtain ⟨boot, hloop, hregistry, hrecords, hactive⟩ :=
    @initializeLoop_lenient _ env (eps.filterMap (found env)) ⟨registry, []⟩
  have hstarted : started = (boot, none) := by
    simp only [started, initializePlugins, Bool.true_eq_false, if_false, discoverPlugins_lenient,
      hloop]
  rw [filterMap_loaded hnamed] at hregistry
  obtain ⟨hfirst, hplugins⟩ := foldl_settle (eps.filterMap (usable env)) registry
  rw [hstarted]
  refine ⟨rfl, ?_, ?_, ?_, ?_⟩
  · rw [hregistry, hfirst]
  · intro domain
    rw [hregistry, hplugins]
  · simpa using hrecords
  · exact hactive _ (by simp [Boot.activeDomains])

/-- A plugin package: a module with a manifest and a runner that carries the manifest too. -/
def volcano : Manifest where
  name := "gaiaos-volcano-plugin"
  domain := "volcanic_activity"
  version := "1.0.0"

def volcanoModule : PyObject Nat :=
  let manifest : PyObject Nat := .mk (.manifest volcano) []
  .mk .other [("MANIFEST", manifest), ("run", .mk (.runner 7) [("__manifest__", manifest)])]

def sampleEnvironment : Environment Nat where
  importModule name :=
    if name = "gaiaos_volcano.agent" then .ok volcanoModule
    else .error (.exception ("No module named '" ++ name ++ "'"))
  getenv _ := none
  version := "0.5.4"
  contains _ := .ok true
  isCoroutineFunction _ := true
  inspect _ := .ok { parameters := [("agent_input", none)] }
  str _ := "<module 'gaiaos_volcano.agent'>"

/-- The entry point of the plugin guide, the module, and the runner. -/
def sampleEntryPoints : List EntryPoint :=
  [⟨"volcanic_activity", "gaiaos_volcano.agent", "MANIFEST"⟩,
    ⟨"volcanic_activity", "gaiaos_volcano.agent", ""⟩,
    ⟨"volcanic_activity", "gaiaos_volcano.agent", "run"⟩]

theorem sampleEntryPoints_named : ∀ ep ∈ sampleEntryPoints, Named sampleEnvironment ep := by
  have hnames : ∀ ep ∈ sampleEntryPoints, ':' ∉ ep.moduleName.toList ∧ ':' ∉ ep.attr.toList := by
    simp only [sampleEntryPoints, List.forall_mem_cons]
    decide
  intro ep hep
  refine ⟨(hnames ep hep).1, (hnames ep hep).2, fun name object h => ?_⟩
  unfold sampleEnvironment at h
  dsimp only at h
  split at h
  · cases h
    decide
  · cases h

/-- The first two are recorded as failed; the third is the plugin. -/
theorem sampleBoot_plugins :
    let started := initializePlugins sampleEnvironment {} (.ok sampleEntryPoints)
      (AgentRegistry.registerAgents String.length AgentRegistry.init)
    (started.1.registry.pluginRegistry.get? "volcanic_activity").map (·.runner) = some 7 ∧
      started.1.telemetryRecords.length = 3 := by
  intro started
  obtain ⟨-, -, hplugins, hrecords, -⟩ :=
    plugins_of_boot sampleEntryPoints_named
      (AgentRegistry.registerAgents String.length AgentRegistry.init)
  refine ⟨?_, ?_⟩
  · rw [hplugins]
    decide +kernel
  · rw [← List.length_map, hrecords]
    decide +kernel

/-! ### Strict mode -/

theorem registerPlugin_of_not_mem {registry : AgentRegistry Runner} {manifest : PluginManifest}
    (h : manifest.domain ∉ registry.listDomains) (runner : Runner) :
    registry.registerPlugin manifest runner = .ok { registry with
      pluginRegistry := registry.pluginRegistry.set manifest.domain { manifest, runner } } := by
  simp only [AgentRegistry.listDomains, List.mem_append, Dict.mem_keys_iff, not_or,
    Bool.not_eq_true, Option.isSome_eq_false_iff, Option.isNone_iff_eq_none] at h
  simp [AgentRegistry.registerPlugin, Dict.contains, h.1, h.2]

theorem mem_listDomains_settle {registry registry' : AgentRegistry Runner}
    {plugin : Manifest × RunnerObj Runner} (h : install env registry plugin = .ok registry')
    (domain : String) :
    domain ∈ registry'.listDomains ↔ domain ∈ registry.listDomains ∨ domain = plugin.1.domain := by
  obtain ⟨runner, -, hregister⟩ := ok_of_bind h
  obtain ⟨-, rfl⟩ := AgentRegistry.registerPlugin_ok hregister
  simp only [AgentRegistry.listDomains, List.mem_append, Dict.mem_keys_iff, Dict.get?_set]
  by_cases hdomain : plugin.1.domain = domain
  · simp [hdomain]
  · simp [hdomain, Ne.symm hdomain]

/-- A strict loop goes through if every plugin loads and has a domain of its own. -/
theorem initializeLoop_strict :
    ∀ (plugins : List (Manifest × RunnerObj Runner)) (boot : Boot Runner),
      ((initializeLoop env true plugins boot).2 = none ↔
        (∀ p ∈ plugins, (loaded env p).isSome = true) ∧
          (plugins.map fun p => p.1.domain).Nodup ∧
          ∀ p ∈ plugins, p.1.domain ∉ boot.registry.listDomains) ∧
      ((initializeLoop env true plugins boot).2 = none →
        initializeLoop env true plugins boot = initializeLoop env false plugins boot) := by
  intro plugins
  induction plugins with
  | nil =>
      intro boot
      simp [initializeLoop]
  | cons plugin plugins ih =>
      intro boot
      rw [initializeLoop, initializeLoop]
      cases hinstall : install env boot.registry plugin with
      | ok registry' =>
          have hmem := mem_listDomains_settle hinstall
          obtain ⟨runner, hload, hregister⟩ := ok_of_bind hinstall
          have hnew := (AgentRegistry.registerPlugin_ok hregister).1
          have hloaded : (loaded env plugin).isSome = true := by simp [loaded, hload]
          obtain ⟨hiff, hsame⟩ :=
            ih ⟨registry', boot.telemetryRecords ++ [⟨plugin.1, "active", none⟩]⟩
          refine ⟨?_, hsame⟩
          rw [hiff]
          simp only [List.forall_mem_cons, hloaded, true_and, List.map_cons, List.nodup_cons,
            hmem, not_or]
          constructor
          · rintro ⟨hall, hnodup, hdomains⟩
            refine ⟨hall, ⟨fun hin => ?_, hnodup⟩, hnew, fun p hp => (hdomains p hp).1⟩
            obtain ⟨p, hp, heq⟩ := List.mem_map.mp hin
            exact (hdomains p hp).2 heq
          · rintro ⟨hall, ⟨hnot, hnodup⟩, -, hdomains⟩
            refine ⟨hall, hnodup, fun p hp => ⟨hdomains p hp, fun heq => hnot ?_⟩⟩
            exact List.mem_map.mpr ⟨p, hp, heq⟩
      | error e =>
          have hbad : ¬ ((loaded env plugin).isSome = true ∧
              plugin.1.domain ∉ boot.registry.listDomains) := by
            rintro ⟨hloaded, hnew⟩
            unfold loaded at hloaded
            split at hloaded
            · rename_i runner hload
              have hregister := registerPlugin_of_not_mem hnew runner
              unfold install at hinstall
              rw [hload] at hinstall
              exact nomatch hregister.symm.trans hinstall
            · cases hloaded
          refine ⟨⟨fun h => (by cases h), fun h => ?_⟩, fun h => (by cases h)⟩
          exact absurd ⟨h.1 plugin List.mem_cons_self, h.2.2 plugin List.mem_cons_self⟩ hbad

/-- **When a strict worker starts**: everything loads, what has a manifest is usable, and the
domains are new and differ; and then it starts as a lenient one does. -/
theorem strict_boot_iff {eps : List EntryPoint} (hnamed : ∀ ep ∈ eps, Named env ep)
    (registry : AgentRegistry Runner) :
    let started := initializePlugins env { strictPluginValidation := true } (.ok eps) registry
    (started.2 = none ↔
      (∀ ep ∈ eps, (ep.load env).isOk = true) ∧
        (∀ ep ∈ eps, (found env ep).isSome = true → (usable env ep).isSome = true) ∧
        ((eps.filterMap (found env)).map fun p => p.1.domain).Nodup ∧
        ∀ p ∈ eps.filterMap (found env), p.1.domain ∉ registry.listDomains) ∧
      (started.2 = none → started = initializePlugins env {} (.ok eps) registry) := by
  intro started
  obtain ⟨hiff, hsame⟩ := @initializeLoop_strict _ env (eps.filterMap (found env)) ⟨registry, []⟩
  -- a plugin that was found loads if its entry point is usable
  have hloads : (∀ p ∈ eps.filterMap (found env), (loaded env p).isSome = true) ↔
      ∀ ep ∈ eps, (found env ep).isSome = true → (usable env ep).isSome = true := by
    have hone : ∀ ep ∈ eps, ∀ p, found env ep = some p →
        ((loaded env p).isSome = (usable env ep).isSome) := by
      intro ep hep p hp
      have hsingle := filterMap_loaded (List.forall_mem_singleton.mpr (hnamed ep hep))
      simp only [List.filterMap_cons, List.filterMap_nil, hp] at hsingle
      cases hleft : loaded env p <;> cases hright : usable env ep <;> simp_all
    constructor
    · intro h ep hep hsome
      obtain ⟨p, hp⟩ := Option.isSome_iff_exists.mp hsome
      rw [← hone ep hep p hp]
      exact h p (List.mem_filterMap.mpr ⟨ep, hep, hp⟩)
    · intro h p hp
      obtain ⟨ep, hep, hfound⟩ := List.mem_filterMap.mp hp
      rw [hone ep hep p hfound]
      exact h ep hep (by rw [hfound]; rfl)
  rcases @discoverPlugins_strict _ env eps with ⟨hall, hdiscovered⟩ | ⟨⟨ep, hep, hbad⟩, e, he⟩
  · have hstarted : started.2 =
        (initializeLoop env true (eps.filterMap (found env)) ⟨registry, []⟩).2 := by
      simp only [started, initializePlugins, Bool.true_eq_false, if_false, hdiscovered]
      cases hloop : initializeLoop env true (eps.filterMap (found env)) ⟨registry, []⟩ with
      | mk boot error => cases error <;> rfl
    refine ⟨?_, fun h => ?_⟩
    · rw [hstarted, hiff, hloads]
      exact ⟨fun h => ⟨hall, h⟩, fun h => h.2⟩
    · rw [hstarted] at h
      simp only [started, initializePlugins, Bool.true_eq_false, if_false, hdiscovered,
        discoverPlugins_lenient, hsame h]
  · have hstarted : started.2 = some e := by
      simp only [started, initializePlugins, Bool.true_eq_false, if_false, he]
    refine ⟨⟨fun h => ?_, fun h => ?_⟩, fun h => ?_⟩
    · rw [hstarted] at h
      cases h
    · rw [h.1 ep hep] at hbad
      cases hbad
    · rw [hstarted] at h
      cases h

/-- A strict worker does not start with the entry point of the plugin guide. -/
theorem sampleBoot_strict :
    (initializePlugins sampleEnvironment { strictPluginValidation := true }
      (.ok sampleEntryPoints)
      (AgentRegistry.registerAgents String.length AgentRegistry.init)).2 ≠ none := by
  intro h
  obtain ⟨-, husable, -⟩ := (strict_boot_iff sampleEntryPoints_named
    (AgentRegistry.registerAgents String.length AgentRegistry.init)).1.mp h
  have hguide := husable ⟨"volcanic_activity", "gaiaos_volcano.agent", "MANIFEST"⟩
    List.mem_cons_self (by decide +kernel)
  exact absurd hguide (by decide +kernel)

end Plugins

end GaiaOS
