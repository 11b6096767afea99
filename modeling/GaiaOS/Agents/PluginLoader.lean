/-
Plugins, from their entry points to the registry, after `orchestrator/agents/plugin_loader.py`,
`validate_runner_contract` of `eval/agent_contract_validator.py` and `initialize_plugins` of
`workers/worker.py`.

What the installed modules contain is a parameter.  An object is a manifest, a runner or neither,
and has attributes; it is true, and no manifest can be called.  An entry point names a module
and, mostly, a dotted attribute of it; extras are left out, and so is the warning about a plugin
without questions.  A `__manifest__` that is there is taken to be a manifest.
-/
import GaiaOS.Agents.Registry
import GaiaOS.Lib.Text

namespace GaiaOS

namespace Plugins

/-! ### Objects -/

/-- `PluginManifest`, as far as the loader reads it; `entry_point` is not read. -/
structure Manifest extends PluginManifest where
  version : String
  gaiaosVersionRange : String := ">=0.5.0"
  requiredSettings : List String := []

/-- An annotation of a parameter or a return value. -/
structure Annotation where
  repr : String
  isAgentInput : Bool := false
  isAgentOutput : Bool := false

/-- What `inspect` tells of a runner, type hints resolved. -/
structure Signature where
  parameters : List (String × Option Annotation)
  returns : Option Annotation := none

inductive Kind (Runner : Type)
  | manifest (manifest : Manifest)
  | runner (runner : Runner)
  | other

inductive PyObject (Runner : Type)
  | mk (kind : Kind Runner) (attributes : List (String × PyObject Runner))

variable {Runner : Type}

def PyObject.kind : PyObject Runner → Kind Runner
  | .mk kind _ => kind

def PyObject.attributes : PyObject Runner → List (String × PyObject Runner)
  | .mk _ attributes => attributes

def PyObject.asManifest (object : PyObject Runner) : Option Manifest :=
  match object.kind with
  | .manifest manifest => some manifest
  | _ => none

/-- `getattr(object, name)`. -/
def PyObject.getattr (object : PyObject Runner) (name : String) :
    Except PyError (PyObject Runner) :=
  match object.attributes.lookup name with
  | some found => .ok found
  | none => .error (.attributeError name)

/-- What the loader finds around it. -/
structure Environment (Runner : Type) where
  importModule : String → Except PyError (PyObject Runner)
  getenv : String → Option String
  /-- `GAIAOS_VERSION`, and whether it is in a `SpecifierSet`, if the range is one. -/
  version : String
  contains : String → Except PyError Bool
  /-- Whether a runner is asynchronous, and its signature. -/
  isCoroutineFunction : Runner → Bool
  inspect : Runner → Except PyError Signature
  str : PyObject Runner → String

/-- `importlib.metadata.EntryPoint`. -/
structure EntryPoint where
  name : String
  moduleName : String
  attr : String := ""

def EntryPoint.value (ep : EntryPoint) : String :=
  if ep.attr = "" then ep.moduleName else ep.moduleName ++ ":" ++ ep.attr

variable (env : Environment Runner)

/-- `EntryPoint.load`. -/
def EntryPoint.load (ep : EntryPoint) : Except PyError (PyObject Runner) := do
  let module ← env.importModule ep.moduleName
  ((pySplitOn "." ep.attr).filter (· ≠ "")).foldlM PyObject.getattr module

/-! ### Discovery -/

/-- `runner_callable or ep.value`. -/
inductive RunnerObj (Runner : Type)
  | object (object : PyObject Runner)
  | path (value : String)

/-- The manifest of a loaded object, and the object if it may be the runner. -/
def findManifest (loadedObj : PyObject Runner) : Option Manifest × Option (PyObject Runner) :=
  match loadedObj.asManifest, ((loadedObj.attributes.lookup "MANIFEST").bind PyObject.asManifest),
      loadedObj.kind with
  | some manifest, _, _ => (some manifest, none)
  | none, some manifest, _ => (some manifest, some loadedObj)
  | none, none, .runner _ =>
      ((loadedObj.attributes.lookup "__manifest__").bind PyObject.asManifest, some loadedObj)
  | none, none, _ => (none, none)

/-- The body of the loop of `discover_plugins`. -/
def discover (strict : Bool) (discovered : List (Manifest × RunnerObj Runner)) (ep : EntryPoint) :
    Except PyError (List (Manifest × RunnerObj Runner)) :=
  match ep.load env with
  | .ok loadedObj =>
      match findManifest loadedObj with
      | (none, _) => .ok discovered
      | (some manifest, some runner) => .ok (discovered ++ [(manifest, .object runner)])
      | (some manifest, none) => .ok (discovered ++ [(manifest, .path ep.value)])
  | .error e =>
      if strict then
        .error (.exception ("Failed to load entry point " ++ ep.name ++ ": " ++ e.str))
      else .ok discovered

/-- `discover_plugins`; the lookup of the entry points may raise. -/
def discoverPlugins (strict : Bool) (eps : Except PyError (List EntryPoint)) :
    Except PyError (List (Manifest × RunnerObj Runner)) :=
  match eps with
  | .error _ => .ok []
  | .ok eps => eps.foldlM (discover env strict) []

/-! ### Validation -/

/-- `validate_plugin_compatibility`. -/
def validatePluginCompatibility (manifest : Manifest) : Except PyError Unit :=
  let versionRange := pyStrip manifest.gaiaosVersionRange
  if versionRange = "" then .ok ()
  else
    match env.contains versionRange with
    | .error e =>
        .error (.exception ("Plugin '" ++ manifest.name ++
          "' specifies invalid gaiaos_version_range '" ++ versionRange ++ "': " ++ e.str))
    | .ok true => .ok ()
    | .ok false =>
        .error (.exception ("Plugin '" ++ manifest.name ++ "' (version " ++ manifest.version ++
          ") requires GaiaOS version '" ++ versionRange ++ "', but running version is '" ++
          env.version ++ "'."))

/-- The settings that are not there, or empty. -/
def missingSettings (manifest : Manifest) : List String :=
  manifest.requiredSettings.filter fun req => (env.getenv req).getD "" = ""

/-- `validate_required_settings`. -/
def validateRequiredSettings (manifest : Manifest) : Except PyError Unit :=
  let missing := missingSettings env manifest
  if missing = [] then .ok ()
  else
    .error (.exception ("Plugin '" ++ manifest.name ++ "' is missing required setting(s): " ++
      ", ".intercalate missing))

/-- `validate_runner_contract`. -/
def validateRunnerContract (runner : Runner) (domain : String) : Except PyError (List String) := do
  if env.isCoroutineFunction runner = false then
    return ["Agent '" ++ domain ++ "' runner callable is not an async coroutine function. " ++
      "Expected 'async def run(agent_input: AgentInput, bus: CollaborationBus | None = None)'"]
  let sig ← env.inspect runner
  match sig.parameters with
  | [] =>
      return ["Agent '" ++ domain ++ "' runner takes 0 parameters. " ++
        "Expected at least 1 parameter of type AgentInput."]
  | (param, paramType) :: _ =>
      let input := match paramType with
        | some paramType =>
            if paramType.isAgentInput then []
            else ["Agent '" ++ domain ++ "' first parameter '" ++ param ++ "' has type " ++
              paramType.repr ++ ". Expected type AgentInput."]
        | none => []
      let output := match sig.returns with
        | some returnType =>
            if returnType.isAgentOutput then []
            else ["Agent '" ++ domain ++ "' return annotation is " ++ returnType.repr ++
              ". Expected return type AgentOutput."]
        | none => []
      return input ++ output

/-- `text.rpartition(separator)`, without the separator. -/
def rpartition (separator : Char) (text : String) : String × String :=
  let reversed := text.toList.reverse
  match reversed.dropWhile (· ≠ separator) with
  | [] => ("", text)
  | _ :: before =>
      (String.ofList before.reverse, String.ofList (reversed.takeWhile (· ≠ separator)).reverse)

/-- The object a plugin is run by. -/
def resolveRunner (manifest : Manifest) : RunnerObj Runner → Except PyError (PyObject Runner)
  | .object object => .ok object
  | .path value =>
      let (modulePath, funcName) := rpartition ':' value
      if modulePath = "" ∨ funcName = "" then
        .error (.exception ("Invalid entry_point string '" ++ value ++ "' for plugin '" ++
          manifest.name ++ "'."))
      else
        match env.importModule modulePath >>= fun module => module.getattr funcName with
        | .ok object => .ok object
        | .error e =>
            .error (.exception ("Failed to import runner '" ++ value ++ "' for plugin '" ++
              manifest.name ++ "': " ++ e.str))

/-- `load_and_validate_plugin`. -/
def loadAndValidatePlugin (manifest : Manifest) (runnerObj : RunnerObj Runner) :
    Except PyError Runner := do
  validatePluginCompatibility env manifest
  validateRequiredSettings env manifest
  let object ← resolveRunner env manifest runnerObj
  match object.kind with
  | .runner runner =>
      let contractErrors ← validateRunnerContract env runner manifest.domain
      if contractErrors = [] then return runner
      else
        .error (.exception ("Plugin '" ++ manifest.name ++
          "' runner failed contract validation: " ++ "; ".intercalate contractErrors))
  | _ =>
      let shown := match runnerObj with
        | .object object => env.str object
        | .path value => value
      .error (.exception ("Plugin '" ++ manifest.name ++ "' entry point '" ++ shown ++
        "' is not callable."))

/-! ### The worker's start -/

/-- A row of `installed_plugins`. -/
structure TelemetryRecord where
  manifest : Manifest
  status : String
  errorMessage : Option String

structure Boot (Runner : Type) where
  registry : AgentRegistry Runner
  telemetryRecords : List TelemetryRecord := []

/-- A discovered plugin is registered, or the error of it. -/
def install (registry : AgentRegistry Runner) (plugin : Manifest × RunnerObj Runner) :
    Except PyError (AgentRegistry Runner) := do
  let runner ← loadAndValidatePlugin env plugin.1 plugin.2
  registry.registerPlugin plugin.1.toPluginManifest runner

/-- The loop of `initialize_plugins`; in strict mode an error ends it. -/
def initializeLoop (strict : Bool) :
    List (Manifest × RunnerObj Runner) → Boot Runner → Boot Runner × Option PyError
  | [], boot => (boot, none)
  | plugin :: rest, boot =>
      let manifest := plugin.1
      match install env boot.registry plugin with
      | .ok registry =>
          initializeLoop strict rest
            ⟨registry, boot.telemetryRecords ++ [⟨manifest, "active", none⟩]⟩
      | .error e =>
          let boot :=
            { boot with
              telemetryRecords := boot.telemetryRecords ++ [⟨manifest, "failed", some e.str⟩] }
          if strict then
            (boot, some (.exception ("Plugin '" ++ manifest.name ++
              "' failed validation in strict mode: " ++ e.str)))
          else initializeLoop strict rest boot

structure Settings where
  pluginsEnabled : Bool := true
  strictPluginValidation : Bool := false

/-- `initialize_plugins`: the registry, the records that are handed to the database, and the
error that ends the worker's start. -/
def initializePlugins (settings : Settings) (eps : Except PyError (List EntryPoint))
    (registry : AgentRegistry Runner) : Boot Runner × Option PyError :=
  if settings.pluginsEnabled = false then (⟨registry, []⟩, none)
  else
    match discoverPlugins env settings.strictPluginValidation eps with
    | .error e => (⟨registry, []⟩, some e)
    | .ok discovered =>
        match initializeLoop env settings.strictPluginValidation discovered ⟨registry, []⟩ with
        | (boot, none) => (boot, none)
        | (boot, some e) => (⟨boot.registry, []⟩, some e)

end Plugins

end GaiaOS
