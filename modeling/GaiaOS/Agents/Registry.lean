/-
The registry of domain agents, after `orchestrator/agents/registry.py`.

First-party agents and plugins are kept in two dicts.  A first-party agent may be registered over
another; a plugin may not take a domain that either dict has.  Nothing is ever removed.  What a
runner is does not matter here, so it is a type variable.
-/
import GaiaOS.Lib.Dict
import GaiaOS.Lib.Python

namespace GaiaOS

/-- `PluginManifest`, as far as the registry reads it. -/
structure PluginManifest where
  name : String
  domain : String
  deriving DecidableEq

/-- `RegisteredPlugin`. -/
structure RegisteredPlugin (Runner : Type) where
  manifest : PluginManifest
  runner : Runner
  status : String := "active"

/-- `AgentRegistry`. -/
structure AgentRegistry (Runner : Type) where
  firstPartyRegistry : Dict String Runner
  pluginRegistry : Dict String (RegisteredPlugin Runner)

namespace AgentRegistry

variable {Runner : Type}

/-- `AgentRegistry.__init__`. -/
def init : AgentRegistry Runner := ⟨Dict.empty, Dict.empty⟩

/-- `register`. -/
def register (reg : AgentRegistry Runner) (name : String) (runner : Runner) :
    AgentRegistry Runner :=
  { reg with firstPartyRegistry := reg.firstPartyRegistry.set name runner }

/-- The text both refusals of `register_plugin` begin with. -/
def collisionText (manifest : PluginManifest) : String :=
  "Plugin '" ++ manifest.name ++ "' attempted to register domain '" ++ manifest.domain ++ "', "

/-- `register_plugin`.  A `DuplicateDomainError` is an exception with its text. -/
def registerPlugin (reg : AgentRegistry Runner) (manifest : PluginManifest) (runner : Runner) :
    Except PyError (AgentRegistry Runner) :=
  if reg.firstPartyRegistry.contains manifest.domain then
    .error (.exception (collisionText manifest ++
      "which collides with a core first-party agent domain."))
  else
    match reg.pluginRegistry.get? manifest.domain with
    | some existing =>
        .error (.exception (collisionText manifest ++
          "which collides with already-registered plugin '" ++ existing.manifest.name ++ "'."))
    | none =>
        .ok { reg with
          pluginRegistry := reg.pluginRegistry.set manifest.domain { manifest, runner } }

/-- `get`. -/
def get (reg : AgentRegistry Runner) (name : String) : Except PyError Runner :=
  match reg.firstPartyRegistry.get? name with
  | some runner => .ok runner
  | none =>
      match reg.pluginRegistry.get? name with
      | some plugin => .ok plugin.runner
      | none => .error (.valueError ("Agent '" ++ name ++ "' is not registered."))

/-- `list_domains`. -/
def listDomains (reg : AgentRegistry Runner) : List String :=
  reg.firstPartyRegistry.keys ++ reg.pluginRegistry.keys

/-- `get_plugin_manifest`. -/
def getPluginManifest (reg : AgentRegistry Runner) (domain : String) : Option PluginManifest :=
  (reg.pluginRegistry.get? domain).map (·.manifest)

/-- The names `register_agents` registers, in order. -/
def coreDomains : List String :=
  ["air_quality", "seismic", "ocean", "atmosphere", "wildfire", "literature", "causal_chain"]

/-- The `_register` of `register_agents`: a domain that is there stays as it is. -/
def registerCore (runnerOf : String → Runner) (reg : AgentRegistry Runner) (name : String) :
    AgentRegistry Runner :=
  if reg.firstPartyRegistry.contains name then reg else reg.register name (runnerOf name)

/-- `register_agents`; `runnerOf` is the `run` that is imported for each name. -/
def registerAgents (runnerOf : String → Runner) (reg : AgentRegistry Runner) :
    AgentRegistry Runner :=
  coreDomains.foldl (registerCore runnerOf) reg

/-- A call that fills the registry. -/
inductive Call (Runner : Type)
  | register (name : String) (runner : Runner)
  | registerPlugin (manifest : PluginManifest) (runner : Runner)

/-- The registry after a call; one that raises leaves it as it was. -/
def call (reg : AgentRegistry Runner) : Call Runner → AgentRegistry Runner
  | .register name runner => reg.register name runner
  | .registerPlugin manifest runner =>
      match reg.registerPlugin manifest runner with
      | .ok reg' => reg'
      | .error _ => reg

/-- The registry after some calls. -/
def run (reg : AgentRegistry Runner) (calls : List (Call Runner)) : AgentRegistry Runner :=
  calls.foldl call reg

end AgentRegistry

end GaiaOS
