/-
The events an investigation streams, after `orchestrator/schemas/events.py`, and what
`model_dump_json` writes for them.

The text of the JSON is left out: a serialised event is the tree that `json.loads`
reads back from it.  Two things in that tree are pydantic's doing and not the event's.
A model becomes an object whose keys are its fields, and a float that is not a number
becomes `null`, anywhere in the payload.
-/
import GaiaOS.Lib.Dict
import GaiaOS.Schemas.AgentIo

namespace GaiaOS

structure PlanningData where
  status : String := "planning"
  deriving DecidableEq

/-- `at_` is the source's `at`, an ISO-8601 timestamp. -/
structure AgentStartedData where
  agent : String
  at_ : String
  deriving DecidableEq

structure AgentCompletedData where
  agent : String
  evidenceCount : Int
  deriving DecidableEq

structure CriticFlagData where
  claim : String
  confidence : PyFloat
  reason : String
  deriving DecidableEq

structure ReplanningData where
  cycleNumber : Int
  targetedDomains : List String
  triggerReason : String
  deriving DecidableEq

structure DoneData where
  investigationId : Uuid
  status : String := "complete"
  deriving DecidableEq

/-- `InvestigationEvent`, the union of the seven event models. -/
inductive InvestigationEvent
  | planning (data : PlanningData)
  | agentStarted (data : AgentStartedData)
  | agentCompleted (data : AgentCompletedData)
  | synthesizing (data : Dict String Json)
  | criticFlag (data : CriticFlagData)
  | replanning (data : ReplanningData)
  | done (data : DoneData)

/-! ### Serialisation -/

/-- A float as pydantic writes it. -/
def PyFloat.dump : PyFloat → Json
  | .finite q => .float (.finite q)
  | _ => .null

mutual

/-- A value of a plain dict as pydantic writes it. -/
def Json.dump : Json → Json
  | .float x => x.dump
  | .arr items => .arr (Json.dumpItems items)
  | .obj entries => .obj (Json.dumpEntries entries)
  | j => j

def Json.dumpItems : List Json → List Json
  | [] => []
  | j :: rest => j.dump :: Json.dumpItems rest

def Json.dumpEntries : List (String × Json) → List (String × Json)
  | [] => []
  | (k, j) :: rest => (k, j.dump) :: Json.dumpEntries rest

end

/-- An event model: its tag and its payload. -/
def eventJson (tag : String) (data : List (String × Json)) : Json :=
  .obj [("event", .str tag), ("data", .obj data)]

/-- `event.model_dump_json()`. -/
def InvestigationEvent.modelDumpJson : InvestigationEvent → Json
  | .planning d => eventJson "planning" [("status", .str d.status)]
  | .agentStarted d => eventJson "agent_started" [("agent", .str d.agent), ("at", .str d.at_)]
  | .agentCompleted d =>
      eventJson "agent_completed" [("agent", .str d.agent), ("evidence_count", .int d.evidenceCount)]
  | .synthesizing d => eventJson "synthesizing" (Json.dumpEntries d.entries)
  | .criticFlag d =>
      eventJson "critic_flag"
        [("claim", .str d.claim), ("confidence", d.confidence.dump), ("reason", .str d.reason)]
  | .replanning d =>
      eventJson "replanning"
        [("cycle_number", .int d.cycleNumber),
          ("targeted_domains", .arr (d.targetedDomains.map .str)),
          ("trigger_reason", .str d.triggerReason)]
  | .done d =>
      eventJson "done" [("investigation_id", .str d.investigationId.text), ("status", .str d.status)]

end GaiaOS
