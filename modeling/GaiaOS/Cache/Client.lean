/-
Publishing and reading investigation events, after `cache/client.py` and the channel
names of `cache/keys.py`.

A broker is the log of what was published, each entry with its channel.  A subscriber
that was connected from the start is handed a confirmation and then, in order, every
entry of its own channel.  `subscribe` is a generator: what it yields before it raises
is seen, what comes after is not, so it returns the yielded events together with the
error that ended it, if one did.
-/
import GaiaOS.Schemas.Events

namespace GaiaOS

/-- `RedisKeyBuilder.event_channel_key`. -/
def eventChannelKey (investigationId : String) : String := "gaiaos:events:" ++ investigationId

/-! ### `parse_event` -/

/-- A field of a model: read when present, else its default, else refused. -/
def readField {α : Type} (model loc : String) (entries : List (String × Json)) (key : String)
    (read : Json → Option α) (fallback : Option α) : Except PyError α :=
  match (match Json.field? entries key with
    | some v => read v
    | none => fallback) with
  | some a => .ok a
  | none => .error (.validationError model (loc ++ key))

/-- The payload of an event model, which has to be an object. -/
def readData (model : String) (entries : List (String × Json))
    (fallback : Option (List (String × Json))) : Except PyError (List (String × Json)) :=
  readField model "" entries "data"
    (fun
      | .obj data => some data
      | _ => none) fallback

/-- A text field of a payload, without a default. -/
def readText (model : String) (data : List (String × Json)) (key : String) : Except PyError String :=
  readField model "data." data key Json.asStr? none

def readPlanning (entries : List (String × Json)) : Except PyError InvestigationEvent := do
  let data ← readData "PlanningEvent" entries (some [("status", .str "planning")])
  let status ← readField "PlanningEvent" "data." data "status" Json.asStr? (some "planning")
  return .planning ⟨status⟩

def readAgentStarted (entries : List (String × Json)) : Except PyError InvestigationEvent := do
  let data ← readData "AgentStartedEvent" entries none
  let agent ← readText "AgentStartedEvent" data "agent"
  let at_ ← readText "AgentStartedEvent" data "at"
  return .agentStarted ⟨agent, at_⟩

def readAgentCompleted (rt : Runtime) (entries : List (String × Json)) :
    Except PyError InvestigationEvent := do
  let data ← readData "AgentCompletedEvent" entries none
  let agent ← readText "AgentCompletedEvent" data "agent"
  let evidenceCount ←
    readField "AgentCompletedEvent" "data." data "evidence_count" (Json.asInt? rt) none
  return .agentCompleted ⟨agent, evidenceCount⟩

def readSynthesizing (entries : List (String × Json)) : Except PyError InvestigationEvent := do
  let data ← readData "SynthesizingEvent" entries (some [])
  return .synthesizing (Dict.ofPairs data)

def readCriticFlag (rt : Runtime) (entries : List (String × Json)) :
    Except PyError InvestigationEvent := do
  let data ← readData "CriticFlagEvent" entries none
  let claim ← readText "CriticFlagEvent" data "claim"
  let confidence ← readField "CriticFlagEvent" "data." data "confidence" (Json.asFloat? rt) none
  let reason ← readText "CriticFlagEvent" data "reason"
  return .criticFlag ⟨claim, confidence, reason⟩

def readDone (rt : Runtime) (entries : List (String × Json)) : Except PyError InvestigationEvent := do
  let data ← readData "DoneEvent" entries none
  let investigationId ←
    readField "DoneEvent" "data." data "investigation_id" (Json.asUuid? rt) none
  let status ← readField "DoneEvent" "data." data "status" Json.asStr? (some "complete")
  return .done ⟨investigationId, status⟩

/-- `parse_event`: the dispatch on the tag, which knows six of the seven models. -/
def parseEvent (rt : Runtime) (data : Json) : Except PyError InvestigationEvent :=
  match data with
  | .obj entries =>
      let eventType := (Json.field? entries "event").getD .null
      match eventType with
      | .str "planning" => readPlanning entries
      | .str "agent_started" => readAgentStarted entries
      | .str "agent_completed" => readAgentCompleted rt entries
      | .str "synthesizing" => readSynthesizing entries
      | .str "critic_flag" => readCriticFlag rt entries
      | .str "done" => readDone rt entries
      | _ => .error (.valueError ("Unknown event type: " ++ rt.strOf eventType))
  | _ => .error (.attributeError "get")

/-! ### Publishing and subscribing -/

/-- An entry of the broker's log. -/
structure Publication where
  channel : String
  data : Json

/-- `publish_event`. -/
def publishEvent (investigationId : Uuid) (event : InvestigationEvent) : Publication where
  channel := eventChannelKey investigationId.text
  data := event.modelDumpJson

/-- What `pubsub.listen()` yields. -/
structure Message where
  type : String
  data : Json

/-- The messages a subscriber of `channel` is handed. -/
def listen (channel : String) (log : List Publication) : List Message :=
  ⟨"subscribe", .int 1⟩ ::
    (log.filter (·.channel = channel)).map fun publication => ⟨"message", publication.data⟩

/-- The loop of `subscribe`: the events yielded, and the error that ended the generator. -/
def subscribeLoop (rt : Runtime) : List Message → List InvestigationEvent × Option PyError
  | [] => ([], none)
  | message :: rest =>
      if message.type = "message" then
        match parseEvent rt message.data with
        | .ok event =>
            let (events, err) := subscribeLoop rt rest
            (event :: events, err)
        | .error err => ([], some err)
      else subscribeLoop rt rest

/-- `subscribe`. -/
def subscribe (rt : Runtime) (investigationId : Uuid) (log : List Publication) :
    List InvestigationEvent × Option PyError :=
  subscribeLoop rt (listen (eventChannelKey investigationId.text) log)

end GaiaOS
