/-
The text of an event stream, after `sse_event_generator` of `app/api/v1/investigations_stream.py`,
and its readers: `sdk/python/gaiaos_sdk/streaming.py` and the command line's `--stream` after
`cli/gaiaos_cli/commands/investigate.py` and `cli/gaiaos_cli/ui.py`.

The texts of JSON are parameters.  The client gets the characters of the stream as the response
is decoded, and reads them as an event stream; the response may break off anywhere.
-/
import GaiaOS.App.InvestigationsStream
import GaiaOS.Lib.EventStream

namespace GaiaOS

namespace InvestigationStream

open EventStream

/-! ### The server -/

/-- `event.event`. -/
def eventName : InvestigationEvent → String
  | .planning _ => "planning"
  | .agentStarted _ => "agent_started"
  | .agentCompleted _ => "agent_completed"
  | .synthesizing _ => "synthesizing"
  | .criticFlag _ => "critic_flag"
  | .replanning _ => "replanning"
  | .done _ => "done"

/-- `event.data`, as it is written. -/
def payload : InvestigationEvent → List (String × Json)
  | .planning d => [("status", .str d.status)]
  | .agentStarted d => [("agent", .str d.agent), ("at", .str d.at_)]
  | .agentCompleted d => [("agent", .str d.agent), ("evidence_count", .int d.evidenceCount)]
  | .synthesizing d => d.entries
  | .criticFlag d =>
      [("claim", .str d.claim), ("confidence", d.confidence.dump), ("reason", .str d.reason)]
  | .replanning d =>
      [("cycle_number", .int d.cycleNumber),
        ("targeted_domains", .arr (d.targetedDomains.map .str)),
        ("trigger_reason", .str d.triggerReason)]
  | .done d => [("investigation_id", .str d.investigationId.text), ("status", .str d.status)]

/-- Pydantic's text of a model, `json.dumps` of a dict and `json.loads` of a text. -/
structure JsonText where
  modelDumpJson : Json → String
  dumps : Json → String
  loads : String → Except PyError Json

variable (text : JsonText)

/-- `data_json`; a dict has no `model_dump_json`. -/
def dataJson (event : InvestigationEvent) : String :=
  match event with
  | .synthesizing _ => text.dumps (.obj (payload event))
  | _ => text.modelDumpJson (.obj (payload event))

/-- What the generator yields for an event. -/
def written (event : InvestigationEvent) : Written where
  event := eventName event
  data := dataJson text event

/-- The text of a stream: the events it yields, and nothing for the error that may end it. -/
def Stream.sent (rt : Runtime) (stream : Stream) : List Char :=
  (stream.heard rt).flatMap fun event => (written text event).text

/-! ### The client -/

/-- `StreamEvent`. -/
structure StreamEvent where
  eventType : String := "message"
  data : List (String × Json) := []
  id : Option String := none
  retry : Option Nat := none

/-- `_parse_sse_data`. -/
def parseSseData (rawData : String) : List (String × Json) :=
  if rawData = "" then []
  else
    match text.loads rawData with
    | .ok (.obj parsed) => parsed
    | .ok parsed => [("content", parsed)]
    | .error _ => [("raw", .str rawData)]

/-- `stream_investigation_events`, of what has been received. -/
def streamInvestigationEvents (received : List Char) : List StreamEvent :=
  (Reader.read {} received).2.map fun sse =>
    { eventType := if sse.event = "" then "message" else sse.event
      data := parseSseData text sse.data
      id := some sse.id
      retry := sse.retry }

/-- `getattr` on an event, which has the fields of its model. -/
def StreamEvent.getattr (event : StreamEvent) (name : String) : Except PyError Json :=
  if name = "event_type" then .ok (.str event.eventType)
  else if name = "data" then .ok (.obj event.data)
  else if name = "id" then .ok ((event.id.map .str).getD .null)
  else if name = "retry" then .ok ((event.retry.map fun n => .int n).getD .null)
  else .error (.attributeError name)

/-- `format_stream_event`; `str` is Python's. -/
def formatStreamEvent (str : Json → String) (event : StreamEvent) : Except PyError String := do
  let evtType := event.eventType
  let node := (← event.getattr "node").pyOr (.str "orchestrator")
  let message ← event.getattr "message"
  let msg ← if message.truthy then pure message
    else do
      let payload ← event.getattr "payload"
      pure (.str (str payload))
  let color :=
    if evtType = "job_started" then "bold cyan"
    else if evtType ∈ ["step_started", "agent_started"] then "cyan"
    else if evtType ∈ ["step_completed", "agent_completed"] then "green"
    else if evtType ∈ ["job_completed", "completed"] then "bold green"
    else if evtType ∈ ["error", "job_failed"] then "bold red"
    else "white"
  return "[" ++ color ++ "][" ++ evtType ++ "][/" ++ color ++ "] [dim]" ++ str node ++
    ":[/dim] " ++ str msg

/-- The loop of `gaiaos investigate --stream`: the lines it prints. -/
def printStream (str : Json → String) : List StreamEvent → List String
  | [] => []
  | event :: rest =>
      match formatStreamEvent str event with
      | .ok line => line :: printStream str rest
      | .error e => ["Streaming error: " ++ e.str]

end InvestigationStream

end GaiaOS
