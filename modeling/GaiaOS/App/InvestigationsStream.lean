/-
The event stream of an investigation and the job that feeds it, after
`app/api/v1/investigations_stream.py`, `cache/client.py`, `finalize_node` of
`orchestrator/graph/builder.py` and `workers/jobs/investigation_job.py`, one step at a time.

The worker and the request share the row and the channel and nothing else.  The worker's steps
are those others can see: an update of the row that is committed, an event that is published, an
exit.  It can be interrupted between any two of them.  The request looks the investigation up,
asks Redis for a ping, is answered with a stream, and only then subscribes.  A publication is
handed to the stream if it is subscribed at that moment; `published` keeps what was published for
the statements, nothing reads it.

The identifiers of attempts, the metrics and the log are left out; `InvestigationJob` has them.
-/
import GaiaOS.App.Investigations
import GaiaOS.Workers.InvestigationJob

namespace GaiaOS

namespace InvestigationStream

open InvestigationsApi InvestigationJob

/-! ### The worker -/

/-- What a node does that others can see. -/
inductive Effect
  | store (fields : StatusFields)
  | publish (event : InvestigationEvent)

/-- The effects of a call, in order; the update of a call that raised was committed if `kept`. -/
def effectsOf (kept : Bool) (call : NodeCall) : List Effect :=
  let updates := match call.result with
    | .ok _ => call.statusUpdates
    | .error _ => if kept then call.statusUpdates else []
  updates.map (fun update => .store update.fields) ++ call.events.map .publish

/-- A job, with what each of its attempts calls out to. -/
structure Job where
  investigationId : Uuid
  maxRetries : Nat := 0
  services : Nat → Services

/-- Where an attempt is; `due` is what is left of the effects of the node that runs. -/
inductive Phase
  | preparing
  | working (run : GraphRun) (due : List Effect)
  | handling (exc : PyError)
  | finished

/-- The worker: how many attempts failed, the graph's thread as it was last saved, and where the
attempt is. -/
structure Worker where
  attempt : Nat := 0
  thread : Option TaskGraphState := none
  phase : Phase := .preparing

/-- An attempt that raised: RQ makes another one if there are retries left. -/
def Worker.fail (job : Job) (worker : Worker) : Worker :=
  if worker.attempt < job.maxRetries then
    { worker with attempt := worker.attempt + 1, phase := .preparing }
  else { worker with phase := .finished }

/-- What was raised inside the inner `try`. -/
def Worker.raise (job : Job) (exc : PyError) (worker : Worker) : Worker :=
  if exc.isException then { worker with phase := .handling exc } else worker.fail job

/-! ### The request -/

/-- Where a request for the stream is; a subscription is counted from what was published before. -/
inductive Stream
  | idle
  | looked
  | responded
  | subscribed (since : Nat) (pending : List Message) (yielded : List InvestigationEvent)
  | ended (since : Nat) (yielded : List InvestigationEvent) (exc : PyError)
  | answered (response : Response Unit)
  | gone

/-- A message for the subscribers there are. -/
def Stream.hand (message : Message) : Stream → Stream
  | .subscribed since pending yielded => .subscribed since (pending ++ [message]) yielded
  | stream => stream

/-- Since when a stream is subscribed. -/
def Stream.since : Stream → Option Nat
  | .subscribed since _ _ => some since
  | .ended since _ _ => some since
  | _ => none

/-- What was and, with nothing more published, will be sent to the client of a stream. -/
def Stream.heard (rt : Runtime) : Stream → List InvestigationEvent
  | .subscribed _ pending yielded => yielded ++ (subscribeLoop rt pending).1
  | .ended _ yielded _ => yielded
  | _ => []

/-! ### The two together -/

structure World where
  row : Option Investigation
  worker : Worker := {}
  published : List InvestigationEvent := []
  stream : Stream := .idle

/-- A step of the worker or of the request, with what it meets. -/
inductive Action
  /-- Everything before the inner `try`. -/
  | prepare (outcome : Except PyError String)
  /-- A node is called; a `finalize_node` whose update raises has stored it if `kept`. -/
  | node (kept : Bool)
  /-- The next effect of the node, at a time; a publication may fail, which is only logged. -/
  | effect (now : Int) (lost : Bool)
  /-- A fanned out agent announces itself. -/
  | agentStarted (data : AgentStartedData) (lost : Bool)
  | agentCompleted (data : AgentCompletedData) (lost : Bool)
  /-- An exception from outside, such as the job's timeout, after the node was saved or before. -/
  | interrupt (exc : PyError) (saved : Bool)
  /-- The graph is over; the metric of a completed job is persisted. -/
  | conclude (persist : WriteOutcome)
  /-- `except Exception as exc`. -/
  | handle (now : Int) (markFailed : WriteOutcome)
  /-- The request: lookup and owner, ping, the generator's subscription, its next message. -/
  | look (state : RequestState)
  | ping (up : Bool)
  | subscribe (error : Option PyError)
  | receive
  | disconnect

variable (rt : Runtime) (job : Job)

/-- `publish_event`, guarded. -/
def World.publish (event : InvestigationEvent) (lost : Bool) (w : World) : World :=
  if lost then w
  else
    { w with
      published := w.published ++ [event]
      stream := w.stream.hand ⟨"message", (publishEvent job.investigationId event).data⟩ }

/-- A committed update of the row. -/
def World.store (now : Int) (fields : StatusFields) (w : World) : World :=
  { w with row := w.row.map (updateInvestigationStatus now fields) }

def World.perform (now : Int) (lost : Bool) (w : World) : Effect → World
  | .store fields => w.store now fields
  | .publish event => w.publish job event lost

/-- What the current attempt calls out to. -/
def World.services (w : World) : Services := job.services w.worker.attempt

/-- `retries_left <= 0`, where attempt `i` has `max_retries - i` left. -/
def World.isTerminalFailure (w : World) : Bool := job.maxRetries ≤ w.worker.attempt

/-- The fields of a failed investigation. -/
def failedFields (w : World) (exc : PyError) : StatusFields where
  status := "failed"
  executionTrace := some (.error exc.str (some
    (if w.isTerminalFailure job then "job_retries_exhausted" else "job_attempt_failed")))

/-- Whether the handler of an attempt marks the investigation as failed. -/
def World.marksFailed (markFailed : WriteOutcome) (w : World) : Bool :=
  w.isTerminalFailure job && (w.services job).database.isSome && markFailed.stores

/-- A step of the worker inside an attempt. -/
def workerStep (w : World) : Action → Option World
  | .prepare outcome =>
      match w.worker.phase, outcome with
      | .preparing, .error _ => some { w with worker := w.worker.fail job }
      | .preparing, .ok query =>
          let input := Attempt.threadInput job.investigationId query w.worker.thread
          some { w with worker.phase := .working (.start input) [] }
      | _, _ => none
  | .node kept =>
      match w.worker.phase with
      | .working run [] =>
          match run.status with
          | .running node =>
              let sv := w.services job
              let due := effectsOf kept (callNode sv run.history.length run.state node)
              some { w with
                worker.thread := some run.state
                worker.phase := .working (run.step sv) due }
          | _ => none
      | _ => none
  | .effect now lost =>
      match w.worker.phase with
      | .working run (effect :: due) =>
          some ({ w with worker.phase := .working run due }.perform job now lost effect)
      | _ => none
  | .agentStarted data lost =>
      match w.worker.phase with
      | .working _ _ => some (w.publish job (.agentStarted data) lost)
      | _ => none
  | .agentCompleted data lost =>
      match w.worker.phase with
      | .working _ _ => some (w.publish job (.agentCompleted data) lost)
      | _ => none
  | .interrupt exc saved =>
      match w.worker.phase with
      | .working run due =>
          let thread := if saved && due.isEmpty then some run.state else w.worker.thread
          some { w with worker := { w.worker with thread }.raise job exc }
      | _ => none
  | .conclude persist =>
      match w.worker.phase with
      | .working run [] =>
          let worker := { w.worker with thread := some run.state }
          match run.status with
          | .running _ => none
          | .raised _ exc => some { w with worker := worker.raise job exc }
          | .finished =>
              match if (w.services job).database.isSome then persist.result else .ok () with
              | .ok () => some { w with worker := { worker with phase := .finished } }
              | .error exc => some { w with worker := worker.raise job exc }
      | _ => none
  | .handle now markFailed =>
      match w.worker.phase with
      | .handling exc =>
          -- whatever persisting the metric raises, the attempt raises too
          let w' := if w.marksFailed job markFailed then w.store now (failedFields job w exc) else w
          some { w' with worker := w.worker.fail job }
      | _ => none
  | _ => none

/-- `stream_investigation_events` up to its answer, then `sse_event_generator`. -/
def streamStep (w : World) : Action → Option World
  | .look state =>
      match w.stream with
      | .idle =>
          match w.row with
          | none => some { w with stream := .answered (.notFound job.investigationId) }
          | some investigation =>
              match state.user with
              | none => some { w with stream := .looked }
              | some user =>
                  match Auth.checkOwnerOrRole investigation.userId user [.admin] with
                  | .error e => some { w with stream := .answered (.refused e) }
                  | .ok () => some { w with stream := .looked }
      | _ => none
  | .ping up =>
      match w.stream with
      | .looked => some { w with stream := if up then .responded else .answered .unavailable }
      | _ => none
  | .subscribe error =>
      match w.stream, error with
      | .responded, none =>
          some { w with stream := .subscribed w.published.length [⟨"subscribe", .int 1⟩] [] }
      | .responded, some _ => some { w with stream := .gone }
      | _, _ => none
  | .receive =>
      match w.stream with
      | .subscribed since (message :: pending) yielded =>
          if message.type = "message" then
            match parseEvent rt message.data with
            | .ok event => some { w with stream := .subscribed since pending (yielded ++ [event]) }
            | .error exc => some { w with stream := .ended since yielded exc }
          else some { w with stream := .subscribed since pending yielded }
      | _ => none
  | .disconnect => some { w with stream := .gone }
  | _ => none

/-- One step of either. -/
def step (w : World) (action : Action) : Option World :=
  match workerStep job w action with
  | some w' => some w'
  | none => streamStep rt job w action

/-- Before the job is taken up and before the request. -/
def start (row : Option Investigation) : World := { row }

/-- The stored status is one that the investigation ends with. -/
def World.Terminal (w : World) : Prop :=
  ∃ row, w.row = some row ∧ (row.status = "complete" ∨ row.status = "failed")

end InvestigationStream

end GaiaOS
