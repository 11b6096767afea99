/-
The routes that read an investigation, after `app/api/v1/investigations.py` and
`app/api/v1/investigations_stream.py`, behind `GatewayMiddleware.dispatch`.

Each route looks the investigation up, checks the requester against its owner if there is a
requester to check, and answers.  What `transform_execution_trace` makes of a row is a
parameter; the stream is what a subscriber of the investigation's channel is handed.
-/
import GaiaOS.Auth.Providers
import GaiaOS.Db.Investigations
import GaiaOS.Cache.Client

namespace GaiaOS

namespace InvestigationsApi

open Auth

/-- What the routes read: the table, the events published, and whether Redis answers a ping. -/
structure World where
  investigations : Uuid → Option Investigation
  log : List Publication := []
  redisUp : Bool := true

/-- `InvestigationStatusResponse`. -/
structure InvestigationStatusResponse where
  investigationId : Uuid
  status : String
  complexityTier : Option String
  answer : Option String
  confidence : Option ℚ
  evidenceGaps : List String
  executionTrace : Option StoredTrace
  createdAt : Int
  completedAt : Option Int

/-- What a request is answered with. -/
inductive Response (Trace : Type)
  | notFound (investigationId : Uuid)
  | refused (error : HttpException)
  | failed (error : PyError)
  | unavailable
  | status (body : InvestigationStatusResponse)
  | trace (body : Trace)
  | stream (events : List InvestigationEvent)

/-- The routes with an investigation in their path. -/
inductive Endpoint
  | get
  | trace
  | stream
  deriving DecidableEq

section Routes

variable {Trace : Type} (rt : Runtime) (transformExecutionTrace : Investigation → Trace)
  (world : World) (investigationId : Uuid) (state : RequestState)

/-- The lookup and the check all three routes begin with. -/
def authorized (answer : Investigation → Response Trace) : Response Trace :=
  match world.investigations investigationId with
  | none => .notFound investigationId
  | some investigation =>
      match state.user with
      | none => answer investigation
      | some user =>
          match checkOwnerOrRole investigation.userId user [.admin] with
          | .error e => .refused e
          | .ok () => answer investigation

/-- `get_investigation`. -/
def getInvestigation : Response Trace :=
  authorized world investigationId state fun investigation => .status
    { investigationId := investigation.id
      status := investigation.status
      complexityTier := investigation.complexityTier
      answer := investigation.answer
      confidence := investigation.confidence
      evidenceGaps := []
      executionTrace := investigation.executionTrace
      createdAt := investigation.createdAt
      completedAt := investigation.completedAt }

/-- `get_investigation_trace`. -/
def getInvestigationTrace : Response Trace :=
  authorized world investigationId state fun investigation =>
    .trace (transformExecutionTrace investigation)

/-- `stream_investigation_events`, with the events its generator goes on to yield. -/
def streamInvestigationEvents : Response Trace :=
  authorized world investigationId state fun _ =>
    if world.redisUp then .stream (subscribe rt investigationId world.log).1 else .unavailable

def route (endpoint : Endpoint) : Response Trace :=
  match endpoint with
  | .get => getInvestigation world investigationId state
  | .trace => getInvestigationTrace transformExecutionTrace world investigationId state
  | .stream => streamInvestigationEvents rt world investigationId state

end Routes

/-- What `RedisRateLimiter.check` says of a request, as things stand. -/
abbrev Limiter := Request → RequestState → Except HttpException Unit

/-- `GatewayMiddleware.dispatch`: the chain, the limiter, the route. -/
def dispatch {Trace : Type} (env : AuthEnv) (limiter : Limiter) (request : Request)
    (handler : RequestState → Response Trace) : Response Trace :=
  match runChain env request authChain {} with
  | .error (.http e) => .refused e
  | .error (.crash e) => .failed e
  | .ok state =>
      match limiter request state with
      | .error e => .refused e
      | .ok () => handler state

/-- A request for an investigation, from the gateway to its answer. -/
def respond {Trace : Type} (env : AuthEnv) (limiter : Limiter)
    (transformExecutionTrace : Investigation → Trace) (world : World) (request : Request)
    (endpoint : Endpoint) (investigationId : Uuid) : Response Trace :=
  dispatch env limiter request fun state =>
    route env.rt transformExecutionTrace world investigationId state endpoint

end InvestigationsApi

end GaiaOS
