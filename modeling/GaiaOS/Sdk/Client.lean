/-
The calls of the client library, after `sdk/python/gaiaos_sdk/client.py`, its `exceptions.py` and
the functions of `_generated/api/v1/`.

A call reads the answer as what is documented for its status, raises for an error status, and
checks what was read against the class it returns, in this order.  The asynchronous client does the
same.
-/
import GaiaOS.Lib.JsonTree
import GaiaOS.Sdk.Models

namespace GaiaOS

namespace Sdk

open Codec

/-! ### Answers -/

/-- What the server answered; `json` is what `response.json()` returns, if it does not raise. -/
structure HttpResponse where
  statusCode : Nat
  json : Option Json
  retryAfter : Option String := none

/-- `HTTPStatus`. -/
def httpStatuses : List Nat :=
  [100, 101, 102, 103, 200, 201, 202, 203, 204, 205, 206, 207, 208, 226, 300, 301, 302, 303, 304,
    305, 307, 308, 400, 401, 402, 403, 404, 405, 406, 407, 408, 409, 410, 411, 412, 413, 414, 415,
    416, 417, 418, 421, 422, 423, 424, 425, 426, 428, 429, 431, 451, 500, 501, 502, 503, 504, 505,
    506, 507, 508, 510, 511]

/-- What the answer of a documented status is read as. -/
inductive Reading
  | model (m : Model)
  | listOf (m : Model)
  /-- `cast(Any, None)`. -/
  | nothing

/-- `Response.parsed`, with the name of the class of a model. -/
inductive Parsed
  | nothing
  | model (name : String) (value : Datum Scalar)
  | list (items : List (Datum Scalar))

section FromDict

variable (rt : Runtime) (iso : IsoFormat)

/-- `<Model>.from_dict`. -/
def fromDict (model : Model) (x : Json) : Except PyError (Datum Scalar) :=
  model.kind.read (scalars rt iso) x

/-- `response.json()`. -/
def HttpResponse.loads (response : HttpResponse) : Except PyError Json :=
  response.json.elim (.error (.valueError "Expecting value")) .ok

def Reading.read (reading : Reading) (response : HttpResponse) : Except PyError Parsed :=
  match reading with
  | .model m => do
      let x ← response.loads
      let value ← fromDict rt iso m x
      return .model m.name value
  | .listOf m => do
      let x ← response.loads
      let items ← x.iter
      let values ← items.mapM (fromDict rt iso m)
      return .list values
  | .nothing => .ok .nothing

/-- `_parse_response`. -/
def parseResponse (responses : List (Nat × Reading)) (response : HttpResponse) :
    Except PyError Parsed :=
  match responses.lookup response.statusCode with
  | some reading => reading.read rt iso response
  | none => .ok .nothing

end FromDict

/-! ### Exceptions -/

/-- The classes of `exceptions.py` for an HTTP status. -/
inductive ErrorClass
  | gaiaApi
  | authentication
  | permissionDenied
  | notFound
  | rateLimit
  | server
  deriving DecidableEq

structure ApiError where
  errorClass : ErrorClass
  statusCode : Nat
  message : String
  detail : Json := .null
  errorCode : Json := .null
  retryAfter : Option Nat := none

/-- The argument `response_json`, which need not have been parsed. -/
inductive Payload
  | content
  | json (x : Json)

/-- The class that is raised for an error status. -/
def errorClassOf (statusCode : Nat) : ErrorClass :=
  if statusCode = 401 then .authentication
  else if statusCode = 403 then .permissionDenied
  else if statusCode = 404 then .notFound
  else if statusCode = 429 then .rateLimit
  else if statusCode ≥ 500 then .server
  else .gaiaApi

/-- `float(retry_hdr) if retry_hdr and retry_hdr.isdigit() else None`. -/
def retryAfterOf (header : Option String) : Option Nat :=
  header.bind fun text =>
    if text.toList.all Char.isDigit then readDigits text.toList false 0 else none

/-- `f"Request failed with status code {status_code}"`. -/
def failedMessage (statusCode : Nat) : String :=
  "Request failed with status code " ++ toString statusCode

/-- `raise_for_status`. -/
def raiseForStatus (reprs : Json.Reprs) (statusCode : Nat) (responseJson : Payload)
    (retryAfter : Option String) : Except ApiError Unit :=
  if statusCode < 400 then .ok ()
  else
    let (detail, errorCode) : Json × Json :=
      match responseJson with
      | .json (.obj entries) =>
          ((Json.field? entries "detail").getD (.obj entries),
            (Json.field? entries "error_code").getD .null)
      | _ => (.null, .null)
    let message :=
      match detail with
      | .str s => s
      | .obj entries =>
          match Json.field? entries "message" with
          | some m => Json.pyStr reprs m
          | none => failedMessage statusCode
      | _ => failedMessage statusCode
    .error
      { errorClass := errorClassOf statusCode, statusCode, message, detail, errorCode
        retryAfter := if statusCode = 429 then retryAfterOf retryAfter else none }

/-- What a call raises. -/
inductive SdkError
  | api (error : ApiError)
  | python (error : PyError)

/-! ### Calls -/

/-- What is documented of an operation, and what its method makes of what was read; `none` is
raised as an unexpected payload. -/
structure Operation where
  responses : List (Nat × Reading)
  answer : Parsed → Option Parsed

/-- `isinstance(resp.parsed, <Model>)`. -/
def asModel (model : Model) : Parsed → Option Parsed
  | .model name value => if name = model.name then some (.model name value) else none
  | _ => none

/-- A call with its answer. -/
def call (rt : Runtime) (iso : IsoFormat) (reprs : Json.Reprs) (operation : Operation)
    (response : HttpResponse) : Except SdkError Parsed :=
  if response.statusCode ∉ httpStatuses then
    .error (.python (.valueError (toString response.statusCode ++ " is not a valid HTTPStatus")))
  else
    match parseResponse rt iso operation.responses response with
    | .error e => .error (.python e)
    | .ok parsed =>
        -- the content goes in as it came, not as JSON
        match raiseForStatus reprs response.statusCode .content response.retryAfter with
        | .error e => .error (.api e)
        | .ok () =>
            match operation.answer parsed with
            | some result => .ok result
            | none =>
                .error (.api
                  { errorClass := .gaiaApi, statusCode := response.statusCode
                    message := "Unexpected response payload type" })

/-! ### Operations -/

/-- `investigations.get`. -/
def getInvestigation : Operation where
  responses := [(200, .model investigationStatusResponse), (403, .model errorResponse),
    (404, .model errorResponse), (422, .model httpValidationError)]
  answer := asModel investigationStatusResponse

/-- `investigations.get_trace`. -/
def getTrace : Operation where
  responses := [(200, .model investigationTraceResponse), (403, .model errorResponse),
    (404, .model errorResponse), (422, .model httpValidationError)]
  answer := asModel investigationTraceResponse

/-- `auth.login`. -/
def login : Operation where
  responses := [(200, .model tokenResponse), (401, .nothing), (422, .model httpValidationError)]
  answer := asModel tokenResponse

/-- `auth.register`. -/
def register : Operation where
  responses := [(201, .model userResponse), (409, .nothing), (422, .nothing)]
  answer := asModel userResponse

/-- `auth.create_api_key`. -/
def createApiKey : Operation where
  responses := [(201, .model apiKeyCreatedResponse), (422, .model httpValidationError)]
  answer := asModel apiKeyCreatedResponse

/-- `auth.revoke_api_key`, which returns nothing. -/
def revokeApiKey : Operation where
  responses := [(200, .model apiKeyRevokedResponse), (422, .model httpValidationError)]
  answer _ := some .nothing

end Sdk

end GaiaOS
