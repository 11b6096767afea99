/-
Who a request comes from, after `auth/api_key_provider.py`, `auth/jwt_provider.py`,
`auth/dependencies.py` and the chain of `gateway/middleware.py`.

A provider attaches a user, raises, or attaches nothing and leaves the request to the next
one.  No provider refuses a request for carrying no credentials, and an API key that is
rejected is only noted; whether a user is required is left to the routes.  `app/main.py`
registers both providers whatever `enable_auth` says, and nothing in the gateway reads it.

The signature check of a token is `jwt.decode`, which is not part of this repository; it is
a parameter, as is the hash of an API key.
-/
import GaiaOS.Gateway.Request

namespace GaiaOS

namespace Auth

/-- How `decode_access_token` fails; anything but the first two is not caught. -/
inductive TokenError
  | expired
  | invalid
  | other (error : PyError)

/-- `ApiKey`, as far as a request is decided by it. -/
structure ApiKey where
  keyId : String
  keyHash : String
  isRevoked : Bool
  ownerId : Uuid

/-- What authentication looks at.  A decoded token is given by its `sub` claim. -/
structure AuthEnv where
  rt : Runtime
  prometheusMetricsToken : Option String := none
  decodeAccessToken : String → Except TokenError (Option String)
  hashApiKey : String → String
  sessionReady : Bool := true
  apiKeys : List ApiKey := []
  users : Uuid → Option User

/-- What is raised on the way: an `HTTPException`, or something nobody expects. -/
inductive Failure
  | http (error : HttpException)
  | crash (error : PyError)

/-- A 401 that asks for a bearer token. -/
def unauthorized (detail : String) : HttpException where
  statusCode := 401
  detail
  wwwAuthenticate := some "Bearer"

/-- `result.scalar_one_or_none()`. -/
def scalarOneOrNone {α : Type} : List α → Except PyError (Option α)
  | [] => .ok none
  | [row] => .ok (some row)
  | _ => .error (.exception "Multiple rows were found when one or none was required")

section Providers

variable (env : AuthEnv) (request : Request) (state : RequestState)

/-- A rejected API key. -/
def rejectKey (code message : String) : RequestState :=
  { state with apiKeyError := some (code, message), user := none }

/-- The owner of a key, if the key may be used. -/
def acceptKey (key : ApiKey) : RequestState :=
  if key.isRevoked then rejectKey state "api_key_revoked" "API key has been revoked."
  else
    match env.users key.ownerId with
    | none => rejectKey state "account_inactive" "User account is inactive or deleted."
    | some user =>
        if user.deletedAt.isSome || !user.isActive then
          rejectKey state "account_inactive" "User account is inactive or deleted."
        else { state with user := some user, apiKeyId := some key.keyId }

/-- `ApiKeyAuthProvider.authenticate`. -/
def apiKeyAuthenticate : Except Failure RequestState :=
  match presentHeader request.xApiKey with
  | none => .ok state
  | some rawKey =>
      if env.sessionReady then
        match scalarOneOrNone (env.apiKeys.filter fun key => key.keyHash = env.hashApiKey rawKey) with
        | .error e => .error (.crash e)
        | .ok none => .ok (rejectKey state "invalid_api_key" "Invalid API key.")
        | .ok (some key) => .ok (acceptKey env state key)
      else .ok state

/-- `UserRepository.get_user_by_id`. -/
def getUserById (userId : Uuid) : Option User :=
  (env.users userId).filter fun user => user.deletedAt.isNone

/-- The user of a decoded token. -/
def tokenUser (sub : Option String) : Except Failure User :=
  match sub.filter fun text => text ≠ "" with
  | none => .error (.http (unauthorized "Invalid token claims."))
  | some text =>
      match env.rt.uuidOf text with
      | none => .error (.http (unauthorized "Invalid user identity claim."))
      | some userId =>
          if env.sessionReady then
            match getUserById env userId with
            | none => .error (.http (unauthorized "User account not found."))
            | some user =>
                if !user.isActive then
                  .error (.http (unauthorized "User account is inactive."))
                else if !user.isVerified then
                  .error (.http (unauthorized "Email address is not verified."))
                else .ok user
          else .error (.crash (.exception "Database session factory is not initialised."))

/-- The user of a bearer token. -/
def bearerUser (token : String) : Except Failure User :=
  match env.decodeAccessToken token with
  | .error .expired => .error (.http (unauthorized "Access token has expired."))
  | .error .invalid => .error (.http (unauthorized "Invalid authorization token."))
  | .error (.other e) => .error (.crash e)
  | .ok sub => tokenUser env sub

/-- `JWTAuthProvider.authenticate`. -/
def jwtAuthenticate : Except Failure RequestState :=
  match presentHeader request.authorization with
  | none => .ok { state with user := none }
  | some header =>
      match pySplit header with
      | [scheme, token] =>
          if env.rt.lower scheme ≠ "bearer" then
            .error (.http (unauthorized
              "Invalid authorization header format. Expected 'Bearer <token>'."))
          else if presentHeader env.prometheusMetricsToken = some token then
            .ok { state with user := none }
          else
            match bearerUser env token with
            | .error e => .error e
            | .ok user => .ok { state with user := some user }
      | _ => .error (.http (unauthorized
          "Invalid authorization header format. Expected 'Bearer <token>'."))

end Providers

/-- An authentication provider. -/
abbrev Provider := AuthEnv → Request → RequestState → Except Failure RequestState

/-- The chain `app/main.py` registers. -/
def authChain : List Provider := [apiKeyAuthenticate, jwtAuthenticate]

/-- The loop over the chain in `GatewayMiddleware.dispatch`. -/
def runChain (env : AuthEnv) (request : Request) :
    List Provider → RequestState → Except Failure RequestState
  | [], state => .ok state
  | provider :: rest, state =>
      match provider env request state with
      | .error e => .error e
      | .ok state =>
          if state.user.isSome || state.apiKeyError.isSome then .ok state
          else runChain env request rest state

/-- `check_owner_or_role`. -/
def checkOwnerOrRole (resourceUserId : Option Uuid) (currentUser : User) (allowedRoles : List Role) :
    Except HttpException Unit :=
  if currentUser.role = Role.value .admin ∨ currentUser.role ∈ allowedRoles.map Role.value then
    .ok ()
  else if resourceUserId = some currentUser.id then .ok ()
  else .error ⟨403, "You do not have permission to access this resource.", none, none⟩

end Auth

end GaiaOS
