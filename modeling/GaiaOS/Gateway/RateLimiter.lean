/-
The token bucket rate limiter, after `gateway/rate_limiter_redis.py`.

`TOKEN_BUCKET_LUA` runs inside Redis, one execution at a time, on one key: a hash of two
numbers with a time to live.  The time to live runs on Redis' own clock, the time in the
arguments is the caller's.  Numbers are exact, and the text a number is passed as reads
back as that number; what is not exact, a division by a refill rate of zero, is `none`,
and `EXPIRE` and `int` refuse it.

`check` is what the gateway calls.  Whatever goes wrong with Redis lets the request
through, and a failed `evalsha` is followed by an `eval` whether or not the script ran.
-/
import GaiaOS.Gateway.Request
import Mathlib.Data.Rat.Floor
import Mathlib.Logic.Function.Basic

namespace GaiaOS

namespace RateLimiter

/-! ### The script -/

/-- What a key is allowed: the first two arguments of the script. -/
structure Limit where
  capacity : ℚ
  refillRate : ℚ
  deriving DecidableEq

/-- The two fields of the hash. -/
structure Bucket where
  tokens : ℚ
  lastUpdated : ℚ
  deriving DecidableEq

/-- A key of Redis, and when it is gone by Redis' clock. -/
structure Key where
  bucket : Bucket
  expireAt : Option ℚ
  deriving DecidableEq

/-- What the script returns; `retryAfter` is `none` when it is not a finite number. -/
structure Reply where
  allowed : Bool
  tokens : ℚ
  retryAfter : Option Int
  deriving DecidableEq

/-- Whether the key is still there. -/
def Key.live (clock : ℚ) (key : Key) : Bool :=
  match key.expireAt with
  | none => true
  | some gone => clock < gone

/-- The key as a command finds it. -/
def find (clock : ℚ) (stored : Option Key) : Option Key := stored.filter (Key.live clock)

/-- `math.ceil(x / y)`. -/
def ceilDiv (x y : ℚ) : Option Int := if y = 0 then none else some ⌈x / y⌉

/-- `EXPIRE`: a time to live that is not positive deletes the key. -/
def expire (clock : ℚ) (ttl : Int) (key : Key) : Option Key :=
  if ttl ≤ 0 then none else some { key with expireAt := some (clock + ttl) }

/-- The tokens there are, refilled since the last write. -/
def refill (limit : Limit) (now : ℚ) : Option Bucket → ℚ
  | none => limit.capacity
  | some bucket =>
      min limit.capacity (bucket.tokens + max 0 (now - bucket.lastUpdated) * limit.refillRate)

/-- `TOKEN_BUCKET_LUA`.  The hash is written, and its time to live set, only on admission. -/
def tokenBucketLua (limit : Limit) (clock now cost : ℚ) (stored : Option Key) :
    Option Key × Except PyError Reply :=
  let found := find clock stored
  let tokens := refill limit now (found.map (·.bucket))
  if cost ≤ tokens then
    -- HMSET leaves the time to live of a key that is there
    let written : Key := ⟨⟨tokens - cost, now⟩, found.bind (·.expireAt)⟩
    match ceilDiv limit.capacity limit.refillRate with
    | none => (some written, .error (.exception "value is not an integer or out of range"))
    | some ttl => (expire clock ttl written, .ok ⟨true, tokens - cost, some 0⟩)
  else (stored, .ok ⟨false, tokens, ceilDiv (cost - tokens) limit.refillRate⟩)

/-! ### `check` -/

/-- The settings the limiter reads. -/
structure RateLimitSettings where
  enableRateLimiting : Bool := false
  rateLimitRequestsPerMinute : Int := 60
  rateLimitBurst : Int := 15
  passwordResetRateLimitRequests : Int := 3
  passwordResetRateLimitWindowSeconds : Int := 900
  researchApiRateLimit : String := "60/minute"

def excludedPathPrefixes : List String :=
  ["/health", "/api/v1/health", "/docs", "/openapi.json", "/redoc"]

def isExcluded (path : String) : Bool :=
  path = "/" ||
    excludedPathPrefixes.any fun start => path = start || pyStartsWith path (start ++ "/")

/-- `_extract_identity_and_role`. -/
def extractIdentityAndRole (request : Request) (state : RequestState) : String × String :=
  match state.apiKeyId, state.user with
  | some keyId, some user => ("api_key:" ++ keyId, user.role)
  | some keyId, none => ("api_key:" ++ keyId, "authenticated")
  | none, some user => ("user:" ++ user.id.text, user.role)
  | none, none =>
      let ip := match presentHeader request.xForwardedFor, presentHeader request.clientHost with
        | some forwarded, _ => pyStrip (pyHead ',' forwarded)
        | none, some host => host
        | none, none => "unknown"
      ("ip:" ++ ip, "public")

/-- `_resolve_scope`. -/
def resolveScope (request : Request) (state : RequestState) : String :=
  if state.apiKeyId.isSome then "api_key"
  else if request.path = "/api/v1/auth/request-reset" then "password_reset"
  else if pyStartsWith request.path "/api/v1/research" then "research_api"
  else if pyStartsWith request.path "/api/v1/investigations" then
    if request.method = "POST" then "submit_investigation" else "investigations"
  else if pyStartsWith request.path "/api/v1/auth" then "auth"
  else "api"

/-- `_get_quota_for_role`: requests per minute, and burst. -/
def getQuotaForRole (rt : Runtime) (settings : RateLimitSettings) (role : String) : Int × Int :=
  let baseRpm := settings.rateLimitRequestsPerMinute
  let baseBurst := settings.rateLimitBurst
  if rt.lower role = "admin" then (baseRpm * 10, baseBurst * 5)
  else if rt.lower role = "researcher" then (baseRpm * 3, baseBurst * 2)
  else if rt.lower role = "user" ∨ rt.lower role = "authenticated" then (baseRpm, baseBurst)
  else (min baseRpm 10, min baseBurst 5)

/-- The limit of a scope. -/
def limitOf (settings : RateLimitSettings) (scope : String) (quota : Int × Int) : Limit :=
  if scope = "password_reset" then
    { capacity := (max 1 settings.passwordResetRateLimitRequests : Int)
      refillRate := settings.passwordResetRateLimitRequests /
        ((max 1 settings.passwordResetRateLimitWindowSeconds : Int) : ℚ) }
  else if scope = "research_api" then
    let rpm := (pyInt (pyHead '/' settings.researchApiRateLimit)).getD 60
    { capacity := (max 1 rpm : Int), refillRate := rpm / 60 }
  else { capacity := (max 1 quota.2 : Int), refillRate := quota.1 / 60 }

/-- `RedisKeyBuilder.rate_limit_key`. -/
def rateLimitKey (identifier action : String) : String :=
  "gaiaos:ratelimit:" ++ identifier ++ ":" ++ action

/-- The key a request counts against, and its limit. -/
def resolve (rt : Runtime) (settings : RateLimitSettings) (request : Request)
    (state : RequestState) : String × Limit :=
  let (identifier, role) := extractIdentityAndRole request state
  let scope := resolveScope request state
  (rateLimitKey identifier scope, limitOf settings scope (getQuotaForRole rt settings role))

/-- The 429 the limiter raises. -/
def tooManyRequests (retryAfter : Int) : HttpException where
  statusCode := 429
  detail := "Rate limit exceeded. Please try again later."
  retryAfter := some (max 1 retryAfter)

/-- What `check` makes of the script's reply: anything but a denial it can read passes. -/
def verdict : Except PyError Reply → Except HttpException Unit
  | .error _ => .ok ()
  | .ok reply =>
      match reply.retryAfter with
      | none => .ok ()
      | some retryAfter => if reply.allowed then .ok () else .error (tooManyRequests retryAfter)

/-- One call to Redis: it is answered, or raises before or after the script ran. -/
inductive Call
  | answered
  | lost (error : PyError)
  | late (error : PyError)

def Call.run (call : Call) (script : Option Key → Option Key × Except PyError Reply)
    (stored : Option Key) : Option Key × Except PyError Reply :=
  match call with
  | .answered => script stored
  | .lost e => (stored, .error e)
  | .late e => ((script stored).1, .error e)

/-- How Redis behaves during one `check`. -/
structure Redis where
  connect : Option PyError := none
  evalsha : Call := .answered
  eval : Call := .answered

/-- `evalsha`, and `eval` if that raised. -/
def Redis.execute (redis : Redis) (script : Option Key → Option Key × Except PyError Reply)
    (stored : Option Key) : Option Key × Except PyError Reply :=
  match redis.connect with
  | some e => (stored, .error e)
  | none =>
      match redis.evalsha.run script stored with
      | (stored, .ok reply) => (stored, .ok reply)
      | (stored, .error _) => redis.eval.run script stored

/-- `RedisRateLimiter.check`, on the keys Redis holds. -/
def check (rt : Runtime) (settings : RateLimitSettings) (redis : Redis) (clock now : ℚ)
    (request : Request) (state : RequestState) (store : String → Option Key) :
    (String → Option Key) × Except HttpException Unit :=
  if isExcluded request.path ∨ settings.enableRateLimiting = false then (store, .ok ())
  else
    let (key, limit) := resolve rt settings request state
    let (stored, reply) := redis.execute (tokenBucketLua limit clock now 1) (store key)
    (Function.update store key stored, verdict reply)

/-- What a limited request does to its own key. -/
def enforce (limit : Limit) (clock now : ℚ) (stored : Option Key) :
    Option Key × Except HttpException Unit :=
  let (stored, reply) := tokenBucketLua limit clock now 1 stored
  (stored, verdict reply)

end RateLimiter

end GaiaOS
