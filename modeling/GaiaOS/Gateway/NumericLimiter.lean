/-
The token bucket rate limiter on the numbers it computes with, after
`gateway/rate_limiter_redis.py`.

What `Gateway.RateLimiter` takes for exact is here what it is: Lua's numbers and Python's floats
have 64 bits, a division by zero is infinite, and each side reads what the other writes in its own
way.  The text a float is passed as reads back as that float, a whole number too large for one as
infinite.  `EXPIRE` wants a number without fraction, and a time that fits in 64 bits; the hash is
written before it says so.  Python wants the same of the seconds to wait, which Lua writes with
fourteen digits and an exponent from there on.

All callers have one clock, `time.time_ns()`, and Redis has the same.
-/
import GaiaOS.Gateway.RateLimiter
import GaiaOS.Lib.Double

namespace GaiaOS

namespace NumericLimiter

open RateLimiter (RateLimitSettings Redis Call isExcluded extractIdentityAndRole resolveScope
  getQuotaForRole rateLimitKey tooManyRequests)

/-! ### Time -/

/-- A time in nanoseconds, a signed number of 64 bits that is not negative. -/
abbrev Instant := Fin (2 ^ 63)

/-- `time.time()`. -/
def Instant.now (instant : Instant) : ℚ :=
  if instant.val % 10 ^ 9 = 0 then double (instant.val / 10 ^ 9 : Nat)
  else double (double instant.val / 10 ^ 9)

/-- Redis' time, in milliseconds. -/
def Instant.clock (instant : Instant) : Int := instant.val / 10 ^ 6

/-! ### The script -/

/-- The two fields of the hash. -/
structure Bucket where
  tokens : PyFloat
  lastUpdated : PyFloat
  deriving DecidableEq

/-- A key of Redis, and when it is gone by Redis' clock. -/
structure Key where
  bucket : Bucket
  expireAt : Option Int
  deriving DecidableEq

/-- What the script returns, its numbers as they are before they are written out. -/
structure Reply where
  allowed : Bool
  tokens : PyFloat
  retryAfter : PyFloat
  deriving DecidableEq

/-- Whether the key is still there. -/
def Key.live (clock : Int) (key : Key) : Bool :=
  match key.expireAt with
  | none => true
  | some gone => clock ≤ gone

/-- The key as a command finds it. -/
def find (clock : Int) (stored : Option Key) : Option Key := stored.filter (Key.live clock)

def longLongMax : Int := 2 ^ 63 - 1

/-- The time `EXPIRE` works out.  A number without fraction is passed as an integer up to 2^62. -/
def expireTime (clock : Int) (ttl : PyFloat) : Except PyError Int :=
  match ttl.asInteger (2 ^ 62) with
  | none => .error (.exception "value is not an integer or out of range")
  | some seconds =>
      if longLongMax / 1000 < seconds ∨ seconds < -(longLongMax / 1000) ∨
          longLongMax - clock < seconds * 1000 then
        .error (.exception "invalid expire time in 'expire' command")
      else .ok (clock + seconds * 1000)

/-- A time that has come deletes the key. -/
def Key.expire (clock gone : Int) (key : Key) : Option Key :=
  if gone ≤ clock then none else some { key with expireAt := some gone }

/-- The tokens there are, refilled since the last write. -/
def refill (maxCapacity refillRate now : PyFloat) : Option Bucket → PyFloat
  | none => maxCapacity
  | some bucket =>
      let delta := PyFloat.max (.finite 0) (now.sub bucket.lastUpdated)
      PyFloat.min maxCapacity (bucket.tokens.add (delta.mul refillRate))

/-- `TOKEN_BUCKET_LUA`. -/
def tokenBucketLua (maxCapacity refillRate : PyFloat) (clock : Int) (now cost : PyFloat)
    (stored : Option Key) : Option Key × Except PyError Reply :=
  let found := find clock stored
  let tokens := refill maxCapacity refillRate now (found.map (·.bucket))
  if cost.le tokens then
    -- HMSET leaves the time to live of a key that is there
    let written : Key := ⟨⟨tokens.sub cost, now⟩, found.bind (·.expireAt)⟩
    match expireTime clock (maxCapacity.div refillRate).ceil with
    | .error e => (some written, .error e)
    | .ok gone => (written.expire clock gone, .ok ⟨true, tokens.sub cost, .finite 0⟩)
  else (stored, .ok ⟨false, tokens, ((cost.sub tokens).div refillRate).ceil⟩)

/-! ### `check` -/

/-- `float(n)`. -/
def pyFloat (n : Int) : Except PyError ℚ :=
  if |double n| < 2 ^ 1024 then .ok (double n)
  else .error (.exception "int too large to convert to float")

/-- The digits Python reads or writes of one integer. -/
def intMaxStrDigits : Nat := 4300

/-- `int(text)`, with `none` for a `ValueError`. -/
def readInt (text : String) : Option Int :=
  if intMaxStrDigits < (text.toList.filter Char.isDigit).length then none else pyInt text

/-- The requests per minute of `research_api_rate_limit`. -/
def researchRpm (settings : RateLimitSettings) : Int :=
  (readInt (pyHead '/' settings.researchApiRateLimit)).getD 60

/-- The capacity of a scope. -/
def capacityOf (settings : RateLimitSettings) (scope : String) (quota : Int × Int) : Int :=
  if scope = "password_reset" then max 1 settings.passwordResetRateLimitRequests
  else if scope = "research_api" then max 1 (researchRpm settings)
  else max 1 quota.2

/-- `requests / float(seconds)`; the seconds are at least one, so that it stays in range. -/
def perSecond (requests seconds : Int) : Except PyError ℚ := do
  let seconds ← pyFloat seconds
  let requests ← pyFloat requests
  .ok (double (requests / seconds))

/-- The refill rate of a scope. -/
def refillRateOf (settings : RateLimitSettings) (scope : String) (quota : Int × Int) :
    Except PyError ℚ :=
  if scope = "password_reset" then
    perSecond settings.passwordResetRateLimitRequests
      (max 1 settings.passwordResetRateLimitWindowSeconds)
  else if scope = "research_api" then perSecond (researchRpm settings) 60
  else perSecond quota.1 60

/-- What a key is allowed. -/
structure Limit where
  capacity : Int
  refillRate : ℚ
  deriving DecidableEq

def limitOf (settings : RateLimitSettings) (scope : String) (quota : Int × Int) :
    Except PyError Limit := do
  let refillRate ← refillRateOf settings scope quota
  .ok ⟨capacityOf settings scope quota, refillRate⟩

/-- What becomes of a request: it is not limited, or lets the limiter say, or passes because the
limiter failed, or ends in an error nobody expects. -/
inductive Decision
  | skipped
  | allowed
  | denied (e : HttpException)
  | failOpen (e : PyError)
  | raised (e : PyError)
  deriving DecidableEq

/-- The request is let through. -/
def Decision.passes : Decision → Bool
  | .skipped | .allowed | .failOpen _ => true
  | .denied _ | .raised _ => false

/-- What `check` makes of the script's reply: `int` reads a number Lua writes without exponent. -/
def verdict : Except PyError Reply → Decision
  | .error e => .failOpen e
  | .ok reply =>
      match reply.retryAfter.asInteger (10 ^ 14 - 1) with
      | none => .failOpen (.valueError "invalid literal for int() with base 10")
      | some retryAfter =>
          if reply.allowed then .allowed else .denied (tooManyRequests retryAfter)

/-- One call to Redis, on what the script makes of the key. -/
def runCall (call : Call) (script : Option Key → Option Key × Except PyError Reply)
    (stored : Option Key) : Option Key × Except PyError Reply :=
  match call with
  | .answered => script stored
  | .lost e => (stored, .error e)
  | .late e => ((script stored).1, .error e)

/-- `evalsha`, and `eval` if that raised. -/
def execute (redis : Redis) (script : Option Key → Option Key × Except PyError Reply)
    (stored : Option Key) : Option Key × Except PyError Reply :=
  match runCall redis.evalsha script stored with
  | (stored, .ok reply) => (stored, .ok reply)
  | (stored, .error _) => runCall redis.eval script stored

/-- What `check` does to a key, with the limit known. -/
def enforce (redis : Redis) (limit : Limit) (instant : Instant) (stored : Option Key) :
    Option Key × Decision :=
  match redis.connect with
  | some e => (stored, .failOpen e)
  | none =>
      if 10 ^ intMaxStrDigits ≤ limit.capacity then
        -- `str(capacity)`, before either call
        (stored, .failOpen (.valueError "Exceeds the limit for integer string conversion"))
      else
        let script := tokenBucketLua (.ofRat limit.capacity) (.finite limit.refillRate)
          instant.clock (.finite instant.now) (.finite 1)
        let (stored, reply) := execute redis script stored
        (stored, verdict reply)

/-- `RedisRateLimiter.check`, on the keys Redis holds. -/
def check (rt : Runtime) (settings : RateLimitSettings) (redis : Redis) (instant : Instant)
    (request : Request) (state : RequestState) (store : String → Option Key) :
    (String → Option Key) × Decision :=
  if isExcluded request.path ∨ settings.enableRateLimiting = false then (store, .skipped)
  else
    let (identifier, role) := extractIdentityAndRole request state
    let scope := resolveScope request state
    match limitOf settings scope (getQuotaForRole rt settings role) with
    | .error e => (store, .raised e)
    | .ok limit =>
        let key := rateLimitKey identifier scope
        let (stored, decision) := enforce redis limit instant (store key)
        (Function.update store key stored, decision)

/-! ### A run -/

/-- A request that comes to the gateway. -/
structure Arrival where
  instant : Instant
  request : Request
  state : RequestState

namespace Arrival

/-- Who sent it. -/
def principal (arrival : Arrival) : String :=
  (extractIdentityAndRole arrival.request arrival.state).1

def role (arrival : Arrival) : String := (extractIdentityAndRole arrival.request arrival.state).2

/-- What it is limited as; a path that is excluded is in no scope. -/
def scope (arrival : Arrival) : Option String :=
  if isExcluded arrival.request.path then none
  else some (resolveScope arrival.request arrival.state)

/-- The same principal in the same scope. -/
def alike (arrival other : Arrival) : Prop :=
  arrival.principal = other.principal ∧ arrival.scope = other.scope

instance (arrival other : Arrival) : Decidable (arrival.alike other) :=
  inferInstanceAs (Decidable (_ ∧ _))

/-- The key it counts against. -/
def key (arrival : Arrival) : String :=
  rateLimitKey arrival.principal (resolveScope arrival.request arrival.state)

/-- The capacity it counts against. -/
def capacity (rt : Runtime) (settings : RateLimitSettings) (arrival : Arrival) : Int :=
  capacityOf settings (resolveScope arrival.request arrival.state)
    (getQuotaForRole rt settings arrival.role)

/-- Its limit, if that can be computed. -/
def limit (rt : Runtime) (settings : RateLimitSettings) (arrival : Arrival) :
    Except PyError Limit :=
  limitOf settings (resolveScope arrival.request arrival.state)
    (getQuotaForRole rt settings arrival.role)

end Arrival

/-- The keys, and what became of the requests so far. -/
structure Gateway where
  store : String → Option Key := fun _ => none
  log : List (Arrival × Decision) := []

/-- One request, with Redis up. -/
def Gateway.serve (rt : Runtime) (settings : RateLimitSettings) (gateway : Gateway)
    (arrival : Arrival) : Gateway :=
  let (store, decision) :=
    check rt settings {} arrival.instant arrival.request arrival.state gateway.store
  { store, log := gateway.log ++ [(arrival, decision)] }

/-- The requests one after another, from an empty Redis. -/
def serveAll (rt : Runtime) (settings : RateLimitSettings) (arrivals : List Arrival) : Gateway :=
  arrivals.foldl (Gateway.serve rt settings) {}

/-- A request like another, at one instant, that was let through. -/
def letThrough (sample : Arrival) (instant : Instant) (entry : Arrival × Decision) : Bool :=
  decide (entry.1.alike sample ∧ entry.1.instant = instant) && entry.2.passes

/-- The requests like one that were let through at one instant. -/
def Gateway.burst (gateway : Gateway) (sample : Arrival) (instant : Instant) : Nat :=
  gateway.log.countP (letThrough sample instant)

end NumericLimiter

end GaiaOS
