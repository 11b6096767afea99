/-
`resilient_call`, after `resilience/degraded_mode.py` with the policy of
`resilience/retry_policy.py`.

Any number of calls on one source run at once.  A call is taken apart where it awaits: the
read and the write of each breaker operation, each attempt at the source, the write of the
cache and the read of it.  Between two such steps its `Phase` says where it stands, and an
`Event` is one step of one call, so that a run is a list of events in the order in which
they happened, whatever that order is.

The circuit is the shared cell of the breaker.  The cached responses lie under other keys
of the same Redis and are a dict of their own here.  Times are microseconds.
-/
import Mathlib.Logic.Function.Basic
import GaiaOS.Lib.Dict
import GaiaOS.Resilience.CircuitBreaker

namespace GaiaOS

/-- The settings the resilience layer reads. -/
structure ResilienceSettings extends CircuitSettings where
  resilienceBypass : Bool := false

inductive SourceStatus
  | live
  | cached
  | unavailable
  deriving DecidableEq, Repr

/-- `ResilientResult`. -/
structure ResilientResult (T : Type) where
  value : Option T
  degraded : Bool
  sourceStatus : SourceStatus
  deriving DecidableEq, Repr

/-- `json.dumps` and `json.loads` on the values of a source, `none` where they raise. -/
structure JsonCodec (T : Type) where
  dumps : T → Option String
  loads : String → Option T

namespace DegradedMode

/-! ### Retries -/

/-- `MAX_ATTEMPTS`. -/
def maxAttempts : Nat := 3

/-- What an attempt at the source comes to. -/
inductive Attempt (T : Type)
  | value (value : T)
  /-- `httpx.HTTPError`, the only one the policy retries and the call catches. -/
  | httpError
  | otherError

/-! ### The cache -/

/-- `TTL_BY_SOURCE`, in seconds. -/
def ttlBySource : List (String × Int) :=
  [("usgs", 600), ("noaa", 900), ("open_meteo", 300), ("firms", 300), ("openaq", 600),
    ("geocoding", 86400), ("copernicus", 1800), ("era5", 3600), ("gdelt", 900),
    ("osm", 1209600), ("arxiv", 86400)]

/-- `_DEFAULT_TTL`. -/
def defaultTtl : Int := 600

/-- `ttl if ttl is not None else TTL_BY_SOURCE.get(source, _DEFAULT_TTL)`. -/
def effectiveTtl (source : String) (ttl : Option Int) : Int :=
  ttl.getD ((ttlBySource.lookup source).getD defaultTtl)

/-- `RedisKeyBuilder.source_cache_key`. -/
def sourceCacheKey (source key : String) : String := "gaiaos:cache:" ++ source ++ ":" ++ key

structure CacheEntry where
  text : String
  expiresAt : Int
  deriving DecidableEq, Repr

section Cache

variable {T : Type} (codec : JsonCodec T) (now : Int) (redisCacheKey : String)

/-- `_cache_result`; a value that cannot be written and an expiry Redis refuses are passed over. -/
def cacheResult (value : T) (ttl : Int) (cache : Dict String CacheEntry) : Dict String CacheEntry :=
  match codec.dumps value with
  | none => cache
  | some text =>
      if 0 < ttl then cache.set redisCacheKey ⟨text, now + ttl * 1000000⟩ else cache

/-- `_serve_from_cache`. -/
def serveFromCache (cache : Dict String CacheEntry) : ResilientResult T :=
  match (cache.get? redisCacheKey).filter (now < ·.expiresAt) with
  | none => ⟨none, true, .unavailable⟩
  | some entry =>
      match codec.loads entry.text with
      | none => ⟨none, true, .unavailable⟩
      | some cachedValue => ⟨some cachedValue, true, .cached⟩

end Cache

/-! ### The steps of a call -/

/-- Where a call stands. -/
inductive Phase (T : Type)
  | waiting
  /-- Past the bypass, at the source without retries. -/
  | bare
  /-- `is_open` has answered no and owes its half-open write. -/
  | halfOpening
  /-- At the source, after so many failed attempts. -/
  | live (failed : Nat)
  | succeeded (value : T)
  | stored (value : T)
  /-- `record_success` owes its write. -/
  | closing (value : T)
  | exhausted
  /-- `record_failure` owes its write. -/
  | opening
  | fallback
  | returned (result : ResilientResult T)
  | raised

/-- A call on its way to the cache. -/
def Phase.isFallback {T : Type} : Phase T → Bool
  | .fallback => true
  | _ => false

/-- The arguments of a call on the source. -/
structure CallArgs where
  cacheKey : String
  ttl : Option Int := none

/-- A check of the circuit: what it read, and whether the call goes on to the source. -/
structure Check where
  call : Nat
  now : Int
  read : CircuitState
  admitted : Bool
  deriving DecidableEq, Repr

structure State (T : Type) where
  breaker : CircuitBreaker.BreakerState
  cache : Dict String CacheEntry
  phase : Nat → Phase T
  /-- The checks made so far, which no call can see. -/
  checks : List Check

/-- One step of one call. -/
inductive Event (T : Type)
  /-- The call begins and reads the circuit. -/
  | check (call : Nat) (now : Int)
  | attempt (call : Nat) (outcome : Attempt T)
  | cache (call : Nat) (now : Int)
  /-- The read of `record_success` or `record_failure`. -/
  | record (call : Nat) (now : Int)
  /-- The write a breaker operation owes. -/
  | write (call : Nat)
  | serve (call : Nat) (now : Int)

def liveResult {T : Type} (value : T) : ResilientResult T := ⟨some value, false, .live⟩

/-- An attempt: the bypass passes on what comes, the policy retries up to its limit. -/
def afterAttempt {T : Type} : Phase T → Attempt T → Option (Phase T)
  | .bare, .value value => some (.returned (liveResult value))
  | .bare, _ => some .raised
  | .live _, .value value => some (.succeeded value)
  | .live failed, .httpError =>
      if failed + 1 < maxAttempts then some (.live (failed + 1)) else some .exhausted
  | .live _, .otherError => some .raised
  | _, _ => none

/-- Where a call goes on after the write it owed. -/
def afterWrite {T : Type} : Phase T → Option (Phase T)
  | .halfOpening => some (.live 0)
  | .closing value => some (.returned (liveResult value))
  | .opening => some .fallback
  | _ => none

/-- Nobody has called yet. -/
def State.init {T : Type} (circuit : Option CircuitState) (cache : Dict String CacheEntry) :
    State T := ⟨SharedCell.State.init circuit, cache, fun _ => .waiting, []⟩

section Step

variable {T : Type} (settings : ResilienceSettings) (codec : JsonCodec T) (source : String)
  (args : Nat → CallArgs)

/-- Where a call goes on after `is_open` has read the circuit. -/
def afterCheck (now : Int) (read : CircuitState) : Phase T :=
  match CircuitBreaker.isOpen settings.toCircuitSettings now read with
  | (some _, _) => .halfOpening
  | (none, true) => .fallback
  | (none, false) => .live 0

/-- Where a call begins. -/
def firstPhase (now : Int) (read : CircuitState) : Phase T :=
  if settings.resilienceBypass then .bare else afterCheck settings now read

/-- A step of the breaker on behalf of a call, which then goes on at `next`. -/
def State.onBreaker (s : State T) (e : SharedCell.Event CircuitBreaker.BreakerOp) (call : Nat)
    (next : Phase T) : Option (State T) :=
  (CircuitBreaker.step settings.toCircuitSettings s.breaker e).map fun breaker =>
    { s with breaker := breaker, phase := Function.update s.phase call next }

/-- The beginning of a call. -/
def State.check (s : State T) (call : Nat) (now : Int) : Option (State T) :=
  let read := CircuitBreaker.getState s.breaker.cell
  let next : Phase T := firstPhase settings now read
  let checks := s.checks ++ [⟨call, now, read, !next.isFallback⟩]
  if settings.resilienceBypass then
    some { s with phase := Function.update s.phase call next, checks := checks }
  else
    (s.onBreaker settings (.read call .isOpen now) call next).map ({ · with checks := checks })

/-- The read of the operation that records an outcome. -/
def State.record (s : State T) (call : Nat) (now : Int) : Option (State T) :=
  match s.phase call with
  | .stored value =>
      s.onBreaker settings (.read call .recordSuccess now) call
        (if (CircuitBreaker.recordSuccess (CircuitBreaker.getState s.breaker.cell)).isSome
          then .closing value else .returned (liveResult value))
  | .exhausted => s.onBreaker settings (.read call .recordFailure now) call .opening
  | _ => none

def step (s : State T) : Event T → Option (State T)
  | .check call now =>
      match s.phase call with
      | .waiting => s.check settings call now
      | _ => none
  | .attempt call outcome =>
      (afterAttempt (s.phase call) outcome).map fun next =>
        { s with phase := Function.update s.phase call next }
  | .cache call now =>
      match s.phase call with
      | .succeeded value =>
          some { s with
            cache := cacheResult codec now (sourceCacheKey source (args call).cacheKey) value
              (effectiveTtl source (args call).ttl) s.cache
            phase := Function.update s.phase call (.stored value) }
      | _ => none
  | .record call now => s.record settings call now
  | .write call =>
      (afterWrite (s.phase call)).bind fun next =>
        s.onBreaker settings (.write call) call next
  | .serve call now =>
      match s.phase call with
      | .fallback =>
          some { s with
            phase := Function.update s.phase call (.returned
              (serveFromCache codec now (sourceCacheKey source (args call).cacheKey) s.cache)) }
      | _ => none

end Step

end DegradedMode

end GaiaOS
