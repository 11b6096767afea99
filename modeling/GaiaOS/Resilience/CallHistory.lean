/-
`resilient_call` run to its end, one call after the other, after `resilience/degraded_mode.py`
and `resilience/retry_policy.py`.

`DegradedMode` takes a call apart where others can get in between.  Here calls do not overlap,
and there are any number of sources and keys: the world is the circuit of each source and the
cache, and a call maps it to the next.  What a caller cannot see but the contract speaks about
is reported beside the result: whether `is_open` said yes, how often the function was called,
and which outcomes were recorded.

A call reads the clock where it needs it; the readings are fields, in order.
-/
import GaiaOS.Resilience.DegradedMode

namespace GaiaOS

namespace DegradedMode

variable {T : Type}

/-- `with_retry`: what the attempts come to, and how many were made.  Only `httpx` errors are
tried again, and the last one is raised. -/
def withRetry (fn : Nat → Attempt T) : Nat → Nat → Attempt T × Nat
  | 0, made => (.httpError, made)
  | remaining + 1, made =>
      match fn made with
      | .value value => (.value value, made + 1)
      | .otherError => (.otherError, made + 1)
      | .httpError =>
          if remaining = 0 then (.httpError, made + 1) else withRetry fn remaining (made + 1)

/-- What the clock shows where a call may look at it. -/
structure Clock where
  checkedAt : Int
  cachedAt : Int
  recordedAt : Int
  servedAt : Int
  checked_le_cached : checkedAt ≤ cachedAt
  cached_le_recorded : cachedAt ≤ recordedAt
  recorded_le_served : recordedAt ≤ servedAt

/-- A clock that stands still. -/
def Clock.at (now : Int) : Clock :=
  ⟨now, now, now, now, Int.le_refl _, Int.le_refl _, Int.le_refl _⟩

/-- The arguments of a call, how its function behaves at each attempt, and the clock. -/
structure Call (T : Type) extends Clock where
  source : String
  cacheKey : String
  ttl : Option Int
  fn : Nat → Attempt T

/-- What comes of a call; the result is `none` if it raises. -/
structure Report (T : Type) where
  result : Option (ResilientResult T)
  /-- `is_open` said yes. -/
  skipped : Bool
  /-- How often the function was called. -/
  attempts : Nat
  /-- The outcomes recorded on the source. -/
  recorded : List CircuitBreaker.BreakerOp

structure World where
  circuits : String → Option CircuitState
  cache : Dict String CacheEntry

/-- The circuit of a source written, if there is something to write. -/
def World.write (world : World) (source : String) (written : Option CircuitState) : World :=
  match written with
  | none => world
  | some state => { world with circuits := Function.update world.circuits source (some state) }

/-- The state of a source's circuit. -/
def World.circuit (world : World) (source : String) : CircuitState :=
  CircuitBreaker.getState (world.circuits source)

section Call

variable (settings : ResilienceSettings) (codec : JsonCodec T)

/-- The call past `is_open`, at the live source. -/
def liveCall (call : Call T) (world : World) : Report T × World :=
  let redisCacheKey := sourceCacheKey call.source call.cacheKey
  match withRetry call.fn maxAttempts 0 with
  | (.value value, attempts) =>
      let cache := cacheResult codec call.cachedAt redisCacheKey value
        (effectiveTtl call.source call.ttl) world.cache
      let written := CircuitBreaker.recordSuccess (world.circuit call.source)
      (⟨some (liveResult value), false, attempts, [.recordSuccess]⟩,
        { world with cache }.write call.source written)
  | (.httpError, attempts) =>
      let written := CircuitBreaker.recordFailure settings.toCircuitSettings call.recordedAt
        (world.circuit call.source)
      (⟨some (serveFromCache codec call.servedAt redisCacheKey world.cache), false, attempts,
          [.recordFailure]⟩,
        world.write call.source (some written))
  -- neither the policy nor the call knows the exception
  | (.otherError, attempts) => (⟨none, false, attempts, []⟩, world)

/-- `resilient_call`. -/
def resilientCall (call : Call T) (world : World) : Report T × World :=
  if settings.resilienceBypass then
    match call.fn 0 with
    | .value value => (⟨some (liveResult value), false, 1, []⟩, world)
    | _ => (⟨none, false, 1, []⟩, world)
  else
    let redisCacheKey := sourceCacheKey call.source call.cacheKey
    let (written, isOpen) := CircuitBreaker.isOpen settings.toCircuitSettings call.checkedAt
      (world.circuit call.source)
    let world := world.write call.source written
    if isOpen then
      (⟨some (serveFromCache codec call.servedAt redisCacheKey world.cache), true, 0, []⟩, world)
    else liveCall settings codec call world

/-- The calls of a history with what came of them. -/
def history : World → List (Call T) → List (Call T × Report T)
  | _, [] => []
  | world, call :: calls =>
      (call, (resilientCall settings codec call world).1) ::
        history (resilientCall settings codec call world).2 calls

end Call

end DegradedMode

end GaiaOS
