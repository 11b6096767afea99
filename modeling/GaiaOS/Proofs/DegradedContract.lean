/-
What a result of `resilient_call` says about where its value comes from.

Over a whole history on any sources and keys, the cache holds for each pair what the most
recent live result for it left there, until that expires: `Remembers` says so, and one call
keeps it.  A result is then read off the outcome of the attempts and this memory.

Two things make it go through.  The names of sources have no colon, so the keys of two pairs
differ.  And every expiry is positive, as it is in every call of the repository: Redis refuses
another, the write is passed over, and an older value would stay under the key.
-/
import GaiaOS.Lib.Text
import GaiaOS.Proofs.CallOutcome

namespace GaiaOS

namespace DegradedMode

variable {T : Type}

/-! ### The contract -/

/-- The function was called and returned this value. -/
def Returned (call : Call T) (report : Report T) (value : T) : Prop :=
  ∃ i < report.attempts, call.fn i = .value value

/-- The value of a live result. -/
def liveValue (report : Report T) : Option T :=
  match report.result with
  | some ⟨value, _, .live⟩ => value
  | _ => none

/-- The most recent live result for a source and a key, with the call that obtained it. -/
def lastLive (past : List (Call T × Report T)) (source cacheKey : String) :
    Option (Call T × T) :=
  past.reverse.findSome? fun entry =>
    if entry.1.source = source ∧ entry.1.cacheKey = cacheKey then
      (liveValue entry.2).map fun value => (entry.1, value)
    else none

/-- When a live result expires. -/
def expiresAt (call : Call T) : Int :=
  call.cachedAt + effectiveTtl call.source call.ttl * 1000000

/-- What the result of a call says, after the calls of the past. -/
structure Honours (past : List (Call T × Report T)) (call : Call T) (report : Report T)
    (result : ResilientResult T) : Prop where
  live_iff : result.sourceStatus = .live ↔ ∃ value, Returned call report value
  live : ∀ value, Returned call report value → result = ⟨some value, false, .live⟩
  cached : result.sourceStatus = .cached → result.degraded = true ∧
    ∃ last value, lastLive past call.source call.cacheKey = some (last, value) ∧
      result.value = some value ∧ call.servedAt ≤ expiresAt last
  unavailable : result.sourceStatus = .unavailable → result.value = none ∧
    result.degraded = true ∧
    ∀ last value, lastLive past call.source call.cacheKey = some (last, value) →
      ∀ entry ∈ past, entry.1.source = call.source → entry.1.cacheKey = call.cacheKey →
        (liveValue entry.2).isSome = true →
        entry.1.cachedAt + effectiveTtl last.source last.ttl * 1000000 ≤ call.servedAt
  skipped : report.skipped = true → report.attempts = 0

/-- A call as the repository makes them: the name of its source has no colon, its expiry is
positive, and its function only fails with `httpx` errors. -/
structure Plain (call : Call T) : Prop where
  noColon : ':' ∉ call.source.toList
  ttlPositive : 0 < effectiveTtl call.source call.ttl
  httpOnly : ∀ i, call.fn i ≠ .otherError

/-- One call ends before the next begins. -/
def NonOverlapping (calls : List (Call T)) : Prop :=
  calls.Pairwise fun call next => call.servedAt ≤ next.checkedAt

/-! ### Keys -/

/-- The keys of two pairs differ if the sources have no colon. -/
theorem sourceCacheKey_inj {source source' key key' : String} (hsource : ':' ∉ source.toList)
    (hsource' : ':' ∉ source'.toList) :
    sourceCacheKey source key = sourceCacheKey source' key' ↔ source = source' ∧ key = key' := by
  constructor
  · intro h
    unfold sourceCacheKey at h
    rw [String.append_assoc, String.append_assoc, String.append_assoc, String.append_assoc,
      String.append_right_inj] at h
    exact text_eq_of_append_separator (c := ':') hsource hsource' h
  · rintro ⟨rfl, rfl⟩
    rfl

/-! ### What the cache remembers -/

/-- The cache holds what the most recent live results left. -/
def Remembers (codec : JsonCodec T) (cache : Dict String CacheEntry)
    (past : List (Call T × Report T)) : Prop :=
  ∀ source cacheKey, ':' ∉ source.toList →
    cache.get? (sourceCacheKey source cacheKey) =
      (lastLive past source cacheKey).bind fun last =>
        (codec.dumps last.2).map fun text => ⟨text, expiresAt last.1⟩

section Memory

variable {settings : ResilienceSettings} {codec : JsonCodec T}
  {cache cache' : Dict String CacheEntry} {call : Call T} {report : Report T}
  {past : List (Call T × Report T)} {source cacheKey : String}

theorem lastLive_append :
    lastLive (past ++ [(call, report)]) source cacheKey =
      if call.source = source ∧ call.cacheKey = cacheKey ∧ (liveValue report).isSome = true then
        (liveValue report).map fun value => (call, value)
      else lastLive past source cacheKey := by
  unfold lastLive
  rw [List.reverse_append, List.reverse_singleton, List.singleton_append, List.findSome?_cons]
  by_cases hpair : call.source = source ∧ call.cacheKey = cacheKey
  · rw [if_pos hpair]
    cases hlive : liveValue report with
    | none => simp
    | some value => simp [hpair.1, hpair.2]
  · rw [if_neg hpair, if_neg fun h => hpair ⟨h.1, h.2.1⟩]

theorem liveValue_served (skipped : Bool) (attempts : Nat)
    (recorded : List CircuitBreaker.BreakerOp) :
    liveValue (⟨some (served codec call cache), skipped, attempts, recorded⟩ : Report T) =
      none := by
  unfold liveValue served serveFromCache
  cases (cache.get? _).filter (call.servedAt < ·.expiresAt) with
  | none => rfl
  | some entry =>
      cases hloads : codec.loads entry.text
      all_goals simp [hloads]

variable (hround : ∀ value, ∃ text, codec.dumps value = some text ∧
  codec.loads text = some value)

include hround

/-- A call keeps the cache in step with the past. -/
theorem Remembers.after_call (hplain : Plain call) (hbypass : settings.resilienceBypass = false)
    (hmemory : Remembers codec cache past) (h : Comes settings codec call cache report cache') :
    Remembers codec cache' (past ++ [(call, report)]) := by
  intro source cacheKey hcolon
  rw [lastLive_append]
  cases h with
  | bypassed hon => exact absurd hbypass (by simp [hon])
  | bypassRaised hon => exact absurd hbypass (by simp [hon])
  | raised _ attempts hlast => exact absurd hlast (hplain.httpOnly attempts)
  | skipped =>
      rw [liveValue_served, if_neg (by simp)]
      exact hmemory source cacheKey hcolon
  | exhausted =>
      rw [liveValue_served, if_neg (by simp)]
      exact hmemory source cacheKey hcolon
  | live _ value attempts hlast hbefore =>
      obtain ⟨text, htext, -⟩ := hround value
      have hvalue : liveValue
          (⟨some (liveResult value), false, attempts + 1, [.recordSuccess]⟩ : Report T) =
          some value := rfl
      unfold cacheResult
      rw [htext, hvalue]
      simp only [if_pos hplain.ttlPositive, Dict.get?_set,
        sourceCacheKey_inj hplain.noColon hcolon]
      by_cases hpair : call.source = source ∧ call.cacheKey = cacheKey
      · rw [if_pos hpair, if_pos ⟨hpair.1, hpair.2, rfl⟩]
        simp [htext, expiresAt]
      · rw [if_neg hpair, if_neg fun h => hpair ⟨h.1, h.2.1⟩]
        exact hmemory source cacheKey hcolon

/-- What is served is the most recent live value, until it expires. -/
theorem serveFromCache_eq (hsource : ':' ∉ source.toList) (hmemory : Remembers codec cache past)
    (now : Int) :
    serveFromCache codec now (sourceCacheKey source cacheKey) cache =
      match lastLive past source cacheKey with
      | none => ⟨none, true, .unavailable⟩
      | some last =>
          if now < expiresAt last.1 then ⟨some last.2, true, .cached⟩
          else ⟨none, true, .unavailable⟩ := by
  unfold serveFromCache
  rw [hmemory source cacheKey hsource]
  cases lastLive past source cacheKey with
  | none => rfl
  | some last =>
      obtain ⟨text, htext, hloads⟩ := hround last.2
      by_cases hfresh : now < expiresAt last.1
      · simp [htext, hloads, hfresh, Option.filter]
      · simp [htext, hfresh, Option.filter]

end Memory

/-! ### The contract over a history -/

section Contract

variable {settings : ResilienceSettings} {codec : JsonCodec T}
  {cache cache' : Dict String CacheEntry} {call : Call T} {report : Report T}
  {past : List (Call T × Report T)}

/-- No live result for the pair was obtained after the most recent one. -/
theorem lastLive_latest {source cacheKey : String} {last : Call T} {value : T}
    (htimes : NonOverlapping (past.map Prod.fst))
    (h : lastLive past source cacheKey = some (last, value)) :
    ∀ entry ∈ past, entry.1.source = source → entry.1.cacheKey = cacheKey →
      (liveValue entry.2).isSome = true → entry.1.cachedAt ≤ last.cachedAt := by
  obtain ⟨after, found, before, hsplit, hfound, hnone⟩ := List.findSome?_eq_some_iff.mp h
  have hpast : past = before.reverse ++ found :: after.reverse := by
    rw [← List.reverse_inj, hsplit]
    simp
  have hlast : found.1 = last := by
    split at hfound
    · obtain ⟨value', -, heq⟩ := Option.map_eq_some_iff.mp hfound
      exact (Prod.mk.inj heq).1
    · cases hfound
  intro entry hentry hsource hkey hlive
  rw [hpast, List.mem_append, List.mem_cons] at hentry
  rcases hentry with hbefore | rfl | hafter
  · unfold NonOverlapping at htimes
    rw [hpast, List.map_append, List.pairwise_append] at htimes
    have hle := htimes.2.2 entry.1 (List.mem_map_of_mem hbefore) last (by simp [hlast])
    have hchecked := last.checked_le_cached
    have hcached := entry.1.cached_le_recorded
    have hrecorded := entry.1.recorded_le_served
    omega
  · exact Int.le_of_eq (by rw [hlast])
  · have hskipped := hnone entry (List.mem_reverse.mp hafter)
    rw [if_pos ⟨hsource, hkey⟩, Option.map_eq_none_iff] at hskipped
    rw [hskipped] at hlive
    cases hlive

variable (hround : ∀ value, ∃ text, codec.dumps value = some text ∧
  codec.loads text = some value)

include hround

/-- A result from the cache honours the contract if the function returned nothing. -/
theorem served_honours (hsource : ':' ∉ call.source.toList)
    (htimes : NonOverlapping (past.map Prod.fst)) (hmemory : Remembers codec cache past)
    (hnone : ∀ value, ¬ Returned call report value)
    (hskipped : report.skipped = true → report.attempts = 0) :
    Honours past call report (served codec call cache) := by
  have hnotLive : ¬ ∃ value, Returned call report value := by
    rintro ⟨value, h⟩
    exact hnone value h
  have hlive : ∀ result : ResilientResult T, ∀ value, Returned call report value →
      result = ⟨some value, false, .live⟩ := fun _ value h => absurd h (hnone value)
  unfold served
  rw [serveFromCache_eq hround hsource hmemory]
  cases hlast : lastLive past call.source call.cacheKey with
  | none =>
      refine ⟨iff_of_false nofun hnotLive, hlive _, nofun, fun _ => ⟨rfl, rfl, ?_⟩, hskipped⟩
      intro last value h
      rw [hlast] at h
      cases h
  | some last =>
      dsimp only
      by_cases hfresh : call.servedAt < expiresAt last.1
      · rw [if_pos hfresh]
        exact ⟨iff_of_false nofun hnotLive, hlive _,
          fun _ => ⟨rfl, last.1, last.2, hlast, rfl, Int.le_of_lt hfresh⟩, nofun, hskipped⟩
      · rw [if_neg hfresh]
        refine ⟨iff_of_false nofun hnotLive, hlive _, nofun, fun _ => ⟨rfl, rfl, ?_⟩, hskipped⟩
        intro last' value hlast' entry hentry hentrySource hentryKey hentryLive
        rw [hlast, Option.some.injEq] at hlast'
        have hle := lastLive_latest htimes hlast entry hentry hentrySource hentryKey hentryLive
        rw [hlast'] at hle hfresh
        unfold expiresAt at hfresh
        dsimp only at hle hfresh
        omega

theorem Comes.honours (hplain : Plain call) (hbypass : settings.resilienceBypass = false)
    (htimes : NonOverlapping (past.map Prod.fst)) (hmemory : Remembers codec cache past)
    (h : Comes settings codec call cache report cache') :
    ∃ result, report.result = some result ∧ Honours past call report result := by
  cases h with
  | bypassed hon => exact absurd hbypass (by simp [hon])
  | bypassRaised hon => exact absurd hbypass (by simp [hon])
  | raised _ attempts hlast => exact absurd hlast (hplain.httpOnly attempts)
  | skipped =>
      refine ⟨_, rfl, served_honours hround hplain.noColon htimes hmemory ?_ fun _ => rfl⟩
      rintro value ⟨i, hi, -⟩
      exact absurd hi (Nat.not_lt_zero i)
  | exhausted _ hall =>
      refine ⟨_, rfl, served_honours hround hplain.noColon htimes hmemory ?_ nofun⟩
      rintro value ⟨i, hi, hvalue⟩
      rw [hall i hi] at hvalue
      cases hvalue
  | live _ value attempts hlast hbefore =>
      have hreturned : ∀ value', Returned call ⟨some (liveResult value), false, attempts + 1,
          [.recordSuccess]⟩ value' → value' = value := by
        rintro value' ⟨i, hi, hvalue⟩
        rcases Nat.lt_succ_iff_lt_or_eq.mp hi with hi | rfl
        · rw [hbefore i hi] at hvalue
          cases hvalue
        · rw [hlast] at hvalue
          cases hvalue
          rfl
      refine ⟨_, rfl, iff_of_true rfl ⟨value, attempts, Nat.lt_succ_self _, hlast⟩, ?_, nofun,
        nofun, nofun⟩
      intro value' h
      rw [hreturned value' h]
      rfl

theorem history_honours {settings : ResilienceSettings} {calls : List (Call T)} {world : World}
    (past : List (Call T × Report T)) (hbypass : settings.resilienceBypass = false)
    (hplain : ∀ call ∈ calls, Plain call)
    (htimes : NonOverlapping (past.map Prod.fst ++ calls))
    (hmemory : Remembers codec world.cache past) {before after : List (Call T × Report T)}
    (h : history settings codec world calls = before ++ (call, report) :: after) :
    ∃ result, report.result = some result ∧ Honours (past ++ before) call report result := by
  obtain ⟨hmem, found, hremembers, rfl⟩ := history_induction
    (fun past world => Remembers codec world.cache past)
    (fun past world next hnext hpast => hpast.after_call hround (hplain next hnext) hbypass
      (resilientCall_comes settings codec next world)) hmemory h
  -- the calls before this one are the first of the history
  have hcalls := history_calls settings codec world calls
  rw [h, List.map_append] at hcalls
  rw [← hcalls, ← List.append_assoc, ← List.map_append] at htimes
  exact (resilientCall_comes settings codec call found).honours hround (hplain call hmem) hbypass
    (List.pairwise_append.mp htimes).1 hremembers

end Contract

/-- **The degraded-mode contract.**  For every history of calls that do not overlap, on any
sources and keys, from an empty cache and any circuits: every call returns, its result is live
exactly if the function returned in that call and then carries its value, a cached result
carries the value of the most recent live result for the pair before that expired, an
unavailable one carries nothing and no live result for the pair is younger than the expiry, and
the function is not called while `is_open` says yes. -/
theorem degraded_mode_contract (settings : ResilienceSettings) (codec : JsonCodec T)
    (circuits : String → Option CircuitState) (calls : List (Call T))
    (hbypass : settings.resilienceBypass = false)
    (hround : ∀ value, ∃ text, codec.dumps value = some text ∧ codec.loads text = some value)
    (hplain : ∀ call ∈ calls, Plain call) (htimes : NonOverlapping calls)
    (before after : List (Call T × Report T)) (call : Call T) (report : Report T)
    (h : history settings codec ⟨circuits, .empty⟩ calls = before ++ (call, report) :: after) :
    ∃ result, report.result = some result ∧ Honours before call report result := by
  have hempty : Remembers codec Dict.empty ([] : List (Call T × Report T)) := fun _ _ _ => rfl
  have hhonours := history_honours hround [] hbypass hplain htimes hempty h
  rwa [List.nil_append] at hhonours

/-- Truth values as JSON. -/
def boolCodec : JsonCodec Bool where
  dumps value := some (if value then "true" else "false")
  loads text := if text = "true" then some true else if text = "false" then some false else none

/-- A call on `usgs` whose clock stands still. -/
def callAt (now : Int) (fn : Nat → Attempt Bool) : Call Bool :=
  { Clock.at now with source := "usgs", cacheKey := "earthquakes", ttl := some 600, fn }

/-- A live call, and two that fail: one while its value is fresh, one after it expired. -/
def threeCalls : List (Call Bool) :=
  [callAt 0 fun _ => .value true, callAt 60000000 fun _ => .httpError,
    callAt 900000000 fun _ => .httpError]

/-- The three are live, cached and unavailable. -/
theorem contract_of_three_calls :
    (history {} boolCodec ⟨fun _ => none, .empty⟩ threeCalls).map
        (fun entry => entry.2.result.map (·.sourceStatus)) =
      [some .live, some .cached, some .unavailable] ∧
    ∀ before after call report,
      history {} boolCodec ⟨fun _ => none, .empty⟩ threeCalls = before ++ (call, report) :: after →
      ∃ result, report.result = some result ∧ Honours before call report result := by
  refine ⟨by decide +kernel, ?_⟩
  have hround : ∀ value, ∃ text, boolCodec.dumps value = some text ∧
      boolCodec.loads text = some value := by
    intro value
    cases value
    · exact ⟨"false", rfl, by decide +kernel⟩
    · exact ⟨"true", rfl, rfl⟩
  have hplain : ∀ call ∈ threeCalls, Plain call := by
    intro call hcall
    simp only [threeCalls, List.mem_cons, List.not_mem_nil, or_false] at hcall
    rcases hcall with rfl | rfl | rfl
    all_goals exact ⟨by decide +kernel, by decide, nofun⟩
  have htimes : NonOverlapping threeCalls := by
    simp [NonOverlapping, threeCalls, callAt, Clock.at]
  exact degraded_mode_contract {} boolCodec (fun _ => none) threeCalls rfl hround hplain htimes

end DegradedMode

end GaiaOS
