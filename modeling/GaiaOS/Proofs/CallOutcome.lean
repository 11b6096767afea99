/-
What one call of `resilient_call` comes to.

`Comes` lists the ways a call can go, with what the attempts were, what it reports and what it
leaves in the cache: skipped, live, exhausted, raised, and the two ways past the bypass.  The
facts about histories are read off it by cases.
-/
import GaiaOS.Resilience.CallHistory

namespace GaiaOS

namespace DegradedMode

variable {T : Type}

/-! ### Attempts -/

section Attempts

variable {fn : Nat → Attempt T} {remaining made attempts : Nat} {outcome : Attempt T}

/-- The attempts before the last are `httpx` errors, the last is what they come to, and an `httpx`
error is only the end if all attempts were used. -/
theorem withRetry_spec (h : withRetry fn (remaining + 1) made = (outcome, attempts)) :
    made < attempts ∧ attempts ≤ made + remaining + 1 ∧ fn (attempts - 1) = outcome ∧
      (∀ i, made ≤ i → i + 1 < attempts → fn i = .httpError) ∧
      (outcome = .httpError → attempts = made + remaining + 1) := by
  induction remaining generalizing made with
  | zero =>
      unfold withRetry at h
      split at h
      all_goals
        cases h
        rename_i hfn
        refine ⟨by omega, by omega, by simpa using hfn, fun i hi hlt => by omega, fun _ => by omega⟩
  | succ remaining ih =>
      unfold withRetry at h
      split at h
      · cases h
        rename_i hfn
        refine ⟨by omega, by omega, by simpa using hfn, fun i hi hlt => by omega, nofun⟩
      · cases h
        rename_i hfn
        refine ⟨by omega, by omega, by simpa using hfn, fun i hi hlt => by omega, nofun⟩
      · rename_i hfn
        rw [if_neg (by omega)] at h
        obtain ⟨hlt, hle, hlast, hbefore, hend⟩ := ih h
        refine ⟨by omega, by omega, hlast, fun i hi hlt' => ?_, fun hhttp => ?_⟩
        · rcases Nat.eq_or_lt_of_le hi with rfl | hi
          · exact hfn
          · exact hbefore i (by omega) hlt'
        · have := hend hhttp
          omega

/-- The attempts of a call: `httpx` errors and then the one they come to, which is an `httpx` error
only if all of them were. -/
theorem withRetry_ends (h : withRetry fn maxAttempts 0 = (outcome, made)) :
    ∃ attempts, made = attempts + 1 ∧ attempts < maxAttempts ∧ fn attempts = outcome ∧
      (∀ i < attempts, fn i = .httpError) ∧
      (outcome = .httpError → made = maxAttempts ∧ ∀ i < maxAttempts, fn i = .httpError) := by
  obtain ⟨hpos, hle, hlast, hbefore, hend⟩ := withRetry_spec h
  obtain ⟨attempts, rfl⟩ : ∃ attempts, made = attempts + 1 := ⟨made - 1, by omega⟩
  rw [Nat.add_sub_cancel] at hlast
  have hbefore' : ∀ i < attempts, fn i = .httpError :=
    fun i hi => hbefore i (Nat.zero_le i) (by omega)
  refine ⟨attempts, rfl, by unfold maxAttempts; omega, hlast, hbefore', fun hhttp => ?_⟩
  have hmade : attempts + 1 = maxAttempts := by simpa [maxAttempts] using hend hhttp
  refine ⟨hmade, fun i hi => ?_⟩
  rcases Nat.lt_or_ge i attempts with hlt | hge
  · exact hbefore' i hlt
  · have hsame : i = attempts := by omega
    rw [hsame, hlast, hhttp]

end Attempts

/-! ### One call -/

section OneCall

variable {settings : ResilienceSettings} {codec : JsonCodec T} {call : Call T} {world : World}

@[simp] theorem World.write_cache (world : World) (source : String)
    (written : Option CircuitState) : (world.write source written).cache = world.cache := by
  cases written
  all_goals rfl

/-- What the cache has for a call. -/
def served (codec : JsonCodec T) (call : Call T) (cache : Dict String CacheEntry) :
    ResilientResult T :=
  serveFromCache codec call.servedAt (sourceCacheKey call.source call.cacheKey) cache

/-- The ways a call can go: the report, and the cache it leaves. -/
inductive Comes (settings : ResilienceSettings) (codec : JsonCodec T) (call : Call T)
    (cache : Dict String CacheEntry) : Report T → Dict String CacheEntry → Prop
  | skipped (hbypass : settings.resilienceBypass = false) :
      Comes settings codec call cache ⟨some (served codec call cache), true, 0, []⟩ cache
  | live (hbypass : settings.resilienceBypass = false) (value : T) (attempts : Nat)
      (hlast : call.fn attempts = .value value) (hbefore : ∀ i < attempts, call.fn i = .httpError) :
      Comes settings codec call cache
        ⟨some (liveResult value), false, attempts + 1, [.recordSuccess]⟩
        (cacheResult codec call.cachedAt (sourceCacheKey call.source call.cacheKey) value
          (effectiveTtl call.source call.ttl) cache)
  | exhausted (hbypass : settings.resilienceBypass = false)
      (hall : ∀ i < maxAttempts, call.fn i = .httpError) :
      Comes settings codec call cache
        ⟨some (served codec call cache), false, maxAttempts, [.recordFailure]⟩ cache
  | raised (hbypass : settings.resilienceBypass = false) (attempts : Nat)
      (hlast : call.fn attempts = .otherError) (hbefore : ∀ i < attempts, call.fn i = .httpError)
      (hfew : attempts < maxAttempts) :
      Comes settings codec call cache ⟨none, false, attempts + 1, []⟩ cache
  | bypassed (hbypass : settings.resilienceBypass = true) (value : T)
      (hvalue : call.fn 0 = .value value) :
      Comes settings codec call cache ⟨some (liveResult value), false, 1, []⟩ cache
  | bypassRaised (hbypass : settings.resilienceBypass = true)
      (hfails : ∀ value, call.fn 0 ≠ .value value) :
      Comes settings codec call cache ⟨none, false, 1, []⟩ cache

theorem liveCall_comes (codec : JsonCodec T) (call : Call T) (world : World)
    (hbypass : settings.resilienceBypass = false) :
    Comes settings codec call world.cache (liveCall settings codec call world).1
      (liveCall settings codec call world).2.cache := by
  unfold liveCall
  rcases hretry : withRetry call.fn maxAttempts 0 with ⟨outcome, made⟩
  obtain ⟨attempts, rfl, hfew, hlast, hbefore, hend⟩ := withRetry_ends hretry
  cases outcome with
  | value value =>
      simp only [World.write_cache]
      exact .live hbypass value attempts hlast hbefore
  | httpError =>
      obtain ⟨hmade, hall⟩ := hend rfl
      simp only [World.write_cache, hmade]
      exact .exhausted hbypass hall
  | otherError =>
      exact .raised hbypass attempts hlast hbefore hfew

theorem resilientCall_comes (settings : ResilienceSettings) (codec : JsonCodec T) (call : Call T)
    (world : World) :
    Comes settings codec call world.cache (resilientCall settings codec call world).1
      (resilientCall settings codec call world).2.cache := by
  unfold resilientCall
  cases hbypass : settings.resilienceBypass with
  | true =>
      rw [if_pos rfl]
      cases hfn : call.fn 0 with
      | value value => exact .bypassed hbypass value hfn
      | httpError => exact .bypassRaised hbypass (by simp [hfn])
      | otherError => exact .bypassRaised hbypass (by simp [hfn])
  | false =>
      rw [if_neg Bool.false_ne_true]
      rcases CircuitBreaker.isOpen settings.toCircuitSettings call.checkedAt
        (world.circuit call.source) with ⟨written, isOpen⟩
      cases isOpen with
      | true =>
          simp only [if_true, World.write_cache]
          exact .skipped hbypass
      | false =>
          have hcomes := liveCall_comes codec call (world.write call.source written) hbypass
          rw [World.write_cache] at hcomes
          exact hcomes

end OneCall

/-! ### Histories -/

section Histories

variable {settings : ResilienceSettings} {codec : JsonCodec T} {calls : List (Call T)}
  {before after : List (Call T × Report T)} {call : Call T} {report : Report T}

theorem history_calls (settings : ResilienceSettings) (codec : JsonCodec T) (world : World)
    (calls : List (Call T)) : (history settings codec world calls).map Prod.fst = calls := by
  induction calls generalizing world with
  | nil => rfl
  | cons next calls ih => rw [history, List.map_cons, ih]

/-- What every call of a history keeps, of the calls so far and the world after them, each call of
it finds. -/
theorem history_induction (Keeps : List (Call T × Report T) → World → Prop)
    (hstep : ∀ past world, ∀ next ∈ calls, Keeps past world →
      Keeps (past ++ [(next, (resilientCall settings codec next world).1)])
        (resilientCall settings codec next world).2)
    {past : List (Call T × Report T)} {world : World} (hkeeps : Keeps past world)
    (h : history settings codec world calls = before ++ (call, report) :: after) :
    call ∈ calls ∧ ∃ found, Keeps (past ++ before) found ∧
      report = (resilientCall settings codec call found).1 := by
  induction calls generalizing past world before with
  | nil => simp [history] at h
  | cons next calls ih =>
      unfold history at h
      cases before with
      | nil =>
          rw [List.nil_append, List.cons.injEq, Prod.mk.injEq] at h
          obtain ⟨⟨rfl, rfl⟩, -⟩ := h
          rw [List.append_nil]
          exact ⟨List.mem_cons_self, world, hkeeps, rfl⟩
      | cons entry before =>
          rw [List.cons_append, List.cons.injEq] at h
          obtain ⟨rfl, h⟩ := h
          have hnext := hstep past world next List.mem_cons_self hkeeps
          obtain ⟨hmem, hfound⟩ := ih (fun past world later hlater =>
            hstep past world later (List.mem_cons_of_mem _ hlater)) hnext h
          rw [List.append_assoc, List.singleton_append] at hfound
          exact ⟨List.mem_cons_of_mem _ hmem, hfound⟩

end Histories

end DegradedMode

end GaiaOS
