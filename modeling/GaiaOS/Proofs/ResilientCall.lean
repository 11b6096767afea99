/-
What one step of a resilient call does.

A step belongs to one call.  The first one checks the circuit (`check_cases`); every later
one moves that call on and touches the breaker only on behalf of a call that is at large,
that is between its admission and the record of its outcome (`move_cases`).  All that is
said about runs is derived from these two.  A run of the calls is in particular a run of
the breaker they share (`breaker_reaches`).
-/
import GaiaOS.Resilience.DegradedMode

namespace GaiaOS

namespace DegradedMode

open CircuitBreaker (hasElapsed getState)

variable {T : Type}

/-- The circuit is open and its timeout has not run out. -/
def timeoutRunning (settings : ResilienceSettings) (now : Int) (read : CircuitState) : Bool :=
  match read.status, read.openedAt with
  | .opened, some openedAt => !hasElapsed settings.toCircuitSettings openedAt now
  | _, _ => false

/-- A call that gets what the cache has. -/
def ServedFromCache : Phase T → Prop
  | .fallback => True
  | .returned result => result.degraded = true ∧ result.sourceStatus ≠ .live
  | _ => False

/-- A call that passed the circuit and may still touch it. -/
def Phase.atLarge : Phase T → Bool
  | .halfOpening | .live _ | .succeeded _ | .stored _ | .closing _ | .exhausted | .opening => true
  | _ => false

/-- A step is the first of its call, or not. -/
theorem Event.check_or_move (e : Event T) :
    (∃ call now, e = .check call now) ∨ ∀ call now, e ≠ .check call now := by
  cases e with
  | check call now => exact Or.inl ⟨call, now, rfl⟩
  | _ => exact Or.inr (by simp)

section Steps

variable {settings : ResilienceSettings} {codec : JsonCodec T} {source : String}
  {args : Nat → CallArgs} {s s' : State T}

/-- `is_open` answers yes to a running timeout and to nothing else. -/
theorem isFallback_afterCheck (now : Int) (read : CircuitState) :
    (afterCheck settings now read : Phase T).isFallback = timeoutRunning settings now read := by
  obtain ⟨status, failureCount, openedAt⟩ := read
  unfold afterCheck timeoutRunning CircuitBreaker.isOpen
  cases status with
  | closed => rfl
  | halfOpen => rfl
  | opened =>
      cases openedAt with
      | none => rfl
      | some openedAt =>
          by_cases hel : hasElapsed settings.toCircuitSettings openedAt now = true
          · simp [hel, Phase.isFallback]
          · simp [hel, Phase.isFallback]

theorem isFallback_firstPhase (now : Int) (read : CircuitState) :
    (firstPhase settings now read : Phase T).isFallback =
      (!settings.resilienceBypass && timeoutRunning settings now read) := by
  unfold firstPhase
  cases settings.resilienceBypass with
  | true => rfl
  | false => simp [isFallback_afterCheck]

/-- A call begins: its check is noted, and the breaker sees it unless it is bypassed. -/
theorem check_cases {call : Nat} {now : Int}
    (h : step settings codec source args s (.check call now) = some s') :
    s.phase call = .waiting ∧
    s'.phase = Function.update s.phase call (firstPhase settings now (getState s.breaker.cell)) ∧
    s'.checks = s.checks ++ [⟨call, now, getState s.breaker.cell,
      !(firstPhase settings now (getState s.breaker.cell) : Phase T).isFallback⟩] ∧
    ((settings.resilienceBypass = true ∧ s'.breaker = s.breaker) ∨
      (settings.resilienceBypass = false ∧ CircuitBreaker.step settings.toCircuitSettings s.breaker
        (.read call .isOpen now) = some s'.breaker)) := by
  simp only [step] at h
  split at h
  · rename_i hwaiting
    refine ⟨hwaiting, ?_⟩
    unfold State.check State.onBreaker at h
    cases hbypass : settings.resilienceBypass with
    | true =>
        simp only [hbypass, if_true, Option.some.injEq] at h
        subst h
        exact ⟨rfl, rfl, Or.inl ⟨rfl, rfl⟩⟩
    | false =>
        simp only [hbypass, Bool.false_eq_true, if_false, Option.map_map,
          Option.map_eq_some_iff] at h
        obtain ⟨breaker, hbreaker, rfl⟩ := h
        exact ⟨rfl, rfl, Or.inr ⟨rfl, hbreaker⟩⟩
  · cases h

/-- The cache never passes for the source. -/
theorem serveFromCache_degraded (codec : JsonCodec T) (now : Int) (redisCacheKey : String)
    (cache : Dict String CacheEntry) :
    (serveFromCache codec now redisCacheKey cache).degraded = true ∧
      (serveFromCache codec now redisCacheKey cache).sourceStatus ≠ .live := by
  unfold serveFromCache
  split
  · exact ⟨rfl, by simp⟩
  · split
    · exact ⟨rfl, by simp⟩
    · exact ⟨rfl, by simp⟩

/-- Served calls make no attempts. -/
theorem afterAttempt_served {phase : Phase T} (outcome : Attempt T) (h : ServedFromCache phase) :
    afterAttempt phase outcome = none := by
  cases phase with
  | fallback => rfl
  | returned result => rfl
  | _ => exact absurd h id

/-- An attempt that no admission allowed is the bypass's, and leaves the circuit alone. -/
theorem atLarge_afterAttempt {phase next : Phase T} {outcome : Attempt T}
    (hlarge : phase.atLarge = false) (h : afterAttempt phase outcome = some next) :
    next.atLarge = false := by
  cases phase with
  | bare =>
      cases outcome with
      | value value => cases h; rfl
      | httpError | otherError => cases h; rfl
  | live failed => cases hlarge
  | _ => cases h

/-- Only calls at large owe a write. -/
theorem afterWrite_eq_none {phase : Phase T} (hlarge : phase.atLarge = false) :
    afterWrite phase = none := by
  cases phase with
  | halfOpening | closing | opening => cases hlarge
  | _ => rfl

theorem ServedFromCache.not_atLarge {phase : Phase T} (h : ServedFromCache phase) :
    phase.atLarge = false := by
  cases phase with
  | fallback => rfl
  | returned result => rfl
  | _ => exact absurd h id

theorem onBreaker_eq {e : SharedCell.Event CircuitBreaker.BreakerOp} {call : Nat} {next : Phase T}
    (h : s.onBreaker settings e call next = some s') :
    CircuitBreaker.step settings.toCircuitSettings s.breaker e = some s'.breaker ∧
      s'.phase = Function.update s.phase call next ∧ s'.checks = s.checks := by
  obtain ⟨breaker, hbreaker, rfl⟩ := Option.map_eq_some_iff.mp h
  exact ⟨hbreaker, rfl, rfl⟩

/-- What every step but the first does to the call that takes it, and to the breaker. -/
theorem move_cases {e : Event T} (h : step settings codec source args s e = some s')
    (hmove : ∀ call now, e ≠ .check call now) :
    ∃ call next, s'.phase = Function.update s.phase call next ∧ s'.checks = s.checks ∧
      (ServedFromCache (s.phase call) → ServedFromCache next) ∧
      ((s.phase call).atLarge = false → next.atLarge = false ∧ s'.breaker = s.breaker) ∧
      (s'.breaker = s.breaker ∨
        (∃ op now, op ≠ .isOpen ∧ CircuitBreaker.step settings.toCircuitSettings s.breaker
          (.read call op now) = some s'.breaker) ∨
        CircuitBreaker.step settings.toCircuitSettings s.breaker (.write call) =
          some s'.breaker) := by
  cases e with
  | check call now => exact absurd rfl (hmove call now)
  | attempt call outcome =>
      obtain ⟨next, hnext, rfl⟩ := Option.map_eq_some_iff.mp h
      refine ⟨call, next, rfl, rfl, ?_, ?_, Or.inl rfl⟩
      · intro hserved
        rw [afterAttempt_served outcome hserved] at hnext
        cases hnext
      · intro hlarge
        exact ⟨atLarge_afterAttempt hlarge hnext, rfl⟩
  | cache call now =>
      simp only [step] at h
      split at h
      · rename_i value hphase
        cases h
        refine ⟨call, _, rfl, rfl, ?_, ?_, Or.inl rfl⟩
        · simp [hphase, ServedFromCache]
        · simp [hphase, Phase.atLarge]
      · cases h
  | record call now =>
      simp only [step, State.record] at h
      split at h
      · rename_i value hphase
        obtain ⟨hbreaker, hnext, hchecks⟩ := onBreaker_eq h
        refine ⟨call, _, hnext, hchecks, ?_, ?_, Or.inr (Or.inl ⟨_, now, ?_, hbreaker⟩)⟩
        · simp [hphase, ServedFromCache]
        · simp [hphase, Phase.atLarge]
        · simp
      · rename_i hphase
        obtain ⟨hbreaker, hnext, hchecks⟩ := onBreaker_eq h
        refine ⟨call, _, hnext, hchecks, ?_, ?_, Or.inr (Or.inl ⟨_, now, ?_, hbreaker⟩)⟩
        · simp [hphase, ServedFromCache]
        · simp [hphase, Phase.atLarge]
        · simp
      · cases h
  | write call =>
      obtain ⟨next, hafter, hstep⟩ := Option.bind_eq_some_iff.mp h
      obtain ⟨hbreaker, hnext, hchecks⟩ := onBreaker_eq hstep
      refine ⟨call, next, hnext, hchecks, ?_, ?_, Or.inr (Or.inr hbreaker)⟩
      · intro hserved
        rw [afterWrite_eq_none hserved.not_atLarge] at hafter
        cases hafter
      · intro hlarge
        rw [afterWrite_eq_none hlarge] at hafter
        cases hafter
  | serve call now =>
      simp only [step] at h
      split at h
      · rename_i hphase
        cases h
        refine ⟨call, _, rfl, rfl, ?_, ?_, Or.inl rfl⟩
        · intro _
          exact serveFromCache_degraded ..
        · intro _
          exact ⟨rfl, rfl⟩
      · cases h

/-- A step of a call is a step of the breaker, or none. -/
theorem breaker_step {e : Event T} (h : step settings codec source args s e = some s') :
    s'.breaker = s.breaker ∨
      ∃ op, CircuitBreaker.step settings.toCircuitSettings s.breaker op = some s'.breaker := by
  rcases e.check_or_move with ⟨call, now, rfl⟩ | hmove
  · rcases (check_cases h).2.2.2 with ⟨-, hsame⟩ | ⟨-, hread⟩
    · exact Or.inl hsame
    · exact Or.inr ⟨_, hread⟩
  · obtain ⟨mover, next, -, -, -, -, hbreaker⟩ := move_cases h hmove
    rcases hbreaker with hsame | ⟨op, now, -, hread⟩ | hwrite
    · exact Or.inl hsame
    · exact Or.inr ⟨_, hread⟩
    · exact Or.inr ⟨_, hwrite⟩

/-- Every run of the calls is a run of the breaker. -/
theorem breaker_reaches {allowed : State T → Event T → Prop} {s₀ : State T}
    {events : List (Event T)}
    (h : Reaches (step settings codec source args) allowed s₀ events s) :
    ∃ ops, Reaches (CircuitBreaker.step settings.toCircuitSettings) (fun _ _ => True)
      s₀.breaker ops s.breaker := by
  induction h with
  | start => exact ⟨[], .start⟩
  | next e run ok hstep ih =>
      obtain ⟨ops, hops⟩ := ih
      rcases breaker_step hstep with hsame | ⟨op, hop⟩
      · exact ⟨ops, hsame ▸ hops⟩
      · exact ⟨ops ++ [op], .next op hops trivial hop⟩

theorem step_checks {e : Event T} (h : step settings codec source args s e = some s') :
    s'.checks = s.checks ∨ ∃ call now, e = .check call now ∧
      s'.checks = s.checks ++ [⟨call, now, getState s.breaker.cell,
        !(firstPhase settings now (getState s.breaker.cell) : Phase T).isFallback⟩] := by
  rcases e.check_or_move with ⟨call, now, rfl⟩ | hmove
  · obtain ⟨-, -, hchecks, -⟩ := check_cases h
    exact Or.inr ⟨call, now, rfl, hchecks⟩
  · obtain ⟨mover, next, -, hchecks, -⟩ := move_cases h hmove
    exact Or.inl hchecks

/-- A served call stays served. -/
theorem served_step {e : Event T} (h : step settings codec source args s e = some s') {call : Nat}
    (hserved : ServedFromCache (s.phase call)) : ServedFromCache (s'.phase call) := by
  rcases e.check_or_move with ⟨other, now, rfl⟩ | hmove
  · obtain ⟨hwaiting, hphase, -⟩ := check_cases h
    have hne : call ≠ other := by
      rintro rfl
      rw [hwaiting] at hserved
      exact hserved
    rw [hphase, Function.update_of_ne hne]
    exact hserved
  · obtain ⟨mover, next, hphase, -, hkeeps, -⟩ := move_cases h hmove
    rw [hphase]
    by_cases heq : call = mover
    · subst heq
      rw [Function.update_self]
      exact hkeeps hserved
    · rw [Function.update_of_ne heq]
      exact hserved

end Steps

end DegradedMode

end GaiaOS
