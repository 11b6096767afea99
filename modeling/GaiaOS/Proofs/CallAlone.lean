/-
The two models of `resilient_call` agree.

`DegradedMode` lets the steps of many calls get in between each other, `CallHistory` runs one
call after the other to its end.  Here a call that nobody gets in between is followed through
the steps of the first: it ends with the result, the circuit and the cache of the second.  So
every history is a run of the steps, and what holds of all runs holds of histories.
-/
import GaiaOS.Proofs.CallOutcome

namespace GaiaOS

namespace DegradedMode

variable {T : Type}

/-- The call an event is a step of. -/
def Event.callOf : Event T → Nat
  | .check call _ => call
  | .attempt call _ => call
  | .cache call _ => call
  | .record call _ => call
  | .write call => call
  | .serve call _ => call

/-- A call has come to a phase and left a circuit and a cache; the other calls are where they
were. -/
structure Stands (s₀ s : State T) (i : Nat) (cell : Option CircuitState)
    (cache : Dict String CacheEntry) (phase : Phase T) : Prop where
  cell : s.breaker.cell = cell
  cache : s.cache = cache
  phase : s.phase = Function.update s₀.phase i phase
  pending : s.breaker.pending = s₀.breaker.pending

/-- A call can get there by steps of its own. -/
def Gets (settings : ResilienceSettings) (codec : JsonCodec T) (source : String)
    (args : Nat → CallArgs) (s₀ : State T) (i : Nat) (cell : Option CircuitState)
    (cache : Dict String CacheEntry) (phase : Phase T) : Prop :=
  ∃ (events : List (Event T)) (s : State T), (∀ e ∈ events, e.callOf = i) ∧
    events.foldlM (step settings codec source args) s₀ = some s ∧
    Stands s₀ s i cell cache phase

/-- The phase a call ends in. -/
def ended : Option (ResilientResult T) → Phase T
  | none => .raised
  | some result => .returned result

section Steps

variable {settings : ResilienceSettings} {codec : JsonCodec T} {source : String}
  {args : Nat → CallArgs} {s₀ s : State T} {i : Nat} {cell cell' : Option CircuitState}
  {cache cache' : Dict String CacheEntry} {phase phase' : Phase T}

theorem Stands.phase_self (h : Stands s₀ s i cell cache phase) : s.phase i = phase := by
  rw [h.phase, Function.update_self]

/-- A call that moves on still leaves the others where they were. -/
theorem Stands.phase_update (h : Stands s₀ s i cell cache phase) (next : Phase T) :
    Function.update s.phase i next = Function.update s₀.phase i next := by
  rw [h.phase, Function.update_idem]

theorem Gets.next (events : List (Event T)) (hown : ∀ e ∈ events, Event.callOf e = i)
    (h : Gets settings codec source args s₀ i cell cache phase)
    (hstep : ∀ s, Stands s₀ s i cell cache phase →
      ∃ s', events.foldlM (step settings codec source args) s = some s' ∧
        Stands s₀ s' i cell' cache' phase') :
    Gets settings codec source args s₀ i cell' cache' phase' := by
  obtain ⟨before, s, hbefore, hrun, hstands⟩ := h
  obtain ⟨s', hrun', hstands'⟩ := hstep s hstands
  refine ⟨before ++ events, s', ?_, ?_, hstands'⟩
  · intro e he
    rcases List.mem_append.mp he with he | he
    · exact hbefore e he
    · exact hown e he
  · rw [List.foldlM_append, hrun]
    exact hrun'

theorem Gets.attempt {outcome : Attempt T} (hnext : afterAttempt phase outcome = some phase')
    (h : Gets settings codec source args s₀ i cell cache phase) :
    Gets settings codec source args s₀ i cell cache phase' := by
  refine h.next [.attempt i outcome] (by simp [Event.callOf]) fun s hstands => ?_
  refine ⟨{ s with phase := Function.update s.phase i phase' }, ?_, hstands.cell, hstands.cache,
    hstands.phase_update phase', hstands.pending⟩
  simp [step, hstands.phase_self, hnext]

theorem Gets.cached {value : T} (now : Int)
    (h : Gets settings codec source args s₀ i cell cache (.succeeded value)) :
    Gets settings codec source args s₀ i cell
      (cacheResult codec now (sourceCacheKey source (args i).cacheKey) value
        (effectiveTtl source (args i).ttl) cache) (.stored value) := by
  refine h.next [.cache i now] (by simp [Event.callOf]) fun s hstands => ?_
  refine ⟨{ s with
      cache := cacheResult codec now (sourceCacheKey source (args i).cacheKey) value
        (effectiveTtl source (args i).ttl) s.cache
      phase := Function.update s.phase i (.stored value) }, ?_, hstands.cell, ?_,
    hstands.phase_update _, hstands.pending⟩
  · simp [step, hstands.phase_self]
  · rw [hstands.cache]

theorem Gets.served (now : Int) (h : Gets settings codec source args s₀ i cell cache .fallback) :
    Gets settings codec source args s₀ i cell cache
      (.returned (serveFromCache codec now (sourceCacheKey source (args i).cacheKey) cache)) := by
  refine h.next [.serve i now] (by simp [Event.callOf]) fun s hstands => ?_
  refine ⟨{ s with
      phase := Function.update s.phase i (.returned
        (serveFromCache codec now (sourceCacheKey source (args i).cacheKey) cache)) }, ?_,
    hstands.cell, hstands.cache, hstands.phase_update _, hstands.pending⟩
  simp [step, hstands.phase_self, hstands.cache]

/-! ### The breaker -/

theorem onBreaker_read {op : CircuitBreaker.BreakerOp} {now : Int}
    (hpending : s.breaker.pending i = none) (next : Phase T) :
    s.onBreaker settings (.read i op now) i next =
      some { s with
        breaker := s.breaker.beginCall (CircuitBreaker.react settings.toCircuitSettings) i op now
        phase := Function.update s.phase i next } := by
  simp [State.onBreaker, CircuitBreaker.step, SharedCell.step, hpending]

theorem onBreaker_write {p : SharedCell.Pending (Option CircuitState) CircuitBreaker.BreakerOp Bool}
    (hpending : s.breaker.pending i = some p) (next : Phase T) :
    s.onBreaker settings (.write i) i next =
      some { s with
        breaker := s.breaker.endCall i p
        phase := Function.update s.phase i next } := by
  simp [State.onBreaker, CircuitBreaker.step, SharedCell.step, hpending]

/-- An operation that writes nothing is over with its read. -/
theorem Stands.readOnly {op : CircuitBreaker.BreakerOp} {now : Int}
    (h : Stands s₀ s i cell cache phase) (hidle : s₀.breaker.pending i = none)
    (hreact : (CircuitBreaker.react settings.toCircuitSettings op now cell).1 = none)
    (next : Phase T) :
    ∃ s', s.onBreaker settings (.read i op now) i next = some s' ∧
      Stands s₀ s' i cell cache next := by
  rw [onBreaker_read (by rw [h.pending, hidle])]
  rw [← h.cell] at hreact
  refine ⟨_, rfl, ?_⟩
  rw [SharedCell.State.beginCall_of_none hreact]
  exact ⟨h.cell, h.cache, h.phase_update next, h.pending⟩

/-- One that writes is over with its write. -/
theorem Stands.readWrite {op : CircuitBreaker.BreakerOp} {now : Int}
    (h : Stands s₀ s i cell cache phase) (hidle : s₀.breaker.pending i = none)
    (hreact : (CircuitBreaker.react settings.toCircuitSettings op now cell).1 = some cell')
    (between next : Phase T) :
    ∃ s', s.onBreaker settings (.read i op now) i between = some s' ∧ s'.phase i = between ∧
      ∀ checks, ∃ s'', ({ s' with checks } : State T).onBreaker settings (.write i) i next =
        some s'' ∧ Stands s₀ s'' i cell' cache next := by
  have hpending : s.breaker.pending i = none := by rw [h.pending, hidle]
  rw [onBreaker_read hpending]
  rw [← h.cell] at hreact
  refine ⟨_, rfl, Function.update_self .., fun checks => ?_⟩
  rw [SharedCell.State.beginCall_of_some hreact, onBreaker_write (Function.update_self ..)]
  refine ⟨_, rfl, rfl, h.cache, ?_, ?_⟩
  · dsimp only
    rw [Function.update_idem]
    exact h.phase_update next
  · dsimp only [SharedCell.State.endCall]
    rw [Function.update_idem, ← hpending, Function.update_eq_self]
    exact h.pending

/-- A success is recorded. -/
theorem Gets.recordedSuccess {value : T} (now : Int) (hidle : s₀.breaker.pending i = none)
    (h : Gets settings codec source args s₀ i cell cache (.stored value)) :
    Gets settings codec source args s₀ i
      (((CircuitBreaker.recordSuccess (CircuitBreaker.getState cell)).map some).getD cell) cache
      (.returned (liveResult value)) := by
  cases hwritten : CircuitBreaker.recordSuccess (CircuitBreaker.getState cell) with
  | none =>
      refine h.next [.record i now] (by simp [Event.callOf]) fun s hstands => ?_
      have hreact : (CircuitBreaker.react settings.toCircuitSettings .recordSuccess now cell).1 =
          none := by
        simp [CircuitBreaker.react, hwritten]
      obtain ⟨s', hread, hstands'⟩ :=
        hstands.readOnly hidle hreact (.returned (liveResult value))
      refine ⟨s', ?_, hstands'⟩
      simpa [step, State.record, hstands.phase_self, hstands.cell, hwritten] using hread
  | some written =>
      refine h.next [.record i now, .write i] (by simp [Event.callOf]) fun s hstands => ?_
      have hreact : (CircuitBreaker.react settings.toCircuitSettings .recordSuccess now cell).1 =
          some (some written) := by
        simp [CircuitBreaker.react, hwritten]
      obtain ⟨s', hread, hphase, hwrite⟩ :=
        hstands.readWrite hidle hreact (.closing value) (.returned (liveResult value))
      obtain ⟨s'', hwrite, hstands''⟩ := hwrite s'.checks
      refine ⟨s'', ?_, hstands''⟩
      simpa [step, State.record, hstands.phase_self, hstands.cell, hwritten, hread, hphase,
        afterWrite] using hwrite

/-- A failure is recorded. -/
theorem Gets.recordedFailure (now : Int) (hidle : s₀.breaker.pending i = none)
    (h : Gets settings codec source args s₀ i cell cache .exhausted) :
    Gets settings codec source args s₀ i
      (some (CircuitBreaker.recordFailure settings.toCircuitSettings now
        (CircuitBreaker.getState cell))) cache .fallback := by
  refine h.next [.record i now, .write i] (by simp [Event.callOf]) fun s hstands => ?_
  obtain ⟨s', hread, hphase, hwrite⟩ := hstands.readWrite hidle
    (show (CircuitBreaker.react settings.toCircuitSettings .recordFailure now cell).1 = _ from rfl)
    .opening .fallback
  obtain ⟨s'', hwrite, hstands''⟩ := hwrite s'.checks
  refine ⟨s'', ?_, hstands''⟩
  simpa [step, State.record, hstands.phase_self, hread, hphase, afterWrite] using hwrite

/-- Only the step to half open writes, and then the answer is no. -/
theorem isOpen_of_written {now : Int} {state written : CircuitState} {answer : Bool}
    (h : CircuitBreaker.isOpen settings.toCircuitSettings now state = (some written, answer)) :
    answer = false := by
  unfold CircuitBreaker.isOpen at h
  split at h
  · cases h
  · cases h
  · split at h
    · cases h
    · split at h
      · cases h
        rfl
      · cases h

/-- The check without the bypass: the call goes to the cache or to the source, and has written
the circuit where `is_open` does. -/
theorem Gets.checked (now : Int) (hbypass : settings.resilienceBypass = false)
    (hidle : s₀.breaker.pending i = none)
    (h : Gets settings codec source args s₀ i cell cache .waiting) :
    Gets settings codec source args s₀ i
      (((CircuitBreaker.isOpen settings.toCircuitSettings now
        (CircuitBreaker.getState cell)).1.map some).getD cell) cache
      (if (CircuitBreaker.isOpen settings.toCircuitSettings now
        (CircuitBreaker.getState cell)).2 then .fallback else .live 0) := by
  rcases hopen : CircuitBreaker.isOpen settings.toCircuitSettings now
    (CircuitBreaker.getState cell) with ⟨written, isOpen⟩
  cases written with
  | none =>
      refine h.next [.check i now] (by simp [Event.callOf]) fun s hstands => ?_
      have hreact : (CircuitBreaker.react settings.toCircuitSettings .isOpen now cell).1 =
          none := by
        simp [CircuitBreaker.react, hopen]
      obtain ⟨s', hread, hstands'⟩ :=
        hstands.readOnly hidle hreact (if isOpen then .fallback else .live 0)
      have hfirst : (firstPhase settings now (CircuitBreaker.getState cell) : Phase T) =
          if isOpen then .fallback else .live 0 := by
        simp only [firstPhase, hbypass, afterCheck, hopen]
        cases isOpen
        all_goals rfl
      refine ⟨{ s' with
          checks := s.checks ++ [⟨i, now, CircuitBreaker.getState cell,
            !(firstPhase settings now (CircuitBreaker.getState cell) : Phase T).isFallback⟩] },
        ?_, hstands'.cell, hstands'.cache, hstands'.phase, hstands'.pending⟩
      simp [step, State.check, hstands.phase_self, hstands.cell, hbypass, hfirst, hread]
  | some written =>
      have hanswer : isOpen = false := isOpen_of_written hopen
      refine h.next [.check i now, .write i] (by simp [Event.callOf]) fun s hstands => ?_
      have hreact : (CircuitBreaker.react settings.toCircuitSettings .isOpen now cell).1 =
          some (some written) := by
        simp [CircuitBreaker.react, hopen]
      obtain ⟨s', hread, hphase, hwrite⟩ :=
        hstands.readWrite hidle hreact .halfOpening (.live 0)
      obtain ⟨s'', hwrite, hstands''⟩ := hwrite (s.checks ++
        [⟨i, now, CircuitBreaker.getState cell, true⟩])
      have hfirst : (firstPhase settings now (CircuitBreaker.getState cell) : Phase T) =
          .halfOpening := by
        simp [firstPhase, hbypass, afterCheck, hopen]
      refine ⟨s'', ?_, by simpa [hanswer] using hstands''⟩
      simpa [step, State.check, hstands.phase_self, hstands.cell, hbypass, hfirst, hread, hphase,
        afterWrite, Phase.isFallback] using hwrite

/-! ### The attempts -/

/-- The phase the attempts come to. -/
def attempted : Attempt T → Phase T
  | .value value => .succeeded value
  | .httpError => .exhausted
  | .otherError => .raised

theorem Gets.attempts {fn : Nat → Attempt T} {remaining made : Nat}
    (hlimit : made + remaining + 1 = maxAttempts)
    (h : Gets settings codec source args s₀ i cell cache (.live made)) :
    Gets settings codec source args s₀ i cell cache
      (attempted (withRetry fn (remaining + 1) made).1) := by
  induction remaining generalizing made with
  | zero =>
      have hlast : ¬ made + 1 < maxAttempts := by omega
      rw [withRetry]
      cases hfn : fn made with
      | value value => exact h.attempt (show afterAttempt (.live made) (.value value) = _ from rfl)
      | otherError => exact h.attempt (show afterAttempt (.live made) .otherError = _ from rfl)
      | httpError =>
          have hnext : afterAttempt (.live made) (.httpError : Attempt T) = some .exhausted := by
            simp [afterAttempt, hlast]
          exact h.attempt hnext
  | succ remaining ih =>
      have hmore : made + 1 < maxAttempts := by omega
      rw [withRetry]
      cases hfn : fn made with
      | value value => exact h.attempt (show afterAttempt (.live made) (.value value) = _ from rfl)
      | otherError => exact h.attempt (show afterAttempt (.live made) .otherError = _ from rfl)
      | httpError =>
          have hnext : afterAttempt (.live made) (.httpError : Attempt T) =
              some (.live (made + 1)) := by
            simp [afterAttempt, hmore]
          dsimp only
          rw [if_neg (Nat.succ_ne_zero remaining)]
          exact ih (by omega) (h.attempt hnext)

end Steps

/-! ### A call by itself -/

section Alone

variable {settings : ResilienceSettings} {codec : JsonCodec T} {args : Nat → CallArgs}
  {s₀ : State T} {i : Nat} {call : Call T} {world : World}

theorem World.write_circuits (world : World) (source : String) (written : Option CircuitState) :
    (world.write source written).circuits source =
      (written.map some).getD (world.circuits source) := by
  cases written with
  | none => rfl
  | some state => simp [World.write]

theorem Gets.liveCall (hargs : args i = ⟨call.cacheKey, call.ttl⟩)
    (hidle : s₀.breaker.pending i = none)
    (h : Gets settings codec call.source args s₀ i (world.circuits call.source) world.cache
      (.live 0)) :
    Gets settings codec call.source args s₀ i
      ((DegradedMode.liveCall settings codec call world).2.circuits call.source)
      (DegradedMode.liveCall settings codec call world).2.cache
      (ended (DegradedMode.liveCall settings codec call world).1.result) := by
  have hattempted : Gets settings codec call.source args s₀ i (world.circuits call.source)
      world.cache (attempted (withRetry call.fn maxAttempts 0).1) := h.attempts rfl
  unfold DegradedMode.liveCall
  rcases hretry : withRetry call.fn maxAttempts 0 with ⟨outcome, made⟩
  rw [hretry] at hattempted
  cases outcome with
  | value value =>
      have hstored := (Gets.cached call.cachedAt hattempted).recordedSuccess call.recordedAt hidle
      rw [hargs] at hstored
      simp only [World.write_circuits, World.write_cache]
      exact hstored
  | httpError =>
      have hserved := (Gets.recordedFailure call.recordedAt hidle hattempted).served call.servedAt
      rw [hargs] at hserved
      simp only [World.write_circuits, World.write_cache]
      exact hserved
  | otherError => exact hattempted

/-- A call nobody gets in between ends with the result, the circuit and the cache of
`resilientCall`. -/
theorem Gets.resilientCall (hargs : args i = ⟨call.cacheKey, call.ttl⟩)
    (hidle : s₀.breaker.pending i = none)
    (h : Gets settings codec call.source args s₀ i (world.circuits call.source) world.cache
      .waiting) :
    Gets settings codec call.source args s₀ i
      ((DegradedMode.resilientCall settings codec call world).2.circuits call.source)
      (DegradedMode.resilientCall settings codec call world).2.cache
      (ended (DegradedMode.resilientCall settings codec call world).1.result) := by
  unfold DegradedMode.resilientCall
  cases hbypass : settings.resilienceBypass with
  | true =>
      have hbare : Gets settings codec call.source args s₀ i (world.circuits call.source)
          world.cache .bare := by
        refine h.next [.check i call.checkedAt] (by simp [Event.callOf]) fun s hstands => ?_
        refine ⟨{ s with
            phase := Function.update s.phase i .bare
            checks := s.checks ++ [⟨i, call.checkedAt,
              CircuitBreaker.getState (world.circuits call.source), true⟩] }, ?_,
          hstands.cell, hstands.cache, hstands.phase_update _, hstands.pending⟩
        simp [step, State.check, hstands.phase_self, hstands.cell, hbypass, firstPhase,
          Phase.isFallback]
      rw [if_pos rfl]
      cases hfn : call.fn 0 with
      | value value => exact hbare.attempt (show afterAttempt .bare (.value value) = _ from rfl)
      | httpError => exact hbare.attempt (show afterAttempt .bare .httpError = _ from rfl)
      | otherError => exact hbare.attempt (show afterAttempt .bare .otherError = _ from rfl)
  | false =>
      have hchecked := h.checked call.checkedAt hbypass hidle
      rw [if_neg Bool.false_ne_true]
      rcases hopen : CircuitBreaker.isOpen settings.toCircuitSettings call.checkedAt
        (world.circuit call.source) with ⟨written, isOpen⟩
      have hopen' : CircuitBreaker.isOpen settings.toCircuitSettings call.checkedAt
        (CircuitBreaker.getState (world.circuits call.source)) = (written, isOpen) := hopen
      rw [hopen', ← World.write_circuits, ← World.write_cache world call.source written]
        at hchecked
      cases isOpen with
      | true =>
          have hserved := Gets.served call.servedAt hchecked
          rw [hargs] at hserved
          exact hserved
      | false => exact hchecked.liveCall hargs hidle

theorem Gets.start {source : String} (hwaiting : s₀.phase i = .waiting) :
    Gets settings codec source args s₀ i s₀.breaker.cell s₀.cache .waiting := by
  refine ⟨[], s₀, by simp, rfl, rfl, rfl, ?_, rfl⟩
  rw [← hwaiting, Function.update_eq_self]

/-- The calls from one on, made one after the other by processes that wait. -/
theorem history_run_from (settings : ResilienceSettings) (codec : JsonCodec T) {source : String}
    {calls : List (Call T)} (first : Nat)
    (hsource : ∀ call ∈ calls, call.source = source)
    (hargs : ∀ j call, calls[j]? = some call → args (first + j) = ⟨call.cacheKey, call.ttl⟩)
    (hcell : s₀.breaker.cell = world.circuits source) (hcache : s₀.cache = world.cache)
    (hidle : s₀.breaker.Idle) (hwaiting : ∀ i, first ≤ i → s₀.phase i = .waiting) :
    ∃ (events : List (Event T)) (s : State T),
      events.foldlM (step settings codec source args) s₀ = some s ∧
      (∀ i < first, s.phase i = s₀.phase i) ∧
      ∀ j entry, (history settings codec world calls)[j]? = some entry →
        s.phase (first + j) = ended entry.2.result := by
  induction calls generalizing first world s₀ with
  | nil => exact ⟨[], s₀, rfl, fun _ _ => rfl, by simp [history]⟩
  | cons call calls ih =>
      rw [List.forall_mem_cons] at hsource
      obtain ⟨rfl, hrest⟩ := hsource
      have hstart : Gets settings codec call.source args s₀ first (world.circuits call.source)
          world.cache .waiting := by
        rw [← hcell, ← hcache]
        exact Gets.start (hwaiting first (Nat.le_refl first))
      have hfirst : args first = ⟨call.cacheKey, call.ttl⟩ := hargs 0 call rfl
      obtain ⟨events, s, -, hrun, hstands⟩ := hstart.resilientCall hfirst (hidle first)
      have hothers : ∀ i, i ≠ first → s.phase i = s₀.phase i := by
        intro i hi
        rw [hstands.phase, Function.update_of_ne hi]
      obtain ⟨events', s', hrun', hbefore, hended⟩ := ih (first + 1) hrest
        (fun j call' hcall' => by
          have hargs' := hargs (j + 1) call' hcall'
          rwa [← Nat.add_assoc, Nat.add_right_comm] at hargs')
        hstands.cell hstands.cache
        (fun process => by rw [hstands.pending]; exact hidle process)
        (fun i hi => by rw [hothers i (by omega)]; exact hwaiting i (by omega))
      refine ⟨events ++ events', s', ?_, fun i hi => ?_, fun j entry hentry => ?_⟩
      · rw [List.foldlM_append, hrun]
        exact hrun'
      · rw [hbefore i (by omega), hothers i (by omega)]
      · cases j with
        | zero =>
            cases hentry
            rw [Nat.add_zero, hbefore first (Nat.lt_succ_self first), hstands.phase_self]
        | succ j =>
            rw [← Nat.add_assoc, Nat.add_right_comm]
            exact hended j entry hentry

/-- **A history is a run.**  Calls on one source, made one after the other, end in the steps of
many calls as they end in their history. -/
theorem history_is_run (settings : ResilienceSettings) (codec : JsonCodec T) (source : String)
    (args : Nat → CallArgs) (world : World) (calls : List (Call T))
    (hsource : ∀ call ∈ calls, call.source = source)
    (hargs : ∀ i call, calls[i]? = some call → args i = ⟨call.cacheKey, call.ttl⟩) :
    ∃ (events : List (Event T)) (s : State T), events.foldlM (step settings codec source args)
        (State.init (world.circuits source) world.cache) = some s ∧
      ∀ i entry, (history settings codec world calls)[i]? = some entry →
        s.phase i = ended entry.2.result := by
  obtain ⟨events, s, hrun, -, hended⟩ := history_run_from settings codec 0 hsource
    (by simpa using hargs)
    (show (State.init (world.circuits source) world.cache : State T).breaker.cell = _ from rfl)
    rfl (fun _ => rfl) (fun _ _ => rfl)
  exact ⟨events, s, hrun, by simpa using hended⟩

end Alone

end DegradedMode

end GaiaOS
