/-
What the circuit breaker is for, and that one call after another it does just that.

The specification knows three phases and no counter that outlives the closed one: a closed
circuit counts failures, an open one remembers when it opened, and a half-open one when it
last opened.  A failure in the half-open phase opens the circuit again because it is a
failure in the half-open phase.

The code has one counter for all of it, and a half-open failure opens the circuit only
because the counter is still at the threshold.  `Refines` is what links the two: the counter
is the phase's own while the circuit is closed, and at the threshold or above otherwise.
Every operation restores it (`Refines.next`), so what is true of the phases is true of the
stored state.  The clock comes in last, with the half-open phase: it is only entered once
the timeout has run out, and a clock that never goes back keeps it so.
-/
import GaiaOS.Proofs.CircuitBreaker

namespace GaiaOS

namespace CircuitBreaker

open SharedCell

/-! ### The specification -/

/-- What a circuit is in. -/
inductive Phase
  | closed (failures : Nat)
  | opened (since : Int)
  | halfOpen (since : Int)
  deriving DecidableEq, Repr

namespace Phase

variable (settings : CircuitSettings)

/-- What an operation makes of the phase. -/
def next : Phase → BreakerOp → Int → Phase
  | _, .recordSuccess, _ => .closed 0
  | .closed failures, .recordFailure, now =>
      if settings.circuitFailureThreshold ≤ ((failures + 1 : Nat) : Int) then .opened now
      else .closed (failures + 1)
  | .halfOpen _, .recordFailure, now => .opened now
  | .opened since, .isOpen, now =>
      if hasElapsed settings since now then .halfOpen since else .opened since
  | phase, _, _ => phase

/-- Whether a check in this phase turns the caller away. -/
def blocks (now : Int) : Phase → Bool
  | .opened since => !hasElapsed settings since now
  | _ => false

/-- The phase a sequence of calls leads to. -/
def after (calls : List (Completed BreakerOp Bool)) : Phase :=
  calls.foldl (fun phase call => phase.next settings call.op call.now) (.closed 0)

variable {settings}

theorem after_append (calls : List (Completed BreakerOp Bool)) (call : Completed BreakerOp Bool) :
    after settings (calls ++ [call]) = (after settings calls).next settings call.op call.now := by
  simp [after]

end Phase

/-! ### The stored state refines the phase -/

section Refinement

variable {settings : CircuitSettings}

/-- The stored state is one of the phase. -/
def Refines (settings : CircuitSettings) (state : CircuitState) : Phase → Prop
  | .closed failures =>
      state.status = .closed ∧ state.failureCount = failures ∧
        (failures : Int) < settings.circuitFailureThreshold
  | .opened since =>
      state.status = .opened ∧ state.openedAt = some since ∧
        settings.circuitFailureThreshold ≤ state.failureCount
  | .halfOpen since =>
      state.status = .halfOpen ∧ state.openedAt = some since ∧
        settings.circuitFailureThreshold ≤ state.failureCount

theorem Refines.failure {state : CircuitState} {phase : Phase} (h : Refines settings state phase)
    (now : Int) :
    Refines settings (recordFailure settings now state)
      (phase.next settings .recordFailure now) := by
  unfold recordFailure
  cases phase with
  | closed failures =>
      obtain ⟨hstatus, hcount, -⟩ := h
      simp only [hstatus, hcount, Phase.next, ge_iff_le]
      by_cases htrip : settings.circuitFailureThreshold ≤ ((failures + 1 : Nat) : Int)
      · rw [if_pos htrip, if_pos htrip]
        exact ⟨rfl, rfl, htrip⟩
      · rw [if_neg htrip, if_neg htrip]
        exact ⟨rfl, rfl, Int.not_le.mp htrip⟩
  | opened since =>
      obtain ⟨hstatus, hsince, hcount⟩ := h
      simp only [hstatus, Phase.next]
      refine ⟨rfl, hsince, ?_⟩
      show settings.circuitFailureThreshold ≤ ((state.failureCount + 1 : Nat) : Int)
      omega
  | halfOpen since =>
      obtain ⟨hstatus, -, hcount⟩ := h
      -- the counter went on while the circuit was open, so it is at the threshold
      have htrip : settings.circuitFailureThreshold ≤ ((state.failureCount + 1 : Nat) : Int) := by
        omega
      simp only [hstatus, Phase.next, ge_iff_le]
      rw [if_pos htrip]
      exact ⟨rfl, rfl, htrip⟩

theorem Refines.success (hthreshold : 1 ≤ settings.circuitFailureThreshold)
    (state : CircuitState) (phase : Phase) (now : Int) :
    Refines settings ((recordSuccess state).getD state)
      (phase.next settings .recordSuccess now) := by
  obtain ⟨hstatus, hcount⟩ := recordSuccess_closed state
  have hnext : phase.next settings .recordSuccess now = .closed 0 := by
    cases phase <;> rfl
  rw [hnext]
  refine ⟨hstatus, hcount, ?_⟩
  omega

/-- A check answers as the phase says and leaves a state of the next phase. -/
theorem Refines.check {state : CircuitState} {phase : Phase} (h : Refines settings state phase)
    (now : Int) :
    (isOpen settings now state).2 = phase.blocks settings now ∧
      Refines settings (((isOpen settings now state).1).getD state)
        (phase.next settings .isOpen now) := by
  unfold isOpen
  cases phase with
  | closed failures =>
      rw [h.1]
      exact ⟨rfl, h⟩
  | opened since =>
      simp only [h.1, h.2.1, Phase.blocks, Phase.next]
      by_cases hgone : hasElapsed settings since now = true
      · rw [if_pos hgone, if_pos hgone, hgone]
        exact ⟨rfl, rfl, rfl, h.2.2⟩
      · rw [if_neg hgone, if_neg hgone, Bool.not_eq_true] at *
        rw [hgone]
        exact ⟨rfl, h⟩
  | halfOpen since =>
      rw [h.1]
      exact ⟨rfl, h⟩

/-- The step lemma. -/
theorem Refines.next (hthreshold : 1 ≤ settings.circuitFailureThreshold)
    {stored : Option CircuitState} {phase : Phase} (h : Refines settings (getState stored) phase)
    (op : BreakerOp) (now : Int) :
    Refines settings (getState (apply (react settings) stored op now))
      (phase.next settings op now) := by
  rw [getState_apply]
  cases op with
  | isOpen => exact (h.check now).2
  | recordFailure => exact h.failure now
  | recordSuccess => exact Refines.success hthreshold _ phase now

/-- What is stored for a source after the calls, one after another. -/
def storedAfter (settings : CircuitSettings) (calls : List (Completed BreakerOp Bool)) :
    CircuitState :=
  getState (replay (react settings) none calls)

/-- What `is_open` then answers. -/
def answerAfter (settings : CircuitSettings) (calls : List (Completed BreakerOp Bool))
    (now : Int) : Bool :=
  (react settings .isOpen now (replay (react settings) none calls)).2

/-- The run lemma. -/
theorem storedAfter_refines (hthreshold : 1 ≤ settings.circuitFailureThreshold)
    (calls : List (Completed BreakerOp Bool)) :
    Refines settings (storedAfter settings calls) (Phase.after settings calls) := by
  unfold storedAfter
  induction calls using List.reverseRecOn with
  | nil =>
      refine ⟨rfl, rfl, ?_⟩
      omega
  | append_singleton calls call ih =>
      rw [replay_append, Phase.after_append]
      exact ih.next hthreshold call.op call.now

theorem answerAfter_eq (hthreshold : 1 ≤ settings.circuitFailureThreshold)
    (calls : List (Completed BreakerOp Bool)) (now : Int) :
    answerAfter settings calls now = (Phase.after settings calls).blocks settings now :=
  ((storedAfter_refines hthreshold calls).check now).1

theorem Refines.opened_iff {state : CircuitState} {phase : Phase}
    (h : Refines settings state phase) :
    state.status = .opened ↔ ∃ since, phase = .opened since := by
  cases phase <;> simp [h.1]

end Refinement

/-! ### What the phases say about the calls -/

section History

variable {settings : CircuitSettings}

/-- The phase is closed just below the threshold. -/
def Phase.Tells (settings : CircuitSettings) (failures : Nat) : Phase → Prop
  | .closed counted => counted = failures ∧ (failures : Int) < settings.circuitFailureThreshold
  | _ => settings.circuitFailureThreshold ≤ failures

theorem Phase.Tells.failure {failures : Nat} {phase : Phase} (h : phase.Tells settings failures)
    (now : Int) : (phase.next settings .recordFailure now).Tells settings (failures + 1) := by
  cases phase with
  | closed counted =>
      obtain ⟨rfl, -⟩ := h
      simp only [Phase.next]
      by_cases htrip : settings.circuitFailureThreshold ≤ ((counted + 1 : Nat) : Int)
      · rw [if_pos htrip]
        exact htrip
      · rw [if_neg htrip]
        exact ⟨rfl, Int.not_le.mp htrip⟩
  | opened since | halfOpen since =>
      have hcount : settings.circuitFailureThreshold ≤ (failures : Int) := h
      show settings.circuitFailureThreshold ≤ ((failures + 1 : Nat) : Int)
      omega

theorem Phase.Tells.check {failures : Nat} {phase : Phase} (h : phase.Tells settings failures)
    (now : Int) : (phase.next settings .isOpen now).Tells settings failures := by
  cases phase with
  | closed counted => exact h
  | halfOpen since => exact h
  | opened since =>
      simp only [Phase.next]
      split
      · exact h
      · exact h

theorem after_tells (hthreshold : 1 ≤ settings.circuitFailureThreshold)
    (calls : List (Completed BreakerOp Bool)) :
    (Phase.after settings calls).Tells settings (failuresSinceSuccess calls) := by
  have hnone : Phase.Tells settings 0 (.closed 0) := by
    refine ⟨rfl, ?_⟩
    omega
  induction calls using List.reverseRecOn with
  | nil => exact hnone
  | append_singleton calls call ih =>
      rw [Phase.after_append, failuresSinceSuccess_append]
      cases call.op with
      | isOpen => exact ih.check call.now
      | recordFailure => exact ih.failure call.now
      | recordSuccess =>
          have hnext : (Phase.after settings calls).next settings .recordSuccess call.now =
              .closed 0 := by
            cases Phase.after settings calls <;> rfl
          rw [hnext]
          exact hnone

/-- The call opens the circuit, for the first time or again. -/
def Opens (settings : CircuitSettings) (before : List (Completed BreakerOp Bool))
    (call : Completed BreakerOp Bool) : Prop :=
  (storedAfter settings before).status ≠ .opened ∧
    (storedAfter settings (before ++ [call])).status = .opened

instance (before : List (Completed BreakerOp Bool)) (call : Completed BreakerOp Bool) :
    Decidable (Opens settings before call) :=
  inferInstanceAs (Decidable (_ ∧ _))

/-- Only a failure opens the circuit, and its time is the one remembered. -/
theorem Phase.next_opened {phase : Phase} {op : BreakerOp} {now since : Int}
    (h : phase.next settings op now = .opened since) (hnot : ∀ t, phase ≠ .opened t) :
    since = now := by
  cases phase with
  | opened t => exact absurd rfl (hnot t)
  | closed counted =>
      cases op with
      | recordFailure =>
          simp only [Phase.next] at h
          split at h
          · cases h
            rfl
          · cases h
      | isOpen | recordSuccess => cases h
  | halfOpen t =>
      cases op with
      | recordFailure =>
          cases h
          rfl
      | isOpen | recordSuccess => cases h

theorem Opens.phase (hthreshold : 1 ≤ settings.circuitFailureThreshold)
    {before : List (Completed BreakerOp Bool)} {call : Completed BreakerOp Bool}
    (h : Opens settings before call) :
    Phase.after settings (before ++ [call]) = .opened call.now := by
  obtain ⟨hbefore, hafter⟩ := h
  obtain ⟨since, hsince⟩ := (storedAfter_refines hthreshold _).opened_iff.mp hafter
  have hnot : ∀ t, Phase.after settings before ≠ .opened t := by
    intro t ht
    exact hbefore ((storedAfter_refines hthreshold before).opened_iff.mpr ⟨t, ht⟩)
  rw [hsince]
  rw [Phase.after_append] at hsince
  rw [Phase.next_opened hsince hnot]

/-- An open circuit stays open until the timeout has run out or a success is recorded. -/
theorem stays_opened {since : Int} {before rest : List (Completed BreakerOp Bool)}
    (hopened : Phase.after settings before = .opened since)
    (hrest : ∀ call ∈ rest, call.op ≠ .recordSuccess ∧ hasElapsed settings since call.now = false) :
    Phase.after settings (before ++ rest) = .opened since := by
  induction rest using List.reverseRecOn with
  | nil => simpa using hopened
  | append_singleton rest call ih =>
      have hold := ih fun c hc => hrest c (List.mem_append_left _ hc)
      obtain ⟨hop, hrunning⟩ := hrest call (by simp)
      rw [← List.append_assoc, Phase.after_append, hold]
      cases hcall : call.op with
      | recordSuccess => exact absurd hcall hop
      | recordFailure => rfl
      | isOpen =>
          simp only [Phase.next]
          rw [if_neg (by simp [hrunning])]

end History

section Laws

variable {settings : CircuitSettings} (hthreshold : 1 ≤ settings.circuitFailureThreshold)
  (calls : List (Completed BreakerOp Bool))

include hthreshold

theorem closed_iff_failures :
    (storedAfter settings calls).status = .closed ↔
      (failuresSinceSuccess calls : Int) < settings.circuitFailureThreshold := by
  have hrefines := storedAfter_refines hthreshold calls
  have htells := after_tells hthreshold calls
  cases hphase : Phase.after settings calls with
  | closed counted =>
      rw [hphase] at hrefines htells
      simp [hrefines.1, htells.2]
  | opened since | halfOpen since =>
      rw [hphase] at hrefines htells
      have hcount : settings.circuitFailureThreshold ≤ (failuresSinceSuccess calls : Int) := htells
      simp [hrefines.1, hcount]

/-- A failed probe opens the circuit afresh. -/
theorem opened_of_halfOpen {failure : Completed BreakerOp Bool} (hop : failure.op = .recordFailure)
    (hhalf : (storedAfter settings calls).status = .halfOpen) :
    (storedAfter settings (calls ++ [failure])).status = .opened ∧
      (storedAfter settings (calls ++ [failure])).openedAt = some failure.now := by
  have hrefines := storedAfter_refines hthreshold calls
  have hnext := storedAfter_refines hthreshold (calls ++ [failure])
  rw [Phase.after_append, hop] at hnext
  cases hphase : Phase.after settings calls with
  | closed counted =>
      rw [hphase] at hrefines
      exact absurd (hrefines.1.symm.trans hhalf) (by simp)
  | opened since =>
      rw [hphase] at hrefines
      exact absurd (hrefines.1.symm.trans hhalf) (by simp)
  | halfOpen since =>
      rw [hphase] at hnext
      exact ⟨hnext.1, hnext.2.1⟩

theorem answerAfter_iff (now : Int) :
    answerAfter settings calls now = true ↔
      (storedAfter settings calls).status = .opened ∧
        ∃ openedAt, (storedAfter settings calls).openedAt = some openedAt ∧
          now - openedAt < settings.circuitHalfOpenTimeoutS * 1000000 := by
  have hrefines := storedAfter_refines hthreshold calls
  rw [answerAfter_eq hthreshold]
  cases hphase : Phase.after settings calls with
  | closed counted | halfOpen since =>
      rw [hphase] at hrefines
      simp [Phase.blocks, hrefines.1]
  | opened since =>
      rw [hphase] at hrefines
      simp [Phase.blocks, hrefines.1, hrefines.2.1, hasElapsed]

/-- Nothing is admitted until the timeout has passed, unless something succeeds. -/
theorem blocked_within_timeout {before rest : List (Completed BreakerOp Bool)}
    {opening : Completed BreakerOp Bool} {now : Int} (hcalls : calls = before ++ [opening] ++ rest)
    (hopens : Opens settings before opening) (hrest : ∀ call ∈ rest, call.op ≠ .recordSuccess)
    (hclock : (calls.map (·.now) ++ [now]).Pairwise (· ≤ ·))
    (hwithin : now - opening.now < settings.circuitHalfOpenTimeoutS * 1000000) :
    answerAfter settings calls now = true := by
  have hrunning : ∀ t, t ≤ now → hasElapsed settings opening.now t = false := by
    intro t ht
    simp only [hasElapsed, ge_iff_le, decide_eq_false_iff_not]
    omega
  have hle : ∀ call ∈ calls, call.now ≤ now := by
    intro call hmem
    exact (List.pairwise_append.mp hclock).2.2 call.now (List.mem_map_of_mem hmem) now (by simp)
  have hopened : Phase.after settings calls = .opened opening.now := by
    rw [hcalls]
    refine stays_opened (hopens.phase hthreshold) ?_
    intro call hmem
    refine ⟨hrest call hmem, hrunning call.now (hle call ?_)⟩
    rw [hcalls]
    exact List.mem_append_right _ hmem
  rw [answerAfter_eq hthreshold, hopened]
  simp [Phase.blocks, hrunning now (Int.le_refl now)]

end Laws

/--
**One call after another, the breaker does what it is specified to do.**  The circuit is
closed exactly below the threshold; a failure in the half-open state opens it again at that
failure's time; `is_open` answers true exactly within the timeout of an open circuit; and
once the circuit has opened, every check within the timeout is turned away unless a success
was recorded in between.
-/
theorem sequential_breaker_refines (settings : CircuitSettings)
    (hthreshold : 1 ≤ settings.circuitFailureThreshold)
    (calls : List (Completed BreakerOp Bool)) :
    ((storedAfter settings calls).status = .closed ↔
      (failuresSinceSuccess calls : Int) < settings.circuitFailureThreshold) ∧
    (∀ failure : Completed BreakerOp Bool, failure.op = .recordFailure →
      (storedAfter settings calls).status = .halfOpen →
        (storedAfter settings (calls ++ [failure])).status = .opened ∧
          (storedAfter settings (calls ++ [failure])).openedAt = some failure.now) ∧
    (∀ now, answerAfter settings calls now = true ↔
      (storedAfter settings calls).status = .opened ∧
        ∃ openedAt, (storedAfter settings calls).openedAt = some openedAt ∧
          now - openedAt < settings.circuitHalfOpenTimeoutS * 1000000) ∧
    (∀ before opening rest, calls = before ++ [opening] ++ rest → Opens settings before opening →
      (∀ call ∈ rest, call.op ≠ .recordSuccess) →
      ∀ now, (calls.map (·.now) ++ [now]).Pairwise (· ≤ ·) →
        now - opening.now < settings.circuitHalfOpenTimeoutS * 1000000 →
          answerAfter settings calls now = true) := by
  refine ⟨closed_iff_failures hthreshold calls, ?_, answerAfter_iff hthreshold calls, ?_⟩
  · intro failure hop hhalf
    exact opened_of_halfOpen hthreshold calls hop hhalf
  · intro before opening rest hcalls hopens hrest now hclock hwithin
    exact blocked_within_timeout hthreshold calls hcalls hopens hrest hclock hwithin

/-- Calls by one process at the given seconds. -/
def callsAt (calls : List (BreakerOp × Int)) : List (Completed BreakerOp Bool) :=
  calls.map fun (op, second) => ⟨0, op, second * 1000000, false, 0⟩

/-- With the default settings: five failures, a check, a timeout, and a failed probe. -/
theorem sequential_breaker_probe_fails :
    (1 : Int) ≤ ({} : CircuitSettings).circuitFailureThreshold ∧
      (storedAfter {} (callsAt (List.replicate 5 (.recordFailure, 0) ++
        [(.isOpen, 60), (.recordFailure, 61)]))).openedAt = some 61000000 := by
  have hthreshold : (1 : Int) ≤ ({} : CircuitSettings).circuitFailureThreshold := by decide
  refine ⟨hthreshold, ?_⟩
  exact ((sequential_breaker_refines {} hthreshold
    (callsAt (List.replicate 5 (.recordFailure, 0) ++ [(.isOpen, 60)]))).2.1
    ⟨0, .recordFailure, 61000000, false, 0⟩ rfl (by decide)).2

/--
A success recorded while the circuit is open closes it at once, so the next call goes out
two seconds after the circuit opened, well within the timeout of a minute.
-/
theorem success_admits_within_timeout :
    let failures := callsAt (List.replicate 4 (.recordFailure, 0))
    let opening : Completed BreakerOp Bool := ⟨0, .recordFailure, 0, false, 0⟩
    let success : Completed BreakerOp Bool := ⟨0, .recordSuccess, 1000000, false, 0⟩
    let calls : List (Completed BreakerOp Bool) := failures ++ [opening] ++ [success]
    Opens {} failures opening ∧ ¬ Opens {} (failures ++ [opening]) success ∧
      (calls.map Completed.now ++ [2000000]).Pairwise (· ≤ ·) ∧
      (2000000 : Int) - opening.now < ({} : CircuitSettings).circuitHalfOpenTimeoutS * 1000000 ∧
      answerAfter {} calls 2000000 = false := by
  decide

end CircuitBreaker

end GaiaOS
