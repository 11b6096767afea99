/-
The circuit breaker shared by any number of workers.

Called one after another, the operations do what the module says: as many failures as the
threshold since the last success leave the circuit open or half-open, and a success leaves
it closed with no failures until the next failure (`replay_counts`, `replay_closed`).
Interleaved, they are unlocked read-modify-writes of one value, and a write that goes over
what its call never saw loses a failure or revives a circuit that was just closed.

So the two laws hold in every state of every run in which each write finds the value its
call read, with no success completed since, and fail when that is given up.
-/
import GaiaOS.Resilience.CircuitBreaker

namespace GaiaOS

namespace CircuitBreaker

open SharedCell

/-- The failures completed after the last completed success. -/
def failuresSinceSuccess (calls : List (Completed BreakerOp Bool)) : Nat :=
  ((calls.reverse.takeWhile fun call => call.op ≠ .recordSuccess).filter fun call =>
    call.op = .recordFailure).length

/-- The calls that no call begun before them may outlast. -/
def isSuccess : BreakerOp → Bool
  | .recordSuccess => true
  | _ => false

/-- Enough failures since the last success, and nobody at it: the circuit is not closed. -/
def TripsAfterThreshold (settings : CircuitSettings) (s : BreakerState) : Prop :=
  s.Idle → settings.circuitFailureThreshold ≤ failuresSinceSuccess s.completed →
    (getState s.cell).status = .opened ∨ (getState s.cell).status = .halfOpen

/-- A completed success that no later-started failure follows leaves the circuit closed. -/
def SuccessSticks (s : BreakerState) : Prop :=
  ∀ (i : Nat) success, s.completed[i]? = some success → success.op = .recordSuccess →
    (∀ (j : Nat) failure, s.completed[j]? = some failure → failure.op = .recordFailure →
      ¬ i < failure.began) →
    (getState s.cell).status = .closed ∧ (getState s.cell).failureCount = 0

/-! ### One call after another -/

section Sequential

variable {settings : CircuitSettings}

theorem isOpen_written {now : Int} {state : CircuitState} {written : CircuitState}
    (h : (isOpen settings now state).1 = some written) :
    state.status = .opened ∧ written = { state with status := .halfOpen } := by
  unfold isOpen at h
  split at h
  · cases h
  · cases h
  · rename_i hstatus
    split at h
    · cases h
    · split at h
      · cases h
        exact ⟨hstatus, rfl⟩
      · cases h

/-- What one call makes of the stored state. -/
theorem getState_apply (stored : Option CircuitState) (op : BreakerOp) (now : Int) :
    getState (apply (react settings) stored op now) =
      match op with
      | .isOpen => ((isOpen settings now (getState stored)).1).getD (getState stored)
      | .recordFailure => recordFailure settings now (getState stored)
      | .recordSuccess => (recordSuccess (getState stored)).getD (getState stored) := by
  cases op with
  | isOpen =>
      show getState (((isOpen settings now (getState stored)).1.map some).getD stored) = _
      cases (isOpen settings now (getState stored)).1 <;> rfl
  | recordFailure => rfl
  | recordSuccess =>
      show getState (((recordSuccess (getState stored)).map some).getD stored) = _
      cases recordSuccess (getState stored) <;> rfl

theorem failuresSinceSuccess_append (calls : List (Completed BreakerOp Bool))
    (call : Completed BreakerOp Bool) :
    failuresSinceSuccess (calls ++ [call]) =
      match call.op with
      | .isOpen => failuresSinceSuccess calls
      | .recordFailure => failuresSinceSuccess calls + 1
      | .recordSuccess => 0 := by
  unfold failuresSinceSuccess
  rw [List.reverse_append, List.reverse_singleton, List.singleton_append, List.takeWhile_cons]
  cases hop : call.op <;> simp [hop]

/-- What a sequence of calls does to a state, by the failures since its last success. -/
structure Counts (settings : CircuitSettings) (failures : Nat) (state : CircuitState) : Prop where
  counted : failures ≤ state.failureCount
  tripped : settings.circuitFailureThreshold ≤ failures → state.status ≠ .closed

theorem Counts.failure {failures : Nat} {state : CircuitState}
    (h : Counts settings failures state) (now : Int) :
    Counts settings (failures + 1) (recordFailure settings now state) := by
  have hcount : failures + 1 ≤ state.failureCount + 1 := Nat.succ_le_succ h.counted
  unfold recordFailure
  cases hstatus : state.status with
  | opened =>
      refine ⟨hcount, ?_⟩
      intro _
      simp
  | closed | halfOpen =>
      by_cases htrip : ((state.failureCount + 1 : Nat) : Int) ≥ settings.circuitFailureThreshold
      · simp only [if_pos htrip]
        exact ⟨hcount, by simp⟩
      · simp only [if_neg htrip]
        refine ⟨hcount, ?_⟩
        intro hle
        exfalso
        omega

theorem Counts.check {failures : Nat} {state : CircuitState}
    (h : Counts settings failures state) (now : Int) :
    Counts settings failures (((isOpen settings now state).1).getD state) := by
  cases hwritten : (isOpen settings now state).1 with
  | none => exact h
  | some written =>
      obtain ⟨-, rfl⟩ := isOpen_written hwritten
      exact ⟨h.counted, by simp⟩

/-- After a success the circuit is closed and counts nothing. -/
theorem recordSuccess_closed (state : CircuitState) :
    ((recordSuccess state).getD state).status = .closed ∧
      ((recordSuccess state).getD state).failureCount = 0 := by
  unfold recordSuccess
  by_cases hclean : state.status ≠ .closed ∨ state.failureCount ≠ 0
  · rw [if_pos hclean]
    exact ⟨rfl, rfl⟩
  · rw [if_neg hclean]
    simp only [not_or, ne_eq, not_not] at hclean
    exact hclean

/-- The threshold law, one call after another. -/
theorem replay_counts (hthreshold : 1 ≤ settings.circuitFailureThreshold)
    (first : Option CircuitState) (calls : List (Completed BreakerOp Bool)) :
    Counts settings (failuresSinceSuccess calls)
      (getState (replay (react settings) first calls)) := by
  induction calls using List.reverseRecOn with
  | nil =>
      refine ⟨Nat.zero_le _, ?_⟩
      intro hle
      exfalso
      have hzero : failuresSinceSuccess [] = 0 := rfl
      rw [hzero] at hle
      omega
  | append_singleton calls call ih =>
      rw [replay_append, getState_apply, failuresSinceSuccess_append]
      cases call.op with
      | isOpen => exact ih.check call.now
      | recordFailure => exact ih.failure call.now
      | recordSuccess =>
          refine ⟨Nat.zero_le _, ?_⟩
          intro (hle : settings.circuitFailureThreshold ≤ ((0 : Nat) : Int))
          exfalso
          omega

/-- A closed circuit without failures stays so until the next failure. -/
theorem closed_apply {stored : Option CircuitState} (op : BreakerOp) (now : Int)
    (hop : op ≠ .recordFailure)
    (h : (getState stored).status = .closed ∧ (getState stored).failureCount = 0) :
    (getState (apply (react settings) stored op now)).status = .closed ∧
      (getState (apply (react settings) stored op now)).failureCount = 0 := by
  rw [getState_apply]
  cases op with
  | recordFailure => exact absurd rfl hop
  | recordSuccess => exact recordSuccess_closed _
  | isOpen =>
      have hnone : (isOpen settings now (getState stored)).1 = none := by
        unfold isOpen
        rw [h.1]
      rw [hnone]
      exact h

/-- The success law, one call after another. -/
theorem replay_closed (first : Option CircuitState) (calls : List (Completed BreakerOp Bool)) :
    ∀ (i : Nat) success, calls[i]? = some success → success.op = .recordSuccess →
      (∀ (j : Nat) call, calls[j]? = some call → i < j → call.op ≠ .recordFailure) →
      (getState (replay (react settings) first calls)).status = .closed ∧
        (getState (replay (react settings) first calls)).failureCount = 0 := by
  induction calls using List.reverseRecOn with
  | nil =>
      intro i success h
      simp at h
  | append_singleton calls call ih =>
      intro i success hi hop hafter
      rw [replay_append]
      rcases getElem?_concat_cases hi with hold | ⟨-, rfl⟩
      · have hlt := (List.getElem?_eq_some_iff.mp hold).1
        refine closed_apply call.op call.now ?_ (ih i success hold hop ?_)
        · exact hafter calls.length call (by simp) hlt
        · intro j later hj hij
          have hjlt := (List.getElem?_eq_some_iff.mp hj).1
          exact hafter j later (by rw [List.getElem?_append_left hjlt]; exact hj) hij
      · rw [getState_apply, hop]
        exact recordSuccess_closed _

end Sequential

/--
**The breaker's laws hold in every run whose writes are undisturbed.**

With a threshold of at least one, from any stored state, and for any number of workers: if
every write finds the state its call read, and no success was completed since that read,
then in every state reached enough failures since the last success have tripped the
circuit, and a success that no later-started failure follows has left it closed without
failures.
-/
theorem breaker_laws_undisturbed (settings : CircuitSettings)
    (hthreshold : 1 ≤ settings.circuitFailureThreshold) (first : Option CircuitState)
    (events : List (Event BreakerOp)) (s : BreakerState)
    (hrun : Reaches (step settings) (Undisturbed isSuccess) (State.init first) events s) :
    TripsAfterThreshold settings s ∧ SuccessSticks s := by
  have hinv : Inv (react settings) isSuccess first s := inv_of_reaches hrun
  refine ⟨?_, ?_⟩
  · intro _ hfailures
    have hcounts := replay_counts hthreshold first s.completed
    rw [← hinv.replayed] at hcounts
    have hnot := hcounts.tripped hfailures
    cases hstatus : (getState s.cell).status with
    | closed => exact absurd hstatus hnot
    | opened => exact Or.inl rfl
    | halfOpen => exact Or.inr rfl
  · intro i success hi hop hlater
    rw [hinv.replayed]
    refine replay_closed first s.completed i success hi hop ?_
    -- a failure completed after the success began after it
    intro j failure hj hij hfail
    exact hlater j failure hj hfail
      (hinv.ordered i j success failure hi hj hij (by rw [hop]; rfl))

/-- Two failures, one after the other, with a threshold of two. -/
theorem breaker_laws_two_failures :
    ∃ s, Reaches (step { circuitFailureThreshold := 2 }) (Undisturbed isSuccess) (State.init none)
        [.read 0 .recordFailure 0, .write 0, .read 1 .recordFailure 7, .write 1] s ∧
      s.Idle ∧ failuresSinceSuccess s.completed = 2 ∧
      (getState s.cell).status = .opened ∧
      TripsAfterThreshold { circuitFailureThreshold := 2 } s ∧ SuccessSticks s := by
  have hrun : Reaches (step { circuitFailureThreshold := 2 }) (Undisturbed isSuccess)
      (State.init none)
      [.read 0 .recordFailure 0, .write 0, .read 1 .recordFailure 7, .write 1] _ :=
    .head trivial rfl <| .head (by intro p hp; cases hp; exact ⟨rfl, by decide⟩) rfl <|
      .head trivial rfl <| .head (by intro p hp; cases hp; exact ⟨rfl, by decide⟩) rfl .start
  refine ⟨_, hrun, ?_, by decide, by decide, ?_⟩
  · intro process
    simp +contextual [State.endCall, State.beginCall, State.init, react]
  · exact breaker_laws_undisturbed { circuitFailureThreshold := 2 } (by decide) none _ _ hrun

/-- Five workers read before the first of them writes its failure. -/
def lostFailures : List (Event BreakerOp) :=
  (List.range 5).map (.read · .recordFailure 0) ++ (List.range 5).map .write

/-- Both find the timeout elapsed; the second is through with its probe when the first one's
half-open write arrives. -/
def staleProbe : List (Event BreakerOp) :=
  [.read 0 .isOpen 60000000, .read 1 .isOpen 60000000, .write 1,
    .read 1 .recordSuccess 60000001, .write 1, .write 0]

/--
**Interleaved freely, both laws fail.**

Five overlapping failures are counted as one and leave the circuit closed, and a late
half-open write takes back a success.
-/
theorem breaker_laws_interleaved_fail :
    (∃ s, Reaches (step {}) (fun _ _ => True) (State.init none) lostFailures s ∧
      s.cell = some ⟨.closed, 1, none⟩ ∧ ¬ TripsAfterThreshold {} s) ∧
    (∃ s, Reaches (step {}) (fun _ _ => True) (State.init (some ⟨.opened, 5, some 0⟩))
        staleProbe s ∧
      s.cell = some ⟨.halfOpen, 5, some 0⟩ ∧ ¬ SuccessSticks s) := by
  refine ⟨⟨_, Reaches.of_foldlM (fun _ _ => trivial) rfl, by decide, ?_⟩,
    ⟨_, Reaches.of_foldlM (fun _ _ => trivial) rfl, by decide, ?_⟩⟩
  · intro htrips
    have hopen := htrips ?_ (by decide)
    · revert hopen
      decide
    · intro process
      simp +contextual [State.endCall, State.beginCall, State.init, react, Function.update_apply]
  · intro hsticks
    have hclosed := hsticks 1 ⟨1, .recordSuccess, 60000001, false, 1⟩ (by decide) rfl ?_
    · revert hclosed
      decide
    · intro j failure hj
      have hmem := List.mem_of_getElem? hj
      clear hj
      revert failure
      decide

end CircuitBreaker

end GaiaOS
