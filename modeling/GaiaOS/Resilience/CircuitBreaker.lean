/-
The circuit breaker, after `resilience/circuit_breaker.py`.

The stored value is the JSON object the module writes, or nothing before the first write.
Times are microseconds.  Each of the three operations reads the stored value once, decides,
and writes at most once; what it decides is a function of the state it read and the clock,
and `react` puts the three together as calls on a shared cell.  A call starts with its read
and is over with its write, or with the read when it does not write.
-/
import GaiaOS.Lib.SharedCell

namespace GaiaOS

/-- The status literals. -/
inductive CircuitStatus
  | closed
  | opened
  | halfOpen
  deriving DecidableEq, Repr

/-- The stored object; `openedAt` is `none` for `null` and for text that is no timestamp. -/
structure CircuitState where
  status : CircuitStatus
  failureCount : Nat
  openedAt : Option Int
  deriving DecidableEq, Repr

/-- The settings the breaker reads. -/
structure CircuitSettings where
  circuitFailureThreshold : Int := 5
  circuitHalfOpenTimeoutS : Int := 60

namespace CircuitBreaker

/-- The state of a source nothing is stored for. -/
def defaultState : CircuitState := ⟨.closed, 0, none⟩

/-- `_get_state`. -/
def getState (stored : Option CircuitState) : CircuitState := stored.getD defaultState

section Operations

variable (settings : CircuitSettings)

/-- `elapsed >= settings.circuit_half_open_timeout_s`. -/
def hasElapsed (openedAt now : Int) : Bool :=
  now - openedAt ≥ settings.circuitHalfOpenTimeoutS * 1000000

/-- `is_open`: the state it writes, if it does, and its answer. -/
def isOpen (now : Int) (state : CircuitState) : Option CircuitState × Bool :=
  match state.status with
  | .closed => (none, false)
  | .halfOpen => (none, false)
  | .opened =>
      match state.openedAt with
      | none => (none, false)
      | some openedAt =>
          if hasElapsed settings openedAt now then (some { state with status := .halfOpen }, false)
          else (none, true)

/-- `record_failure`: the state it writes. -/
def recordFailure (now : Int) (state : CircuitState) : CircuitState :=
  let state := { state with failureCount := state.failureCount + 1 }
  match state.status with
  | .closed | .halfOpen =>
      if (state.failureCount : Int) ≥ settings.circuitFailureThreshold then
        { state with status := .opened, openedAt := some now }
      else state
  | .opened => state

/-- `record_success`: the state it writes, if it does. -/
def recordSuccess (state : CircuitState) : Option CircuitState :=
  if state.status ≠ .closed ∨ state.failureCount ≠ 0 then some ⟨.closed, 0, none⟩ else none

/-- The three operations. -/
inductive BreakerOp
  | isOpen
  | recordFailure
  | recordSuccess
  deriving DecidableEq, Repr

/-- A call on the shared value.  Only `is_open` has an answer; the others give `false`. -/
def react (op : BreakerOp) (now : Int) (stored : Option CircuitState) :
    Option (Option CircuitState) × Bool :=
  match op with
  | .isOpen =>
      let (written, answer) := isOpen settings now (getState stored)
      (written.map some, answer)
  | .recordFailure => (some (some (recordFailure settings now (getState stored))), false)
  | .recordSuccess => ((recordSuccess (getState stored)).map some, false)

/-- Any number of workers calling the breaker of one source. -/
abbrev BreakerState := SharedCell.State (Option CircuitState) BreakerOp Bool

def step : BreakerState → SharedCell.Event BreakerOp → Option BreakerState :=
  SharedCell.step (react settings)

end Operations

end CircuitBreaker

end GaiaOS
