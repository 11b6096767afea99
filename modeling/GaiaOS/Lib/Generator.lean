/-
Asynchronous generators and what uses one as a context manager.

A generator is a tree: it returns, raises, does something and goes on, or yields and waits.  What
it is resumed with is nothing or an exception, which is raised where it yielded; so the exceptions
of whoever it yielded to meet the handlers around the `yield`.  `try` and `async with` are
functions of such trees.

A context manager takes the generator to its first `yield`, lets a block have what was yielded,
and resumes it once with what came of the block.  It has to end there: a generator that yields
again is closed, and the exception of the block is lost.
-/
import Mathlib.Logic.Basic

namespace GaiaOS

/-- A generator that raises `E`, does `V` and yields `α`. -/
inductive Generator (E V α : Type)
  | returned
  | raised (exc : E)
  | does (event : V) (rest : Generator E V α)
  | yielded (value : α) (resume : Option E → Generator E V α)

namespace Generator

variable {E V S α : Type}

/-! ### Statements -/

/-- `yield value`. -/
def yieldOnce (value : α) : Generator E V α :=
  .yielded value fun thrown => thrown.elim .returned .raised

/-- `try: body except ...: handler`, where the handler says which exceptions it takes. -/
def tryExcept (handler : E → Option (Generator E V α)) : Generator E V α → Generator E V α
  | .returned => .returned
  | .raised exc => (handler exc).getD (.raised exc)
  | .does event rest => .does event (tryExcept handler rest)
  | .yielded value resume => .yielded value fun thrown => tryExcept handler (resume thrown)

/-- `try: body finally: ...`. -/
def tryFinally (event : V) : Generator E V α → Generator E V α
  | .returned => .does event .returned
  | .raised exc => .does event (.raised exc)
  | .does first rest => .does first (tryFinally event rest)
  | .yielded value resume => .yielded value fun thrown => tryFinally event (resume thrown)

/-- `async with manager as value: body`, for a manager that stops no exception. -/
def asyncWith (entered : Except E S) (opened closed : S → V) (body : S → Generator E V α) :
    Generator E V α :=
  match entered with
  | .error exc => .raised exc
  | .ok value => .does (opened value) (tryFinally (closed value) (body value))

/-- A handler that takes nothing is as good as none. -/
theorem tryExcept_of_none {handler : E → Option (Generator E V α)} (h : ∀ exc, handler exc = none)
    (gen : Generator E V α) : tryExcept handler gen = gen := by
  induction gen with
  | returned => rfl
  | raised exc => rw [tryExcept, h, Option.getD_none]
  | does event rest ih => rw [tryExcept, ih]
  | yielded value resume ih =>
      rw [tryExcept]
      congr 1
      funext thrown
      exact ih thrown

/-- What is yielded is closed first, whatever the generator is resumed with. -/
theorem asyncWith_yieldOnce {opened closed : S → V} (value : S) :
    asyncWith (.ok value) opened closed (yieldOnce (E := E)) =
      .does (opened value) (.yielded value fun thrown =>
        .does (closed value) (thrown.elim .returned .raised)) := by
  unfold asyncWith yieldOnce
  dsimp only
  rw [tryFinally]
  congr 2
  funext thrown
  cases thrown with
  | none => rfl
  | some exc => rfl

/-! ### Runs -/

/-- The exceptions Python raises around a generator. -/
structure Protocol (E : Type) where
  /-- Thrown in where a generator waits that is closed. -/
  generatorExit : E
  /-- It yielded again when it was closed. -/
  ignoredExit : E
  didNotYield : E
  didNotStop : E
  didNotStopAfterThrow : E
  /-- The exceptions that end an iteration, which no generator may let out. -/
  stops : E → Bool
  /-- What comes out in the place of one. -/
  generatorRaised : E → E
  stops_generatorExit : stops generatorExit = false

/-- Where a generator gets to. -/
inductive Suspension (E V α : Type)
  | stopped
  | raised (exc : E)
  | yielded (value : α) (resume : Option E → Generator E V α)

/-- What a run yields and does, and how it ends. -/
structure Run (E V α : Type) where
  yields : List α
  events : List V
  outcome : Except E Unit

section Runs

variable (py : Protocol E)

/-- An exception that leaves a generator. -/
def Protocol.leaving (exc : E) : E := if py.stops exc then py.generatorRaised exc else exc

theorem Protocol.leaving_generatorExit : py.leaving py.generatorExit = py.generatorExit := by
  unfold Protocol.leaving
  rw [py.stops_generatorExit]
  rfl

/-- A generator up to where it waits or ends, with what it does on the way. -/
def advance : Generator E V α → List V × Suspension E V α
  | .returned => ([], .stopped)
  | .raised exc => ([], .raised (py.leaving exc))
  | .does event rest => (event :: (advance rest).1, (advance rest).2)
  | .yielded value resume => ([], .yielded value resume)

variable [DecidableEq E]

/-- `aclose()`. -/
def aclose (resume : Option E → Generator E V α) : Run E V α :=
  match advance py (resume (some py.generatorExit)) with
  | (events, .stopped) => ⟨[], events, .ok ()⟩
  | (events, .raised exc) => ⟨[], events, if exc = py.generatorExit then .ok () else .error exc⟩
  | (events, .yielded value _) => ⟨[value], events, .error py.ignoredExit⟩

/-- What comes of a block that came to `thrown`, where the generator raised `exc` in turn: an
exception of the block that ends an iteration is taken out of what it came back in. -/
def Protocol.returning (thrown : Option E) (exc : E) : E :=
  match thrown with
  | some e => if py.stops e ∧ exc = py.generatorRaised e then e else exc
  | none => exc

/-- `__aexit__`, on the generator resumed with what the block came to. -/
def aexit (thrown : Option E) (gen : Generator E V α) : Run E V α :=
  match advance py gen with
  | (events, .stopped) => ⟨[], events, .ok ()⟩
  | (events, .raised exc) => ⟨[], events, .error (py.returning thrown exc)⟩
  | (events, .yielded value resume) =>
      let closing := aclose py resume
      ⟨value :: closing.yields, events ++ closing.events,
        closing.outcome.bind fun _ =>
          .error (if thrown.isSome then py.didNotStopAfterThrow else py.didNotStop)⟩

/-- `async with asynccontextmanager(gen)() as value: block`. -/
def asContextManager (gen : Generator E V α) (block : α → Option E) : Run E V α :=
  match advance py gen with
  | (events, .stopped) => ⟨[], events, .error py.didNotYield⟩
  | (events, .raised exc) => ⟨[], events, .error exc⟩
  | (events, .yielded value resume) =>
      let exit := aexit py (block value) (resume (block value))
      ⟨value :: exit.yields, events ++ exit.events, exit.outcome⟩

variable {py} {opened closed : S → V} {block : α → Option E}

/-- An exception of the block that goes straight through comes back as it was. -/
theorem Protocol.returning_leaving (exc : E) : py.returning (some exc) (py.leaving exc) = exc := by
  unfold Protocol.returning Protocol.leaving
  by_cases hstop : py.stops exc = true
  · simp [hstop]
  · simp [hstop]

theorem asContextManager_does (event : V) (gen : Generator E V α) :
    asContextManager py (.does event gen) block =
      let run := asContextManager py gen block
      ⟨run.yields, event :: run.events, run.outcome⟩ := by
  unfold asContextManager
  rw [advance]
  cases advance py gen with
  | mk events suspension => cases suspension <;> rfl

theorem aexit_does (event : V) (thrown : Option E) (gen : Generator E V α) :
    aexit py thrown (.does event gen) =
      let run := aexit py thrown gen
      ⟨run.yields, event :: run.events, run.outcome⟩ := by
  unfold aexit
  rw [advance]
  cases advance py gen with
  | mk events suspension => cases suspension <;> rfl

/-! ### A manager whose value is yielded, used as one -/

section Managers

variable {handler : E → Option (Generator E V S)} {block : S → Option E} {value : S} {exc : E}

/-- It is not entered. -/
theorem asContextManager_not_entered (exc : E) :
    asContextManager py (asyncWith (.error exc) opened closed yieldOnce) block =
      ⟨[], [], .error (py.leaving exc)⟩ := rfl

/-- The block has the value, and what comes of the block comes of the run. -/
theorem asContextManager_entered (value : S) :
    asContextManager py (asyncWith (.ok value) opened closed yieldOnce) block =
      ⟨[value], [opened value, closed value], (block value).elim (.ok ()) .error⟩ := by
  rw [asyncWith_yieldOnce, asContextManager_does]
  unfold asContextManager
  rw [advance]
  dsimp only
  rw [aexit_does]
  unfold aexit
  cases block value with
  | none => rfl
  | some exc =>
      rw [Option.elim_some, advance]
      dsimp only
      rw [Protocol.returning_leaving]
      rfl

/-- A handler that does not take what the block raises does not matter. -/
theorem asContextManager_guarded (h : ∀ exc, block value = some exc → handler exc = none) :
    asContextManager py (tryExcept handler (asyncWith (.ok value) opened closed yieldOnce)) block =
      asContextManager py (asyncWith (.ok value) opened closed yieldOnce) block := by
  rw [asyncWith_yieldOnce, tryExcept, tryExcept, asContextManager_does, asContextManager_does]
  unfold asContextManager
  rw [advance, advance]
  cases hblock : block value with
  | none =>
      dsimp only
      rw [hblock]
      rfl
  | some exc =>
      dsimp only
      rw [hblock, Option.elim_some, tryExcept, tryExcept, h exc hblock, Option.getD_none]

/-- A handler that takes an exception of the block runs where the block did. -/
theorem asContextManager_handled {fallback : Generator E V S} (hblock : block value = some exc)
    (h : handler exc = some fallback) :
    asContextManager py (tryExcept handler (asyncWith (.ok value) opened closed yieldOnce)) block =
      let exit := aexit py (some exc) fallback
      ⟨value :: exit.yields, opened value :: closed value :: exit.events, exit.outcome⟩ := by
  rw [asyncWith_yieldOnce, tryExcept, tryExcept, asContextManager_does]
  unfold asContextManager
  rw [advance]
  dsimp only
  rw [hblock, Option.elim_some, tryExcept, tryExcept, h, Option.getD_some, aexit_does]
  rfl

/-- There it may fail to be entered, and that is what the run ends with. -/
theorem aexit_not_entered (thrown : Option E) (exc : E) :
    aexit py thrown (asyncWith (.error exc) opened closed yieldOnce) =
      ⟨[], [], .error (py.returning thrown (py.leaving exc))⟩ := rfl

/-- Or it is, and the generator is closed where it yields again. -/
theorem aexit_entered (exc : E) (value : S) :
    aexit py (some exc) (asyncWith (.ok value) opened closed yieldOnce) =
      ⟨[value], [opened value, closed value], .error py.didNotStopAfterThrow⟩ := by
  have hclosing : aclose py (fun thrown => .does (closed value)
      (thrown.elim .returned .raised : Generator E V S)) = ⟨[], [closed value], .ok ()⟩ := by
    unfold aclose
    dsimp only
    rw [Option.elim_some, advance, advance, Protocol.leaving_generatorExit]
    dsimp only
    rw [if_pos rfl]
  rw [asyncWith_yieldOnce, aexit_does]
  unfold aexit
  rw [advance]
  dsimp only
  rw [hclosing]
  rfl

end Managers

end Runs

end Generator

end GaiaOS
