/-
The session factories and the sessions they give, after `db/session.py`.

There is a factory for the primary, and one for reads, which is another if a replica is configured.
Both are made on first use, and forgotten if another event loop is running by then.  A read session
comes from the second; if that raises an `OperationalError`, from the first.  The session is
yielded within the `try` that notices.

An exception says where it was raised, so that two raised in different places are different ones.
-/
import GaiaOS.Lib.Generator
import GaiaOS.Lib.Python

namespace GaiaOS

namespace DbSession

/-- The classes of exceptions that are told apart; a subclass counts as its class. -/
inductive ExcClass
  | operationalError
  | runtimeError
  | assertionError
  | stopIteration
  | stopAsyncIteration
  | generatorExit
  | other (name : String)
  deriving DecidableEq

/-- An exception as far as one can read it. -/
structure Failure where
  excClass : ExcClass
  text : String
  deriving DecidableEq

/-- An `async_sessionmaker`.  Two that are made for one URL are two. -/
structure Factory where
  url : String
  serial : Nat
  deriving DecidableEq

/-- An exception with where it was raised. -/
inductive Exc
  | initializing (failure : Failure)
  | acquiring (factory : Factory) (failure : Failure)
  | block (failure : Failure)
  | generatorExit
  | ignoredExit
  | didNotYield
  | didNotStop
  | didNotStopAfterThrow
  | generatorRaised (cause : Exc)
  deriving DecidableEq

namespace Exc

def read : Exc → Failure
  | initializing failure => failure
  | acquiring _ failure => failure
  | block failure => failure
  | generatorExit => ⟨.generatorExit, ""⟩
  | ignoredExit => ⟨.runtimeError, "async generator ignored GeneratorExit"⟩
  | didNotYield => ⟨.runtimeError, "generator didn't yield"⟩
  | didNotStop => ⟨.runtimeError, "generator didn't stop"⟩
  | didNotStopAfterThrow => ⟨.runtimeError, "generator didn't stop after athrow()"⟩
  | generatorRaised cause =>
      ⟨.runtimeError, match cause.read.excClass with
        | .stopAsyncIteration => "async generator raised StopAsyncIteration"
        | _ => "async generator raised StopIteration"⟩

def stops (exc : Exc) : Bool :=
  exc.read.excClass = .stopIteration || exc.read.excClass = .stopAsyncIteration

end Exc

/-- What Python raises around an asynchronous generator. -/
def asyncGenerators : Generator.Protocol Exc where
  generatorExit := .generatorExit
  ignoredExit := .ignoredExit
  didNotYield := .didNotYield
  didNotStop := .didNotStop
  didNotStopAfterThrow := .didNotStopAfterThrow
  stops := Exc.stops
  generatorRaised := .generatorRaised
  stops_generatorExit := by decide

/-- What is seen of a generator of sessions. -/
inductive Event (S : Type)
  | opened (session : S)
  | closed (session : S)
  | warning (event error : String)
  deriving DecidableEq

/-- The two settings that name databases. -/
structure Settings where
  databaseUrl : Option String := none
  readReplicaDatabaseUrl : Option String := none

/-- The module's singletons.  Loops are numbered, and so are the factories made so far. -/
structure Singletons where
  asyncSessionLocal : Option Factory := none
  asyncReadSessionLocal : Option Factory := none
  engineLoop : Option Nat := none
  created : Nat := 0
  /-- There is no factory for reads alone. -/
  paired : asyncSessionLocal = none → asyncReadSessionLocal = none := by simp

/-- Where the module runs: `create_async_engine` may raise, and so may `factory()` and entering
what it returns. -/
structure Env (S : Type) where
  settings : Settings
  /-- The running event loop. -/
  loop : Nat
  repr : String → String
  createAsyncEngine : String → Except Failure Unit
  acquire : Factory → Except Failure S

/-! ### Settings -/

section Urls

variable (repr : String → String)

/-- A URL with the asyncpg driver in its scheme. -/
def rewrittenUrl (setting url : String) : Except Failure String :=
  if pyStartsWith url "postgresql://" then
    .ok ("postgresql+asyncpg://" ++ String.ofList (url.toList.drop 13))
  else if pyStartsWith url "postgres://" then
    .ok ("postgresql+asyncpg://" ++ String.ofList (url.toList.drop 11))
  else if pyStartsWith url "postgresql+asyncpg://" then .ok url
  else
    .error ⟨.runtimeError,
      setting ++ " must start with postgresql:// or postgres://; got: " ++ repr url⟩

/-- `Settings.asyncpg_url`. -/
def Settings.asyncpgUrl (settings : Settings) : Except Failure String :=
  match settings.databaseUrl.filter (· ≠ "") with
  | some url => rewrittenUrl repr "DATABASE_URL" url
  | none => .error ⟨.runtimeError, "DATABASE_URL is not set."⟩

/-- `Settings.read_asyncpg_url`. -/
def Settings.readAsyncpgUrl (settings : Settings) : Except Failure (Option String) :=
  match settings.readReplicaDatabaseUrl.filter (· ≠ "") with
  | some url => (rewrittenUrl repr "READ_REPLICA_DATABASE_URL" url).map some
  | none => .ok none

end Urls

/-! ### Factories -/

/-- `_check_loop`. -/
def checkLoop (currentLoop : Option Nat) (g : Singletons) : Singletons :=
  if g.engineLoop.isSome ∧ currentLoop.isSome ∧ g.engineLoop ≠ currentLoop then
    { created := g.created }
  else g

variable {S : Type} (env : Env S)

/-- The engine and the factory for a URL. -/
def Env.makeFactory (url : String) (serial : Nat) : Except Failure Factory := do
  env.createAsyncEngine url
  return ⟨url, serial⟩

/-- The factory for reads, with a replica and without. -/
def Env.makeReadFactory (primary : Factory) : Except Failure Factory := do
  match ← env.settings.readAsyncpgUrl env.repr with
  | some url => env.makeFactory url (primary.serial + 1)
  | none => return primary

/-- `init_engine`: how it ends, and what it leaves. -/
def Env.initEngine (currentLoop : Option Nat) (g : Singletons) :
    Except Failure Unit × Singletons :=
  let g := checkLoop currentLoop g
  match env.settings.databaseUrl with
  | none =>
      (.error ⟨.runtimeError, "DATABASE_URL is not set.  " ++
        "The database connection layer cannot be initialised without it."⟩, g)
  | some _ =>
      match env.settings.asyncpgUrl env.repr >>= fun url => env.makeFactory url g.created with
      | .error failure => (.error failure, g)
      | .ok primary =>
          match env.makeReadFactory primary with
          -- the factory for reads is still the one of before, if there was one
          | .error failure =>
              (.error failure, { g with
                asyncSessionLocal := some primary
                created := g.created + 2
                paired := by simp })
          | .ok reads =>
              (.ok (), {
                asyncSessionLocal := some primary
                asyncReadSessionLocal := some reads
                engineLoop := currentLoop
                created := g.created + 2 })

/-- `dispose_engine`. -/
def disposeEngine (g : Singletons) : Singletons := { created := g.created }

/-- `get_session_factory`. -/
def Env.getSessionFactory (g : Singletons) : Except Failure Factory × Singletons :=
  let g := checkLoop (some env.loop) g
  match g.asyncSessionLocal with
  | some factory => (.ok factory, g)
  | none =>
      match env.initEngine (some env.loop) g with
      | (.error failure, g) => (.error failure, g)
      | (.ok (), g) =>
          match g.asyncSessionLocal with
          | some factory => (.ok factory, g)
          | none => (.error ⟨.assertionError, ""⟩, g)

/-! ### Sessions -/

open Generator

/-- `async with factory() as session: yield session`. -/
def Env.sessionFrom (factory : Factory) : Generator Exc (Event S) S :=
  asyncWith ((env.acquire factory).mapError (.acquiring factory)) .opened .closed yieldOnce

/-- The handler of `get_read_session`. -/
def Env.onReadFailure (g : Singletons) (factory : Factory) (exc : Exc) :
    Option (Generator Exc (Event S) S) :=
  if exc.read.excClass = .operationalError then
    match g.asyncSessionLocal with
    | some primary =>
        if factory ≠ primary then
          some (.does (.warning "db.read_replica_failed_falling_back_to_primary" exc.read.text)
            (env.sessionFrom primary))
        else none
    | none => none
  else none

/-- `get_read_session` from the factory on. -/
def Env.readFrom (g : Singletons) (factory : Factory) : Generator Exc (Event S) S :=
  tryExcept (env.onReadFailure g factory) (env.sessionFrom factory)

/-- `get_read_session`. -/
def Env.getReadSession (g : Singletons) : Generator Exc (Event S) S :=
  let g := checkLoop (some env.loop) g
  match g.asyncReadSessionLocal.or g.asyncSessionLocal with
  | some factory => env.readFrom g factory
  | none =>
      match env.getSessionFactory g with
      | (.error failure, _) => .raised (.initializing failure)
      | (.ok factory, g) => env.readFrom g factory

/-- `get_db_session`. -/
def Env.getDbSession (g : Singletons) : Generator Exc (Event S) S :=
  match env.getSessionFactory g with
  | (.error failure, _) => .raised (.initializing failure)
  | (.ok factory, _) => env.sessionFrom factory

end DbSession

end GaiaOS
