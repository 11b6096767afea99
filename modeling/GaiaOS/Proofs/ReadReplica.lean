/-
How far the fallback from the replica reaches.

Without a replica no exception is taken, and a read session is a session of one factory.  With one,
the handler is meant for what acquiring its session raises, and it does serve there.  But the
session is yielded under it, so an `OperationalError` of the block the session is lent to is taken
as well: the primary's session is acquired for nobody, and the block's exception is lost.
-/
import GaiaOS.Db.Session

namespace GaiaOS

namespace DbSession

open Generator

variable {S : Type} {env : Env S} {g : Singletons}

/-! ### Where a read session comes from -/

/-- The factory of the primary, for a call in the running loop. -/
def Env.primary? (env : Env S) (g : Singletons) : Option Factory :=
  (checkLoop (some env.loop) g).asyncSessionLocal

/-- The factory of the replica: the one for reads, if it is not that of the primary. -/
def Env.replica? (env : Env S) (g : Singletons) : Option Factory :=
  (checkLoop (some env.loop) g).asyncReadSessionLocal.filter
    fun factory => some factory ≠ env.primary? g

theorem getSessionFactory_ok {factory : Factory} {g' : Singletons}
    (h : env.getSessionFactory g = (.ok factory, g')) : g'.asyncSessionLocal = some factory := by
  unfold Env.getSessionFactory at h
  dsimp only at h
  split at h
  · next found heq =>
      obtain ⟨hfactory, rfl⟩ := Prod.mk.inj h
      obtain rfl := Except.ok.inj hfactory
      exact heq
  · split at h
    · next => cases h
    · next initialised _ =>
        split at h
        · next found heq =>
            obtain ⟨hfactory, rfl⟩ := Prod.mk.inj h
            obtain rfl := Except.ok.inj hfactory
            exact heq
        · cases h

/-- Reading from the primary, there is nothing to fall back to. -/
theorem readFrom_primary {factory : Factory} (h : g.asyncSessionLocal = some factory) :
    env.readFrom g factory = env.sessionFrom factory := by
  refine tryExcept_of_none (fun exc => ?_) _
  unfold Env.onReadFailure
  rw [h]
  dsimp only
  rw [if_neg (not_not.mpr rfl), ite_self]

theorem getReadSession_of_replica {replica : Factory} (h : env.replica? g = some replica) :
    ∃ primary, env.primary? g = some primary ∧ replica ≠ primary ∧
      env.getReadSession g = env.readFrom (checkLoop (some env.loop) g) replica := by
  unfold Env.replica? at h
  obtain ⟨hread, hother⟩ := Option.filter_eq_some_iff.mp h
  unfold Env.primary? at hother ⊢
  cases hprimary : (checkLoop (some env.loop) g).asyncSessionLocal with
  | none =>
      rw [(checkLoop (some env.loop) g).paired hprimary] at hread
      cases hread
  | some primary =>
      refine ⟨primary, rfl, ?_, ?_⟩
      · rintro rfl
        simp [hprimary] at hother
      · unfold Env.getReadSession
        dsimp only
        rw [hread, Option.some_or]

/-- Without a replica, a read session is a session of one factory, or there is none. -/
theorem getReadSession_of_none (h : env.replica? g = none) :
    ∃ entered, env.getReadSession g = asyncWith entered .opened .closed yieldOnce := by
  unfold Env.getReadSession
  dsimp only
  split
  · next factory hfactory =>
      have hprimary : (checkLoop (some env.loop) g).asyncSessionLocal = some factory := by
        unfold Env.replica? Env.primary? at h
        rcases Option.or_eq_some_iff.mp hfactory with hread | ⟨-, hprimary⟩
        · by_contra hother
          rw [hread, Option.filter_some, if_pos (by simpa using Ne.symm hother)] at h
          cases h
        · exact hprimary
      exact ⟨_, readFrom_primary hprimary⟩
  · split
    · next failure _ _ => exact ⟨.error (.initializing failure), rfl⟩
    · next factory _ hgot => exact ⟨_, readFrom_primary (getSessionFactory_ok hgot)⟩

/-- A replica has a factory of its own. -/
theorem makeReadFactory_ok {primary reads : Factory} (h : env.makeReadFactory primary = .ok reads) :
    reads = primary ↔ env.settings.readReplicaDatabaseUrl.filter (· ≠ "") = none := by
  unfold Env.makeReadFactory at h
  obtain ⟨url?, hurl, hmade⟩ := ok_of_bind h
  unfold Settings.readAsyncpgUrl at hurl
  cases hreplica : env.settings.readReplicaDatabaseUrl.filter (· ≠ "") with
  | none =>
      rw [hreplica] at hurl
      obtain rfl := Except.ok.inj hurl
      exact ⟨fun _ => rfl, fun _ => (Except.ok.inj hmade).symm⟩
  | some url =>
      rw [hreplica] at hurl
      dsimp only at hurl
      cases hrewritten : rewrittenUrl env.repr "READ_REPLICA_DATABASE_URL" url with
      | error failure =>
          rw [hrewritten] at hurl
          cases hurl
      | ok rewritten =>
          rw [hrewritten] at hurl
          obtain rfl := Except.ok.inj hurl
          obtain ⟨_, -, hmade⟩ := ok_of_bind hmade
          obtain rfl := Except.ok.inj hmade
          refine ⟨fun hsame => ?_, nofun⟩
          exact absurd (congrArg Factory.serial hsame) (Nat.succ_ne_self _)

/-- **Once the engine is initialised, reads have a replica exactly if one is configured.** -/
theorem replica?_initEngine {g' : Singletons}
    (h : env.initEngine (some env.loop) g = (.ok (), g')) :
    env.replica? g' = none ↔ env.settings.readReplicaDatabaseUrl.filter (· ≠ "") = none := by
  unfold Env.initEngine at h
  dsimp only at h
  split at h
  · cases h
  · split at h
    · cases h
    · next primary _ =>
        cases hreads : env.makeReadFactory primary with
        | error failure =>
            rw [hreads] at h
            cases h
        | ok reads =>
            rw [hreads] at h
            obtain ⟨-, rfl⟩ := Prod.mk.inj h
            rw [← makeReadFactory_ok hreads]
            simp [Env.replica?, Env.primary?, checkLoop]

/-! ### Without a replica -/

/-- The singletons a process can come to, from the import of the module on. -/
inductive Reached (env : Env S) : Singletons → Prop
  | imported : Reached env {}
  | checkLoop {g : Singletons} (currentLoop : Option Nat) (h : Reached env g) :
      Reached env (checkLoop currentLoop g)
  | initEngine {g : Singletons} (currentLoop : Option Nat) (h : Reached env g) :
      Reached env (env.initEngine currentLoop g).2
  | getSessionFactory {g : Singletons} (h : Reached env g) :
      Reached env (env.getSessionFactory g).2
  | disposeEngine {g : Singletons} (h : Reached env g) : Reached env (disposeEngine g)

/-- The factory for reads, if there is one, is that of the primary. -/
def ReadsFromPrimary (g : Singletons) : Prop :=
  ∀ factory, g.asyncReadSessionLocal = some factory → g.asyncSessionLocal = some factory

theorem ReadsFromPrimary.checkLoop (h : ReadsFromPrimary g) (currentLoop : Option Nat) :
    ReadsFromPrimary (checkLoop currentLoop g) := by
  unfold DbSession.checkLoop
  split
  · exact nofun
  · exact h

theorem ReadsFromPrimary.initEngine (h : ReadsFromPrimary g) (currentLoop : Option Nat)
    (hreplica : env.settings.readReplicaDatabaseUrl.filter (· ≠ "") = none) :
    ReadsFromPrimary (env.initEngine currentLoop g).2 := by
  have hchecked := h.checkLoop currentLoop
  unfold Env.initEngine
  dsimp only
  split
  · exact hchecked
  · split
    · exact hchecked
    · next primary _ =>
        have hreads : env.makeReadFactory primary = .ok primary := by
          unfold Env.makeReadFactory Settings.readAsyncpgUrl
          rw [hreplica]
          rfl
        rw [hreads]
        exact fun _ hfactory => hfactory

theorem ReadsFromPrimary.getSessionFactory (h : ReadsFromPrimary g)
    (hreplica : env.settings.readReplicaDatabaseUrl.filter (· ≠ "") = none) :
    ReadsFromPrimary (env.getSessionFactory g).2 := by
  have hchecked := h.checkLoop (some env.loop)
  have hinitialised := hchecked.initEngine (some env.loop) hreplica
  unfold Env.getSessionFactory
  dsimp only
  split
  · exact hchecked
  · split
    · next heq =>
        rw [heq] at hinitialised
        exact hinitialised
    · next heq =>
        rw [heq] at hinitialised
        split
        · exact hinitialised
        · exact hinitialised

theorem readsFromPrimary_of_reached (h : Reached env g)
    (hreplica : env.settings.readReplicaDatabaseUrl.filter (· ≠ "") = none) :
    ReadsFromPrimary g := by
  induction h with
  | imported => exact nofun
  | checkLoop currentLoop _ ih => exact ih.checkLoop currentLoop
  | initEngine currentLoop _ ih => exact ih.initEngine currentLoop hreplica
  | getSessionFactory _ ih => exact ih.getSessionFactory hreplica
  | disposeEngine _ _ => exact nofun

/-- **Without a replica configured, no process comes to read from another factory.** -/
theorem replica?_of_reached (h : Reached env g)
    (hreplica : env.settings.readReplicaDatabaseUrl.filter (· ≠ "") = none) :
    env.replica? g = none := by
  have hreads := (readsFromPrimary_of_reached h hreplica).checkLoop (some env.loop)
  unfold Env.replica? Env.primary?
  rw [Option.filter_eq_none_iff]
  intro factory hfactory
  simp [hreads factory hfactory]

/-! ### Uses -/

/-- `async with asynccontextmanager(gen)() as session: block`. -/
def lend (gen : Generator Exc (Event S) S) (block : S → Option Failure) : Run Exc (Event S) S :=
  asContextManager asyncGenerators gen fun session => (block session).map .block

/-- `get_read_session`, used as a context manager. -/
def Env.use (env : Env S) (g : Singletons) (block : S → Option Failure) :
    Run Exc (Event S) S :=
  lend (env.getReadSession g) block

variable {block : S → Option Failure}

/-- The fallback serves acquisition, and nothing else. -/
structure Confined (env : Env S) (g : Singletons) (block : S → Option Failure) : Prop where
  once : (env.use g block).yields.length ≤ 1
  /-- If acquiring the replica's session raises an `OperationalError`, the primary's is yielded. -/
  fallsBack : ∀ replica primary text session, env.replica? g = some replica →
    env.primary? g = some primary →
    env.acquire replica = .error ⟨.operationalError, text⟩ → env.acquire primary = .ok session →
    (env.use g block).yields = [session]
  /-- What the block raises comes out as it is. -/
  propagates : ∀ session failure, (env.use g block).yields.head? = some session →
    block session = some failure → (env.use g block).outcome = .error (.block failure)

/-- The session an event opens. -/
def Event.opened? : Event S → Option S
  | .opened session => some session
  | _ => none

/-- The session an event closes. -/
def Event.closed? : Event S → Option S
  | .closed session => some session
  | _ => none

/-- A run that lends one session at most, closes it, and ends the way the block does. -/
inductive Lends (block : S → Option Failure) : Run Exc (Event S) S → Prop
  | nothing (events : List (Event S)) (exc : Exc)
      (closes : events.filterMap Event.opened? = events.filterMap Event.closed?) :
      Lends block ⟨[], events, .error exc⟩
  | one (session : S) (events : List (Event S))
      (closes : events.filterMap Event.opened? = events.filterMap Event.closed?) :
      Lends block ⟨[session], events, ((block session).map Exc.block).elim (.ok ()) .error⟩

namespace Lends

variable {run : Run Exc (Event S) S}

theorem once (h : Lends block run) : run.yields.length ≤ 1 := by
  cases h with
  | nothing events exc closes => exact Nat.zero_le 1
  | one session events closes => exact le_refl 1

theorem propagates (h : Lends block run) {session : S} {failure : Failure}
    (hyield : run.yields.head? = some session) (hblock : block session = some failure) :
    run.outcome = .error (.block failure) := by
  cases h with
  | nothing events exc closes => cases hyield
  | one lent events closes =>
      obtain rfl := Option.some.inj hyield
      dsimp only
      rw [hblock]
      rfl

theorem closes (h : Lends block run) :
    run.events.filterMap Event.opened? = run.events.filterMap Event.closed? := by
  cases h with
  | nothing events exc closes => exact closes
  | one session events closes => exact closes

/-- A warning before it changes nothing. -/
theorem warning {gen : Generator Exc (Event S) S} (h : Lends block (lend gen block))
    (event error : String) : Lends block (lend (.does (.warning event error) gen) block) := by
  have hrun : lend (.does (.warning event error) gen) block =
      ⟨(lend gen block).yields, .warning event error :: (lend gen block).events,
        (lend gen block).outcome⟩ := asContextManager_does _ _
  rw [hrun]
  generalize lend gen block = run at h ⊢
  cases h with
  | nothing events exc closes => exact .nothing _ _ closes
  | one session events closes => exact .one _ _ closes

end Lends

/-- A session that is yielded with no handler above it. -/
theorem lends_asyncWith (entered : Except Exc S) :
    Lends block (lend (asyncWith entered .opened .closed yieldOnce) block) := by
  unfold lend
  cases entered with
  | error exc =>
      rw [asContextManager_not_entered]
      exact .nothing [] _ rfl
  | ok session =>
      rw [asContextManager_entered]
      exact .one session _ rfl

theorem lends_sessionFrom (factory : Factory) :
    Lends block (lend (env.sessionFrom factory) block) := lends_asyncWith _

theorem sessionFrom_ok {factory : Factory} {session : S} (h : env.acquire factory = .ok session) :
    env.sessionFrom factory = asyncWith (.ok session) .opened .closed yieldOnce := by
  unfold Env.sessionFrom
  rw [h]
  rfl

theorem sessionFrom_error {factory : Factory} {failure : Failure}
    (h : env.acquire factory = .error failure) :
    env.sessionFrom factory =
      asyncWith (.error (.acquiring factory failure)) .opened .closed yieldOnce := by
  unfold Env.sessionFrom
  rw [h]
  rfl

theorem use_eq_of_replica {replica : Factory} (h : env.replica? g = some replica) :
    env.use g block = lend (env.readFrom (checkLoop (some env.loop) g) replica) block := by
  obtain ⟨primary, -, -, hread⟩ := getReadSession_of_replica h
  unfold Env.use
  rw [hread]

/-- What the handler takes, it answers with a warning and the primary's session. -/
theorem onReadFailure_eq {replica primary : Factory} (h : env.replica? g = some replica)
    (hprimary : env.primary? g = some primary) (exc : Exc) :
    env.onReadFailure (checkLoop (some env.loop) g) replica exc =
      if exc.read.excClass = .operationalError then
        some (.does (.warning "db.read_replica_failed_falling_back_to_primary" exc.read.text)
          (env.sessionFrom primary))
      else none := by
  obtain ⟨found, hfound, hne, -⟩ := getReadSession_of_replica h
  obtain rfl : found = primary := Option.some.inj (hfound.symm.trans hprimary)
  unfold Env.primary? at hprimary
  unfold Env.onReadFailure
  rw [hprimary]
  dsimp only
  rw [if_pos hne]

/-! ### The three ways through, with a replica -/

section Replica

variable {replica : Factory}

/-- Its session cannot be acquired. -/
theorem use_of_not_acquired (h : env.replica? g = some replica) {primary : Factory}
    (hprimary : env.primary? g = some primary) {failure : Failure}
    (hacquire : env.acquire replica = .error failure) :
    env.use g block =
      lend
        (if failure.excClass = .operationalError then
          .does (.warning "db.read_replica_failed_falling_back_to_primary" failure.text)
            (env.sessionFrom primary)
        else asyncWith (.error (.acquiring replica failure)) .opened .closed yieldOnce)
        block := by
  rw [use_eq_of_replica h]
  unfold Env.readFrom
  rw [sessionFrom_error hacquire]
  unfold asyncWith
  rw [tryExcept, onReadFailure_eq h hprimary, Exc.read]
  congr 1
  by_cases hclass : failure.excClass = .operationalError
  · rw [if_pos hclass, if_pos hclass]
    rfl
  · rw [if_neg hclass, if_neg hclass]
    rfl

/-- It is acquired, and the block raises nothing the handler takes. -/
theorem use_of_untaken (h : env.replica? g = some replica) {session : S}
    (hacquire : env.acquire replica = .ok session)
    (hblock : ∀ text, block session ≠ some ⟨.operationalError, text⟩) :
    env.use g block = lend (asyncWith (.ok session) .opened .closed yieldOnce) block := by
  obtain ⟨primary, hprimary, -⟩ := getReadSession_of_replica h
  rw [use_eq_of_replica h]
  unfold Env.readFrom
  rw [sessionFrom_ok hacquire]
  refine asContextManager_guarded fun exc hexc => ?_
  obtain ⟨⟨excClass, text⟩, hfailure, rfl⟩ := Option.map_eq_some_iff.mp hexc
  rw [onReadFailure_eq h hprimary]
  refine if_neg fun hclass => hblock text ?_
  obtain rfl : excClass = .operationalError := hclass
  exact hfailure

/-- It is acquired, and the block raises what the handler takes. -/
theorem use_of_taken (h : env.replica? g = some replica) {primary : Factory}
    (hprimary : env.primary? g = some primary) {session : S} {text : String}
    (hacquire : env.acquire replica = .ok session)
    (hblock : block session = some ⟨.operationalError, text⟩) :
    let exit := aexit asyncGenerators (some (.block ⟨.operationalError, text⟩))
      (env.sessionFrom primary)
    env.use g block = ⟨session :: exit.yields,
      .opened session :: .closed session ::
        .warning "db.read_replica_failed_falling_back_to_primary" text :: exit.events,
      exit.outcome⟩ := by
  have hhandler := onReadFailure_eq h hprimary (.block ⟨.operationalError, text⟩)
  rw [use_eq_of_replica h]
  unfold Env.readFrom lend
  rw [sessionFrom_ok hacquire, asContextManager_handled (by rw [hblock]; rfl) hhandler, aexit_does]
  rfl

end Replica

/-! ### When it is confined -/

/-- The replica's session is lent to a block that raises what the handler takes. -/
def TakenFromBlock (env : Env S) (g : Singletons) (block : S → Option Failure) : Prop :=
  ∃ replica session text, env.replica? g = some replica ∧ env.acquire replica = .ok session ∧
    block session = some ⟨.operationalError, text⟩

theorem lends_of_not_taken (h : ¬ TakenFromBlock env g block) : Lends block (env.use g block) := by
  cases hreplica : env.replica? g with
  | none =>
      obtain ⟨entered, hread⟩ := getReadSession_of_none hreplica
      unfold Env.use
      rw [hread]
      exact lends_asyncWith entered
  | some replica =>
      obtain ⟨primary, hprimary, -⟩ := getReadSession_of_replica hreplica
      cases hacquire : env.acquire replica with
      | error failure =>
          rw [use_of_not_acquired hreplica hprimary hacquire]
          split_ifs
          · exact (lends_sessionFrom primary).warning _ _
          · exact lends_asyncWith _
      | ok session =>
          rw [use_of_untaken hreplica hacquire fun text hblock =>
            h ⟨replica, session, text, hreplica, hacquire, hblock⟩]
          exact lends_asyncWith _

/-- The fallback serves acquisition, whatever the block does. -/
theorem use_fallsBack {replica primary : Factory} {text : String} {session : S}
    (hreplica : env.replica? g = some replica) (hprimary : env.primary? g = some primary)
    (hfails : env.acquire replica = .error ⟨.operationalError, text⟩)
    (hacquire : env.acquire primary = .ok session) : (env.use g block).yields = [session] := by
  rw [use_of_not_acquired hreplica hprimary hfails, if_pos rfl, sessionFrom_ok hacquire]
  unfold lend
  rw [asContextManager_does, asContextManager_entered]

/-- Acquiring the primary's session raises nothing that passes for the block's exception. -/
theorem returning_ne_block {primary : Factory} {text : String} (failure : Failure) :
    asyncGenerators.returning (some (.block ⟨.operationalError, text⟩))
        (asyncGenerators.leaving (.acquiring primary failure)) ≠
      .block ⟨.operationalError, text⟩ := by
  unfold Protocol.returning
  dsimp only
  rw [if_neg fun hstops => absurd hstops.1 (by simp [asyncGenerators, Exc.stops, Exc.read])]
  unfold Protocol.leaving
  split_ifs
  · exact nofun
  · exact nofun

theorem not_confined_of_taken (h : TakenFromBlock env g block) : ¬ Confined env g block := by
  obtain ⟨replica, session, text, hreplica, hacquire, hblock⟩ := h
  obtain ⟨primary, hprimary, -⟩ := getReadSession_of_replica hreplica
  have huse := use_of_taken hreplica hprimary hacquire hblock
  intro hconfined
  cases hfallback : env.acquire primary with
  | ok spare =>
      -- the primary's session is yielded as well
      have honce := hconfined.once
      rw [huse, sessionFrom_ok hfallback, aexit_entered] at honce
      exact absurd honce (by simp)
  | error failure =>
      have houtcome := hconfined.propagates session _ (by rw [huse]; rfl) hblock
      rw [huse, sessionFrom_error hfallback, aexit_not_entered] at houtcome
      exact returning_ne_block failure (Except.error.inj houtcome)

/--
**The fallback is confined to acquisition unless the replica's session is lent to a block that
raises an `OperationalError`.**
-/
theorem confined_iff (env : Env S) (g : Singletons) (block : S → Option Failure) :
    Confined env g block ↔ ¬ TakenFromBlock env g block := by
  constructor
  · intro hconfined htaken
    exact not_confined_of_taken htaken hconfined
  · intro huntaken
    have hlends : Lends block (env.use g block) := lends_of_not_taken huntaken
    exact ⟨hlends.once, fun _ _ _ _ => use_fallsBack, fun _ _ => hlends.propagates⟩

/-- A session of the primary, which is not yielded under a handler, always lends. -/
theorem lends_getDbSession (env : Env S) (g : Singletons) (block : S → Option Failure) :
    Lends block (lend (env.getDbSession g) block) := by
  unfold Env.getDbSession
  split
  · next failure _ _ => exact lends_asyncWith (.error (.initializing failure))
  · next factory _ _ => exact lends_sessionFrom factory

/-- Two databases that answer, and a session named after the one it is with. -/
def replicated : Env String where
  settings :=
    { databaseUrl := some "postgresql://primary/gaiaos"
      readReplicaDatabaseUrl := some "postgresql://replica/gaiaos" }
  loop := 0
  repr := id
  createAsyncEngine _ := .ok ()
  acquire factory := .ok factory.url

/-- The connection to the replica is lost while the block has its session.  The block's exception
is taken for a failed acquisition. -/
theorem connection_lost :
    let run := replicated.use (replicated.initEngine (some 0) {}).2 fun _ =>
      some ⟨.operationalError, "server closed the connection unexpectedly"⟩
    run.yields =
        ["postgresql+asyncpg://replica/gaiaos", "postgresql+asyncpg://primary/gaiaos"] ∧
      run.outcome = .error .didNotStopAfterThrow ∧
      ¬ Confined replicated (replicated.initEngine (some 0) {}).2 fun _ =>
        some ⟨.operationalError, "server closed the connection unexpectedly"⟩ := by
  refine ⟨by decide +kernel, by rfl, fun hconfined => ?_⟩
  exact absurd hconfined.once (by decide +kernel)

/-- Every session that a use opens, it closes. -/
theorem use_closes (env : Env S) (g : Singletons) (block : S → Option Failure) :
    (env.use g block).events.filterMap Event.opened? =
      (env.use g block).events.filterMap Event.closed? := by
  by_cases htaken : TakenFromBlock env g block
  · obtain ⟨replica, session, text, hreplica, hacquire, hblock⟩ := htaken
    obtain ⟨primary, hprimary, -⟩ := getReadSession_of_replica hreplica
    rw [use_of_taken hreplica hprimary hacquire hblock]
    cases hfallback : env.acquire primary with
    | ok spare =>
        rw [sessionFrom_ok hfallback, aexit_entered]
        rfl
    | error failure =>
        rw [sessionFrom_error hfallback, aexit_not_entered]
        rfl
  · exact (lends_of_not_taken htaken).closes

end DbSession

end GaiaOS
