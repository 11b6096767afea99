/-
What a stream hears of an investigation.

One relation says all that a step of the worker can do and one all that a step of the request can
(`WorkerMove`, `StreamMove`).  From them: a subscribed stream sends what was published
since it subscribed, up to the first replanning event, which `parse_event` does not read
(`heard_eq`).
-/
import GaiaOS.App.InvestigationsStream
import GaiaOS.Proofs.Events
import GaiaOS.Lib.Machine
import Mathlib.Data.List.TakeWhile

namespace GaiaOS

namespace InvestigationStream

open InvestigationsApi InvestigationJob InvestigationEvent

variable {rt : Runtime} {job : Job}

/-! ### What is published -/

theorem finitePayload_of_agentNode {sv : Services} {ran : Nat} {agent : String}
    {answer : Except PyError AgentOutput} {e : InvestigationEvent}
    (h : e ∈ (agentNode sv ran agent answer).events) : e.finitePayload = true := by
  cases answer with
  | error err =>
      rw [List.mem_singleton.mp h]
      rfl
  | ok output =>
      rcases List.mem_cons.mp h with rfl | h
      · rfl
      · rw [List.mem_singleton.mp h]
        rfl

/-- The nodes publish nothing with a float that is not a number. -/
theorem finitePayload_of_callNode {sv : Services} {ran : Nat} {state : TaskGraphState}
    {node : Node} {e : InvestigationEvent} (h : e ∈ (callNode sv ran state node).events) :
    e.finitePayload = true := by
  cases node with
  | supervisor =>
      rw [List.mem_singleton.mp h]
      rfl
  | airQuality => exact finitePayload_of_agentNode h
  | fanOut => cases h
  | simulation => exact finitePayload_of_agentNode h
  | synthesis =>
      rw [List.mem_singleton.mp h]
      rfl
  | critic =>
      simp only [callNode, criticNode] at h
      split at h
      · cases h
      split at h
      · cases h
      · obtain ⟨flag, -, rfl⟩ := List.mem_map.mp h
        rfl
  | replan =>
      rw [List.mem_singleton.mp h]
      rfl
  | finalize =>
      simp only [callNode, finalizeNode] at h
      split at h
      · rw [List.mem_singleton.mp h]
        rfl
      split at h
      · rw [List.mem_singleton.mp h]
        rfl
      · cases h

/-- The message a publication is handed out as. -/
def message (e : InvestigationEvent) : Message := ⟨"message", e.modelDumpJson⟩

/-- What a published event is read as: itself, unless it is a replanning event. -/
theorem parseEvent_published (rt : Runtime) {e : InvestigationEvent}
    (hfinite : e.finitePayload = true) :
    (e.isReplanning = false → parseEvent rt (message e).data = .ok e) ∧
      (e.isReplanning = true → ∃ exc, parseEvent rt (message e).data = .error exc) := by
  refine ⟨fun hreplanning => (parseEvent_dump rt e).mpr ⟨hreplanning, hfinite⟩, ?_⟩
  intro hreplanning
  cases e with
  | replanning d => exact ⟨_, parseEvent_replanning rt d⟩
  | _ => cases hreplanning

/-- The generator goes on up to the first replanning event. -/
theorem subscribeLoop_messages {events : List InvestigationEvent}
    (hfinite : ∀ e ∈ events, e.finitePayload = true) :
    (subscribeLoop rt (events.map message)).1 = events.takeWhile fun e => !e.isReplanning := by
  induction events with
  | nil => rfl
  | cons e events ih =>
      obtain ⟨he, hrest⟩ := List.forall_mem_cons.mp hfinite
      have hparse := parseEvent_published rt he
      rw [List.map_cons, subscribeLoop, if_pos (show (message e).type = "message" from rfl),
        List.takeWhile_cons]
      cases hreplanning : e.isReplanning with
      | false =>
          rw [hparse.1 hreplanning]
          simp [ih hrest]
      | true =>
          obtain ⟨exc, hexc⟩ := hparse.2 hreplanning
          rw [hexc]
          rfl

/-! ### The steps of the worker -/

/-- The effects that are due. -/
def World.due (w : World) : List Effect :=
  match w.worker.phase with
  | .working _ due => due
  | _ => []

/-- What `conclude` finds: the graph raised, or persisting the metric did, or neither. -/
def World.concludes (job : Job) (persist : WriteOutcome) (w : World) : Except PyError Unit :=
  match w.worker.phase with
  | .working run _ =>
      match run.status with
      | .raised _ exc => .error exc
      | _ => if (w.services job).database.isSome then persist.result else .ok ()
  | _ => .ok ()

/-- An event of a fanned out agent. -/
def FromAgent (e : InvestigationEvent) : Prop :=
  (∃ data, e = .agentStarted data) ∨ ∃ data, e = .agentCompleted data

/-- A step that ends an attempt with an exception. -/
inductive Fails (job : Job) (w : World) : Action → World → Prop
  | prepare {exc : PyError} (hphase : w.worker.phase = .preparing) :
      Fails job w (.prepare (.error exc)) { w with worker := w.worker.fail job }
  | interrupt {exc : PyError} {saved : Bool} {worker : Worker}
      (hexc : exc.isException = false) (hattempt : worker.attempt = w.worker.attempt) :
      Fails job w (.interrupt exc saved) { w with worker := worker.fail job }
  | conclude {exc : PyError} {persist : WriteOutcome} {worker : Worker}
      (hexc : exc.isException = false) (hconcludes : w.concludes job persist = .error exc)
      (hattempt : worker.attempt = w.worker.attempt) :
      Fails job w (.conclude persist) { w with worker := worker.fail job }
  | handle {exc : PyError} {now : Int} {markFailed : WriteOutcome} {row : Option Investigation}
      (hrow : row = if w.marksFailed job markFailed then
        w.row.map (updateInvestigationStatus now (failedFields job w exc)) else w.row) :
      Fails job w (.handle now markFailed) { w with row, worker := w.worker.fail job }

/-- **What a step of the worker does.** -/
inductive WorkerMove (job : Job) (w : World) : Action → World → Prop
  | begins {a : Action} (state : TaskGraphState) :
      WorkerMove job w a { w with worker.phase := .working (.start state) [] }
  | calls {a : Action} {kept : Bool} {run : GraphRun} {node : Node}
      (hphase : w.worker.phase = .working run []) (hnode : run.status = .running node) :
      WorkerMove job w a { w with
        worker.thread := some run.state
        worker.phase := .working (run.step (w.services job))
          (effectsOf kept (callNode (w.services job) run.history.length run.state node)) }
  | performs {now : Int} {lost : Bool} {run : GraphRun} {effect : Effect} {due : List Effect}
      (hphase : w.worker.phase = .working run (effect :: due)) :
      WorkerMove job w (.effect now lost)
        ({ w with worker.phase := .working run due }.perform job now lost effect)
  | announces {a : Action} {e : InvestigationEvent} (lost : Bool) (hagent : FromAgent e) :
      WorkerMove job w a (w.publish job e lost)
  | finishes {a : Action} {run : GraphRun} (hphase : w.worker.phase = .working run [])
      (hfinished : run.status = .finished) :
      WorkerMove job w a
        { w with worker := { w.worker with thread := some run.state, phase := .finished } }
  | handles {a : Action} {worker : Worker} {exc : PyError} (hphase : worker.phase = .handling exc) :
      WorkerMove job w a { w with worker }
  | fails {a : Action} {w' : World} (hfails : Fails job w a w') : WorkerMove job w a w'

/-- A raise of the inner `try` is handled, unless it is no `Exception`. -/
theorem WorkerMove.raise {w : World} {a : Action} {worker : Worker} {exc : PyError}
    (hfails : exc.isException = false → Fails job w a { w with worker := worker.fail job }) :
    WorkerMove job w a { w with worker := worker.raise job exc } := by
  unfold Worker.raise
  by_cases hexc : exc.isException = true
  · rw [if_pos hexc]
    exact .handles rfl
  · rw [if_neg hexc]
    exact .fails (hfails (by simpa using hexc))

theorem workerStep_move {w w' : World} {a : Action} (h : workerStep job w a = some w') :
    WorkerMove job w a w' := by
  cases a with
  | prepare outcome =>
      simp only [workerStep] at h
      split at h
      · next hphase =>
          obtain rfl := Option.some.inj h
          exact .fails (.prepare hphase)
      · obtain rfl := Option.some.inj h
        exact .begins _
      · cases h
  | node kept =>
      simp only [workerStep] at h
      split at h
      · next run hphase =>
          split at h
          · next node hstatus =>
              obtain rfl := Option.some.inj h
              exact .calls hphase hstatus
          · cases h
      · cases h
  | effect now lost =>
      simp only [workerStep] at h
      split at h
      · next run effect due hphase =>
          obtain rfl := Option.some.inj h
          exact .performs hphase
      · cases h
  | agentStarted data lost =>
      simp only [workerStep] at h
      split at h
      · obtain rfl := Option.some.inj h
        exact .announces lost (.inl ⟨data, rfl⟩)
      · cases h
  | agentCompleted data lost =>
      simp only [workerStep] at h
      split at h
      · obtain rfl := Option.some.inj h
        exact .announces lost (.inr ⟨data, rfl⟩)
      · cases h
  | interrupt exc saved =>
      simp only [workerStep] at h
      split at h
      · obtain rfl := Option.some.inj h
        exact .raise fun hexc => .interrupt hexc rfl
      · cases h
  | conclude persist =>
      simp only [workerStep] at h
      split at h
      · next run hphase =>
          split at h
          · cases h
          · next node exc hstatus =>
              obtain rfl := Option.some.inj h
              refine .raise fun hexc => .conclude hexc ?_ rfl
              unfold World.concludes
              rw [hphase]
              simp only [hstatus]
          · next hstatus =>
              split at h
              · obtain rfl := Option.some.inj h
                exact .finishes hphase hstatus
              · next exc hpersist =>
                  obtain rfl := Option.some.inj h
                  refine .raise fun hexc => .conclude hexc ?_ rfl
                  unfold World.concludes
                  rw [hphase]
                  simp only [hstatus]
                  exact hpersist
      · cases h
  | handle now markFailed =>
      simp only [workerStep] at h
      split at h
      · next exc hphase =>
          obtain rfl := Option.some.inj h
          have hworld : (if w.marksFailed job markFailed then
                w.store now (failedFields job w exc) else w) =
              { w with row := if w.marksFailed job markFailed then
                  w.row.map (updateInvestigationStatus now (failedFields job w exc))
                else w.row } := by
            split <;> rfl
          rw [hworld]
          exact .fails (.handle rfl)
      · cases h
  | look state => cases h
  | ping up => cases h
  | subscribe error => cases h
  | receive => cases h
  | disconnect => cases h

/-- **What a step of the request does**: it changes nothing but the stream. -/
inductive StreamMove (rt : Runtime) (w : World) : Action → World → Prop
  | answers {a : Action} {stream : Stream} (hnone : stream.since = none) :
      StreamMove rt w a { w with stream }
  | subscribes {error : Option PyError} :
      StreamMove rt w (.subscribe error)
        { w with stream := .subscribed w.published.length [⟨"subscribe", .int 1⟩] [] }
  | skips {a : Action} {since : Nat} {m : Message} {pending : List Message}
      {yielded : List InvestigationEvent}
      (hstream : w.stream = .subscribed since (m :: pending) yielded)
      (htype : m.type ≠ "message") :
      StreamMove rt w a { w with stream := .subscribed since pending yielded }
  | yields {a : Action} {since : Nat} {m : Message} {pending : List Message}
      {yielded : List InvestigationEvent} {event : InvestigationEvent}
      (hstream : w.stream = .subscribed since (m :: pending) yielded)
      (hparse : parseEvent rt m.data = .ok event) :
      StreamMove rt w a { w with stream := .subscribed since pending (yielded ++ [event]) }
  | ends {a : Action} {since : Nat} {m : Message} {pending : List Message}
      {yielded : List InvestigationEvent} {exc : PyError}
      (hstream : w.stream = .subscribed since (m :: pending) yielded)
      (htype : m.type = "message") (hparse : parseEvent rt m.data = .error exc) :
      StreamMove rt w a { w with stream := .ended since yielded exc }

theorem streamStep_move {w w' : World} {a : Action} (h : streamStep rt job w a = some w') :
    StreamMove rt w a w' := by
  cases a with
  | look state =>
      simp only [streamStep] at h
      split at h
      · split at h
        · obtain rfl := Option.some.inj h
          exact .answers rfl
        split at h
        · obtain rfl := Option.some.inj h
          exact .answers rfl
        split at h
        · obtain rfl := Option.some.inj h
          exact .answers rfl
        · obtain rfl := Option.some.inj h
          exact .answers rfl
      · cases h
  | ping up =>
      simp only [streamStep] at h
      split at h
      · obtain rfl := Option.some.inj h
        refine .answers ?_
        cases up <;> rfl
      · cases h
  | subscribe error =>
      simp only [streamStep] at h
      split at h
      · obtain rfl := Option.some.inj h
        exact .subscribes
      · obtain rfl := Option.some.inj h
        exact .answers rfl
      · cases h
  | receive =>
      simp only [streamStep] at h
      split at h
      · next since m pending yielded hstream =>
          by_cases htype : m.type = "message"
          · rw [if_pos htype] at h
            cases hparse : parseEvent rt m.data with
            | ok event =>
                rw [hparse] at h
                obtain rfl := Option.some.inj h
                exact .yields hstream hparse
            | error exc =>
                rw [hparse] at h
                obtain rfl := Option.some.inj h
                exact .ends hstream htype hparse
          · rw [if_neg htype] at h
            obtain rfl := Option.some.inj h
            exact .skips hstream htype
      · cases h
  | disconnect =>
      obtain rfl := Option.some.inj h
      exact .answers rfl
  | _ => cases h

/-! ### What a stream hears -/

/-- How far a stream has read what was published since it subscribed. -/
def Follows (published : List InvestigationEvent) : Stream → Prop
  | .subscribed since pending yielded =>
      since ≤ published.length ∧ (∀ e ∈ yielded, e.isReplanning = false) ∧
        ∃ rest, published.drop since = yielded ++ rest ∧
          (pending = rest.map message ∨ pending = ⟨"subscribe", .int 1⟩ :: rest.map message)
  | .ended since yielded _ =>
      since ≤ published.length ∧ (∀ e ∈ yielded, e.isReplanning = false) ∧
        ∃ e rest, published.drop since = yielded ++ e :: rest ∧ e.isReplanning = true
  | _ => True

/-- What every state reached keeps. -/
structure Tuned (w : World) : Prop where
  published : ∀ e ∈ w.published, e.finitePayload = true
  due : ∀ e, .publish e ∈ w.due → e.finitePayload = true
  follows : Follows w.published w.stream

theorem Follows.hand {published : List InvestigationEvent} {stream : Stream}
    (h : Follows published stream) (e : InvestigationEvent) :
    Follows (published ++ [e]) (stream.hand (message e)) := by
  cases stream with
  | subscribed since pending yielded =>
      obtain ⟨hsince, hyielded, rest, hdrop, hpending⟩ := h
      refine ⟨?_, hyielded, rest ++ [e], ?_, ?_⟩
      · rw [List.length_append]
        omega
      · rw [List.drop_append_of_le_length hsince, hdrop, List.append_assoc]
      · rw [List.map_append]
        rcases hpending with rfl | rfl
        · exact .inl rfl
        · exact .inr rfl
  | ended since yielded exc =>
      obtain ⟨hsince, hyielded, e', rest, hdrop, he'⟩ := h
      refine ⟨?_, hyielded, e', rest ++ [e], ?_, he'⟩
      · rw [List.length_append]
        omega
      · rw [List.drop_append_of_le_length hsince, hdrop, List.append_assoc, List.cons_append]
  | _ => trivial

theorem Tuned.publish {w : World} (h : Tuned w) {e : InvestigationEvent}
    (he : e.finitePayload = true) (lost : Bool) : Tuned (w.publish job e lost) := by
  unfold World.publish
  cases lost with
  | true => exact h
  | false =>
      refine ⟨?_, h.due, h.follows.hand e⟩
      intro e' he'
      rcases List.mem_append.mp he' with he' | he'
      · exact h.published e' he'
      · rw [List.mem_singleton.mp he']
        exact he

/-- An attempt that failed has nothing left to do. -/
theorem due_fail (w : World) (row : Option Investigation) (worker : Worker) :
    World.due { w with row, worker := worker.fail job } = [] := by
  unfold Worker.fail
  by_cases hleft : worker.attempt < job.maxRetries
  · rw [if_pos hleft]
    rfl
  · rw [if_neg hleft]
    rfl

/-- The step lemma, for the worker. -/
theorem Tuned.workerStep {w w' : World} {a : Action} (h : Tuned w)
    (hstep : workerStep job w a = some w') : Tuned w' := by
  -- a step that only moves the worker on, to where nothing is due
  have hquiet : ∀ (row : Option Investigation) (worker : Worker),
      World.due { w with row, worker } = [] → Tuned { w with row, worker } := by
    intro row worker hdue
    refine ⟨h.published, ?_, h.follows⟩
    intro e he
    rw [hdue] at he
    cases he
  cases workerStep_move hstep with
  | begins state => exact hquiet w.row _ rfl
  | @calls a kept run node hphase hnode =>
      refine ⟨h.published, ?_, h.follows⟩
      intro e he
      have hmem : .publish e ∈ effectsOf kept
          (callNode (w.services job) run.history.length run.state node) := he
      unfold effectsOf at hmem
      rcases List.mem_append.mp hmem with hstore | hpublish
      · obtain ⟨update, -, hne⟩ := List.mem_map.mp hstore
        cases hne
      · obtain ⟨e', he', heq⟩ := List.mem_map.mp hpublish
        cases heq
        exact finitePayload_of_callNode he'
  | @performs now lost run effect due hphase =>
      have hdue : w.due = effect :: due := by
        unfold World.due
        rw [hphase]
      have hrest : Tuned { w with worker.phase := .working run due } :=
        ⟨h.published, fun e he => h.due e (by rw [hdue]; exact List.mem_cons_of_mem _ he),
          h.follows⟩
      cases effect with
      | store fields => exact ⟨hrest.published, hrest.due, hrest.follows⟩
      | publish e => exact hrest.publish (h.due e (by rw [hdue]; exact List.mem_cons_self)) lost
  | announces lost hagent =>
      rcases hagent with ⟨data, rfl⟩ | ⟨data, rfl⟩
      · exact h.publish rfl lost
      · exact h.publish rfl lost
  | finishes hphase hfinished => exact hquiet w.row _ rfl
  | handles hphase =>
      refine hquiet w.row _ ?_
      unfold World.due
      rw [hphase]
  | fails hfails =>
      cases hfails with
      | prepare => exact hquiet _ _ (due_fail _ _ _)
      | interrupt => exact hquiet _ _ (due_fail _ _ _)
      | conclude => exact hquiet _ _ (due_fail _ _ _)
      | handle => exact hquiet _ _ (due_fail _ _ _)

/-- The message a stream reads next: the confirmation, or a publication. -/
theorem Follows.next {published : List InvestigationEvent} {since : Nat} {m : Message}
    {pending : List Message} {yielded : List InvestigationEvent}
    (h : Follows published (.subscribed since (m :: pending) yielded)) :
    (m = ⟨"subscribe", .int 1⟩ ∧ Follows published (.subscribed since pending yielded)) ∨
      ∃ e rest, m = message e ∧ pending = rest.map message ∧
        published.drop since = yielded ++ e :: rest := by
  obtain ⟨hsince, hyielded, rest, hdrop, hpending | hpending⟩ := h
  · cases rest with
    | nil => cases hpending
    | cons e rest =>
        obtain ⟨rfl, rfl⟩ := List.cons.inj hpending
        exact .inr ⟨e, rest, rfl, rfl, hdrop⟩
  · obtain ⟨rfl, rfl⟩ := List.cons.inj hpending
    exact .inl ⟨rfl, hsince, hyielded, rest, hdrop, .inl rfl⟩

/-- The step lemma, for the request. -/
theorem streamStep_follows {w w' : World} {a : Action}
    (hfinite : ∀ e ∈ w.published, e.finitePayload = true) (h : Follows w.published w.stream)
    (hstep : streamStep rt job w a = some w') :
    ∃ stream, w' = { w with stream } ∧ Follows w.published stream := by
  have hparse : ∀ {since : Nat} {yielded rest : List InvestigationEvent} {e : InvestigationEvent},
      w.published.drop since = yielded ++ e :: rest →
        (e.isReplanning = false → parseEvent rt (message e).data = .ok e) ∧
        (e.isReplanning = true → ∃ exc, parseEvent rt (message e).data = .error exc) := by
    intro since yielded rest e hdrop
    refine parseEvent_published rt (hfinite e (List.mem_of_mem_drop (i := since) ?_))
    rw [hdrop]
    exact List.mem_append_right _ List.mem_cons_self
  cases streamStep_move hstep with
  | @answers a stream hnone =>
      refine ⟨stream, rfl, ?_⟩
      cases stream <;> trivial
  | subscribes =>
      have hread : ∀ e ∈ ([] : List InvestigationEvent), e.isReplanning = false := by
        intro e he
        cases he
      have hdrop : w.published.drop w.published.length = [] ++ [] := List.drop_length
      exact ⟨_, rfl, le_refl _, hread, [], hdrop, .inr rfl⟩
  | skips hstream htype =>
      rw [hstream] at h
      rcases h.next with ⟨-, hfollows⟩ | ⟨e, rest, rfl, -, -⟩
      · exact ⟨_, rfl, hfollows⟩
      · exact absurd rfl htype
  | yields hstream hevent =>
      rw [hstream] at h
      rcases h.next with ⟨rfl, -⟩ | ⟨e, rest, rfl, rfl, hdrop⟩
      · cases hevent
      · cases hreplanning : e.isReplanning with
        | false =>
            rw [(hparse hdrop).1 hreplanning] at hevent
            obtain rfl := Except.ok.inj hevent
            refine ⟨_, rfl, h.1, ?_, rest, ?_, .inl rfl⟩
            · exact List.forall_mem_append.mpr
                ⟨h.2.1, List.forall_mem_singleton.mpr hreplanning⟩
            · rw [hdrop, List.append_assoc]
              rfl
        | true =>
            obtain ⟨exc, hexc⟩ := (hparse hdrop).2 hreplanning
            rw [hexc] at hevent
            cases hevent
  | ends hstream htype herror =>
      rw [hstream] at h
      rcases h.next with ⟨rfl, -⟩ | ⟨e, rest, rfl, rfl, hdrop⟩
      · exact absurd htype (by decide)
      · refine ⟨_, rfl, h.1, h.2.1, e, rest, hdrop, ?_⟩
        refine Bool.eq_true_of_not_eq_false fun hreplanning => ?_
        rw [(hparse hdrop).1 hreplanning] at herror
        cases herror

theorem Tuned.step {w w' : World} {a : Action} (h : Tuned w) (hstep : step rt job w a = some w') :
    Tuned w' := by
  unfold InvestigationStream.step at hstep
  split at hstep
  · next hworker =>
      obtain rfl := Option.some.inj hstep
      exact h.workerStep hworker
  · obtain ⟨stream, rfl, hfollows⟩ := streamStep_follows h.published h.follows hstep
    exact ⟨h.published, h.due, hfollows⟩

/-- The run lemma. -/
theorem tuned_of_reaches {allowed : World → Action → Prop} {row : Option Investigation}
    {actions : List Action} {w : World}
    (hrun : Reaches (step rt job) allowed (start row) actions w) : Tuned w := by
  have hstart : Tuned (start row) :=
    ⟨fun e he => (List.not_mem_nil he).elim, fun e he => (List.not_mem_nil he).elim, trivial⟩
  exact hrun.invariant hstart fun _ _ _ h _ hstep => h.step hstep

/-- **What a stream hears**: what was published since it subscribed, up to a replanning event. -/
theorem heard_eq {w : World} (h : Tuned w) {since : Nat} (hsince : w.stream.since = some since) :
    w.stream.heard rt = (w.published.drop since).takeWhile fun e => !e.isReplanning := by
  have hread : ∀ (yielded rest : List InvestigationEvent),
      (∀ e ∈ yielded, e.isReplanning = false) →
      (yielded ++ rest).takeWhile (fun e => !e.isReplanning) =
        yielded ++ rest.takeWhile fun e => !e.isReplanning := by
    intro yielded rest hyielded
    exact List.takeWhile_append_of_pos fun e he => by rw [hyielded e he]; rfl
  have hfollows := h.follows
  cases hstream : w.stream with
  | subscribed since' pending yielded =>
      rw [hstream] at hsince hfollows
      obtain rfl := Option.some.inj hsince
      obtain ⟨-, hyielded, rest, hdrop, hpending⟩ := hfollows
      have hfinite : ∀ e ∈ rest, e.finitePayload = true := by
        intro e he
        refine h.published e (List.mem_of_mem_drop (i := since') ?_)
        rw [hdrop]
        exact List.mem_append_right _ he
      have hloop : (subscribeLoop rt pending).1 = rest.takeWhile fun e => !e.isReplanning := by
        rcases hpending with rfl | rfl
        · exact subscribeLoop_messages hfinite
        · rw [subscribeLoop, if_neg (by decide)]
          exact subscribeLoop_messages hfinite
      rw [hdrop, hread yielded rest hyielded, ← hloop]
      rfl
  | ended since' yielded exc =>
      rw [hstream] at hsince hfollows
      obtain rfl := Option.some.inj hsince
      obtain ⟨-, hyielded, e, rest, hdrop, he⟩ := hfollows
      rw [hdrop, hread yielded _ hyielded, List.takeWhile_cons, he]
      exact (List.append_nil _).symm
  | _ =>
      rw [hstream] at hsince
      cases hsince

end InvestigationStream

end GaiaOS
