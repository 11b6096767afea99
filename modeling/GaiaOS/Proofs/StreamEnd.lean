/-
Which streams hear the end of their investigation.

A stream hears the end exactly if `done` is published after it subscribed, with no replanning
event in between.  Nothing else is looked at: not the status at the time of the subscription, and
not whether the job failed, which is stored and never published.
-/
import GaiaOS.Proofs.StreamHearing
import GaiaOS.Proofs.ReplanLoop

namespace GaiaOS

/-- The event an investigation ends with. -/
def InvestigationEvent.isDone : InvestigationEvent → Bool
  | .done _ => true
  | _ => false

namespace InvestigationStream

open InvestigationsApi InvestigationJob InvestigationEvent

variable {rt : Runtime} {job : Job}

/-! ### When the end is heard -/

/-- `done` is among some events before any replanning event. -/
def DoneInTime (events : List InvestigationEvent) : Prop :=
  ∃ before d after, events = before ++ .done d :: after ∧
    ∀ e ∈ before, e.isReplanning = false

/-- The stored status is final, the worker is through, and a stream that subscribed is not told
and never will be. -/
structure Missed (rt : Runtime) (w : World) : Prop where
  terminal : w.Terminal
  finished : w.worker.phase = .finished
  subscribed : w.stream.since.isSome = true
  deaf : ∀ e ∈ w.stream.heard rt, e.isDone = false

theorem doneInTime_iff (events : List InvestigationEvent) :
    DoneInTime events ↔ ∃ e ∈ events.takeWhile (fun e => !e.isReplanning), e.isDone = true := by
  constructor
  · rintro ⟨before, d, after, rfl, hbefore⟩
    refine ⟨.done d, ?_, rfl⟩
    rw [List.takeWhile_append_of_pos fun e he => by rw [hbefore e he]; rfl, List.takeWhile_cons]
    exact List.mem_append_right _ List.mem_cons_self
  · rintro ⟨e, he, hdone⟩
    obtain ⟨d, rfl⟩ : ∃ d, e = .done d := by
      cases e with
      | done d => exact ⟨d, rfl⟩
      | _ => cases hdone
    obtain ⟨before, after, hsplit⟩ := List.append_of_mem he
    refine ⟨before, d, after ++ events.dropWhile fun e => !e.isReplanning, ?_, ?_⟩
    · calc events
          = events.takeWhile (fun e => !e.isReplanning) ++
              events.dropWhile (fun e => !e.isReplanning) := List.takeWhile_append_dropWhile.symm
        _ = before ++ .done d :: (after ++ events.dropWhile fun e => !e.isReplanning) := by
            rw [hsplit, List.append_assoc, List.cons_append]
    · intro e he
      have hmem : e ∈ events.takeWhile fun e => !e.isReplanning := by
        rw [hsplit]
        exact List.mem_append_left _ he
      simpa using List.mem_takeWhile_imp hmem

/-- A stream misses the end exactly if `done` did not come in time after its subscription. -/
theorem missed_iff {w : World} (h : Tuned w) :
    Missed rt w ↔ w.Terminal ∧ w.worker.phase = .finished ∧
      ∃ since, w.stream.since = some since ∧ ¬ DoneInTime (w.published.drop since) := by
  constructor
  · rintro ⟨hterminal, hfinished, hsubscribed, hdeaf⟩
    obtain ⟨since, hsince⟩ := Option.isSome_iff_exists.mp hsubscribed
    refine ⟨hterminal, hfinished, since, hsince, ?_⟩
    rw [doneInTime_iff, ← heard_eq h hsince]
    rintro ⟨e, he, hdone⟩
    rw [hdeaf e he] at hdone
    cases hdone
  · rintro ⟨hterminal, hfinished, since, hsince, hlate⟩
    refine ⟨hterminal, hfinished, by rw [hsince]; rfl, ?_⟩
    intro e he
    rw [heard_eq h hsince] at he
    refine Bool.eq_false_iff.mpr fun hdone => hlate ?_
    exact (doneInTime_iff _).mpr ⟨e, he, hdone⟩

/-! ### Runs in which no stream misses the end -/

/-- `done` was published. -/
def World.Announced (w : World) : Prop := ∃ e ∈ w.published, e.isDone = true

/--
The steps after which every stream still hears the end: a stream subscribes before `done` is
published; nothing replans while it listens; the publication of `done` is not lost; and no attempt
fails for good with a final status stored and `done` not published.
-/
def Allowed (job : Job) (w : World) : Action → Prop
  | .subscribe _ => ¬ w.Announced
  | .effect _ lost => ∀ e, w.due.head? = some (.publish e) →
      (e.isReplanning = true → w.stream.since = none) ∧ (e.isDone = true → lost = false)
  | .prepare (.error _) => w.isTerminalFailure job = true → w.Terminal → w.Announced
  | .interrupt exc _ => exc.isException = false → w.isTerminalFailure job = true → w.Terminal →
      w.Announced
  | .conclude persist => ∀ exc, w.concludes job persist = .error exc → exc.isException = false →
      w.isTerminalFailure job = true → w.Terminal → w.Announced
  | .handle _ markFailed => w.isTerminalFailure job = true →
      (w.Terminal ∨ w.marksFailed job markFailed = true) → w.Announced
  | _ => True

instance (w : World) : Decidable w.Announced :=
  inferInstanceAs (Decidable (∃ e ∈ w.published, e.isDone = true))

instance (w : World) : Decidable w.Terminal :=
  match hrow : w.row with
  | none => .isFalse fun ⟨_, h, _⟩ => by rw [hrow] at h; cases h
  | some row =>
      decidable_of_iff (row.status = "complete" ∨ row.status = "failed")
        ⟨fun h => ⟨row, hrow, h⟩, fun ⟨_, h, hstatus⟩ => by
          rw [hrow] at h
          cases h
          exact hstatus⟩

instance (job : Job) (w : World) : (a : Action) → Decidable (Allowed job w a)
  | .subscribe _ => inferInstanceAs (Decidable (¬ w.Announced))
  | .effect _ lost =>
      match hhead : w.due.head? with
      | some (.publish e) =>
          decidable_of_iff ((e.isReplanning = true → w.stream.since = none) ∧
              (e.isDone = true → lost = false))
            ⟨fun h e' he' => by rw [hhead] at he'; cases he'; exact h, fun h => h e hhead⟩
      | some (.store _) => .isTrue fun e he => by rw [hhead] at he; cases he
      | none => .isTrue fun e he => by rw [hhead] at he; cases he
  | .prepare (.error _) =>
      inferInstanceAs (Decidable (w.isTerminalFailure job = true → w.Terminal → w.Announced))
  | .prepare (.ok _) => .isTrue trivial
  | .interrupt exc _ =>
      inferInstanceAs (Decidable (exc.isException = false → w.isTerminalFailure job = true →
        w.Terminal → w.Announced))
  | .conclude persist =>
      match hconcludes : w.concludes job persist with
      | .error exc =>
          decidable_of_iff (exc.isException = false → w.isTerminalFailure job = true →
              w.Terminal → w.Announced)
            ⟨fun h exc' hexc' => by rw [hconcludes] at hexc'; cases hexc'; exact h,
              fun h => h exc hconcludes⟩
      | .ok _ => .isTrue fun exc hexc => by rw [hconcludes] at hexc; cases hexc
  | .handle _ markFailed =>
      inferInstanceAs (Decidable (w.isTerminalFailure job = true →
        (w.Terminal ∨ w.marksFailed job markFailed = true) → w.Announced))
  | .node _ => .isTrue trivial
  | .agentStarted _ _ => .isTrue trivial
  | .agentCompleted _ _ => .isTrue trivial
  | .look _ => .isTrue trivial
  | .ping _ => .isTrue trivial
  | .receive => .isTrue trivial
  | .disconnect => .isTrue trivial

/-- A run that is over published `done`, or is about to. -/
def Concluding (w : World) : Prop :=
  ∀ run due, w.worker.phase = .working run due → run.status = .finished →
    w.Announced ∨ ∃ e, .publish e ∈ due ∧ e.isDone = true

/-- `done` was not published before a stream subscribed, and nothing replanned afterwards. -/
structure InOrder (w : World) : Prop where
  since_le : ∀ since, w.stream.since = some since → since ≤ w.published.length
  before : ∀ since, w.stream.since = some since → ∀ e ∈ w.published.take since, e.isDone = false
  after : ∀ since, w.stream.since = some since →
    ∀ e ∈ w.published.drop since, e.isReplanning = false

/-- What an allowed run keeps. -/
structure InTime (w : World) : Prop where
  concluding : Concluding w
  announced : w.worker.phase = .finished → w.Terminal → w.Announced
  order : InOrder w

/-- The node after which a run is over is `finalize`, and it publishes `done`. -/
theorem done_of_finished {sv : Services} {run : GraphRun} {node : Node} (kept : Bool)
    (hnode : run.status = .running node) (hfinished : (run.step sv).status = .finished) :
    ∃ e, .publish e ∈ effectsOf kept (callNode sv run.history.length run.state node) ∧
      e.isDone = true := by
  unfold GraphRun.step GraphRun.conclude at hfinished
  rw [hnode] at hfinished
  simp only at hfinished
  cases hresult : (callNode sv run.history.length run.state node).result with
  | error exc =>
      rw [hresult] at hfinished
      cases hfinished
  | ok update =>
      rw [hresult] at hfinished
      cases hnext : nextNode sv (run.state.apply update) node with
      | some next =>
          simp only [hnext] at hfinished
          cases hfinished
      | none =>
          -- only `finalize` has no successor
          obtain rfl : node = .finalize := by
            cases node <;> first | rfl | cases hnext
          refine ⟨.done ⟨run.state.investigationId, "complete"⟩, ?_, rfl⟩
          unfold effectsOf
          refine List.mem_append_right _ (List.mem_map_of_mem ?_)
          simp only [callNode, finalizeNode] at hresult ⊢
          split at hresult
          · exact List.mem_singleton.mpr rfl
          split at hresult
          · exact List.mem_singleton.mpr rfl
          · cases hresult

theorem since_hand (m : Message) (stream : Stream) : (stream.hand m).since = stream.since := by
  cases stream <;> rfl

/-- A publication leaves the worker and the row alone, and what was announced stays so. -/
theorem publish_spec (job : Job) (w : World) (e : InvestigationEvent) (lost : Bool) :
    (w.publish job e lost).worker = w.worker ∧ (w.publish job e lost).row = w.row ∧
      (w.publish job e lost).stream.since = w.stream.since ∧
      (w.publish job e lost).published = w.published ++ (if lost then [] else [e]) := by
  unfold World.publish
  cases lost with
  | true => exact ⟨rfl, rfl, rfl, (List.append_nil _).symm⟩
  | false => exact ⟨rfl, rfl, since_hand _ _, rfl⟩

theorem World.Announced.publish {w : World} (h : w.Announced) (e : InvestigationEvent)
    (lost : Bool) : (w.publish job e lost).Announced := by
  obtain ⟨e', he', hdone⟩ := h
  refine ⟨e', ?_, hdone⟩
  rw [(publish_spec job w e lost).2.2.2]
  exact List.mem_append_left _ he'

theorem InOrder.publish {w : World} (h : InOrder w) {e : InvestigationEvent} (lost : Bool)
    (hreplanning : e.isReplanning = true → w.stream.since = none) :
    InOrder (w.publish job e lost) := by
  obtain ⟨-, -, hstream, hpublished⟩ := publish_spec job w e lost
  refine ⟨?_, ?_, ?_⟩
  · intro since hsince
    rw [hstream] at hsince
    rw [hpublished, List.length_append]
    exact (h.since_le since hsince).trans (Nat.le_add_right _ _)
  · intro since hsince e' he'
    rw [hstream] at hsince
    rw [hpublished, List.take_append_of_le_length (h.since_le since hsince)] at he'
    exact h.before since hsince e' he'
  · intro since hsince e' he'
    rw [hstream] at hsince
    rw [hpublished, List.drop_append_of_le_length (h.since_le since hsince)] at he'
    rcases List.mem_append.mp he' with he' | he'
    · exact h.after since hsince e' he'
    · cases lost with
      | true => cases he'
      | false =>
          rw [List.mem_singleton.mp he']
          refine Bool.eq_false_iff.mpr fun hyes => ?_
          rw [hreplanning hyes] at hsince
          cases hsince

/-- A step to a phase in which no node is at work. -/
theorem InTime.idle {w : World} (h : InTime w) (row : Option Investigation) {worker : Worker}
    (hphase : ∀ run due, worker.phase ≠ .working run due)
    (hannounced : worker.phase = .finished → World.Terminal { w with row, worker } →
      w.Announced) : InTime { w with row, worker } where
  concluding := fun run due hworking => absurd hworking (hphase run due)
  announced := hannounced
  order := ⟨h.order.since_le, h.order.before, h.order.after⟩

/-- An attempt that fails, for good or not. -/
theorem InTime.fail {w : World} (h : InTime w) (row : Option Investigation) {worker : Worker}
    (hattempt : worker.attempt = w.worker.attempt)
    (hannounced : w.isTerminalFailure job = true → World.Terminal { w with row } →
      w.Announced) : InTime { w with row, worker := worker.fail job } := by
  unfold Worker.fail
  by_cases hleft : worker.attempt < job.maxRetries
  · rw [if_pos hleft]
    exact h.idle row (fun run due hworking => by cases hworking) fun hfinished => by
      cases hfinished
  · rw [if_neg hleft]
    refine h.idle row (fun run due hworking => by cases hworking) fun _ hterminal => ?_
    refine hannounced ?_ hterminal
    unfold World.isTerminalFailure
    rw [← hattempt]
    exact decide_eq_true (not_lt.mp hleft)

/-- Every way in which an attempt fails. -/
theorem InTime.fails {w w' : World} {a : Action} (h : InTime w) (hallowed : Allowed job w a)
    (hfails : Fails job w a w') : InTime w' := by
  cases hfails with
  | prepare hphase => exact h.fail w.row rfl hallowed
  | interrupt hexc hattempt => exact h.fail w.row hattempt (hallowed hexc)
  | conclude hexc hconcludes hattempt =>
      exact h.fail w.row hattempt (hallowed _ hconcludes hexc)
  | @handle exc now markFailed row hrow =>
      refine h.fail row rfl fun hlast hterminal => hallowed hlast ?_
      by_cases hmarks : w.marksFailed job markFailed = true
      · exact .inr hmarks
      · rw [if_neg hmarks] at hrow
        rw [hrow] at hterminal
        exact .inl hterminal

/-- An update of the row that was due. -/
theorem InTime.performStore {w : World} {now : Int} {lost : Bool} {run : GraphRun}
    {fields : StatusFields} {due : List Effect} (h : InTime w)
    (hphase : w.worker.phase = .working run (.store fields :: due)) :
    InTime ({ w with worker.phase := .working run due }.perform job now lost (.store fields)) := by
  refine ⟨?_, (fun hfinished => by cases hfinished),
    h.order.since_le, h.order.before, h.order.after⟩
  intro run' due' hworking hfinished
  cases hworking
  rcases h.concluding run _ hphase hfinished with hannounced | ⟨e, he, hdone⟩
  · exact .inl hannounced
  · rcases List.mem_cons.mp he with he | he
    · cases he
    · exact .inr ⟨e, he, hdone⟩

/-- A publication that was due; that of `done` is not lost. -/
theorem InTime.performPublish {w : World} {now : Int} {lost : Bool} {run : GraphRun}
    {e : InvestigationEvent} {due : List Effect} (h : InTime w)
    (hphase : w.worker.phase = .working run (.publish e :: due))
    (hreplanning : e.isReplanning = true → w.stream.since = none)
    (hlost : e.isDone = true → lost = false) :
    InTime ({ w with worker.phase := .working run due }.perform job now lost (.publish e)) := by
  have hnext : InOrder { w with worker.phase := .working run due } :=
    ⟨h.order.since_le, h.order.before, h.order.after⟩
  obtain ⟨hworker, -, -, hpublished⟩ :=
    publish_spec job { w with worker.phase := .working run due } e lost
  refine ⟨?_, ?_, hnext.publish lost hreplanning⟩
  · intro run' due' hworking hfinished
    change (World.publish job e lost _).worker.phase = _ at hworking
    rw [hworker] at hworking
    cases hworking
    rcases h.concluding run _ hphase hfinished with hannounced | ⟨e', he', hdone⟩
    · have hkept : World.Announced { w with worker.phase := .working run due } := hannounced
      exact .inl (hkept.publish e lost)
    · rcases List.mem_cons.mp he' with he' | he'
      · -- it is this publication
        cases he'
        refine .inl ⟨e, ?_, hdone⟩
        change e ∈ (World.publish job e lost _).published
        rw [hpublished, hlost hdone]
        exact List.mem_append_right _ List.mem_cons_self
      · exact .inr ⟨e', he', hdone⟩
  · intro hfinished
    change (World.publish job e lost _).worker.phase = _ at hfinished
    rw [hworker] at hfinished
    cases hfinished

/-- An announcement of an agent. -/
theorem InTime.announce {w : World} {e : InvestigationEvent} (h : InTime w) (lost : Bool)
    (hagent : FromAgent e) : InTime (w.publish job e lost) := by
  obtain ⟨hworker, hrow, -, -⟩ := publish_spec job w e lost
  refine ⟨?_, ?_, h.order.publish lost ?_⟩
  · intro run due hworking hfinished
    rw [hworker] at hworking
    rcases h.concluding run due hworking hfinished with hannounced | hdone
    · exact .inl (hannounced.publish e lost)
    · exact .inr hdone
  · intro hfinished hterminal
    unfold World.Terminal at hterminal
    rw [hrow] at hterminal
    rw [hworker] at hfinished
    exact (h.announced hfinished hterminal).publish e lost
  · intro hreplanning
    rcases hagent with ⟨data, rfl⟩ | ⟨data, rfl⟩ <;> cases hreplanning

/-- The step lemma, for the worker. -/
theorem InTime.workerStep {w w' : World} {a : Action} (h : InTime w)
    (hallowed : Allowed job w a) (hstep : workerStep job w a = some w') : InTime w' := by
  cases workerStep_move hstep with
  | begins state =>
      refine ⟨?_, (fun hfinished => by cases hfinished),
        h.order.since_le, h.order.before, h.order.after⟩
      intro run due hworking hfinished
      cases hworking
      cases hfinished
  | @calls a kept run node hphase hnode =>
      refine ⟨?_, (fun hfinished => by cases hfinished),
        h.order.since_le, h.order.before, h.order.after⟩
      intro run' due hworking hfinished
      cases hworking
      exact .inr (done_of_finished kept hnode hfinished)
  | @performs now lost run effect due hphase =>
      have hdue : w.due = effect :: due := by
        unfold World.due
        rw [hphase]
      cases effect with
      | store fields => exact h.performStore hphase
      | publish e =>
          obtain ⟨hreplanning, hlost⟩ := hallowed e (by rw [hdue]; rfl)
          exact h.performPublish hphase hreplanning hlost
  | announces lost hagent => exact h.announce lost hagent
  | @finishes a run hphase hfinished =>
      refine h.idle w.row (fun run due hworking => by cases hworking) fun _ _ => ?_
      rcases h.concluding run [] hphase hfinished with hannounced | ⟨e, he, -⟩
      · exact hannounced
      · cases he
  | handles hphase =>
      refine h.idle w.row (fun run due hworking => ?_) fun hfinished => ?_
      · rw [hphase] at hworking
        cases hworking
      · rw [hphase] at hfinished
        cases hfinished
  | fails hfails => exact h.fails hallowed hfails

theorem InTime.step {w w' : World} {a : Action} (h : InTime w) (hallowed : Allowed job w a)
    (hstep : step rt job w a = some w') : InTime w' := by
  unfold InvestigationStream.step at hstep
  split at hstep
  · next hworker =>
      obtain rfl := Option.some.inj hstep
      exact h.workerStep hallowed hworker
  · -- what a subscribed stream does with a message does not move its subscription
    have hsame : ∀ {since : Nat} {pending : List Message} {yielded : List InvestigationEvent}
        (stream : Stream), w.stream = .subscribed since pending yielded →
        stream.since = some since → InTime { w with stream } := by
      intro since pending yielded stream hstream hsince
      have heq : stream.since = w.stream.since := by
        rw [hstream]
        exact hsince
      exact ⟨h.concluding, h.announced, fun since hs => h.order.since_le since (heq ▸ hs),
        fun since hs => h.order.before since (heq ▸ hs),
        fun since hs => h.order.after since (heq ▸ hs)⟩
    cases streamStep_move hstep with
    | @answers a stream hnone =>
        refine ⟨h.concluding, h.announced, ?_⟩
        have hno : ∀ since, ¬ stream.since = some since := by
          intro since hsince
          rw [hnone] at hsince
          cases hsince
        exact ⟨fun since hsince => absurd hsince (hno since),
          fun since hsince => absurd hsince (hno since),
          fun since hsince => absurd hsince (hno since)⟩
    | subscribes =>
        -- it subscribes before anything was announced
        refine ⟨h.concluding, h.announced, ?_, ?_, ?_⟩
        · intro since hsince
          exact (Option.some.inj hsince).ge
        · intro since hsince e he
          exact Bool.eq_false_iff.mpr fun hdone => hallowed ⟨e, List.mem_of_mem_take he, hdone⟩
        · intro since hsince e he
          rw [← Option.some.inj hsince] at he
          change e ∈ w.published.drop w.published.length at he
          rw [List.drop_length] at he
          cases he
    | skips hstream htype => exact hsame _ hstream rfl
    | yields hstream hparse => exact hsame _ hstream rfl
    | ends hstream htype hparse => exact hsame _ hstream rfl

/-- The run lemma. -/
theorem inTime_of_reaches {row : Option Investigation} {actions : List Action} {w : World}
    (hrun : Reaches (step rt job) (Allowed job) (start row) actions w) : InTime w := by
  have hno : ∀ since, (start row).stream.since ≠ some since := by
    intro since hsince
    cases hsince
  have hstart : InTime (start row) :=
    { concluding := fun run due hworking => by cases hworking
      announced := fun hfinished => by cases hfinished
      order := ⟨fun since hsince => absurd hsince (hno since),
        fun since hsince => absurd hsince (hno since),
        fun since hsince => absurd hsince (hno since)⟩ }
  exact hrun.invariant hstart fun _ _ _ h hallowed hstep => h.step hallowed hstep

/-- Once `done` was published, a stream that subscribed in time heard it in time. -/
theorem InTime.doneInTime {w : World} (h : InTime w) (hannounced : w.Announced) {since : Nat}
    (hsince : w.stream.since = some since) : DoneInTime (w.published.drop since) := by
  obtain ⟨e, he, hdone⟩ := hannounced
  have hlater : e ∈ w.published.drop since := by
    rw [← List.take_append_drop since w.published] at he
    rcases List.mem_append.mp he with he | he
    · rw [h.order.before since hsince e he] at hdone
      cases hdone
    · exact he
  have hall : ∀ e ∈ w.published.drop since, (!e.isReplanning) = true := by
    intro e he
    rw [h.order.after since hsince e he]
    rfl
  rw [doneInTime_iff, List.takeWhile_eq_self_iff.mpr hall]
  exact ⟨e, hlater, hdone⟩

/--
**When the end of an investigation is missed.**

However the worker and the request interleave: a stream misses the end exactly if the status is
final, the worker is through, and `done` was not published after the stream subscribed and
before anything replanned.  And in a run of allowed steps no stream misses it.
-/
theorem stream_end_missed_iff (rt : Runtime) (job : Job) (row : Option Investigation) :
    (∀ actions w, Reaches (step rt job) (fun _ _ => True) (start row) actions w →
      (Missed rt w ↔ w.Terminal ∧ w.worker.phase = .finished ∧
        ∃ since, w.stream.since = some since ∧ ¬ DoneInTime (w.published.drop since))) ∧
    ∀ actions w, Reaches (step rt job) (Allowed job) (start row) actions w → ¬ Missed rt w := by
  refine ⟨fun actions w hrun => missed_iff (tuned_of_reaches hrun), ?_⟩
  intro actions w hrun hmissed
  have hin := inTime_of_reaches hrun
  obtain ⟨hterminal, hfinished, since, hsince, hlate⟩ :=
    (missed_iff (tuned_of_reaches hrun)).mp hmissed
  exact hlate (hin.doneInTime (hin.announced hfinished hterminal) hsince)

/-! ### Two streams that miss the end -/

/-- What a world shows: the stored status, whether the worker is through, since when the stream is
subscribed, and whether it hears `done`. -/
def World.shown (w : World) : Option String × Bool × Option Nat × Bool :=
  (w.row.map (·.status),
    match w.worker.phase with
      | .finished => true
      | _ => false,
    w.stream.since, (w.stream.heard Runtime.reference).any (·.isDone))

theorem exists_missed (job : Job) (row : Option Investigation) (actions : List Action)
    (status : String) (since : Nat) (hstatus : status = "complete" ∨ status = "failed")
    (h : (actions.foldlM (step Runtime.reference job) (start row)).map World.shown
      = some (some status, true, some since, false)) :
    ∃ w, Reaches (step Runtime.reference job) (fun _ _ => True) (start row) actions w ∧
      Missed Runtime.reference w := by
  obtain ⟨w, hw, hshown⟩ := Option.map_eq_some_iff.mp h
  refine ⟨w, .of_foldlM (fun _ _ => trivial) hw, ?_⟩
  simp only [World.shown, Prod.mk.injEq] at hshown
  obtain ⟨hrow, hphase, hsince, hheard⟩ := hshown
  refine ⟨?_, ?_, by rw [hsince]; rfl, ?_⟩
  · obtain ⟨row', hrow', rfl⟩ := Option.map_eq_some_iff.mp hrow
    exact ⟨row', hrow', hstatus⟩
  · split at hphase
    · assumption
    · cases hphase
  · intro e he
    exact Bool.eq_false_iff.mpr fun hdone => by
      rw [List.any_eq_true.mpr ⟨e, he, hdone⟩] at hheard
      cases hheard

/-- A job whose critic has no objections, and its row. -/
def sampleJob : Job := ⟨jobState.investigationId, 0, fun _ => conflictServices 0⟩

def sampleRow : Investigation :=
  { id := jobState.investigationId, userId := none, queryText := jobState.query, createdAt := 0 }

/-- The job from its start to its end. -/
def wholeJob : List Action :=
  [.prepare (.ok jobState.query), .node false, .effect 1 false, .node false, .node false,
    .effect 2 false, .node false, .node false, .effect 3 false, .effect 3 false,
    .conclude .committed]

/-- A request, from its lookup to the confirmation of its subscription. -/
def wholeRequest : List Action := [.look {}, .ping true, .subscribe none, .receive]

/-- A stream opened after the job is complete, and a stream that listens all along to a job that
times out. -/
theorem stream_end_missed :
    (∃ w, Reaches (step Runtime.reference sampleJob) (fun _ _ => True) (start (some sampleRow))
        (wholeJob ++ wholeRequest) w ∧ Missed Runtime.reference w) ∧
    ∃ w, Reaches (step Runtime.reference sampleJob) (fun _ _ => True) (start (some sampleRow))
        (wholeRequest ++ [.prepare (.ok jobState.query),
          .interrupt (.exception "Task exceeded maximum timeout value") false,
          .handle 600 .committed]) w ∧ Missed Runtime.reference w :=
  ⟨exists_missed _ _ _ "complete" 3 (.inl rfl) (by decide +kernel),
    exists_missed _ _ _ "failed" 0 (.inr rfl) (by decide +kernel)⟩

/-- A stream that listens all along to a job that completes, by allowed steps. -/
example :
    (runAllowed (step Runtime.reference sampleJob) (Allowed sampleJob) (wholeRequest ++ wholeJob)
      (start (some sampleRow))).map World.shown = some (some "complete", true, some 0, true) := by
  decide +kernel

end InvestigationStream

end GaiaOS
