/-
What an attempt of an investigation job can do.

Four ways out: it fails while it prepares, its work succeeds, its work fails with something
no handler catches, or with an exception that is handled (`run_cases`).  Only the work
touches the thread, only the work and the handler store a new version of the row, and only
the handler reports a failure; the lemmas here say what each stage leaves alone and what
it adds, and everything about sequences of attempts is derived from them.
-/
import GaiaOS.Workers.InvestigationJob
import GaiaOS.Proofs.ReplanLoop

namespace GaiaOS

namespace InvestigationJob

variable (a : Attempt) (investigationId : Uuid) (query : String) (s : JobState)

/-! ### The stages -/

/-- A state with the same row and thread, and nothing but starts and completions reported. -/
structure Quiet (s s' : JobState) : Prop where
  versions : s'.versions = s.versions
  thread : s'.thread = s.thread
  emitted : ∃ more, s'.emitted = s.emitted ++ more ∧
    ∀ code message number, JobEvent.failed code message number ∉ more

theorem Quiet.refl : Quiet s s := ⟨rfl, rfl, [], by simp, by simp⟩

theorem Quiet.trans {s s' s'' : JobState} (h : Quiet s s') (h' : Quiet s' s'') : Quiet s s'' := by
  obtain ⟨more, hmore, hnone⟩ := h.emitted
  obtain ⟨more', hmore', hnone'⟩ := h'.emitted
  refine ⟨h'.versions.trans h.versions, h'.thread.trans h.thread, more ++ more', ?_, ?_⟩
  · rw [hmore', hmore, List.append_assoc]
  · intro code message number hmem
    rcases List.mem_append.mp hmem with hold | hnew
    · exact hnone code message number hold
    · exact hnone' code message number hnew

theorem quiet_emit {event : JobEvent}
    (h : ∀ code message number, event ≠ .failed code message number) :
    Quiet s (Attempt.emit event s) := by
  refine ⟨rfl, rfl, [event], rfl, ?_⟩
  intro code message number hmem
  exact h code message number (List.mem_singleton.mp hmem).symm

theorem quiet_persistMetric (outcome : WriteOutcome) (event : JobEvent) :
    Quiet s (a.persistMetric outcome event s).1 := by
  unfold Attempt.persistMetric
  split
  · exact ⟨rfl, rfl, [], by simp, by simp⟩
  · exact Quiet.refl s

/-- Preparing leaves the thread and the row alone. -/
theorem quiet_prepare : Quiet s (a.prepare investigationId s).1 := by
  have hstarted : Quiet s (a.persistMetric a.persistStarted .started (Attempt.emit .started s)).1 :=
    (quiet_emit s (by simp)).trans (quiet_persistMetric a _ _ _)
  unfold Attempt.prepare
  split
  · exact Quiet.refl s
  · split
    · rename_i hpersist
      rw [hpersist] at hstarted
      exact hstarted
    · rename_i hpersist
      rw [hpersist] at hstarted
      split
      · exact hstarted
      · exact hstarted

/-- The row is what an update finds, and what it writes comes after all there was. -/
theorem storeFields_versions (fields : StatusFields) :
    (a.storeFields fields s).versions =
      s.versions ++ s.row.toList.map (updateInvestigationStatus a.now fields) := by
  unfold Attempt.storeFields
  split
  · rename_i hrow
    simp [hrow]
  · rename_i row hrow
    simp [hrow]

theorem storeFields_keeps (fields : StatusFields) :
    (a.storeFields fields s).thread = s.thread ∧
      (a.storeFields fields s).emitted = s.emitted := by
  unfold Attempt.storeFields
  split
  · exact ⟨rfl, rfl⟩
  · exact ⟨rfl, rfl⟩

theorem foldl_storeFields_keeps (updates : List StatusUpdate) :
    (updates.foldl (fun s update => a.storeFields update.fields s) s).thread = s.thread ∧
      (updates.foldl (fun s update => a.storeFields update.fields s) s).emitted = s.emitted := by
  induction updates generalizing s with
  | nil => exact ⟨rfl, rfl⟩
  | cons update rest ih =>
      have hkeeps := storeFields_keeps a s update.fields
      exact ⟨(ih _).1.trans hkeeps.1, (ih _).2.trans hkeeps.2⟩

theorem invoke_emitted : (a.invoke investigationId query s).1.emitted = s.emitted :=
  (foldl_storeFields_keeps a _ _).2

/-- The work after the invocation only reports. -/
theorem quiet_work :
    Quiet (a.invoke investigationId query s).1 (a.work investigationId query s).1 := by
  unfold Attempt.work
  split
  · rename_i hinvoke
    rw [hinvoke]
    exact Quiet.refl _
  · rename_i s' complexityTier hinvoke
    rw [hinvoke]
    exact (quiet_emit s' (by simp)).trans (quiet_persistMetric a _ _ _)

/-- The work succeeds if the graph finishes and its completion is recorded. -/
def Attempt.Completes (a : Attempt) (investigationId : Uuid) (query : String)
    (thread : Option TaskGraphState) : Prop :=
  (a.graphRun investigationId query thread).status = .finished ∧
    (a.hasDatabase = true → a.persistCompleted.result = .ok ())

/-- An invocation that raises is all there is to the work. -/
theorem work_of_outcome_error {exc : PyError}
    (h : a.outcome (a.graphRun investigationId query s.thread) = .error exc) :
    (a.work investigationId query s).2 = .error exc := by
  have houtcome : (a.invoke investigationId query s).2 = .error exc := h
  unfold Attempt.work
  rw [← Prod.eta (a.invoke investigationId query s), houtcome]

theorem work_ok_iff :
    (a.work investigationId query s).2 = .ok () ↔
      a.Completes investigationId query s.thread := by
  cases hstatus : (a.graphRun investigationId query s.thread).status with
  | finished =>
      have houtcome : (a.invoke investigationId query s).2 =
          .ok (a.graphRun investigationId query s.thread).state.complexityTier := by
        show a.outcome (a.graphRun investigationId query s.thread) = _
        unfold Attempt.outcome
        rw [hstatus]
      unfold Attempt.work
      rw [← Prod.eta (a.invoke investigationId query s), houtcome]
      show (a.persistMetric _ _ _).2 = .ok () ↔ _
      unfold Attempt.persistMetric
      by_cases hdatabase : a.hasDatabase = true
      · rw [if_pos hdatabase]
        exact ⟨fun h => ⟨hstatus, fun _ => h⟩, fun h => h.2 hdatabase⟩
      · rw [if_neg hdatabase]
        exact ⟨fun _ => ⟨hstatus, fun h => absurd h hdatabase⟩, fun _ => rfl⟩
  | raised node e =>
      have herror : a.outcome (a.graphRun investigationId query s.thread) = .error e := by
        unfold Attempt.outcome
        rw [hstatus]
      rw [work_of_outcome_error a investigationId query s herror]
      exact ⟨nofun, fun h => absurd (hstatus.symm.trans h.1) (by simp)⟩
  | running node =>
      have herror : a.outcome (a.graphRun investigationId query s.thread) =
          .error a.interruption := by
        unfold Attempt.outcome
        rw [hstatus]
      rw [work_of_outcome_error a investigationId query s herror]
      exact ⟨nofun, fun h => absurd (hstatus.symm.trans h.1) (by simp)⟩

/-- A row that a finished run left: complete, with an answer and the trace of a run. -/
def Finished (row : Investigation) : Prop :=
  row.status = "complete" ∧ row.answer.isSome = true ∧
    ∃ trace, row.executionTrace = some (.execution trace)

/-- Every update a run sends is that of a finished run. -/
theorem statusUpdates_complete (sv : Services) (s₀ : TaskGraphState) (n : Nat) :
    ∀ update ∈ ((GraphRun.start s₀).advance sv n).statusUpdates, update.status = "complete" := by
  refine Function.Iterate.rec
    (fun r : GraphRun => ∀ update ∈ r.statusUpdates, update.status = "complete") ?_ ?_ n
  · intro update hmem
    cases hmem
  · intro r ih
    have hsent : ∀ node, ∀ update ∈ (callNode sv r.history.length r.state node).statusUpdates,
        update.status = "complete" := by
      intro node update hmem
      by_cases hnode : node = .finalize
      · subst hnode
        rw [finalizeNode_statusUpdates hmem]
        rfl
      · rw [callNode_statusUpdates hnode] at hmem
        cases hmem
    rcases step_cases sv r with ⟨-, hsame⟩ | ⟨node, -, ⟨err, -, hr⟩ | ⟨u, -, hr⟩⟩
    · rw [hsame]
      exact ih
    · rw [hr]
      intro update hmem
      rcases List.mem_append.mp hmem with hold | hnew
      · exact ih update hold
      · exact hsent node update hnew
    · rw [hr]
      intro update hmem
      rcases List.mem_append.mp hmem with hold | hnew
      · exact ih update hold
      · exact hsent node update hnew

theorem finished_update (now : Int) {update : StatusUpdate} (h : update.status = "complete")
    (row : Investigation) : Finished (updateInvestigationStatus now update.fields row) :=
  ⟨h, rfl, update.executionTrace, rfl⟩

/-- Committed updates of a run leave finished rows after those there were. -/
theorem foldl_storeFields_versions (updates : List StatusUpdate)
    (h : ∀ update ∈ updates, update.status = "complete") :
    ∃ more, (updates.foldl (fun s update => a.storeFields update.fields s) s).versions =
        s.versions ++ more ∧ (more = [] ↔ s.row = none ∨ updates = []) ∧
        ∀ version ∈ more, Finished version := by
  induction updates generalizing s with
  | nil => exact ⟨[], by simp, by simp, by simp⟩
  | cons update rest ih =>
      obtain ⟨more, hmore, hempty, hfinished⟩ := ih (a.storeFields update.fields s)
        fun later hmem => h later (List.mem_cons_of_mem _ hmem)
      refine ⟨s.row.toList.map (updateInvestigationStatus a.now update.fields) ++ more, ?_, ?_, ?_⟩
      · rw [List.foldl_cons, hmore, storeFields_versions, List.append_assoc]
      · cases hrow : s.row with
        | none =>
            have hsame : a.storeFields update.fields s = s := by
              unfold Attempt.storeFields
              rw [hrow]
            rw [hsame, hrow] at hempty
            simpa using hempty.mpr (Or.inl rfl)
        | some row => simp
      · intro version hmem
        rcases List.mem_append.mp hmem with hold | hnew
        · obtain ⟨row, -, rfl⟩ := List.mem_map.mp hold
          exact finished_update a.now (h update (by simp)) row
        · exact hfinished version hnew

/-- The work stores nothing but finished rows. -/
theorem work_versions :
    ∃ more, (a.work investigationId query s).1.versions = s.versions ++ more ∧
      (more = [] ↔
        s.row = none ∨ a.committedUpdates (a.graphRun investigationId query s.thread) = []) ∧
      ∀ version ∈ more, Finished version := by
  rw [(quiet_work a investigationId query s).versions]
  refine foldl_storeFields_versions a { s with thread := _ } _ ?_
  have hall := statusUpdates_complete a.services
    (Attempt.threadInput investigationId query s.thread) a.steps
  unfold Attempt.committedUpdates
  split
  · exact hall
  · split
    · exact hall
    · simp

/-- Whether the handler's update of the row is committed. -/
def Attempt.marksFailed (a : Attempt) : Bool :=
  a.isTerminalFailure && a.hasDatabase && a.markFailed.stores

/-- The handler reports the failure, and stores it if it was the last attempt. -/
theorem handle_spec (exc : PyError) :
    (∃ e, (a.handle exc s).2 = .error e) ∧
    (a.handle exc s).1.thread = s.thread ∧
    (a.handle exc s).1.emitted =
      s.emitted ++ [.failed a.errorCode exc.str a.attemptNumber] ∧
    (a.handle exc s).1.versions =
      if a.marksFailed then
        s.versions ++ s.row.toList.map (updateInvestigationStatus a.now (a.failedFields exc))
      else s.versions := by
  have hrow : ∀ event, (Attempt.emit event s).row = s.row := fun _ => rfl
  have hstore := storeFields_versions a
    (Attempt.emit (.failed a.errorCode exc.str a.attemptNumber) s) (a.failedFields exc)
  rw [hrow] at hstore
  have hkeeps := storeFields_keeps a
    (Attempt.emit (.failed a.errorCode exc.str a.attemptNumber) s) (a.failedFields exc)
  unfold Attempt.handle Attempt.marksFailed
  by_cases hlast : (a.isTerminalFailure && a.hasDatabase) = true
  · obtain ⟨-, hdatabase⟩ := (Bool.and_eq_true ..).mp hlast
    simp only [hlast, if_true, Bool.true_and]
    cases a.markFailed with
    | lost e => exact ⟨⟨e, rfl⟩, rfl, rfl, rfl⟩
    | late e => exact ⟨⟨e, rfl⟩, hkeeps.1, hkeeps.2, hstore⟩
    | committed =>
        simp only [WriteOutcome.result, WriteOutcome.stores, if_true, Attempt.persistMetric,
          hdatabase]
        cases a.persistFailed with
        | committed => exact ⟨⟨exc, rfl⟩, hkeeps.1, hkeeps.2, hstore⟩
        | lost e | late e => exact ⟨⟨e, rfl⟩, hkeeps.1, hkeeps.2, hstore⟩
  · simp only [hlast, Bool.false_and]
    exact ⟨⟨exc, rfl⟩, rfl, rfl, rfl⟩

/-! ### A whole attempt -/

/-- All an attempt can do. -/
theorem run_cases :
    (∃ e, (a.prepare investigationId s).2 = .error e ∧
      a.run investigationId s = ((a.prepare investigationId s).1, .error e)) ∨
    ∃ query, (a.prepare investigationId s).2 = .ok query ∧
      (((a.work investigationId query (a.prepare investigationId s).1).2 = .ok () ∧
        a.run investigationId s =
          ((a.work investigationId query (a.prepare investigationId s).1).1, .ok ())) ∨
      ∃ e, (a.work investigationId query (a.prepare investigationId s).1).2 = .error e ∧
        a.run investigationId s =
          if e.isException then
            a.handle e (a.work investigationId query (a.prepare investigationId s).1).1
          else ((a.work investigationId query (a.prepare investigationId s).1).1, .error e)) := by
  unfold Attempt.run
  cases hprepare : a.prepare investigationId s with
  | mk s' outcome =>
      cases outcome with
      | error e => exact Or.inl ⟨e, rfl, rfl⟩
      | ok query =>
          refine Or.inr ⟨query, rfl, ?_⟩
          cases hwork : a.work investigationId query s' with
          | mk s'' result =>
              cases result with
              | ok _ => exact Or.inl ⟨rfl, by simp [hwork]⟩
              | error e => exact Or.inr ⟨e, rfl, by simp [hwork]⟩

/-- The attempt's work failed with an exception, which its handler takes care of. -/
def Attempt.Handles (a : Attempt) (investigationId : Uuid) (s : JobState) (e : PyError) : Prop :=
  ∃ query, (a.prepare investigationId s).2 = .ok query ∧
    (a.work investigationId query (a.prepare investigationId s).1).2 = .error e ∧
    e.isException = true

/-- An attempt that handles a failure reports it, and stores it if it was the last one. -/
theorem run_of_handles {e : PyError} (h : a.Handles investigationId s e) :
    ∃ query finished events,
      (a.prepare investigationId s).2 = .ok query ∧
      (finished = [] ↔
        s.row = none ∨ a.committedUpdates (a.graphRun investigationId query s.thread) = []) ∧
      (∀ version ∈ finished, Finished version) ∧
      (∀ code message number, JobEvent.failed code message number ∉ events) ∧
      (a.run investigationId s).1.emitted =
        s.emitted ++ events ++ [.failed a.errorCode e.str a.attemptNumber] ∧
      (a.run investigationId s).1.versions =
        s.versions ++ finished ++
          if a.marksFailed then
            (s.versions ++ finished).getLast?.toList.map
              (updateInvestigationStatus a.now (a.failedFields e))
          else [] := by
  obtain ⟨query, hprepare, hwork, hexception⟩ := h
  rcases run_cases a investigationId s with ⟨e', he', -⟩ | ⟨query', hprepare', hcases⟩
  · rw [hprepare] at he'
    cases he'
  · obtain rfl : query = query' := by
      rw [hprepare] at hprepare'
      cases hprepare'
      rfl
    rcases hcases with ⟨hok, -⟩ | ⟨e', he', hrun⟩
    · rw [hwork] at hok
      cases hok
    · obtain rfl : e = e' := by
        rw [hwork] at he'
        cases he'
        rfl
      rw [if_pos hexception] at hrun
      obtain ⟨-, -, hemitted, hversions⟩ := handle_spec a
        (a.work investigationId query (a.prepare investigationId s).1).1 e
      obtain ⟨finished, hmore, hempty, hfinished⟩ := work_versions a investigationId query
        (a.prepare investigationId s).1
      rw [(quiet_prepare a investigationId s).versions] at hmore
      rw [JobState.row, (quiet_prepare a investigationId s).versions,
        (quiet_prepare a investigationId s).thread] at hempty
      obtain ⟨events, hevents, hnone⟩ := (quiet_prepare a investigationId s).emitted
      obtain ⟨events', hevents', hnone'⟩ := (quiet_work a investigationId query
        (a.prepare investigationId s).1).emitted
      rw [invoke_emitted, hevents] at hevents'
      refine ⟨query, finished, events ++ events', hprepare, hempty, hfinished, ?_, ?_, ?_⟩
      · intro code message number hmem
        rcases List.mem_append.mp hmem with hold | hnew
        · exact hnone code message number hold
        · exact hnone' code message number hnew
      · rw [hrun, hemitted, hevents', List.append_assoc s.emitted]
      · rw [hrun, hversions, JobState.row, hmore]
        split
        · rfl
        · rw [List.append_nil]

/-- An attempt that handles nothing reports no failure and stores none. -/
theorem run_of_not_handles (h : ∀ e, ¬ a.Handles investigationId s e) :
    ∃ finished events,
      (∀ version ∈ finished, Finished version) ∧
      (∀ code message number, JobEvent.failed code message number ∉ events) ∧
      (a.run investigationId s).1.emitted = s.emitted ++ events ∧
      (a.run investigationId s).1.versions = s.versions ++ finished := by
  obtain ⟨events, hevents, hnone⟩ := (quiet_prepare a investigationId s).emitted
  have hversions := (quiet_prepare a investigationId s).versions
  rcases run_cases a investigationId s with ⟨e, -, hrun⟩ | ⟨query, hprepare, hcases⟩
  · refine ⟨[], events, by simp, hnone, ?_, ?_⟩
    · rw [hrun, hevents]
    · rw [hrun, hversions, List.append_nil]
  · obtain ⟨finished, hmore, -, hfinished⟩ := work_versions a investigationId query
      (a.prepare investigationId s).1
    obtain ⟨events', hevents', hnone'⟩ := (quiet_work a investigationId query
      (a.prepare investigationId s).1).emitted
    rw [hversions] at hmore
    rw [invoke_emitted, hevents, List.append_assoc] at hevents'
    have hrun : (a.run investigationId s).1 =
        (a.work investigationId query (a.prepare investigationId s).1).1 := by
      rcases hcases with ⟨-, hrun⟩ | ⟨e, he, hrun⟩
      · rw [hrun]
      · rw [hrun]
        split
        · rename_i hexception
          exact absurd ⟨query, hprepare, he, hexception⟩ (h e)
        · rfl
    refine ⟨finished, events ++ events', hfinished, ?_, ?_, ?_⟩
    · intro code message number hmem
      rcases List.mem_append.mp hmem with hold | hnew
      · exact hnone code message number hold
      · exact hnone' code message number hnew
    · rw [hrun, hevents']
    · rw [hrun, hmore]

/-- An attempt that succeeds got past its preparations, and its work completed. -/
theorem completes_of_run (h : (a.run investigationId s).2 = .ok ()) :
    ∃ query, (a.prepare investigationId s).2 = .ok query ∧
      a.Completes investigationId query s.thread := by
  rcases run_cases a investigationId s with ⟨e, -, hrun⟩ | ⟨query, hprepare, hwork⟩
  · rw [hrun] at h
    cases h
  · refine ⟨query, hprepare, ?_⟩
    rcases hwork with ⟨hok, -⟩ | ⟨e, -, hrun⟩
    · have hcompletes := (work_ok_iff a investigationId query _).mp hok
      rwa [(quiet_prepare a investigationId s).thread] at hcompletes
    · exfalso
      rw [hrun] at h
      split at h
      · obtain ⟨e', he'⟩ := (handle_spec a _ e).1
        rw [he'] at h
        cases h
      · cases h

end InvestigationJob

end GaiaOS
