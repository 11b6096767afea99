/-
What becomes of an investigation whose attempts all fail.

RQ makes one attempt more than the retries it was given, and the last of them is to leave
the investigation failed.  Only the handler of the inner `try` does that: an attempt that
fails while it prepares leaves the status as it was, and if that is the last attempt, nobody
comes after it.  The number a failure is reported with is three less the retries left,
which is the number of the attempt when the job was given two retries and not otherwise.
-/
import GaiaOS.Proofs.RetryIsolation

namespace GaiaOS

namespace InvestigationJob

section Lifecycle

variable (investigationId : Uuid) (maxRetries : Nat) (attempts : Nat → Attempt)
  (created : JobState)

/-- The state after that many attempts. -/
def stateAfter : Nat → JobState
  | 0 => created
  | i + 1 => ((scheduled maxRetries i (attempts i)).run investigationId (stateAfter i)).1

/-- Every attempt RQ makes raises an exception. -/
def AllFail : Prop :=
  ∀ i ≤ maxRetries, ∃ e, e.isException = true ∧
    ((scheduled maxRetries i (attempts i)).run investigationId
      (stateAfter investigationId maxRetries attempts created i)).2 = .error e

/-- The stored status. -/
def JobState.status (s : JobState) : Option String := s.row.map (·.status)

/-- Failed after the last attempt and not before, and every failure reported by its number. -/
structure Lifecycle : Prop where
  failed : (stateAfter investigationId maxRetries attempts created (maxRetries + 1)).status =
    some "failed"
  notBefore : ∀ i ≤ maxRetries,
    (stateAfter investigationId maxRetries attempts created i).status ≠ some "failed"
  numbered : ∀ i ≤ maxRetries, ∀ code message number,
    JobEvent.failed code message number ∈
      (stateAfter investigationId maxRetries attempts created (i + 1)).emitted.drop
        (stateAfter investigationId maxRetries attempts created i).emitted.length →
    number = i + 1

/-- The attempt gets as far as the graph. -/
structure Attempt.Ready (a : Attempt) (investigationId : Uuid) (s : JobState) : Prop where
  redis : a.redis = none
  started : a.hasDatabase = true → a.persistStarted.result = .ok ()
  graph : a.buildGraph = none
  query : ∃ query, a.resolveQuery investigationId s = .ok query

variable {investigationId maxRetries attempts created} {a : Attempt} {s : JobState} {e : PyError}

theorem resolveQuery_congr (a : Attempt) (investigationId : Uuid) {s s' : JobState}
    (h : s'.versions = s.versions) :
    a.resolveQuery investigationId s' = a.resolveQuery investigationId s := by
  unfold Attempt.resolveQuery JobState.row
  rw [h]

theorem prepare_ok_iff :
    (∃ query, (a.prepare investigationId s).2 = .ok query) ↔ a.Ready investigationId s := by
  have hquiet : Quiet s (a.persistMetric a.persistStarted .started (Attempt.emit .started s)).1 :=
    (quiet_emit s (by simp)).trans (quiet_persistMetric a _ _ _)
  have hresult : (a.persistMetric a.persistStarted .started (Attempt.emit .started s)).2 = .ok () ↔
      (a.hasDatabase = true → a.persistStarted.result = .ok ()) := by
    unfold Attempt.persistMetric
    by_cases hdatabase : a.hasDatabase = true
    · simp [hdatabase]
    · simp [hdatabase]
  have hquery := resolveQuery_congr a investigationId hquiet.versions
  unfold Attempt.prepare
  cases hredis : a.redis with
  | some e =>
      constructor
      · rintro ⟨query, hok⟩
        cases hok
      · intro hready
        rw [hready.redis] at hredis
        cases hredis
  | none =>
      cases hpersist : a.persistMetric a.persistStarted .started (Attempt.emit .started s) with
      | mk s' result =>
          rw [hpersist] at hresult hquery
          cases result with
          | error e =>
              constructor
              · rintro ⟨query, hok⟩
                cases hok
              · intro hready
                have hstarted := hresult.mpr hready.started
                cases hstarted
          | ok _ =>
              cases hgraph : a.buildGraph with
              | some e =>
                  constructor
                  · rintro ⟨query, hok⟩
                    cases hok
                  · intro hready
                    rw [hready.graph] at hgraph
                    cases hgraph
              | none =>
                  show (∃ query, a.resolveQuery investigationId s' = .ok query) ↔ _
                  rw [hquery]
                  constructor
                  · intro hok
                    exact ⟨hredis, hresult.mp rfl, hgraph, hok⟩
                  · intro hready
                    exact hready.query

/-- An attempt that fails although it was ready hands its exception to the handler. -/
theorem handles_of_ready (hready : a.Ready investigationId s)
    (hfail : ∃ e, e.isException = true ∧ (a.run investigationId s).2 = .error e) :
    ∃ e, a.Handles investigationId s e := by
  obtain ⟨query, hquery⟩ := prepare_ok_iff.mpr hready
  obtain ⟨e, hexception, hrun⟩ := hfail
  rcases run_cases a investigationId s with ⟨e', he', -⟩ | ⟨query', hprepare, hcases⟩
  · rw [hquery] at he'
    cases he'
  · rcases hcases with ⟨-, hok⟩ | ⟨e', he', hcase⟩
    · rw [hok] at hrun
      cases hrun
    · refine ⟨e', query', hprepare, he', ?_⟩
      by_contra hnot
      rw [hcase, if_neg hnot] at hrun
      cases hrun
      exact hnot hexception

theorem ready_of_handles (h : a.Handles investigationId s e) : a.Ready investigationId s := by
  obtain ⟨query, hprepare, -⟩ := h
  exact prepare_ok_iff.mp ⟨query, hprepare⟩

/-- The status after finished rows is complete, or what it was. -/
theorem status_of_finished (versions : List Investigation) {finished : List Investigation}
    (h : ∀ version ∈ finished, Finished version) :
    ((versions ++ finished).getLast?.map (·.status) = some "complete") ∨
      (versions ++ finished).getLast? = versions.getLast? := by
  induction finished using List.reverseRecOn with
  | nil => exact Or.inr (by rw [List.append_nil])
  | append_singleton finished version _ =>
      refine Or.inl ?_
      rw [← List.append_assoc, List.getLast?_append, List.getLast?_singleton]
      exact congrArg some (h version (by simp)).1

/-- An attempt does not leave the status failed unless its handler stored that. -/
theorem status_of_run (h : ∀ e, a.Handles investigationId s e → a.marksFailed = false)
    (hstatus : s.status ≠ some "failed") :
    (a.run investigationId s).1.status ≠ some "failed" := by
  have hkept : ∀ finished, (∀ version ∈ finished, Finished version) →
      (a.run investigationId s).1.versions = s.versions ++ finished →
      (a.run investigationId s).1.status ≠ some "failed" := by
    intro finished hfinished hversions
    unfold JobState.status JobState.row at hstatus ⊢
    rw [hversions]
    rcases status_of_finished s.versions hfinished with hcomplete | hsame
    · rw [hcomplete]
      simp
    · rw [hsame]
      exact hstatus
  by_cases hhandles : ∃ e, a.Handles investigationId s e
  · obtain ⟨e, he⟩ := hhandles
    obtain ⟨query, finished, events, -, -, hfinished, -, -, hversions⟩ :=
      run_of_handles a investigationId s he
    rw [h e he, if_neg (by simp), List.append_nil] at hversions
    exact hkept finished hfinished hversions
  · obtain ⟨finished, events, hfinished, -, -, hversions⟩ :=
      run_of_not_handles a investigationId s (fun e he => hhandles ⟨e, he⟩)
    exact hkept finished hfinished hversions

/-- Every failure an attempt reports has the attempt's number. -/
theorem number_of_run {code message : String} {number : Int}
    (hmem : JobEvent.failed code message number ∈
      (a.run investigationId s).1.emitted.drop s.emitted.length) :
    number = a.attemptNumber := by
  by_cases hhandles : ∃ e, a.Handles investigationId s e
  · obtain ⟨e, he⟩ := hhandles
    obtain ⟨query, finished, events, -, -, -, hnone, hemitted, -⟩ :=
      run_of_handles a investigationId s he
    rw [hemitted, List.append_assoc, List.drop_left] at hmem
    rcases List.mem_append.mp hmem with hold | hnew
    · exact absurd hold (hnone code message number)
    · cases List.mem_singleton.mp hnew
      rfl
  · obtain ⟨finished, events, -, hnone, hemitted, -⟩ :=
      run_of_not_handles a investigationId s (fun e he => hhandles ⟨e, he⟩)
    rw [hemitted, List.drop_left] at hmem
    exact absurd hmem (hnone code message number)

/-- A row is never lost. -/
theorem row_of_run (h : s.row.isSome = true) :
    (a.run investigationId s).1.row.isSome = true := by
  have hne : s.versions ≠ [] := by
    intro hnil
    unfold JobState.row at h
    rw [hnil] at h
    cases h
  have hgrown : ∃ more, (a.run investigationId s).1.versions = s.versions ++ more := by
    by_cases hhandles : ∃ e, a.Handles investigationId s e
    · obtain ⟨e, he⟩ := hhandles
      obtain ⟨query, finished, events, -, -, -, -, -, hversions⟩ :=
        run_of_handles a investigationId s he
      exact ⟨_, by rw [hversions, List.append_assoc]⟩
    · obtain ⟨finished, -, -, -, -, hversions⟩ :=
        run_of_not_handles a investigationId s (fun e he => hhandles ⟨e, he⟩)
      exact ⟨finished, hversions⟩
  obtain ⟨more, hmore⟩ := hgrown
  unfold JobState.row
  rw [hmore, List.getLast?_isSome]
  simp [hne]

theorem scheduled_attemptNumber (i : Nat) :
    (scheduled maxRetries i a).attemptNumber = max 1 (3 - ((maxRetries : Int) - i)) := rfl

theorem scheduled_marksFailed (i : Nat) (hi : i < maxRetries) :
    (scheduled maxRetries i a).marksFailed = false := by
  have hleft : (scheduled maxRetries i a).retriesLeft = (maxRetries : Int) - i := rfl
  have hnot : (scheduled maxRetries i a).isTerminalFailure = false := by
    unfold Attempt.isTerminalFailure
    rw [hleft]
    exact decide_eq_false (by omega)
  unfold Attempt.marksFailed
  rw [hnot]
  rfl

/-- Before the last attempt there is a row, and it is not failed. -/
theorem stateAfter_not_failed (investigationId : Uuid) (attempts : Nat → Attempt)
    (hcreated : created.status = some "planning") :
    ∀ i ≤ maxRetries,
      (stateAfter investigationId maxRetries attempts created i).row.isSome = true ∧
        (stateAfter investigationId maxRetries attempts created i).status ≠ some "failed" := by
  intro i
  induction i with
  | zero =>
      intro _
      refine ⟨?_, by rw [stateAfter, hcreated]; simp⟩
      unfold JobState.status at hcreated
      cases hrow : created.row with
      | none =>
          rw [hrow] at hcreated
          cases hcreated
      | some row =>
          rw [stateAfter, hrow]
          rfl
  | succ i ih =>
      intro hi
      obtain ⟨hrow, hstatus⟩ := ih (by omega)
      refine ⟨row_of_run hrow, status_of_run ?_ hstatus⟩
      intro e _
      exact scheduled_marksFailed i (by omega)

/-- A failure that is handled is reported, with the attempt's number. -/
theorem reported_of_handles (h : a.Handles investigationId s e) :
    JobEvent.failed a.errorCode e.str a.attemptNumber ∈
      (a.run investigationId s).1.emitted.drop s.emitted.length := by
  obtain ⟨query, finished, events, -, -, -, -, hemitted, -⟩ := run_of_handles a investigationId s h
  rw [hemitted, List.append_assoc, List.drop_left]
  exact List.mem_append_right _ (List.mem_singleton.mpr rfl)

/-- A failure that is handled and stored is what the row says. -/
theorem failed_of_handles (h : a.Handles investigationId s e) (hmarks : a.marksFailed = true)
    (hrow : s.row.isSome = true) : (a.run investigationId s).1.status = some "failed" := by
  obtain ⟨query, finished, events, -, -, -, -, -, hversions⟩ := run_of_handles a investigationId s h
  rw [if_pos hmarks] at hversions
  have hsome : (s.versions ++ finished).getLast?.isSome = true := by
    unfold JobState.row at hrow
    rw [List.getLast?_isSome] at hrow ⊢
    simp [hrow]
  obtain ⟨row, hlast⟩ := Option.isSome_iff_exists.mp hsome
  unfold JobState.status JobState.row
  rw [hversions, hlast]
  simp [updateInvestigationStatus, Attempt.failedFields]

/-- The last attempt has no retries left. -/
theorem last_marksFailed_iff :
    (scheduled maxRetries maxRetries a).marksFailed = true ↔
      a.hasDatabase = true ∧ a.markFailed.stores = true := by
  have hterminal : (scheduled maxRetries maxRetries a).isTerminalFailure = true := by
    unfold Attempt.isTerminalFailure
    exact decide_eq_true (le_of_eq (sub_self _))
  unfold Attempt.marksFailed
  rw [hterminal, Bool.true_and, Bool.and_eq_true]
  exact Iff.rfl

/-- The retries left are no part of how far an attempt gets. -/
theorem scheduled_ready_iff (i : Nat) :
    (scheduled maxRetries i a).Ready investigationId s ↔ a.Ready investigationId s :=
  ⟨fun h => ⟨h.redis, h.started, h.graph, h.query⟩,
    fun h => ⟨h.redis, h.started, h.graph, h.query⟩⟩

end Lifecycle

/--
**When the lifecycle of a failing job is right.**  Whatever number of retries the job is
given and wherever each of its attempts fails: the investigation is failed after the last
attempt and not before, and every reported failure carries its attempt's number, if and only
if the job was given two retries and its last attempt failed at the graph, with the handler's
update of the row committed.
-/
theorem job_lifecycle_iff (investigationId : Uuid) (maxRetries : Nat) (attempts : Nat → Attempt)
    (created : JobState) (hcreated : created.status = some "planning")
    (hfail : AllFail investigationId maxRetries attempts created) :
    Lifecycle investigationId maxRetries attempts created ↔
      maxRetries = 2 ∧
        (attempts maxRetries).Ready investigationId
          (stateAfter investigationId maxRetries attempts created maxRetries) ∧
        (attempts maxRetries).hasDatabase = true ∧
        (attempts maxRetries).markFailed.stores = true := by
  obtain ⟨hrow, hbefore⟩ := stateAfter_not_failed investigationId attempts hcreated maxRetries
    le_rfl
  constructor
  · intro h
    have hhandles : ∃ e, (scheduled maxRetries maxRetries (attempts maxRetries)).Handles
        investigationId (stateAfter investigationId maxRetries attempts created maxRetries) e ∧
        (scheduled maxRetries maxRetries (attempts maxRetries)).marksFailed = true := by
      by_contra hnone
      refine status_of_run ?_ hbefore h.failed
      intro e he
      by_contra hmarked
      exact hnone ⟨e, he, by simpa using hmarked⟩
    obtain ⟨e, he, hmarked⟩ := hhandles
    have hnumber := h.numbered maxRetries le_rfl _ _ _ (reported_of_handles he)
    rw [scheduled_attemptNumber, sub_self] at hnumber
    refine ⟨?_, (scheduled_ready_iff _).mp (ready_of_handles he), last_marksFailed_iff.mp hmarked⟩
    have hthree : (max 1 (3 - 0) : Int) = 3 := rfl
    rw [hthree] at hnumber
    omega
  · rintro ⟨htwo, hlast, hstores⟩
    obtain ⟨e, he⟩ := handles_of_ready ((scheduled_ready_iff _).mpr hlast)
      (hfail maxRetries le_rfl)
    refine ⟨?_, fun i hi => (stateAfter_not_failed investigationId attempts hcreated i hi).2, ?_⟩
    · exact failed_of_handles he (last_marksFailed_iff.mpr hstores) hrow
    · intro i hi code message number hmem
      have hnumber := number_of_run hmem
      rw [scheduled_attemptNumber, htwo] at hnumber
      omega

/-- Two retries, and every attempt cut off in the graph. -/
theorem lifecycle_two_retries :
    Lifecycle jobState.investigationId 2 (fun _ => jobAttempt 0 2) createdJob := by
  refine (job_lifecycle_iff jobState.investigationId 2 (fun _ => jobAttempt 0 2) createdJob rfl
    ?_).mpr ⟨rfl, ⟨rfl, fun _ => rfl, rfl, _, rfl⟩, rfl, rfl⟩
  intro i hi
  have hcases : i = 0 ∨ i = 1 ∨ i = 2 := by omega
  rcases hcases with rfl | rfl | rfl
  · exact ⟨_, rfl, rfl⟩
  · exact ⟨_, rfl, rfl⟩
  · exact ⟨_, rfl, rfl⟩

/-- Two attempts cut off in the graph, and a third that finds no Redis. -/
def redisGoesDown (i : Nat) : Attempt :=
  if i < 2 then jobAttempt 0 2
  else { jobAttempt 0 2 with redis := some (.exception "Redis is not initialised.") }

/--
With the default of two retries, a last attempt that fails before the graph leaves the
investigation in planning for good; with one retry, the two failures are reported as the
second and the third.
-/
theorem lifecycle_stuck_and_misnumbered :
    AllFail jobState.investigationId 2 redisGoesDown createdJob ∧
    (stateAfter jobState.investigationId 2 redisGoesDown createdJob 3).status = some "planning" ∧
    ¬ Lifecycle jobState.investigationId 2 redisGoesDown createdJob ∧
    (stateAfter jobState.investigationId 1 (fun _ => jobAttempt 0 2) createdJob 2).emitted =
      [.started, .failed "job_attempt_failed" "Task exceeded maximum timeout value" 2,
        .started, .failed "job_retries_exhausted" "Task exceeded maximum timeout value" 3] := by
  have hplanning :
      (stateAfter jobState.investigationId 2 redisGoesDown createdJob 3).status =
        some "planning" := by
    decide
  refine ⟨?_, hplanning, ?_, by decide⟩
  · intro i hi
    have hcases : i = 0 ∨ i = 1 ∨ i = 2 := by omega
    rcases hcases with rfl | rfl | rfl
    · exact ⟨_, rfl, rfl⟩
    · exact ⟨_, rfl, rfl⟩
    · exact ⟨_, rfl, rfl⟩
  · intro h
    exact absurd (hplanning.symm.trans h.failed) (by decide)

end InvestigationJob

end GaiaOS
