/-
Whether a complete investigation stays complete.

The update of the status asks nothing about what is stored, so what keeps a complete row
complete is that nobody fails it.  The one who might is the handler of the last attempt, and
it does not know whether the graph had finished: recording the completion stands in the same
`try`, and an earlier attempt may have completed the row and failed after that.

A stored version is written once and never changed, so the law is about the order they come
in: after a complete version there are only finished ones (`CompleteIsFinal`).
-/
import GaiaOS.Proofs.JobLifecycle

namespace GaiaOS

namespace InvestigationJob

/-- After a complete version: no failed status, no missing answer, no error for a trace. -/
def CompleteIsFinal (versions : List Investigation) : Prop :=
  versions.Pairwise fun earlier later => earlier.status = "complete" → Finished later

/--
The attempt raises no exception in its inner `try` when its handler would store a failure
and a complete version is stored, by an earlier attempt or by its own `finalize_node`.
-/
def Attempt.Spares (a : Attempt) (investigationId : Uuid) (s : JobState) : Prop :=
  ∀ query, (a.prepare investigationId s).2 = .ok query → a.marksFailed = true →
    ((∃ version ∈ s.versions, version.status = "complete") ∨
      ¬ (s.row = none ∨ a.committedUpdates (a.graphRun investigationId query s.thread) = [])) →
    ∀ e, (a.work investigationId query (a.prepare investigationId s).1).2 = .error e →
      e.isException = false

section Attempts

variable {a : Attempt} {investigationId : Uuid} {s : JobState}

/-- Finished versions may follow anything. -/
theorem completeIsFinal_append {versions finished : List Investigation}
    (h : ∀ version ∈ finished, Finished version) :
    CompleteIsFinal (versions ++ finished) ↔ CompleteIsFinal versions := by
  unfold CompleteIsFinal
  rw [List.pairwise_append]
  constructor
  · rintro ⟨hold, -, -⟩
    exact hold
  · intro hold
    refine ⟨hold, ?_, ?_⟩
    · refine List.pairwise_of_forall_mem_list ?_
      intro earlier _ later hlater _
      exact h later hlater
    · intro earlier _ later hlater _
      exact h later hlater

/-- A failed version may follow anything but a complete one. -/
theorem completeIsFinal_failed {versions : List Investigation} {failed : Investigation}
    (hfailed : failed.status = "failed") :
    CompleteIsFinal (versions ++ [failed]) ↔
      CompleteIsFinal versions ∧ ∀ version ∈ versions, version.status ≠ "complete" := by
  unfold CompleteIsFinal
  rw [List.pairwise_append]
  constructor
  · rintro ⟨hold, -, hcross⟩
    refine ⟨hold, ?_⟩
    intro version hmem hcomplete
    have hfinished := hcross version hmem failed (by simp) hcomplete
    exact absurd (hfailed.symm.trans hfinished.1) (by decide)
  · rintro ⟨hold, hnone⟩
    refine ⟨hold, List.pairwise_singleton _ _, ?_⟩
    intro version hmem later _ hcomplete
    exact absurd hcomplete (hnone version hmem)

/-- What is complete when a handler comes to store its failure: what was before, or what the
graph of its own attempt has finished. -/
theorem complete_stored_iff {query : String} {finished : List Investigation}
    (hempty : finished = [] ↔
      s.row = none ∨ a.committedUpdates (a.graphRun investigationId query s.thread) = [])
    (hfinished : ∀ version ∈ finished, Finished version) :
    (∃ version ∈ s.versions ++ finished, version.status = "complete") ↔
      (∃ version ∈ s.versions, version.status = "complete") ∨
        ¬ (s.row = none ∨
          a.committedUpdates (a.graphRun investigationId query s.thread) = []) := by
  rw [← hempty]
  constructor
  · rintro ⟨version, hmem, hstatus⟩
    rcases List.mem_append.mp hmem with hold | hnew
    · exact Or.inl ⟨version, hold, hstatus⟩
    · exact Or.inr (List.ne_nil_of_mem hnew)
  · rintro (⟨version, hmem, hstatus⟩ | hne)
    · exact ⟨version, List.mem_append_left _ hmem, hstatus⟩
    · obtain ⟨version, hmem⟩ := List.exists_mem_of_ne_nil _ hne
      exact ⟨version, List.mem_append_right _ hmem, (hfinished version hmem).1⟩

/-- An attempt whose handler stores a failure spares a row that is not complete by then. -/
theorem spares_iff_of_handles {e : PyError} (he : a.Handles investigationId s e)
    (hmarks : a.marksFailed = true) {query : String} {finished : List Investigation}
    (hprepare : (a.prepare investigationId s).2 = .ok query)
    (hcomplete : (∃ version ∈ s.versions ++ finished, version.status = "complete") ↔
      (∃ version ∈ s.versions, version.status = "complete") ∨
        ¬ (s.row = none ∨
          a.committedUpdates (a.graphRun investigationId query s.thread) = [])) :
    a.Spares investigationId s ↔
      ∀ version ∈ s.versions ++ finished, version.status ≠ "complete" := by
  have hsame : ∀ query', (a.prepare investigationId s).2 = .ok query' → query = query' := by
    intro query' hprepare'
    rw [hprepare] at hprepare'
    cases hprepare'
    rfl
  constructor
  · intro h version hmem hstatus
    obtain ⟨query', hprepare', hwork, hexception⟩ := he
    obtain rfl := hsame query' hprepare'
    have hnot := h query hprepare hmarks (hcomplete.mp ⟨version, hmem, hstatus⟩) e hwork
    rw [hexception] at hnot
    cases hnot
  · intro h query' hprepare' _ hstored
    obtain rfl := hsame query' hprepare'
    obtain ⟨version, hmem, hstatus⟩ := hcomplete.mpr hstored
    exact absurd hstatus (h version hmem)

/-- The step lemma. -/
theorem run_final_iff :
    CompleteIsFinal (a.run investigationId s).1.versions ↔
      CompleteIsFinal s.versions ∧ a.Spares investigationId s := by
  by_cases hhandles : ∃ e, a.Handles investigationId s e
  · obtain ⟨e, he⟩ := hhandles
    obtain ⟨query, finished, events, hprepare, hempty, hfinished, -, -, hversions⟩ :=
      run_of_handles a investigationId s he
    rw [hversions]
    by_cases hmarks : a.marksFailed = true
    · rw [if_pos hmarks,
        spares_iff_of_handles he hmarks hprepare (complete_stored_iff hempty hfinished)]
      cases hlast : (s.versions ++ finished).getLast? with
      | none =>
          rw [List.getLast?_eq_none_iff] at hlast
          have hnil : s.versions = [] := (List.append_eq_nil_iff.mp hlast).1
          rw [hlast, hnil]
          simp [CompleteIsFinal]
      | some row =>
          show CompleteIsFinal (s.versions ++ finished ++ [_]) ↔ _
          rw [completeIsFinal_failed rfl, completeIsFinal_append hfinished]
    · rw [if_neg hmarks, List.append_nil, completeIsFinal_append hfinished]
      refine ⟨fun h => ⟨h, ?_⟩, fun h => h.1⟩
      intro query' _ hmarked
      exact absurd hmarked hmarks
  · obtain ⟨finished, events, hfinished, -, -, hversions⟩ :=
      run_of_not_handles a investigationId s (fun e he => hhandles ⟨e, he⟩)
    rw [hversions, completeIsFinal_append hfinished]
    refine ⟨fun h => ⟨h, ?_⟩, fun h => h.1⟩
    intro query hprepare _ _ e hwork
    by_contra hexception
    exact hhandles ⟨e, query, hprepare, hwork, by simpa using hexception⟩

end Attempts

/--
**When complete is terminal.**  For every sequence of attempts: after a complete version of
the row only finished ones are stored, if and only if every attempt spares it.
-/
theorem complete_is_terminal_iff (investigationId : Uuid) (attempts : List Attempt)
    (created : JobState) (row : Investigation) (hcreated : created.versions = [row]) :
    CompleteIsFinal (runAll investigationId attempts created).versions ↔
      ∀ before a after, attempts = before ++ [a] ++ after →
        a.Spares investigationId (runAll investigationId before created) := by
  induction attempts using List.reverseRecOn with
  | nil =>
      constructor
      · intro _ before a after hsplit
        simp at hsplit
      · intro _
        show CompleteIsFinal created.versions
        rw [hcreated]
        exact List.pairwise_singleton _ _
  | append_singleton attempts last ih =>
      have hrun : runAll investigationId (attempts ++ [last]) created =
          (last.run investigationId (runAll investigationId attempts created)).1 := by
        simp [runAll]
      rw [hrun, run_final_iff, ih]
      constructor
      · rintro ⟨hold, hlast⟩ before a after hsplit
        rcases List.eq_nil_or_concat after with rfl | ⟨init, end_, rfl⟩
        · rw [List.append_nil] at hsplit
          obtain ⟨rfl, hsame⟩ := List.append_inj' hsplit rfl
          cases hsame
          exact hlast
        · rw [List.concat_eq_append, ← List.append_assoc] at hsplit
          obtain ⟨hsame, -⟩ := List.append_inj' hsplit rfl
          exact hold before a init hsame
      · intro h
        refine ⟨?_, h attempts last [] (by simp)⟩
        intro before a after hsplit
        exact h before a (after ++ [last]) (by rw [hsplit]; simp)

/-- An attempt that finishes and records its completion leaves the row complete. -/
theorem complete_after_success :
    CompleteIsFinal
      (runAll jobState.investigationId [jobAttempt 0 12] createdJob).versions := by
  refine (complete_is_terminal_iff jobState.investigationId [jobAttempt 0 12] createdJob _
    rfl).mpr ?_
  intro before a after hsplit
  obtain ⟨rfl, rfl, rfl⟩ : before = [] ∧ a = jobAttempt 0 12 ∧ after = [] := by
    cases before with
    | nil =>
        cases hsplit
        exact ⟨rfl, rfl, rfl⟩
    | cons first rest =>
        have hlength := congrArg List.length hsplit
        simp at hlength
  intro query hquery _ _ e he
  cases hquery
  cases he

/--
The graph has finished and the row is complete; recording the completion fails, no retries
are left, and the handler makes a failed investigation of it.
-/
theorem complete_then_failed :
    let a := { jobAttempt 0 12 with
      job := some (some 0), persistCompleted := .lost (.exception "connection is closed") }
    let versions := (runAll jobState.investigationId [a] createdJob).versions
    versions.map (·.status) = ["planning", "complete", "failed"] ∧
      versions.getLast?.map (·.executionTrace) =
        some (some (.error "connection is closed" (some "job_retries_exhausted"))) ∧
      ¬ CompleteIsFinal versions := by
  refine ⟨by decide, by decide, ?_⟩
  intro h
  have hpairs := List.pairwise_iff_getElem.mp h 1 2 (by decide) (by decide) (by decide) (by decide)
  exact absurd hpairs.1 (by decide)

end InvestigationJob

end GaiaOS
