/-
When a mining run completes, and that it accounts for every candidate.

A pass raises nothing of its own, and each adds one to the candidates and one to either the
accepted or the rejected.  What is left to raise before the loop is the sorting of the region
labels, which compares a missing label with a text.
-/
import GaiaOS.Lib.Machine
import GaiaOS.Proofs.PatternVersions

namespace GaiaOS

namespace PatternMining

open PatternFindingRepository

variable (lib : Library)

/-- The database raises nothing. -/
def MiningRun.Undisturbed (run : MiningRun) : Prop :=
  run.session.execute = none ∧ (∀ n, run.session.save n = none) ∧ run.session.commit = none

/-- The events since the start of the lookback window. -/
def MiningRun.recentEvents (run : MiningRun) : List HazardEvent :=
  run.hazardEvents.filter fun event =>
    run.now - run.settings.patternLookbackDays * microsecondsPerDay ≤ event.eventDate

/-- The lookback window starts at a date there is. -/
def MiningRun.LooksBackInRange (run : MiningRun) : Prop :=
  minDatetime ≤ run.now - run.settings.patternLookbackDays * microsecondsPerDay

/-- Every label is missing, or none is. -/
def SameKindOfLabels (events : List HazardEvent) : Prop :=
  (∀ event ∈ events, event.regionLabel = none) ∨ ∀ event ∈ events, event.regionLabel ≠ none

/-! ### The events -/

theorem events_eq {run : MiningRun} (hquiet : run.Undisturbed) (hrange : run.LooksBackInRange) :
    run.events = .ok run.recentEvents := by
  have hcutoff : run.cutoffDate =
      .ok (run.now - run.settings.patternLookbackDays * microsecondsPerDay) := by
    unfold MiningRun.cutoffDate
    exact if_neg (not_lt.mpr hrange)
  unfold MiningRun.events
  rw [hcutoff, hquiet.1]
  rfl

theorem events_ok {run : MiningRun} {events : List HazardEvent} (h : run.events = .ok events) :
    run.LooksBackInRange ∧ events = run.recentEvents := by
  unfold MiningRun.events at h
  obtain ⟨cutoff, hcutoff, h⟩ := ok_of_bind h
  obtain ⟨-, -, h⟩ := ok_of_bind h
  unfold MiningRun.cutoffDate at hcutoff
  by_cases hbefore :
      run.now - run.settings.patternLookbackDays * microsecondsPerDay < minDatetime
  · rw [if_pos hbefore] at hcutoff
    cases hcutoff
  · rw [if_neg hbefore] at hcutoff
    obtain rfl := Except.ok.inj hcutoff
    exact ⟨not_lt.mp hbefore, (Except.ok.inj h).symm⟩

/-! ### The labels -/

/-- Distinct labels that are all missing are at most one. -/
theorem length_le_one_of_forall_none {labels : List (Option String)} (hnodup : labels.Nodup)
    (h : ∀ label ∈ labels, label = none) : labels.length ≤ 1 := by
  match labels with
  | [] => exact Nat.zero_le 1
  | [_] => exact le_refl 1
  | first :: second :: _ =>
      exfalso
      have hfirst : first = none := h first List.mem_cons_self
      have hsecond : second = none := h second (List.mem_cons_of_mem _ List.mem_cons_self)
      refine (List.nodup_cons.mp hnodup).1 ?_
      rw [hfirst, ← hsecond]
      exact List.mem_cons_self

/-- **The labels can be sorted exactly if all of them are of one kind.** -/
theorem sortedRegions_isOk_iff (events : List HazardEvent) :
    (∃ regions, sortedRegions events = .ok regions) ↔ SameKindOfLabels events := by
  have hmem : ∀ label, label ∈ (events.map (·.regionLabel)).dedup ↔
      ∃ event ∈ events, event.regionLabel = label := by
    intro label
    rw [List.mem_dedup, List.mem_map]
  have hraises : (∃ regions, sortedRegions events = .ok regions) ↔
      ¬ (none ∈ (events.map (·.regionLabel)).dedup ∧
        1 < (events.map (·.regionLabel)).dedup.length) := by
    unfold sortedRegions
    simp only
    split
    · next hmixed => exact ⟨fun ⟨_, h⟩ => (by cases h), fun h => absurd hmixed h⟩
    · next hmixed => exact ⟨fun _ => hmixed, fun _ => ⟨_, rfl⟩⟩
  rw [hraises]
  constructor
  · intro hsortable
    by_cases hnone : none ∈ (events.map (·.regionLabel)).dedup
    · -- a missing label is then the only one
      left
      intro event hevent
      have hone : (events.map (·.regionLabel)).dedup.length ≤ 1 :=
        not_lt.mp fun hlong => hsortable ⟨hnone, hlong⟩
      have hlabel : event.regionLabel ∈ (events.map (·.regionLabel)).dedup :=
        (hmem _).mpr ⟨event, hevent, rfl⟩
      obtain ⟨only, honly⟩ := List.length_eq_one_iff.mp
        (le_antisymm hone (List.length_pos_of_mem hnone))
      rw [honly, List.mem_singleton] at hnone hlabel
      rw [hlabel, ← hnone]
    · right
      intro event hevent hmissing
      exact hnone ((hmem none).mpr ⟨event, hevent, hmissing⟩)
  · intro hkind hmixed
    rcases hkind with hall | hno
    · refine absurd hmixed.2 (not_lt.mpr ?_)
      refine length_le_one_of_forall_none (List.nodup_dedup _) ?_
      intro label hlabel
      obtain ⟨event, hevent, rfl⟩ := (hmem label).mp hlabel
      exact hall event hevent
    · obtain ⟨event, hevent, hmissing⟩ := (hmem none).mp hmixed.1
      exact hno event hevent hmissing

/-! ### The passes -/

/-- An undisturbed pass completes. -/
theorem pass_completes {run : MiningRun} (hquiet : run.Undisturbed) (events : List HazardEvent)
    (progress : Progress) (c : Candidate) :
    ∃ progress', progress.pass lib run events c = .ok progress' := by
  unfold Progress.pass
  rw [mineCandidate_eq]
  cases found lib run.settings run.minedAt events c with
  | none => exact ⟨_, rfl⟩
  | some fields =>
      simp only [hquiet.2.1, raiseIf]
      exact ⟨_, rfl⟩

/-- Every candidate so far was accepted or rejected. -/
def Progress.Accounts (progress : Progress) : Prop :=
  progress.accepted + progress.rejected = progress.candidatePairs

/-- A pass accounts for its candidate. -/
theorem Progress.Accounts.pass {run : MiningRun} {events : List HazardEvent}
    {progress progress' : Progress} {c : Candidate} (h : progress.Accounts)
    (hpass : progress.pass lib run events c = .ok progress') :
    progress'.Accounts ∧ progress'.candidatePairs = progress.candidatePairs + 1 := by
  unfold Progress.pass at hpass
  unfold Progress.Accounts at h ⊢
  obtain ⟨o, -, hpass⟩ := ok_of_bind hpass
  cases o with
  | none =>
      obtain rfl := Except.ok.inj hpass
      exact ⟨by simp only; omega, rfl⟩
  | some fields =>
      obtain ⟨-, -, hpass⟩ := ok_of_bind hpass
      obtain rfl := Except.ok.inj hpass
      exact ⟨by simp only; omega, rfl⟩

/-- The passes account for all of the candidates. -/
theorem accounts_passes {run : MiningRun} {events : List HazardEvent} {cs : List Candidate}
    {table : List PatternFinding} {progress : Progress}
    (h : cs.foldlM (Progress.pass lib run events) { table := table } = .ok progress) :
    progress.Accounts ∧ progress.candidatePairs = cs.length := by
  refine foldlM_of_ok (P := fun done progress =>
    progress.Accounts ∧ progress.candidatePairs = done.length) h ⟨rfl, rfl⟩ ?_
  intro done c before after _ hbefore hpass
  obtain ⟨haccounts, hcount⟩ := hbefore.1.pass lib hpass
  refine ⟨haccounts, ?_⟩
  rw [hcount, hbefore.2, List.length_append, List.length_singleton]

/-! ### A run -/

/-- A run that completes has accounted for every candidate. -/
theorem accounts_of_completed {run : MiningRun} {table findings : List PatternFinding}
    {report : MiningReport} (h : executePatternMining lib run table = .ok (report, findings)) :
    report.acceptedFindings + report.rejectedFindings = report.candidatePairs := by
  unfold executePatternMining at h
  obtain ⟨events, -, h⟩ := ok_of_bind h
  by_cases hfew : events.length < 2
  · rw [if_pos hfew] at h
    obtain ⟨rfl, -⟩ := Prod.mk.inj (Except.ok.inj h)
    rfl
  · rw [if_neg hfew] at h
    obtain ⟨regions, -, h⟩ := ok_of_bind h
    obtain ⟨progress, hpasses, h⟩ := ok_of_bind h
    obtain ⟨-, -, h⟩ := ok_of_bind h
    obtain ⟨rfl, -⟩ := Prod.mk.inj (Except.ok.inj h)
    exact (accounts_passes lib hpasses).1

/-- What an undisturbed run needs in order to complete. -/
theorem completes_of {run : MiningRun} (table : List PatternFinding)
    (hquiet : run.Undisturbed) (hrange : run.LooksBackInRange)
    (h : run.recentEvents.length < 2 ∨ SameKindOfLabels run.recentEvents) :
    ∃ report findings, executePatternMining lib run table = .ok (report, findings) := by
  by_cases hfew : run.recentEvents.length < 2
  · refine ⟨⟨run.recentEvents.length, 0, 0, 0, run.durationMs⟩, table, ?_⟩
    unfold executePatternMining
    rw [events_eq hquiet hrange]
    exact if_pos hfew
  · have hkind : SameKindOfLabels run.recentEvents := h.resolve_left hfew
    obtain ⟨regions, hregions⟩ := (sortedRegions_isOk_iff _).mpr hkind
    obtain ⟨progress, hpasses⟩ := foldlM_completes
      { table := table }
      fun c (_ : c ∈ candidates (eventTypes lib run.recentEvents) regions) before =>
        pass_completes lib hquiet run.recentEvents before c
    refine ⟨⟨run.recentEvents.length, progress.candidatePairs, progress.accepted,
      progress.rejected, run.durationMs⟩, progress.table, ?_⟩
    unfold executePatternMining
    rw [events_eq hquiet hrange]
    refine (if_neg hfew).trans ?_
    simp only [hregions, hpasses, hquiet.2.2, raiseIf, bind, Except.bind]
    rfl

/--
**When mining completes and accounts for every candidate.**  A run that the database does not
disturb does so exactly if its lookback window starts at a date there is and, where there are two
events or more to mine, their region labels are all missing or all present.
-/
theorem mining_completes_iff (run : MiningRun) (table : List PatternFinding)
    (hquiet : run.Undisturbed) :
    (∃ report findings, executePatternMining lib run table = .ok (report, findings) ∧
      report.acceptedFindings + report.rejectedFindings = report.candidatePairs) ↔
    run.LooksBackInRange ∧
      (run.recentEvents.length < 2 ∨ SameKindOfLabels run.recentEvents) := by
  constructor
  · rintro ⟨report, findings, hrun, -⟩
    unfold executePatternMining at hrun
    obtain ⟨events, hevents, hrun⟩ := ok_of_bind hrun
    obtain ⟨hrange, rfl⟩ := events_ok hevents
    refine ⟨hrange, ?_⟩
    by_cases hfew : run.recentEvents.length < 2
    · exact .inl hfew
    · rw [if_neg hfew] at hrun
      obtain ⟨regions, hregions, -⟩ := ok_of_bind hrun
      exact .inr ((sortedRegions_isOk_iff _).mp ⟨regions, hregions⟩)
  · rintro ⟨hrange, h⟩
    obtain ⟨report, findings, hrun⟩ := completes_of lib table hquiet hrange h
    exact ⟨report, findings, hrun, accounts_of_completed lib hrun⟩

/-- An earthquake with no label and a tsunami in Japan, on the day after. -/
def partlyLabelled : MiningRun where
  settings := (sampleRun 20000 20001).settings
  hazardEvents :=
    [⟨⟨"e1b2c3d4-e5f6-7890-abcd-ef1234567890", rfl⟩, "earthquake", none,
        20000 * microsecondsPerDay⟩,
      ⟨⟨"f1b2c3d4-e5f6-7890-abcd-ef1234567890", rfl⟩, "tsunami", some "Japan",
        20001 * microsecondsPerDay⟩]
  now := 20010 * microsecondsPerDay
  minedAt := 20010 * microsecondsPerDay

/-- The run over them completes once each has a label. -/
theorem mining_completes_labelled :
    let run := { partlyLabelled with
      hazardEvents := partlyLabelled.hazardEvents.map fun event =>
        { event with regionLabel := some "Japan" } }
    (∃ report findings, executePatternMining Library.reference run [] = .ok (report, findings) ∧
      report.acceptedFindings + report.rejectedFindings = report.candidatePairs) ∧
    run.LooksBackInRange ∧ SameKindOfLabels run.recentEvents := by
  intro run
  have hkind : SameKindOfLabels run.recentEvents := by
    right
    decide +kernel
  have hrange : run.LooksBackInRange := by
    unfold MiningRun.LooksBackInRange
    decide +kernel
  exact ⟨(mining_completes_iff Library.reference run [] ⟨rfl, fun _ => rfl, rfl⟩).mpr
    ⟨hrange, .inr hkind⟩, hrange, hkind⟩

/-- One missing label next to a present one, and the run raises before it looks at anything. -/
theorem mining_raises_on_missing_label :
    executePatternMining Library.reference partlyLabelled [] =
      .error (.typeError "'<' not supported between instances of 'NoneType' and 'str'") := by
  decide +kernel

end PatternMining

end GaiaOS
