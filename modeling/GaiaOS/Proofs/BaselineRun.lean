/-
When the baseline is the latest run of its version.

The version is that of the newest row.  Its rows are then read without an order and folded into a
dict, so that of two rows of one question the one read last is compared with, and both are counted.
Only where no question has two rows in the version does the order of the scan not matter.
-/
import GaiaOS.Eval.CiGate
import Mathlib.Data.List.Dedup

namespace GaiaOS

namespace Eval

/-- The rows of a version. -/
def versionRows (rows : List EvalBenchmarkRun) (version : String) : List EvalBenchmarkRun :=
  rows.filter (·.orchestratorVersion = version)

/-- The rows one of which decides the version: those of other versions, or all if there are none. -/
def baselinePool (rows : List EvalBenchmarkRun) (currentVersion : Option String) :
    List EvalBenchmarkRun :=
  if (rows.filter (isPrior currentVersion)).isEmpty then rows
  else rows.filter (isPrior currentVersion)

/-- A version of a newest row. -/
def IsBaselineVersion (rows : List EvalBenchmarkRun) (currentVersion : Option String)
    (version : String) : Prop :=
  ∃ row ∈ baselinePool rows currentVersion, row.orchestratorVersion = version ∧
    ∀ other ∈ baselinePool rows currentVersion, other.runAt ≤ row.runAt

/-- No run of the question is later. -/
def IsLatestRun (runs : List EvalBenchmarkRun) (row : EvalBenchmarkRun) : Prop :=
  row ∈ runs ∧ ∀ other ∈ runs, other.benchmarkQuestionId = row.benchmarkQuestionId →
    other.runAt ≤ row.runAt

/-- The baseline has the latest score of each question and counts each question once. -/
structure ReadsLatest (rows : List EvalBenchmarkRun) (baseline : BenchmarkSuiteResult) : Prop where
  scores : ∀ row, IsLatestRun (versionRows rows baseline.orchestratorVersion) row →
    (scoreMap baseline.results).get? row.benchmarkQuestionId = some row.score
  total : baseline.totalQuestions =
    ((versionRows rows baseline.orchestratorVersion).map (·.benchmarkQuestionId)).dedup.length
  successful : baseline.successfulRuns =
    (((versionRows rows baseline.orchestratorVersion).filter (·.score.isSome)).map
      (·.benchmarkQuestionId)).dedup.length

/-- Every question has at most one row in the version. -/
def RunOnce (rows : List EvalBenchmarkRun) (version : String) : Prop :=
  ((versionRows rows version).map (·.benchmarkQuestionId)).Nodup

variable {rows : List EvalBenchmarkRun} {currentVersion : Option String} {version : String}
  {baseline : BenchmarkSuiteResult} {row : EvalBenchmarkRun}

/-! ### The version -/

instance : Std.Total fun run other : EvalBenchmarkRun => other.runAt ≤ run.runAt :=
  ⟨fun _ _ => le_total _ _⟩

instance : IsTrans EvalBenchmarkRun fun run other => other.runAt ≤ run.runAt :=
  ⟨fun _ _ _ hab hbc => hbc.trans hab⟩

/-- The first of the sorted rows is a newest. -/
theorem head_newestFirst {runs : List EvalBenchmarkRun} (h : (newestFirst runs).head? = some row) :
    row ∈ runs ∧ ∀ other ∈ runs, other.runAt ≤ row.runAt := by
  have hperm := List.perm_insertionSort (fun run other : EvalBenchmarkRun =>
    other.runAt ≤ run.runAt) runs
  have hsorted := List.pairwise_insertionSort (fun run other : EvalBenchmarkRun =>
    other.runAt ≤ run.runAt) runs
  unfold newestFirst at h
  obtain ⟨rest, hrest⟩ := List.head?_eq_some_iff.mp h
  rw [hrest] at hperm hsorted
  refine ⟨hperm.mem_iff.mp List.mem_cons_self, fun other hother => ?_⟩
  rcases List.mem_cons.mp (hperm.mem_iff.mpr hother) with rfl | hmem
  · exact le_refl _
  · exact (List.pairwise_cons.mp hsorted).1 other hmem

/-- A newest row that is scanned first stays first. -/
theorem newestFirst_cons {runs : List EvalBenchmarkRun}
    (h : ∀ other ∈ runs, other.runAt ≤ row.runAt) :
    (newestFirst (row :: runs)).head? = some row := by
  unfold newestFirst
  rw [List.insertionSort_cons]
  cases hsorted : runs.insertionSort fun run other => other.runAt ≤ run.runAt with
  | nil => rfl
  | cons first rest =>
      have hfirst : first ∈ runs := by
        rw [← (List.perm_insertionSort (fun run other : EvalBenchmarkRun =>
          other.runAt ≤ run.runAt) runs).mem_iff, hsorted]
        exact List.mem_cons_self
      rw [List.orderedInsert_cons_of_le (fun run other : EvalBenchmarkRun =>
        other.runAt ≤ run.runAt) _ (h first hfirst)]
      rfl

theorem newestFirst_eq_nil {runs : List EvalBenchmarkRun} (h : (newestFirst runs).head? = none) :
    runs = [] :=
  List.Perm.eq_nil ((List.head?_eq_none_iff.mp h) ▸ (List.perm_insertionSort
    (fun run other : EvalBenchmarkRun => other.runAt ≤ run.runAt) runs).symm)

/-- Whatever the scans, the version is that of a newest row. -/
theorem isBaselineVersion_of_target {scans : BaselineScans rows}
    (h : targetVersion scans currentVersion = some version) :
    IsBaselineVersion rows currentVersion version := by
  have hprior : (scans.versions.order.filter (isPrior currentVersion)).Perm
      (rows.filter (isPrior currentVersion)) := scans.versions.perm.filter _
  unfold targetVersion at h
  unfold IsBaselineVersion baselinePool
  cases hhead : (newestFirst (scans.versions.order.filter (isPrior currentVersion))).head? with
  | some run =>
      rw [hhead] at h
      obtain rfl := Option.some.inj h
      obtain ⟨hmem, hmax⟩ := head_newestFirst hhead
      have hrow := hprior.mem_iff.mp hmem
      rw [if_neg (by simpa using List.ne_nil_of_mem hrow)]
      exact ⟨run, hrow, rfl, fun other hother => hmax other (hprior.mem_iff.mpr hother)⟩
  | none =>
      rw [hhead] at h
      have hnone : rows.filter (isPrior currentVersion) = [] := by
        rw [newestFirst_eq_nil hhead] at hprior
        exact List.nil_perm.mp hprior
      obtain ⟨run, hrun, rfl⟩ := Option.map_eq_some_iff.mp h
      obtain ⟨hmem, hmax⟩ := head_newestFirst hrun
      rw [if_pos (by simpa using hnone)]
      exact ⟨run, scans.all.perm.mem_iff.mp hmem, rfl,
        fun other hother => hmax other (scans.all.perm.mem_iff.mpr hother)⟩

/-- A scan that finds a row first. -/
def Scan.startingWith (rows : List EvalBenchmarkRun) (row : EvalBenchmarkRun) (h : row ∈ rows) :
    Scan rows :=
  ⟨row :: rows.erase row, (List.perm_cons_erase h).symm⟩

/-- For the version of a newest row there are scans that choose it. -/
theorem exists_scans_of_isBaselineVersion (h : IsBaselineVersion rows currentVersion version) :
    ∃ scans : BaselineScans rows, targetVersion scans currentVersion = some version := by
  obtain ⟨row, hpool, rfl, hmax⟩ := h
  have hrow : row ∈ rows := by
    unfold baselinePool at hpool
    split at hpool
    · exact hpool
    · exact (List.mem_filter.mp hpool).1
  let scan := Scan.startingWith rows row hrow
  refine ⟨⟨scan, scan, scan⟩, ?_⟩
  unfold targetVersion
  unfold baselinePool at hpool hmax
  by_cases hprior : (rows.filter (isPrior currentVersion)).isEmpty = true
  · rw [if_pos hprior] at hmax
    have hnone : scan.order.filter (isPrior currentVersion) = [] := by
      have hperm := scan.perm.filter (isPrior currentVersion)
      rw [List.isEmpty_iff.mp hprior] at hperm
      exact hperm.eq_nil
    have hhead : (newestFirst scan.order).head? = some row :=
      newestFirst_cons fun other hother => hmax other (List.mem_of_mem_erase hother)
    rw [hnone]
    show (newestFirst scan.order).head?.map _ = _
    rw [hhead]
    rfl
  · rw [if_neg hprior] at hpool hmax
    have hfilter : scan.order.filter (isPrior currentVersion) =
        row :: (rows.erase row).filter (isPrior currentVersion) :=
      List.filter_cons_of_pos (List.mem_filter.mp hpool).2
    have hhead : (newestFirst (scan.order.filter (isPrior currentVersion))).head? = some row := by
      rw [hfilter]
      refine newestFirst_cons fun other hother => hmax other ?_
      obtain ⟨hmem, hother⟩ := List.mem_filter.mp hother
      exact List.mem_filter.mpr ⟨List.mem_of_mem_erase hmem, hother⟩
    rw [hhead]

/-! ### The rows of the version -/

theorem length_filter_toResult (runs : List EvalBenchmarkRun) :
    ((runs.map EvalBenchmarkRun.toResult).filter (·.score.isSome)).length =
      (runs.filter (·.score.isSome)).length := by
  rw [List.filter_map, List.length_map]
  rfl

/-- What is read of a version, and how it is counted. -/
theorem fetchBaseline_eq_some {scans : BaselineScans rows}
    (h : fetchBaselineByVersion scans currentVersion = some baseline) :
    targetVersion scans currentVersion = some baseline.orchestratorVersion ∧
      ∃ runs : List EvalBenchmarkRun, runs.Perm (versionRows rows baseline.orchestratorVersion) ∧
        baseline.results = runs.map EvalBenchmarkRun.toResult ∧
        baseline.totalQuestions = runs.length ∧
        baseline.successfulRuns = (runs.filter (·.score.isSome)).length := by
  unfold fetchBaselineByVersion at h
  cases htarget : targetVersion scans currentVersion with
  | none =>
      rw [htarget] at h
      cases h
  | some version =>
      rw [htarget] at h
      simp only at h
      split at h
      · cases h
      · obtain rfl := Option.some.inj h
        exact ⟨rfl, _, scans.runs.perm.filter _, rfl, List.length_map _, length_filter_toResult _⟩

/-- The version of a newest row has rows, so there is a baseline. -/
theorem fetchBaseline_isSome {scans : BaselineScans rows}
    (h : targetVersion scans currentVersion = some version) :
    ∃ baseline, fetchBaselineByVersion scans currentVersion = some baseline ∧
      baseline.orchestratorVersion = version := by
  obtain ⟨row, hpool, hversion, -⟩ := isBaselineVersion_of_target h
  have hrow : row ∈ rows := by
    unfold baselinePool at hpool
    split at hpool
    · exact hpool
    · exact (List.mem_filter.mp hpool).1
  have hruns : row ∈ scans.runs.order.filter (·.orchestratorVersion = version) :=
    List.mem_filter.mpr ⟨scans.runs.perm.mem_iff.mpr hrow, decide_eq_true hversion⟩
  unfold fetchBaselineByVersion
  rw [h]
  simp only
  rw [if_neg (by simpa using List.ne_nil_of_mem hruns)]
  exact ⟨_, rfl, rfl⟩

/-- Two runs of a question are one, where every question is run once. -/
theorem readsLatest_of_runOnce {scans : BaselineScans rows}
    (h : fetchBaselineByVersion scans currentVersion = some baseline)
    (honce : RunOnce rows baseline.orchestratorVersion) : ReadsLatest rows baseline := by
  obtain ⟨-, runs, hperm, hresults, htotal, hsuccessful⟩ := fetchBaseline_eq_some h
  have hnodup : (runs.map EvalBenchmarkRun.benchmarkQuestionId).Nodup :=
    (hperm.map _).nodup_iff.mpr honce
  constructor
  · rintro row ⟨hrow, -⟩
    have hkeys : ((baseline.results.map fun r => (r.questionId, r.score)).map Prod.fst).Nodup := by
      rw [hresults, List.map_map, List.map_map]
      exact hnodup
    unfold scoreMap
    rw [Dict.get?_ofPairs_of_nodup hkeys]
    refine Dict.lookup_of_mem hkeys ?_
    rw [hresults]
    exact List.mem_map.mpr ⟨row.toResult, List.mem_map_of_mem (hperm.mem_iff.mpr hrow), rfl⟩
  · rw [htotal, honce.dedup, List.length_map, hperm.length_eq]
  · have hscored : (((versionRows rows baseline.orchestratorVersion).filter (·.score.isSome)).map
        (·.benchmarkQuestionId)).Nodup := honce.sublist (List.filter_sublist.map _)
    rw [hsuccessful, hscored.dedup, List.length_map, (hperm.filter _).length_eq]

/-- Where the rows are as many as the questions, every question is run once. -/
theorem runOnce_of_total {scans : BaselineScans rows}
    (h : fetchBaselineByVersion scans currentVersion = some baseline)
    (hlatest : ReadsLatest rows baseline) : RunOnce rows baseline.orchestratorVersion := by
  obtain ⟨-, runs, hperm, -, htotal, -⟩ := fetchBaseline_eq_some h
  have hlength := hlatest.total
  rw [htotal, hperm.length_eq, ← List.length_map (·.benchmarkQuestionId)] at hlength
  exact List.dedup_eq_self.mp ((List.dedup_sublist _).eq_of_length hlength.symm)

/--
**When the baseline is the latest run of its version.**  However the tables are scanned, the gate
compares with the latest score of each question and counts each question once, exactly if in every
version of a newest row each question has one row.
-/
theorem baseline_is_latest_iff (rows : List EvalBenchmarkRun) (currentVersion : Option String) :
    (∀ (scans : BaselineScans rows) (baseline : BenchmarkSuiteResult),
      fetchBaselineByVersion scans currentVersion = some baseline → ReadsLatest rows baseline) ↔
    ∀ version, IsBaselineVersion rows currentVersion version → RunOnce rows version := by
  constructor
  · intro hreads version hversion
    obtain ⟨scans, htarget⟩ := exists_scans_of_isBaselineVersion hversion
    obtain ⟨baseline, hbaseline, rfl⟩ := fetchBaseline_isSome htarget
    exact runOnce_of_total hbaseline (hreads scans baseline hbaseline)
  · intro honce scans baseline hbaseline
    obtain ⟨htarget, -⟩ := fetchBaseline_eq_some hbaseline
    exact readsLatest_of_runOnce hbaseline (honce _ (isBaselineVersion_of_target htarget))

/-! ### A version that was run twice -/

def rerunQuestion : Uuid := ⟨"11234567-89ab-4cde-8f01-23456789abcd", rfl⟩

/-- A score of 0.2, and of 0.9 a day later. -/
def rerun : List EvalBenchmarkRun :=
  [⟨rerunQuestion, "v1", some (9 / 10), 86400⟩, ⟨rerunQuestion, "v1", some (1 / 5), 0⟩]

/-- The table as it stands in every query. -/
def Scan.asStored (rows : List EvalBenchmarkRun) : BaselineScans rows :=
  ⟨⟨rows, .refl _⟩, ⟨rows, .refl _⟩, ⟨rows, .refl _⟩⟩

/-- The old score is compared with, and the question counts as two. -/
theorem rerun_compared_with_old :
    IsLatestRun (versionRows rerun "v1") ⟨rerunQuestion, "v1", some (9 / 10), 86400⟩ ∧
    ∃ baseline, fetchBaselineByVersion (Scan.asStored rerun) (some "v2") = some baseline ∧
      baseline.orchestratorVersion = "v1" ∧
      (scoreMap baseline.results).get? rerunQuestion = some (some (1 / 5)) ∧
      baseline.totalQuestions = 2 ∧ baseline.successfulRuns = 2 := by
  refine ⟨⟨by decide +kernel, ?_⟩, _, rfl, rfl, by decide +kernel, rfl, rfl⟩
  decide +kernel

end Eval

end GaiaOS
