/-
The benchmark runner, after `eval/harness/runner.py`.

A suite asks every question and records a row for each; a question that raises is recorded without
a score.  The baseline is read back with three queries.  Two of them are ordered by time, the third,
which reads the rows of the version, is not ordered at all, so each query comes with the order in
which the database scans the table.
-/
import GaiaOS.Lib.Dict
import GaiaOS.Schemas.AgentIo
import Mathlib.Data.List.Sort

namespace GaiaOS

namespace Eval

/-- `EvalBenchmarkRun`, with what the gate reads. -/
structure EvalBenchmarkRun where
  benchmarkQuestionId : Uuid
  orchestratorVersion : String
  score : Option ℚ
  runAt : Int
  deriving DecidableEq

structure BenchmarkQuestionResult where
  questionId : Uuid
  orchestratorVersion : String
  score : Option ℚ
  deriving DecidableEq

structure BenchmarkSuiteResult where
  orchestratorVersion : String
  results : List BenchmarkQuestionResult
  totalQuestions : Nat
  successfulRuns : Nat

/-! ### Running a suite -/

/-- The `try` around a question: its score, and whether it counts as a successful run. -/
def runQuestion (outcome : Except PyError (Option ℚ)) : Except PyError (Option ℚ × Bool) :=
  match outcome with
  | .ok score => .ok (score, true)
  | .error err => if err.isException then .ok (none, false) else .error err

/-- `_run_suite`, up to the commit: the result and the rows, each with the time it is written. -/
def runSuite (orchestratorVersion : String) (questions : List Uuid)
    (execute : Uuid → Except PyError (Option ℚ)) (now : Uuid → Int) :
    Except PyError (BenchmarkSuiteResult × List EvalBenchmarkRun) := do
  let collected ← questions.mapM fun q => do
    let (score, successful) ← runQuestion (execute q)
    pure (q, score, successful)
  let suiteResult : BenchmarkSuiteResult :=
    { orchestratorVersion
      results := collected.map fun (q, score, _) => ⟨q, orchestratorVersion, score⟩
      totalQuestions := questions.length
      successfulRuns := collected.countP fun (_, _, successful) => successful }
  return (suiteResult, collected.map fun (q, score, _) => ⟨q, orchestratorVersion, score, now q⟩)

/-! ### Reading the baseline -/

/-- The rows of a table in some order. -/
structure Scan (rows : List EvalBenchmarkRun) where
  order : List EvalBenchmarkRun
  perm : order.Perm rows

/-- The orders in which the three queries find the table. -/
structure BaselineScans (rows : List EvalBenchmarkRun) where
  versions : Scan rows
  all : Scan rows
  runs : Scan rows

/-- `.order_by(EvalBenchmarkRun.run_at.desc())`. -/
def newestFirst (runs : List EvalBenchmarkRun) : List EvalBenchmarkRun :=
  runs.insertionSort fun run other => other.runAt ≤ run.runAt

/-- The filter of the first query, if there is a current version. -/
def isPrior (currentVersion : Option String) (run : EvalBenchmarkRun) : Bool :=
  (currentVersion.filter (· ≠ "")).all (run.orchestratorVersion ≠ ·)

/-- `float(r.score) if r.score is not None else None` of a row. -/
def EvalBenchmarkRun.toResult (r : EvalBenchmarkRun) : BenchmarkQuestionResult :=
  ⟨r.benchmarkQuestionId, r.orchestratorVersion, r.score⟩

/-- The version of the newest row that is not of the current version, or else of the newest. -/
def targetVersion {rows : List EvalBenchmarkRun} (scans : BaselineScans rows)
    (currentVersion : Option String) : Option String :=
  match (newestFirst (scans.versions.order.filter (isPrior currentVersion))).head? with
  | some run => some run.orchestratorVersion
  | none => (newestFirst scans.all.order).head?.map (·.orchestratorVersion)

/-- `_fetch_baseline_by_version`. -/
def fetchBaselineByVersion {rows : List EvalBenchmarkRun} (scans : BaselineScans rows)
    (currentVersion : Option String) : Option BenchmarkSuiteResult :=
  match targetVersion scans currentVersion with
  | none => none
  | some version =>
      let runs := scans.runs.order.filter (·.orchestratorVersion = version)
      if runs.isEmpty then none
      else
        let results := runs.map EvalBenchmarkRun.toResult
        some
          { orchestratorVersion := version
            results
            totalQuestions := results.length
            successfulRuns := (results.filter fun r => r.score.isSome).length }

end Eval

end GaiaOS
