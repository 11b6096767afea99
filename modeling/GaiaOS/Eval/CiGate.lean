/-
The regression gate, after `check_for_regression` of `eval/harness/ci_gate.py`.

The questions of the two runs are compared by identifier.  A question without a score, which is how
the runner records one that raised, has no delta, and each average is over the common questions that
have a score in its own run.  Scores are exact rationals.
-/
import GaiaOS.Eval.Runner

namespace GaiaOS

namespace Eval

/-- `f"{x:.4f}"`, `f"{x:.2f}"` and `f"{x:+.4f}"`. -/
structure Formats where
  fixed4 : ℚ → String
  fixed2 : ℚ → String
  signed4 : ℚ → String

structure QuestionDelta where
  questionId : Uuid
  baselineScore : Option ℚ
  currentScore : Option ℚ
  delta : Option ℚ
  regressed : Bool

structure RegressionReport where
  regressed : Bool
  threshold : ℚ
  averageBaselineScore : Option ℚ := none
  averageCurrentScore : Option ℚ := none
  overallDelta : Option ℚ := none
  overallRegressed : Bool := false
  addedQuestionsCount : Nat := 0
  removedQuestionsCount : Nat := 0
  perQuestionDeltas : List QuestionDelta := []
  summary : String

/-- `{r.question_id: r.score for r in results}`. -/
def scoreMap (results : List BenchmarkQuestionResult) : Dict Uuid (Option ℚ) :=
  Dict.ofPairs (results.map fun r => (r.questionId, r.score))

/-- The scores of a run over the common questions, where they are not `None`. -/
def commonScores (commonIds : List Uuid) (scores : Dict Uuid (Option ℚ)) : List ℚ :=
  commonIds.filterMap fun q => (scores.get? q).join

/-- `sum(scores) / len(scores) if scores else None`. -/
def average (scores : List ℚ) : Option ℚ :=
  if scores.isEmpty then none else some (scores.sum / scores.length)

/-- `base - curr`, where there are both. -/
def scoreDelta (base curr : Option ℚ) : Option ℚ := do return (← base) - (← curr)

/-- A delta that is above the threshold. -/
def exceedsThreshold (threshold : ℚ) (delta : Option ℚ) : Bool := delta.any (threshold < ·)

/-- The pass of the loop over a common question. -/
def questionDelta (currentMap baselineMap : Dict Uuid (Option ℚ)) (threshold : ℚ) (q : Uuid) :
    QuestionDelta :=
  let currScore := (currentMap.get? q).join
  let baseScore := (baselineMap.get? q).join
  let delta := scoreDelta baseScore currScore
  ⟨q, baseScore, currScore, delta, exceedsThreshold threshold delta⟩

/-- The lines of the summary. -/
def summaryLines (fmt : Formats) (report : RegressionReport) (regressedQuestionsCount : Nat) :
    List String :=
  let scoreText (score : Option ℚ) : String := (score.map fmt.fixed4).getD "N/A"
  ["Regression Gate Result: " ++ (if report.regressed then "FAILED (Regressed)" else "PASSED"),
    "Threshold: " ++ fmt.fixed2 report.threshold,
    "Common Questions Score - Baseline: " ++ scoreText report.averageBaselineScore ++
      ", Current: " ++ scoreText report.averageCurrentScore] ++
  (report.overallDelta.toList.map fun delta =>
    "Overall Delta (Baseline - Current): " ++ fmt.signed4 delta) ++
  ["Regressed Common Questions: " ++ toString regressedQuestionsCount ++ "/" ++
    toString report.perQuestionDeltas.length] ++
  (if report.addedQuestionsCount = 0 then []
    else ["Added Questions (Not in baseline): " ++ toString report.addedQuestionsCount]) ++
  (if report.removedQuestionsCount = 0 then []
    else ["Removed Questions (Missing in current): " ++ toString report.removedQuestionsCount])

/-- The comparison of two runs, where there is a baseline with results. -/
def compareRuns (fmt : Formats) (currentRun baseline : BenchmarkSuiteResult) (threshold : ℚ) :
    RegressionReport :=
  let currentMap := scoreMap currentRun.results
  let baselineMap := scoreMap baseline.results
  let commonIds := currentMap.keys.filter (baselineMap.contains ·)
  let addedIds := currentMap.keys.filter fun q => !baselineMap.contains q
  let removedIds := baselineMap.keys.filter fun q => !currentMap.contains q
  let avgBaseline := average (commonScores commonIds baselineMap)
  let avgCurrent := average (commonScores commonIds currentMap)
  let overallDelta := scoreDelta avgBaseline avgCurrent
  let overallRegressed := exceedsThreshold threshold overallDelta
  let perQuestionDeltas :=
    (commonIds.insertionSort fun u v => u.text ≤ v.text).map
      (questionDelta currentMap baselineMap threshold)
  let regressedQuestionsCount := perQuestionDeltas.countP (·.regressed)
  let report : RegressionReport :=
    { regressed := overallRegressed || regressedQuestionsCount > 0
      threshold
      averageBaselineScore := avgBaseline
      averageCurrentScore := avgCurrent
      overallDelta
      overallRegressed
      addedQuestionsCount := addedIds.length
      removedQuestionsCount := removedIds.length
      perQuestionDeltas
      summary := "" }
  { report with summary := "\n".intercalate (summaryLines fmt report regressedQuestionsCount) }

/-- `check_for_regression`. -/
def checkForRegression (fmt : Formats) (currentRun : BenchmarkSuiteResult)
    (baseline : Option BenchmarkSuiteResult) (threshold : ℚ := 5 / 100) : RegressionReport :=
  match baseline.filter (!·.results.isEmpty) with
  | none =>
      { regressed := false
        threshold
        summary := "No prior baseline run available for comparison. " ++
          "Regression check passed trivially (first run)." }
  | some baseline => compareRuns fmt currentRun baseline threshold

end Eval

end GaiaOS
