/-
How the regression gate answers to worse scores.

Whether a run is flagged depends on two comparisons (`regressed_iff`): that of the averages and that
of each common question.  Lower scores leave the same questions in both, and make every difference
larger, so that a run that is flagged stays flagged.  A score that is missing takes its question out
of the comparison instead.
-/
import GaiaOS.Eval.CiGate
import Mathlib.Algebra.Order.Field.Rat
import Mathlib.Tactic.Linarith

namespace GaiaOS

namespace Eval

/-- The same score or a lower one; a question without a score stays without one. -/
def LowerScore : Option ℚ → Option ℚ → Prop := Option.Rel fun score lowered => lowered ≤ score

/-- A lower score or none at all. -/
def WorseScore (score worse : Option ℚ) : Prop := worse = none ∨ LowerScore score worse

/-- The results of two runs over the same questions, with related scores. -/
def Rescored (related : Option ℚ → Option ℚ → Prop) :
    List BenchmarkQuestionResult → List BenchmarkQuestionResult → Prop :=
  List.Forall₂ fun r r' => r.questionId = r'.questionId ∧ related r.score r'.score

/-- The questions of a run that the baseline has too. -/
def commonIds (current baseline : BenchmarkSuiteResult) : List Uuid :=
  (scoreMap current.results).keys.filter ((scoreMap baseline.results).contains ·)

/-- The score of a question in a run, if it has one. -/
def scoreOf (run : BenchmarkSuiteResult) (q : Uuid) : Option ℚ :=
  ((scoreMap run.results).get? q).join

/-- The question is in the baseline with a score that is above the current one by more than the
threshold. -/
def Drops (threshold : ℚ) (current baseline : BenchmarkSuiteResult) (q : Uuid) : Prop :=
  exceedsThreshold threshold (scoreDelta (scoreOf baseline q) (scoreOf current q)) = true

variable {fmt : Formats} {current lowered worse baseline : BenchmarkSuiteResult} {threshold : ℚ}
  {related : Option ℚ → Option ℚ → Prop}

/-! ### What makes a report -/

theorem checkForRegression_eq (hne : baseline.results ≠ []) :
    checkForRegression fmt current (some baseline) threshold =
      compareRuns fmt current baseline threshold := by
  have hsome : (some baseline).filter (fun b => !b.results.isEmpty) = some baseline := by
    simpa using hne
  unfold checkForRegression
  rw [hsome]

/-- The report has the delta of every common question. -/
theorem mem_perQuestionDeltas {d : QuestionDelta} :
    d ∈ (compareRuns fmt current baseline threshold).perQuestionDeltas ↔
      ∃ q ∈ commonIds current baseline,
        d = questionDelta (scoreMap current.results) (scoreMap baseline.results) threshold q := by
  unfold compareRuns commonIds
  simp only [List.mem_map, (List.perm_insertionSort _ _).mem_iff]
  constructor
  · rintro ⟨q, hq, rfl⟩
    exact ⟨q, hq, rfl⟩
  · rintro ⟨q, hq, rfl⟩
    exact ⟨q, hq, rfl⟩

/-- **A run is flagged** if the averages or the scores of a common question drop too far. -/
theorem regressed_iff (hne : baseline.results ≠ []) :
    (checkForRegression fmt current (some baseline) threshold).regressed = true ↔
      exceedsThreshold threshold
        (scoreDelta
          (average (commonScores (commonIds current baseline) (scoreMap baseline.results)))
          (average (commonScores (commonIds current baseline) (scoreMap current.results)))) = true ∨
      ∃ q ∈ commonIds current baseline, Drops threshold current baseline q := by
  rw [checkForRegression_eq hne]
  have hcount : 0 < (compareRuns fmt current baseline threshold).perQuestionDeltas.countP
        (·.regressed) ↔ ∃ q ∈ commonIds current baseline, Drops threshold current baseline q := by
    rw [List.countP_pos_iff]
    constructor
    · rintro ⟨d, hd, hregressed⟩
      obtain ⟨q, hq, rfl⟩ := mem_perQuestionDeltas.mp hd
      exact ⟨q, hq, hregressed⟩
    · rintro ⟨q, hq, hdrops⟩
      exact ⟨_, mem_perQuestionDeltas.mpr ⟨q, hq, rfl⟩, hdrops⟩
  rw [← hcount]
  unfold compareRuns commonIds
  simp only [Bool.or_eq_true, decide_eq_true_eq, gt_iff_lt]

/-- A common question that drops too far is enough. -/
theorem regressed_of_drops (hne : baseline.results ≠ []) {q : Uuid}
    (hq : q ∈ commonIds current baseline) (h : Drops threshold current baseline q) :
    (checkForRegression fmt current (some baseline) threshold).regressed = true :=
  (regressed_iff hne).mpr (.inr ⟨q, hq, h⟩)

theorem scoreDelta_none_right (base : Option ℚ) : scoreDelta base none = none := by
  cases base <;> rfl

theorem drops_iff {q : Uuid} :
    Drops threshold current baseline q ↔ ∃ base curr, scoreOf baseline q = some base ∧
      scoreOf current q = some curr ∧ threshold < base - curr := by
  unfold Drops scoreDelta exceedsThreshold
  cases scoreOf baseline q <;> cases scoreOf current q <;> simp

/-! ### Runs over the same questions -/

theorem Rescored.scoreMap (h : Rescored related current.results lowered.results) :
    List.Forall₂ (Dict.SameKey related) (scoreMap current.results).entries
      (scoreMap lowered.results).entries := by
  refine Dict.forall₂_ofPairs (List.forall₂_map_left_iff.mpr (List.forall₂_map_right_iff.mpr ?_))
  exact h.imp fun _ _ hr => hr

theorem Rescored.commonIds (h : Rescored related current.results lowered.results) :
    commonIds lowered baseline = Eval.commonIds current baseline := by
  unfold Eval.commonIds
  rw [Dict.keys_of_forall₂ h.scoreMap]

/-- The scores of a question are related, where it has a result. -/
theorem Rescored.scoreOf (hnone : related none none)
    (h : Rescored related current.results lowered.results) (q : Uuid) :
    related (scoreOf current q) (scoreOf lowered q) := by
  unfold Eval.scoreOf
  have hget := Dict.get?_of_forall₂ h.scoreMap q
  generalize (Eval.scoreMap current.results).get? q = score at hget
  generalize (Eval.scoreMap lowered.results).get? q = score' at hget
  cases hget with
  | none => exact hnone
  | some hrelated => exact hrelated

theorem lowerScore_none : LowerScore none none := .none

theorem worseScore_none : WorseScore none none := .inl rfl

/-! ### Lower scores -/

theorem commonScores_lowered (h : Rescored LowerScore current.results lowered.results)
    (ids : List Uuid) :
    List.Forall₂ (fun s s' => s' ≤ s) (commonScores ids (scoreMap current.results))
      (commonScores ids (scoreMap lowered.results)) := by
  unfold commonScores
  refine List.rel_filterMap (R := Eq) ?_ (List.forall₂_same.mpr fun _ _ => rfl)
  rintro q _ rfl
  exact h.scoreOf lowerScore_none q

theorem sum_le_of_forall₂ {scores lowerScores : List ℚ}
    (h : List.Forall₂ (fun s s' => s' ≤ s) scores lowerScores) :
    lowerScores.sum ≤ scores.sum := by
  induction h with
  | nil => exact le_refl _
  | cons hle _ ih =>
      rw [List.sum_cons, List.sum_cons]
      exact add_le_add hle ih

/-- The average of lower scores is lower. -/
theorem average_lowered {scores lowerScores : List ℚ}
    (h : List.Forall₂ (fun s s' => s' ≤ s) scores lowerScores) :
    LowerScore (average scores) (average lowerScores) := by
  have hlength : scores.length = lowerScores.length := h.length_eq
  unfold average
  by_cases hempty : scores = []
  · have hlowered : lowerScores = [] := by
      rw [hempty] at hlength
      exact List.length_eq_zero_iff.mp hlength.symm
    rw [hempty, hlowered]
    exact .none
  · have hlowered : lowerScores ≠ [] := by
      intro hnil
      rw [hnil] at hlength
      exact hempty (List.length_eq_zero_iff.mp hlength)
    rw [if_neg (by simpa using hempty), if_neg (by simpa using hlowered), ← hlength]
    exact .some (div_le_div_of_nonneg_right (sum_le_of_forall₂ h) (Nat.cast_nonneg _))

/-- A difference that is too large stays too large. -/
theorem exceedsThreshold_lowered {base curr curr' : Option ℚ} (hlower : LowerScore curr curr')
    (h : exceedsThreshold threshold (scoreDelta base curr) = true) :
    exceedsThreshold threshold (scoreDelta base curr') = true := by
  cases base with
  | none => cases h
  | some base =>
      cases hlower with
      | none => cases h
      | some hle =>
          rename_i score score'
          have hdelta : threshold < base - score := of_decide_eq_true h
          exact decide_eq_true (show threshold < base - score' by linarith)

/-- **Lower scores never make a run pass.** -/
theorem regressed_of_lowered (hne : baseline.results ≠ [])
    (h : Rescored LowerScore current.results lowered.results)
    (hregressed : (checkForRegression fmt current (some baseline) threshold).regressed = true) :
    (checkForRegression fmt lowered (some baseline) threshold).regressed = true := by
  rw [regressed_iff hne] at hregressed ⊢
  rw [h.commonIds]
  rcases hregressed with hoverall | ⟨q, hq, hdrops⟩
  · left
    exact exceedsThreshold_lowered (average_lowered (commonScores_lowered h _)) hoverall
  · right
    exact ⟨q, hq, exceedsThreshold_lowered (h.scoreOf lowerScore_none q) hdrops⟩

/-! ### Missing scores -/

/-- A question that keeps a score still drops too far. -/
theorem drops_of_worse (h : Rescored WorseScore current.results worse.results) {q : Uuid}
    (hdrops : Drops threshold current baseline q) (hscore : scoreOf worse q ≠ none) :
    Drops threshold worse baseline q := by
  rcases h.scoreOf worseScore_none q with hnone | hlower
  · exact absurd hnone hscore
  · exact exceedsThreshold_lowered hlower hdrops

theorem commonScores_eq_nil {ids : List Uuid} (h : ∀ q ∈ ids, scoreOf current q = none) :
    commonScores ids (scoreMap current.results) = [] := by
  unfold commonScores
  exact List.filterMap_eq_nil_iff.mpr h

/-- **A run without scores passes.** -/
theorem passes_of_no_scores (hne : baseline.results ≠ [])
    (h : ∀ q ∈ commonIds current baseline, scoreOf current q = none) :
    (checkForRegression fmt current (some baseline) threshold).regressed = false := by
  rw [Bool.eq_false_iff, ne_eq, regressed_iff hne, commonScores_eq_nil h]
  rintro (hoverall | ⟨q, hq, hdrops⟩)
  · have hnone : average [] = none := rfl
    rw [hnone, scoreDelta_none_right] at hoverall
    cases hoverall
  · obtain ⟨base, curr, -, hcurr, -⟩ := drops_iff.mp hdrops
    rw [h q hq] at hcurr
    cases hcurr

/--
**The gate is monotone in the scores there are.**  A run that is flagged stays flagged when scores
are lowered.  A question without a score has no delta and does not count; a run stays flagged if a
question that dropped too far keeps a score, whatever becomes of the others; and where no common
question has a score, nothing is compared and the run passes.
-/
theorem regression_gate_monotone (fmt : Formats) (current baseline : BenchmarkSuiteResult)
    (threshold : ℚ) (hne : baseline.results ≠ []) :
    ((checkForRegression fmt current (some baseline) threshold).regressed = true →
      ∀ lowered, Rescored LowerScore current.results lowered.results →
        (checkForRegression fmt lowered (some baseline) threshold).regressed = true) ∧
    (∀ d ∈ (checkForRegression fmt current (some baseline) threshold).perQuestionDeltas,
      d.currentScore = none → d.delta = none ∧ d.regressed = false) ∧
    (∀ worse, Rescored WorseScore current.results worse.results →
      ∀ q ∈ commonIds current baseline, Drops threshold current baseline q →
        scoreOf worse q ≠ none →
        (checkForRegression fmt worse (some baseline) threshold).regressed = true) ∧
    ((∀ q ∈ commonIds current baseline, scoreOf current q = none) →
      (checkForRegression fmt current (some baseline) threshold).regressed = false) := by
  refine ⟨fun hregressed lowered h => regressed_of_lowered hne h hregressed, ?_, ?_,
    passes_of_no_scores hne⟩
  · intro d hd hnone
    rw [checkForRegression_eq hne] at hd
    obtain ⟨q, -, rfl⟩ := mem_perQuestionDeltas.mp hd
    have hdelta : (questionDelta (scoreMap current.results) (scoreMap baseline.results) threshold
        q).delta = none := by
      unfold questionDelta at hnone ⊢
      simp only at hnone ⊢
      rw [hnone, scoreDelta_none_right]
    refine ⟨hdelta, ?_⟩
    show exceedsThreshold threshold (questionDelta (scoreMap current.results)
      (scoreMap baseline.results) threshold q).delta = false
    rw [hdelta]
    rfl
  · intro worse h q hq hdrops hscore
    refine regressed_of_drops hne ?_ (drops_of_worse h hdrops hscore)
    rw [h.commonIds]
    exact hq

/-! ### A question that raises -/

def gateQuestion : Uuid := ⟨"01234567-89ab-4cde-8f01-23456789abcd", rfl⟩

/-- A run of one question. -/
def oneScore (version : String) (score : Option ℚ) : BenchmarkSuiteResult :=
  ⟨version, [⟨gateQuestion, version, score⟩], 1, 1⟩

def plainFormats : Formats := ⟨fun _ => "", fun _ => "", fun _ => ""⟩

/-- A score that falls from 0.9 to 0.5 is flagged, and so it is when it falls further. -/
theorem regression_gate_flags_lowered :
    (checkForRegression plainFormats (oneScore "v2" (some (1 / 4)))
      (some (oneScore "v1" (some (9 / 10))))).regressed = true :=
  (regression_gate_monotone plainFormats (oneScore "v2" (some (1 / 2)))
    (oneScore "v1" (some (9 / 10))) (5 / 100) (by decide)).1 (by decide +kernel)
    (oneScore "v2" (some (1 / 4)))
    (.cons ⟨rfl, .some (by decide +kernel)⟩ .nil)

/-- The same question, once it raises: the run that was flagged passes, although no question that
the baseline has a score for went through. -/
theorem crash_passes_the_gate :
    (checkForRegression plainFormats (oneScore "v2" (some (1 / 2)))
      (some (oneScore "v1" (some (9 / 10))))).regressed = true ∧
    ∃ crashed rows,
      runSuite "v2" [gateQuestion] (fun _ => .error (.exception "boom")) (fun _ => 0) =
        .ok (crashed, rows) ∧
      crashed.results = [⟨gateQuestion, "v2", none⟩] ∧
      (checkForRegression plainFormats crashed
        (some (oneScore "v1" (some (9 / 10))))).regressed = false := by
  refine ⟨by decide +kernel, _, _, rfl, rfl, by decide +kernel⟩

end Eval

end GaiaOS
