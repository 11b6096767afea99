/-
A sustained breach is reported exactly if there is one.

The loop of the scaling policy is the pass of `SustainedRun` over times: in samples in order of
time an earlier start is never nearer to an end, also where seconds are rounded to floats.  A
sustained breach has a sample over its threshold, so the aggregates of the same rows cross it.
-/
import GaiaOS.Lib.SustainedRun
import GaiaOS.Workers.ScalingPolicy
import Mathlib.Order.Lattice

namespace GaiaOS

namespace ScalingPolicy

/-- Samples in order of time. -/
instance : Preorder ScalingTelemetrySample where
  le s t := s.ts ≤ t.ts
  le_refl s := Int.le_refl s.ts
  le_trans _ _ _ h h' := Int.le_trans h h'

/-- The second sample is at most the gap after the first. -/
def closeTo (maxGapSeconds : ℚ) (s t : ScalingTelemetrySample) : Bool :=
  totalSeconds (t.ts - s.ts) ≤ maxGapSeconds

/-- The second sample is far enough from the first. -/
def longAfter (sustainedSeconds : ℚ) (s t : ScalingTelemetrySample) : Bool :=
  sustainedSeconds ≤ totalSeconds (t.ts - s.ts)

/-- All samples from one position to another are over, with no gap between them, and the time
from the first to the last is long enough. -/
def SustainedBetween (exceeds : ScalingTelemetrySample → Bool) (sustainedSeconds maxGapSeconds : ℚ)
    (samples : List ScalingTelemetrySample) (i j : Nat) : Prop :=
  SustainedRun.Between exceeds (closeTo maxGapSeconds) (longAfter sustainedSeconds) samples i j

theorem totalSeconds_mono {d e : Int} (h : d ≤ e) : totalSeconds d ≤ totalSeconds e := by
  refine double_monotone (div_le_div_of_nonneg_right ?_ (by norm_num))
  exact_mod_cast h

/-- An earlier start is far enough where a later one is. -/
theorem longAfter_of_le (sustainedSeconds : ℚ) (r s t : ScalingTelemetrySample) (h : r ≤ s)
    (hlong : longAfter sustainedSeconds s t = true) : longAfter sustainedSeconds r t = true := by
  have hts : r.ts ≤ s.ts := h
  have htime : sustainedSeconds ≤ totalSeconds (t.ts - s.ts) := of_decide_eq_true hlong
  exact decide_eq_true (htime.trans (totalSeconds_mono (by omega)))

section Loop

variable (exceeds : ScalingTelemetrySample → Bool) (sustainedSeconds maxGapSeconds : ℚ)

/-- **The loop is one pass for a sustained run.** -/
theorem evaluateSustainedBreach_eq_scan (samples : List ScalingTelemetrySample) :
    ∀ state : Option (ScalingTelemetrySample × ScalingTelemetrySample),
      evaluateSustainedBreach exceeds sustainedSeconds maxGapSeconds (state.map (·.1.ts))
          (state.map (·.2.ts)) samples =
        SustainedRun.scan exceeds (closeTo maxGapSeconds) (longAfter sustainedSeconds) state
          samples := by
  induction samples with
  | nil =>
      intro state
      cases state <;> rfl
  | cons s rest ih =>
      intro state
      by_cases hover : exceeds s = true
      · cases state with
        | none =>
            have hrest := ih (some (s, s))
            simp only [Option.map_some] at hrest
            simp only [evaluateSustainedBreach, SustainedRun.scan, hover, if_true,
              Option.map_none, hrest, longAfter, Bool.if_true_left]
        | some run =>
            obtain ⟨start, last⟩ := run
            by_cases hgap : maxGapSeconds < totalSeconds (s.ts - last.ts)
            · have hrest := ih (some (s, s))
              have hapart : closeTo maxGapSeconds last s = false :=
                decide_eq_false (not_le.mpr hgap)
              simp only [Option.map_some] at hrest
              simp only [evaluateSustainedBreach, SustainedRun.scan, hover, if_true,
                Option.map_some, if_pos hgap, hapart, Bool.false_eq_true, if_false, hrest,
                longAfter, Bool.if_true_left]
            · have hrest := ih (some (start, s))
              have hnear : closeTo maxGapSeconds last s = true :=
                decide_eq_true (not_lt.mp hgap)
              simp only [Option.map_some] at hrest
              simp only [evaluateSustainedBreach, SustainedRun.scan, hover, if_true,
                Option.map_some, if_neg hgap, hnear, hrest, longAfter, Bool.if_true_left]
      · have hrest := ih none
        simp only [Option.map_none] at hrest
        simp only [evaluateSustainedBreach, SustainedRun.scan, if_neg hover, hrest]

variable {exceeds sustainedSeconds maxGapSeconds}

/-- The loop finds a sustained breach exactly if there is one. -/
theorem evaluateSustainedBreach_iff {samples : List ScalingTelemetrySample}
    (hsorted : samples.Pairwise fun s t => s.ts ≤ t.ts) :
    evaluateSustainedBreach exceeds sustainedSeconds maxGapSeconds none none samples = true ↔
      ∃ i j, SustainedBetween exceeds sustainedSeconds maxGapSeconds samples i j := by
  have hscan :=
    evaluateSustainedBreach_eq_scan exceeds sustainedSeconds maxGapSeconds samples none
  simp only [Option.map_none] at hscan
  rw [hscan]
  exact SustainedRun.scan_iff (longAfter_of_le sustainedSeconds) hsorted

/-- A sustained breach has a sample that is over. -/
theorem exists_over_of_breach {samples : List ScalingTelemetrySample}
    (hsorted : samples.Pairwise fun s t => s.ts ≤ t.ts)
    (h : evaluateSustainedBreach exceeds sustainedSeconds maxGapSeconds none none samples = true) :
    ∃ s ∈ samples, exceeds s = true := by
  obtain ⟨i, j, hrun⟩ := (evaluateSustainedBreach_iff hsorted).mp h
  exact ⟨_, List.getElem_mem hrun.inside, hrun.exceeds j hrun.inside hrun.order (le_refl j)⟩

end Loop

/-! ### The summary -/

/-- A value over a threshold takes the maximum over it. -/
theorem le_max?_getD {α : Type} [LinearOrder α] {values : List α} {v : α} (fallback : α)
    (h : v ∈ values) : v ≤ values.max?.getD fallback := by
  cases hmax : values.max? with
  | none =>
      rw [List.max?_eq_none_iff.mp hmax] at h
      cases h
  | some m => exact (List.max?_eq_some_iff.mp hmax).2 v h

/-- What the second query returns: the rows of the window in order of time, rows of one time in
any order. -/
structure ReadInOrder (table samples : List ScalingTelemetrySample) (now : Int)
    (window : String) : Prop where
  rows : samples.Perm (rowsInWindow table now window)
  sorted : samples.Pairwise fun s t => s.ts ≤ t.ts

/-- The verdict of a sustained breach has the threshold crossed. -/
theorem thresholdCrossed_of_sustained {table samples : List ScalingTelemetrySample} {now : Int}
    {window : String} (hread : ReadInOrder table samples now window) (interval : Int)
    (triggers : Triggers)
    (h : (getHistoricalScalingTelemetry interval (rowsInWindow table now window) samples window
      triggers).sustainedTriggerSatisfied = true) :
    (getHistoricalScalingTelemetry interval (rowsInWindow table now window) samples window
      triggers).thresholdCrossedAtLeastOnce = true := by
  simp only [getHistoricalScalingTelemetry, Bool.or_eq_true, decide_eq_true_eq] at h ⊢
  rcases h with hdepth | hutilization
  · left
    obtain ⟨s, hs, hover⟩ := exists_over_of_breach hread.sorted hdepth
    exact (of_decide_eq_true hover).trans_le
      (le_max?_getD 0 (List.mem_map.mpr ⟨s, hread.rows.mem_iff.mp hs, rfl⟩))
  · right
    obtain ⟨s, hs, hover⟩ := exists_over_of_breach hread.sorted hutilization
    exact (of_decide_eq_true hover).trans
      (le_max?_getD 0 (List.mem_map.mpr ⟨s, hread.rows.mem_iff.mp hs, rfl⟩))

/--
**Sustained breaches are detected exactly.**  In samples in order of time, both evaluations
return true exactly if all samples from some position to another are over the threshold, each at
most the gap after the one before, and the last is at least the duration after the first.  With
both queries of the summary on one table, a sustained verdict has its threshold crossed.
-/
theorem sustained_breach_exact :
    (∀ samples : List ScalingTelemetrySample, (samples.Pairwise fun s t => s.ts ≤ t.ts) →
      ∀ (threshold : Int) (sustainedSeconds maxGapSeconds : ℚ),
        evaluateSustainedQueueDepthBreach samples threshold sustainedSeconds maxGapSeconds = true ↔
          ∃ i j, SustainedBetween (fun s => threshold < s.queueDepth) sustainedSeconds
            maxGapSeconds samples i j) ∧
    (∀ samples : List ScalingTelemetrySample, (samples.Pairwise fun s t => s.ts ≤ t.ts) →
      ∀ threshold sustainedSeconds maxGapSeconds : ℚ,
        evaluateSustainedUtilizationBreach samples threshold sustainedSeconds maxGapSeconds =
            true ↔
          ∃ i j, SustainedBetween (fun s => threshold ≤ s.workerUtilizationPct)
            sustainedSeconds maxGapSeconds samples i j) ∧
    ∀ table samples now window, ReadInOrder table samples now window → ∀ interval triggers,
      let telemetry := getHistoricalScalingTelemetry interval (rowsInWindow table now window)
        samples window triggers
      telemetry.sustainedTriggerSatisfied = true → telemetry.thresholdCrossedAtLeastOnce = true :=
  ⟨fun _ hsorted _ _ _ => evaluateSustainedBreach_iff hsorted,
    fun _ hsorted _ _ _ => evaluateSustainedBreach_iff hsorted,
    fun _ _ _ _ hread interval triggers => thresholdCrossed_of_sustained hread interval triggers⟩

/-- Deep queues at the given minutes. -/
def deepQueuesAt (minutes : List Int) : List ScalingTelemetrySample :=
  minutes.map fun m => ⟨25, 10, m * 60000000⟩

/-- Every five minutes for a quarter of an hour. -/
theorem sustained_breach_sample :
    (∃ i j, SustainedBetween (fun s => 20 < s.queueDepth) 900 600
      (deepQueuesAt [0, 5, 10, 15]) i j) ∧
    let telemetry := getHistoricalScalingTelemetry 300 (deepQueuesAt [15, 10, 5, 0])
      (deepQueuesAt [0, 5, 10, 15])
    telemetry.sustainedTriggerSatisfied = true ∧
      telemetry.thresholdCrossedAtLeastOnce = true := by
  have hsustained : (getHistoricalScalingTelemetry 300 (deepQueuesAt [15, 10, 5, 0])
      (deepQueuesAt [0, 5, 10, 15])).sustainedTriggerSatisfied = true := by
    decide +kernel
  refine ⟨(sustained_breach_exact.1 (deepQueuesAt [0, 5, 10, 15]) (by decide) 20 900 600).mp
    (by decide +kernel), hsustained, ?_⟩
  exact sustained_breach_exact.2.2 (deepQueuesAt [15, 10, 5, 0]) (deepQueuesAt [0, 5, 10, 15])
    0 "7d" ⟨by decide +kernel, by decide⟩ 300 {} hsustained

end ScalingPolicy

end GaiaOS
