/-
The closed-form fits have the least squared errors.

A coefficient that is clamped is the nearest admissible point to the solution of the normal
equation.  Of two coefficients neither of which is clamped, the pair is the solution of the normal
equations itself.  Both are instances of `Lib/LeastSquares`.
-/
import GaiaOS.SimulationEngine.Fitting
import GaiaOS.Lib.LeastSquares

namespace GaiaOS

namespace Calibration

open LeastSquares Rounding

variable {K : Type} [Field K] [LinearOrder K] [IsStrictOrderedRing K]

/-- A coefficient has the least errors among those within limits. -/
structure BestWithin (errors : K → K) (low high c : K) : Prop where
  mem : low ≤ c ∧ c ≤ high
  least : ∀ other, low ≤ other → other ≤ high → errors c ≤ errors other

/-- The clamps leave both coefficients as they are. -/
def Unclamped (trainSamples : List (WildfireSample K)) : Prop :=
  wildfireCoefficients trainSamples = wildfireSolution trainSamples

/-! ### One coefficient -/

section Single

variable {ι : Type} {fit : SingleFit} {x observed : ι → K} {trainSamples : List ι}

theorem threshold_pos : (0 : K) < 1 / 10 ^ 6 := by positivity

/-- `1e-6`. -/
theorem threshold_eq : ((1e-6 : ℚ) : K) = 1 / 10 ^ 6 := by norm_num

theorem coefficient_bestWithin (hlimits : fit.minLimit ≤ fit.maxLimit)
    (hx : 1 / 10 ^ 6 ≤ (trainSamples.map fun s => x s ^ 2).sum) :
    BestWithin (squaredErrors trainSamples x observed) (fit.minLimit : K) (fit.maxLimit : K)
      (fit.coefficient x observed trainSamples) := by
  show BestWithin _ _ _ (clamp (fit.minLimit : K) (fit.maxLimit : K)
    ((trainSamples.map fun s => x s * observed s).sum / (trainSamples.map fun s => x s ^ 2).sum))
  refine ⟨clamp_mem (Rat.cast_le.mpr hlimits) _, fun other hlow hhigh => ?_⟩
  exact squaredErrors_clamp_le (threshold_pos.trans_le hx) hlow hhigh

/-- The coefficient is the one that is rounded and returned. -/
theorem fitSingle_coefficient [FloorRing K] (sqrt : K → K) (valSamples : List ι)
    (hx : 1 / 10 ^ 6 ≤ (trainSamples.map fun s => x s ^ 2).sum) :
    (fitSingle sqrt fit x observed trainSamples valSamples).1 =
      fit.parameters sqrt x observed trainSamples (fit.coefficient x observed trainSamples) := by
  have hne : trainSamples ≠ [] := by
    rintro rfl
    exact absurd (threshold_pos.trans_le hx) (lt_irrefl _)
  unfold fitSingle
  rw [threshold_eq, if_neg hne, if_neg (not_lt.mpr hx)]

end Single

/-! ### Two coefficients -/

theorem wildfire_unique_best {trainSamples : List (WildfireSample K)}
    (hdet : 1 / 10 ^ 6 ≤ wildfireDet trainSamples) (hunclamped : Unclamped trainSamples) {a b : K}
    (hne : (a, b) ≠ wildfireCoefficients trainSamples) :
    squaredErrors₂ trainSamples WildfireSample.windSpeed WildfireSample.temperature
        WildfireSample.observed (wildfireCoefficients trainSamples).1
        (wildfireCoefficients trainSamples).2 <
      squaredErrors₂ trainSamples WildfireSample.windSpeed WildfireSample.temperature
        WildfireSample.observed a b := by
  rw [hunclamped] at hne ⊢
  refine squaredErrors₂_lt rfl (threshold_pos.trans_le hdet) rfl rfl ?_
  rw [Ne, Prod.ext_iff, not_and_or] at hne
  exact hne

theorem fitWildfireSpread_coefficients [FloorRing K] (sqrt : K → K)
    {trainSamples : List (WildfireSample K)} (valSamples : List (WildfireSample K))
    (hlength : 2 ≤ trainSamples.length)
    (hdet : 1 / 10 ^ 6 ≤ wildfireDet trainSamples) :
    (fitWildfireSpread sqrt trainSamples valSamples).1 =
      wildfireParameters sqrt trainSamples (wildfireCoefficients trainSamples).1
        (wildfireCoefficients trainSamples).2 := by
  unfold fitWildfireSpread
  rw [threshold_eq, if_neg (not_lt.mpr hlength),
    if_neg (not_lt.mpr (hdet.trans (le_abs_self (wildfireDet trainSamples))))]

/--
**The fits are optimal.**  With enough input the clamped coefficient of a flood or a plume has the
least squared errors within its limits; with a determinant and no clamp the two coefficients of a
wildfire have less than any other pair.  They are the ones the parameters are made of.
-/
theorem fits_least_squares [FloorRing K] (sqrt : K → K) :
    (∀ trainSamples valSamples : List (FloodSample K),
      1 / 10 ^ 6 ≤ (trainSamples.map fun s => s.rainfall ^ 2).sum →
      BestWithin (squaredErrors trainSamples FloodSample.rainfall FloodSample.observed)
          (floodFit.minLimit : K) (floodFit.maxLimit : K)
          (floodFit.coefficient FloodSample.rainfall FloodSample.observed trainSamples) ∧
        (fitFloodExtent sqrt trainSamples valSamples).1 =
          floodFit.parameters sqrt FloodSample.rainfall FloodSample.observed trainSamples
            (floodFit.coefficient FloodSample.rainfall FloodSample.observed trainSamples)) ∧
    (∀ trainSamples valSamples : List (PlumeSample K),
      1 / 10 ^ 6 ≤ (trainSamples.map fun s => s.windSpeed ^ 2).sum →
      BestWithin (squaredErrors trainSamples PlumeSample.windSpeed PlumeSample.observed)
          (plumeFit.minLimit : K) (plumeFit.maxLimit : K)
          (plumeFit.coefficient PlumeSample.windSpeed PlumeSample.observed trainSamples) ∧
        (fitPlumeDispersion sqrt trainSamples valSamples).1 =
          plumeFit.parameters sqrt PlumeSample.windSpeed PlumeSample.observed trainSamples
            (plumeFit.coefficient PlumeSample.windSpeed PlumeSample.observed trainSamples)) ∧
    (∀ trainSamples valSamples : List (WildfireSample K), 2 ≤ trainSamples.length →
      1 / 10 ^ 6 ≤ wildfireDet trainSamples → Unclamped trainSamples →
      (∀ a b, (a, b) ≠ wildfireCoefficients trainSamples →
        squaredErrors₂ trainSamples WildfireSample.windSpeed WildfireSample.temperature
            WildfireSample.observed (wildfireCoefficients trainSamples).1
            (wildfireCoefficients trainSamples).2 <
          squaredErrors₂ trainSamples WildfireSample.windSpeed WildfireSample.temperature
            WildfireSample.observed a b) ∧
        (fitWildfireSpread sqrt trainSamples valSamples).1 =
          wildfireParameters sqrt trainSamples (wildfireCoefficients trainSamples).1
            (wildfireCoefficients trainSamples).2) := by
  refine ⟨fun trainSamples valSamples hx => ?_, fun trainSamples valSamples hx => ?_,
    fun trainSamples valSamples hlength hdet hunclamped => ⟨fun a b hne => ?_, ?_⟩⟩
  · exact ⟨coefficient_bestWithin (by decide +kernel) hx, fitSingle_coefficient sqrt valSamples hx⟩
  · exact ⟨coefficient_bestWithin (by decide +kernel) hx, fitSingle_coefficient sqrt valSamples hx⟩
  · exact wildfire_unique_best hdet hunclamped hne
  · exact fitWildfireSpread_coefficients sqrt valSamples hlength hdet

/-- Two samples on a plane: its coefficients are recovered, and no other pair does as well. -/
def planeSamples : List (WildfireSample ℚ) := [⟨1, 0, 1 / 2⟩, ⟨0, 1, 1 / 4⟩]

theorem plane_recovered :
    wildfireCoefficients planeSamples = (1 / 2, 1 / 4) ∧
    squaredErrors₂ planeSamples WildfireSample.windSpeed WildfireSample.temperature
        WildfireSample.observed (1 / 2) (1 / 4) <
      squaredErrors₂ planeSamples WildfireSample.windSpeed WildfireSample.temperature
        WildfireSample.observed 1 1 := by
  have hcoefficients : wildfireCoefficients planeSamples = (1 / 2, 1 / 4) := by decide +kernel
  have hbest := ((fits_least_squares (fun r : ℚ => r)).2.2 planeSamples [] (by decide)
    (by decide +kernel) (by unfold Unclamped; decide +kernel)).1 1 1 (by decide +kernel)
  rw [hcoefficients] at hbest
  exact ⟨hcoefficients, hbest⟩

end Calibration

end GaiaOS
