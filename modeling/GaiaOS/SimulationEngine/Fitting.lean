/-
Fitting the parameters of the simulation models, after `simulation_engine/calibration/`:
`fit_wildfire_spread.py`, `fit_flood_extent.py`, `fit_plume_dispersion.py`,
`fit_enso_forecast.py` and `math_helpers.py`.

The arithmetic is that of any ordered field with floors, and `sqrt` is `math.sqrt`; constants are
rational, and so is what is returned as parameters, rounded to four digits.  A sample has the keys
that the calibration job puts into it.  The fits for floods and plumes are one function of their
keys and constants.
-/
import GaiaOS.Lib.Dict
import GaiaOS.Lib.Rounding
import GaiaOS.SimulationEngine.Calibration
import Mathlib.Data.List.Sort

namespace GaiaOS

namespace Calibration

open Rounding (roundDigits)

structure WildfireSample (K : Type) where
  windSpeed : K
  temperature : K
  observed : K

structure FloodSample (K : Type) where
  rainfall : K
  observed : K

structure PlumeSample (K : Type) where
  windSpeed : K
  observed : K

structure EnsoSample (K : Type) where
  sstAnomaly : K

section Fitting

variable {K : Type} [Field K] [LinearOrder K] [IsStrictOrderedRing K] [FloorRing K]
  (sqrt : K → K)

/-! ### `math_helpers.py` -/

/-- `compute_rmse`. -/
def computeRmse (predictions observed : List K) : K :=
  if predictions = [] ∨ observed = [] ∨ predictions.length ≠ observed.length then (999 : ℚ)
  else
    let se : K := ((predictions.zip observed).map fun (p, o) => (p - o) ^ 2).sum
    sqrt (se / predictions.length)

/-- `compute_std_dev`. -/
def computeStdDev (residuals : List K) : K :=
  if residuals = [] then 0
  else
    let meanRes := residuals.sum / residuals.length
    let variance : K := (residuals.map fun r => (r - meanRes) ^ 2).sum / residuals.length
    sqrt variance

/-- `compute_bounds_factors`. -/
def computeBoundsFactors (meanPred stdDev defaultLow defaultHigh : K) : K × K :=
  if meanPred > (0.1 : ℚ) then
    (max (0.1 : ℚ) (min (0.95 : ℚ) ((meanPred - stdDev) / meanPred)),
      max (1.05 : ℚ) (min (3 : ℚ) ((meanPred + stdDev) / meanPred)))
  else (defaultLow, defaultHigh)

/-! ### One coefficient -/

/-- The key of a coefficient, with the constants of its fit. -/
structure SingleFit where
  key : String
  defaultCoeff : ℚ
  defaultLow : ℚ
  defaultHigh : ℚ
  minLimit : ℚ
  maxLimit : ℚ

/-- `defaults`. -/
def SingleFit.defaults (fit : SingleFit) : Params :=
  Dict.ofPairs [(fit.key, fit.defaultCoeff), ("low_bound_factor", fit.defaultLow),
    ("high_bound_factor", fit.defaultHigh)]

section Single

variable {ι : Type} (fit : SingleFit) (x observed : ι → K)

/-- The coefficient, clamped and not yet rounded. -/
def SingleFit.coefficient (trainSamples : List ι) : K :=
  let sumXy := (trainSamples.map fun s => x s * observed s).sum
  let sumX2 := (trainSamples.map fun s => x s ^ 2).sum
  max (fit.minLimit : K) (min (fit.maxLimit : K) (sumXy / sumX2))

/-- The parameters with their bounds, of a coefficient. -/
def SingleFit.parameters (trainSamples : List ι) (coeff : K) : Params :=
  let preds := trainSamples.map fun s => x s * coeff
  let residuals := trainSamples.map fun s => observed s - x s * coeff
  let stdDev := computeStdDev sqrt residuals
  let meanPred := preds.sum / trainSamples.length
  let (relLow, relHigh) := computeBoundsFactors meanPred stdDev
    (fit.defaultLow / fit.defaultCoeff : K) (fit.defaultHigh / fit.defaultCoeff : K)
  Dict.ofPairs [(fit.key, roundDigits 4 coeff),
    ("low_bound_factor", roundDigits 4 (relLow * coeff)),
    ("high_bound_factor", roundDigits 4 (relHigh * coeff))]

/-- The fit of one coefficient: the parameters, and the error on the validation samples. -/
def fitSingle (trainSamples valSamples : List ι) : Params × K :=
  if trainSamples = [] then (fit.defaults, (999 : ℚ))
  else if (trainSamples.map fun s => x s ^ 2).sum < (1e-6 : ℚ) then (fit.defaults, (999 : ℚ))
  else
    let coeff := fit.coefficient x observed trainSamples
    let rmse :=
      if valSamples = [] then 0
      else computeRmse sqrt (valSamples.map fun s => x s * coeff) (valSamples.map observed)
    (fit.parameters sqrt x observed trainSamples coeff, rmse)

end Single

/-- The constants of `fit_flood_extent.py`. -/
def floodFit : SingleFit where
  key := "rainfall_coefficient"
  defaultCoeff := 3.2
  defaultLow := 2.8
  defaultHigh := 3.6
  minLimit := 0.1
  maxLimit := 10

/-- The constants of `fit_plume_dispersion.py`. -/
def plumeFit : SingleFit where
  key := "wind_coefficient"
  defaultCoeff := 1.8
  defaultLow := 1.5
  defaultHigh := 2.1
  minLimit := 0.1
  maxLimit := 10

/-- `fit_flood_extent`. -/
def fitFloodExtent (trainSamples valSamples : List (FloodSample K)) : Params × K :=
  fitSingle sqrt floodFit FloodSample.rainfall FloodSample.observed trainSamples valSamples

/-- `fit_plume_dispersion`. -/
def fitPlumeDispersion (trainSamples valSamples : List (PlumeSample K)) : Params × K :=
  fitSingle sqrt plumeFit PlumeSample.windSpeed PlumeSample.observed trainSamples valSamples

/-! ### `fit_wildfire_spread.py` -/

def wildfireDefaults : Params :=
  Dict.ofPairs [("wind_coefficient", 0.4), ("temp_coefficient", 0.1),
    ("low_bound_factor", 0.7), ("high_bound_factor", 1.3)]

/-- `det`. -/
def wildfireDet (trainSamples : List (WildfireSample K)) : K :=
  let sumW2 := (trainSamples.map fun s => s.windSpeed ^ 2).sum
  let sumT2 := (trainSamples.map fun s => s.temperature ^ 2).sum
  let sumWt := (trainSamples.map fun s => s.windSpeed * s.temperature).sum
  sumW2 * sumT2 - sumWt ^ 2

/-- The two coefficients before they are clamped. -/
def wildfireSolution (trainSamples : List (WildfireSample K)) : K × K :=
  let sumW2 := (trainSamples.map fun s => s.windSpeed ^ 2).sum
  let sumT2 := (trainSamples.map fun s => s.temperature ^ 2).sum
  let sumWt := (trainSamples.map fun s => s.windSpeed * s.temperature).sum
  let sumWy := (trainSamples.map fun s => s.windSpeed * s.observed).sum
  let sumTy := (trainSamples.map fun s => s.temperature * s.observed).sum
  let det := wildfireDet trainSamples
  ((sumT2 * sumWy - sumWt * sumTy) / det, (sumW2 * sumTy - sumWt * sumWy) / det)

/-- The two coefficients, clamped to their limits and not yet rounded. -/
def wildfireCoefficients (trainSamples : List (WildfireSample K)) : K × K :=
  let (windCoeff, tempCoeff) := wildfireSolution trainSamples
  (max (0.01 : ℚ) (min (2 : ℚ) windCoeff), max (0.01 : ℚ) (min 1 tempCoeff))

/-- What the coefficients predict for a sample. -/
def WildfireSample.predicted (s : WildfireSample K) (windCoeff tempCoeff : K) : K :=
  s.windSpeed * windCoeff + s.temperature * tempCoeff

/-- The parameters with their bounds, of two coefficients. -/
def wildfireParameters (trainSamples : List (WildfireSample K)) (windCoeff tempCoeff : K) :
    Params :=
  let preds := trainSamples.map fun s => s.predicted windCoeff tempCoeff
  let residuals := trainSamples.map fun s => s.observed - s.predicted windCoeff tempCoeff
  let stdDev := computeStdDev sqrt residuals
  let meanPred := preds.sum / trainSamples.length
  let (lowFactor, highFactor) := computeBoundsFactors meanPred stdDev (0.7 : ℚ) (1.3 : ℚ)
  Dict.ofPairs [("wind_coefficient", roundDigits 4 windCoeff),
    ("temp_coefficient", roundDigits 4 tempCoeff), ("low_bound_factor", roundDigits 4 lowFactor),
    ("high_bound_factor", roundDigits 4 highFactor)]

/-- `fit_wildfire_spread`. -/
def fitWildfireSpread (trainSamples valSamples : List (WildfireSample K)) : Params × K :=
  if trainSamples.length < 2 then (wildfireDefaults, (999 : ℚ))
  else if |wildfireDet trainSamples| < (1e-6 : ℚ) then (wildfireDefaults, (999 : ℚ))
  else
    let (windCoeff, tempCoeff) := wildfireCoefficients trainSamples
    let rmse :=
      if valSamples = [] then 0
      else computeRmse sqrt (valSamples.map fun s => s.predicted windCoeff tempCoeff)
        (valSamples.map WildfireSample.observed)
    (wildfireParameters sqrt trainSamples windCoeff tempCoeff, rmse)

/-! ### `fit_enso_forecast.py` -/

def ensoDefaults : Params :=
  Dict.ofPairs [("el_nino_threshold", 0.5), ("la_nina_threshold", -0.5),
    ("low_bound_offset", -0.2), ("high_bound_offset", 0.2)]

/-- The state an anomaly indicates under a pair of thresholds. -/
def classify (nino nina anom : K) : EnsoState :=
  if anom ≥ nino then .elNino else if anom ≤ nina then .laNina else .neutral

/-- `fit_enso_forecast`.  Both positions are among the sorted anomalies. -/
def fitEnsoForecast (trainSamples valSamples : List (EnsoSample K)) : Params × K :=
  if trainSamples.length < 5 then (ensoDefaults, 1)
  else
    let anomalies := (trainSamples.map EnsoSample.sstAnomaly).insertionSort (· ≤ ·)
    let n := anomalies.length
    let elNinoVal := anomalies.getD (n * 9 / 10) 0
    let laNinaVal := anomalies.getD (n / 10) 0
    let elNinoThreshold := max ((0.2 : ℚ) : K) (min (1.5 : ℚ) elNinoVal)
    let laNinaThreshold := max ((-1.5 : ℚ) : K) (min (-0.2 : ℚ) laNinaVal)
    let meanAnom := anomalies.sum / n
    let stdDev := computeStdDev sqrt (anomalies.map (· - meanAnom))
    let lowOffset := -(max ((0.05 : ℚ) : K) (min 1 stdDev))
    let highOffset := max ((0.05 : ℚ) : K) (min 1 stdDev)
    let mismatches := valSamples.countP fun s =>
      classify elNinoThreshold laNinaThreshold s.sstAnomaly ≠
        classify ((0.5 : ℚ) : K) ((-0.5 : ℚ) : K) s.sstAnomaly
    let errorRate : K := if valSamples = [] then 0 else mismatches / valSamples.length
    (Dict.ofPairs [("el_nino_threshold", roundDigits 4 elNinoThreshold),
      ("la_nina_threshold", roundDigits 4 laNinaThreshold),
      ("low_bound_offset", roundDigits 4 lowOffset),
      ("high_bound_offset", roundDigits 4 highOffset)], errorRate)

end Fitting

end Calibration

end GaiaOS
