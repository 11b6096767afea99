/-
The expected calibration error, after `eval/metrics/calibration.py`.

The predictions are pairs of a confidence and whether it was right.  A bin is open on the right,
except for the last one.  Arithmetic is that of exact rationals.
-/
import GaiaOS.Lib.Python

namespace GaiaOS

namespace Eval

/-- A pair of a confidence and whether the answer was correct. -/
abbrev Prediction := ℚ × Bool

/-- Whether a prediction is listed in `in_bin` of a bin. -/
def inBin (nBins i : Nat) (p : Prediction) : Bool :=
  let binSize : ℚ := 1 / nBins
  let lower := i * binSize
  let upper := lower + binSize
  if i = nBins - 1 then lower ≤ p.1 && p.1 ≤ upper else lower ≤ p.1 && p.1 < upper

/-- What a bin adds to the error. -/
def binError (predictions : List Prediction) (nBins i : Nat) : ℚ :=
  let bin := predictions.filter (inBin nBins i)
  if bin.isEmpty then 0
  else
    let avgConf := (bin.map (·.1)).sum / bin.length
    let avgAcc : ℚ := (bin.countP (·.2) : ℚ) / bin.length
    bin.length / predictions.length * |avgConf - avgAcc|

/-- `calculate_calibration`. -/
def calculateCalibration (predictions : List Prediction) (nBins : Nat := 10) :
    Except PyError ℚ :=
  if predictions.isEmpty then
    .error (.valueError ("calculate_calibration requires at least one prediction. " ++
      "Guard with 'if predictions' in the caller before invoking."))
  else if nBins = 0 then .error (.exception "float division by zero")
  else .ok ((List.range nBins).foldl (fun ece i => ece + binError predictions nBins i) 0)

end Eval

end GaiaOS
