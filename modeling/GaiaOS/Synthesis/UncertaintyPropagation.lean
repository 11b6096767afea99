/-
Combining uncertainty estimates, after
`orchestrator/agents/synthesis/uncertainty_propagation.py`.

An empty list gives the widest interval, a single estimate is handed back as it is,
and two or more go through `combineEstimates`: the union of the intervals, widened
when the evidence conflicts, clamped to `[0, 1]`, with the average point estimate
clamped into the result.
-/
import GaiaOS.Lib.Extrema
import GaiaOS.Schemas.Uncertainty

namespace GaiaOS

open UncertaintyEstimate (new)

/-- `CONFLICT_SPREAD_THRESHOLD`. -/
def conflictSpreadThreshold : ℚ := 15 / 100

/-- `MIN_CONFLICT_PADDING`. -/
def minConflictPadding : ℚ := 5 / 100

section Combine

variable (estimates : List UncertaintyEstimate) (h : estimates ≠ [])

def minPt : ℚ := minOf (·.pointEstimate) estimates h
def maxPt : ℚ := maxOf (·.pointEstimate) estimates h
def unionLower : ℚ := minOf (·.lowerBound) estimates h
def unionUpper : ℚ := maxOf (·.upperBound) estimates h
def spread : ℚ := maxPt estimates h - minPt estimates h

/-- One pair of estimates whose intervals do not meet. -/
def disjointIntervals (e₁ e₂ : UncertaintyEstimate) : Bool :=
  decide (e₁.upperBound < e₂.lowerBound) || decide (e₂.upperBound < e₁.lowerBound)

def hasDisjointIntervals : Bool :=
  (pairs estimates).any fun p => disjointIntervals p.1 p.2

def isConflict : Bool :=
  decide (spread estimates h ≥ conflictSpreadThreshold) || hasDisjointIntervals estimates ||
    estimates.any fun e => e.source == .evidenceConflict

def combinedSource : SourceType :=
  if isConflict estimates h then .evidenceConflict
  else if estimates.any fun e => e.source == .dataSparsity then .dataSparsity
  else if estimates.any fun e => e.source == .modelUncertainty then .modelUncertainty
  else .wellSupported

/-- `sum(e.point_estimate for e in estimates) / len(estimates)`. -/
def avgPt : ℚ := (estimates.map (·.pointEstimate)).sum / estimates.length

def penalty : ℚ := max minConflictPadding (spread estimates h / 2)

/-- `max(0.0, min(1.0, x))`. -/
def clampUnit (x : ℚ) : ℚ := max 0 (min 1 x)

def combinedLower : ℚ :=
  let lower := if isConflict estimates h then
      min (unionLower estimates h) (minPt estimates h) - penalty estimates h
    else unionLower estimates h
  clampUnit (min lower (unionLower estimates h))

def combinedUpper : ℚ :=
  let upper := if isConflict estimates h then
      max (unionUpper estimates h) (maxPt estimates h) + penalty estimates h
    else unionUpper estimates h
  clampUnit (max upper (unionUpper estimates h))

def combinedPt : ℚ :=
  max (combinedLower estimates h) (min (combinedUpper estimates h) (avgPt estimates))

/-- Steps 1 to 5 of `propagate_uncertainty`, for two or more estimates. -/
def combineEstimates : Except PyError UncertaintyEstimate :=
  new (combinedPt estimates h) (combinedLower estimates h) (combinedUpper estimates h)
    (combinedSource estimates h)

end Combine

/-- `propagate_uncertainty`. -/
def propagateUncertainty : List UncertaintyEstimate → Except PyError UncertaintyEstimate
  | [] => new (1 / 2) 0 1 .modelUncertainty
  | [single] => new single.pointEstimate single.lowerBound single.upperBound single.source
  | e₁ :: e₂ :: rest => combineEstimates (e₁ :: e₂ :: rest) (List.cons_ne_nil _ _)

/-- The order of severity of the source tags:
`well_supported < model_uncertainty < data_sparsity < evidence_conflict`. -/
def SourceType.severity : SourceType → Nat
  | .wellSupported => 0
  | .modelUncertainty => 1
  | .dataSparsity => 2
  | .evidenceConflict => 3

end GaiaOS
