/-
The promotion gate of the calibration.

`simulation_engine/calibration/report.py` scores a parameter set on a validation set, root
mean square error or, for ENSO, the rate of wrong classifications, and
`check_and_promote_parameters` writes a candidate that scores no worse than the active
parameters as the next version and as the active file.  The version number comes from the
names in the directory (`version_manager.py`).

Scores are exact: a `Surd` is the rational, or the square root of one, that the arithmetic
gives.  What the environment decides during a promotion is in `PromotionContext`.
-/
import GaiaOS.Lib.Surd
import GaiaOS.SimulationEngine.ParameterLoader

namespace GaiaOS

namespace Calibration

/-- `s[key]`. -/
def sampleItem (s : Params) (key : String) : Except PyError ℚ :=
  match s.get? key with
  | some x => .ok x
  | none => .error (.keyError key)

/-- `(se / len(val_samples)) ** 0.5` with the squared errors of a prediction summed up. -/
def rmse (predict : Params → Except PyError ℚ) (valSamples : List Params) :
    Except PyError Surd := do
  let se : ℚ≥0 ← valSamples.foldlM (fun se s => do
    let observed ← sampleItem s "observed"
    let predicted ← predict s
    pure (se + ⟨(observed - predicted) ^ 2, sq_nonneg _⟩)) 0
  pure (.root (se / valSamples.length))

inductive EnsoState
  | elNino
  | laNina
  | neutral
  deriving DecidableEq

/-- The state an anomaly indicates under a pair of thresholds. -/
def ensoState (nino nina anom : ℚ) : EnsoState :=
  if anom ≥ nino then .elNino else if anom ≤ nina then .laNina else .neutral

def evaluateParameters (modelName : String) (parameters : Params) (valSamples : List Params) :
    Except PyError Surd :=
  if valSamples.isEmpty then .ok (.rational 0)
  else if modelName = "wildfire_spread" then
    let w := (parameters.get? "wind_coefficient").getD 0.4
    let t := (parameters.get? "temp_coefficient").getD 0.1
    rmse (fun s => do
      pure ((← sampleItem s "wind_speed") * w + (← sampleItem s "temperature") * t)) valSamples
  else if modelName = "flood_extent" then
    let r := (parameters.get? "rainfall_coefficient").getD 3.2
    rmse (fun s => do pure ((← sampleItem s "rainfall") * r)) valSamples
  else if modelName = "plume_dispersion" then
    let w := (parameters.get? "wind_coefficient").getD 1.8
    rmse (fun s => do pure ((← sampleItem s "wind_speed") * w)) valSamples
  else if modelName = "enso_forecast" then do
    let nino := (parameters.get? "el_nino_threshold").getD 0.5
    let nina := (parameters.get? "la_nina_threshold").getD (-0.5)
    let mismatches : Nat ← valSamples.foldlM (fun mismatches s => do
      let anom ← sampleItem s "sst_anomaly"
      let gt := ensoState 0.5 (-0.5) anom
      let pred := ensoState nino nina anom
      pure (if pred ≠ gt then mismatches + 1 else mismatches)) 0
    pure (.rational (mismatches / valSamples.length))
  else .ok (.rational 999)

/-- Whether `glob(f"{model_name}_v*.yaml")` finds a name. -/
def globsVersion (modelName : ModelName) (name : String) : Bool :=
  let head := modelName.text ++ "_v"
  pyStartsWith name head && ".yaml".toList.isSuffixOf name.toList &&
    decide (head.toList.length + ".yaml".toList.length ≤ name.toList.length)

/-- The version a file name tells, `none` where the loop passes the file over. -/
def versionOf? (name : String) : Option Int :=
  let parts := pySplitOn "_v" name
  if parts.length ≥ 2 then pyInt (pyRemove ".yaml" (parts.getLastD "")) else none

/-- One pass of the loop over the files found. -/
def higherVer (highestVer : Int) (name : String) : Int :=
  match versionOf? name with
  | some ver => if ver > highestVer then ver else highestVer
  | none => highestVer

def nextParameterVersion (modelName : ModelName) (names : List String) : Int :=
  (names.filter (globsVersion modelName)).foldl higherVer 0 + 1

/-- `f"{model_name}_v{version}.yaml"`. -/
def versionFile (modelName : ModelName) (version : Int) : String :=
  modelName.text ++ "_v" ++ toString version ++ ".yaml"

/-- The clock, the times the two written files get and the float nearest to a score. -/
structure PromotionContext where
  now : ℚ
  fittedAt : String
  verMtime : ℚ
  latestMtime : ℚ
  floatOf : Surd → ℚ

/-- `{"model_name": ..., ..., "parameters": new_params}`. -/
def payload (ctx : PromotionContext) (modelName : ModelName) (newVersion : Int)
    (sampleCount : Nat) (currentScore newScore : Surd) (newParams : Params) : Json :=
  .obj [("model_name", .str modelName.text), ("version", .int newVersion),
    ("fitted_at", .str ctx.fittedAt),
    ("validation_report", .obj [("sample_count", .int sampleCount),
      ("baseline_score", .float (.finite (ctx.floatOf currentScore))),
      ("promoted_score", .float (.finite (ctx.floatOf newScore)))]),
    ("parameters", .obj (newParams.entries.map fun e => (e.1, .float (.finite e.2))))]

/-- `(promoted, new_version, current_score, new_score)`. -/
structure PromotionResult where
  promoted : Bool
  newVersion : Int
  currentScore : Surd
  newScore : Surd

/-- The store with the two files written and the cache entry dropped. -/
def promote (ctx : PromotionContext) (modelName : ModelName) (newVersion : Int) (data : Json)
    (s : ParameterStore) : ParameterStore :=
  invalidateParameterCache modelName { s with
    files := (s.files.set (versionFile modelName newVersion) ⟨some data, ctx.verMtime⟩).set
      (latestFile modelName) ⟨some data, ctx.latestMtime⟩ }

def checkAndPromoteParameters (ctx : PromotionContext) (modelName : ModelName)
    (newParams defaults : Params) (valSamples : List Params) (s : ParameterStore) :
    Except PyError PromotionResult × ParameterStore :=
  let (currentParams, s) := loadCalibratedParameters ctx.now modelName defaults s
  match evaluateParameters modelName.text currentParams valSamples with
  | .error e => (.error e, s)
  | .ok currentScore =>
      match evaluateParameters modelName.text newParams valSamples with
      | .error e => (.error e, s)
      | .ok newScore =>
          let newVersion := nextParameterVersion modelName s.files.keys
          let promoted := newScore.le currentScore
          let s := if promoted then
              promote ctx modelName newVersion
                (payload ctx modelName newVersion valSamples.length currentScore newScore
                  newParams) s
            else s
          (.ok ⟨promoted, newVersion, currentScore, newScore⟩, s)

/-- A call of one of the two functions. -/
inductive Call
  | load (now : ℚ) (modelName : ModelName) (defaults : Params)
  | check (ctx : PromotionContext) (modelName : ModelName) (newParams defaults : Params)
      (valSamples : List Params)

def Call.step (s : ParameterStore) : Call → ParameterStore
  | .load now modelName defaults => (loadCalibratedParameters now modelName defaults s).2
  | .check ctx modelName newParams defaults valSamples =>
      (checkAndPromoteParameters ctx modelName newParams defaults valSamples s).2

/-- A sequence of calls in one process. -/
def runCalls (s : ParameterStore) (calls : List Call) : ParameterStore := calls.foldl Call.step s

end Calibration

end GaiaOS
