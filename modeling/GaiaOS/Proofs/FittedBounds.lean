/-
What fitted parameters make of a prediction.

Whatever the samples are, a fit ends in a default or in a clamp, so a coefficient and the factors
of its bounds lie between constants.  These constants have four digits and the factors stay fifty
units of the last digit away from one, so that rounding keeps both.  The models then multiply by
an input that their bounds check keeps positive.
-/
import GaiaOS.SimulationEngine.Fitting
import GaiaOS.SimulationEngine.Models
import GaiaOS.Lib.LeastSquares
import GaiaOS.Lib.Relations

namespace GaiaOS

namespace Calibration

open Rounding SimulationEngine

section Factors

variable {K : Type} [Field K] [LinearOrder K] [IsStrictOrderedRing K]

/-- Factors for a lower and an upper bound, each well away from one. -/
structure ProperFactors (low high : K) : Prop where
  low_ge : 1 / 10 ≤ low
  low_le : low ≤ 95 / 100
  high_ge : 105 / 100 ≤ high
  high_le : high ≤ 3

/-- The clamps keep the factors proper, whatever the deviation is. -/
theorem computeBoundsFactors_proper {defaultLow defaultHigh : K}
    (h : ProperFactors defaultLow defaultHigh) (meanPred stdDev : K) :
    ProperFactors (computeBoundsFactors meanPred stdDev defaultLow defaultHigh).1
      (computeBoundsFactors meanPred stdDev defaultLow defaultHigh).2 := by
  obtain ⟨hlow, hlow', hhigh, hhigh'⟩ : ((0.1 : ℚ) : K) = 1 / 10 ∧ ((0.95 : ℚ) : K) = 95 / 100 ∧
      ((1.05 : ℚ) : K) = 105 / 100 ∧ ((3 : ℚ) : K) = 3 := by norm_num
  unfold computeBoundsFactors
  rw [hlow, hlow', hhigh, hhigh']
  split
  · exact ⟨le_max_left _ _, max_le (by norm_num) (min_le_left _ _), le_max_left _ _,
      max_le (by norm_num) (min_le_left _ _)⟩
  · exact h

theorem ProperFactors.cast {low high : ℚ} (h : ProperFactors low high) :
    ProperFactors (low : K) (high : K) := by
  obtain ⟨hlow, hlow', hhigh, hhigh'⟩ := h
  rw [← Rat.cast_le (K := K)] at hlow hlow' hhigh hhigh'
  push_cast at hlow hlow' hhigh hhigh'
  exact ⟨hlow, hlow', hhigh, hhigh'⟩

end Factors

/-! ### One coefficient -/

/-- The constants of a fit are in order. -/
structure SingleFit.Sane (fit : SingleFit) : Prop where
  key_ne_low : fit.key ≠ "low_bound_factor"
  key_ne_high : fit.key ≠ "high_bound_factor"
  minLimit_digits : ∃ n : ℤ, fit.minLimit = n / 10 ^ 4
  maxLimit_digits : ∃ n : ℤ, fit.maxLimit = n / 10 ^ 4
  tenth_le : 1 / 10 ≤ fit.minLimit
  limits : fit.minLimit ≤ fit.maxLimit
  default_mem : fit.minLimit ≤ fit.defaultCoeff ∧ fit.defaultCoeff ≤ fit.maxLimit
  low_pos : 0 < fit.defaultLow
  factors : ProperFactors (fit.defaultLow / fit.defaultCoeff) (fit.defaultHigh / fit.defaultCoeff)

theorem floodFit_sane : floodFit.Sane where
  key_ne_low := by decide
  key_ne_high := by decide
  minLimit_digits := ⟨1000, by norm_num [floodFit]⟩
  maxLimit_digits := ⟨100000, by norm_num [floodFit]⟩
  tenth_le := by norm_num [floodFit]
  limits := by norm_num [floodFit]
  default_mem := by norm_num [floodFit]
  low_pos := by norm_num [floodFit]
  factors := ⟨by norm_num [floodFit], by norm_num [floodFit], by norm_num [floodFit],
    by norm_num [floodFit]⟩

theorem plumeFit_sane : plumeFit.Sane where
  key_ne_low := by decide
  key_ne_high := by decide
  minLimit_digits := ⟨1000, by norm_num [plumeFit]⟩
  maxLimit_digits := ⟨100000, by norm_num [plumeFit]⟩
  tenth_le := by norm_num [plumeFit]
  limits := by norm_num [plumeFit]
  default_mem := by norm_num [plumeFit]
  low_pos := by norm_num [plumeFit]
  factors := ⟨by norm_num [plumeFit], by norm_num [plumeFit], by norm_num [plumeFit],
    by norm_num [plumeFit]⟩

/-- Parameters with a coefficient within its limits and bounds on both sides of it. -/
structure SingleFit.Fitted (fit : SingleFit) (params : Params) (coeff low high : ℚ) : Prop where
  coeff_eq : params.get? fit.key = some coeff
  low_eq : params.get? "low_bound_factor" = some low
  high_eq : params.get? "high_bound_factor" = some high
  limits : fit.minLimit ≤ coeff ∧ coeff ≤ fit.maxLimit
  low_pos : 0 < low
  low_lt : low < coeff
  lt_high : coeff < high

section Single

variable {fit : SingleFit}

/-- A positive input keeps a coefficient between its bounds. -/
theorem SingleFit.Fitted.bracket {params : Params} {coeff low high input : ℚ}
    (h : fit.Fitted params coeff low high) (hpos : 0 < input) :
    0 < input * low ∧ input * low < input * coeff ∧ input * coeff < input * high :=
  ⟨mul_pos hpos h.low_pos, mul_lt_mul_of_pos_left h.low_lt hpos,
    mul_lt_mul_of_pos_left h.lt_high hpos⟩

theorem SingleFit.Sane.get? (h : fit.Sane) (coeff low high : ℚ) :
    (Dict.ofPairs [(fit.key, coeff), ("low_bound_factor", low), ("high_bound_factor", high)]).get?
        fit.key = some coeff ∧
      (Dict.ofPairs [(fit.key, coeff), ("low_bound_factor", low),
        ("high_bound_factor", high)]).get? "low_bound_factor" = some low ∧
      (Dict.ofPairs [(fit.key, coeff), ("low_bound_factor", low),
        ("high_bound_factor", high)]).get? "high_bound_factor" = some high := by
  have hkeys : ([(fit.key, coeff), ("low_bound_factor", low),
      ("high_bound_factor", high)].map Prod.fst).Nodup := by
    simp [h.key_ne_low, h.key_ne_high]
  exact ⟨Dict.get?_ofPairs_of_mem hkeys (by simp), Dict.get?_ofPairs_of_mem hkeys (by simp),
    Dict.get?_ofPairs_of_mem hkeys (by simp)⟩

theorem SingleFit.Sane.coeff_pos (h : fit.Sane) : 0 < fit.defaultCoeff :=
  lt_of_lt_of_le (by norm_num) (h.tenth_le.trans h.default_mem.1)

theorem SingleFit.Sane.defaults_fitted (h : fit.Sane) :
    fit.Fitted fit.defaults fit.defaultCoeff fit.defaultLow fit.defaultHigh := by
  obtain ⟨hcoeff, hlow, hhigh⟩ := h.get? fit.defaultCoeff fit.defaultLow fit.defaultHigh
  have hlt : fit.defaultLow / fit.defaultCoeff < 1 := h.factors.low_le.trans_lt (by norm_num)
  have hgt : 1 < fit.defaultHigh / fit.defaultCoeff :=
    lt_of_lt_of_le (by norm_num) h.factors.high_ge
  exact ⟨hcoeff, hlow, hhigh, h.default_mem, h.low_pos, (div_lt_one h.coeff_pos).mp hlt,
    (one_lt_div h.coeff_pos).mp hgt⟩

variable {K : Type} [Field K] [LinearOrder K] [IsStrictOrderedRing K] [FloorRing K] (sqrt : K → K)
  {ι : Type} (x observed : ι → K)

/-- A number between limits of four digits stays there when it is rounded. -/
theorem roundDigits_mem {low high : ℚ} (hlow : ∃ n : ℤ, low = n / 10 ^ 4)
    (hhigh : ∃ n : ℤ, high = n / 10 ^ 4) {a : K} (h : (low : K) ≤ a ∧ a ≤ (high : K)) :
    low ≤ roundDigits 4 a ∧ roundDigits 4 a ≤ high := by
  obtain ⟨m, rfl⟩ := hlow
  obtain ⟨n, rfl⟩ := hhigh
  obtain ⟨hm, hn⟩ := h
  push_cast at hm hn
  have hunit : (0 : K) < 10 ^ 4 := by positivity
  exact ⟨le_roundDigits ((div_le_iff₀ hunit).mp hm), roundDigits_le ((le_div_iff₀ hunit).mp hn)⟩

/-- Rounding keeps a coefficient of a tenth or more apart from its bounds. -/
theorem rounded_bracket {coeff low high : K} (hcoeff : 1 / 10 ≤ coeff)
    (hfactors : ProperFactors low high) :
    0 < roundDigits 4 (low * coeff) ∧ roundDigits 4 (low * coeff) < roundDigits 4 coeff ∧
      roundDigits 4 coeff < roundDigits 4 (high * coeff) := by
  obtain ⟨hlow, hlow', hhigh, -⟩ := hfactors
  have hpos : 0 ≤ coeff := le_trans (by norm_num) hcoeff
  refine ⟨?_, ?_, ?_⟩
  · have hproduct : 1 / 10 * (1 / 10) ≤ low * coeff :=
      mul_le_mul hlow hcoeff (by norm_num) (le_trans (by norm_num) hlow)
    have hround : ((100 : ℤ) : ℚ) / 10 ^ 4 ≤ roundDigits 4 (low * coeff) :=
      le_roundDigits (by push_cast; linarith)
    exact lt_of_lt_of_le (by norm_num) hround
  · refine roundDigits_lt ?_
    have hproduct : low * coeff ≤ 95 / 100 * coeff := mul_le_mul_of_nonneg_right hlow' hpos
    linarith
  · refine roundDigits_lt ?_
    have hproduct : 105 / 100 * coeff ≤ high * coeff := mul_le_mul_of_nonneg_right hhigh hpos
    linarith

/-- Every fit of one coefficient is proper. -/
theorem fitSingle_fitted (h : fit.Sane) (trainSamples valSamples : List ι) :
    ∃ coeff low high,
      fit.Fitted (fitSingle sqrt fit x observed trainSamples valSamples).1 coeff low high := by
  unfold fitSingle
  split
  · exact ⟨_, _, _, h.defaults_fitted⟩
  split
  · exact ⟨_, _, _, h.defaults_fitted⟩
  have hmem : (fit.minLimit : K) ≤ fit.coefficient x observed trainSamples ∧
      fit.coefficient x observed trainSamples ≤ (fit.maxLimit : K) :=
    LeastSquares.clamp_mem (Rat.cast_le.mpr h.limits) _
  have htenth : 1 / 10 ≤ fit.coefficient x observed trainSamples := by
    have hlimit := h.tenth_le
    rw [← Rat.cast_le (K := K)] at hlimit
    push_cast at hlimit
    exact hlimit.trans hmem.1
  have hdefault : ProperFactors (fit.defaultLow / fit.defaultCoeff : K)
      (fit.defaultHigh / fit.defaultCoeff : K) := by
    have hcast := h.factors.cast (K := K)
    push_cast at hcast
    exact hcast
  obtain ⟨hpos, hlt, hgt⟩ := rounded_bracket htenth (computeBoundsFactors_proper hdefault
    ((trainSamples.map fun s => x s * fit.coefficient x observed trainSamples).sum /
      trainSamples.length)
    (computeStdDev sqrt
      (trainSamples.map fun s => observed s - x s * fit.coefficient x observed trainSamples)))
  obtain ⟨hcoeff, hlow, hhigh⟩ := h.get? _ _ _
  exact ⟨_, _, _, hcoeff, hlow, hhigh,
    roundDigits_mem h.minLimit_digits h.maxLimit_digits hmem, hpos, hlt, hgt⟩

end Single

/-! ### Wildfires -/

/-- The parameters of a wildfire, within their limits. -/
structure WildfireFitted (params : Params) (wind temp low high : ℚ) : Prop where
  wind_eq : params.get? "wind_coefficient" = some wind
  temp_eq : params.get? "temp_coefficient" = some temp
  low_eq : params.get? "low_bound_factor" = some low
  high_eq : params.get? "high_bound_factor" = some high
  wind_limits : 1 / 100 ≤ wind ∧ wind ≤ 2
  temp_limits : 1 / 100 ≤ temp ∧ temp ≤ 1
  factors : ProperFactors low high

theorem get?_wildfire (wind temp low high : ℚ) :
    let params := Dict.ofPairs [("wind_coefficient", wind), ("temp_coefficient", temp),
      ("low_bound_factor", low), ("high_bound_factor", high)]
    params.get? "wind_coefficient" = some wind ∧ params.get? "temp_coefficient" = some temp ∧
      params.get? "low_bound_factor" = some low ∧ params.get? "high_bound_factor" = some high := by
  intro params
  have hkeys : ([("wind_coefficient", wind), ("temp_coefficient", temp),
      ("low_bound_factor", low), ("high_bound_factor", high)].map Prod.fst).Nodup := by simp
  exact ⟨Dict.get?_ofPairs_of_mem hkeys (by simp), Dict.get?_ofPairs_of_mem hkeys (by simp),
    Dict.get?_ofPairs_of_mem hkeys (by simp), Dict.get?_ofPairs_of_mem hkeys (by simp)⟩

theorem wildfireDefaults_fitted :
    WildfireFitted wildfireDefaults (4 / 10) (1 / 10) (7 / 10) (13 / 10) := by
  have hdefaults : wildfireDefaults = Dict.ofPairs [("wind_coefficient", 4 / 10),
      ("temp_coefficient", 1 / 10), ("low_bound_factor", 7 / 10),
      ("high_bound_factor", 13 / 10)] := by
    unfold wildfireDefaults
    norm_num
  obtain ⟨hwind, htemp, hlow, hhigh⟩ := get?_wildfire (4 / 10) (1 / 10) (7 / 10) (13 / 10)
  rw [← hdefaults] at hwind htemp hlow hhigh
  exact ⟨hwind, htemp, hlow, hhigh, by norm_num, by norm_num,
    ⟨by norm_num, by norm_num, by norm_num, by norm_num⟩⟩

section Wildfire

variable {K : Type} [Field K] [LinearOrder K] [IsStrictOrderedRing K] [FloorRing K] (sqrt : K → K)

/-- Rounding keeps proper factors proper. -/
theorem ProperFactors.round {low high : K} (h : ProperFactors low high) :
    ProperFactors (roundDigits 4 low) (roundDigits 4 high) := by
  obtain ⟨hlow, hlow', hhigh, hhigh'⟩ := h
  have hl : 1 / 10 ≤ roundDigits 4 low ∧ roundDigits 4 low ≤ 95 / 100 :=
    roundDigits_mem ⟨1000, by norm_num⟩ ⟨9500, by norm_num⟩ (by push_cast; exact ⟨hlow, hlow'⟩)
  have hh : 105 / 100 ≤ roundDigits 4 high ∧ roundDigits 4 high ≤ 3 :=
    roundDigits_mem ⟨10500, by norm_num⟩ ⟨30000, by norm_num⟩
      (by push_cast; exact ⟨hhigh, hhigh'⟩)
  exact ⟨hl.1, hl.2, hh.1, hh.2⟩

/-- Every fit of a wildfire is within its limits. -/
theorem fitWildfireSpread_fitted (trainSamples valSamples : List (WildfireSample K)) :
    ∃ wind temp low high,
      WildfireFitted (fitWildfireSpread sqrt trainSamples valSamples).1 wind temp low high := by
  unfold fitWildfireSpread
  split
  · exact ⟨_, _, _, _, wildfireDefaults_fitted⟩
  split
  · exact ⟨_, _, _, _, wildfireDefaults_fitted⟩
  obtain ⟨hwind, htemp, hlow, hhigh⟩ := get?_wildfire _ _ _ _
  refine ⟨_, _, _, _, hwind, htemp, hlow, hhigh, ?_, ?_, ?_⟩
  · refine roundDigits_mem ⟨100, by norm_num⟩ ⟨20000, by norm_num⟩ ?_
    rw [show (1 / 100 : ℚ) = 0.01 by norm_num]
    exact LeastSquares.clamp_mem (Rat.cast_le.mpr (by norm_num)) _
  · refine roundDigits_mem ⟨100, by norm_num⟩ ⟨10000, by norm_num⟩ ?_
    rw [show (1 / 100 : ℚ) = 0.01 by norm_num, Rat.cast_one]
    exact LeastSquares.clamp_mem (by norm_num) _
  · refine (computeBoundsFactors_proper ?_ _ _).round
    constructor <;> norm_num

end Wildfire

/-! ### El Niño -/

/-- The parameters of a forecast: thresholds on both sides of zero, and so with the offsets. -/
structure EnsoFitted (params : Params) (nino nina low high : ℚ) : Prop where
  nino_eq : params.get? "el_nino_threshold" = some nino
  nina_eq : params.get? "la_nina_threshold" = some nina
  low_eq : params.get? "low_bound_offset" = some low
  high_eq : params.get? "high_bound_offset" = some high
  nino_limits : 2 / 10 ≤ nino ∧ nino ≤ 15 / 10
  nina_limits : -15 / 10 ≤ nina ∧ nina ≤ -2 / 10
  low_neg : low < 0
  high_pos : 0 < high

theorem get?_enso (nino nina low high : ℚ) :
    let params := Dict.ofPairs [("el_nino_threshold", nino), ("la_nina_threshold", nina),
      ("low_bound_offset", low), ("high_bound_offset", high)]
    params.get? "el_nino_threshold" = some nino ∧ params.get? "la_nina_threshold" = some nina ∧
      params.get? "low_bound_offset" = some low ∧ params.get? "high_bound_offset" = some high := by
  intro params
  have hkeys : ([("el_nino_threshold", nino), ("la_nina_threshold", nina),
      ("low_bound_offset", low), ("high_bound_offset", high)].map Prod.fst).Nodup := by simp
  exact ⟨Dict.get?_ofPairs_of_mem hkeys (by simp), Dict.get?_ofPairs_of_mem hkeys (by simp),
    Dict.get?_ofPairs_of_mem hkeys (by simp), Dict.get?_ofPairs_of_mem hkeys (by simp)⟩

theorem ensoDefaults_fitted : EnsoFitted ensoDefaults 0.5 (-0.5) (-0.2) 0.2 := by
  obtain ⟨hnino, hnina, hlow, hhigh⟩ := get?_enso 0.5 (-0.5) (-0.2) 0.2
  exact ⟨hnino, hnina, hlow, hhigh, by norm_num, by norm_num, by norm_num, by norm_num⟩

section Enso

variable {K : Type} [Field K] [LinearOrder K] [IsStrictOrderedRing K] [FloorRing K] (sqrt : K → K)

/-- An offset is a twentieth or more, also when it is rounded. -/
theorem rounded_offset {offset : K} (h : 5 / 100 ≤ offset) :
    roundDigits 4 (-offset) < 0 ∧ 0 < roundDigits 4 offset := by
  have hup : ((500 : ℤ) : ℚ) / 10 ^ 4 ≤ roundDigits 4 offset :=
    le_roundDigits (by push_cast; linarith)
  have hdown : roundDigits 4 (-offset) ≤ ((-500 : ℤ) : ℚ) / 10 ^ 4 :=
    roundDigits_le (by push_cast; linarith)
  exact ⟨hdown.trans_lt (by norm_num), lt_of_lt_of_le (by norm_num) hup⟩

omit [IsStrictOrderedRing K] in
theorem offset_ge (stdDev : K) : 5 / 100 ≤ max ((0.05 : ℚ) : K) (min 1 stdDev) := by
  have hconstant : ((0.05 : ℚ) : K) = 5 / 100 := by norm_num
  rw [hconstant]
  exact le_max_left _ _

/-- Every fit of a forecast has its thresholds apart. -/
theorem fitEnsoForecast_fitted (trainSamples valSamples : List (EnsoSample K)) :
    ∃ nino nina low high,
      EnsoFitted (fitEnsoForecast sqrt trainSamples valSamples).1 nino nina low high := by
  unfold fitEnsoForecast
  split
  · exact ⟨_, _, _, _, ensoDefaults_fitted⟩
  obtain ⟨hnino, hnina, hlow, hhigh⟩ := get?_enso _ _ _ _
  refine ⟨_, _, _, _, hnino, hnina, hlow, hhigh, ?_, ?_, (rounded_offset ?_).1,
    (rounded_offset ?_).2⟩
  · refine roundDigits_mem ⟨2000, by norm_num⟩ ⟨15000, by norm_num⟩ ?_
    rw [show (2 / 10 : ℚ) = 0.2 by norm_num, show (15 / 10 : ℚ) = 1.5 by norm_num]
    exact LeastSquares.clamp_mem (Rat.cast_le.mpr (by norm_num)) _
  · refine roundDigits_mem ⟨-15000, by norm_num⟩ ⟨-2000, by norm_num⟩ ?_
    rw [show (-15 / 10 : ℚ) = -1.5 by norm_num, show (-2 / 10 : ℚ) = -0.2 by norm_num]
    exact LeastSquares.clamp_mem (Rat.cast_le.mpr (by norm_num)) _
  · exact offset_ge _
  · exact offset_ge _

end Enso

/-! ### The models -/

/-- A model of an engine finds these parameters. -/
def Uses (engine : Engine) (modelName : ModelName) (defaults params : Params) : Prop :=
  (loadCalibratedParameters engine.now modelName defaults engine.store).1 = params

/-- A model answers with a prediction, in its text, and with bounds on both sides of it. -/
def Brackets (engine : Engine) (answer : Except PyError SimulationResult × ParameterStore)
    (lead unit : String) (prediction : ℚ) : Prop :=
  ∃ result, answer.1 = .ok result ∧
    result.prediction = lead ++ engine.fixed1 prediction ++ unit ∧
    0 < result.uncertaintyBounds.1 ∧ result.uncertaintyBounds.1 < prediction ∧
    prediction < result.uncertaintyBounds.2

section Models

variable {engine : Engine} {parameters : Dict String PyFloat} {params defaults : Params}
  {modelName : ModelName}

theorem runModel_ok {Input : Type} {inputs : Except PyError Input} {input : Input}
    {result : (String → ℚ) → Input → SimulationResult} (hinputs : inputs = .ok input)
    (huses : Uses engine modelName defaults params) :
    (runModel engine inputs modelName defaults result).1 =
      .ok (result (coefficient params defaults) input) := by
  unfold runModel
  rw [hinputs, ← huses]

theorem coefficient_of_get? {key : String} {value : ℚ} (h : params.get? key = some value) :
    coefficient params defaults key = value := by
  unfold coefficient
  rw [h]
  rfl

theorem requiredInput_of_get? {name : String} {value : PyFloat}
    (h : parameters.get? name = some value) : requiredInput parameters name = .ok value := by
  unfold requiredInput
  rw [h]

theorem sanityBound_of_mem {name : String} {low high value : ℚ} (hlow : low ≤ value)
    (hhigh : value ≤ high) : sanityBound name low high (.finite value) = .ok value :=
  if_pos ⟨hlow, hhigh⟩

/-- The one input of a model, if the bounds check admits it. -/
theorem admitted {name : String} {low high value : ℚ}
    (h : parameters.get? name = some (.finite value)) (hlow : low ≤ value) (hhigh : value ≤ high) :
    (do
      let value ← requiredInput parameters name
      sanityBound name low high value) = .ok value := by
  rw [requiredInput_of_get? h]
  exact sanityBound_of_mem hlow hhigh

theorem flood_brackets {coeff low high rainfall : ℚ}
    (hfitted : floodFit.Fitted params coeff low high)
    (huses : Uses engine ⟨"flood_extent", by decide⟩ floodFit.defaults params)
    (h : parameters.get? "rainfall" = some (.finite rainfall)) (hmin : 5 ≤ rainfall)
    (hmax : rainfall ≤ 500) :
    Brackets engine (floodExtentModel engine parameters)
      "Flood extent prediction: total flooded area is estimated at " " square kilometers."
      (rainfall * coeff) := by
  have hpos : 0 < rainfall := lt_of_lt_of_le (by norm_num) hmin
  have hkey : params.get? "rainfall_coefficient" = some coeff := hfitted.coeff_eq
  refine ⟨_, runModel_ok (admitted h hmin hmax) huses, ?_⟩
  simp only
  rw [coefficient_of_get? hkey, coefficient_of_get? hfitted.low_eq,
    coefficient_of_get? hfitted.high_eq]
  exact ⟨rfl, hfitted.bracket hpos⟩

theorem plume_brackets {coeff low high windSpeed : ℚ}
    (hfitted : plumeFit.Fitted params coeff low high)
    (huses : Uses engine ⟨"plume_dispersion", by decide⟩ plumeFit.defaults params)
    (h : parameters.get? "wind_speed" = some (.finite windSpeed)) (hmin : 0.5 ≤ windSpeed)
    (hmax : windSpeed ≤ 50) :
    Brackets engine (plumeDispersionModel engine parameters)
      "Plume dispersion prediction: plume will disperse up to " " km downwind."
      (windSpeed * coeff) := by
  have hpos : 0 < windSpeed := lt_of_lt_of_le (by norm_num) hmin
  have hkey : params.get? "wind_coefficient" = some coeff := hfitted.coeff_eq
  refine ⟨_, runModel_ok (admitted h hmin hmax) huses, ?_⟩
  simp only
  rw [coefficient_of_get? hkey, coefficient_of_get? hfitted.low_eq,
    coefficient_of_get? hfitted.high_eq]
  exact ⟨rfl, hfitted.bracket hpos⟩

theorem wildfire_brackets {wind temp low high windSpeed temperature : ℚ}
    (hfitted : WildfireFitted params wind temp low high)
    (huses : Uses engine ⟨"wildfire_spread", by decide⟩ wildfireDefaults params)
    (hwind : parameters.get? "wind_speed" = some (.finite windSpeed))
    (htemp : parameters.get? "temperature" = some (.finite temperature)) (hwmin : 0 ≤ windSpeed)
    (hwmax : windSpeed ≤ 80) (htmin : 10 ≤ temperature) (htmax : temperature ≤ 55) :
    Brackets engine (wildfireSpreadModel engine parameters)
      "Wildfire spread rate prediction: fire is propagating at " " meters per minute."
      (windSpeed * wind + temperature * temp) := by
  have hinputs : (do
      let windSpeed ← requiredInput parameters "wind_speed"
      let temperature ← requiredInput parameters "temperature"
      let windSpeed ← sanityBound "wind_speed" 0 80 windSpeed
      let temperature ← sanityBound "temperature" 10 55 temperature
      return (windSpeed, temperature)) = .ok (windSpeed, temperature) :=
    except_bind_ok_iff.mpr ⟨_, requiredInput_of_get? hwind, except_bind_ok_iff.mpr
      ⟨_, requiredInput_of_get? htemp, except_bind_ok_iff.mpr
        ⟨_, sanityBound_of_mem hwmin hwmax, except_bind_ok_iff.mpr
          ⟨_, sanityBound_of_mem htmin htmax, rfl⟩⟩⟩⟩
  have hspread : 0 < windSpeed * wind + temperature * temp := by
    have hwpos : 0 < wind := lt_of_lt_of_le (by norm_num) hfitted.wind_limits.1
    have htpos : 0 < temp := lt_of_lt_of_le (by norm_num) hfitted.temp_limits.1
    exact add_pos_of_nonneg_of_pos (mul_nonneg hwmin hwpos.le)
      (mul_pos (lt_of_lt_of_le (by norm_num) htmin) htpos)
  obtain ⟨hlow, hlow', hhigh, -⟩ := hfitted.factors
  refine ⟨_, runModel_ok hinputs huses, ?_⟩
  simp only
  rw [coefficient_of_get? hfitted.wind_eq, coefficient_of_get? hfitted.temp_eq,
    coefficient_of_get? hfitted.low_eq, coefficient_of_get? hfitted.high_eq]
  refine ⟨rfl, mul_pos hspread (lt_of_lt_of_le (by norm_num) hlow), ?_, ?_⟩
  · exact mul_lt_of_lt_one_right hspread (hlow'.trans_lt (by norm_num))
  · exact lt_mul_of_one_lt_right hspread (lt_of_lt_of_le (by norm_num) hhigh)

theorem enso_brackets {nino nina low high sstAnomaly : ℚ}
    (hfitted : EnsoFitted params nino nina low high)
    (huses : Uses engine ⟨"enso_forecast", by decide⟩ ensoDefaults params)
    (h : parameters.get? "sst_anomaly" = some (.finite sstAnomaly)) (hmin : -4 ≤ sstAnomaly)
    (hmax : sstAnomaly ≤ 4) :
    ∃ result, (ensoForecastModel engine parameters).1 = .ok result ∧
      result.uncertaintyBounds.1 < sstAnomaly ∧ sstAnomaly < result.uncertaintyBounds.2 := by
  refine ⟨_, runModel_ok (admitted h hmin hmax) huses, ?_⟩
  simp only
  rw [coefficient_of_get? hfitted.low_eq, coefficient_of_get? hfitted.high_eq]
  exact ⟨add_lt_of_neg_right _ hfitted.low_neg, lt_add_of_pos_right _ hfitted.high_pos⟩

end Models

/-! ### Fit and use -/

section Fit

variable {K : Type} [Field K] [LinearOrder K] [IsStrictOrderedRing K] [FloorRing K]

/--
**Fitted parameters always yield a proper interval.**  Whatever the samples are, the parameters of
the three spatial fits are within their limits, and a model that uses them answers every input that
its bounds check admits with `0 < low < prediction < high`.  The thresholds of a forecast lie on
both sides of zero, and its bounds on both sides of the anomaly.
-/
theorem fitted_parameters_bracket (sqrt : K → K) (engine : Engine)
    (parameters : Dict String PyFloat) :
    (∀ trainSamples valSamples : List (WildfireSample K), ∃ wind temp low high,
      WildfireFitted (fitWildfireSpread sqrt trainSamples valSamples).1 wind temp low high ∧
      ∀ windSpeed temperature,
        Uses engine ⟨"wildfire_spread", by decide⟩ wildfireDefaults
          (fitWildfireSpread sqrt trainSamples valSamples).1 →
        parameters.get? "wind_speed" = some (.finite windSpeed) →
        parameters.get? "temperature" = some (.finite temperature) →
        0 ≤ windSpeed → windSpeed ≤ 80 → 10 ≤ temperature → temperature ≤ 55 →
        Brackets engine (wildfireSpreadModel engine parameters)
          "Wildfire spread rate prediction: fire is propagating at " " meters per minute."
          (windSpeed * wind + temperature * temp)) ∧
    (∀ trainSamples valSamples : List (FloodSample K), ∃ coeff low high,
      floodFit.Fitted (fitFloodExtent sqrt trainSamples valSamples).1 coeff low high ∧
      ∀ rainfall,
        Uses engine ⟨"flood_extent", by decide⟩ floodFit.defaults
          (fitFloodExtent sqrt trainSamples valSamples).1 →
        parameters.get? "rainfall" = some (.finite rainfall) →
        5 ≤ rainfall → rainfall ≤ 500 →
        Brackets engine (floodExtentModel engine parameters)
          "Flood extent prediction: total flooded area is estimated at " " square kilometers."
          (rainfall * coeff)) ∧
    (∀ trainSamples valSamples : List (PlumeSample K), ∃ coeff low high,
      plumeFit.Fitted (fitPlumeDispersion sqrt trainSamples valSamples).1 coeff low high ∧
      ∀ windSpeed,
        Uses engine ⟨"plume_dispersion", by decide⟩ plumeFit.defaults
          (fitPlumeDispersion sqrt trainSamples valSamples).1 →
        parameters.get? "wind_speed" = some (.finite windSpeed) →
        0.5 ≤ windSpeed → windSpeed ≤ 50 →
        Brackets engine (plumeDispersionModel engine parameters)
          "Plume dispersion prediction: plume will disperse up to " " km downwind."
          (windSpeed * coeff)) ∧
    (∀ trainSamples valSamples : List (EnsoSample K), ∃ nino nina low high,
      EnsoFitted (fitEnsoForecast sqrt trainSamples valSamples).1 nino nina low high ∧
      nina < 0 ∧ 0 < nino ∧
      ∀ sstAnomaly,
        Uses engine ⟨"enso_forecast", by decide⟩ ensoDefaults
          (fitEnsoForecast sqrt trainSamples valSamples).1 →
        parameters.get? "sst_anomaly" = some (.finite sstAnomaly) →
        -4 ≤ sstAnomaly → sstAnomaly ≤ 4 →
        ∃ result, (ensoForecastModel engine parameters).1 = .ok result ∧
          result.uncertaintyBounds.1 < sstAnomaly ∧ sstAnomaly < result.uncertaintyBounds.2) := by
  refine ⟨?_, ?_, ?_, ?_⟩
  · intro trainSamples valSamples
    obtain ⟨wind, temp, low, high, hfitted⟩ :=
      fitWildfireSpread_fitted sqrt trainSamples valSamples
    refine ⟨wind, temp, low, high, hfitted, ?_⟩
    intro windSpeed temperature huses hwind htemp hwmin hwmax htmin htmax
    exact wildfire_brackets hfitted huses hwind htemp hwmin hwmax htmin htmax
  · intro trainSamples valSamples
    obtain ⟨coeff, low, high, hfitted⟩ := fitSingle_fitted sqrt FloodSample.rainfall
      FloodSample.observed floodFit_sane trainSamples valSamples
    refine ⟨coeff, low, high, hfitted, ?_⟩
    intro rainfall huses h hmin hmax
    exact flood_brackets hfitted huses h hmin hmax
  · intro trainSamples valSamples
    obtain ⟨coeff, low, high, hfitted⟩ := fitSingle_fitted sqrt PlumeSample.windSpeed
      PlumeSample.observed plumeFit_sane trainSamples valSamples
    refine ⟨coeff, low, high, hfitted, ?_⟩
    intro windSpeed huses h hmin hmax
    exact plume_brackets hfitted huses h hmin hmax
  · intro trainSamples valSamples
    obtain ⟨nino, nina, low, high, hfitted⟩ :=
      fitEnsoForecast_fitted sqrt trainSamples valSamples
    refine ⟨nino, nina, low, high, hfitted, hfitted.nina_limits.2.trans_lt (by norm_num),
      lt_of_lt_of_le (by norm_num) hfitted.nino_limits.1, ?_⟩
    intro sstAnomaly huses h hmin hmax
    exact enso_brackets hfitted huses h hmin hmax

end Fit

/-- An engine whose cache holds the parameters of a model. -/
def cachingEngine (modelName : ModelName) (params : Params) (fixed1 : ℚ → String) : Engine where
  lower := id
  fixed1
  now := 0
  store := ⟨Dict.empty, Dict.empty.set modelName ⟨0, 0, params⟩⟩

theorem uses_cachingEngine (modelName : ModelName) (defaults params : Params)
    (fixed1 : ℚ → String) :
    Uses (cachingEngine modelName params fixed1) modelName defaults params := by
  unfold Uses loadCalibratedParameters ParameterStore.recent? cachingEngine
  simp only
  rw [Dict.get?_set_self]
  simp only [sub_self]
  rw [if_pos (by unfold cacheTtlSeconds; norm_num)]

/-- A flood is fitted to one sample and predicted for another rainfall. -/
theorem flood_fit_of_one :
    ∃ coeff, Brackets
      (cachingEngine ⟨"flood_extent", by decide⟩
        (fitFloodExtent (fun r : ℚ => r) [⟨10, 30⟩] []).1 (fun _ => "300.0"))
      (floodExtentModel
        (cachingEngine ⟨"flood_extent", by decide⟩
          (fitFloodExtent (fun r : ℚ => r) [⟨10, 30⟩] []).1 (fun _ => "300.0"))
        (Dict.ofPairs [("rainfall", .finite 100)]))
      "Flood extent prediction: total flooded area is estimated at " " square kilometers."
      (100 * coeff) := by
  obtain ⟨coeff, low, high, -, hbrackets⟩ := (fitted_parameters_bracket (fun r : ℚ => r)
    (cachingEngine ⟨"flood_extent", by decide⟩
      (fitFloodExtent (fun r : ℚ => r) [⟨10, 30⟩] []).1 (fun _ => "300.0"))
    (Dict.ofPairs [("rainfall", .finite 100)])).2.1 [⟨10, 30⟩] []
  exact ⟨coeff, hbrackets 100 (uses_cachingEngine _ _ _ _) (by decide) (by norm_num) (by norm_num)⟩

end Calibration

end GaiaOS
