/-
The simulation models and their registry.

`simulation_engine/models/` has one model for each hazard.  A model takes its inputs from the
parameters, refuses a missing one and one out of bounds, loads its calibrated coefficients and
computes a prediction with its bounds.  `run_simulation` looks the model up by the hazard's name.

A parameter is a float and may be infinite or not a number; what passes the bounds is finite.
From there the arithmetic is that of exact rationals.
-/
import GaiaOS.Lib.Dict
import GaiaOS.Schemas.AgentIo
import GaiaOS.SimulationEngine.ParameterLoader

namespace GaiaOS

/-- `SimulationResult`. -/
structure SimulationResult where
  prediction : String
  uncertaintyBounds : ℚ × ℚ
  assumptions : List String
  modelUsed : String

namespace SimulationEngine

/-- What a model asks of its surroundings: `str.lower`, `f"{x:.1f}"`, the clock, and the
parameter files with their cache. -/
structure Engine where
  lower : String → String
  fixed1 : ℚ → String
  now : ℚ
  store : ParameterStore

/-- `parameters.get(name)`, where `None` is refused. -/
def requiredInput (parameters : Dict String PyFloat) (name : String) : Except PyError PyFloat :=
  match parameters.get? name with
  | some value => .ok value
  | none => .error (.valueError ("Missing required input: " ++ name))

/-- The sanity check `low <= value <= high`, with the number that passed it. -/
def sanityBound (name : String) (low high : ℚ) (value : PyFloat) : Except PyError ℚ :=
  match value with
  | .finite q =>
      if low ≤ q ∧ q ≤ high then .ok q
      else .error (.valueError ("Parameter out of bounds: " ++ name))
  | _ => .error (.valueError ("Parameter out of bounds: " ++ name))

/-- `cal_params.get(key, defaults[key])`. -/
def coefficient (calParams defaults : Params) (key : String) : ℚ :=
  (calParams.get? key).getD ((defaults.get? key).getD 0)

section Models

variable (engine : Engine) (parameters : Dict String PyFloat)

/-- The body the models share: the inputs, the coefficients, the result. -/
def runModel {Input : Type} (inputs : Except PyError Input) (modelName : ModelName)
    (defaults : Params) (result : (String → ℚ) → Input → SimulationResult) :
    Except PyError SimulationResult × ParameterStore :=
  match inputs with
  | .error err => (.error err, engine.store)
  | .ok input =>
      let (calParams, store) := loadCalibratedParameters engine.now modelName defaults engine.store
      (.ok (result (coefficient calParams defaults) input), store)

/-- `PlumeDispersionModel.run`. -/
def plumeDispersionModel : Except PyError SimulationResult × ParameterStore :=
  runModel engine
    (do
      let windSpeed ← requiredInput parameters "wind_speed"
      sanityBound "wind_speed" 0.5 50 windSpeed)
    ⟨"plume_dispersion", by decide⟩
    (Dict.ofPairs [("wind_coefficient", 1.8), ("low_bound_factor", 1.5),
      ("high_bound_factor", 2.1)])
    fun cal windSpeed =>
      { prediction := "Plume dispersion prediction: plume will disperse up to " ++
          engine.fixed1 (windSpeed * cal "wind_coefficient") ++ " km downwind."
        uncertaintyBounds :=
          (windSpeed * cal "low_bound_factor", windSpeed * cal "high_bound_factor")
        assumptions := ["Wind speed remains constant", "Point source emission at 10m height"]
        modelUsed := "PlumeDispersionModel" }

/-- `FloodExtentModel.run`. -/
def floodExtentModel : Except PyError SimulationResult × ParameterStore :=
  runModel engine
    (do
      let rainfall ← requiredInput parameters "rainfall"
      sanityBound "rainfall" 5 500 rainfall)
    ⟨"flood_extent", by decide⟩
    (Dict.ofPairs [("rainfall_coefficient", 3.2), ("low_bound_factor", 2.8),
      ("high_bound_factor", 3.6)])
    fun cal rainfall =>
      { prediction := "Flood extent prediction: total flooded area is estimated at " ++
          engine.fixed1 (rainfall * cal "rainfall_coefficient") ++ " square kilometers."
        uncertaintyBounds :=
          (rainfall * cal "low_bound_factor", rainfall * cal "high_bound_factor")
        assumptions := ["Soil is fully saturated", "Flat topography baseline approximation"]
        modelUsed := "FloodExtentModel" }

/-- `WildfireSpreadModel.run`.  Both inputs are asked for before either is checked. -/
def wildfireSpreadModel : Except PyError SimulationResult × ParameterStore :=
  runModel engine
    (do
      let windSpeed ← requiredInput parameters "wind_speed"
      let temperature ← requiredInput parameters "temperature"
      let windSpeed ← sanityBound "wind_speed" 0 80 windSpeed
      let temperature ← sanityBound "temperature" 10 55 temperature
      return (windSpeed, temperature))
    ⟨"wildfire_spread", by decide⟩
    (Dict.ofPairs [("wind_coefficient", 0.4), ("temp_coefficient", 0.1),
      ("low_bound_factor", 0.7), ("high_bound_factor", 1.3)])
    fun cal (windSpeed, temperature) =>
      let spreadRate := windSpeed * cal "wind_coefficient" + temperature * cal "temp_coefficient"
      { prediction := "Wildfire spread rate prediction: fire is propagating at " ++
          engine.fixed1 spreadRate ++ " meters per minute."
        uncertaintyBounds :=
          (spreadRate * cal "low_bound_factor", spreadRate * cal "high_bound_factor")
        assumptions := ["Homogeneous fuel distribution", "Zero slope baseline"]
        modelUsed := "WildfireSpreadModel" }

/-- `ENSOForecastModel.run`. -/
def ensoForecastModel : Except PyError SimulationResult × ParameterStore :=
  runModel engine
    (do
      let sstAnomaly ← requiredInput parameters "sst_anomaly"
      sanityBound "sst_anomaly" (-4) 4 sstAnomaly)
    ⟨"enso_forecast", by decide⟩
    (Dict.ofPairs [("el_nino_threshold", 0.5), ("la_nina_threshold", -0.5),
      ("low_bound_offset", -0.2), ("high_bound_offset", 0.2)])
    fun cal sstAnomaly =>
      let state :=
        if sstAnomaly ≥ cal "el_nino_threshold" then "El Niño"
        else if sstAnomaly ≤ cal "la_nina_threshold" then "La Niña"
        else "Neutral"
      { prediction := "ENSO Forecast prediction: current SST anomaly indicates " ++ state ++
          " conditions."
        uncertaintyBounds :=
          (sstAnomaly + cal "low_bound_offset", sstAnomaly + cal "high_bound_offset")
        assumptions := ["Sea surface temperature anomalies persist for at least 3 months",
          "Niño 3.4 region monitoring baseline"]
        modelUsed := "ENSOForecastModel" }

end Models

/-- The models of the registry, each under two names. -/
def registeredModels :
    List (String × (Engine → Dict String PyFloat →
      Except PyError SimulationResult × ParameterStore)) :=
  [("plume", plumeDispersionModel), ("plume_dispersion", plumeDispersionModel),
    ("flood", floodExtentModel), ("flood_extent", floodExtentModel),
    ("wildfire", wildfireSpreadModel), ("wildfire_spread", wildfireSpreadModel),
    ("enso", ensoForecastModel), ("enso_forecast", ensoForecastModel)]

/-- `ModelRegistry`: names are registered and looked up in lower case. -/
def modelRegistry (lower : String → String) :
    Dict String (Engine → Dict String PyFloat →
      Except PyError SimulationResult × ParameterStore) :=
  Dict.ofPairs (registeredModels.map fun entry => (lower entry.1, entry.2))

/-- `run_simulation`.  The region is not read. -/
def runSimulation (engine : Engine) (hazardType _region : String)
    (parameters : Dict String PyFloat) : Except PyError SimulationResult × ParameterStore :=
  match (modelRegistry engine.lower).get? (engine.lower hazardType) with
  | none =>
      (.error (.valueError ("No simulation model registered for hazard: " ++ hazardType)),
        engine.store)
  | some model => model engine parameters

/-! ### What a model raises -/

/-- Every error is a `ValueError` with a text of its own. -/
def RaisesValueErrors {α : Type} (answer : Except PyError α) : Prop :=
  ∀ err, answer = .error err → ∃ message, err = .valueError message

theorem RaisesValueErrors.ok {α : Type} (a : α) : RaisesValueErrors (.ok a) := by
  intro err h
  cases h

theorem RaisesValueErrors.valueError {α : Type} (message : String) :
    RaisesValueErrors (.error (.valueError message) : Except PyError α) := by
  intro err h
  cases h
  exact ⟨message, rfl⟩

theorem RaisesValueErrors.bind {α β : Type} {x : Except PyError α} {f : α → Except PyError β}
    (hx : RaisesValueErrors x) (hf : ∀ a, RaisesValueErrors (f a)) :
    RaisesValueErrors (x >>= f) := by
  cases x with
  | error err =>
      intro err' h
      obtain rfl : err = err' := Except.error.inj h
      exact hx err rfl
  | ok a => exact hf a

theorem requiredInput_raises (parameters : Dict String PyFloat) (name : String) :
    RaisesValueErrors (requiredInput parameters name) := by
  unfold requiredInput
  split
  · exact .ok _
  · exact .valueError _

theorem sanityBound_raises (name : String) (low high : ℚ) (value : PyFloat) :
    RaisesValueErrors (sanityBound name low high value) := by
  unfold sanityBound
  split
  · split
    · exact .ok _
    · exact .valueError _
  · exact .valueError _

theorem runModel_raises {Input : Type} {engine : Engine} {inputs : Except PyError Input}
    (h : RaisesValueErrors inputs) (modelName : ModelName) (defaults : Params)
    (result : (String → ℚ) → Input → SimulationResult) :
    RaisesValueErrors (runModel engine inputs modelName defaults result).1 := by
  cases inputs with
  | error err =>
      intro err' h'
      obtain ⟨message, rfl⟩ := h err rfl
      exact ⟨message, by cases h'; rfl⟩
  | ok input => exact .ok _

theorem registered_raises (engine : Engine) (parameters : Dict String PyFloat) :
    ∀ entry ∈ registeredModels, RaisesValueErrors (entry.2 engine parameters).1 := by
  have hone : ∀ name low high, RaisesValueErrors (do
      let value ← requiredInput parameters name
      sanityBound name low high value) := fun name low high =>
    (requiredInput_raises parameters name).bind fun value => sanityBound_raises name low high value
  have hplume : RaisesValueErrors (plumeDispersionModel engine parameters).1 :=
    runModel_raises (hone "wind_speed" _ _) _ _ _
  have hflood : RaisesValueErrors (floodExtentModel engine parameters).1 :=
    runModel_raises (hone "rainfall" _ _) _ _ _
  have hwildfire : RaisesValueErrors (wildfireSpreadModel engine parameters).1 :=
    runModel_raises
      ((requiredInput_raises parameters "wind_speed").bind fun _ =>
        (requiredInput_raises parameters "temperature").bind fun _ =>
          (sanityBound_raises "wind_speed" _ _ _).bind fun _ =>
            (sanityBound_raises "temperature" _ _ _).bind fun _ => .ok _) _ _ _
  have henso : RaisesValueErrors (ensoForecastModel engine parameters).1 :=
    runModel_raises (hone "sst_anomaly" _ _) _ _ _
  simp only [registeredModels, List.forall_mem_cons]
  exact ⟨hplume, hplume, hflood, hflood, hwildfire, hwildfire, henso, henso, by simp⟩

/-- **A simulation returns or raises a `ValueError`**, whatever the hazard is called. -/
theorem runSimulation_raises (engine : Engine) (hazardType region : String)
    (parameters : Dict String PyFloat) :
    RaisesValueErrors (runSimulation engine hazardType region parameters).1 := by
  unfold runSimulation
  split
  · exact .valueError _
  · next model hmodel =>
      obtain ⟨entry, hentry, hpair⟩ := List.mem_map.mp (Dict.mem_of_get?_ofPairs hmodel)
      obtain rfl : entry.2 = model := congrArg Prod.snd hpair
      exact registered_raises engine parameters entry hentry

end SimulationEngine

end GaiaOS
