/-
The evidence of the atmosphere agent, after `orchestrator/agents/atmosphere/agent.py`.

Weather data that is there becomes one claim, with the readings formatted as they are.
-/
import GaiaOS.Lib.FloatRepr
import GaiaOS.Schemas.AgentIo

namespace GaiaOS

namespace AtmosphereAgent

/-- The fields of the current weather the claim shows.  The humidity is its text. -/
structure CurrentWeather where
  temperature2m : FiniteFloat
  windSpeed10m : FiniteFloat
  relativeHumidity2m : String

/-- The claim. -/
def claim (location : String) (current : CurrentWeather) : String :=
  "Current atmospheric conditions in " ++ location ++ ": Temperature is " ++
    floatRepr current.temperature2m ++ "°C, Wind Speed is " ++ floatRepr current.windSpeed10m ++
    " km/h, and Relative Humidity is " ++ current.relativeHumidity2m ++ "%."

/-- The evidence of weather data, which may be stale.  `repr` is the text of a float in the
message of an estimate out of range. -/
def evidence (repr : ℚ → String) (id : Uuid) (retrievedAt : Int) (degraded : Bool)
    (location : String) (current : CurrentWeather) : Except PyError Evidence := do
  let uncertainty ← UncertaintyEstimate.fromPointEstimate repr
    (if degraded then 6 / 10 else 95 / 100) UncertaintyEstimate.pointEstimateIntervalMargin
    (if degraded then .dataSparsity else .wellSupported)
  return {
    id := id
    source := "Open-Meteo Weather API"
    claim := claim location current
    uncertainty := uncertainty
    retrievedAt := retrievedAt
    documentId := none
    chunkId := none
    title := none
    sourceUrl := none
    extraMetadata := []
    uncertaintyBounds := none
    assumptions := none }

/-- Weather data always becomes evidence. -/
theorem evidence_ok (repr : ℚ → String) (id : Uuid) (retrievedAt : Int) (degraded : Bool)
    (location : String) (current : CurrentWeather) :
    ∃ ev, evidence repr id retrievedAt degraded location current = .ok ev ∧
      ev.claim = claim location current := by
  have hpoint : ∀ x : ℚ, 0 ≤ x → x ≤ 1 → ∀ source, ∃ u,
      UncertaintyEstimate.fromPointEstimate repr x
        UncertaintyEstimate.pointEstimateIntervalMargin source = .ok u := by
    intro x h0 h1 source
    obtain ⟨u, hu, -⟩ := UncertaintyEstimate.fromPointEstimate_ok repr source h0 h1
    exact ⟨u, hu⟩
  unfold evidence
  cases degraded with
  | true =>
      obtain ⟨u, hu⟩ := hpoint (6 / 10) (by norm_num) (by norm_num) .dataSparsity
      simp only [if_true, hu]
      exact ⟨_, rfl, rfl⟩
  | false =>
      obtain ⟨u, hu⟩ := hpoint (95 / 100) (by norm_num) (by norm_num) .wellSupported
      simp only [Bool.false_eq_true, if_false, hu]
      exact ⟨_, rfl, rfl⟩

end AtmosphereAgent

end GaiaOS
