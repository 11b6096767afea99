/-
The simulation agent, after `orchestrator/agents/simulation/agent.py`.

The query decides the hazard.  The inputs of its model are cut out of text: each of four figures
is the first one some claim of the prior evidence has, and failing that the one in the query.  A
figure is a run of digits and dots and is converted with `float` where it is found, before the
`try` around the simulation.
-/
import GaiaOS.Lib.DecimalText
import GaiaOS.Lib.PyRegex
import GaiaOS.SimulationEngine.Models

namespace GaiaOS

namespace SimulationAgent

open Regex SimulationEngine

/-- `_extract_hazard_type`. -/
def extractHazardType (lower : String → String) (query : String) : Option String :=
  let q := lower query
  if pyIn "plume" q || pyIn "dispersion" q then some "plume"
  else if pyIn "flood" q then some "flood"
  else if pyIn "wildfire" q || pyIn "fire" q then some "wildfire"
  else if pyIn "enso" q || pyIn "nino" q || pyIn "nina" q then some "enso"
  else none

/-! ### The figures -/

/-- A parameter and the patterns it is read with. -/
structure Reading where
  key : String
  inClaim : Pattern Char
  inQuery : Pattern Char

/-- `...\s*([\d.]+)`. -/
def figureAfter (lead : Pattern Char) : Pattern Char :=
  (lead.seq spaces).capturing isFigureChar

/-- `...\s*(?:is|of)?\s*([\d.]+)`, with the case of `is` and `of` as the flag has it. -/
def linkedFigure (flag : String → List (Char → Bool)) (lead : Pattern Char) : Pattern Char :=
  figureAfter ((lead.seq spaces).seq
    (Pattern.alt (.word (flag "is")) (.word (flag "of"))).opt)

/-- `r"Wind Speed is\s*([\d.]+)"` and `r"wind[-_ ]speed\s*(?:is|of)?\s*([\d.]+)"`. -/
def windSpeed : Reading where
  key := "wind_speed"
  inClaim := figureAfter (.word (caselessLiteral "Wind Speed is"))
  inQuery := linkedFigure literal (.word (literal "wind" ++ [oneOf "-_ "] ++ literal "speed"))

/-- `r"Temperature is\s*([\d.]+)"` and `r"temp(?:erature)?\s*(?:is|of)?\s*([\d.]+)"`. -/
def temperature : Reading where
  key := "temperature"
  inClaim := figureAfter (.word (caselessLiteral "Temperature is"))
  inQuery := linkedFigure literal
    ((Pattern.word (literal "temp")).seq (Pattern.word (literal "erature")).opt)

/-- `r"(?:rainfall|precipitation|precip)\s*(?:is|of)?\s*([\d.]+)"` and the same without
`precip`. -/
def rainfall : Reading where
  key := "rainfall"
  inClaim := linkedFigure caselessLiteral
    (((Pattern.word (caselessLiteral "rainfall")).alt
      (.word (caselessLiteral "precipitation"))).alt (.word (caselessLiteral "precip")))
  inQuery := linkedFigure literal
    ((Pattern.word (literal "rainfall")).alt (.word (literal "precipitation")))

/-- `r"sst[-_ ]anomaly\s*(?:is|of)?\s*([\d.]+)"`, twice. -/
def sstAnomaly : Reading where
  key := "sst_anomaly"
  inClaim := linkedFigure caselessLiteral
    (.word (caselessLiteral "sst" ++ [oneOf "-_ "] ++ caselessLiteral "anomaly"))
  inQuery := linkedFigure literal (.word (literal "sst" ++ [oneOf "-_ "] ++ literal "anomaly"))

def readings : List Reading := [windSpeed, temperature, rainfall, sstAnomaly]

/-- One figure: it is converted if its parameter is still missing. -/
def readFigure (key : String) (found : Option (List Char)) (params : Dict String PyFloat) :
    Except PyError (Dict String PyFloat) :=
  match found with
  | none => .ok params
  | some figure =>
      if params.contains key then .ok params
      else do
        let value ← floatOfFigure figure
        return params.set key value

/-- The body of the loop over the prior evidence. -/
def readClaim (params : Dict String PyFloat) (claim : String) :
    Except PyError (Dict String PyFloat) :=
  readings.foldlM (fun params r => readFigure r.key (group1 r.inClaim claim) params) params

/-- `_extract_parameters`. -/
def extractParameters (lower : String → String) (query : String)
    (priorOutputs : Option (List AgentOutput)) : Except PyError (Dict String PyFloat) := do
  let params ← (priorOutputs.getD []).foldlM
    (fun params out => out.evidence.foldlM (fun params ev => readClaim params ev.claim) params)
    Dict.empty
  let qLower := lower query
  readings.foldlM (fun params r => readFigure r.key (group1 r.inQuery qLower) params) params

/-! ### The run -/

/-- What one call of the agent draws on: the library, the parameter files, and the identifier and
the time of the evidence it may build. -/
structure Call where
  engine : Engine
  evidenceId : Uuid
  retrievedAt : Int

/-- `isinstance(exc, ValueError)`. -/
def isValueError : PyError → Bool
  | .valueError _ | .validationError _ _ | .unicodeDecodeError => true
  | _ => false

/-- `AgentOutput(agent_name="simulation", errors=[message])`. -/
def failed (message : String) : AgentOutput := ⟨"simulation", [], [message]⟩

/-- The evidence of a result, its bounds clamped to the unit interval. -/
def simulated (call : Call) (result : SimulationResult) : Except PyError AgentOutput := do
  let (low, high) := result.uncertaintyBounds
  let lowNorm := max 0 (min 1 low)
  let highNorm := max 0 (min 1 high)
  let ptEst := max 0 (min 1 ((lowNorm + highNorm) / 2))
  let simUncertainty ← UncertaintyEstimate.new ptEst lowNorm highNorm .modelUncertainty
  return ⟨"simulation",
    [{ id := call.evidenceId
       source := result.modelUsed
       claim := result.prediction
       uncertainty := simUncertainty
       retrievedAt := call.retrievedAt
       documentId := none
       chunkId := none
       title := none
       sourceUrl := none
       extraMetadata := [("model_used", .str result.modelUsed)]
       uncertaintyBounds := some result.uncertaintyBounds
       assumptions := some result.assumptions }], []⟩

/-- The `except` clauses around the simulation. -/
def recover (err : PyError) : Except PyError AgentOutput :=
  if isValueError err then
    if pyIn "Missing required input" err.str then .ok (failed err.str)
    else .ok (failed "simulation inconclusive")
  else if err.isException then .ok (failed "simulation inconclusive")
  else .error err

/-- `run`, with what it leaves of the parameter store. -/
def run (call : Call) (agentInput : AgentInput) (priorOutputs : Option (List AgentOutput)) :
    Except PyError AgentOutput × ParameterStore :=
  let query := agentInput.query
  match extractHazardType call.engine.lower query with
  | none => (.ok (failed "Unknown or unsupported hazard simulation query."), call.engine.store)
  | some hazardType =>
      match extractParameters call.engine.lower query priorOutputs with
      | .error err => (.error err, call.engine.store)
      | .ok parameters =>
          let region := match agentInput.regionHint with
            | none | some "" => "global"
            | some hint => hint
          let (result, store) := runSimulation call.engine hazardType region parameters
          ((result >>= simulated call).tryCatch recover, store)

end SimulationAgent

end GaiaOS
