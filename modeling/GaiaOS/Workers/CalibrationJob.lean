/-
The calibration job, after `workers/jobs/calibration_job.py` and
`simulation_engine/calibration/outcome_extractor.py`.

The job reads all of `hazard_events`, makes samples of pairs of events and baselines, and fits and
promotes the parameters of a model if there are enough of them.  What was observed is searched for
in the details of an event.  A promotion is in the files at once, its metric comes with the commit
at the end.

Numbers are exact, as in the fits, and a figure is of the size of a float.
-/
import GaiaOS.Lib.DecimalText
import GaiaOS.Lib.PyRegex
import GaiaOS.Metrics.Collector
import GaiaOS.SimulationEngine.Fitting
import GaiaOS.Workers.IngestionJob

namespace GaiaOS

namespace CalibrationJob

open Calibration Regex

/-! ### Constants -/

/-- `MIN_CALIBRATION_SAMPLES`. -/
def minCalibrationSamples : Nat := 5

/-- `int(count * TRAIN_VALIDATION_SPLIT_RATIO)`. -/
def trainCount (count : Nat) : Nat := count * 4 / 5

def wildfireSpread : ModelName := ⟨"wildfire_spread", rfl⟩

theorem plain_floodExtent : "flood_extent".toList.all isPlainChar = true := rfl

def floodExtent : ModelName := ⟨"flood_extent", plain_floodExtent⟩

def plumeDispersion : ModelName := ⟨"plume_dispersion", rfl⟩

def ensoForecast : ModelName := ⟨"enso_forecast", rfl⟩

/-! ### Rows -/

/-- The columns of `hazard_events` the job reads, without the identifier. -/
structure HazardRow where
  source : Option String
  eventType : String
  regionLabel : Option String
  eventDate : Int
  details : Option String
  deriving DecidableEq

/-- An ingested row.  A label that is no text does not get into the column. -/
def ofRecord (rec : Ingestion.HazardEventRecord) : HazardRow where
  source := some rec.source
  eventType := rec.eventType
  regionLabel := rec.regionLabel.asStr?
  eventDate := rec.eventDate
  details := some rec.details

/-- `event_date.date()`, as the number of the day. -/
def HazardRow.date (row : HazardRow) : Int := row.eventDate / 86400000000

/-- `row.source == source`. -/
def HazardRow.isOf (row : HazardRow) (source : String) : Bool := row.source == some source

/-- `row.source not in ("copernicus", "era5", "noaa")`. -/
def HazardRow.isGeneral (row : HazardRow) : Bool :=
  !(row.isOf "copernicus") && !(row.isOf "era5") && !(row.isOf "noaa")

/-! ### Texts -/

/-- `[-0-9.]`. -/
def isFloatChar (c : Char) : Bool := c == '-' || c.isDigit || c == '.'

/-- `<label>\s*([-0-9.]+)`. -/
def labelled (label : String) : Pattern Char :=
  ((Pattern.word (literal label)).seq spaces).capturing isFloatChar

/-- `float(text)` of a text of signs, digits and dots. -/
def floatOfText (text : List Char) : Except PyError ℚ :=
  let unsigned := if text.head? = some '-' then text.tail else text
  if '-' ∈ unsigned then
    .error (.valueError ("could not convert string to float: '" ++ String.ofList text ++ "'"))
  else
    let whole := unsigned.takeWhile (· ≠ '.')
    let fraction := (unsigned.dropWhile (· ≠ '.')).drop 1
    if whole ++ fraction = [] ∨ '.' ∈ fraction then
      .error (.valueError ("could not convert string to float: '" ++ String.ofList text ++ "'"))
    else
      let value : ℚ := decimalValue (whole ++ fraction) / 10 ^ fraction.length
      .ok (if text.head? = some '-' then -value else value)

/-- `float(match.group(1)) if match else None`. -/
def reading (label details : String) : Except PyError (Option ℚ) :=
  match group1 (labelled label) details with
  | none => .ok none
  | some text => do return some (← floatOfText text)

/-- `parse_era5_details`: temperature, wind and precipitation. -/
def parseEra5Details (details : String) : Option ℚ × Option ℚ × Option ℚ :=
  let read : Except PyError (Option ℚ × Option ℚ × Option ℚ) := do
    let temp ← reading "Mean Temp:" details
    let wind ← reading "Max Wind:" details
    let precip ← reading "Precip:" details
    return (temp, wind, precip)
  match read with
  | .ok values => values
  | .error _ => (none, none, none)

/-- The label of an outcome in the details. -/
def outcomeLabel (outcomeType : String) : Option String :=
  match outcomeType with
  | "wildfire_spread" => some "observed_spread_rate:"
  | "flood_extent" => some "observed_flooded_area:"
  | "plume_dispersion" => some "observed_dispersion_distance:"
  | "enso_forecast" => some "water temperature:"
  | _ => none

/-- `extract_observed_outcome`. -/
def extractObservedOutcome (event : HazardRow) (outcomeType : String) : Option ℚ :=
  match event.details with
  | none => none
  | some details =>
      if details = "" then none
      else
        match outcomeLabel outcomeType with
        | none => none
        | some label =>
            match reading label details with
            | .ok outcome => outcome
            | .error _ => none

/-! ### Samples -/

/-- `matching_era5[0]`, if there is one. -/
def matchingEra5 (era5Events : List HazardRow) (event : HazardRow) : Option HazardRow :=
  era5Events.find? fun e => e.date == event.date && e.regionLabel == event.regionLabel

/-- The baseline of the day and the region of an event. -/
def baseline (era5Events : List HazardRow) (event : HazardRow) :
    Option (Option ℚ × Option ℚ × Option ℚ) :=
  (matchingEra5 era5Events event).map fun e => parseEra5Details (e.details.getD "")

/-- The samples of `_calibrate_wildfire`. -/
def wildfireSamples (copernicusEvents era5Events : List HazardRow) : List (WildfireSample ℚ) :=
  copernicusEvents.filterMap fun cop => do
    let (temp, wind, _) ← baseline era5Events cop
    let temp ← temp
    let wind ← wind
    let obs ← extractObservedOutcome cop "wildfire_spread"
    return { windSpeed := wind, temperature := temp, observed := obs }

/-- `"flood" in event_type.lower()`. -/
def HazardRow.isFlood (row : HazardRow) : Bool := pyIn "flood" row.eventType.toLower

/-- The samples of `_calibrate_flood`. -/
def floodSamples (generalHazards era5Events : List HazardRow) : List (FloodSample ℚ) :=
  (generalHazards.filter HazardRow.isFlood).filterMap fun fld => do
    let (_, _, precip) ← baseline era5Events fld
    let precip ← precip.filter (0 < ·)
    let obs ← extractObservedOutcome fld "flood_extent"
    return { rainfall := precip, observed := obs }

/-- `any(k in event_type.lower() for k in ("wind", "storm", "hurricane", "tornado"))`. -/
def HazardRow.isWind (row : HazardRow) : Bool :=
  ["wind", "storm", "hurricane", "tornado"].any fun k => pyIn k row.eventType.toLower

/-- The samples of `_calibrate_plume`. -/
def plumeSamples (generalHazards era5Events : List HazardRow) : List (PlumeSample ℚ) :=
  (generalHazards.filter HazardRow.isWind).filterMap fun wnd => do
    let (_, wind, _) ← baseline era5Events wnd
    let wind ← wind.filter (0 < ·)
    let obs ← extractObservedOutcome wnd "plume_dispersion"
    return { windSpeed := wind, observed := obs }

/-- The samples of `_calibrate_enso`: anomalies relative to 20 degrees. -/
def ensoSamples (noaaEvents : List HazardRow) : List (EnsoSample ℚ) :=
  noaaEvents.filterMap fun noaa =>
    (extractObservedOutcome noaa "enso_forecast").map fun obs => { sstAnomaly := obs - 20 }

/-! ### One model -/

/-- The entry of a model in the summary. -/
inductive ModelSummary
  | calibrated (promoted : Bool) (version : Int) (newScore : Surd)
  | insufficientData

/-- What the job has done so far: the files, the summary and the metrics of its session. -/
structure Progress where
  store : ParameterStore
  summary : List (ModelName × ModelSummary) := []
  metrics : List Metrics.MetricEvent := []

/-- `random.Random(CALIBRATION_RANDOM_SEED)`: the order it puts a list of some length into. -/
structure Shuffle where
  order : Nat → List Nat
  perm : ∀ count, (order count).Perm (List.range count)

/-- `shuffle`. -/
def Shuffle.run {S : Type} (shuffle : Shuffle) (samples : List S) : List S :=
  (shuffle.order samples.length).filterMap (samples[·]?)

/-- What a run of the job meets: the clocks and files of the promotions, the shuffle, `math.sqrt`
and what the database raises. -/
structure CalibrationRun where
  promotion : ModelName → PromotionContext
  shuffle : Shuffle
  sqrt : ℚ → ℚ
  /-- There is a session factory. -/
  sessionFactory : Bool := true
  selectError : Option PyError := none
  commitError : Option PyError := none

/-- The second half of the `_calibrate_` functions: the model is fitted and promoted if there are
enough samples. -/
def calibrate {S : Type} (run : CalibrationRun) (modelName : ModelName) (defaults : Params)
    (fit : List S → List S → Params × ℚ) (toParams : S → Params) (samples : List S)
    (progress : Progress) : Progress × Option PyError :=
  if minCalibrationSamples ≤ samples.length then
    let shuffled := run.shuffle.run samples
    let split := trainCount shuffled.length
    let train := shuffled.take split
    let val := shuffled.drop split
    let (fittedParams, _) := fit train val
    match checkAndPromoteParameters (run.promotion modelName) modelName fittedParams defaults
        (val.map toParams) progress.store with
    | (.error e, store) => ({ progress with store := store }, some e)
    | (.ok result, store) =>
        ({ store := store
           summary := progress.summary ++
            [(modelName, .calibrated result.promoted result.newVersion result.newScore)]
           metrics := progress.metrics ++
            if result.promoted then [.calibrationCompleted modelName.text true] else [] }, none)
  else
    ({ progress with summary := progress.summary ++ [(modelName, .insufficientData)] }, none)

/-- A sample as a dict. -/
def wildfireParams (s : WildfireSample ℚ) : Params :=
  Dict.ofPairs [("wind_speed", s.windSpeed), ("temperature", s.temperature),
    ("observed", s.observed)]

def floodParams (s : FloodSample ℚ) : Params :=
  Dict.ofPairs [("rainfall", s.rainfall), ("observed", s.observed)]

def plumeParams (s : PlumeSample ℚ) : Params :=
  Dict.ofPairs [("wind_speed", s.windSpeed), ("observed", s.observed)]

def ensoParams (s : EnsoSample ℚ) : Params := Dict.ofPairs [("sst_anomaly", s.sstAnomaly)]

/-- `_calibrate_wildfire`. -/
def calibrateWildfire (run : CalibrationRun) (copernicusEvents era5Events : List HazardRow) :
    Progress → Progress × Option PyError :=
  calibrate run wildfireSpread wildfireDefaults (fitWildfireSpread run.sqrt) wildfireParams
    (wildfireSamples copernicusEvents era5Events)

/-- `_calibrate_flood`. -/
def calibrateFlood (run : CalibrationRun) (generalHazards era5Events : List HazardRow) :
    Progress → Progress × Option PyError :=
  calibrate run floodExtent floodFit.defaults (fitFloodExtent run.sqrt) floodParams
    (floodSamples generalHazards era5Events)

/-- `_calibrate_plume`. -/
def calibratePlume (run : CalibrationRun) (generalHazards era5Events : List HazardRow) :
    Progress → Progress × Option PyError :=
  calibrate run plumeDispersion plumeFit.defaults (fitPlumeDispersion run.sqrt) plumeParams
    (plumeSamples generalHazards era5Events)

/-- `_calibrate_enso`. -/
def calibrateEnso (run : CalibrationRun) (noaaEvents : List HazardRow) :
    Progress → Progress × Option PyError :=
  calibrate run ensoForecast ensoDefaults (fitEnsoForecast run.sqrt) ensoParams
    (ensoSamples noaaEvents)

/-! ### The job -/

/-- One after the other; an exception ends the job. -/
def inSequence : List (Progress → Progress × Option PyError) → Progress →
    Progress × Option PyError
  | [], progress => (progress, none)
  | stage :: stages, progress =>
      match stage progress with
      | (progress, some e) => (progress, some e)
      | (progress, none) => inSequence stages progress

/-- The four calibrations of the rows, in order. -/
def stages (run : CalibrationRun) (allEvents : List HazardRow) :
    List (Progress → Progress × Option PyError) :=
  let copernicusEvents := allEvents.filter (·.isOf "copernicus")
  let era5Events := allEvents.filter (·.isOf "era5")
  let noaaEvents := allEvents.filter (·.isOf "noaa")
  let generalHazards := allEvents.filter HazardRow.isGeneral
  [calibrateWildfire run copernicusEvents era5Events, calibrateFlood run generalHazards era5Events,
    calibratePlume run generalHazards era5Events, calibrateEnso run noaaEvents]

/-- How a job ended: its summary or what it raised, the files, and the metrics it committed. -/
structure Outcome where
  summary : Except PyError (List (ModelName × ModelSummary))
  store : ParameterStore
  metrics : List Metrics.MetricEvent := []

/-- `_async_run_calibration_job`, on the rows as the database lists them. -/
def asyncRunCalibrationJob (run : CalibrationRun) (allEvents : List HazardRow)
    (store : ParameterStore) : Outcome :=
  if run.sessionFactory = false then
    { summary := .error (.exception "Database session factory is not initialised."), store }
  else
    match run.selectError with
    | some e => { summary := .error e, store }
    | none =>
        match inSequence (stages run allEvents) { store } with
        | (progress, some e) => { summary := .error e, store := progress.store }
        | (progress, none) =>
            match run.commitError with
            | some e => { summary := .error e, store := progress.store }
            | none => { progress with summary := .ok progress.summary }

/-! ### Ingestion and calibration -/

/-- The ingested rows and those that were there before, the files, and the committed metrics. -/
structure World where
  tables : Ingestion.Tables
  others : List HazardRow
  store : ParameterStore
  metrics : List Metrics.MetricEvent := []

/-- `hazard_events`. -/
def World.rows (w : World) : List HazardRow :=
  w.others ++ w.tables.hazardEvents.map ofRecord

inductive Event
  | ingest (run : Ingestion.JobRun)
  /-- The job runs; the database lists the rows of one time in any order. -/
  | calibrate (run : CalibrationRun) (allEvents : List HazardRow)
  /-- A simulation loads its parameters. -/
  | load (now : ℚ) (modelName : ModelName) (defaults : Params)

/-- `SELECT ... ORDER BY event_date ASC` may list the rows like this. -/
def World.lists (w : World) (allEvents : List HazardRow) : Bool :=
  allEvents.isPerm w.rows && decide (allEvents.Pairwise (·.eventDate ≤ ·.eventDate))

/-- One event; `none` where it cannot happen. -/
def step (conv : Ingestion.Conversions) (w : World) : Event → Option World
  | .ingest run => some { w with tables := (Ingestion.asyncRunIngestionJob conv run w.tables).2 }
  | .calibrate run allEvents =>
      if w.lists allEvents then
        let outcome := asyncRunCalibrationJob run allEvents w.store
        some { w with store := outcome.store, metrics := w.metrics ++ outcome.metrics }
      else none
  | .load now modelName defaults =>
      some { w with store := (loadCalibratedParameters now modelName defaults w.store).2 }

end CalibrationJob

end GaiaOS
