/-
The adapters of the ingestion, after `ingestion/scheduled/hazard_event_sources` and
`ingestion/scheduled/schemas.py`.

An adapter asks the client of its source and turns what comes back into records.  The clients
are parameters: they are functions of the request, and may answer live, from their cache, with
nothing, or raise.  So is what Python makes of a value from outside as text, number or time.

Four adapters drop what is older than the cursor, the one for earthquakes leaves that to the
request.  Two give up when something raises, three go on with the next location and keep what
they had of this one.  Times are microseconds.
-/
import GaiaOS.Lib.Python
import GaiaOS.Tools.SeismicUsgs
import Mathlib.Data.List.Sort

namespace GaiaOS

namespace Ingestion

/-- `HazardEventRecord`.  A label may be any value the source has there. -/
structure HazardEventRecord where
  source : String
  externalId : String
  eventType : String
  regionLabel : Json
  /-- Latitude and longitude. -/
  point : PyFloat × PyFloat
  eventDate : Int
  details : String

/-- A time that was read, which may come without a zone. -/
inductive IsoDate
  | aware (time : Int)
  | naive

/-- What Python makes of a value from outside. -/
structure Conversions where
  /-- `str(x)` of a value that is no text. -/
  repr : Json → String
  /-- `float(x)`. -/
  float : Json → Except PyError PyFloat
  /-- `datetime.fromtimestamp(x / 1000.0, UTC)`. -/
  fromtimestamp : Json → Except PyError Int
  /-- `datetime.strptime(text, format)` in UTC, `none` for a `ValueError`. -/
  strptime : String → String → Option Int
  /-- `datetime.fromisoformat(text)`, `none` for a `ValueError`. -/
  fromisoformat : String → Option IsoDate
  /-- `hashlib.sha256(text.encode("utf-8")).hexdigest()`. -/
  sha256 : String → String

/-- `str(x)`. -/
def Conversions.str (conv : Conversions) : Json → String
  | .str s => s
  | x => conv.repr x

/-- `isinstance(x, dict)`. -/
def isDict : Json → Bool
  | .obj _ => true
  | _ => false

/-- `x is None`. -/
def isNone : Json → Bool
  | .null => true
  | _ => false

/-- What a client hands back: it raises, or returns a result with or without a value. -/
abbrev Answer := Except PyError (Option Json)

/-- `result.value or fallback`. -/
def valueOr (value : Option Json) (fallback : Json) : Json := (value.getD .null).pyOr fallback

/-- `since or (now - timedelta(days=7))`. -/
def startDt (now : Int) (since : Option Int) : Int := since.getD (now - 7 * 86400 * 1000000)

section Loops

variable {α β L : Type}

/-- A loop that appends to a list: what it has appended when it ends, and what ended it. -/
def appendLoop (body : α → Except PyError (Option β)) : List α → List β × Option PyError
  | [] => ([], none)
  | x :: xs =>
      match body x with
      | .error e => ([], some e)
      | .ok record =>
          let rest := appendLoop body xs
          (record.toList ++ rest.1, rest.2)

/-- What is left of a loop outside of any `try`. -/
def unguarded (loop : List β × Option PyError) : Except PyError (List β) :=
  match loop.2 with
  | none => .ok loop.1
  | some e => .error e

/-- A loop over locations, each in a `try` of its own: what was appended before something raised
stays. -/
def overLocations (locations : List L)
    (fetch : L → Except PyError (List β × Option PyError)) : List β :=
  locations.flatMap fun location =>
    match fetch location with
    | .error _ => []
    | .ok (records, _) => records

end Loops

section Adapters

variable (conv : Conversions)

/-! ### USGS -/

/-- The request of the adapter. -/
def usgsQuery (now : Int) (since : Option Int) : SeismicUsgs.Query :=
  { minMagnitude := 5 / 2, starttime := some (startDt now since), endtime := some now }

def usgsRecord (feat : Json) : Except PyError (Option HazardEventRecord) := do
  let featId ← feat.getD "id" .null
  let props ← feat.getD "properties" (.obj [])
  let geom ← feat.getD "geometry" (.obj [])
  let coords ← geom.getD "coordinates" (.arr [])
  if featId.truthy = false ∨ coords.truthy = false then return none
  if (← coords.len) < 2 then return none
  let lon ← conv.float (← coords.itemAt 0)
  let lat ← conv.float (← coords.itemAt 1)
  let epochMs ← props.getD "time" .null
  if isNone epochMs then return none
  let eventDate ← conv.fromtimestamp epochMs
  let place := (← props.getD "place" .null).pyOr (.str "Unknown location")
  let mag ← props.getD "mag" .null
  let details :=
    if isNone mag then "Earthquake - " ++ conv.str place
    else "Magnitude " ++ conv.str mag ++ " earthquake - " ++ conv.str place
  return some
    { source := "usgs"
      externalId := conv.str featId
      eventType := "earthquake"
      regionLabel := place
      point := (lat, lon)
      eventDate
      details }

/-- `fetch_recent_usgs_events`.  The records are not compared with the cursor. -/
def fetchRecentUsgsEvents (client : SeismicUsgs.Query → Answer) (now : Int) (since : Option Int) :
    Except PyError (List HazardEventRecord) := do
  let value ← client (usgsQuery now since)
  let features ← (valueOr value (.arr [])).iter
  unguarded (appendLoop (usgsRecord conv) features)

/-! ### NOAA -/

structure Station where
  stationId : String
  city : String
  lat : ℚ
  lon : ℚ

def stationsToProcess : List Station :=
  [⟨"8518750", "New York", 40.7128, -74.006⟩, ⟨"9759110", "Tokyo", 35.6762, 139.6503⟩,
    ⟨"9414290", "San Francisco", 37.7749, -122.4194⟩]

def noaaRecord (now start : Int) (station : Station) (obs : Json) :
    Except PyError (Option HazardEventRecord) := do
  if isDict obs = false then return none
  let t ← obs.getD "t" .null
  let v ← obs.getD "v" .null
  if t.truthy = false ∨ v.truthy = false then return none
  let dtVal := (conv.strptime (conv.str t) "%Y-%m-%d %H:%M").getD now
  if dtVal < start then return none
  return some
    { source := "noaa"
      externalId := "noaa_" ++ station.stationId ++ "_" ++ pyReplace ' ' "T" (conv.str t)
      eventType := "marine heatwave"
      regionLabel := .str station.city
      point := (.finite station.lat, .finite station.lon)
      eventDate := dtVal
      details := "NOAA station " ++ station.stationId ++ " (" ++ station.city ++
        ") water temperature: " ++ conv.str v ++ "°C" }

/-- `fetch_recent_noaa_events`. -/
def fetchRecentNoaaEvents (client : Station → Answer) (now : Int) (since : Option Int) :
    List HazardEventRecord :=
  overLocations stationsToProcess fun station => do
    let value ← client station
    let obsList ← (valueOr value (.obj [])).getD "data" (.arr [])
    match obsList with
    | .arr observations =>
        return appendLoop (noaaRecord conv now (startDt now since) station) observations
    | _ => return ([], none)

/-! ### Copernicus -/

structure Bbox where
  name : String
  minX : ℚ
  minY : ℚ
  maxX : ℚ
  maxY : ℚ

def defaultBboxes : List Bbox :=
  [⟨"California", -124.4, 32.5, -114.1, 42⟩, ⟨"Mediterranean", -10, 35, 30, 45⟩]

/-- The date of a product; one without a zone cannot be compared. -/
def copernicusDate (now : Int) (dateStr : Json) : Except PyError Int :=
  if dateStr.truthy then
    match dateStr with
    | .str s =>
        match conv.fromisoformat (pyReplace 'Z' "+00:00" s) with
        | none => .ok now
        | some (.aware time) => .ok time
        | some .naive => .error (.typeError "can't compare offset-naive and offset-aware datetimes")
    | _ => .error (.attributeError "replace")
  else .ok now

def copernicusRecord (now start : Int) (bbox : Bbox) (prod : Json) :
    Except PyError (Option HazardEventRecord) := do
  let prodId ← prod.getD "Id" .null
  let name ← prod.getD "Name" (.str "Sentinel-2 Product")
  let dateStr ← (← prod.getD "ContentDate" (.obj [])).getD "Start" .null
  if prodId.truthy = false then return none
  let eventDate ← copernicusDate conv now dateStr
  if eventDate < start then return none
  let sourceUrl := "https://catalogue.dataspace.copernicus.eu/odata/v1/Products(" ++
    conv.str prodId ++ ")"
  return some
    { source := "copernicus"
      externalId := "copernicus_" ++ conv.str prodId
      eventType := "wildfire_satellite"
      regionLabel := .str bbox.name
      point := (.finite ((bbox.minY + bbox.maxY) / 2), .finite ((bbox.minX + bbox.maxX) / 2))
      eventDate
      details := "Copernicus Sentinel-2 Satellite Product '" ++ conv.str name ++
        "' | Provider: EU Copernicus Data Space | Original ID: " ++ conv.str prodId ++
        " | Source URL: " ++ sourceUrl }

/-- `fetch_recent_copernicus_events`. -/
def fetchRecentCopernicusEvents (client : Bbox → Answer) (now : Int) (since : Option Int) :
    List HazardEventRecord :=
  overLocations defaultBboxes fun bbox => do
    let value ← client bbox
    let products ← (valueOr value (.arr [])).iter
    return appendLoop (copernicusRecord conv now (startDt now since) bbox) products

/-! ### ERA5 -/

structure MonitoringLocation where
  cityName : String
  lat : ℚ
  lon : ℚ

def monitoringLocations : List MonitoringLocation :=
  [⟨"Tokyo", 35.6762, 139.6503⟩, ⟨"London", 51.5074, -0.1278⟩, ⟨"Paris", 48.8566, 2.3522⟩,
    ⟨"California", 36.7783, -119.4179⟩]

/-- The lists of a daily answer. -/
structure Daily where
  temps : Json
  winds : Json
  precips : Json

/-- `values[i] if i < len(values) else "N/A"`. -/
def dailyValue (values : Json) (i : Nat) : Except PyError Json := do
  if i < (← values.len) then values.itemAt i else return .str "N/A"

def era5Record (now start : Int) (location : MonitoringLocation) (daily : Daily)
    (entry : Json × Nat) : Except PyError (Option HazardEventRecord) := do
  let (time, i) := entry
  let eventDate := (conv.strptime (conv.str time) "%Y-%m-%d").getD now
  if eventDate < start then return none
  let temp ← dailyValue daily.temps i
  let wind ← dailyValue daily.winds i
  let precip ← dailyValue daily.precips i
  let extId := "era5_" ++ location.cityName.toLower ++ "_" ++ conv.str time
  return some
    { source := "era5"
      externalId := extId
      eventType := "atmospheric_anomaly"
      regionLabel := .str location.cityName
      point := (.finite location.lat, .finite location.lon)
      eventDate
      details := "ERA5 Atmospheric Reanalysis Baseline in " ++ location.cityName ++ " on " ++
        conv.str time ++ ": Mean Temp: " ++ conv.str temp ++ "°C, Max Wind: " ++ conv.str wind ++
        " km/h, Precip: " ++ conv.str precip ++ " mm | Provider: ECMWF ERA5 | Original ID: " ++
        extId ++ " | Source URL: https://archive-api.open-meteo.com/v1/archive" }

/-- `fetch_recent_era5_events`.  The client is asked for the days from the start to now. -/
def fetchRecentEra5Events (client : MonitoringLocation → Int → Int → Answer) (now : Int)
    (since : Option Int) : List HazardEventRecord :=
  overLocations monitoringLocations fun location => do
    let value ← client location (startDt now since) now
    let daily ← (valueOr value (.obj [])).getD "daily" (.obj [])
    let times ← daily.getD "time" (.arr [])
    let temps ← daily.getD "temperature_2m_mean" (.arr [])
    let winds ← daily.getD "wind_speed_10m_max" (.arr [])
    let precips ← daily.getD "precipitation_sum" (.arr [])
    let times ← times.iter
    return appendLoop (era5Record conv now (startDt now since) location ⟨temps, winds, precips⟩)
      times.zipIdx

/-! ### GDELT -/

/-- `_parse_gdelt_date`; what cannot be read is seen now. -/
def parseGdeltDate (now : Int) (seendate : Json) : Int :=
  if seendate.truthy then
    let s := pyReplace 'T' "" (pyReplace 'Z' "" (conv.str seendate))
    match conv.strptime (pyTake 14 s) "%Y%m%d%H%M%S" with
    | some time => time
    | none => (conv.strptime (pyTake 8 s) "%Y%m%d").getD now
  else now

/-- The record of an article; the clock is read for each. -/
def gdeltRecord (nowAt : Nat → Int) (start : Int) (entry : Json × Nat) :
    Except PyError (Option HazardEventRecord) := do
  let (art, i) := entry
  let url ← art.getD "url" .null
  let title := (← art.getD "title" .null).pyOr (.str "Socio-Political Hazard Event Report")
  let seendate ← art.getD "seendate" .null
  let domain := (← art.getD "domain" .null).pyOr (.str "news")
  let language := (← art.getD "language" .null).pyOr (.str "English")
  if url.truthy = false then return none
  let eventDate := parseGdeltDate conv (nowAt i) seendate
  if eventDate < start then return none
  let some urlText := url.asStr? | .error (.attributeError "encode")
  let extId := "gdelt_" ++ pyTake 16 (conv.sha256 urlText)
  return some
    { source := "gdelt"
      externalId := extId
      eventType := "civil_unrest_hazard_adjacent"
      regionLabel := domain
      point := (.finite 0, .finite 0)
      eventDate
      details := "GDELT News Report: '" ++ conv.str title ++ "' | Provider: GDELT Project (" ++
        conv.str domain ++ ") | Language: " ++ conv.str language ++ " | Original ID: " ++ extId ++
        " | Source URL: " ++ urlText }

/-- `fetch_recent_gdelt_events`, in the order of the dates. -/
def fetchRecentGdeltEvents (client : Int → Answer) (now : Int) (nowAt : Nat → Int)
    (since : Option Int) : Except PyError (List HazardEventRecord) := do
  let value ← client (startDt now since)
  let articles ← (valueOr value (.arr [])).iter
  let records ← unguarded
    (appendLoop (gdeltRecord conv nowAt (startDt now since)) articles.zipIdx)
  return records.insertionSort fun record next => record.eventDate ≤ next.eventDate

end Adapters

end Ingestion

end GaiaOS
