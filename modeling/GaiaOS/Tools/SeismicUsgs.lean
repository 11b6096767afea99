/-
The earthquake client, after `tools/seismic_usgs/client.py`.

A query becomes the parameters of a request and a cache key.  The two are not the same
selection of the query: the location is only asked for if all of it is given, and the times are
not in the key, while the key has the coordinates rounded and a missing one like a zero.

How Python writes a float is left to `FloatText`.  A float is a rational, with a sign of its
own where it is the result of rounding, since a small negative number rounds to `-0.0`.
-/
import GaiaOS.Lib.Python
import GaiaOS.Resilience.CallHistory

namespace GaiaOS

namespace SeismicUsgs

open DegradedMode

/-- The arguments of `get_recent_earthquakes`; times are microseconds. -/
structure Query where
  lat : Option ℚ := none
  lon : Option ℚ := none
  radiusKm : Option ℚ := none
  minMagnitude : ℚ := 1
  days : Int := 7
  starttime : Option Int := none
  endtime : Option Int := none

/-! ### The request -/

/-- The circle a query asks for, if it gives all of it. -/
def location (query : Query) : Option (ℚ × ℚ × ℚ) :=
  match query.lat, query.lon, query.radiusKm with
  | some lat, some lon, some radiusKm => some (lat, lon, radiusKm)
  | _, _, _ => none

/-- `params`, without the format. -/
structure Params where
  starttime : Int
  endtime : Int
  minmagnitude : ℚ
  location : Option (ℚ × ℚ × ℚ)

/-- The parameters of the request, at a time. -/
def params (now : Int) (query : Query) : Params :=
  let endDt := query.endtime.getD now
  { starttime := query.starttime.getD (endDt - query.days * 86400 * 1000000)
    endtime := endDt
    minmagnitude := query.minMagnitude
    location := location query }

/-! ### The key -/

/-- `str` of a float, by its sign and its value: different floats are written differently, with
none of the texts of other values and without a colon. -/
structure FloatText where
  str : Bool → ℚ → String
  inj : ∀ {negative negative' value value'}, str negative value = str negative' value' →
    negative = negative' ∧ value = value'
  noColon : ∀ negative value, ':' ∉ (str negative value).toList
  ne_zero : ∀ negative value, str negative value ≠ "0"
  ne_none : ∀ negative value, str negative value ≠ "None"

/-- `round(x or 0, 2)`: the integer zero for nothing and for zero, else a float. -/
inductive KeyNumber
  | zero
  | float (negative : Bool) (value : ℚ)
  deriving DecidableEq

def rounded (x : Option ℚ) : KeyNumber :=
  match x with
  | none => .zero
  | some x => if x = 0 then .zero else .float (x < 0) (pyRound x 2)

/-- What the cache key is written from. -/
structure KeyParts where
  lat : KeyNumber
  lon : KeyNumber
  radiusKm : Option ℚ
  minMagnitude : ℚ
  days : Int
  deriving DecidableEq

def keyParts (query : Query) : KeyParts where
  lat := rounded query.lat
  lon := rounded query.lon
  radiusKm := query.radiusKm
  minMagnitude := query.minMagnitude
  days := query.days

section Text

variable (floats : FloatText)

def KeyNumber.text : KeyNumber → String
  | .zero => "0"
  | .float negative value => floats.str negative value

/-- `str` of a float that may be missing. -/
def optionalText (x : Option ℚ) : String :=
  match x with
  | none => "None"
  | some x => floats.str (x < 0) x

def KeyParts.text (parts : KeyParts) : String :=
  "earthquakes:" ++ parts.lat.text floats ++ ":" ++ parts.lon.text floats ++ ":" ++
    optionalText floats parts.radiusKm ++ ":" ++
    floats.str (parts.minMagnitude < 0) parts.minMagnitude ++ ":" ++ toString parts.days

/-- The `cache_key` of a query. -/
def cacheKey (query : Query) : String := (keyParts query).text floats

end Text

/-! ### The fetch -/

/-- What comes of `client.get`: an error, or a status and a body, `none` if that is no JSON. -/
inductive Exchange
  | httpError
  | otherError
  | response (statusCode : Nat) (body : Option Json)

/-- `_fetch`.  `raise_for_status` lets every status of success pass, and what is no JSON or no
object is an exception of its own. -/
def fetch : Exchange → Attempt Json
  | .httpError => .httpError
  | .otherError => .otherError
  | .response statusCode body =>
      if statusCode ≠ 200 ∧ ¬ (200 ≤ statusCode ∧ statusCode < 300) then .httpError
      else
        match body with
        | none => .otherError
        | some data =>
            match data.getD "features" (.arr []) with
            | .ok features => .value features
            | .error _ => .otherError

/-- The call `get_recent_earthquakes` makes. -/
def earthquakeCall (floats : FloatText) (query : Query) (exchanges : Nat → Exchange)
    (clock : Clock) : Call Json :=
  { clock with
    source := "usgs"
    cacheKey := cacheKey floats query
    ttl := some 600
    fn := fun i => fetch (exchanges i) }

end SeismicUsgs

end GaiaOS
