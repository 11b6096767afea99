/-
Calibrated parameters of the simulation models.

`simulation_engine/parameter_loader.py` reads the active parameters of a model from
`<model>_latest.yaml` in the configuration directory, through a cache of the process: an
entry checked in the last thirty seconds is returned without a look at the disk, an older one
is kept if the file has the modification time it was read at, and otherwise the file is read
and validated.  A file that is missing or not valid gives the defaults.

A file is what `yaml.safe_load` makes of it.  Floats are exact rationals, so `float(x)` of an
integer is the integer.
-/
import GaiaOS.Lib.Dict
import GaiaOS.Lib.Text

namespace GaiaOS

/-- A finite parameter set, and a sample of a validation set. -/
abbrev Params := Dict String ℚ

/-- The characters a glob pattern reads as themselves and a file name can have. -/
def isPlainChar (c : Char) : Bool := !(['*', '?', '[', '/', '\x00'].contains c)

/-- The name of a simulation model.  It becomes a part of file names and glob patterns and has
no character with a meaning of its own there. -/
structure ModelName where
  text : String
  plain : text.toList.all isPlainChar = true
  deriving DecidableEq

/-- A file of the configuration directory: its data, `none` where `yaml.safe_load` raises. -/
structure ConfigFile where
  data : Option Json
  mtime : ℚ

/-- `(last_checked_time, cached_mtime, params_dict)`. -/
structure CachedParameters where
  lastChecked : ℚ
  mtime : ℚ
  params : Params

/-- The configuration directory and the `_parameter_cache` of the process. -/
structure ParameterStore where
  files : Dict String ConfigFile
  parameterCache : Dict ModelName CachedParameters

/-- `CACHE_TTL_SECONDS`. -/
def cacheTtlSeconds : ℚ := 30

/-- `f"{model_name}_latest.yaml"`. -/
def latestFile (modelName : ModelName) : String := modelName.text ++ "_latest.yaml"

/-- `float(val)` of a finite number; a bool is an int. -/
def finiteNumber? : Json → Option ℚ
  | .int n => some n
  | .float (.finite q) => some q
  | .bool b => some (if b then 1 else 0)
  | _ => none

/-- `data["parameters"]` where it is a dict. -/
def parametersField? : Json → Option (List (String × Json))
  | .obj entries =>
      match Json.field? entries "parameters" with
      | some (.obj params) => some params
      | _ => none
  | _ => none

def validateParametersYaml (data : Json) (requiredKeys : List String) : Bool :=
  match parametersField? data with
  | none => false
  | some params =>
      requiredKeys.all fun k =>
        match Json.field? params k with
        | none => false
        | some val => (finiteNumber? val).isSome

/-- `float(data["parameters"][k])`. -/
def parameterValue? (data : Json) (k : String) : Option ℚ := do
  let params ← parametersField? data
  let val ← Json.field? params k
  finiteNumber? val

/-- The loop over the required keys of data that was validated for them. -/
def readParameters (data : Json) (requiredKeys : List String) : Params :=
  Dict.ofPairs (requiredKeys.filterMap fun k => (parameterValue? data k).map fun v => (k, v))

namespace ParameterStore

/-- The cached parameters of a model if they were checked recently. -/
def recent? (now : ℚ) (modelName : ModelName) (s : ParameterStore) : Option Params :=
  match s.parameterCache.get? modelName with
  | some cached => if now - cached.lastChecked ≤ cacheTtlSeconds then some cached.params else none
  | none => none

/-- The cached parameters of a model if its file was not modified since. -/
def unmodified? (mtime : ℚ) (modelName : ModelName) (s : ParameterStore) : Option Params :=
  match s.parameterCache.get? modelName with
  | some cached => if mtime = cached.mtime then some cached.params else none
  | none => none

def remember (modelName : ModelName) (cached : CachedParameters) (s : ParameterStore) :
    ParameterStore :=
  { s with parameterCache := s.parameterCache.set modelName cached }

end ParameterStore

def loadCalibratedParameters (now : ℚ) (modelName : ModelName) (defaults : Params)
    (s : ParameterStore) : Params × ParameterStore :=
  match s.recent? now modelName with
  | some params => (params, s)
  | none =>
      match s.files.get? (latestFile modelName) with
      | none => (defaults, s)
      | some file =>
          match s.unmodified? file.mtime modelName with
          | some params => (params, s.remember modelName ⟨now, file.mtime, params⟩)
          | none =>
              match file.data with
              | none => (defaults, s)
              | some data =>
                  if validateParametersYaml data defaults.keys then
                    let params := readParameters data defaults.keys
                    (params, s.remember modelName ⟨now, file.mtime, params⟩)
                  else (defaults, s)

/-- `invalidate_parameter_cache(model_name)`. -/
def invalidateParameterCache (modelName : ModelName) (s : ParameterStore) : ParameterStore :=
  { s with parameterCache := s.parameterCache.erase modelName }

end GaiaOS
