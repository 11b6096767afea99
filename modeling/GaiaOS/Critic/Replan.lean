/-
When the critic sends an investigation back, and to which domains, after
`orchestrator/agents/critic/replan.py`.
-/
import GaiaOS.Schemas.AgentIo

namespace GaiaOS

/-- `any(f.severity == "high" for f in critic_flags)`. -/
def hasHighSeverity (criticFlags : List CriticFlag) : Bool :=
  criticFlags.any fun f => f.severity = .high

/-- `should_replan`.  `enableReplanLoop` is the setting, `enabled` the override. -/
def shouldReplan (enableReplanLoop : Bool) (criticFlags : List CriticFlag) (replanCount : Nat)
    (maxReplans : Nat := 2) (enabled : Option Bool := none) : Bool :=
  if !enabled.getD enableReplanLoop then false
  else if replanCount ≥ maxReplans then false
  else hasHighSeverity criticFlags

/-- `DOMAIN_KEYWORD_MAP`. -/
def domainKeywordMap : List (String × List String) :=
  [("air_quality", ["air_quality", "air quality", "pm2.5", "pm10", "aqi", "no2", "openaq"]),
    ("seismic", ["seismic", "earthquake", "fault", "magnitude", "usgs", "epicenter", "tremor"]),
    ("ocean", ["ocean", "sea surface", "temperature", "tide", "noaa", "sst", "gulf stream"]),
    ("atmosphere", ["atmosphere", "weather", "pressure", "wind", "meteo", "humidity", "trough"]),
    ("wildfire", ["wildfire", "fire", "thermal", "firms", "hotspot", "smoke", "plume"]),
    ("literature", ["literature", "paper", "study", "research", "citation"]),
    ("causal_chain", ["causal_chain", "causal", "chain", "causality"]),
    ("simulation", ["simulation", "dispersion", "forecast", "model"])]

section Targets

variable (rt : Runtime) (listDomains : List String)

/-- `domain in valid_domains`. -/
def isValidDomain (domain : String) : Bool :=
  listDomains.contains domain || domain == "simulation"

/-- Append a domain that is valid and not yet a target. -/
def addTarget (targets : List String) (domain : String) : List String :=
  if isValidDomain listDomains domain && !targets.contains domain then targets ++ [domain]
  else targets

/-- Strategy 1: the domains the flags name. -/
def structuredTargets (targetFlags : List CriticFlag) : List String :=
  (targetFlags.flatMap fun flag => (flag.flaggedDomains.getD []).map fun d => rt.lower (pyStrip d))
    |>.foldl (addTarget listDomains) []

/-- The domains one of whose keywords occurs in a flag's texts. -/
def keywordDomains (flag : CriticFlag) : List String :=
  let combinedText := rt.lower (flag.claimText ++ " " ++ flag.flaggedReason)
  (domainKeywordMap.filter fun entry => entry.2.any fun kw => pyIn kw combinedText).map (·.1)

/-- Strategy 2: keyword matching. -/
def keywordTargets (targetFlags : List CriticFlag) : List String :=
  (targetFlags.flatMap (keywordDomains rt)).foldl (addTarget listDomains) []

/-- `build_replan_targets`. -/
def buildReplanTargets (criticFlags : List CriticFlag) (fallbackDomains : List String) :
    List String :=
  let highFlags := criticFlags.filter fun f => f.severity = .high
  let targetFlags := if highFlags.isEmpty then criticFlags else highFlags
  let structured := structuredTargets rt listDomains targetFlags
  if !structured.isEmpty then structured
  else
    let keyword := keywordTargets rt listDomains targetFlags
    if !keyword.isEmpty then keyword
    else
      let validFallbacks := fallbackDomains.filter (isValidDomain listDomains)
      if !validFallbacks.isEmpty then validFallbacks else ["air_quality"]

end Targets

end GaiaOS
