/-
The anonymization policy, after `app/api/v1/anonymization.py`.

An investigation is published with a category in place of its query, the domains read off its
trace, and the trace without the entries under excluded keys.  The domains are read off the trace
as it is stored.
-/
import GaiaOS.Lib.JsonTree
import GaiaOS.Schemas.AgentIo

namespace GaiaOS

namespace Anonymization

/-- What Python does with text: `str.lower`, `re.findall(r"\w+", text)`, `repr` and
`datetime.isoformat`. -/
structure TextRuntime where
  lower : String → String
  words : String → List String
  reprs : Json.Reprs
  isoformat : Int → String
  /-- Text of lower-case ASCII letters and underscores is in lower case. -/
  lower_lower : ∀ text : String, (∀ c ∈ text.toList, c.isLower ∨ c = '_') → lower text = text

/-- The columns of an investigation the policy reads, and the one it must not show. -/
structure InvestigationRow where
  id : Uuid
  userId : Option Uuid
  queryText : String
  complexityTier : Option String
  confidence : Option ℚ
  consentPublicResearch : Bool
  /-- `null` if there is none. -/
  executionTrace : Json
  createdAt : Int
  completedAt : Option Int

/-- `EXCLUDED_TRACE_KEYS`. -/
def excludedTraceKeys : List String :=
  ["user_id", "ip_address", "user_agent", "client_ip", "authorization", "token", "email",
    "password", "secret", "api_key", "credentials", "cookie", "session_id"]

/-- The parts of a key that exclude it. -/
def sensitiveParts : List String :=
  ["token", "secret", "password", "authorization", "api_key", "credentials", "user_id",
    "client_ip", "user_agent", "cookie", "session_id"]

/-- What the policy makes public. -/
structure PublicInvestigation where
  investigationId : String
  queryCategory : String
  domainsInvolved : List String
  complexityTier : Option String
  confidenceSummary : Option ℚ
  consentPublicResearch : Bool
  queryText : Option String
  executionTrace : Json
  createdAt : String
  completedAt : Option String

section Policy

variable (rt : TextRuntime)

def deriveQueryCategory (query : String) (complexityTier : Option String) : String :=
  let words := rt.words (rt.lower query)
  let mentions (terms : List String) : Bool := words.any (· ∈ terms)
  if mentions ["earthquake", "seismic", "fault", "tremor", "magnitude"] then "seismic_research"
  else if mentions ["wildfire", "fire", "burn", "smoke", "firms"] then "wildfire_research"
  else if mentions ["ocean", "sst", "marine", "sea", "wave"] then "oceanographic_research"
  else if mentions ["air", "atmosphere", "co2", "emissions", "pm25", "ozone"] then
    "atmospheric_research"
  else
    match complexityTier.filter (· ≠ "") with
    | some tier => tier ++ "_environmental_research"
    | none => "general_environmental_research"

/-- `execution_trace.get("domains") or execution_trace.get("active_agents") or []`. -/
def domainsValue (executionTrace : Json) : Except PyError Json := do
  let domains ← executionTrace.getD "domains" .null
  let activeAgents ← executionTrace.getD "active_agents" .null
  return domains.pyOr (activeAgents.pyOr (.arr []))

def extractDomainsInvolved (executionTrace : Json) : Except PyError (List String) := do
  if executionTrace.truthy = false then return []
  match ← domainsValue executionTrace with
  | .arr domains => return domains.map (Json.pyStr rt.reprs)
  | domains => return [Json.pyStr rt.reprs domains]

/-- The test of `sanitize_execution_trace` on a key. -/
def isExcluded (key : String) : Bool :=
  let keyStr := rt.lower key
  keyStr ∈ excludedTraceKeys || sensitiveParts.any fun part => pyIn part keyStr

def sanitizeExecutionTrace (trace : Json) : Json := trace.dropKeys (isExcluded rt)

/-- `AnonymizationPolicy.apply`. -/
def apply (investigation : InvestigationRow) : Except PyError PublicInvestigation := do
  let category := deriveQueryCategory rt investigation.queryText investigation.complexityTier
  let domains ← extractDomainsInvolved rt investigation.executionTrace
  return {
    investigationId := investigation.id.text
    queryCategory := category
    domainsInvolved := domains
    complexityTier := investigation.complexityTier
    confidenceSummary := investigation.confidence
    consentPublicResearch := investigation.consentPublicResearch
    queryText :=
      if investigation.consentPublicResearch then some investigation.queryText else none
    executionTrace := sanitizeExecutionTrace rt investigation.executionTrace
    createdAt := rt.isoformat investigation.createdAt
    completedAt := investigation.completedAt.map rt.isoformat }

end Policy

end Anonymization

end GaiaOS
