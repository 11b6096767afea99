/-
The classifier of queries, after `orchestrator/agents/supervisor/classifier.py`.

A query is put in lower case and searched for keywords between word boundaries: those of each
domain, those of a complex or a moderate query, and those that ask for a simulation.  What belongs
to a word outside ASCII is a parameter.
-/
import GaiaOS.Graph.Builder
import GaiaOS.Lib.PyRegex
import GaiaOS.Lib.WordRegex

namespace GaiaOS

namespace Classifier

open Regex

/-- `\w`. -/
structure WordChars where
  isWord : Char → Bool
  ascii : ∀ c : Char, c.toNat < 128 → isWord c = (c.isAlphanum || c == '_')

/-! ### Patterns -/

/-- A keyword. -/
def keyword (text : String) : Pattern Char := .word (literal text)

/-- `<text>s?`. -/
def plural (text : String) : Pattern Char := (keyword text).seq (keyword "s").opt

/-- `<a>\s+<b>`. -/
def phrase (a b : Pattern Char) : Pattern Char := a.seq ((Pattern.plus isPySpace).seq b)

/-- `simulat(e|ion)`. -/
def simulate : Pattern Char := (keyword "simulat").seq ((keyword "e").alt (keyword "ion"))

/-- `COMPLEX_KEYWORDS`. -/
def complexKeywords : List (Pattern Char) :=
  [keyword "predict", keyword "forecast", simulate, keyword "causal", keyword "trigger",
    keyword "affect", plural "tsunami", phrase (keyword "historical") (keyword "modeling")]

/-- `MODERATE_KEYWORDS`. -/
def moderateKeywords : List (Pattern Char) :=
  [keyword "seismic", keyword "ocean", keyword "atmosphere", plural "wildfire",
    plural "earthquake", plural "flood", plural "hurricane"]

/-- `DOMAIN_PATTERNS`. -/
def domainPatterns : List (String × List (Pattern Char)) :=
  [("air_quality", [phrase (keyword "air") (keyword "quality"), keyword "pm2.5", keyword "pm10",
      keyword "aqi"]),
    ("seismic", [keyword "seismic", plural "earthquake"]),
    ("ocean", [plural "ocean", keyword "sea", plural "tsunami",
      phrase (keyword "tidal") (plural "wave")]),
    ("atmosphere", [keyword "atmosphere", plural "wind", keyword "weather",
      phrase (keyword "air") (keyword "temperature")]),
    ("wildfire", [plural "wildfire", plural "fire"]),
    ("literature", [keyword "literature", plural "paper", plural "report", keyword "studies",
      keyword "study", keyword "research", plural "article"]),
    ("causal_chain", [keyword "causal", keyword "trigger", keyword "affect", keyword "preceded",
      keyword "correlation", keyword "linked",
      (keyword "analog").seq ((keyword "ue").alt (keyword "ues")), keyword "chain"])]

/-- `sim_keywords`. -/
def simKeywords : List (Pattern Char) :=
  [keyword "predict", keyword "forecast", simulate, keyword "spread", keyword "dispersion",
    keyword "enso", keyword "plume"]

/-! ### Classification -/

/-- The result, with the fields of its metadata. -/
structure QueryClassification where
  tier : ComplexityTier
  matchedDomains : List String
  rationale : String
  needsSimulation : Bool

variable (word : WordChars)

/-- The patterns found in a lower-case text. -/
def finds (patterns : List (Pattern Char)) (text : List Char) : Bool :=
  anyBounded word.isWord patterns text

/-- The domains with a pattern in a lower-case text. -/
def matchedDomains (text : List Char) : List String :=
  (domainPatterns.filter fun domain => finds word domain.2 text).map Prod.fst

/-- `classify_query_complexity`. -/
def classifyQueryComplexity (rt : Runtime) (query : String) : QueryClassification :=
  let queryLower := (rt.lower query).toList
  let isComplex := finds word complexKeywords queryLower
  let isModerate := finds word moderateKeywords queryLower
  let matchedDomains := matchedDomains word queryLower
  let needsSimulation := finds word simKeywords queryLower
  let (tier, rationale) :=
    if isComplex then
      (ComplexityTier.complex,
        "Query requires prediction, causal tracking, or historical forecasting.")
    else if isModerate || 1 < matchedDomains.length then
      (.moderate, "Query spans multiple domain variables or moderate hazards.")
    else (.trivial, "Query is a simple, single-variable factual retrieval request.")
  { tier, matchedDomains, rationale, needsSimulation }

/-- What the supervisor reads of it. -/
def QueryClassification.asClassification (result : QueryClassification) : Classification where
  tier := some (.tier result.tier)
  matchedDomains := some result.matchedDomains
  needsSimulation := some result.needsSimulation

end Classifier

end GaiaOS
