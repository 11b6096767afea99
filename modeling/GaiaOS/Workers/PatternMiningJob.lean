/-
Pattern mining, after `workers/jobs/pattern_mining_job.py`.

A run reads the hazard events of the lookback window, walks over every pair of distinct event
types, every region label and every time window, and saves a new version of each pattern that
passes the thresholds.  It commits once, at the end.  What the session raises is part of the
run: an error in it leaves the table as it was.

Times are microseconds since the epoch, and the arithmetic of rates is exact; `sqrt` is
`math.sqrt`.
-/
import GaiaOS.Db.PatternFindings
import GaiaOS.Schemas.AgentIo
import Mathlib.Tactic.NormNum

namespace GaiaOS

namespace PatternMining

open PatternFindingRepository

/-- What mining takes from Python's library: text, hashing and the formats of a description. -/
structure Library where
  lower : String → String
  title : String → String
  sqrt : ℚ → ℚ
  sha256Hex : String → String
  percent1 : ℚ → String
  fixed2 : ℚ → String
  repr : ℚ → String

/-- The settings a run reads, with their ranges. -/
structure MiningSettings where
  patternLookbackDays : Nat := 90
  patternMinSupport : Nat := 3
  patternMinConfidence : ℚ := 7 / 10
  lookback_pos : 1 ≤ patternLookbackDays := by norm_num
  support_pos : 1 ≤ patternMinSupport := by norm_num
  confidence_nonneg : 0 ≤ patternMinConfidence := by norm_num
  confidence_le_one : patternMinConfidence ≤ 1 := by norm_num

/-- `HazardEvent`, with what mining reads. -/
structure HazardEvent where
  id : Uuid
  eventType : String
  regionLabel : Option String
  eventDate : Int
  deriving DecidableEq

/-- What a session raises: reading the events, saving a finding after some number of others,
committing. -/
structure Session where
  execute : Option PyError := none
  save : Nat → Option PyError := fun _ => none
  commit : Option PyError := none

/-- What a run finds: the settings, the table of events, and the readings of the clocks. -/
structure MiningRun where
  settings : MiningSettings := {}
  hazardEvents : List HazardEvent
  now : Int
  minedAt : Int
  startTime : ℚ := 0
  endTime : ℚ := 0
  session : Session := {}

/-- What a run returns. -/
structure MiningReport where
  eventsScanned : Nat
  candidatePairs : Nat
  acceptedFindings : Nat
  rejectedFindings : Nat
  durationMs : ℚ
  deriving DecidableEq

def microsecondsPerDay : Int := 86400 * 1000000

/-- `datetime.min`, in UTC. -/
def minDatetime : Int := -62135596800 * 1000000

/-- `raise exc`, where there is one. -/
def raiseIf (exc : Option PyError) : Except PyError Unit :=
  match exc with
  | some e => .error e
  | none => .ok ()

variable (lib : Library)

/-- `calculate_wilson_lower_bound`. -/
def calculateWilsonLowerBound (successes trials : Nat) (z : ℚ := 196 / 100) : ℚ :=
  if trials = 0 ∨ successes = 0 then 0
  else
    let pHat : ℚ := min 1 (max 0 (successes / trials))
    let denom := 1 + z ^ 2 / trials
    let center := pHat + z ^ 2 / (2 * trials)
    let radicand := pHat * (1 - pHat) / trials + z ^ 2 / (4 * (trials : ℚ) ^ 2)
    let spread := z * lib.sqrt (max 0 radicand)
    max 0 (min 1 ((center - spread) / denom))

/-- A confidence is a probability, whatever the square root is. -/
theorem calculateWilsonLowerBound_mem (successes trials : Nat) (z : ℚ) :
    0 ≤ calculateWilsonLowerBound lib successes trials z ∧
      calculateWilsonLowerBound lib successes trials z ≤ 1 := by
  unfold calculateWilsonLowerBound
  split
  · exact ⟨le_refl 0, zero_le_one⟩
  · exact ⟨le_max_left _ _, max_le zero_le_one (min_le_left _ _)⟩

/-- `generate_pattern_hash`. -/
def generatePatternHash (sourceEventType targetEventType : String) (regionLabel : Option String)
    (timeWindowDays : Nat) (algorithmVersion : String := "1.0") : String :=
  lib.sha256Hex (algorithmVersion ++ ":" ++ lib.lower (pyStrip sourceEventType) ++ ":" ++
    lib.lower (pyStrip targetEventType) ++ ":" ++ lib.lower (pyStrip (regionLabel.getD "")) ++
    ":" ++ toString timeWindowDays)

/-! ### The events of a run -/

/-- `ev.event_type.strip().lower()`. -/
def HazardEvent.cleanType (event : HazardEvent) : String := lib.lower (pyStrip event.eventType)

/-- `cutoff_date`, unless it lies before the first date there is. -/
def MiningRun.cutoffDate (run : MiningRun) : Except PyError Int :=
  let cutoff := run.now - run.settings.patternLookbackDays * microsecondsPerDay
  if cutoff < minDatetime then .error (.exception "date value out of range") else .ok cutoff

/-- The events within the lookback window. -/
def MiningRun.events (run : MiningRun) : Except PyError (List HazardEvent) := do
  let cutoff ← run.cutoffDate
  raiseIf run.session.execute
  return run.hazardEvents.filter fun event => cutoff ≤ event.eventDate

/-- `event_types`. -/
def eventTypes (events : List HazardEvent) : List String :=
  (events.map (HazardEvent.cleanType lib)).dedup.insertionSort (· ≤ ·)

/-- `regions`; a missing label cannot be compared with a text. -/
def sortedRegions (events : List HazardEvent) : Except PyError (List (Option String)) :=
  let labels := (events.map (·.regionLabel)).dedup
  if none ∈ labels ∧ 1 < labels.length then
    .error (.typeError "'<' not supported between instances of 'NoneType' and 'str'")
  else .ok (labels.insertionSort fun label other => label.getD "" ≤ other.getD "")

def timeWindows : List Nat := [7, 14, 30]

/-- A pass of the innermost loop. -/
structure Candidate where
  sourceType : String
  targetType : String
  region : Option String
  windowDays : Nat
  deriving DecidableEq

/-- The passes, in the order of the nested loops. -/
def candidates (types : List String) (regions : List (Option String)) : List Candidate :=
  types.flatMap fun sourceType =>
    (types.filter fun targetType => sourceType ≠ targetType).flatMap fun targetType =>
      regions.flatMap fun region =>
        timeWindows.map fun windowDays => ⟨sourceType, targetType, region, windowDays⟩

/-- `src_events` and `tgt_events`. -/
def eventsOf (events : List HazardEvent) (eventType : String) (region : Option String) :
    List HazardEvent :=
  events.filter fun event => event.cleanType lib = eventType ∧ event.regionLabel = region

/-- `co_occurrences`: the pairs in which the target follows within the window. -/
def coOccurrences (srcEvents tgtEvents : List HazardEvent) (windowDays : Nat) :
    List (HazardEvent × HazardEvent) :=
  srcEvents.flatMap fun source =>
    (tgtEvents.filter fun target =>
      0 < target.eventDate - source.eventDate ∧
        target.eventDate - source.eventDate ≤ windowDays * microsecondsPerDay).map
      fun target => (source, target)

/-- `sorted(supporting_event_ids_set)`. -/
def supportingEventIds (pairs : List (HazardEvent × HazardEvent)) : List String :=
  (pairs.flatMap fun pair => [pair.1.id.text, pair.2.id.text]).dedup.insertionSort (· ≤ ·)

/-- The description of a pattern. -/
def description (c : Candidate) (observedRate baselineRate lift confidence : ℚ) : String :=
  let regDesc := match c.region with
    | some region => if region = "" then " globally" else " in " ++ region
    | none => " globally"
  "Longitudinal pattern: " ++ lib.title c.sourceType ++ " is followed by " ++
    lib.title c.targetType ++ regDesc ++ " within " ++ toString c.windowDays ++
    " days (Observed: " ++ lib.percent1 observedRate ++ ", Baseline: " ++
    lib.percent1 baselineRate ++ ", Lift: " ++ lib.fixed2 lift ++ "x, Confidence: " ++
    lib.fixed2 confidence ++ ")."

/-! ### A run -/

/-- What a pass finds: the pattern to save, or none where the candidate is rejected. -/
def mineCandidate (settings : MiningSettings) (minedAt : Int) (events : List HazardEvent)
    (c : Candidate) : Except PyError (Option PatternFields) := do
  let srcEvents := eventsOf lib events c.sourceType c.region
  let tgtEvents := eventsOf lib events c.targetType c.region
  if srcEvents.length = 0 ∨ tgtEvents.length = 0 then
    return none
  let pairs := coOccurrences srcEvents tgtEvents c.windowDays
  if pairs.length < settings.patternMinSupport then
    return none
  let observedRate : ℚ := pairs.length / srcEvents.length
  let baselineRate : ℚ := tgtEvents.length / max 1 events.length
  if baselineRate ≤ 0 then
    return none
  let lift := observedRate / baselineRate
  -- a pattern must be more frequent than its target is anyway
  if lift ≤ 1 then
    return none
  let confidence := calculateWilsonLowerBound lib pairs.length srcEvents.length
  if confidence < settings.patternMinConfidence then
    return none
  let source := if 85 / 100 ≤ confidence then .wellSupported else .modelUncertainty
  let uncertainty ← UncertaintyEstimate.fromPointEstimate lib.repr confidence
    UncertaintyEstimate.pointEstimateIntervalMargin source
  return some
    { patternHash := generatePatternHash lib c.sourceType c.targetType c.region c.windowDays
      sourceEventType := c.sourceType
      targetEventType := c.targetType
      regionLabel := c.region
      timeWindowDays := c.windowDays
      supportCount := pairs.length
      totalSourceEvents := srcEvents.length
      totalTargetEvents := tgtEvents.length
      observedRate := pyRound observedRate 4
      baselineRate := pyRound baselineRate 4
      lift := pyRound lift 4
      statisticalConfidence := pyRound confidence 4
      uncertainty := uncertainty
      supportingEventIds := supportingEventIds pairs
      description := description lib c observedRate baselineRate lift confidence
      minedAt := minedAt }

/-- Where a run is: the table as its session sees it, and the counts. -/
structure Progress where
  table : List PatternFinding
  candidatePairs : Nat := 0
  accepted : Nat := 0
  rejected : Nat := 0

/-- One pass of the innermost loop. -/
def Progress.pass (run : MiningRun) (events : List HazardEvent) (progress : Progress)
    (c : Candidate) : Except PyError Progress := do
  match ← mineCandidate lib run.settings run.minedAt events c with
  | none =>
      return { progress with
        candidatePairs := progress.candidatePairs + 1
        rejected := progress.rejected + 1 }
  | some fields =>
      raiseIf (run.session.save progress.accepted)
      return { progress with
        table := (savePatternVersion progress.table fields).2
        candidatePairs := progress.candidatePairs + 1
        accepted := progress.accepted + 1 }

/-- `round(duration_ms, 2)`. -/
def MiningRun.durationMs (run : MiningRun) : ℚ := pyRound ((run.endTime - run.startTime) * 1000) 2

/-- `execute_pattern_mining`: the report and the table as committed. -/
def executePatternMining (run : MiningRun) (table : List PatternFinding) :
    Except PyError (MiningReport × List PatternFinding) := do
  let events ← run.events
  if events.length < 2 then
    return (⟨events.length, 0, 0, 0, run.durationMs⟩, table)
  let regions ← sortedRegions events
  let progress ← (candidates (eventTypes lib events) regions).foldlM
    (Progress.pass lib run events) { table := table }
  raiseIf run.session.commit
  return (⟨events.length, progress.candidatePairs, progress.accepted, progress.rejected,
    run.durationMs⟩, progress.table)

end PatternMining

end GaiaOS
