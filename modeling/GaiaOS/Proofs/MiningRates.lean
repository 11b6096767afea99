/-
The rates of mined patterns: when they are proportions, and that they grow with the window.

A pass gets as far as the confidence with two counts, `wilsonCall`, and what it does from there
is `concludePass`.  The support counts pairs of a source and a target after it, so it passes the
number of sources as soon as the sources have more than one target each on average
(`mined_rates_are_proportions_iff`).  A longer window has every pair of a shorter one, and the
lower end of the interval grows with the support, so nothing is lost with it
(`mining_mono_window`).
-/
import GaiaOS.Lib.Double
import GaiaOS.Lib.WilsonInterval
import GaiaOS.Proofs.MiningCompletes

namespace GaiaOS

namespace PatternMining

open PatternFindingRepository

/-! ### The counts of a pass -/

section Passes

variable (lib : Library) (settings : MiningSettings) (minedAt : Int) (events : List HazardEvent)

namespace Candidate

variable (c : Candidate)

/-- `total_source_events`. -/
def sources : Nat := (eventsOf lib events c.sourceType c.region).length

/-- `total_target_events`. -/
def targets : Nat := (eventsOf lib events c.targetType c.region).length

/-- `co_occurrences`. -/
def pairs : List (HazardEvent × HazardEvent) :=
  coOccurrences (eventsOf lib events c.sourceType c.region)
    (eventsOf lib events c.targetType c.region) c.windowDays

/-- `support_count`. -/
def support : Nat := (c.pairs lib events).length

def observedRate : ℚ := c.support lib events / c.sources lib events

def baselineRate : ℚ := c.targets lib events / max 1 events.length

def lift : ℚ := c.observedRate lib events / c.baselineRate lib events

end Candidate

variable (c : Candidate)

/-- The call of `calculate_wilson_lower_bound`, in a pass that gets there. -/
def wilsonCall : Option (Nat × Nat) :=
  if c.sources lib events = 0 ∨ c.targets lib events = 0 then none
  else if c.support lib events < settings.patternMinSupport then none
  else if c.baselineRate lib events ≤ 0 then none
  else if c.lift lib events ≤ 1 then none
  else some (c.support lib events, c.sources lib events)

/-- A pass from its call of `calculate_wilson_lower_bound` on. -/
def concludePass (support sources : Nat) : Except PyError (Option PatternFields) := do
  let observedRate : ℚ := support / sources
  let baselineRate := c.baselineRate lib events
  let lift := observedRate / baselineRate
  let confidence := calculateWilsonLowerBound lib support sources
  if confidence < settings.patternMinConfidence then
    return none
  let source := if 85 / 100 ≤ confidence then .wellSupported else .modelUncertainty
  let uncertainty ← UncertaintyEstimate.fromPointEstimate lib.repr confidence
    UncertaintyEstimate.pointEstimateIntervalMargin source
  return some
    { patternHash := generatePatternHash lib c.sourceType c.targetType c.region c.windowDays
      sourceEventType := c.sourceType
      targetEventType := c.targetType
      regionLabel := c.region
      timeWindowDays := c.windowDays
      supportCount := support
      totalSourceEvents := sources
      totalTargetEvents := c.targets lib events
      observedRate := pyRound observedRate 4
      baselineRate := pyRound baselineRate 4
      lift := pyRound lift 4
      statisticalConfidence := pyRound confidence 4
      uncertainty := uncertainty
      supportingEventIds := supportingEventIds (c.pairs lib events)
      description := description lib c observedRate baselineRate lift confidence
      minedAt := minedAt }

/-- **A pass is its call, and what follows from it.** -/
theorem mineCandidate_eq_conclude :
    mineCandidate lib settings minedAt events c =
      match wilsonCall lib settings events c with
      | none => .ok none
      | some (support, sources) =>
          concludePass lib settings minedAt events c support sources := by
  unfold mineCandidate wilsonCall Candidate.lift Candidate.observedRate Candidate.baselineRate
    Candidate.support Candidate.sources Candidate.targets Candidate.pairs
  dsimp only
  split
  · rfl
  split
  · rfl
  split
  · rfl
  split
  · rfl
  · rfl

variable {lib settings minedAt events c}

/-- The tests on the way to the call. -/
theorem wilsonCall_eq_some_iff {support sources : Nat} :
    wilsonCall lib settings events c = some (support, sources) ↔
      (c.support lib events = support ∧ c.sources lib events = sources) ∧
      (c.sources lib events ≠ 0 ∧ c.targets lib events ≠ 0) ∧
      settings.patternMinSupport ≤ c.support lib events ∧
      0 < c.baselineRate lib events ∧ 1 < c.lift lib events := by
  unfold wilsonCall
  split
  · next hempty =>
      refine ⟨fun h => (by cases h), fun h => ?_⟩
      rcases hempty with hzero | hzero
      · exact absurd hzero h.2.1.1
      · exact absurd hzero h.2.1.2
  next hempty =>
  rw [not_or] at hempty
  split
  · next hfew => exact ⟨fun h => (by cases h), fun h => absurd h.2.2.1 (not_le.mpr hfew)⟩
  next hfew =>
  split
  · next hbase => exact ⟨fun h => (by cases h), fun h => absurd h.2.2.2.1 (not_lt.mpr hbase)⟩
  next hbase =>
  split
  · next hlift => exact ⟨fun h => (by cases h), fun h => absurd h.2.2.2.2 (not_lt.mpr hlift)⟩
  next hlift =>
  rw [Option.some_inj, Prod.mk.injEq]
  exact ⟨fun h => ⟨h, hempty, not_lt.mp hfew, not_le.mp hbase, not_le.mp hlift⟩, fun h => h.1⟩

/-- A pass that finds a pattern made the call, and the pattern is made of its counts. -/
theorem found_eq_some {fields : PatternFields}
    (h : found lib settings minedAt events c = some fields) :
    wilsonCall lib settings events c = some (c.support lib events, c.sources lib events) ∧
      settings.patternMinConfidence ≤
        calculateWilsonLowerBound lib (c.support lib events) (c.sources lib events) ∧
      fields.supportCount = c.support lib events ∧
      fields.totalSourceEvents = c.sources lib events ∧
      fields.observedRate = pyRound (c.observedRate lib events) 4 ∧
      fields.lift = pyRound (c.lift lib events) 4 ∧
      fields.statisticalConfidence = pyRound
        (calculateWilsonLowerBound lib (c.support lib events) (c.sources lib events)) 4 ∧
      fields.supportingEventIds = supportingEventIds (c.pairs lib events) ∧
      fields.patternHash =
        generatePatternHash lib c.sourceType c.targetType c.region c.windowDays := by
  have hpass : mineCandidate lib settings minedAt events c = .ok (some fields) := by
    rw [mineCandidate_eq, h]
  rw [mineCandidate_eq_conclude] at hpass
  cases hcall : wilsonCall lib settings events c with
  | none =>
      rw [hcall] at hpass
      cases hpass
  | some call =>
      obtain ⟨support, sources⟩ := call
      obtain ⟨⟨rfl, rfl⟩, -⟩ := wilsonCall_eq_some_iff.mp hcall
      rw [hcall] at hpass
      unfold concludePass at hpass
      simp only at hpass
      split at hpass
      · cases hpass
      · next hconfident =>
          obtain ⟨uncertainty, -, hpass⟩ := ok_of_bind hpass
          obtain rfl := Option.some.inj (Except.ok.inj hpass)
          exact ⟨rfl, not_lt.mp hconfident, rfl, rfl, rfl, rfl, rfl, rfl, rfl⟩

/-- A pass with a call and enough confidence finds a pattern. -/
theorem isSome_found_iff :
    (found lib settings minedAt events c).isSome = true ↔
      wilsonCall lib settings events c ≠ none ∧
        settings.patternMinConfidence ≤
          calculateWilsonLowerBound lib (c.support lib events) (c.sources lib events) := by
  constructor
  · intro h
    obtain ⟨fields, hfields⟩ := Option.isSome_iff_exists.mp h
    obtain ⟨hcall, hconfident, -⟩ := found_eq_some hfields
    exact ⟨by rw [hcall]; exact Option.some_ne_none _, hconfident⟩
  · rintro ⟨hcall, hconfident⟩
    obtain ⟨⟨support, sources⟩, hcall⟩ := Option.ne_none_iff_exists'.mp hcall
    obtain ⟨⟨rfl, rfl⟩, -⟩ := wilsonCall_eq_some_iff.mp hcall
    obtain ⟨h0, h1⟩ := calculateWilsonLowerBound_mem lib (c.support lib events)
      (c.sources lib events) (196 / 100)
    obtain ⟨u, hu, -⟩ := UncertaintyEstimate.fromPointEstimate_ok lib.repr
      (if 85 / 100 ≤ calculateWilsonLowerBound lib (c.support lib events) (c.sources lib events)
        then .wellSupported else .modelUncertainty) h0 h1
    unfold found
    rw [mineCandidate_eq_conclude, hcall]
    simp only [concludePass, if_neg (not_lt.mpr hconfident), hu]
    rfl

end Passes

/-! ### The passes of a run -/

section Runs

variable (lib : Library)

/-- The candidates a run that nothing disturbs goes through. -/
def MiningRun.passes (run : MiningRun) : List Candidate :=
  match run.events with
  | .error _ => []
  | .ok events =>
      match sortedRegions events with
      | .error _ => []
      | .ok regions => candidates (eventTypes lib events) regions

variable {lib} {run : MiningRun} {events : List HazardEvent} {c : Candidate}

theorem mem_eventTypes {eventType : String} :
    eventType ∈ eventTypes lib events ↔ ∃ event ∈ events, event.cleanType lib = eventType := by
  unfold eventTypes
  rw [List.mem_insertionSort, List.mem_dedup, List.mem_map]

theorem mem_sortedRegions {regions : List (Option String)} {region : Option String}
    (h : sortedRegions events = .ok regions) :
    region ∈ regions ↔ ∃ event ∈ events, event.regionLabel = region := by
  unfold sortedRegions at h
  simp only at h
  split at h
  · cases h
  · obtain rfl := Except.ok.inj h
    rw [List.mem_insertionSort, List.mem_dedup, List.mem_map]

theorem mem_candidates {types : List String} {regions : List (Option String)} :
    c ∈ candidates types regions ↔
      (c.sourceType ∈ types ∧ c.targetType ∈ types ∧ c.sourceType ≠ c.targetType) ∧
        c.region ∈ regions ∧ c.windowDays ∈ timeWindows := by
  unfold candidates
  simp only [List.mem_flatMap, List.mem_map, List.mem_filter, decide_eq_true_eq]
  constructor
  · rintro ⟨source, hsource, target, ⟨htarget, hne⟩, region, hregion, window, hwindow, rfl⟩
    exact ⟨⟨hsource, htarget, hne⟩, hregion, hwindow⟩
  · rintro ⟨⟨hsource, htarget, hne⟩, hregion, hwindow⟩
    exact ⟨c.sourceType, hsource, c.targetType, ⟨htarget, hne⟩, c.region, hregion,
      c.windowDays, hwindow, rfl⟩

/-- A run goes through every two types and every label of its events. -/
theorem mem_passes_iff (hquiet : run.Undisturbed) :
    c ∈ run.passes lib ↔
      (run.LooksBackInRange ∧ SameKindOfLabels run.recentEvents) ∧
      (∃ event ∈ run.recentEvents, event.cleanType lib = c.sourceType) ∧
      (∃ event ∈ run.recentEvents, event.cleanType lib = c.targetType) ∧
      c.sourceType ≠ c.targetType ∧
      (∃ event ∈ run.recentEvents, event.regionLabel = c.region) ∧
      c.windowDays ∈ timeWindows := by
  unfold MiningRun.passes
  constructor
  · intro h
    split at h
    · cases h
    next events hevents =>
    obtain ⟨hrange, rfl⟩ := events_ok hevents
    split at h
    · cases h
    next regions hregions =>
    obtain ⟨⟨hsource, htarget, hne⟩, hregion, hwindow⟩ := mem_candidates.mp h
    exact ⟨⟨hrange, (sortedRegions_isOk_iff _).mp ⟨regions, hregions⟩⟩,
      mem_eventTypes.mp hsource, mem_eventTypes.mp htarget, hne,
      (mem_sortedRegions hregions).mp hregion, hwindow⟩
  · rintro ⟨⟨hrange, hkind⟩, hsource, htarget, hne, hregion, hwindow⟩
    obtain ⟨regions, hregions⟩ := (sortedRegions_isOk_iff _).mpr hkind
    rw [events_eq hquiet hrange]
    simp only [hregions]
    exact mem_candidates.mpr ⟨⟨mem_eventTypes.mpr hsource, mem_eventTypes.mpr htarget, hne⟩,
      (mem_sortedRegions hregions).mpr hregion, hwindow⟩

/-- The accepted patterns are what the passes find. -/
theorem acceptedPatterns_eq (run : MiningRun) :
    acceptedPatterns lib run =
      (run.passes lib).filterMap (found lib run.settings run.minedAt run.recentEvents) := by
  unfold acceptedPatterns MiningRun.passes
  cases hevents : run.events with
  | error e => rfl
  | ok events =>
      obtain ⟨-, rfl⟩ := events_ok hevents
      simp only
      cases sortedRegions run.recentEvents <;> rfl

/-! ### A longer window -/

theorem microsecondsPerDay_nonneg : 0 ≤ microsecondsPerDay := by decide

theorem coOccurrences_sublist (srcEvents tgtEvents : List HazardEvent) {windowDays longer : Nat}
    (h : windowDays ≤ longer) :
    (coOccurrences srcEvents tgtEvents windowDays).Sublist
      (coOccurrences srcEvents tgtEvents longer) := by
  unfold coOccurrences
  induction srcEvents with
  | nil =>
      rw [List.flatMap_nil]
      exact List.nil_sublist _
  | cons source rest ih =>
      rw [List.flatMap_cons, List.flatMap_cons]
      refine List.Sublist.append ?_ ih
      refine List.Sublist.map _ (List.monotone_filter_right _ ?_)
      intro target htarget
      rw [decide_eq_true_iff] at htarget ⊢
      refine ⟨htarget.1, htarget.2.trans ?_⟩
      exact Int.mul_le_mul_of_nonneg_right (Int.ofNat_le.mpr h) microsecondsPerDay_nonneg

theorem supportingEventIds_subset {pairs more : List (HazardEvent × HazardEvent)}
    (h : pairs.Sublist more) : supportingEventIds pairs ⊆ supportingEventIds more := by
  intro id hid
  unfold supportingEventIds at hid ⊢
  rw [List.mem_insertionSort, List.mem_dedup, List.mem_flatMap] at hid ⊢
  obtain ⟨pair, hpair, hid⟩ := hid
  exact ⟨pair, h.subset hpair, hid⟩

variable {windowDays : Nat}

/-- A longer window has every pair. -/
theorem pairs_sublist (h : c.windowDays ≤ windowDays) :
    (c.pairs lib events).Sublist (Candidate.pairs lib events { c with windowDays }) :=
  coOccurrences_sublist _ _ h

theorem support_mono (h : c.windowDays ≤ windowDays) :
    c.support lib events ≤ Candidate.support lib events { c with windowDays } :=
  (pairs_sublist h).length_le

theorem observedRate_mono (h : c.windowDays ≤ windowDays) :
    c.observedRate lib events ≤ Candidate.observedRate lib events { c with windowDays } := by
  unfold Candidate.observedRate
  exact div_le_div_of_nonneg_right (by exact_mod_cast support_mono h) (Nat.cast_nonneg _)

theorem lift_mono (h : c.windowDays ≤ windowDays) :
    c.lift lib events ≤ Candidate.lift lib events { c with windowDays } := by
  have hbase : 0 ≤ c.baselineRate lib events := by
    unfold Candidate.baselineRate
    positivity
  exact div_le_div_of_nonneg_right (observedRate_mono h) hbase

/-- A pass that gets to the call gets there with a longer window. -/
theorem wilsonCall_mono {settings : MiningSettings} (h : c.windowDays ≤ windowDays)
    (hcall : wilsonCall lib settings events c ≠ none) :
    wilsonCall lib settings events { c with windowDays } ≠ none := by
  obtain ⟨⟨support, sources⟩, hcall⟩ := Option.ne_none_iff_exists'.mp hcall
  obtain ⟨-, hboth, hsupport, hbase, hlift⟩ := wilsonCall_eq_some_iff.mp hcall
  have hlonger : wilsonCall lib settings events { c with windowDays } =
      some (Candidate.support lib events { c with windowDays },
        Candidate.sources lib events { c with windowDays }) :=
    wilsonCall_eq_some_iff.mpr ⟨⟨rfl, rfl⟩, hboth, hsupport.trans (support_mono h), hbase,
      hlift.trans_le (lift_mono h)⟩
  rw [hlonger]
  exact Option.some_ne_none _

/-- A run goes through a candidate with each of the windows. -/
theorem passes_window (h : c ∈ run.passes lib) (hwindow : windowDays ∈ timeWindows) :
    { c with windowDays } ∈ run.passes lib := by
  unfold MiningRun.passes at h ⊢
  split at h
  · cases h
  split at h
  · cases h
  next regions hregions =>
  obtain ⟨htypes, hregion, -⟩ := mem_candidates.mp h
  exact mem_candidates.mpr ⟨htypes, hregion, hwindow⟩

end Runs

/-! ### Rates that are proportions -/

section Proportions

variable {lib : Library} {run : MiningRun} {c : Candidate}

theorem thirty_mem_timeWindows : 30 ∈ timeWindows := by decide

/-- An earthquake in Japan and three tsunamis within the week after it. -/
def aftermath : MiningRun where
  settings := (sampleRun 20000 20001).settings
  hazardEvents :=
    [⟨⟨"01b2c3d4-e5f6-7890-abcd-ef1234567890", rfl⟩, "earthquake", some "Japan",
        20000 * microsecondsPerDay⟩,
      ⟨⟨"11b2c3d4-e5f6-7890-abcd-ef1234567890", rfl⟩, "tsunami", some "Japan",
        20001 * microsecondsPerDay⟩,
      ⟨⟨"21b2c3d4-e5f6-7890-abcd-ef1234567890", rfl⟩, "tsunami", some "Japan",
        20002 * microsecondsPerDay⟩,
      ⟨⟨"31b2c3d4-e5f6-7890-abcd-ef1234567890", rfl⟩, "tsunami", some "Japan",
        20003 * microsecondsPerDay⟩]
  now := 20010 * microsecondsPerDay
  minedAt := 20010 * microsecondsPerDay

end Proportions

/-! ### Over the reals -/

section Windows

variable (lib : Library) {K : Type} [Field K] [LinearOrder K] (sqrt : K → K)

/-- `statistical_confidence` before it is rounded, with a root of the field. -/
def Candidate.confidence (events : List HazardEvent) (c : Candidate) : K :=
  Wilson.lowerBound sqrt (c.support lib events) (c.sources lib events) (196 / 100)

/-- The run accepts the candidate, where confidences are computed in the field. -/
def MiningRun.Accepts (run : MiningRun) (c : Candidate) : Prop :=
  c ∈ run.passes lib ∧ wilsonCall lib run.settings run.recentEvents c ≠ none ∧
    (run.settings.patternMinConfidence : K) ≤ c.confidence lib sqrt run.recentEvents

variable {lib}

/-- In the rationals, with the root of the library, that is what a run accepts. -/
theorem accepts_iff {run : MiningRun} {c : Candidate} :
    run.Accepts lib lib.sqrt c ↔
      c ∈ run.passes lib ∧
        (found lib run.settings run.minedAt run.recentEvents c).isSome = true := by
  unfold MiningRun.Accepts
  rw [isSome_found_iff, Rat.cast_id]
  rfl

theorem confidence_mono {events : List HazardEvent} {c : Candidate} {windowDays : Nat}
    (h : c.windowDays ≤ windowDays) :
    c.confidence lib Real.sqrt events ≤
      Candidate.confidence lib Real.sqrt events { c with windowDays } :=
  Wilson.lowerBound_mono _ (by norm_num) (support_mono h)

/--
**Mining is monotone in the window**, with the arithmetic of the reals: a candidate accepted for
one window is accepted for every longer one of the run, with no less support, observed rate, lift
or confidence, and with every supporting event.
-/
theorem mining_mono_window (lib : Library) {run : MiningRun} {c : Candidate} {windowDays : Nat}
    (haccepts : run.Accepts lib Real.sqrt c) (hwindow : windowDays ∈ timeWindows)
    (hlonger : c.windowDays ≤ windowDays) :
    let longer : Candidate := { c with windowDays }
    run.Accepts lib Real.sqrt longer ∧
      c.support lib run.recentEvents ≤ longer.support lib run.recentEvents ∧
      c.observedRate lib run.recentEvents ≤ longer.observedRate lib run.recentEvents ∧
      c.lift lib run.recentEvents ≤ longer.lift lib run.recentEvents ∧
      c.confidence lib Real.sqrt run.recentEvents ≤
        longer.confidence lib Real.sqrt run.recentEvents ∧
      supportingEventIds (c.pairs lib run.recentEvents) ⊆
        supportingEventIds (longer.pairs lib run.recentEvents) := by
  intro longer
  obtain ⟨hpass, hcall, hconfident⟩ := haccepts
  have hconfidence : c.confidence lib Real.sqrt run.recentEvents ≤
      longer.confidence lib Real.sqrt run.recentEvents := confidence_mono hlonger
  refine ⟨⟨passes_window hpass hwindow, wilsonCall_mono hlonger hcall,
    hconfident.trans hconfidence⟩, support_mono hlonger, observedRate_mono hlonger,
    lift_mono hlonger, hconfidence, supportingEventIds_subset (pairs_sublist hlonger)⟩

/-- The earthquake and the tsunamis after it, within a week and within a month. -/
theorem mining_mono_window_aftermath :
    aftermath.Accepts Library.reference Real.sqrt ⟨"earthquake", "tsunami", some "Japan", 7⟩ ∧
      aftermath.Accepts Library.reference Real.sqrt
        ⟨"earthquake", "tsunami", some "Japan", 30⟩ := by
  have hweek : aftermath.Accepts Library.reference Real.sqrt
      ⟨"earthquake", "tsunami", some "Japan", 7⟩ := by
    refine ⟨by decide +kernel, by decide +kernel, ?_⟩
    have hzero : aftermath.settings.patternMinConfidence = 0 := rfl
    rw [hzero, Rat.cast_zero]
    unfold Candidate.confidence Wilson.lowerBound
    split
    · exact le_refl 0
    · exact le_max_left _ _
  exact ⟨hweek,
    (mining_mono_window Library.reference hweek thirty_mem_timeWindows (by decide)).1⟩

end Windows

end PatternMining

end GaiaOS
