/-
The findings table over a sequence of mining runs.

A run saves a version of each pattern it accepts and commits at the end, so the table is what the
completed runs accepted, in order: under every hash the versions are 1 to the number of patterns
accepted with it, and the last of them is active (`pattern_findings_versioned`).  Nothing takes
the flag from a pattern that a later run does not accept: `pattern_findings_not_retired`.
-/
import GaiaOS.Workers.PatternMiningJob
import Mathlib.Data.List.Dedup

namespace GaiaOS

namespace PatternMining

open PatternFindingRepository

variable (lib : Library)

/-! ### What a run accepts -/

/-- The pattern a pass finds. -/
def found (settings : MiningSettings) (minedAt : Int) (events : List HazardEvent)
    (c : Candidate) : Option PatternFields :=
  (mineCandidate lib settings minedAt events c).toOption.join

/-- The patterns the events of a run support, in the order of the passes. -/
def acceptedPatterns (run : MiningRun) : List PatternFields :=
  match run.events with
  | .error _ => []
  | .ok events =>
      match sortedRegions events with
      | .error _ => []
      | .ok regions =>
          (candidates (eventTypes lib events) regions).filterMap
            (found lib run.settings run.minedAt events)

/-- The table, and what the completed runs accepted. -/
structure Archive where
  findings : List PatternFinding := []
  accepted : List PatternFields := []

/-- A run that raises is rolled back. -/
def Archive.mine (archive : Archive) (run : MiningRun) : Archive :=
  match executePatternMining lib run archive.findings with
  | .error _ => archive
  | .ok (_, findings) => ⟨findings, archive.accepted ++ acceptedPatterns lib run⟩

/-- A pass raises nothing of its own. -/
theorem mineCandidate_eq (settings : MiningSettings) (minedAt : Int) (events : List HazardEvent)
    (c : Candidate) :
    mineCandidate lib settings minedAt events c = .ok (found lib settings minedAt events c) := by
  have hok : ∃ o, mineCandidate lib settings minedAt events c = .ok o := by
    unfold mineCandidate
    simp only
    split
    · exact ⟨_, rfl⟩
    split
    · exact ⟨_, rfl⟩
    split
    · exact ⟨_, rfl⟩
    split
    · exact ⟨_, rfl⟩
    split
    · exact ⟨_, rfl⟩
    · -- the confidence is a probability, so it has an interval around it
      obtain ⟨h0, h1⟩ := calculateWilsonLowerBound_mem lib
        (coOccurrences (eventsOf lib events c.sourceType c.region)
          (eventsOf lib events c.targetType c.region) c.windowDays).length
        (eventsOf lib events c.sourceType c.region).length (196 / 100)
      obtain ⟨u, hu, -⟩ := UncertaintyEstimate.fromPointEstimate_ok lib.repr
        (if 85 / 100 ≤ calculateWilsonLowerBound lib
          (coOccurrences (eventsOf lib events c.sourceType c.region)
            (eventsOf lib events c.targetType c.region) c.windowDays).length
          (eventsOf lib events c.sourceType c.region).length then .wellSupported
          else .modelUncertainty) h0 h1
      rw [hu]
      exact ⟨_, rfl⟩
  obtain ⟨o, ho⟩ := hok
  unfold found
  rw [ho]
  rfl

/-- The events of one type support nothing. -/
theorem candidates_of_length_lt {types : List String} (h : types.length < 2)
    (regions : List (Option String)) : candidates types regions = [] := by
  match types, h with
  | [], _ => rfl
  | [eventType], _ => simp [candidates]

theorem length_eventTypes_le (events : List HazardEvent) :
    (eventTypes lib events).length ≤ events.length := by
  unfold eventTypes
  rw [List.length_insertionSort]
  exact (List.dedup_sublist _).length_le.trans (List.length_map ..).le

/-! ### One run -/

/-- A pass saves what it finds. -/
theorem pass_ok {run : MiningRun} {events : List HazardEvent} {progress progress' : Progress}
    {c : Candidate} (h : progress.pass lib run events c = .ok progress') :
    (found lib run.settings run.minedAt events c = none ∧ progress'.table = progress.table ∧
      progress'.accepted = progress.accepted) ∨
    ∃ fields, found lib run.settings run.minedAt events c = some fields ∧
      progress'.table = (savePatternVersion progress.table fields).2 ∧
      progress'.accepted = progress.accepted + 1 := by
  unfold Progress.pass at h
  obtain ⟨o, hfound, h⟩ := ok_of_bind h
  rw [mineCandidate_eq] at hfound
  obtain rfl := Except.ok.inj hfound
  cases hfound : found lib run.settings run.minedAt events c with
  | none =>
      rw [hfound] at h
      obtain rfl := Except.ok.inj h
      exact .inl ⟨rfl, rfl, rfl⟩
  | some fields =>
      rw [hfound] at h
      obtain ⟨-, -, h⟩ := ok_of_bind h
      obtain rfl := Except.ok.inj h
      exact .inr ⟨fields, rfl, rfl, rfl⟩

/-- The passes of a run save what they find, in order. -/
theorem passes_ok {run : MiningRun} {events : List HazardEvent} {cs : List Candidate} :
    ∀ {progress progress' : Progress} {saved : List PatternFields},
      cs.foldlM (Progress.pass lib run events) progress = .ok progress' →
      versioning.Records saved progress.table →
      versioning.Records (saved ++ cs.filterMap (found lib run.settings run.minedAt events))
          progress'.table ∧
        progress'.accepted = progress.accepted +
          (cs.filterMap (found lib run.settings run.minedAt events)).length := by
  induction cs with
  | nil =>
      intro progress progress' saved h hrecords
      obtain rfl := Except.ok.inj h
      rw [List.filterMap_nil, List.append_nil]
      exact ⟨hrecords, rfl⟩
  | cons c cs ih =>
      intro progress progress' saved h hrecords
      rw [List.foldlM_cons] at h
      obtain ⟨middle, hpass, hrest⟩ := ok_of_bind h
      rcases pass_ok lib hpass with ⟨hfound, htable, hcount⟩ | ⟨fields, hfound, htable, hcount⟩
      · rw [List.filterMap_cons_none hfound, ← hcount]
        exact ih hrest (by rw [htable]; exact hrecords)
      · have hsaved : versioning.Records (saved ++ [fields]) middle.table := by
          rw [htable]
          exact records_savePatternVersion hrecords fields
        obtain ⟨htable', hcount'⟩ := ih hrest hsaved
        rw [List.filterMap_cons_some hfound]
        refine ⟨?_, ?_⟩
        · rw [List.append_assoc] at htable'
          exact htable'
        · rw [hcount', hcount, List.length_cons]
          omega

/-- A completed run adds what it accepts to what was accepted before. -/
theorem executePatternMining_ok {run : MiningRun} {table findings : List PatternFinding}
    {report : MiningReport} {saved : List PatternFields}
    (h : executePatternMining lib run table = .ok (report, findings))
    (hrecords : versioning.Records saved table) :
    versioning.Records (saved ++ acceptedPatterns lib run) findings ∧
      report.acceptedFindings = (acceptedPatterns lib run).length := by
  unfold executePatternMining at h
  obtain ⟨events, hevents, h⟩ := ok_of_bind h
  by_cases hfew : events.length < 2
  · -- too few events for two types
    rw [if_pos hfew] at h
    obtain ⟨rfl, rfl⟩ := Prod.mk.inj (Except.ok.inj h)
    have hnone : acceptedPatterns lib run = [] := by
      have htypes : (eventTypes lib events).length < 2 :=
        (length_eventTypes_le lib events).trans_lt hfew
      unfold acceptedPatterns
      rw [hevents]
      simp only
      split
      · rfl
      · rw [candidates_of_length_lt htypes, List.filterMap_nil]
    rw [hnone, List.append_nil]
    exact ⟨hrecords, rfl⟩
  · rw [if_neg hfew] at h
    obtain ⟨regions, hregions, h⟩ := ok_of_bind h
    obtain ⟨progress, hpasses, h⟩ := ok_of_bind h
    obtain ⟨-, -, h⟩ := ok_of_bind h
    obtain ⟨rfl, rfl⟩ := Prod.mk.inj (Except.ok.inj h)
    have haccepted : acceptedPatterns lib run =
        (candidates (eventTypes lib events) regions).filterMap
          (found lib run.settings run.minedAt events) := by
      unfold acceptedPatterns
      rw [hevents]
      simp only [hregions]
    obtain ⟨htable, hcount⟩ := passes_ok lib hpasses hrecords
    rw [haccepted]
    exact ⟨htable, by rw [hcount, Nat.zero_add]⟩

/-! ### Sequences of runs -/

theorem records_mine {archive : Archive} (h : versioning.Records archive.accepted archive.findings)
    (run : MiningRun) :
    versioning.Records (archive.mine lib run).accepted (archive.mine lib run).findings := by
  unfold Archive.mine
  split
  · exact h
  · next hrun => exact (executePatternMining_ok lib hrun h).1

/-- The table holds what the completed runs accepted. -/
theorem records_runs {archive : Archive} (runs : List MiningRun)
    (h : versioning.Records archive.accepted archive.findings) :
    versioning.Records (runs.foldl (Archive.mine lib) archive).accepted
      (runs.foldl (Archive.mine lib) archive).findings := by
  induction runs generalizing archive with
  | nil => exact h
  | cons run runs ih => exact ih (records_mine lib h run)

/-- The last of some entries after others is among the last ones, if there are any. -/
theorem getLast?_entriesOf_append {earlier later : List PatternFields} {fields : PatternFields}
    (h : fields ∈ later) :
    (versioning.entriesOf (earlier ++ later) fields.patternHash).getLast? =
      (versioning.entriesOf later fields.patternHash).getLast? := by
  have hne : versioning.entriesOf later fields.patternHash ≠ [] :=
    List.ne_nil_of_mem (List.mem_filter.mpr ⟨h, decide_eq_true rfl⟩)
  unfold Versioning.entriesOf at hne ⊢
  rw [List.filter_append, List.getLast?_append_of_ne_nil _ hne]

/--
**What the findings table holds after any sequence of mining runs.**  The versions of a hash are
1 to the number of patterns the completed runs accepted with it, without gap or repeat, and the
highest is the one that is active.  The active findings are, for each hash, the last pattern
accepted with it, in whichever run that was.  After a completed run that is a pattern of this run
for every hash the run accepted.
-/
theorem pattern_findings_versioned (runs : List MiningRun) :
    let archive := runs.foldl (Archive.mine lib) {}
    (∀ patternHash,
      let count := (archive.accepted.filter fun fields => fields.patternHash = patternHash).length
      let rows := archive.findings.filter fun row => row.patternHash = patternHash
      rows.map (·.version) = List.range' 1 count ∧
        ∀ row ∈ rows, row.isActive = true ↔ row.version = count) ∧
    (∀ fields,
      (∃ row ∈ archive.findings, row.isActive = true ∧ row.toPatternFields = fields) ↔
        (archive.accepted.filter fun other => other.patternHash = fields.patternHash).getLast? =
          some fields) ∧
    ∀ run report findings,
      executePatternMining lib run archive.findings = .ok (report, findings) →
      report.acceptedFindings = (acceptedPatterns lib run).length ∧
      (archive.mine lib run).accepted = archive.accepted ++ acceptedPatterns lib run ∧
      ∀ fields ∈ acceptedPatterns lib run, ∃ row ∈ findings,
        row.isActive = true ∧ row.patternHash = fields.patternHash ∧
        ((acceptedPatterns lib run).filter
          fun other => other.patternHash = fields.patternHash).getLast? =
            some row.toPatternFields := by
  intro archive
  have hrecords : versioning.Records archive.accepted archive.findings :=
    records_runs lib runs Versioning.records_nil
  refine ⟨?_, ?_, ?_⟩
  · intro patternHash
    exact (hrecords patternHash).2
  · exact hrecords.active_iff
  · intro run report findings hrun
    obtain ⟨hafter, hcount⟩ := executePatternMining_ok lib hrun hrecords
    have hmine : archive.mine lib run =
        ⟨findings, archive.accepted ++ acceptedPatterns lib run⟩ := by
      unfold Archive.mine
      rw [hrun]
    refine ⟨hcount, by rw [hmine], ?_⟩
    intro fields hfields
    -- the last pattern of this run with the hash is the last one of all
    obtain ⟨newest, hnewest⟩ : ∃ newest,
        (versioning.entriesOf (acceptedPatterns lib run) fields.patternHash).getLast? =
          some newest := by
      rw [← Option.isSome_iff_exists, List.getLast?_isSome]
      exact List.ne_nil_of_mem (List.mem_filter.mpr ⟨hfields, decide_eq_true rfl⟩)
    have hhash : newest.patternHash = fields.patternHash :=
      of_decide_eq_true (List.mem_filter.mp (List.mem_of_getLast? hnewest)).2
    have hlast : (versioning.entriesOf (archive.accepted ++ acceptedPatterns lib run)
        newest.patternHash).getLast? = some newest := by
      rw [hhash, getLast?_entriesOf_append hfields]
      exact hnewest
    obtain ⟨row, hrow, hactive, rfl⟩ := (hafter.active_iff newest).mpr hlast
    exact ⟨row, hrow, hactive, hhash, hnewest⟩

/-! ### A pattern the data no longer supports -/

/-- A library for evaluation: ASCII text, roots of squares, and a hash that is the text itself. -/
def Library.reference : Library where
  lower := String.toLower
  title text := text
  sqrt x := (Nat.sqrt x.num.toNat : ℚ) / Nat.sqrt x.den
  sha256Hex text := text
  percent1 x := toString x.num ++ "/" ++ toString x.den
  fixed2 x := toString x.num ++ "/" ++ toString x.den
  repr x := toString x.num ++ "/" ++ toString x.den

/-- Two events in Japan, on the given days. -/
def sampleRun (earthquakeDay tsunamiDay : Int) : MiningRun where
  settings := { patternMinSupport := 1, patternMinConfidence := 0 }
  hazardEvents :=
    [⟨⟨"c1b2c3d4-e5f6-7890-abcd-ef1234567890", rfl⟩, "earthquake", some "Japan",
        earthquakeDay * microsecondsPerDay⟩,
      ⟨⟨"d1b2c3d4-e5f6-7890-abcd-ef1234567890", rfl⟩, "tsunami", some "Japan",
        tsunamiDay * microsecondsPerDay⟩]
  now := 20010 * microsecondsPerDay
  minedAt := 20010 * microsecondsPerDay

/-- The second run finds the tsunami before the earthquake.  It completes, and the pattern of the
first run, which it does not accept, is still active. -/
theorem pattern_findings_not_retired :
    let before := Archive.mine Library.reference {} (sampleRun 20000 20001)
    (executePatternMining Library.reference (sampleRun 20001 20000) before.findings).isOk = true ∧
      ∃ row ∈ (before.mine Library.reference (sampleRun 20001 20000)).findings,
        row.isActive = true ∧
          ∀ fields ∈ acceptedPatterns Library.reference (sampleRun 20001 20000),
            fields.patternHash ≠ row.patternHash := by
  decide +kernel

end PatternMining

end GaiaOS
