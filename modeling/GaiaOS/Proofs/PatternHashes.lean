/-
When the candidates of a run have hashes of their own.

The hash is taken of the version, both types, the label and the window, joined by colons.  The
window is what stands after the last colon, and the version is fixed, so two candidates share a
hash exactly if the rest reads the same.  Types are normalised where the events are grouped and
again in the hash, labels in the hash alone: labels that differ in case or in outer white space
are two candidates with one hash.  A colon inside a type can move the border between the parts.

What a run saved under one hash is deactivated as soon as it saves another pattern under it.
-/
import GaiaOS.Lib.Text
import GaiaOS.Proofs.MiningRates

namespace GaiaOS

namespace PatternMining

open PatternFindingRepository

variable (lib : Library)

/-- `text.strip().lower()`. -/
def normal (text : String) : String := lib.lower (pyStrip text)

/-- What the hash reads, between the version and the window. -/
def keyText (sourceType targetType : String) (region : Option String) : String :=
  sourceType ++ ":" ++ targetType ++ ":" ++ normal lib (region.getD "")

/-- The hash of a candidate. -/
def Candidate.patternHash (c : Candidate) : String :=
  generatePatternHash lib c.sourceType c.targetType c.region c.windowDays

/-- Different candidates have different hashes. -/
def MiningRun.HashesApart (run : MiningRun) : Prop :=
  ∀ c ∈ run.passes lib, ∀ c' ∈ run.passes lib, c ≠ c' → c.patternHash lib ≠ c'.patternHash lib

/-- The fields are those of an active finding. -/
def ActiveIn (table : List PatternFinding) (fields : PatternFields) : Prop :=
  ∃ row ∈ table, row.isActive = true ∧ row.toPatternFields = fields

/-- After the run, whatever it accepted is active. -/
def MiningRun.KeepsFindings (run : MiningRun) : Prop :=
  ∀ table report findings, executePatternMining lib run table = .ok (report, findings) →
    ∀ fields ∈ acceptedPatterns lib run, ActiveIn findings fields

/-- The types of the events a run reads. -/
def MiningRun.HasType (run : MiningRun) (eventType : String) : Prop :=
  ∃ event ∈ run.recentEvents, event.cleanType lib = eventType

/-- The labels of the events a run reads. -/
def MiningRun.HasLabel (run : MiningRun) (region : Option String) : Prop :=
  ∃ event ∈ run.recentEvents, event.regionLabel = region

/-- No two labels have one normal form, and no two pairs of types read the same next to labels. -/
structure MiningRun.Unambiguous (run : MiningRun) : Prop where
  labels : ∀ s t, run.HasType lib s → run.HasType lib t → s ≠ t →
    ∀ r r', run.HasLabel r → run.HasLabel r' →
      normal lib (r.getD "") = normal lib (r'.getD "") → r = r'
  types : ∀ s t s' t', run.HasType lib s → run.HasType lib t → s ≠ t →
    run.HasType lib s' → run.HasType lib t' → s' ≠ t' →
    ∀ r r', run.HasLabel r → run.HasLabel r' →
      keyText lib s t r = keyText lib s' t' r' → s = s' ∧ t = t'

/-! ### Reading the hash -/

theorem patternHash_eq (c : Candidate) :
    c.patternHash lib = lib.sha256Hex ("1.0:" ++
      (keyText lib (normal lib c.sourceType) (normal lib c.targetType) c.region ++
        (":" ++ toString c.windowDays))) := by
  unfold Candidate.patternHash generatePatternHash keyText normal
  congr 1
  simp only [String.append_assoc]
  rfl

theorem colon_not_mem_toString (n : Nat) : ':' ∉ (toString n).toList := by
  intro h
  have hdigit := Nat.isDigit_of_mem_toDigits (by decide) (by decide)
    (by simpa [toString, Nat.repr] using h : ':' ∈ Nat.toDigits 10 n)
  cases hdigit

theorem toString_nat_inj {m n : Nat} (h : toString m = toString n) : m = n := by
  refine toDigits_inj ?_
  simpa [toString, Nat.repr] using congrArg String.toList h

variable {lib} {run : MiningRun} {c c' : Candidate}

/-- Candidates share a hash exactly if their windows are equal and their types and labels read
the same. -/
theorem patternHash_eq_iff (hsha : Function.Injective lib.sha256Hex) :
    c.patternHash lib = c'.patternHash lib ↔
      keyText lib (normal lib c.sourceType) (normal lib c.targetType) c.region =
        keyText lib (normal lib c'.sourceType) (normal lib c'.targetType) c'.region ∧
      c.windowDays = c'.windowDays := by
  rw [patternHash_eq, patternHash_eq]
  constructor
  · intro h
    have hlist := congrArg String.toList (hsha h)
    simp only [String.toList_append] at hlist
    have hrest := List.append_cancel_left hlist
    have hcolon : (":" : String).toList = [':'] := rfl
    rw [hcolon, List.singleton_append, List.singleton_append] at hrest
    obtain ⟨hkey, hwindow⟩ := eq_of_append_last_separator (colon_not_mem_toString _)
      (colon_not_mem_toString _) hrest
    exact ⟨String.toList_inj.mp hkey, toString_nat_inj (String.toList_inj.mp hwindow)⟩
  · rintro ⟨hkey, hwindow⟩
    rw [hkey, hwindow]

/-- The types of one key next to the same types of another leave the labels. -/
theorem normal_eq_of_keyText {s t : String} {r r' : Option String}
    (h : keyText lib s t r = keyText lib s t r') :
    normal lib (r.getD "") = normal lib (r'.getD "") := by
  have hlist := congrArg String.toList h
  unfold keyText at hlist
  simp only [String.toList_append] at hlist
  exact String.toList_inj.mp (List.append_cancel_left hlist)

/-- Types without a colon can be read off a key. -/
theorem types_eq_of_keyText {s t s' t' : String} {r r' : Option String}
    (hs : ':' ∉ s.toList) (hs' : ':' ∉ s'.toList) (ht : ':' ∉ t.toList) (ht' : ':' ∉ t'.toList)
    (h : keyText lib s t r = keyText lib s' t' r') : s = s' ∧ t = t' := by
  have hcolon : (":" : String) = String.singleton ':' := rfl
  unfold keyText at h
  rw [hcolon] at h
  simp only [String.append_assoc] at h
  obtain ⟨hsource, hrest⟩ := text_eq_of_append_separator hs hs' h
  exact ⟨hsource, (text_eq_of_append_separator ht ht' hrest).1⟩

/-- Where no type has a colon in it, the types of a run can be told apart. -/
theorem types_of_no_colon (h : ∀ eventType, run.HasType lib eventType → ':' ∉ eventType.toList)
    {s t s' t' : String} (hs : run.HasType lib s) (ht : run.HasType lib t)
    (hs' : run.HasType lib s') (ht' : run.HasType lib t') {r r' : Option String}
    (hkey : keyText lib s t r = keyText lib s' t' r') : s = s' ∧ t = t' :=
  types_eq_of_keyText (h s hs) (h s' hs') (h t ht) (h t' ht') hkey

/-! ### The candidates of a run -/

theorem nodup_eventTypes (events : List HazardEvent) : (eventTypes lib events).Nodup :=
  (List.perm_insertionSort _ _).nodup_iff.mpr (List.nodup_dedup _)

theorem nodup_sortedRegions {events : List HazardEvent} {regions : List (Option String)}
    (h : sortedRegions events = .ok regions) : regions.Nodup := by
  unfold sortedRegions at h
  simp only at h
  split at h
  · cases h
  · obtain rfl := Except.ok.inj h
    exact (List.perm_insertionSort _ _).nodup_iff.mpr (List.nodup_dedup _)

/-- The nested loops meet no candidate twice. -/
theorem nodup_candidates {types : List String} {regions : List (Option String)}
    (htypes : types.Nodup) (hregions : regions.Nodup) : (candidates types regions).Nodup := by
  unfold candidates
  refine List.nodup_flatMap.mpr ⟨?_, ?_⟩
  · intro source _
    refine List.nodup_flatMap.mpr ⟨?_, ?_⟩
    · intro target _
      refine List.nodup_flatMap.mpr ⟨?_, ?_⟩
      · intro region _
        exact List.Nodup.map (fun _ _ h => (Candidate.mk.inj h).2.2.2) (by decide)
      · refine hregions.imp fun {region other} hne => ?_
        intro c hc hc'
        obtain ⟨_, _, rfl⟩ := List.mem_map.mp hc
        obtain ⟨_, _, hsame⟩ := List.mem_map.mp hc'
        exact hne (Candidate.mk.inj hsame).2.2.1.symm
    · refine (htypes.filter _).imp fun {target other} hne => ?_
      intro c hc hc'
      simp only [List.mem_flatMap, List.mem_map] at hc hc'
      obtain ⟨_, _, _, _, rfl⟩ := hc
      obtain ⟨_, _, _, _, hsame⟩ := hc'
      exact hne (Candidate.mk.inj hsame).2.1.symm
  · refine htypes.imp fun {source other} hne => ?_
    intro c hc hc'
    simp only [List.mem_flatMap, List.mem_map] at hc hc'
    obtain ⟨_, _, _, _, _, _, rfl⟩ := hc
    obtain ⟨_, _, _, _, _, _, hsame⟩ := hc'
    exact hne (Candidate.mk.inj hsame).1.symm

theorem nodup_passes (run : MiningRun) : (run.passes lib).Nodup := by
  unfold MiningRun.passes
  split
  · exact List.nodup_nil
  split
  · exact List.nodup_nil
  · next hregions => exact nodup_candidates (nodup_eventTypes _) (nodup_sortedRegions hregions)

/-! ### What a run keeps -/

theorem activeIn_saved (table : List PatternFinding) (fields : PatternFields) :
    ActiveIn (savePatternVersion table fields).2 fields :=
  ⟨_, List.mem_append_right _ (List.mem_singleton.mpr rfl), rfl, rfl⟩

/-- Saving deactivates nothing under another hash. -/
theorem ActiveIn.save {table : List PatternFinding} {fields other : PatternFields}
    (h : ActiveIn table fields) (hne : fields.patternHash ≠ other.patternHash) :
    ActiveIn (savePatternVersion table other).2 fields := by
  obtain ⟨row, hrow, hactive, rfl⟩ := h
  have hkept : deactivate other.patternHash row = row := by
    unfold deactivate
    exact if_neg fun hsame => hne hsame.1
  refine ⟨row, List.mem_append_left _ (List.mem_map.mpr ⟨row, hrow, hkept⟩), hactive, rfl⟩

/-- The passes over candidates with hashes of their own keep what they saved. -/
theorem passes_keep {events : List HazardEvent} {cs : List Candidate} :
    ∀ (saved : List PatternFields) {progress progress' : Progress},
      cs.foldlM (Progress.pass lib run events) progress = .ok progress' →
      (cs.map (Candidate.patternHash lib)).Nodup →
      (∀ fields ∈ saved, ActiveIn progress.table fields ∧
        ∀ c ∈ cs, fields.patternHash ≠ c.patternHash lib) →
      ∀ fields ∈ saved ++ cs.filterMap (found lib run.settings run.minedAt events),
        ActiveIn progress'.table fields := by
  induction cs with
  | nil =>
      intro saved progress progress' h _ hsaved fields hfields
      obtain rfl := Except.ok.inj h
      rw [List.filterMap_nil, List.append_nil] at hfields
      exact (hsaved fields hfields).1
  | cons c cs ih =>
      intro saved progress progress' h hnodup hsaved
      rw [List.foldlM_cons] at h
      obtain ⟨middle, hpass, hrest⟩ := ok_of_bind h
      rw [List.map_cons, List.nodup_cons] at hnodup
      obtain ⟨hfresh, hnodup⟩ := hnodup
      rcases pass_ok lib hpass with ⟨hfound, htable, -⟩ | ⟨new, hfound, htable, -⟩
      · rw [List.filterMap_cons_none hfound]
        refine ih _ hrest hnodup fun fields hfields => ?_
        obtain ⟨hactive, hother⟩ := hsaved fields hfields
        rw [htable]
        exact ⟨hactive, fun d hd => hother d (List.mem_cons_of_mem _ hd)⟩
      · obtain ⟨-, -, -, -, -, -, -, -, hhash⟩ := found_eq_some hfound
        rw [List.filterMap_cons_some hfound, List.append_cons]
        refine ih _ hrest hnodup fun fields hfields => ?_
        rw [htable]
        rcases List.mem_append.mp hfields with hfields | hfields
        · obtain ⟨hactive, hother⟩ := hsaved fields hfields
          refine ⟨hactive.save ?_, fun d hd => hother d (List.mem_cons_of_mem _ hd)⟩
          rw [hhash]
          exact hother c List.mem_cons_self
        · obtain rfl := List.mem_singleton.mp hfields
          refine ⟨activeIn_saved _ _, fun d hd hsame => hfresh ?_⟩
          rw [hhash] at hsame
          exact List.mem_map.mpr ⟨d, hd, hsame.symm⟩

/-- **A run whose candidates have hashes of their own keeps every finding it makes.** -/
theorem keepsFindings_of_hashesApart (h : run.HashesApart lib) : run.KeepsFindings lib := by
  intro table report findings hrun fields hfields
  have hnodup : ((run.passes lib).map (Candidate.patternHash lib)).Nodup :=
    List.Nodup.map_on (fun c hc c' hc' hsame => by_contra fun hne => h c hc c' hc' hne hsame)
      (nodup_passes run)
  rw [acceptedPatterns_eq] at hfields
  unfold executePatternMining at hrun
  obtain ⟨events, hevents, hrun⟩ := ok_of_bind hrun
  obtain ⟨-, rfl⟩ := events_ok hevents
  by_cases hfew : run.recentEvents.length < 2
  · -- too few events for two types
    exfalso
    have hnone : run.passes lib = [] := by
      unfold MiningRun.passes
      rw [hevents]
      simp only
      split
      · rfl
      · exact candidates_of_length_lt ((length_eventTypes_le lib _).trans_lt hfew) _
    rw [hnone, List.filterMap_nil] at hfields
    cases hfields
  · rw [if_neg hfew] at hrun
    obtain ⟨regions, hregions, hrun⟩ := ok_of_bind hrun
    obtain ⟨progress, hpasses, hrun⟩ := ok_of_bind hrun
    obtain ⟨-, -, hrun⟩ := ok_of_bind hrun
    obtain ⟨-, rfl⟩ := Prod.mk.inj (Except.ok.inj hrun)
    have hall : run.passes lib = candidates (eventTypes lib run.recentEvents) regions := by
      unfold MiningRun.passes
      rw [hevents]
      simp only [hregions]
    rw [hall] at hnodup hfields
    exact passes_keep [] hpasses hnodup (fun _ hnone => by cases hnone) fields
      (by rw [List.nil_append]; exact hfields)

/-! ### When hashes are apart -/

/-- Normalising a type of a run again leaves it as it is. -/
theorem normal_of_hasType (hnormal : ∀ text, normal lib (normal lib text) = normal lib text)
    {eventType : String} (h : run.HasType lib eventType) :
    normal lib eventType = eventType := by
  obtain ⟨event, -, rfl⟩ := h
  exact hnormal event.eventType

/-- Candidates with hashes of their own, in a run that gets to its passes. -/
theorem unambiguous_of_hashesApart (hquiet : run.Undisturbed)
    (hsha : Function.Injective lib.sha256Hex)
    (hnormal : ∀ text, normal lib (normal lib text) = normal lib text)
    (hrange : run.LooksBackInRange) (hkind : SameKindOfLabels run.recentEvents)
    (hapart : run.HashesApart lib) : run.Unambiguous lib := by
  -- a week's candidates for two types and a label
  have hpass : ∀ s t r, run.HasType lib s → run.HasType lib t → s ≠ t → run.HasLabel r →
      (⟨s, t, r, 7⟩ : Candidate) ∈ run.passes lib := fun s t r hs ht hne hr =>
    (mem_passes_iff hquiet).mpr ⟨⟨hrange, hkind⟩, hs, ht, hne, hr, by simp [timeWindows]⟩
  have hsame : ∀ s t s' t' r r', run.HasType lib s → run.HasType lib t → s ≠ t →
      run.HasType lib s' → run.HasType lib t' → s' ≠ t' → run.HasLabel r → run.HasLabel r' →
      keyText lib s t r = keyText lib s' t' r' →
      (⟨s, t, r, 7⟩ : Candidate) = ⟨s', t', r', 7⟩ := by
    intro s t s' t' r r' hs ht hne hs' ht' hne' hr hr' hkey
    by_contra hdiffer
    refine hapart _ (hpass s t r hs ht hne hr) _ (hpass s' t' r' hs' ht' hne' hr') hdiffer ?_
    refine (patternHash_eq_iff hsha).mpr ⟨?_, rfl⟩
    show keyText lib (normal lib s) (normal lib t) r =
      keyText lib (normal lib s') (normal lib t') r'
    rw [normal_of_hasType hnormal hs, normal_of_hasType hnormal ht,
      normal_of_hasType hnormal hs', normal_of_hasType hnormal ht']
    exact hkey
  constructor
  · intro s t hs ht hne r r' hr hr' hlabel
    have hkey : keyText lib s t r = keyText lib s t r' := by
      unfold keyText
      rw [hlabel]
    exact (Candidate.mk.inj (hsame s t s t r r' hs ht hne hs ht hne hr hr' hkey)).2.2.1
  · intro s t s' t' hs ht hne hs' ht' hne' r r' hr hr' hkey
    obtain ⟨h1, h2, -⟩ :=
      Candidate.mk.inj (hsame s t s' t' r r' hs ht hne hs' ht' hne' hr hr' hkey)
    exact ⟨h1, h2⟩

/-- Two candidates of a run with one hash agree part by part, first in the types and then, the
types being the same, in the label. -/
theorem hashesApart_of_unambiguous (hquiet : run.Undisturbed)
    (hsha : Function.Injective lib.sha256Hex)
    (hnormal : ∀ text, normal lib (normal lib text) = normal lib text)
    (hunambiguous : run.LooksBackInRange → SameKindOfLabels run.recentEvents →
      run.Unambiguous lib) : run.HashesApart lib := by
  intro c hc c' hc' hne hhash
  obtain ⟨⟨hrange, hkind⟩, hs, ht, hst, hr, -⟩ := (mem_passes_iff hquiet).mp hc
  obtain ⟨-, hs', ht', hst', hr', -⟩ := (mem_passes_iff hquiet).mp hc'
  have hclear := hunambiguous hrange hkind
  obtain ⟨hkey, hwindow⟩ := (patternHash_eq_iff hsha).mp hhash
  rw [normal_of_hasType hnormal hs, normal_of_hasType hnormal ht,
    normal_of_hasType hnormal hs', normal_of_hasType hnormal ht'] at hkey
  obtain ⟨hsource, htarget⟩ := hclear.types _ _ _ _ hs ht hst hs' ht' hst' _ _ hr hr' hkey
  rw [← hsource, ← htarget] at hkey
  have hregion := hclear.labels _ _ hs ht hst _ _ hr hr' (normal_eq_of_keyText hkey)
  apply hne
  cases c
  cases c'
  simp only [Candidate.mk.injEq]
  exact ⟨hsource, htarget, hregion, hwindow⟩

/--
**When the candidates of a run keep identities of their own.**  With a hash that has no
collisions, different candidates have different hashes and every finding of the run is active
after it, exactly if the run raises before its passes or its labels and types are unambiguous.
-/
theorem pattern_hashes_apart_iff (lib : Library) (run : MiningRun) (hquiet : run.Undisturbed)
    (hsha : Function.Injective lib.sha256Hex)
    (hnormal : ∀ text, normal lib (normal lib text) = normal lib text) :
    (run.HashesApart lib ∧ run.KeepsFindings lib) ↔
      (run.LooksBackInRange → SameKindOfLabels run.recentEvents → run.Unambiguous lib) := by
  constructor
  · rintro ⟨hapart, -⟩ hrange hkind
    exact unambiguous_of_hashesApart hquiet hsha hnormal hrange hkind hapart
  · intro hunambiguous
    have hapart : run.HashesApart lib :=
      hashesApart_of_unambiguous hquiet hsha hnormal hunambiguous
    exact ⟨hapart, keepsFindings_of_hashesApart hapart⟩

/-- Of two patterns that were saved under one hash, one is not active. -/
theorem exists_not_activeIn {saved : List PatternFields} {table : List PatternFinding}
    (hrecords : versioning.Records saved table) {fields fields' : PatternFields}
    (hfields : fields ∈ saved) (hfields' : fields' ∈ saved)
    (hhash : fields.patternHash = fields'.patternHash) (hne : fields ≠ fields') :
    ∃ lost ∈ saved, ¬ ActiveIn table lost := by
  by_contra! hkept
  have hlast := (hrecords.active_iff fields).mp (hkept fields hfields)
  have hlast' := (hrecords.active_iff fields').mp (hkept fields' hfields')
  have hkey : versioning.key fields = versioning.key fields' := hhash
  rw [hkey, hlast'] at hlast
  exact hne (Option.some.inj hlast).symm

/-- **A run that finds two patterns under one hash loses one of them.** -/
theorem exists_lost (hok : (executePatternMining lib run []).isOk = true)
    (hc : c ∈ run.passes lib) (hc' : c' ∈ run.passes lib)
    (hhash : c.patternHash lib = c'.patternHash lib) {fields fields' : PatternFields}
    (hfound : found lib run.settings run.minedAt run.recentEvents c = some fields)
    (hfound' : found lib run.settings run.minedAt run.recentEvents c' = some fields')
    (hne : fields ≠ fields') :
    ∃ lost ∈ acceptedPatterns lib run, ∀ row ∈ (Archive.mine lib {} run).findings,
      row.isActive = true → row.toPatternFields ≠ lost := by
  obtain ⟨-, -, -, -, -, -, -, -, hkey⟩ := found_eq_some hfound
  obtain ⟨-, -, -, -, -, -, -, -, hkey'⟩ := found_eq_some hfound'
  have hmem : ∀ d ∈ run.passes lib, ∀ found', found lib run.settings run.minedAt
      run.recentEvents d = some found' → found' ∈ acceptedPatterns lib run := by
    intro d hd found' hfound'
    rw [acceptedPatterns_eq]
    exact List.mem_filterMap.mpr ⟨d, hd, hfound'⟩
  have hrecords : versioning.Records (acceptedPatterns lib run)
      (Archive.mine lib {} run).findings := by
    unfold Archive.mine
    cases hrun : executePatternMining lib run [] with
    | error e =>
        rw [hrun] at hok
        cases hok
    | ok result => exact (executePatternMining_ok lib hrun Versioning.records_nil).1
  obtain ⟨lost, hlost, hinactive⟩ := exists_not_activeIn hrecords (hmem c hc fields hfound)
    (hmem c' hc' fields' hfound') (hkey.trans (hhash.trans hkey'.symm)) hne
  exact ⟨lost, hlost, fun row hrow hactive hsame => hinactive ⟨row, hrow, hactive, hsame⟩⟩

/-- An earthquake and a tsunami in Japan, and the same in `japan `. -/
def spelledTwice : MiningRun where
  settings := (sampleRun 20000 20001).settings
  hazardEvents :=
    [⟨⟨"41b2c3d4-e5f6-7890-abcd-ef1234567890", rfl⟩, "earthquake", some "Japan",
        20000 * microsecondsPerDay⟩,
      ⟨⟨"51b2c3d4-e5f6-7890-abcd-ef1234567890", rfl⟩, "tsunami", some "Japan",
        20001 * microsecondsPerDay⟩,
      ⟨⟨"61b2c3d4-e5f6-7890-abcd-ef1234567890", rfl⟩, "earthquake", some "japan ",
        20002 * microsecondsPerDay⟩,
      ⟨⟨"71b2c3d4-e5f6-7890-abcd-ef1234567890", rfl⟩, "tsunami", some "japan ",
        20003 * microsecondsPerDay⟩]
  now := 20010 * microsecondsPerDay
  minedAt := 20010 * microsecondsPerDay

/-- Two candidates of the run have one hash, and what it finds for Japan is not active after it. -/
theorem pattern_hash_shared :
    (∃ c ∈ spelledTwice.passes Library.reference, ∃ c' ∈ spelledTwice.passes Library.reference,
      c ≠ c' ∧ c.patternHash Library.reference = c'.patternHash Library.reference) ∧
    (executePatternMining Library.reference spelledTwice []).isOk = true ∧
    ∃ fields ∈ acceptedPatterns Library.reference spelledTwice,
      ∀ row ∈ (Archive.mine Library.reference {} spelledTwice).findings,
        row.isActive = true → row.toPatternFields ≠ fields := by
  let c : Candidate := ⟨"earthquake", "tsunami", some "Japan", 7⟩
  let c' : Candidate := ⟨"earthquake", "tsunami", some "japan ", 7⟩
  have hc : c ∈ spelledTwice.passes Library.reference := by decide +kernel
  have hc' : c' ∈ spelledTwice.passes Library.reference := by decide +kernel
  have hhash : c.patternHash Library.reference = c'.patternHash Library.reference := by
    have hletters : (pyStrip "Japan").toList.map Char.toLower =
        (pyStrip "japan ").toList.map Char.toLower := by
      decide +kernel
    have hlabel : normal Library.reference "Japan" = normal Library.reference "japan " := by
      show (pyStrip "Japan").map Char.toLower = (pyStrip "japan ").map Char.toLower
      rw [← String.toList_inj, String.toList_map, String.toList_map, hletters]
    refine (patternHash_eq_iff fun _ _ h => h).mpr ⟨?_, rfl⟩
    unfold keyText
    exact congrArg _ hlabel
  have hok : (executePatternMining Library.reference spelledTwice []).isOk = true := by
    decide +kernel
  refine ⟨⟨c, hc, c', hc', by decide, hhash⟩, hok, ?_⟩
  have hregion : (found Library.reference spelledTwice.settings spelledTwice.minedAt
      spelledTwice.recentEvents c).map (·.regionLabel) = some (some "Japan") := by
    decide +kernel
  have hregion' : (found Library.reference spelledTwice.settings spelledTwice.minedAt
      spelledTwice.recentEvents c').map (·.regionLabel) = some (some "japan ") := by
    decide +kernel
  obtain ⟨fields, hfound, hlabel⟩ := Option.map_eq_some_iff.mp hregion
  obtain ⟨fields', hfound', hlabel'⟩ := Option.map_eq_some_iff.mp hregion'
  refine exists_lost hok hc hc' hhash hfound hfound' ?_
  rintro rfl
  rw [hlabel] at hlabel'
  exact absurd hlabel' (by decide)

/-- With the one spelling the candidates have hashes of their own. -/
theorem pattern_hashes_apart_in_japan :
    let run := { spelledTwice with hazardEvents := spelledTwice.hazardEvents.take 2 }
    (run.HashesApart Library.reference ∧ run.KeepsFindings Library.reference) ∧
      (acceptedPatterns Library.reference run).length = 3 := by
  intro run
  have hlabels : ∀ event ∈ run.recentEvents, event.regionLabel = some "Japan" := by
    decide +kernel
  have htypes : ∀ event ∈ run.recentEvents,
      ':' ∉ (event.cleanType Library.reference).toList := by
    decide +kernel
  have hclear : run.Unambiguous Library.reference := by
    constructor
    · rintro s t - - - r r' ⟨event, hevent, rfl⟩ ⟨event', hevent', rfl⟩ -
      rw [hlabels event hevent, hlabels event' hevent']
    · intro s t s' t' hs ht _ hs' ht' _ r r' _ _ hkey
      refine types_of_no_colon ?_ hs ht hs' ht' hkey
      rintro eventType ⟨event, hevent, rfl⟩
      exact htypes event hevent
  exact ⟨(pattern_hashes_apart_iff Library.reference run ⟨rfl, fun _ => rfl, rfl⟩
    (fun _ _ h => h) toLower_pyStrip).mpr fun _ _ => hclear, by decide +kernel⟩

end PatternMining

end GaiaOS
