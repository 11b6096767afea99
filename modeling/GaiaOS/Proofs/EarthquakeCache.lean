/-
Which earthquakes a cached answer has.

What `resilient_call` serves from the cache was fetched by an earlier call under the same key;
this holds in any history.  So a cached answer belongs to the query exactly as far as the key
tells queries apart.  The text of a key tells the parts it is written from, since none of them
has a colon, but the parts leave out the times and blur the place: coordinates are rounded and
a missing one reads like zero.
-/
import GaiaOS.Proofs.DegradedContract
import GaiaOS.Tools.SeismicUsgs

namespace GaiaOS

namespace DegradedMode

/-! ### Where a cached value comes from -/

section Provenance

variable {T : Type} {settings : ResilienceSettings} {codec : JsonCodec T}
  {cache cache' : Dict String CacheEntry} {call : Call T} {report : Report T}
  {past : List (Call T × Report T)}

/-- Each entry of the cache was written by a live result of the past. -/
def Supplied (codec : JsonCodec T) (cache : Dict String CacheEntry)
    (past : List (Call T × Report T)) : Prop :=
  ∀ key entry, cache.get? key = some entry → ∃ supplier ∈ past,
    sourceCacheKey supplier.1.source supplier.1.cacheKey = key ∧
      entry.expiresAt = expiresAt supplier.1 ∧
      ∃ value, liveValue supplier.2 = some value ∧ codec.dumps value = some entry.text

theorem Supplied.empty (codec : JsonCodec T) : Supplied codec .empty [] := by
  intro key entry hentry
  cases hentry

theorem Supplied.append (h : Supplied codec cache past) (next : Call T × Report T) :
    Supplied codec cache (past ++ [next]) := by
  intro key entry hentry
  obtain ⟨supplier, hmem, hsupplier⟩ := h key entry hentry
  exact ⟨supplier, List.mem_append_left _ hmem, hsupplier⟩

/-- A call keeps it so. -/
theorem Supplied.after_call (h : Supplied codec cache past)
    (hcomes : Comes settings codec call cache report cache') :
    Supplied codec cache' (past ++ [(call, report)]) := by
  cases hcomes with
  | skipped => exact h.append _
  | exhausted => exact h.append _
  | raised => exact h.append _
  | bypassed => exact h.append _
  | bypassRaised => exact h.append _
  | live _ value attempts =>
      unfold cacheResult
      split
      · exact h.append _
      · rename_i text htext
        split
        · intro key entry hentry
          rw [Dict.get?_set] at hentry
          by_cases hkey : sourceCacheKey call.source call.cacheKey = key
          · rw [if_pos hkey] at hentry
            cases hentry
            exact ⟨_, List.mem_append_right _ (List.mem_singleton_self _), hkey, rfl, value, rfl,
              htext⟩
          · rw [if_neg hkey] at hentry
            exact h.append _ key entry hentry
        · exact h.append _

/-- The call was answered with a value that the supplier fetched under the same key, before that
expired. -/
structure SuppliedBy (call : Call T) (result : ResilientResult T)
    (supplier : Call T × Report T) : Prop where
  sameKey : sourceCacheKey supplier.1.source supplier.1.cacheKey =
    sourceCacheKey call.source call.cacheKey
  fresh : call.servedAt < expiresAt supplier.1
  fetched : ∃ value, liveValue supplier.2 = some value ∧ result.value = some value

variable (hround : ∀ value text, codec.dumps value = some text → codec.loads text = some value)

include hround

theorem Supplied.served (h : Supplied codec cache past)
    (hcached : (DegradedMode.served codec call cache).sourceStatus = .cached) :
    ∃ supplier ∈ past, SuppliedBy call (DegradedMode.served codec call cache) supplier := by
  unfold DegradedMode.served serveFromCache at hcached ⊢
  cases hfilter : (cache.get? (sourceCacheKey call.source call.cacheKey)).filter
      (call.servedAt < ·.expiresAt) with
  | none =>
      rw [hfilter] at hcached
      cases hcached
  | some entry =>
      rw [Option.filter_eq_some_iff] at hfilter
      obtain ⟨hget, hfresh⟩ := hfilter
      obtain ⟨supplier, hmem, hkey, hexpires, value, hvalue, htext⟩ := h _ entry hget
      rw [decide_eq_true_eq, hexpires] at hfresh
      refine ⟨supplier, hmem, hkey, hfresh, value, hvalue, ?_⟩
      simp only [hround value entry.text htext]

theorem Comes.supplied (h : Supplied codec cache past)
    (hcomes : Comes settings codec call cache report cache')
    {result : ResilientResult T} (hresult : report.result = some result)
    (hcached : result.sourceStatus = .cached) :
    ∃ supplier ∈ past, SuppliedBy call result supplier := by
  cases hcomes with
  | skipped =>
      cases hresult
      exact h.served hround hcached
  | exhausted =>
      cases hresult
      exact h.served hround hcached
  | live =>
      cases hresult
      cases hcached
  | bypassed =>
      cases hresult
      cases hcached
  | raised => cases hresult
  | bypassRaised => cases hresult

/-- In every history from an empty cache, a cached value was fetched by an earlier call under
the same key, and has not expired. -/
theorem history_supplied {calls : List (Call T)} {world : World} (past : List (Call T × Report T))
    (hpast : Supplied codec world.cache past)
    {before after : List (Call T × Report T)} {result : ResilientResult T}
    (h : history settings codec world calls = before ++ (call, report) :: after)
    (hresult : report.result = some result) (hcached : result.sourceStatus = .cached) :
    ∃ supplier ∈ past ++ before, SuppliedBy call result supplier := by
  obtain ⟨-, found, hsupplied, rfl⟩ := history_induction
    (fun past world => Supplied codec world.cache past)
    (fun past world next _ hpast =>
      hpast.after_call (resilientCall_comes settings codec next world)) hpast h
  exact (resilientCall_comes settings codec call found).supplied hround hsupplied hresult hcached

end Provenance

end DegradedMode

namespace SeismicUsgs

open DegradedMode

/-! ### What a key tells -/

section Key

variable {floats : FloatText} {query query' : Query}

theorem KeyNumber.text_inj {x x' : KeyNumber} (h : x.text floats = x'.text floats) : x = x' := by
  cases x with
  | zero =>
      cases x' with
      | zero => rfl
      | float negative value => exact absurd h.symm (floats.ne_zero negative value)
  | float negative value =>
      cases x' with
      | zero => exact absurd h (floats.ne_zero negative value)
      | float negative' value' =>
          obtain ⟨rfl, rfl⟩ := floats.inj h
          rfl

theorem KeyNumber.text_noColon (floats : FloatText) (x : KeyNumber) :
    ':' ∉ (x.text floats).toList := by
  cases x with
  | zero =>
      show ':' ∉ "0".toList
      decide +kernel
  | float negative value => exact floats.noColon negative value

theorem optionalText_inj {x x' : Option ℚ} (h : optionalText floats x = optionalText floats x') :
    x = x' := by
  cases x with
  | none =>
      cases x' with
      | none => rfl
      | some value => exact absurd h.symm (floats.ne_none _ value)
  | some value =>
      cases x' with
      | none => exact absurd h (floats.ne_none _ value)
      | some value' => rw [(floats.inj h).2]

theorem optionalText_noColon (floats : FloatText) (x : Option ℚ) :
    ':' ∉ (optionalText floats x).toList := by
  cases x with
  | none =>
      show ':' ∉ "None".toList
      decide +kernel
  | some value => exact floats.noColon _ value

/-- The text of a key tells its parts. -/
theorem KeyParts.text_inj {parts parts' : KeyParts} (h : parts.text floats = parts'.text floats) :
    parts = parts' := by
  unfold KeyParts.text at h
  simp only [String.append_assoc, String.append_right_inj] at h
  obtain ⟨hlat, h⟩ := text_eq_of_append_separator (c := ':') (KeyNumber.text_noColon _ _)
    (KeyNumber.text_noColon _ _) h
  obtain ⟨hlon, h⟩ := text_eq_of_append_separator (c := ':') (KeyNumber.text_noColon _ _)
    (KeyNumber.text_noColon _ _) h
  obtain ⟨hradius, h⟩ := text_eq_of_append_separator (c := ':') (optionalText_noColon _ _)
    (optionalText_noColon _ _) h
  obtain ⟨hmagnitude, hdays⟩ := text_eq_of_append_separator (c := ':') (floats.noColon _ _)
    (floats.noColon _ _) h
  have hlat := KeyNumber.text_inj hlat
  have hlon := KeyNumber.text_inj hlon
  have hradius := optionalText_inj hradius
  have hmagnitude := (floats.inj hmagnitude).2
  have hdays := toString_int_inj hdays
  cases parts
  cases parts'
  simp_all

/-- The key cannot tell the two queries apart. -/
structure Alike (query query' : Query) : Prop where
  lat : rounded query.lat = rounded query'.lat
  lon : rounded query.lon = rounded query'.lon
  radiusKm : query.radiusKm = query'.radiusKm
  minMagnitude : query.minMagnitude = query'.minMagnitude
  days : query.days = query'.days

theorem cacheKey_eq_iff : cacheKey floats query = cacheKey floats query' ↔ Alike query query' := by
  constructor
  · intro h
    have hparts := KeyParts.text_inj h
    unfold keyParts at hparts
    rw [KeyParts.mk.injEq] at hparts
    obtain ⟨hlat, hlon, hradius, hmagnitude, hdays⟩ := hparts
    exact ⟨hlat, hlon, hradius, hmagnitude, hdays⟩
  · intro h
    unfold cacheKey keyParts
    rw [h.lat, h.lon, h.radiusKm, h.minMagnitude, h.days]

/-- A circle is asked for by neither query, or by both with the same coordinates. -/
def SamePlace (query query' : Query) : Prop :=
  query.lat = query'.lat ∧ query.lon = query'.lon ∨
    (query.lat = none ∨ query.lon = none) ∧ (query'.lat = none ∨ query'.lon = none)

/-- With the same radius, two queries ask for the same circle exactly if the radius is missing or
the place is the same. -/
theorem location_eq_iff (hradius : query.radiusKm = query'.radiusKm) :
    location query = location query' ↔ (query.radiusKm ≠ none → SamePlace query query') := by
  unfold location SamePlace
  rw [← hradius]
  cases query.radiusKm with
  | none =>
      refine iff_of_true ?_ fun h => absurd rfl h
      cases query.lat
      all_goals cases query.lon
      all_goals cases query'.lat
      all_goals cases query'.lon
      all_goals rfl
  | some radius =>
      cases query.lat
      all_goals cases query.lon
      all_goals cases query'.lat
      all_goals cases query'.lon
      all_goals simp

end Key

/-! ### Runs of calls -/

/-- A call of `get_recent_earthquakes`. -/
structure Ask where
  query : Query
  exchanges : Nat → Exchange
  clock : Clock

section Run

variable (floats : FloatText) (settings : ResilienceSettings) (codec : JsonCodec Json)

def Ask.call (ask : Ask) : Call Json := earthquakeCall floats ask.query ask.exchanges ask.clock

/-- The calls of a run with what came of them. -/
def run : World → List Ask → List (Ask × Report Json)
  | _, [] => []
  | world, ask :: asks =>
      (ask, (resilientCall settings codec (ask.call floats) world).1) ::
        run (resilientCall settings codec (ask.call floats) world).2 asks

/-- At any time the two queries make the same request. -/
def SameRequest (query query' : Query) : Prop :=
  ∀ now, params now query = params now query'

/-- The requests differ in their location, in whether they have one, or in their explicit times. -/
def Differ (query query' : Query) : Prop :=
  location query ≠ location query' ∨ query.starttime ≠ query'.starttime ∨
    query.endtime ≠ query'.endtime

/-- A cached answer has what an earlier call fetched with the same request, at most the expiry
ago, and requests that differ do not share an entry. -/
structure BelongsToQuery (reports : List (Ask × Report Json)) : Prop where
  fetched : ∀ before after ask report result, reports = before ++ (ask, report) :: after →
    report.result = some result → result.sourceStatus = .cached →
    ∃ earlier ∈ before, SameRequest earlier.1.query ask.query ∧
      ask.clock.servedAt ≤ earlier.1.clock.cachedAt + 600 * 1000000 ∧
      ∃ value, liveValue earlier.2 = some value ∧ result.value = some value
  apart : ∀ entry ∈ reports, ∀ entry' ∈ reports, Differ entry.1.query entry'.1.query →
    sourceCacheKey "usgs" (cacheKey floats entry.1.query) ≠
      sourceCacheKey "usgs" (cacheKey floats entry'.1.query)

/-- Where the key cannot tell two queries apart, there is nothing to tell: the times are the same,
and so is the place if a radius is given. -/
def NothingToTell (query query' : Query) : Prop :=
  Alike query query' → query.starttime = query'.starttime ∧ query.endtime = query'.endtime ∧
    (query.radiusKm ≠ none → SamePlace query query')

end Run

section Belongs

variable {floats : FloatText} {settings : ResilienceSettings} {codec : JsonCodec Json}
  {query query' : Query}

theorem mem_run_iff {world : World} {asks : List Ask} {ask : Ask} :
    (∃ report, (ask, report) ∈ run floats settings codec world asks) ↔ ask ∈ asks := by
  induction asks generalizing world with
  | nil => simp [run]
  | cons next asks ih => simp [run, exists_or, ih]

theorem run_history (floats : FloatText) (settings : ResilienceSettings) (codec : JsonCodec Json)
    (world : World) (asks : List Ask) :
    history settings codec world (asks.map (Ask.call floats)) =
      (run floats settings codec world asks).map fun entry => (entry.1.call floats, entry.2) := by
  induction asks generalizing world with
  | nil => rfl
  | cons ask asks ih => simp [run, history, ih]

theorem usgsKey_eq_iff :
    sourceCacheKey "usgs" (cacheKey floats query) = sourceCacheKey "usgs" (cacheKey floats query') ↔
      Alike query query' := by
  rw [sourceCacheKey_inj (by decide +kernel) (by decide +kernel), cacheKey_eq_iff]
  simp

theorem nothingToTell_iff :
    NothingToTell query query' ↔ (Alike query query' → ¬ Differ query query') := by
  unfold NothingToTell Differ
  refine forall_congr' fun halike => ?_
  rw [← location_eq_iff halike.radiusKm]
  tauto

/-- Two queries the key cannot tell apart make the same request if they do not differ. -/
theorem sameRequest_of_not_differ (halike : Alike query query')
    (hdiffer : ¬ Differ query query') : SameRequest query query' := by
  intro now
  unfold Differ at hdiffer
  push Not at hdiffer
  obtain ⟨hlocation, hstart, hend⟩ := hdiffer
  unfold params
  rw [hlocation, hstart, hend, halike.minMagnitude, halike.days]

end Belongs

/-- **When a cached answer belongs to the query.**  For every sequence of calls, from an empty
cache and any circuits: every cached answer has what an earlier call fetched with the same
request, at most the expiry ago, and calls whose requests differ in location, in the presence of
one or in their explicit times never share an entry, if and only if any two of the queries that
agree in radius, magnitude, days and rounded coordinates have the same times and, if the radius
is given, the same place. -/
theorem belongs_to_query_iff (floats : FloatText) (settings : ResilienceSettings)
    (codec : JsonCodec Json) (circuits : String → Option CircuitState) (asks : List Ask)
    (hround : ∀ value text, codec.dumps value = some text → codec.loads text = some value) :
    BelongsToQuery floats (run floats settings codec ⟨circuits, .empty⟩ asks) ↔
      ∀ ask ∈ asks, ∀ ask' ∈ asks, NothingToTell ask.query ask'.query := by
  constructor
  · intro h ask hask ask' hask'
    obtain ⟨report, hreport⟩ := mem_run_iff.mpr hask
    obtain ⟨report', hreport'⟩ := mem_run_iff.mpr hask'
    rw [nothingToTell_iff]
    intro halike hdiffer
    exact h.apart _ hreport _ hreport' hdiffer (usgsKey_eq_iff.mpr halike)
  · intro h
    have hnotDiffer : ∀ entry ∈ run floats settings codec ⟨circuits, .empty⟩ asks,
        ∀ entry' ∈ run floats settings codec ⟨circuits, .empty⟩ asks,
        Alike entry.1.query entry'.1.query → ¬ Differ entry.1.query entry'.1.query :=
      fun entry hentry entry' hentry' =>
        nothingToTell_iff.mp
          (h _ (mem_run_iff.mp ⟨_, hentry⟩) _ (mem_run_iff.mp ⟨_, hentry'⟩))
    refine ⟨?_, ?_⟩
    · intro before after ask report result hsplit hresult hcached
      have hhistory := run_history floats settings codec ⟨circuits, .empty⟩ asks
      rw [hsplit, List.map_append, List.map_cons] at hhistory
      obtain ⟨supplier, hmem, hby⟩ := history_supplied hround [] (.empty codec) hhistory hresult
        hcached
      rw [List.nil_append, List.mem_map] at hmem
      obtain ⟨earlier, hearlier, rfl⟩ := hmem
      have halike := usgsKey_eq_iff.mp hby.sameKey
      have hdiffer := hnotDiffer earlier (by simp [hsplit, hearlier]) (ask, report)
        (by simp [hsplit]) halike
      exact ⟨earlier, hearlier, sameRequest_of_not_differ halike hdiffer, Int.le_of_lt hby.fresh,
        hby.fetched⟩
    · intro entry hentry entry' hentry' hdiffer hkey
      exact hnotDiffer entry hentry entry' hentry' (usgsKey_eq_iff.mp hkey) hdiffer

/-! ### Two calls of the ingestion -/

/-- A rational by its numerator, denominator and sign. -/
def ratioText (negative : Bool) (value : ℚ) : String :=
  toString value.num ++ "/" ++ toString (value.den : Int) ++ "/" ++ if negative then "-" else "+"

theorem mem_ratioText {c : Char} {negative : Bool} {value : ℚ}
    (h : c ∈ (ratioText negative value).toList) :
    c = '-' ∨ c = '+' ∨ c = '/' ∨ c.isDigit = true := by
  unfold ratioText at h
  simp only [String.toList_append, List.mem_append] at h
  rcases h with (((h | h) | h) | h) | h
  · exact (mem_toString_int h).imp_right fun h => .inr (.inr h)
  · exact .inr (.inr (.inl (by simpa using h)))
  · exact (mem_toString_int h).imp_right fun h => .inr (.inr h)
  · exact .inr (.inr (.inl (by simpa using h)))
  · cases negative with
    | true => exact .inl (by simpa using h)
    | false => exact .inr (.inl (by simpa using h))

theorem slash_mem_ratioText (negative : Bool) (value : ℚ) :
    '/' ∈ (ratioText negative value).toList := by
  simp [ratioText]

theorem slash_not_mem_toString (m : Int) : '/' ∉ (toString m).toList := by
  intro h
  rcases mem_toString_int h with h | h
  all_goals cases h

theorem ratioText_inj {negative negative' : Bool} {value value' : ℚ}
    (h : ratioText negative value = ratioText negative' value') :
    negative = negative' ∧ value = value' := by
  unfold ratioText at h
  simp only [String.append_assoc] at h
  obtain ⟨hnum, h⟩ := text_eq_of_append_separator (c := '/') (slash_not_mem_toString _)
    (slash_not_mem_toString _) h
  obtain ⟨hden, hsign⟩ := text_eq_of_append_separator (c := '/') (slash_not_mem_toString _)
    (slash_not_mem_toString _) h
  refine ⟨?_, Rat.ext (toString_int_inj hnum) (by exact_mod_cast toString_int_inj hden)⟩
  cases negative
  all_goals cases negative'
  all_goals simp at hsign ⊢

/-- Floats as text, with the magnitude of the ingestion as Python writes it. -/
def sampleText (negative : Bool) (value : ℚ) : String :=
  if negative = false ∧ value = 5 / 2 then "2.5" else ratioText negative value

theorem ratioText_ne {text : String} (h : '/' ∉ text.toList) (negative : Bool) (value : ℚ) :
    ratioText negative value ≠ text := by
  intro heq
  exact h (heq ▸ slash_mem_ratioText negative value)

def sampleFloats : FloatText where
  str := sampleText
  inj := by
    intro negative negative' value value' h
    unfold sampleText at h
    split at h
    · rename_i hmagnitude
      split at h
      · rename_i hmagnitude'
        exact ⟨hmagnitude.1.trans hmagnitude'.1.symm, hmagnitude.2.trans hmagnitude'.2.symm⟩
      · exact absurd h.symm (ratioText_ne (by decide +kernel) _ _)
    · split at h
      · exact absurd h (ratioText_ne (by decide +kernel) _ _)
      · exact ratioText_inj h
  noColon := by
    intro negative value h
    unfold sampleText at h
    split at h
    · revert h
      decide +kernel
    · rcases mem_ratioText h with h | h | h | h
      all_goals cases h
  ne_zero := by
    intro negative value
    unfold sampleText
    split
    · decide +kernel
    · exact ratioText_ne (by decide +kernel) _ _
  ne_none := by
    intro negative value
    unfold sampleText
    split
    · decide +kernel
    · exact ratioText_ne (by decide +kernel) _ _

/-- No earthquakes as JSON. -/
def noQuakesCodec : JsonCodec Json where
  dumps
    | .arr [] => some "[]"
    | _ => none
  loads text := if text = "[]" then some (.arr []) else none

/-- A query of the ingestion: all earthquakes between two times. -/
def ingestionQuery (starttime endtime : Option Int) : Query :=
  { minMagnitude := 5 / 2, starttime, endtime }

/-- A call that is answered without earthquakes, and one a minute later that fails. -/
def twoAsks (query query' : Query) : List Ask :=
  [⟨query, fun _ => .response 200 (some (.obj [("features", .arr [])])), .at 604800000000⟩,
    ⟨query', fun _ => .httpError, .at 604860000000⟩]

/-- The statuses of the two calls. -/
def twoStatuses (query query' : Query) : List (Option SourceStatus) :=
  (run sampleFloats {} noQuakesCodec ⟨fun _ => none, .empty⟩ (twoAsks query query')).map
    fun entry => entry.2.result.map (·.sourceStatus)

/-- The last seven days, asked for twice: the second answer is cached and belongs to the query. -/
theorem belongs_of_repeated_query :
    twoStatuses (ingestionQuery none none) (ingestionQuery none none) =
        [some .live, some .cached] ∧
      BelongsToQuery sampleFloats (run sampleFloats {} noQuakesCodec ⟨fun _ => none, .empty⟩
        (twoAsks (ingestionQuery none none) (ingestionQuery none none))) := by
  refine ⟨by decide +kernel, ?_⟩
  have hround : ∀ value text, noQuakesCodec.dumps value = some text →
      noQuakesCodec.loads text = some value := by
    intro value text h
    unfold noQuakesCodec at h ⊢
    dsimp only at h ⊢
    split at h
    · cases h
      rfl
    · cases h
  refine (belongs_to_query_iff sampleFloats {} noQuakesCodec (fun _ => none) _ hround).mpr ?_
  intro ask hask ask' hask'
  have hquery : ∀ ask ∈ twoAsks (ingestionQuery none none) (ingestionQuery none none),
      ask.query = ingestionQuery none none := by
    simp [twoAsks]
  rw [hquery ask hask, hquery ask' hask']
  exact fun _ => ⟨rfl, rfl, fun _ => .inl ⟨rfl, rfl⟩⟩

/-- The last week. -/
def weekQuery : Query := ingestionQuery (some 0) (some 604800000000)

/-- What came since. -/
def sinceQuery : Query := ingestionQuery (some 604790000000) (some 604860000000)

/-- The ingestion asks for the last week, and a minute later for what came since: the key is the
same, and the second answer is that of the week. -/
theorem ingestion_windows_share_entry :
    cacheKey sampleFloats weekQuery = "earthquakes:0:0:None:2.5:7" ∧
      cacheKey sampleFloats sinceQuery = "earthquakes:0:0:None:2.5:7" ∧
      twoStatuses weekQuery sinceQuery = [some .live, some .cached] ∧
      ¬ BelongsToQuery sampleFloats (run sampleFloats {} noQuakesCodec ⟨fun _ => none, .empty⟩
        (twoAsks weekQuery sinceQuery)) := by
  refine ⟨by decide +kernel, by decide +kernel, by decide +kernel, fun h => ?_⟩
  obtain ⟨earlier, hearlier, hsame, -⟩ := h.fetched [_] [] _ _ _ rfl rfl (by decide +kernel)
  rw [List.mem_singleton] at hearlier
  subst hearlier
  have hstart := congrArg Params.starttime (hsame 0)
  simp [params, weekQuery, sinceQuery, ingestionQuery] at hstart

end SeismicUsgs

end GaiaOS
