/-
The promotion gate keeps the active parameters at least as good as they were.

Any sequence of calibrations and loads runs over one directory and one cache.  What the loader
returns is a function of the files alone (`active`) as long as every cache entry repeats what
its file says; a load keeps it that way because it only caches what it read, and a promotion
because it drops the entry of the one file it rewrites.  A promotion writes under a version
above all versions in the directory, so it never meets a versioned file that exists.
-/
import GaiaOS.SimulationEngine.Calibration

namespace GaiaOS

namespace Calibration

/-- Dicts that are equal for Python. -/
def Same (p q : Params) : Prop := ∀ k, p.get? k = q.get? k

theorem Same.symm {p q : Params} (h : Same p q) : Same q p := fun k => (h k).symm

theorem Same.trans {p q r : Params} (h : Same p q) (h' : Same q r) : Same p r :=
  fun k => (h k).trans (h' k)

/-- The parameter set has exactly these keys. -/
def HasKeys (ks : List String) (p : Params) : Prop := ∀ k, (p.get? k).isSome = true ↔ k ∈ ks

theorem HasKeys.mem_keys {ks : List String} {p : Params} (h : HasKeys ks p) (k : String) :
    k ∈ p.keys ↔ k ∈ ks := by
  rw [p.mem_keys_iff]
  exact h k

/-- A score depends on what the parameters hold. -/
theorem evaluateParameters_congr {p q : Params} (h : Same p q) (modelName : String)
    (valSamples : List Params) :
    evaluateParameters modelName p valSamples = evaluateParameters modelName q valSamples := by
  simp only [evaluateParameters, h _]

/-! ### What a file says -/

theorem validateParametersYaml_iff (data : Json) (ks : List String) :
    validateParametersYaml data ks = true ↔
      (parametersField? data).isSome = true ∧ ∀ k ∈ ks, (parameterValue? data k).isSome = true := by
  unfold validateParametersYaml parameterValue?
  cases parametersField? data with
  | none => simp
  | some params =>
      simp only [List.all_eq_true, Option.isSome_some, true_and]
      refine forall₂_congr fun k _ => ?_
      cases hval : Json.field? params k with
      | none => simp [hval]
      | some val => simp [hval]

theorem validateParametersYaml_congr {ks ks' : List String} (h : ∀ k, k ∈ ks ↔ k ∈ ks')
    (data : Json) : validateParametersYaml data ks = validateParametersYaml data ks' := by
  rw [Bool.eq_iff_iff, validateParametersYaml_iff, validateParametersYaml_iff]
  simp only [h]

theorem readParameters_get? (data : Json) (ks : List String) (k : String) :
    (readParameters data ks).get? k = if k ∈ ks then parameterValue? data k else none := by
  let pairs := ks.filterMap fun k => (parameterValue? data k).map fun v => (k, v)
  have hmem : ∀ k v, (k, v) ∈ pairs ↔ k ∈ ks ∧ parameterValue? data k = some v := by
    intro k v
    simp only [pairs, List.mem_filterMap, Option.map_eq_some_iff, Prod.mk.injEq]
    constructor
    · rintro ⟨k', hk', v', hv', rfl, rfl⟩
      exact ⟨hk', hv'⟩
    · rintro ⟨hk, hv⟩
      exact ⟨k, hk, v, hv, rfl, rfl⟩
  show (Dict.ofPairs pairs).get? k = _
  cases hget : (Dict.ofPairs pairs).get? k with
  | some v =>
      obtain ⟨hk, hv⟩ := (hmem k v).mp (Dict.mem_of_get?_ofPairs hget)
      rw [if_pos hk, hv]
  | none =>
      by_cases hk : k ∈ ks
      · rw [if_pos hk]
        cases hv : parameterValue? data k with
        | none => rfl
        | some v =>
            have hpair : k ∈ pairs.map Prod.fst :=
              List.mem_map.mpr ⟨(k, v), (hmem k v).mpr ⟨hk, hv⟩, rfl⟩
            have hsome := Dict.get?_ofPairs_isSome hpair
            rw [hget] at hsome
            cases hsome
      · rw [if_neg hk]

theorem readParameters_congr {ks ks' : List String} (h : ∀ k, k ∈ ks ↔ k ∈ ks') (data : Json) :
    Same (readParameters data ks) (readParameters data ks') := by
  intro k
  simp only [readParameters_get?, h]

/-- The parameters the files give a model: those of its active file, or the defaults. -/
def active (files : Dict String ConfigFile) (modelName : ModelName) (defaults : Params) : Params :=
  match (files.get? (latestFile modelName)).bind ConfigFile.data with
  | some data =>
      if validateParametersYaml data defaults.keys then readParameters data defaults.keys
      else defaults
  | none => defaults

/-! ### The cache repeats the files -/

variable (keys : ModelName → List String)

/-- Every cache entry holds what the active file of its model says. -/
def Coherent (s : ParameterStore) : Prop :=
  ∀ modelName cached, s.parameterCache.get? modelName = some cached →
    ∃ data, (s.files.get? (latestFile modelName)).bind ConfigFile.data = some data ∧
      validateParametersYaml data (keys modelName) = true ∧
      Same cached.params (readParameters data (keys modelName))

variable {keys} {s : ParameterStore} {modelName : ModelName} {defaults : Params}

theorem Coherent.cached (hs : Coherent keys s) (hd : HasKeys (keys modelName) defaults)
    {cached : CachedParameters} (h : s.parameterCache.get? modelName = some cached) :
    Same cached.params (active s.files modelName defaults) := by
  obtain ⟨data, hdata, hvalid, hsame⟩ := hs modelName cached h
  have hkeys : ∀ k, k ∈ keys modelName ↔ k ∈ defaults.keys := fun k => (hd.mem_keys k).symm
  rw [validateParametersYaml_congr hkeys] at hvalid
  unfold active
  rw [hdata]
  dsimp only
  rw [if_pos hvalid]
  exact hsame.trans (readParameters_congr hkeys data)

/-- Caching what the active file says, or what is cached already, keeps the cache coherent. -/
theorem Coherent.remember (hs : Coherent keys s) {cached : CachedParameters} {data : Json}
    (hdata : (s.files.get? (latestFile modelName)).bind ConfigFile.data = some data)
    (hvalid : validateParametersYaml data (keys modelName) = true)
    (hsame : Same cached.params (readParameters data (keys modelName))) :
    Coherent keys (s.remember modelName cached) := by
  intro modelName' cached' h
  unfold ParameterStore.remember at h
  rw [Dict.get?_set] at h
  split at h
  · rename_i heq
    subst heq
    cases h
    exact ⟨data, hdata, hvalid, hsame⟩
  · exact hs modelName' cached' h

/-- A load returns what the files say, touches none of them and keeps the cache coherent. -/
structure LoadSpec (keys : ModelName → List String) (s : ParameterStore) (modelName : ModelName)
    (defaults : Params) (result : Params × ParameterStore) : Prop where
  params : Same result.1 (active s.files modelName defaults)
  files : result.2.files = s.files
  coherent : Coherent keys result.2

theorem recent?_eq_some {now : ℚ} {params : Params} (h : s.recent? now modelName = some params) :
    ∃ cached, s.parameterCache.get? modelName = some cached ∧ cached.params = params := by
  unfold ParameterStore.recent? at h
  split at h
  · rename_i cached hcached
    split at h
    · exact ⟨cached, hcached, by simpa using h⟩
    · cases h
  · cases h

theorem unmodified?_eq_some {mtime : ℚ} {params : Params}
    (h : s.unmodified? mtime modelName = some params) :
    ∃ cached, s.parameterCache.get? modelName = some cached ∧ cached.params = params := by
  unfold ParameterStore.unmodified? at h
  split at h
  · rename_i cached hcached
    split at h
    · exact ⟨cached, hcached, by simpa using h⟩
    · cases h
  · cases h

theorem load_spec (now : ℚ) (hs : Coherent keys s) (hd : HasKeys (keys modelName) defaults) :
    LoadSpec keys s modelName defaults (loadCalibratedParameters now modelName defaults s) := by
  unfold loadCalibratedParameters
  split
  · rename_i params hrecent
    obtain ⟨cached, hcached, rfl⟩ := recent?_eq_some hrecent
    exact ⟨hs.cached hd hcached, rfl, hs⟩
  · split
    · rename_i hfile
      refine ⟨?_, rfl, hs⟩
      simp [active, hfile, Same]
    · rename_i file hfile
      split
      · rename_i params hunmodified
        obtain ⟨cached, hcached, rfl⟩ := unmodified?_eq_some hunmodified
        obtain ⟨data, hdata, hvalid, hsame⟩ := hs modelName cached hcached
        exact ⟨hs.cached hd hcached, rfl, hs.remember hdata hvalid hsame⟩
      · split
        · rename_i hdata
          refine ⟨?_, rfl, hs⟩
          simp [active, hfile, hdata, Same]
        · rename_i data hdata
          have hbind : (s.files.get? (latestFile modelName)).bind ConfigFile.data = some data := by
            rw [hfile]
            exact hdata
          split
          · rename_i hvalid
            refine ⟨?_, rfl, hs.remember hbind ?_ ?_⟩
            · simp [active, hbind, hvalid, Same]
            · rwa [← validateParametersYaml_congr hd.mem_keys]
            · exact readParameters_congr hd.mem_keys data
          · rename_i hvalid
            refine ⟨?_, rfl, hs⟩
            simp [active, hbind, hvalid, Same]

/-! ### File names -/

theorem latestFile_inj {m m' : ModelName} (h : latestFile m = latestFile m') : m = m' := by
  obtain ⟨text, _⟩ := m
  obtain ⟨text', _⟩ := m'
  have hlist := congrArg String.toList h
  simp only [latestFile, String.toList_append, List.append_left_inj] at hlist
  obtain rfl := String.toList_inj.mp hlist
  rfl

/-- The digits before `.yaml` tell a versioned file from an active one. -/
theorem versionFile_ne_latestFile (m m' : ModelName) (version : Int) :
    versionFile m version ≠ latestFile m' := by
  intro h
  have hlatestFile : (latestFile m').toList = (m'.text ++ "_latest").toList ++ ".yaml".toList := by
    simp [latestFile]
  have hlist := congrArg String.toList h
  rw [hlatestFile, versionFile, String.toList_append, List.append_left_inj] at hlist
  have hlast := congrArg List.getLast? hlist
  simp only [String.toList_append, List.getLast?_append] at hlast
  have hlatest : "_latest".toList.getLast? = some 't' := rfl
  simp only [hlatest, Option.some_or] at hlast
  cases hdigit : (toString version).toList.getLast? with
  | none =>
      exact absurd hdigit (by
        rw [List.getLast?_eq_none_iff]
        cases version <;> simp [Int.toString_eq_repr, Int.repr])
  | some c =>
      rw [hdigit] at hlast
      obtain rfl : c = 't' := by simpa using hlast
      rcases mem_toString_int (List.mem_of_getLast? hdigit) with hc | hc
      · exact absurd hc (by decide)
      · exact absurd hc (by decide)

theorem globsVersion_versionFile (m : ModelName) (version : Int) :
    globsVersion m (versionFile m version) = true := by
  simp only [globsVersion, versionFile, pyStartsWith, String.toList_append, Bool.and_eq_true,
    decide_eq_true_eq, List.isPrefixOf_iff_prefix, List.isSuffixOf_iff_suffix, List.length_append]
  refine ⟨⟨?_, List.suffix_append _ _⟩, by omega⟩
  rw [List.append_assoc (m.text.toList ++ "_v".toList)]
  exact List.prefix_append _ _

theorem isDigit_of_mem_digits {n : Nat} {c : Char} (h : c ∈ Nat.toDigits 10 n) :
    c.isDigit = true := Nat.isDigit_of_mem_toDigits (by decide) (by decide) h

/-- The last piece of a versioned file's name is what follows the last `_v`. -/
theorem pySplitOn_versionFile (m : ModelName) (n : Nat) : ∃ pieces, pieces ≠ [] ∧
    pySplitOn "_v" (versionFile m n) =
      (pieces ++ [Nat.toDigits 10 n ++ ".yaml".toList]).map String.ofList := by
  have hunderscore : '_' ∉ Nat.toDigits 10 n ++ ".yaml".toList := by
    rw [List.mem_append]
    rintro (h | h)
    · exact absurd (isDigit_of_mem_digits h) (by decide)
    · exact absurd h (by decide)
  have htext : (versionFile m n).toList =
      m.text.toList ++ '_' :: 'v' :: (Nat.toDigits 10 n ++ ".yaml".toList) := by
    simp [versionFile, Int.toString_eq_repr, Int.repr]
  obtain ⟨pieces, hne, hpieces⟩ := splitPieces_append (a := '_') (b := 'v') (by decide)
    (Nat.toDigits 10 n ++ ".yaml".toList) _ m.text.toList [] le_rfl
  have hrest : splitPieces ['_', 'v'] 0 [] (Nat.toDigits 10 n ++ ".yaml".toList) =
      [Nat.toDigits 10 n ++ ".yaml".toList] := by
    have hword := splitPieces_word hunderscore ['v'] [] []
    rw [List.append_nil, List.append_nil] at hword
    rw [hword, splitPieces, List.reverse_reverse]
  refine ⟨pieces, hne, ?_⟩
  unfold pySplitOn
  rw [htext]
  show (splitPieces ['_', 'v'] 0 [] _).map String.ofList = _
  rw [hpieces, hrest]

theorem pyRemove_yaml (n : Nat) :
    pyRemove ".yaml" (String.ofList (Nat.toDigits 10 n ++ ".yaml".toList)) = toString n := by
  have hdot : '.' ∉ Nat.toDigits 10 n := fun h => absurd (isDigit_of_mem_digits h) (by decide)
  unfold pyRemove
  rw [String.toList_ofList (l := Nat.toDigits 10 n ++ ".yaml".toList)]
  show String.ofList (splitPieces ('.' :: "yaml".toList) 0 []
    (Nat.toDigits 10 n ++ ".yaml".toList)).flatten = _
  rw [splitPieces_word hdot, List.append_nil]
  show String.ofList (splitPieces ('.' :: "yaml".toList) 0 (Nat.toDigits 10 n).reverse
    ('.' :: "yaml".toList ++ [])).flatten = _
  rw [splitPieces_sep, splitPieces, List.reverse_reverse]
  simp [String.ext_iff]

/-- A versioned file tells its version, whatever the name of the model. -/
theorem versionOf?_versionFile (m : ModelName) (n : Nat) :
    versionOf? (versionFile m n) = some (n : Int) := by
  obtain ⟨pieces, hne, hparts⟩ := pySplitOn_versionFile m n
  have hlen : 2 ≤ (pieces ++ [Nat.toDigits 10 n ++ ".yaml".toList]).length := by
    have := List.length_pos_iff.mpr hne
    simp only [List.length_append, List.length_singleton]
    omega
  unfold versionOf?
  dsimp only
  rw [hparts, List.length_map, if_pos hlen, List.map_append, List.map_singleton,
    List.getLastD_concat, pyRemove_yaml, pyInt_toString]

/-! ### The next version -/

theorem higherVer_spec (highestVer : Int) (name : String) :
    highestVer ≤ higherVer highestVer name ∧
      ∀ ver, versionOf? name = some ver → ver ≤ higherVer highestVer name := by
  unfold higherVer
  cases versionOf? name with
  | none => simp
  | some v =>
      simp only [Option.some.injEq, forall_eq']
      split <;> omega

theorem foldl_higherVer_spec (names : List String) : ∀ start : Int,
    start ≤ names.foldl higherVer start ∧
      ∀ name ∈ names, ∀ ver, versionOf? name = some ver → ver ≤ names.foldl higherVer start := by
  induction names with
  | nil =>
      intro start
      exact ⟨le_rfl, by simp⟩
  | cons name names ih =>
      intro start
      obtain ⟨hstart, hname⟩ := higherVer_spec start name
      obtain ⟨hle, hnames⟩ := ih (higherVer start name)
      rw [List.foldl_cons]
      refine ⟨hstart.trans hle, fun name' hmem ver hver => ?_⟩
      rcases List.mem_cons.mp hmem with rfl | hmem
      · exact (hname ver hver).trans hle
      · exact hnames name' hmem ver hver

theorem nextParameterVersion_pos (m : ModelName) (names : List String) :
    0 < nextParameterVersion m names := by
  have h := (foldl_higherVer_spec (names.filter (globsVersion m)) 0).1
  unfold nextParameterVersion
  omega

/-- The next version is above every version in the directory. -/
theorem lt_nextParameterVersion {m : ModelName} {names : List String} {version : Int}
    (hpos : 0 < version) (h : versionFile m version ∈ names) :
    version < nextParameterVersion m names := by
  obtain ⟨n, rfl⟩ := Int.eq_ofNat_of_zero_le hpos.le
  have hle := (foldl_higherVer_spec (names.filter (globsVersion m)) 0).2 _
    (List.mem_filter.mpr ⟨h, globsVersion_versionFile m n⟩) n (versionOf?_versionFile m n)
  unfold nextParameterVersion
  omega

theorem nextVersion_fresh (m : ModelName) (names : List String) :
    versionFile m (nextParameterVersion m names) ∉ names := by
  intro h
  exact absurd (lt_nextParameterVersion (nextParameterVersion_pos m names) h) (lt_irrefl _)

/-! ### A promotion -/

theorem field?_parameters (p : Params) (k : String) :
    Json.field? (p.entries.map fun e => (e.1, Json.float (.finite e.2))) k =
      (p.get? k).map fun v => Json.float (.finite v) := by
  unfold Json.field?
  cases hfind : (p.entries.map fun e => (e.1, Json.float (.finite e.2))).reverse.find?
      fun entry => entry.1 == k with
  | some entry =>
      have hkey : entry.1 = k := by simpa using List.find?_some hfind
      have hmem := List.mem_reverse.mp (List.mem_of_find?_eq_some hfind)
      obtain ⟨e, he, rfl⟩ := List.mem_map.mp hmem
      obtain rfl : e.1 = k := hkey
      rw [p.mem_entries_iff.mp he]
      rfl
  | none =>
      cases hget : p.get? k with
      | none => rfl
      | some v =>
          have hmem := List.mem_map_of_mem (f := fun e : String × ℚ =>
            (e.1, Json.float (.finite e.2))) (p.mem_entries_iff.mpr hget)
          have hnot := List.find?_eq_none.mp hfind _ (List.mem_reverse.mpr hmem)
          exact absurd (beq_self_eq_true k) hnot

section Promote

variable {ctx : PromotionContext} {newParams : Params} {newVersion : Int} {sampleCount : Nat}
  {currentScore newScore : Surd} {data : Json}

theorem parameterValue?_payload (k : String) :
    parameterValue? (payload ctx modelName newVersion sampleCount currentScore newScore newParams) k
      = newParams.get? k := by
  show ((Json.field? (newParams.entries.map fun e => (e.1, Json.float (.finite e.2))) k).bind
    finiteNumber?) = _
  rw [field?_parameters]
  cases newParams.get? k with
  | none => rfl
  | some v => rfl

theorem promote_latestFile :
    (promote ctx modelName newVersion data s).files.get? (latestFile modelName) =
      some ⟨some data, ctx.latestMtime⟩ := by
  unfold promote invalidateParameterCache
  dsimp only
  rw [Dict.get?_set_self]

/-- A promotion writes the file of its version and the active file of its model. -/
theorem promote_other {name : String} (hversion : versionFile modelName newVersion ≠ name)
    (hlatest : latestFile modelName ≠ name) :
    (promote ctx modelName newVersion data s).files.get? name = s.files.get? name := by
  unfold promote invalidateParameterCache
  dsimp only
  rw [Dict.get?_set_of_ne _ hlatest, Dict.get?_set_of_ne _ hversion]

theorem promote_versionFile :
    (promote ctx modelName newVersion data s).files.get? (versionFile modelName newVersion) =
      some ⟨some data, ctx.verMtime⟩ := by
  unfold promote invalidateParameterCache
  dsimp only
  rw [Dict.get?_set_of_ne _ (versionFile_ne_latestFile _ _ _).symm, Dict.get?_set_self]

theorem Coherent.promote (hs : Coherent keys s) :
    Coherent keys (promote ctx modelName newVersion data s) := by
  intro modelName' cached h
  have hcache : (s.parameterCache.erase modelName).get? modelName' = some cached := h
  rw [Dict.get?_erase] at hcache
  split at hcache
  · cases hcache
  · rename_i hne
    have hlatest : latestFile modelName ≠ latestFile modelName' := fun heq =>
      hne (latestFile_inj heq)
    rw [promote_other (versionFile_ne_latestFile _ _ _) hlatest]
    exact hs modelName' cached hcache

/-- The files of a promotion give the promoted parameters. -/
theorem active_promote (hnew : HasKeys (keys modelName) newParams)
    (hd : HasKeys (keys modelName) defaults) :
    Same (active (promote ctx modelName newVersion (payload ctx modelName newVersion sampleCount
      currentScore newScore newParams) s).files modelName defaults) newParams := by
  intro k
  have hvalid : validateParametersYaml (payload ctx modelName newVersion sampleCount currentScore
      newScore newParams) defaults.keys = true := by
    rw [validateParametersYaml_iff]
    refine ⟨rfl, fun k hk => ?_⟩
    rw [parameterValue?_payload, hnew k, ← hd.mem_keys k]
    exact hk
  unfold active
  rw [promote_latestFile, Option.bind_some]
  dsimp only
  rw [if_pos hvalid, readParameters_get?, parameterValue?_payload]
  split
  · rfl
  · rename_i hk
    rw [hd.mem_keys, ← hnew k, Option.not_isSome_iff_eq_none] at hk
    exact hk.symm

end Promote

/-- The files of another model are its own. -/
theorem active_congr {files files' : Dict String ConfigFile}
    (h : files'.get? (latestFile modelName) = files.get? (latestFile modelName)) :
    active files' modelName defaults = active files modelName defaults := by
  unfold active
  rw [h]

/-! ### One call -/

/-- What a calibration can do: it raises or rejects and leaves the files alone, or it promotes
a candidate whose score is no worse under the next version. -/
theorem check_cases (ctx : PromotionContext) (newParams : Params) (valSamples : List Params)
    (hs : Coherent keys s) (hd : HasKeys (keys modelName) defaults) :
    let result := checkAndPromoteParameters ctx modelName newParams defaults valSamples s
    Coherent keys result.2 ∧
      ((∃ e, result.1 = .error e) ∧ result.2.files = s.files ∨
        ∃ r, result.1 = .ok r ∧
          evaluateParameters modelName.text (active s.files modelName defaults) valSamples =
            .ok r.currentScore ∧
          evaluateParameters modelName.text newParams valSamples = .ok r.newScore ∧
          r.newVersion = nextParameterVersion modelName s.files.keys ∧
          (r.promoted = false ∧ result.2.files = s.files ∨
            r.promoted = true ∧ r.newScore.value ≤ r.currentScore.value ∧
            ∃ s', s'.files = s.files ∧ result.2 = promote ctx modelName r.newVersion
              (payload ctx modelName r.newVersion valSamples.length r.currentScore r.newScore
                newParams) s')) := by
  obtain ⟨hparams, hfiles, hcoherent⟩ := load_spec ctx.now hs hd
  unfold checkAndPromoteParameters
  dsimp only
  rw [← evaluateParameters_congr hparams]
  generalize loadCalibratedParameters ctx.now modelName defaults s = loaded at *
  cases hcurrent : evaluateParameters modelName.text loaded.1 valSamples with
  | error e => exact ⟨hcoherent, .inl ⟨⟨e, rfl⟩, hfiles⟩⟩
  | ok currentScore =>
      cases hnew : evaluateParameters modelName.text newParams valSamples with
      | error e => exact ⟨hcoherent, .inl ⟨⟨e, rfl⟩, hfiles⟩⟩
      | ok newScore =>
          dsimp only
          by_cases hle : newScore.le currentScore = true
          · rw [if_pos hle]
            refine ⟨hcoherent.promote, .inr ⟨_, rfl, rfl, rfl, by rw [hfiles], .inr ⟨hle, ?_, ?_⟩⟩⟩
            · exact (Surd.le_iff _ _).mp hle
            · exact ⟨loaded.2, hfiles, rfl⟩
          · rw [if_neg hle]
            refine ⟨hcoherent, .inr ⟨_, rfl, rfl, rfl, by rw [hfiles], .inl ⟨?_, hfiles⟩⟩⟩
            exact Bool.eq_false_iff.mpr hle

/-- The version a call promotes for a model. -/
def Call.promotion? (modelName : ModelName) (s : ParameterStore) : Call → Option Int
  | .load .. => none
  | .check ctx m newParams defaults valSamples =>
      match (checkAndPromoteParameters ctx m newParams defaults valSamples s).1 with
      | .ok r => if m = modelName ∧ r.promoted = true then some r.newVersion else none
      | .error _ => none

/-- The call uses the default keys of its model and has samples to validate on. -/
def Call.Fits (keys : ModelName → List String) : Call → Prop
  | .load _ m defaults => HasKeys (keys m) defaults
  | .check _ m newParams defaults valSamples =>
      HasKeys (keys m) newParams ∧ HasKeys (keys m) defaults ∧ valSamples ≠ []

/-- What a call does: nothing to the files, or a promotion of one model. -/
theorem step_cases {call : Call} (hfits : call.Fits keys) (hs : Coherent keys s) :
    Coherent keys (call.step s) ∧
      ((∀ m, call.promotion? m s = none) ∧ (call.step s).files = s.files ∨
        ∃ ctx m version data s',
          (∀ m', call.promotion? m' s = if m = m' then some version else none) ∧
          version = nextParameterVersion m s.files.keys ∧ s'.files = s.files ∧
          call.step s = promote ctx m version data s') := by
  cases call with
  | load now m defaults =>
      obtain ⟨-, hfiles, hcoherent⟩ := load_spec now hs hfits
      exact ⟨hcoherent, .inl ⟨fun _ => rfl, hfiles⟩⟩
  | check ctx m newParams defaults valSamples =>
      obtain ⟨hcoherent, hresult⟩ := check_cases ctx newParams valSamples hs hfits.2.1
      refine ⟨hcoherent, ?_⟩
      unfold Call.promotion?
      dsimp only
      rcases hresult with ⟨⟨e, he⟩, hfiles⟩ | ⟨r, hr, -, -, hversion, hresult⟩
      · rw [he]
        exact .inl ⟨fun _ => rfl, hfiles⟩
      · rw [hr]
        rcases hresult with ⟨hpromoted, hfiles⟩ | ⟨hpromoted, -, s', hs', hstep⟩
        · exact .inl ⟨fun _ => by simp [hpromoted], hfiles⟩
        · exact .inr ⟨ctx, m, r.newVersion, _, s', fun _ => by simp [hpromoted], hversion, hs',
            hstep⟩

variable {call : Call} {calls : List Call}

/-- No call overwrites a versioned file. -/
theorem step_versionFile (hfits : call.Fits keys) (hs : Coherent keys s) {m : ModelName}
    {version : Int} {file : ConfigFile} (h : s.files.get? (versionFile m version) = some file) :
    (call.step s).files.get? (versionFile m version) = some file := by
  rcases (step_cases hfits hs).2 with ⟨-, hfiles⟩ | ⟨ctx, m', next, data, s', -, rfl, hs', hstep⟩
  · rw [hfiles, h]
  · have hmem : versionFile m version ∈ s.files.keys := by
      rw [s.files.mem_keys_iff, h]
      rfl
    have hne : versionFile m' (nextParameterVersion m' s.files.keys) ≠ versionFile m version := by
      intro heq
      exact nextVersion_fresh m' s.files.keys (heq ▸ hmem)
    rw [hstep, promote_other hne (versionFile_ne_latestFile _ _ _).symm, hs', h]

/-- A call that does not promote a model leaves its active parameters. -/
theorem step_active (hfits : call.Fits keys) (hs : Coherent keys s)
    (h : call.promotion? modelName s = none) (defaults : Params) :
    active (call.step s).files modelName defaults = active s.files modelName defaults := by
  rcases (step_cases hfits hs).2 with
    ⟨-, hfiles⟩ | ⟨ctx, m, next, data, s', hpromotion, -, hs', hstep⟩
  · rw [hfiles]
  · have hne : m ≠ modelName := by
      intro heq
      rw [hpromotion, if_pos heq] at h
      cases h
    have hlatest : latestFile m ≠ latestFile modelName := fun heq => hne (latestFile_inj heq)
    refine active_congr ?_
    rw [hstep, promote_other (versionFile_ne_latestFile _ _ _) hlatest, hs']

/-- A promoted version is above those in the directory, and is one of them from then on. -/
theorem step_promotion (hfits : call.Fits keys) (hs : Coherent keys s) {version : Int}
    (h : call.promotion? modelName s = some version) :
    version = nextParameterVersion modelName s.files.keys ∧
      versionFile modelName version ∈ (call.step s).files.keys := by
  rcases (step_cases hfits hs).2 with
    ⟨hnone, -⟩ | ⟨ctx, m, next, data, s', hpromotion, hnext, hs', hstep⟩
  · rw [hnone] at h
    cases h
  · rw [hpromotion] at h
    split at h
    · rename_i heq
      subst heq
      cases h
      refine ⟨hnext, ?_⟩
      rw [Dict.mem_keys_iff, hstep, promote_versionFile]
      rfl
    · cases h

theorem step_keeps_version (hfits : call.Fits keys) (hs : Coherent keys s) {m : ModelName}
    {version : Int} (h : versionFile m version ∈ s.files.keys) :
    versionFile m version ∈ (call.step s).files.keys := by
  rw [Dict.mem_keys_iff, Option.isSome_iff_exists] at h ⊢
  obtain ⟨file, hfile⟩ := h
  exact ⟨file, step_versionFile hfits hs hfile⟩

/-! ### A whole run -/

/-- The versions a run promotes for a model, in order. -/
def promotedVersions (modelName : ModelName) : ParameterStore → List Call → List Int
  | _, [] => []
  | s, call :: calls =>
      (call.promotion? modelName s).toList ++ promotedVersions modelName (call.step s) calls

theorem runCalls_coherent (hfits : ∀ call ∈ calls, call.Fits keys) (hs : Coherent keys s) :
    Coherent keys (runCalls s calls) := by
  induction calls generalizing s with
  | nil => exact hs
  | cons call calls ih =>
      exact ih (fun c hc => hfits c (List.mem_cons_of_mem _ hc))
        (step_cases (hfits call List.mem_cons_self) hs).1

theorem runCalls_active (hfits : ∀ call ∈ calls, call.Fits keys) (hs : Coherent keys s)
    (h : promotedVersions modelName s calls = []) (defaults : Params) :
    active (runCalls s calls).files modelName defaults = active s.files modelName defaults := by
  induction calls generalizing s with
  | nil => rfl
  | cons call calls ih =>
      obtain ⟨hcall, hcalls⟩ := List.append_eq_nil_iff.mp h
      have hfit := hfits call List.mem_cons_self
      have hnone : call.promotion? modelName s = none := by
        cases hp : call.promotion? modelName s with
        | none => rfl
        | some v => simp [hp] at hcall
      have hrest := ih (fun c hc => hfits c (List.mem_cons_of_mem _ hc)) (step_cases hfit hs).1
        hcalls
      exact hrest.trans (step_active hfit hs hnone defaults)

/-- Everything a run promotes is above the versions in the directory it starts from. -/
theorem lt_promotedVersions (hfits : ∀ call ∈ calls, call.Fits keys) (hs : Coherent keys s)
    {version : Int} (hpos : 0 < version) (h : versionFile modelName version ∈ s.files.keys) :
    ∀ promoted ∈ promotedVersions modelName s calls, version < promoted := by
  induction calls generalizing s with
  | nil => simp [promotedVersions]
  | cons call calls ih =>
      intro promoted hmem
      have hfit := hfits call List.mem_cons_self
      rcases List.mem_append.mp hmem with hmem | hmem
      · obtain ⟨hnext, -⟩ := step_promotion hfit hs (Option.mem_toList.mp hmem)
        rw [hnext]
        exact lt_nextParameterVersion hpos h
      · exact ih (fun c hc => hfits c (List.mem_cons_of_mem _ hc)) (step_cases hfit hs).1
          (step_keeps_version hfit hs h) promoted hmem

theorem promotedVersions_increase (hfits : ∀ call ∈ calls, call.Fits keys) (hs : Coherent keys s) :
    (promotedVersions modelName s calls).Pairwise (· < ·) := by
  induction calls generalizing s with
  | nil => exact .nil
  | cons call calls ih =>
      have hfit := hfits call List.mem_cons_self
      have hrest : ∀ c ∈ calls, c.Fits keys := fun c hc => hfits c (List.mem_cons_of_mem _ hc)
      have hstep := (step_cases hfit hs).1
      rw [promotedVersions]
      cases hpromotion : call.promotion? modelName s with
      | none => exact ih hrest hstep
      | some version =>
          obtain ⟨hnext, hmem⟩ := step_promotion hfit hs hpromotion
          have hpos : 0 < version := hnext ▸ nextParameterVersion_pos modelName s.files.keys
          exact List.pairwise_cons.mpr ⟨lt_promotedVersions hrest hstep hpos hmem, ih hrest hstep⟩

/-! ### The gate -/

/-- The files are as they were, and so is what every model's loader returns, at any times. -/
def Untouched (keys : ModelName → List String) (s s' : ParameterStore) : Prop :=
  s'.files = s.files ∧ ∀ m now now' d, HasKeys (keys m) d →
    Same (loadCalibratedParameters now' m d s').1 (loadCalibratedParameters now m d s).1

theorem untouched_of_files {s' : ParameterStore} (hs : Coherent keys s) (hs' : Coherent keys s')
    (h : s'.files = s.files) : Untouched keys s s' := by
  refine ⟨h, fun m now now' d hd => ?_⟩
  have hload := (load_spec now' hs' hd).params
  rw [h] at hload
  exact hload.trans (load_spec now hs hd).params.symm

/-- The promise of the gate for a call in a run: a promotion is what the loader returns until
the model is promoted again, a call that rejects or raises changes nothing, and the parameters
active after the call score no worse on its samples than those active before. -/
def GateHolds (keys : ModelName → List String) (s : ParameterStore) (later : List Call) :
    Call → Prop
  | .load now m defaults => Untouched keys s (Call.step s (.load now m defaults))
  | .check ctx m newParams defaults valSamples =>
      let s' := Call.step s (.check ctx m newParams defaults valSamples)
      match (checkAndPromoteParameters ctx m newParams defaults valSamples s).1 with
      | .error _ => Untouched keys s s'
      | .ok r =>
          (r.promoted = true → ∀ mid, mid <+: later → promotedVersions m s' mid = [] →
            ∀ now d, HasKeys (keys m) d →
              Same (loadCalibratedParameters now m d (runCalls s' mid)).1 newParams) ∧
          (r.promoted = false → Untouched keys s s') ∧
          ∀ now now', ∃ before after,
            evaluateParameters m.text (loadCalibratedParameters now m defaults s).1 valSamples =
              .ok before ∧
            evaluateParameters m.text (loadCalibratedParameters now' m defaults s').1 valSamples =
              .ok after ∧
            after.value ≤ before.value

theorem gateHolds_check {ctx : PromotionContext} {newParams : Params} {valSamples : List Params}
    {later : List Call} (hs : Coherent keys s) (hnew : HasKeys (keys modelName) newParams)
    (hd : HasKeys (keys modelName) defaults) (hlater : ∀ call ∈ later, call.Fits keys) :
    GateHolds keys s later (.check ctx modelName newParams defaults valSamples) := by
  obtain ⟨hcoherent, hresult⟩ := check_cases ctx newParams valSamples hs hd
  change Coherent keys (Call.step s (.check ctx modelName newParams defaults valSamples))
    at hcoherent
  dsimp only [GateHolds]
  rcases hresult with ⟨⟨e, he⟩, hfiles⟩ | ⟨r, hr, hcurrent, hscore, -, hresult⟩
  · rw [he]
    exact untouched_of_files hs hcoherent hfiles
  · rw [hr]
    dsimp only
    -- the score before the call, at any time of loading
    have hbefore : ∀ now, evaluateParameters modelName.text
        (loadCalibratedParameters now modelName defaults s).1 valSamples = .ok r.currentScore := by
      intro now
      rw [evaluateParameters_congr (load_spec now hs hd).params, hcurrent]
    rcases hresult with ⟨hpromoted, hfiles⟩ | ⟨hpromoted, hle, s₁, -, hstep⟩
    · have huntouched := untouched_of_files hs hcoherent hfiles
      refine ⟨fun h => absurd (hpromoted.symm.trans h) (by decide), fun _ => huntouched, ?_⟩
      intro now now'
      refine ⟨r.currentScore, r.currentScore, hbefore now, ?_, le_rfl⟩
      rw [evaluateParameters_congr (huntouched.2 modelName now now' defaults hd), hbefore]
    · have hactive : ∀ d, HasKeys (keys modelName) d →
          Same (active (Call.step s (.check ctx modelName newParams defaults valSamples)).files
            modelName d) newParams := by
        intro d hd'
        change Call.step s (.check ctx modelName newParams defaults valSamples) = _ at hstep
        rw [hstep]
        exact active_promote hnew hd'
      refine ⟨fun _ mid hmid hnone now d hd' => ?_,
        fun h => absurd (hpromoted.symm.trans h) (by decide), fun now now' => ?_⟩
      · have hfits : ∀ call ∈ mid, call.Fits keys := fun call hcall =>
          hlater call (hmid.subset hcall)
        have hload := (load_spec now (runCalls_coherent hfits hcoherent) hd').params
        rw [runCalls_active hfits hcoherent hnone] at hload
        exact hload.trans (hactive d hd')
      · refine ⟨r.currentScore, r.newScore, hbefore now, ?_, hle⟩
        have hload := (load_spec now' hcoherent hd).params.trans (hactive defaults hd)
        rw [evaluateParameters_congr hload, hscore]

theorem gateHolds {later : List Call} (hs : Coherent keys s) (hfits : call.Fits keys)
    (hlater : ∀ call ∈ later, call.Fits keys) : GateHolds keys s later call := by
  cases call with
  | load now m defaults =>
      obtain ⟨-, hfiles, hcoherent⟩ := load_spec now hs hfits
      exact untouched_of_files hs hcoherent hfiles
  | check ctx m newParams defaults valSamples => exact gateHolds_check hs hfits.1 hfits.2.1 hlater

/-- In every sequence of calibrations and loads of one process, on any directory, the versions
promoted for a model strictly increase, no versioned file is overwritten, and the gate holds at
every call. -/
theorem promotion_gate (keys : ModelName → List String) (files : Dict String ConfigFile)
    (calls : List Call) (hfits : ∀ call ∈ calls, call.Fits keys) :
    (∀ m, (promotedVersions m ⟨files, .empty⟩ calls).Pairwise (· < ·)) ∧
      ∀ before call after, calls = before ++ call :: after →
        (∀ m version file,
          (runCalls ⟨files, .empty⟩ before).files.get? (versionFile m version) = some file →
          (runCalls ⟨files, .empty⟩ (before ++ [call])).files.get? (versionFile m version) =
            some file) ∧
        GateHolds keys (runCalls ⟨files, .empty⟩ before) after call := by
  have hstart : Coherent keys ⟨files, .empty⟩ := by
    intro m cached h
    cases h
  refine ⟨fun m => promotedVersions_increase hfits hstart, fun before call after hcalls => ?_⟩
  have hcall : call.Fits keys := hfits call (by rw [hcalls]; simp)
  have hbefore : ∀ c ∈ before, c.Fits keys := fun c hc => hfits c (by rw [hcalls]; simp [hc])
  have hafter : ∀ c ∈ after, c.Fits keys := fun c hc => hfits c (by rw [hcalls]; simp [hc])
  have hs := runCalls_coherent hbefore hstart
  refine ⟨fun m version file h => ?_, gateHolds hs hcall hafter⟩
  rw [runCalls, List.foldl_append]
  exact step_versionFile hcall hs h

/-! A rainfall coefficient is promoted, a worse one rejected and a better one promoted. -/

def floodExtent : ModelName := ⟨"flood_extent", rfl⟩

def floodParams (coefficient : ℚ) : Params := Dict.empty.set "rainfall_coefficient" coefficient

def floodCheck (now : ℚ) (coefficient : ℚ) : Call :=
  .check ⟨now, "2026-07-25T12:00:00+00:00", now, now, fun _ => 0⟩ floodExtent
    (floodParams coefficient) (floodParams 3.2)
    [(Dict.empty.set "rainfall" 10).set "observed" 20]

def floodCalls : List Call :=
  [floodCheck 0 3, floodCheck 10 5, .load 20 floodExtent (floodParams 3.2), floodCheck 40 2]

theorem floodCalls_gate :
    promotedVersions floodExtent ⟨.empty, .empty⟩ floodCalls = [1, 2] ∧
      (promotedVersions floodExtent ⟨.empty, .empty⟩ floodCalls).Pairwise (· < ·) := by
  have hkeys : ∀ c, HasKeys ["rainfall_coefficient"] (floodParams c) := by
    intro c k
    by_cases hk : "rainfall_coefficient" = k
    · subst hk
      simp [floodParams, Dict.get?_set]
    · simp [floodParams, Dict.get?_set, hk, Ne.symm hk]
  have hfits : ∀ call ∈ floodCalls, call.Fits fun _ => ["rainfall_coefficient"] := by
    intro call hcall
    simp only [floodCalls, List.mem_cons, List.not_mem_nil, or_false] at hcall
    rcases hcall with rfl | rfl | rfl | rfl
    · exact ⟨hkeys _, hkeys _, by simp⟩
    · exact ⟨hkeys _, hkeys _, by simp⟩
    · exact hkeys _
    · exact ⟨hkeys _, hkeys _, by simp⟩
  exact ⟨by decide +kernel,
    (promotion_gate (fun _ => ["rainfall_coefficient"]) .empty floodCalls hfits).1 floodExtent⟩

end Calibration

end GaiaOS
