/-
What the calibration finds in what the ingestion stores.

The two jobs meet in the texts of one table.  The ingestion writes five kinds of rows; the
calibration looks for floods and storms among the events of the other sources, which are
earthquakes and unrest, and for a rate of spread in the details of satellite products, of which
only the name and the identifier are not fixed.  So floods and plumes are never calibrated, a fire
only by a product that is named after what it shows, and ENSO by the temperatures of the stations.
-/
import GaiaOS.Lib.Machine
import GaiaOS.Proofs.FittedBounds
import GaiaOS.Proofs.IngestionLoss
import GaiaOS.Proofs.PromotionGate
import GaiaOS.Workers.CalibrationJob

namespace GaiaOS

namespace CalibrationJob

open Calibration Ingestion Regex

/-! ### What the ingestion stores -/

/-- The details of a satellite product. -/
def productDetails (name id : String) : String :=
  "Copernicus Sentinel-2 Satellite Product '" ++ name ++
    "' | Provider: EU Copernicus Data Space | Original ID: " ++ id ++ " | Source URL: " ++
    ("https://catalogue.dataspace.copernicus.eu/odata/v1/Products(" ++ id ++ ")")

/-- An ingested row: earthquakes and unrest are all there is of the general hazards, and the
details of a product have the one form. -/
structure Ingested (rec : HazardEventRecord) : Prop where
  general : rec.source ∉ ["copernicus", "era5", "noaa"] →
    rec.eventType ∈ ["earthquake", "civil_unrest_hazard_adjacent"]
  product : rec.source = "copernicus" → ∃ name id, rec.details = productDetails name id

/-- Every record that is read has a property. -/
def Yields (P : HazardEventRecord → Prop) (x : Except PyError (Option HazardEventRecord)) : Prop :=
  ∀ rec, x = .ok (some rec) → P rec

namespace Yields

variable {P : HazardEventRecord → Prop} {α : Type}

theorem nothing : Yields P (.ok none) := by
  intro rec h
  cases h

theorem error (e : PyError) : Yields P (.error e) := by
  intro rec h
  cases h

theorem record {rec : HazardEventRecord} (h : P rec) : Yields P (.ok (some rec)) := by
  intro rec' h'
  cases h'
  exact h

theorem bind {x : Except PyError α} {f : α → Except PyError (Option HazardEventRecord)}
    (h : ∀ a, Yields P (f a)) : Yields P (x >>= f) := by
  intro rec hrec
  obtain ⟨a, -, ha⟩ := ok_of_bind hrec
  exact h a rec ha

theorem ite {c : Prop} [Decidable c] {x y : Except PyError (Option HazardEventRecord)}
    (h : Yields P x) (h' : Yields P y) : Yields P (if c then x else y) := by
  by_cases hc : c
  · simpa only [if_pos hc] using h
  · simpa only [if_neg hc] using h'

end Yields

section Adapters

variable {conv : Conversions}

theorem usgsRecord_ingested (feat : Json) : Yields Ingested (usgsRecord conv feat) := by
  unfold usgsRecord
  refine .bind fun _ => .bind fun _ => .bind fun _ => .bind fun _ => .ite .nothing ?_
  refine .bind fun _ => .ite .nothing ?_
  refine .bind fun _ => .bind fun _ => .bind fun _ => .bind fun _ => .bind fun _ => ?_
  refine .ite .nothing (.bind fun _ => .bind fun _ => .bind fun _ => .record ?_)
  exact ⟨fun _ => List.mem_cons_self, fun h => absurd h (by simp)⟩

theorem noaaRecord_ingested (now start : Int) (station : Station) (obs : Json) :
    Yields Ingested (noaaRecord conv now start station obs) := by
  unfold noaaRecord
  refine .ite .nothing (.bind fun _ => .bind fun _ => .ite .nothing (.ite .nothing (.record ?_)))
  exact ⟨fun h => absurd h (by simp), fun h => absurd h (by simp)⟩

theorem copernicusRecord_ingested (now start : Int) (bbox : Bbox) (prod : Json) :
    Yields Ingested (copernicusRecord conv now start bbox prod) := by
  unfold copernicusRecord
  refine .bind fun id => .bind fun name => .bind fun _ => .bind fun _ => .ite .nothing ?_
  refine .bind fun _ => .ite .nothing (.record ?_)
  exact ⟨fun h => absurd h (by simp), fun _ => ⟨conv.str name, conv.str id, rfl⟩⟩

theorem era5Record_ingested (now start : Int) (location : MonitoringLocation) (daily : Daily)
    (entry : Json × Nat) : Yields Ingested (era5Record conv now start location daily entry) := by
  unfold era5Record
  refine .ite .nothing (.bind fun _ => .bind fun _ => .bind fun _ => .record ?_)
  exact ⟨fun h => absurd h (by simp), fun h => absurd h (by simp)⟩

theorem gdeltRecord_ingested (nowAt : Nat → Int) (start : Int) (entry : Json × Nat) :
    Yields Ingested (gdeltRecord conv nowAt start entry) := by
  unfold gdeltRecord
  refine .bind fun _ => .bind fun _ => .bind fun _ => .bind fun _ => .bind fun _ => ?_
  refine .ite .nothing (.ite .nothing ?_)
  intro rec h
  split at h
  · cases h
    exact ⟨fun _ => by simp, fun h => absurd h (by simp)⟩
  · cases h

theorem fetchRecords_ingested {run : JobRun} {since : Option Int}
    {records : List HazardEventRecord} (h : fetchRecords conv run since = .ok records) :
    ∀ rec ∈ records, Ingested rec := by
  intro rec hrec
  unfold fetchRecords at h
  split_ifs at h
  · obtain ⟨value, -, h⟩ := ok_of_bind h
    obtain ⟨features, -, h⟩ := ok_of_bind h
    obtain ⟨feat, -, hfeat⟩ := mem_unguarded h hrec
    exact usgsRecord_ingested feat rec hfeat
  · cases h
    obtain ⟨station, loop, hfetch, hloop⟩ := mem_overLocations hrec
    obtain ⟨value, -, hfetch⟩ := ok_of_bind hfetch
    obtain ⟨obsList, -, hfetch⟩ := ok_of_bind hfetch
    split at hfetch
    · cases hfetch
      obtain ⟨obs, -, hobs⟩ := mem_appendLoop hloop
      exact noaaRecord_ingested _ _ station obs rec hobs
    · cases hfetch
      cases hloop
  · cases h
    obtain ⟨bbox, loop, hfetch, hloop⟩ := mem_overLocations hrec
    obtain ⟨value, -, hfetch⟩ := ok_of_bind hfetch
    obtain ⟨products, -, hfetch⟩ := ok_of_bind hfetch
    cases hfetch
    obtain ⟨prod, -, hprod⟩ := mem_appendLoop hloop
    exact copernicusRecord_ingested _ _ bbox prod rec hprod
  · cases h
    obtain ⟨location, loop, hfetch, hloop⟩ := mem_overLocations hrec
    obtain ⟨value, -, hfetch⟩ := ok_of_bind hfetch
    obtain ⟨daily, -, hfetch⟩ := ok_of_bind hfetch
    obtain ⟨times, -, hfetch⟩ := ok_of_bind hfetch
    obtain ⟨temps, -, hfetch⟩ := ok_of_bind hfetch
    obtain ⟨winds, -, hfetch⟩ := ok_of_bind hfetch
    obtain ⟨precips, -, hfetch⟩ := ok_of_bind hfetch
    obtain ⟨items, -, hfetch⟩ := ok_of_bind hfetch
    cases hfetch
    obtain ⟨entry, -, hentry⟩ := mem_appendLoop hloop
    exact era5Record_ingested _ _ location _ entry rec hentry
  · obtain ⟨value, -, h⟩ := ok_of_bind h
    obtain ⟨articles, -, h⟩ := ok_of_bind h
    obtain ⟨unsorted, hloop, h⟩ := ok_of_bind h
    cases h
    rw [List.mem_insertionSort] at hrec
    obtain ⟨entry, -, hentry⟩ := mem_unguarded hloop hrec
    exact gdeltRecord_ingested _ _ entry rec hentry

/-- A run of the ingestion stores rows of these kinds. -/
theorem job_ingested {tables : Tables} (h : ∀ rec ∈ tables.hazardEvents, Ingested rec)
    (run : JobRun) :
    ∀ rec ∈ (asyncRunIngestionJob conv run tables).2.hazardEvents, Ingested rec := by
  intro rec hrec
  rcases job_cases conv run tables with hsame | ⟨records, -, hcommits⟩
  · rw [hsame] at hrec
    exact h rec hrec
  · rw [job_of_commits hcommits] at hrec
    rcases mem_storeRecords _ hrec with hold | hnew
    · exact h rec hold
    · exact fetchRecords_ingested hcommits.fetched rec hnew

end Adapters

/-! ### What is found in a text -/

theorem reading_of_not_infix {label details : String} (h : ¬ label.toList <:+: details.toList) :
    reading label details = .ok none := by
  unfold reading
  cases hgroup : group1 (labelled label) details with
  | none => rfl
  | some text =>
      obtain ⟨word, hword, hinfix⟩ := word_infix_of_figure hgroup
      rw [eq_of_forall₂_literal hword] at hinfix
      exact absurd hinfix h

/-- An outcome is found only where its label is. -/
theorem label_infix_of_outcome {event : HazardRow} {outcomeType label : String} {obs : ℚ}
    (hlabel : outcomeLabel outcomeType = some label)
    (h : extractObservedOutcome event outcomeType = some obs) :
    ∃ details, event.details = some details ∧ label.toList <:+: details.toList := by
  unfold extractObservedOutcome at h
  split at h
  · cases h
  · rename_i details hdetails
    refine ⟨details, hdetails, ?_⟩
    by_contra hnot
    simp only [hlabel, reading_of_not_infix hnot] at h
    split_ifs at h

/-- The fixed texts in the details of a product, without the marks around the others. -/
def productTexts : List String :=
  ["Copernicus Sentinel-2 Satellite Product ",
    " | Provider: EU Copernicus Data Space | Original ID:",
    "| Source URL: https://catalogue.dataspace.copernicus.eu/odata/v1/Products"]

theorem toList_productDetails (name id : String) :
    (productDetails name id).toList =
      "Copernicus Sentinel-2 Satellite Product ".toList ++ '\'' :: (name.toList ++ '\'' ::
        (" | Provider: EU Copernicus Data Space | Original ID:".toList ++ ' ' ::
          (id.toList ++ ' ' ::
            ("| Source URL: https://catalogue.dataspace.copernicus.eu/odata/v1/Products".toList ++
              '(' :: (id.toList ++ ')' :: []))))) := by
  have hproduct : "Copernicus Sentinel-2 Satellite Product '".toList =
      "Copernicus Sentinel-2 Satellite Product ".toList ++ ['\''] := by decide +kernel
  have hprovider : "' | Provider: EU Copernicus Data Space | Original ID: ".toList =
      '\'' :: (" | Provider: EU Copernicus Data Space | Original ID:".toList ++ [' ']) := by
    decide +kernel
  have hurl : " | Source URL: ".toList ++
        "https://catalogue.dataspace.copernicus.eu/odata/v1/Products(".toList =
      ' ' :: ("| Source URL: https://catalogue.dataspace.copernicus.eu/odata/v1/Products".toList ++
        ['(']) := by
    decide +kernel
  have hend : ")".toList = [')'] := by decide +kernel
  unfold productDetails
  rw [String.toList_append, String.toList_append, String.toList_append, String.toList_append,
    String.toList_append, String.toList_append, String.toList_append, hproduct, hprovider, hend,
    List.append_assoc _ " | Source URL: ".toList, ← List.append_assoc " | Source URL: ".toList,
    ← List.append_assoc " | Source URL: ".toList, hurl]
  -- from here on the texts are not looked into
  generalize "Copernicus Sentinel-2 Satellite Product ".toList = product
  generalize " | Provider: EU Copernicus Data Space | Original ID:".toList = provider
  generalize "| Source URL: https://catalogue.dataspace.copernicus.eu/odata/v1/Products".toList = u
  simp

/-- A label that is in none of the fixed texts is in the details of a product only if it is in
its name or its identifier. -/
theorem infix_productDetails {label name id : String} (hne : label.toList ≠ [])
    (hmarks : ∀ c ∈ ['\'', ' ', '(', ')'], c ∉ label.toList)
    (hfixed : ∀ part ∈ productTexts, ¬ label.toList <:+: part.toList)
    (h : label.toList <:+: (productDetails name id).toList) :
    label.toList <:+: name.toList ∨ label.toList <:+: id.toList := by
  rw [toList_productDetails] at h
  simp only [productTexts, List.forall_mem_cons] at hmarks hfixed
  obtain ⟨hquote, hspace, hopen, hclose, -⟩ := hmarks
  obtain ⟨hproduct, hprovider, hurl, -⟩ := hfixed
  have h := (infix_of_append_separator hquote h).resolve_left hproduct
  rcases infix_of_append_separator hquote h with h | h
  · exact .inl h
  · have h := (infix_of_append_separator hspace h).resolve_left hprovider
    rcases infix_of_append_separator hspace h with h | h
    · exact .inr h
    · have h := (infix_of_append_separator hopen h).resolve_left hurl
      rcases infix_of_append_separator hclose h with h | h
      · exact .inr h
      · exact absurd (List.infix_nil.mp h) hne

/-! ### What there are samples of -/

/-- The details of a row have a label. -/
def HazardRow.tells (row : HazardRow) (label : String) : Prop :=
  ∃ details, row.details = some details ∧ label.toList <:+: details.toList

/-- The row tells no outcome of a fire, a flood or a plume. -/
def HazardRow.Quiet (row : HazardRow) : Prop :=
  ∀ outcomeType ∈ ["wildfire_spread", "flood_extent", "plume_dispersion"],
    ∀ label, outcomeLabel outcomeType = some label → ¬ row.tells label

/-- A product that is named after the rate of spread it shows. -/
def NamesSpread (rec : HazardEventRecord) : Prop :=
  rec.source = "copernicus" ∧ ∃ name id, rec.details = productDetails name id ∧
    ("observed_spread_rate:".toList <:+: name.toList ∨
      "observed_spread_rate:".toList <:+: id.toList)

/-- A station whose temperature can be read. -/
def HazardRow.measures (row : HazardRow) : Bool :=
  row.isOf "noaa" && (extractObservedOutcome row "enso_forecast").isSome

section Samples

variable {w : World} {allEvents : List HazardRow}

theorem World.lists.perm (h : w.lists allEvents = true) : allEvents.Perm w.rows :=
  List.isPerm_iff.mp (Bool.and_eq_true_iff.mp h).1

theorem World.lists.mem (h : w.lists allEvents = true) {row : HazardRow} (hrow : row ∈ allEvents) :
    row ∈ w.others ∨ ∃ rec ∈ w.tables.hazardEvents, ofRecord rec = row := by
  have hmem := (World.lists.perm h).mem_iff.mp hrow
  rw [World.rows, List.mem_append] at hmem
  exact hmem.imp_right List.mem_map.mp

/-- A general row with an ingested type is neither a flood nor a storm. -/
theorem Ingested.calm {rec : HazardEventRecord} (h : Ingested rec)
    (hgeneral : (ofRecord rec).isGeneral = true) :
    (ofRecord rec).isFlood = false ∧ (ofRecord rec).isWind = false := by
  have hsource : rec.source ∉ ["copernicus", "era5", "noaa"] := by
    simpa [HazardRow.isGeneral, HazardRow.isOf, ofRecord, and_assoc] using hgeneral
  have htype := h.general hsource
  have hcalm : ∀ eventType ∈ ["earthquake", "civil_unrest_hazard_adjacent"],
      pyIn "flood" (String.toLower eventType) = false ∧
        (["wind", "storm", "hurricane", "tornado"].any fun k =>
          pyIn k (String.toLower eventType)) = false := by
    decide +kernel
  exact hcalm rec.eventType htype

/-- The rows that were there and those that were ingested have nothing to tell of floods, of storms
and, but for the names of products, of fires. -/
structure World.Poor (w : World) : Prop where
  quiet : ∀ row ∈ w.others, row.Quiet
  ingested : ∀ rec ∈ w.tables.hazardEvents, Ingested rec

theorem HazardRow.Quiet.outcome {row : HazardRow} (h : row.Quiet) {outcomeType : String}
    (htype : outcomeType ∈ ["wildfire_spread", "flood_extent", "plume_dispersion"]) :
    extractObservedOutcome row outcomeType = none := by
  cases hobs : extractObservedOutcome row outcomeType with
  | none => rfl
  | some obs =>
      have hlabel : (outcomeLabel outcomeType).isSome = true := by
        simp only [List.mem_cons, List.not_mem_nil, or_false] at htype
        rcases htype with rfl | rfl | rfl
        all_goals rfl
      obtain ⟨label, hlabel⟩ := Option.isSome_iff_exists.mp hlabel
      exact absurd (label_infix_of_outcome hlabel hobs) (h outcomeType htype label hlabel)

theorem floodSamples_nil (hw : w.Poor) (hlists : w.lists allEvents = true)
    (era5Events : List HazardRow) :
    floodSamples (allEvents.filter HazardRow.isGeneral) era5Events = [] := by
  refine List.filterMap_eq_nil_iff.mpr fun row hrow => ?_
  rw [List.mem_filter, List.mem_filter] at hrow
  obtain ⟨⟨hrow, hgeneral⟩, hflood⟩ := hrow
  rcases World.lists.mem hlists hrow with hother | ⟨rec, hrec, rfl⟩
  · have hnone : extractObservedOutcome row "flood_extent" = none :=
      (hw.quiet row hother).outcome (by simp)
    simp [hnone]
  · rw [((hw.ingested rec hrec).calm hgeneral).1] at hflood
    cases hflood

theorem plumeSamples_nil (hw : w.Poor) (hlists : w.lists allEvents = true)
    (era5Events : List HazardRow) :
    plumeSamples (allEvents.filter HazardRow.isGeneral) era5Events = [] := by
  refine List.filterMap_eq_nil_iff.mpr fun row hrow => ?_
  rw [List.mem_filter, List.mem_filter] at hrow
  obtain ⟨⟨hrow, hgeneral⟩, hwind⟩ := hrow
  rcases World.lists.mem hlists hrow with hother | ⟨rec, hrec, rfl⟩
  · have hnone : extractObservedOutcome row "plume_dispersion" = none :=
      (hw.quiet row hother).outcome (by simp)
    simp [hnone]
  · rw [((hw.ingested rec hrec).calm hgeneral).2] at hwind
    cases hwind

/-- An ingested product that shows a rate of spread is named after it. -/
theorem Ingested.namesSpread {rec : HazardEventRecord} (h : Ingested rec)
    (hsource : (ofRecord rec).isOf "copernicus" = true) {obs : ℚ}
    (hobs : extractObservedOutcome (ofRecord rec) "wildfire_spread" = some obs) :
    NamesSpread rec := by
  have hsource : rec.source = "copernicus" := by
    simpa [HazardRow.isOf, ofRecord] using hsource
  obtain ⟨name, id, hdetails⟩ := h.product hsource
  obtain ⟨details, hsame, hlabel⟩ := label_infix_of_outcome rfl hobs
  cases hsame
  rw [hdetails] at hlabel
  refine ⟨hsource, name, id, hdetails, infix_productDetails ?_ ?_ ?_ hlabel⟩
  · decide +kernel
  · simp
  · decide +kernel

/-- There are no more samples of fires than products that are named after them. -/
theorem wildfireSamples_le (hw : w.Poor) (hlists : w.lists allEvents = true)
    (era5Events : List HazardRow) :
    ∃ products : List HazardEventRecord, products.Sublist w.tables.hazardEvents ∧
      (∀ rec ∈ products, NamesSpread rec) ∧
      (wildfireSamples (allEvents.filter (·.isOf "copernicus")) era5Events).length ≤
        products.length := by
  let shows (row : HazardRow) : Bool :=
    row.isOf "copernicus" && (extractObservedOutcome row "wildfire_spread").isSome
  refine ⟨w.tables.hazardEvents.filter fun rec => shows (ofRecord rec), List.filter_sublist, ?_, ?_⟩
  · intro rec hrec
    obtain ⟨hrec, hshows⟩ := List.mem_filter.mp hrec
    obtain ⟨hsource, hsome⟩ := Bool.and_eq_true_iff.mp hshows
    obtain ⟨obs, hobs⟩ := Option.isSome_iff_exists.mp hsome
    exact (hw.ingested rec hrec).namesSpread hsource hobs
  · have hothers : w.others.countP shows = 0 := by
      refine List.countP_eq_zero.mpr fun row hrow => ?_
      simp [shows, (hw.quiet row hrow).outcome]
    calc (wildfireSamples (allEvents.filter (·.isOf "copernicus")) era5Events).length
        ≤ (allEvents.filter (·.isOf "copernicus")).countP fun row =>
            (extractObservedOutcome row "wildfire_spread").isSome := by
          unfold wildfireSamples
          rw [List.length_filterMap_eq_countP]
          refine List.countP_mono_left fun row _ hsample => ?_
          cases hobs : extractObservedOutcome row "wildfire_spread" with
          | some obs => rfl
          | none => simp [hobs] at hsample
      _ = allEvents.countP shows := by
          rw [List.countP_filter]
          refine List.countP_congr fun row _ => ?_
          simp [shows, and_comm]
      _ = w.rows.countP shows := (World.lists.perm hlists).countP_eq shows
      _ = (w.tables.hazardEvents.filter fun rec => shows (ofRecord rec)).length := by
          rw [World.rows, List.countP_append, hothers, Nat.zero_add, List.countP_map,
            ← List.countP_eq_length_filter]
          rfl

theorem ensoSamples_length (hlists : w.lists allEvents = true) :
    (ensoSamples (allEvents.filter (·.isOf "noaa"))).length = w.rows.countP HazardRow.measures := by
  unfold ensoSamples
  rw [List.length_filterMap_eq_countP, List.countP_filter,
    ← (World.lists.perm hlists).countP_eq HazardRow.measures]
  refine List.countP_congr fun row _ => ?_
  simp [HazardRow.measures, and_comm]

end Samples

/-! ### What a calibration changes -/

/-- The keys of the defaults of a model. -/
def modelKeys (modelName : ModelName) : List String :=
  if modelName = wildfireSpread then wildfireDefaults.keys
  else if modelName = floodExtent then floodFit.defaults.keys
  else if modelName = plumeDispersion then plumeFit.defaults.keys
  else ensoDefaults.keys

theorem hasKeys_self (p : Params) : HasKeys p.keys p := fun _ => p.mem_keys_iff.symm

theorem hasKeys_wildfire : HasKeys (modelKeys wildfireSpread) wildfireDefaults := hasKeys_self _

theorem hasKeys_flood : HasKeys (modelKeys floodExtent) floodFit.defaults := hasKeys_self _

theorem hasKeys_plume : HasKeys (modelKeys plumeDispersion) plumeFit.defaults := hasKeys_self _

theorem hasKeys_enso : HasKeys (modelKeys ensoForecast) ensoDefaults := hasKeys_self _

/-- What the calibration of a model leaves: the other models have the parameters they had, and
without enough samples nothing has changed. -/
structure Calibrated (modelName : ModelName) (count : Nat) (before after : Progress)
    (raised : Option PyError) : Prop where
  coherent : Coherent modelKeys after.store
  others : ∀ m, m ≠ modelName → ∀ defaults,
    active after.store.files m defaults = active before.store.files m defaults
  idle : count < minCalibrationSamples → after.store.files = before.store.files
  entry : raised = none → ∃ entry, after.summary = before.summary ++ [(modelName, entry)] ∧
    (entry ≠ .insufficientData ↔ minCalibrationSamples ≤ count)

section Stages

variable {run : CalibrationRun} {progress : Progress}

theorem calibrate_spec {S : Type} {modelName : ModelName} {defaults : Params}
    {fit : List S → List S → Params × ℚ} {toParams : S → Params} {samples : List S}
    (hdefaults : HasKeys (modelKeys modelName) defaults)
    (hcoherent : Coherent modelKeys progress.store) :
    let result := calibrate run modelName defaults fit toParams samples progress
    Calibrated modelName samples.length progress result.1 result.2 := by
  dsimp only
  unfold calibrate
  by_cases henough : minCalibrationSamples ≤ samples.length
  · rw [if_pos henough]
    dsimp only
    generalize run.shuffle.run samples = shuffled
    generalize (fit (shuffled.take (trainCount shuffled.length))
      (shuffled.drop (trainCount shuffled.length))).1 = fittedParams
    obtain ⟨hafter, hresult⟩ := check_cases (run.promotion modelName) fittedParams
      ((shuffled.drop (trainCount shuffled.length)).map toParams) hcoherent hdefaults
    generalize checkAndPromoteParameters (run.promotion modelName) modelName fittedParams defaults
      ((shuffled.drop (trainCount shuffled.length)).map toParams) progress.store = checked at *
    obtain ⟨reply, store⟩ := checked
    have hothers : ∀ m, m ≠ modelName → ∀ d,
        active store.files m d = active progress.store.files m d := by
      intro m hm d
      refine active_congr ?_
      rcases hresult with ⟨-, hfiles⟩ | ⟨r, -, -, -, -, ⟨-, hfiles⟩ | ⟨-, -, s', hs', hstore⟩⟩
      · exact congrArg (Dict.get? · (latestFile m)) hfiles
      · exact congrArg (Dict.get? · (latestFile m)) hfiles
      · have hne : latestFile modelName ≠ latestFile m := fun h => hm (latestFile_inj h).symm
        rw [show store = _ from hstore, promote_other (versionFile_ne_latestFile _ _ _) hne, hs']
    cases reply with
    | error e => exact ⟨hafter, hothers, fun h => absurd henough (by omega), fun h => by cases h⟩
    | ok r =>
        refine ⟨hafter, hothers, fun h => absurd henough (by omega), fun _ => ⟨_, rfl, ?_⟩⟩
        simp [henough]
  · rw [if_neg henough]
    refine ⟨hcoherent, fun _ _ _ => rfl, fun _ => rfl, fun _ => ⟨_, rfl, ?_⟩⟩
    simpa using henough

theorem wildfire_apart : wildfireSpread ≠ floodExtent ∧ wildfireSpread ≠ plumeDispersion := by
  decide

theorem enso_apart : ensoForecast ≠ floodExtent ∧ ensoForecast ≠ plumeDispersion := by
  decide

/-- What the four calibrations leave of the models without samples. -/
structure Starved (store after : ParameterStore) : Prop where
  coherent : Coherent modelKeys after
  flood : ∀ defaults, active after.files floodExtent defaults =
    active store.files floodExtent defaults
  plume : ∀ defaults, active after.files plumeDispersion defaults =
    active store.files plumeDispersion defaults

theorem Starved.refl {store : ParameterStore} (h : Coherent modelKeys store) :
    Starved store store := ⟨h, fun _ => rfl, fun _ => rfl⟩

theorem Starved.trans {store between after : ParameterStore} (h : Starved store between)
    (h' : Starved between after) : Starved store after where
  coherent := h'.coherent
  flood defaults := (h'.flood defaults).trans (h.flood defaults)
  plume defaults := (h'.plume defaults).trans (h.plume defaults)

/-- A calibration that has no samples, or is of another model, starves both. -/
theorem Calibrated.starved {modelName : ModelName} {count : Nat} {before after : Progress}
    {raised : Option PyError} (h : Calibrated modelName count before after raised)
    (hmodel : count = 0 ∨ modelName ≠ floodExtent ∧ modelName ≠ plumeDispersion) :
    Starved before.store after.store := by
  rcases hmodel with rfl | ⟨hflood, hplume⟩
  · have hfiles := h.idle (by decide)
    exact ⟨h.coherent, fun _ => by rw [hfiles], fun _ => by rw [hfiles]⟩
  · exact ⟨h.coherent, h.others _ hflood.symm, h.others _ hplume.symm⟩

/-- The stage is the calibration of a model with so many samples. -/
def IsCalibration (stage : Progress → Progress × Option PyError) (model : ModelName × Nat) : Prop :=
  ∀ progress, Coherent modelKeys progress.store →
    Calibrated model.1 model.2 progress (stage progress).1 (stage progress).2

/-- The entry of a model, calibrated if there are the samples. -/
def IsEntry (model : ModelName × Nat) (entry : ModelName × ModelSummary) : Prop :=
  entry.1 = model.1 ∧ (entry.2 ≠ .insufficientData ↔ minCalibrationSamples ≤ model.2)

/-- Calibrations one after the other, of which those of floods and plumes have no samples. -/
theorem inSequence_spec {stages : List (Progress → Progress × Option PyError)}
    {models : List (ModelName × Nat)} (hstages : List.Forall₂ IsCalibration stages models)
    (hmodels : ∀ model ∈ models,
      model.2 = 0 ∨ model.1 ≠ floodExtent ∧ model.1 ≠ plumeDispersion) :
    ∀ progress : Progress, Coherent modelKeys progress.store →
      let result := inSequence stages progress
      Starved progress.store result.1.store ∧ (result.2 = none → ∃ entries,
        result.1.summary = progress.summary ++ entries ∧ List.Forall₂ IsEntry models entries) := by
  induction hstages with
  | nil =>
      intro progress hcoherent
      exact ⟨.refl hcoherent, fun _ => ⟨[], (List.append_nil _).symm, .nil⟩⟩
  | @cons stage model stages models hstage hstages ih =>
      intro progress hcoherent
      have hspec := hstage progress hcoherent
      have hstarved := hspec.starved (hmodels model List.mem_cons_self)
      dsimp only [inSequence]
      generalize stage progress = result at *
      obtain ⟨after, raised⟩ := result
      cases raised with
      | some e => exact ⟨hstarved, fun h => by cases h⟩
      | none =>
          obtain ⟨entry, hsummary, hentry⟩ := hspec.entry rfl
          obtain ⟨hrest, hentries⟩ :=
            ih (fun m hm => hmodels m (List.mem_cons_of_mem _ hm)) after hspec.coherent
          refine ⟨hstarved.trans hrest, fun h => ?_⟩
          obtain ⟨entries, happend, hall⟩ := hentries h
          refine ⟨(model.1, entry) :: entries, ?_, .cons ⟨rfl, hentry⟩ hall⟩
          rw [happend, show after.summary = _ from hsummary, List.append_assoc]
          rfl

/-- The summary of a job on starved data: the two entries in the middle are fixed, and the others
are calibrated if they have the samples. -/
def StarvedSummary (wildfireCount ensoCount : Nat) (summary : List (ModelName × ModelSummary)) :
    Prop :=
  ∃ wildfire enso, summary = [(wildfireSpread, wildfire), (floodExtent, .insufficientData),
      (plumeDispersion, .insufficientData), (ensoForecast, enso)] ∧
    (wildfire ≠ .insufficientData ↔ minCalibrationSamples ≤ wildfireCount) ∧
    (enso ≠ .insufficientData ↔ minCalibrationSamples ≤ ensoCount)

theorem starvedSummary_of_entries {wildfireCount ensoCount : Nat}
    {entries : List (ModelName × ModelSummary)}
    (h : List.Forall₂ IsEntry [(wildfireSpread, wildfireCount), (floodExtent, 0),
      (plumeDispersion, 0), (ensoForecast, ensoCount)] entries) :
    StarvedSummary wildfireCount ensoCount entries := by
  have hidle : ∀ {entry : ModelSummary},
      (entry ≠ .insufficientData ↔ minCalibrationSamples ≤ 0) → entry = .insufficientData := by
    intro entry hentry
    by_contra hne
    exact absurd (hentry.mp hne) (by decide)
  cases h with | @cons _ wildfire _ _ hwildfire h =>
  cases h with | @cons _ flood _ _ hflood h =>
  cases h with | @cons _ plume _ _ hplume h =>
  cases h with | @cons _ enso _ _ henso h =>
  cases h
  obtain ⟨name₁, wildfire⟩ := wildfire
  obtain ⟨name₂, flood⟩ := flood
  obtain ⟨name₃, plume⟩ := plume
  obtain ⟨name₄, enso⟩ := enso
  obtain ⟨rfl, hwildfire⟩ := hwildfire
  obtain ⟨rfl, hflood⟩ := hflood
  obtain ⟨rfl, hplume⟩ := hplume
  obtain ⟨rfl, henso⟩ := henso
  obtain rfl := hidle hflood
  obtain rfl := hidle hplume
  exact ⟨wildfire, enso, rfl, hwildfire, henso⟩

variable {w : World} {allEvents : List HazardRow}

theorem stages_calibrate (run : CalibrationRun) (hw : w.Poor) (hlists : w.lists allEvents = true) :
    List.Forall₂ IsCalibration (stages run allEvents)
      [(wildfireSpread, (wildfireSamples (allEvents.filter (·.isOf "copernicus"))
          (allEvents.filter (·.isOf "era5"))).length), (floodExtent, 0), (plumeDispersion, 0),
        (ensoForecast, w.rows.countP HazardRow.measures)] := by
  have hflood : IsCalibration (calibrateFlood run (allEvents.filter HazardRow.isGeneral)
      (allEvents.filter (·.isOf "era5"))) (floodExtent, (floodSamples
        (allEvents.filter HazardRow.isGeneral) (allEvents.filter (·.isOf "era5"))).length) :=
    fun _ h => calibrate_spec hasKeys_flood h
  have hplume : IsCalibration (calibratePlume run (allEvents.filter HazardRow.isGeneral)
      (allEvents.filter (·.isOf "era5"))) (plumeDispersion, (plumeSamples
        (allEvents.filter HazardRow.isGeneral) (allEvents.filter (·.isOf "era5"))).length) :=
    fun _ h => calibrate_spec hasKeys_plume h
  rw [floodSamples_nil hw hlists] at hflood
  rw [plumeSamples_nil hw hlists] at hplume
  rw [← ensoSamples_length hlists]
  exact .cons (fun _ h => calibrate_spec hasKeys_wildfire h) (.cons hflood (.cons hplume
    (.cons (fun _ h => calibrate_spec hasKeys_enso h) .nil)))

/-- What a job on starved data leaves and reports. -/
theorem job_spec (run : CalibrationRun) (hw : w.Poor) (hlists : w.lists allEvents = true)
    (hcoherent : Coherent modelKeys w.store) :
    let outcome := asyncRunCalibrationJob run allEvents w.store
    Starved w.store outcome.store ∧ ∀ summary, outcome.summary = .ok summary →
      StarvedSummary (wildfireSamples (allEvents.filter (·.isOf "copernicus"))
        (allEvents.filter (·.isOf "era5"))).length (w.rows.countP HazardRow.measures) summary := by
  have hmodels : ∀ model ∈ [(wildfireSpread, (wildfireSamples
      (allEvents.filter (·.isOf "copernicus")) (allEvents.filter (·.isOf "era5"))).length),
        (floodExtent, 0), (plumeDispersion, 0),
        (ensoForecast, w.rows.countP HazardRow.measures)],
      model.2 = 0 ∨ model.1 ≠ floodExtent ∧ model.1 ≠ plumeDispersion := by
    refine List.forall_mem_cons.mpr ⟨.inr wildfire_apart, List.forall_mem_cons.mpr ⟨.inl rfl, ?_⟩⟩
    exact List.forall_mem_cons.mpr ⟨.inl rfl, List.forall_mem_singleton.mpr (.inr enso_apart)⟩
  obtain ⟨hstarved, hentries⟩ := inSequence_spec (stages_calibrate run hw hlists) hmodels
    { store := w.store } hcoherent
  dsimp only
  unfold asyncRunCalibrationJob
  by_cases hsession : run.sessionFactory = false
  · rw [if_pos hsession]
    exact ⟨.refl hcoherent, fun summary h => by cases h⟩
  · rw [if_neg hsession]
    cases run.selectError with
    | some e => exact ⟨.refl hcoherent, fun summary h => by cases h⟩
    | none =>
        dsimp only
        generalize inSequence (stages run allEvents) { store := w.store } = result at *
        obtain ⟨progress, raised⟩ := result
        cases raised with
        | some e => exact ⟨hstarved, fun summary h => by cases h⟩
        | none =>
            cases run.commitError with
            | some e => exact ⟨hstarved, fun summary h => by cases h⟩
            | none =>
                refine ⟨hstarved, fun summary h => ?_⟩
                obtain ⟨entries, hsummary, hall⟩ := hentries rfl
                cases h
                rw [show progress.summary = _ from hsummary]
                exact starvedSummary_of_entries hall

end Stages

/-! ### Runs -/

section Runs

variable {conv : Conversions} {others : List HazardRow} {files : Dict String ConfigFile}
  {w w' : World} {events : List Event}

/-- Before anything is ingested. -/
def start (others : List HazardRow) (files : Dict String ConfigFile) : World where
  tables := ⟨[], .empty, List.nodup_nil⟩
  others := others
  store := ⟨files, .empty⟩

/-- A simulation asks for the parameters of its model under their names. -/
def Allowed (_ : World) : Event → Prop
  | .load _ modelName defaults => HasKeys (modelKeys modelName) defaults
  | _ => True

/-- The data stays poor and the models without samples keep what they had. -/
structure Starving (store : ParameterStore) (w : World) : Prop where
  poor : w.Poor
  starved : Starved store w.store

theorem Starving.step {store : ParameterStore} {event : Event} (h : Starving store w)
    (hallowed : Allowed w event) (hstep : step conv w event = some w') : Starving store w' := by
  cases event with
  | ingest run =>
      cases hstep
      exact ⟨⟨h.poor.quiet, job_ingested h.poor.ingested run⟩, h.starved⟩
  | calibrate run allEvents =>
      simp only [CalibrationJob.step] at hstep
      split_ifs at hstep with hlists
      cases hstep
      have hjob := (job_spec run h.poor hlists h.starved.coherent).1
      exact ⟨⟨h.poor.quiet, h.poor.ingested⟩, h.starved.trans hjob⟩
  | load now modelName defaults =>
      cases hstep
      obtain ⟨-, hfiles, hcoherent⟩ := load_spec now h.starved.coherent hallowed
      refine ⟨⟨h.poor.quiet, h.poor.ingested⟩, h.starved.trans ⟨hcoherent, ?_, ?_⟩⟩
      · intro d
        rw [hfiles]
      · intro d
        rw [hfiles]

theorem starving_of_runs (hquiet : ∀ row ∈ others, row.Quiet)
    (h : Reaches (step conv) Allowed (start others files) events w) :
    Starving ⟨files, .empty⟩ w := by
  refine h.invariant ?_ fun w event w' hw hallowed hstep => hw.step hallowed hstep
  refine ⟨⟨hquiet, fun rec hrec => by cases hrec⟩, .refl ?_⟩
  intro modelName cached hcached
  cases hcached

/-- **What the calibration can learn from the ingestion**: after any run of ingestions,
calibrations and simulations, a job skips floods and plumes, calibrates fires only if five stored
products are named after their rate of spread, and ENSO if five stations have been read; and
floods and plumes are simulated with the parameters of the first day. -/
theorem starved_of_runs (hquiet : ∀ row ∈ others, row.Quiet)
    (h : Reaches (step conv) Allowed (start others files) events w) (run : CalibrationRun)
    {allEvents : List HazardRow} (hlists : w.lists allEvents = true) :
    let outcome := asyncRunCalibrationJob run allEvents w.store
    (∀ summary, outcome.summary = .ok summary →
      ∃ wildfire enso, summary = [(wildfireSpread, wildfire), (floodExtent, .insufficientData),
          (plumeDispersion, .insufficientData), (ensoForecast, enso)] ∧
        (wildfire ≠ .insufficientData → ∃ products : List HazardEventRecord,
          products.Sublist w.tables.hazardEvents ∧ (∀ rec ∈ products, NamesSpread rec) ∧
            5 ≤ products.length) ∧
        (enso ≠ .insufficientData ↔ 5 ≤ w.rows.countP HazardRow.measures)) ∧
    ∀ modelName ∈ [floodExtent, plumeDispersion], ∀ now defaults,
      HasKeys (modelKeys modelName) defaults →
        Same (loadCalibratedParameters now modelName defaults outcome.store).1
          (active files modelName defaults) := by
  intro outcome
  obtain ⟨hpoor, hstarved⟩ := starving_of_runs hquiet h
  obtain ⟨hjob, hsummary⟩ := job_spec run hpoor hlists hstarved.coherent
  refine ⟨fun summary hok => ?_, fun modelName hmodel now defaults hdefaults => ?_⟩
  · obtain ⟨wildfire, enso, hentries, hwildfire, henso⟩ := hsummary summary hok
    obtain ⟨products, hsublist, hnames, hle⟩ :=
      wildfireSamples_le hpoor hlists (allEvents.filter (·.isOf "era5"))
    exact ⟨wildfire, enso, hentries, fun hne =>
      ⟨products, hsublist, hnames, (hwildfire.mp hne).trans hle⟩, henso⟩
  · have hload := (load_spec now hjob.coherent hdefaults).params
    simp only [List.mem_cons, List.not_mem_nil, or_false] at hmodel
    rcases hmodel with rfl | rfl
    · rw [hjob.flood, hstarved.flood] at hload
      exact hload
    · rw [hjob.plume, hstarved.plume] at hload
      exact hload

/-- Conversions that read no time, so that what is read is dated now. -/
def sampleConversions : Conversions where
  repr _ := ""
  float _ := .error (.typeError "float() argument must be a string or a real number")
  fromtimestamp _ := .error (.typeError "unsupported operand type(s)")
  strptime _ _ := none
  fromisoformat _ := none
  sha256 text := text

/-- New York is read five times, without the day. -/
def newYorkReadings : JobRun where
  source := "noaa"
  clients :=
    { usgs _ := .ok none
      noaa station := .ok (if station.city = "New York" then some (.obj [("data", .arr
        (["12:00", "12:06", "12:12", "12:18", "12:24"].map fun t =>
          .obj [("t", .str t), ("v", .str "18.5")]))]) else none)
      copernicus _ := .ok none
      era5 _ _ _ := .ok none
      gdelt _ := .ok none }
  now := 1784981400000000
  nowAt _ := 1784981400000000

/-- A flood that was there before, of the year 2023. -/
def seededFlood : HazardRow where
  source := none
  eventType := "flood"
  regionLabel := some "Tokyo"
  eventDate := 1693612800000000
  details := some "River overflow inundates low-lying residential regions."

theorem seededFlood_quiet : ∀ row ∈ [seededFlood], row.Quiet := by
  intro row hrow outcomeType htype label hlabel
  obtain rfl := List.mem_singleton.mp hrow
  rintro ⟨details, hdetails, hinfix⟩
  cases hdetails
  revert hinfix
  simp only [List.mem_cons, List.not_mem_nil, or_false] at htype
  rcases htype with rfl | rfl | rfl
  all_goals
    cases hlabel
    decide +kernel

def afterReadings : World :=
  { start [seededFlood] .empty with
    tables := (asyncRunIngestionJob sampleConversions newYorkReadings
      (start [seededFlood] .empty).tables).2 }

theorem reaches_afterReadings :
    Reaches (step sampleConversions) Allowed (start [seededFlood] .empty) [.ingest newYorkReadings]
      afterReadings :=
  Reaches.head trivial rfl .start

def sampleCalibration : CalibrationRun where
  promotion _ := ⟨0, "2026-07-25T12:30:00+00:00", 0, 0, fun _ => 0⟩
  shuffle := ⟨List.range, fun _ => .refl _⟩
  sqrt x := x

/-- The flood is skipped and ENSO is calibrated. -/
theorem afterReadings_starved :
    ∃ summary, (asyncRunCalibrationJob sampleCalibration afterReadings.rows
        afterReadings.store).summary = .ok summary ∧
      (floodExtent, .insufficientData) ∈ summary ∧ (ensoForecast, .insufficientData) ∉ summary := by
  have hlists : afterReadings.lists afterReadings.rows = true := by decide +kernel
  have hcount : afterReadings.rows.countP HazardRow.measures = 5 := by decide +kernel
  have hok : (asyncRunCalibrationJob sampleCalibration afterReadings.rows
      afterReadings.store).summary.isOk = true := by decide +kernel
  have hstarved := (starved_of_runs seededFlood_quiet reaches_afterReadings sampleCalibration
    hlists).1
  generalize (asyncRunCalibrationJob sampleCalibration afterReadings.rows
    afterReadings.store).summary = reply at *
  cases reply with
  | error e => cases hok
  | ok summary =>
      obtain ⟨wildfire, enso, rfl, -, henso⟩ := hstarved summary rfl
      have hcalibrated : enso ≠ .insufficientData := henso.mpr hcount.ge
      have hwildfire : ensoForecast ≠ wildfireSpread := by decide
      refine ⟨_, rfl, by simp, ?_⟩
      simp [hcalibrated.symm, hwildfire, enso_apart]

end Runs

/-! ### ENSO after few readings -/

section Few

theorem sampleItem_enso (s : EnsoSample ℚ) :
    sampleItem (ensoParams s) "sst_anomaly" = .ok s.sstAnomaly := rfl

/-- The samples that thresholds place differently from the default ones. -/
def misplaced (nino nina : ℚ) (samples : List (EnsoSample ℚ)) : Nat :=
  samples.countP fun s => ensoState nino nina s.sstAnomaly ≠ ensoState 0.5 (-0.5) s.sstAnomaly

theorem foldlM_misplaced (nino nina : ℚ) (samples : List (EnsoSample ℚ)) (start : Nat) :
    (samples.map ensoParams).foldlM (fun (mismatches : Nat) s => do
      let anom ← sampleItem s "sst_anomaly"
      let gt := ensoState 0.5 (-0.5) anom
      let pred := ensoState nino nina anom
      pure (if pred ≠ gt then mismatches + 1 else mismatches)) start =
    (.ok (start + misplaced nino nina samples) : Except PyError Nat) := by
  induction samples generalizing start with
  | nil => rfl
  | cons s samples ih =>
      rw [List.map_cons, List.foldlM_cons, sampleItem_enso, misplaced, List.countP_cons]
      show (samples.map ensoParams).foldlM _ _ = _
      rw [ih]
      by_cases hplace : ensoState nino nina s.sstAnomaly = ensoState 0.5 (-0.5) s.sstAnomaly
      · simp [hplace, misplaced]
      · simp only [ne_eq, hplace, not_false_eq_true, if_true, decide_true, misplaced]
        congr 1
        omega

/-- The score of thresholds is not negative, and that of the default ones is zero. -/
theorem evaluate_enso (parameters : Params) (valSamples : List (EnsoSample ℚ)) :
    ∃ q : ℚ, evaluateParameters "enso_forecast" parameters (valSamples.map ensoParams) =
      .ok (.rational q) ∧ 0 ≤ q ∧ (parameters = ensoDefaults → q = 0) := by
  unfold evaluateParameters
  by_cases hempty : (valSamples.map ensoParams).isEmpty = true
  · rw [if_pos hempty]
    exact ⟨0, rfl, le_rfl, fun _ => rfl⟩
  · rw [if_neg hempty, if_neg (by decide), if_neg (by decide), if_neg (by decide), if_pos rfl]
    dsimp only
    rw [foldlM_misplaced]
    refine ⟨_, rfl, by positivity, ?_⟩
    rintro rfl
    have hnino : (ensoDefaults.get? "el_nino_threshold").getD 0.5 = 0.5 := rfl
    have hnina : (ensoDefaults.get? "la_nina_threshold").getD (-0.5) = -0.5 := rfl
    rw [hnino, hnina]
    simp [misplaced]

/-- The default thresholds are always promoted. -/
theorem promotes_defaults (ctx : PromotionContext) (valSamples : List (EnsoSample ℚ))
    (store : ParameterStore) :
    let result := checkAndPromoteParameters ctx ensoForecast ensoDefaults ensoDefaults
      (valSamples.map ensoParams) store
    (∃ version score, result.1 = .ok ⟨true, version, score, .rational 0⟩) ∧
      ∀ defaults, HasKeys (modelKeys ensoForecast) defaults →
        Same (active result.2.files ensoForecast defaults) ensoDefaults := by
  dsimp only
  unfold checkAndPromoteParameters
  generalize loadCalibratedParameters ctx.now ensoForecast ensoDefaults store = loaded
  obtain ⟨current, store⟩ := loaded
  obtain ⟨q, hcurrent, hq, -⟩ := evaluate_enso current valSamples
  obtain ⟨zero, hnew, -, hzero⟩ := evaluate_enso ensoDefaults valSamples
  obtain rfl := hzero rfl
  have hle : (Surd.rational 0).le (.rational q) = true := decide_eq_true hq
  have htext : ensoForecast.text = "enso_forecast" := rfl
  simp only [htext, hcurrent, hnew, hle, if_true]
  refine ⟨⟨_, _, rfl⟩, fun defaults hdefaults => ?_⟩
  exact active_promote hasKeys_enso hdefaults

variable {run : CalibrationRun} {progress : Progress}

theorem Shuffle.length_run {S : Type} (shuffle : Shuffle) (samples : List S) :
    (shuffle.run samples).length = samples.length := by
  have hperm := shuffle.perm samples.length
  unfold Shuffle.run
  rw [List.length_filterMap_eq_countP, hperm.countP_eq, List.countP_eq_length.mpr,
    List.length_range]
  intro i hi
  simpa using List.mem_range.mp hi

/-- Five or six samples leave four to fit to, which is too few: the defaults are what is fitted. -/
theorem calibrateEnso_few {noaaEvents : List HazardRow}
    (hfew : (ensoSamples noaaEvents).length = 5 ∨ (ensoSamples noaaEvents).length = 6) :
    let result := calibrateEnso run noaaEvents progress
    result.2 = none ∧
      (∃ version, result.1.summary =
        progress.summary ++ [(ensoForecast, .calibrated true version (.rational 0))]) ∧
      result.1.metrics = progress.metrics ++ [.calibrationCompleted "enso_forecast" true] ∧
      ∀ defaults, HasKeys (modelKeys ensoForecast) defaults →
        Same (active result.1.store.files ensoForecast defaults) ensoDefaults := by
  have hlength := Shuffle.length_run run.shuffle (ensoSamples noaaEvents)
  dsimp only
  unfold calibrateEnso calibrate
  rw [if_pos (by unfold minCalibrationSamples; omega)]
  dsimp only
  generalize run.shuffle.run (ensoSamples noaaEvents) = shuffled at *
  have hfit : fitEnsoForecast run.sqrt (shuffled.take (trainCount shuffled.length))
      (shuffled.drop (trainCount shuffled.length)) = (ensoDefaults, 1) := by
    unfold fitEnsoForecast
    rw [if_pos]
    rw [List.length_take, trainCount]
    omega
  obtain ⟨⟨version, score, hresult⟩, hactive⟩ := promotes_defaults (run.promotion ensoForecast)
    (shuffled.drop (trainCount shuffled.length)) progress.store
  rw [hfit]
  generalize checkAndPromoteParameters (run.promotion ensoForecast) ensoForecast ensoDefaults
    ensoDefaults ((shuffled.drop (trainCount shuffled.length)).map ensoParams) progress.store =
      checked at *
  obtain ⟨reply, store⟩ := checked
  obtain rfl : reply = _ := hresult
  exact ⟨rfl, ⟨version, rfl⟩, rfl, hactive⟩

theorem rmse_ok {predict : Params → Except PyError ℚ} {valSamples : List Params}
    (h : ∀ s ∈ valSamples, (∃ observed, sampleItem s "observed" = .ok observed) ∧
      ∃ predicted, predict s = .ok predicted) :
    ∃ score, rmse predict valSamples = .ok score := by
  have hfold : ∃ se : ℚ≥0, (valSamples.foldlM (fun se s => do
      let observed ← sampleItem s "observed"
      let predicted ← predict s
      pure (se + ⟨(observed - predicted) ^ 2, sq_nonneg _⟩)) 0 : Except PyError ℚ≥0) = .ok se := by
    refine foldlM_completes 0 fun s hs se => ?_
    obtain ⟨⟨observed, hobserved⟩, predicted, hpredicted⟩ := h s hs
    rw [hobserved, hpredicted]
    exact ⟨_, rfl⟩
  obtain ⟨se, hse⟩ := hfold
  unfold rmse
  rw [hse]
  exact ⟨_, rfl⟩

theorem sampleItem_wildfire (s : WildfireSample ℚ) :
    sampleItem (wildfireParams s) "wind_speed" = .ok s.windSpeed ∧
      sampleItem (wildfireParams s) "temperature" = .ok s.temperature ∧
      sampleItem (wildfireParams s) "observed" = .ok s.observed := ⟨rfl, rfl, rfl⟩

/-- Samples of fires can be scored under any parameters. -/
theorem evaluate_wildfire (parameters : Params) (valSamples : List (WildfireSample ℚ)) :
    ∃ score, evaluateParameters "wildfire_spread" parameters (valSamples.map wildfireParams) =
      .ok score := by
  unfold evaluateParameters
  by_cases hempty : (valSamples.map wildfireParams).isEmpty = true
  · rw [if_pos hempty]
    exact ⟨_, rfl⟩
  · rw [if_neg hempty, if_pos rfl]
    refine rmse_ok fun item hitem => ?_
    obtain ⟨s, -, rfl⟩ := List.mem_map.mp hitem
    obtain ⟨hwind, htemp, hobserved⟩ := sampleItem_wildfire s
    rw [hwind, htemp]
    exact ⟨⟨_, hobserved⟩, ⟨_, rfl⟩⟩

theorem calibrateWildfire_ok (copernicusEvents era5Events : List HazardRow) :
    (calibrateWildfire run copernicusEvents era5Events progress).2 = none := by
  unfold calibrateWildfire calibrate
  split
  · dsimp only
    unfold checkAndPromoteParameters
    dsimp only
    generalize (run.shuffle.run (wildfireSamples copernicusEvents era5Events)).drop _ = val
    generalize (fitWildfireSpread run.sqrt _ val).1 = fitted
    generalize loadCalibratedParameters _ wildfireSpread wildfireDefaults progress.store = loaded
    obtain ⟨score, hscore⟩ := evaluate_wildfire loaded.1 val
    obtain ⟨score', hscore'⟩ := evaluate_wildfire fitted val
    have htext : wildfireSpread.text = "wildfire_spread" := rfl
    rw [htext, hscore, hscore']
  · rfl

theorem inSequence_cons {stage : Progress → Progress × Option PyError}
    {stages : List (Progress → Progress × Option PyError)} (h : (stage progress).2 = none) :
    inSequence (stage :: stages) progress = inSequence stages (stage progress).1 := by
  rw [inSequence]
  generalize stage progress = result at *
  obtain ⟨after, raised⟩ := result
  obtain rfl : raised = none := h
  rfl

/-- The calibrations before that of ENSO go through on starved data. -/
theorem stages_to_enso {w : World} {allEvents : List HazardRow} (hw : w.Poor)
    (hlists : w.lists allEvents = true) :
    ∃ before, inSequence (stages run allEvents) progress =
      inSequence [calibrateEnso run (allEvents.filter (·.isOf "noaa"))] before := by
  unfold stages
  dsimp only
  rw [inSequence_cons (calibrateWildfire_ok _ _)]
  have hflood : ∀ p, (calibrateFlood run (allEvents.filter HazardRow.isGeneral)
      (allEvents.filter (·.isOf "era5")) p).2 = none := by
    intro p
    unfold calibrateFlood
    rw [floodSamples_nil hw hlists]
    rfl
  have hplume : ∀ p, (calibratePlume run (allEvents.filter HazardRow.isGeneral)
      (allEvents.filter (·.isOf "era5")) p).2 = none := by
    intro p
    unfold calibratePlume
    rw [plumeSamples_nil hw hlists]
    rfl
  rw [inSequence_cons (hflood _), inSequence_cons (hplume _)]
  exact ⟨_, rfl⟩

variable {conv : Conversions} {others : List HazardRow} {files : Dict String ConfigFile}
  {w : World} {events : List Event} {allEvents : List HazardRow}

/-- A job whose calibrations are done: only the commit is left. -/
theorem asyncRun_of_done {run : CalibrationRun} {allEvents : List HazardRow}
    {store : ParameterStore} {after : Progress} (hsession : run.sessionFactory = true)
    (hselect : run.selectError = none)
    (hdone : inSequence (stages run allEvents) { store } = (after, none)) :
    asyncRunCalibrationJob run allEvents store =
      run.commitError.elim { after with summary := .ok after.summary }
        fun e => { summary := .error e, store := after.store } := by
  unfold asyncRunCalibrationJob
  rw [if_neg (by rw [hsession]; decide), hselect]
  dsimp only
  rw [hdone]
  cases run.commitError with
  | some e => rfl
  | none => rfl

/-- **Five or six readings reset ENSO**: whatever had been promoted before in the run, the job
promotes the default thresholds and says so, and they stay promoted when its commit fails. -/
theorem enso_reset_of_few (hquiet : ∀ row ∈ others, row.Quiet)
    (h : Reaches (step conv) Allowed (start others files) events w)
    (hlists : w.lists allEvents = true) (hsession : run.sessionFactory = true)
    (hselect : run.selectError = none)
    (hfew : w.rows.countP HazardRow.measures = 5 ∨ w.rows.countP HazardRow.measures = 6) :
    let outcome := asyncRunCalibrationJob run allEvents w.store
    (∀ now defaults, HasKeys (modelKeys ensoForecast) defaults →
      Same (loadCalibratedParameters now ensoForecast defaults outcome.store).1 ensoDefaults) ∧
    (run.commitError = none →
      .calibrationCompleted "enso_forecast" true ∈ outcome.metrics ∧
      ∃ summary version, outcome.summary = .ok summary ∧
        (ensoForecast, .calibrated true version (.rational 0)) ∈ summary) ∧
    ∀ e, run.commitError = some e → outcome.metrics = [] := by
  obtain ⟨hpoor, hstarved⟩ := starving_of_runs hquiet h
  have hcoherent := (job_spec run hpoor hlists hstarved.coherent).1.coherent
  obtain ⟨before, hbefore⟩ :=
    @stages_to_enso run { store := w.store } w allEvents hpoor hlists
  rw [← ensoSamples_length hlists] at hfew
  obtain ⟨hnone, ⟨version, hsummary⟩, hmetrics, hactive⟩ :=
    @calibrateEnso_few run before _ hfew
  rw [inSequence_cons hnone] at hbefore
  generalize calibrateEnso run (allEvents.filter (·.isOf "noaa")) before = result at *
  obtain ⟨after, raised⟩ := result
  have hjob : inSequence (stages run allEvents) { store := w.store } = (after, none) := hbefore
  have houtcome := asyncRun_of_done hsession hselect hjob
  dsimp only
  rw [houtcome] at hcoherent ⊢
  generalize run.commitError = commitError at hcoherent ⊢
  have hloads : Coherent modelKeys after.store → ∀ now defaults,
      HasKeys (modelKeys ensoForecast) defaults →
        Same (loadCalibratedParameters now ensoForecast defaults after.store).1 ensoDefaults := by
    intro hafter now defaults hdefaults
    exact (load_spec now hafter hdefaults).params.trans (hactive defaults hdefaults)
  cases commitError with
  | some e => exact ⟨hloads hcoherent, fun h => (by cases h), fun _ _ => rfl⟩
  | none =>
      refine ⟨hloads hcoherent, fun _ => ⟨?_, _, version, rfl, ?_⟩, fun e h => (by cases h)⟩
      · show _ ∈ after.metrics
        rw [show after.metrics = _ from hmetrics]
        simp
      · rw [show after.summary = _ from hsummary]
        simp

theorem afterReadings_reset :
    let outcome := asyncRunCalibrationJob sampleCalibration afterReadings.rows afterReadings.store
    Same (loadCalibratedParameters 60 ensoForecast ensoDefaults outcome.store).1 ensoDefaults ∧
      .calibrationCompleted "enso_forecast" true ∈ outcome.metrics := by
  have hreset := enso_reset_of_few seededFlood_quiet reaches_afterReadings
    (show afterReadings.lists afterReadings.rows = true by decide +kernel)
    (show sampleCalibration.sessionFactory = true from rfl) rfl (.inl (by decide +kernel))
  exact ⟨hreset.1 60 ensoDefaults hasKeys_enso, (hreset.2.1 rfl).1⟩

end Few

end CalibrationJob

end GaiaOS
