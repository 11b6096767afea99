/-
When the ingestion of several locations loses a record.

One cursor stands for all the locations of a source.  A location that fails in a run, or an item
that cannot be read and takes the rest of its location with it, leaves a gap; the cursor moves on
with what the others served, and the next run drops whatever fills the gap.  A record without a
date is dated now and moves the cursor past everything.

What the locations hand back is kept here as offers: an item as a function of the time from which
records are wanted.  A run takes the offers up to the first that raises, if their date is wanted.
-/
import GaiaOS.Proofs.IngestionCursor

namespace GaiaOS

namespace Ingestion

/-! ### Offers -/

/-- An item of an answer: what it is read as, given the time from which records are wanted. -/
abbrev Offer := Int → Except PyError (Option HazardEventRecord)

/-- An offer of a source is dropped exactly if its record is older than what is wanted. -/
structure Offer.Sifted (source : String) (offer : Offer) : Prop where
  wanted : ∀ start rec, offer start = .ok (some rec) ↔
    start ≤ rec.eventDate ∧ offer rec.eventDate = .ok (some rec)
  source : ∀ start rec, offer start = .ok (some rec) → rec.source = source

namespace Offer.Sifted

variable {source : String} {α : Type}

theorem nothing : Sifted source fun _ => .ok none :=
  ⟨by simp, by simp⟩

theorem bind {x : Except PyError α} {f : α → Offer} (h : ∀ a, Sifted source (f a)) :
    Sifted source fun start => x >>= fun a => f a start := by
  cases x with
  | error e => exact ⟨by simp [Bind.bind, Except.bind], by simp [Bind.bind, Except.bind]⟩
  | ok a => exact h a

theorem ite {c : Prop} [Decidable c] {offer offer' : Offer} (h : Sifted source offer)
    (h' : Sifted source offer') :
    Sifted source fun start => if c then offer start else offer' start := by
  by_cases hc : c
  · simpa only [if_pos hc] using h
  · simpa only [if_neg hc] using h'

/-- The comparison with the date of the record. -/
theorem dated {date : Int} {x : Except PyError (Option HazardEventRecord)}
    (h : ∀ rec, x = .ok (some rec) → rec.eventDate = date ∧ rec.source = source) :
    Sifted source fun start => if date < start then .ok none else x := by
  refine ⟨fun start rec => ?_, fun start rec hrec => ?_⟩
  · by_cases hrec : x = .ok (some rec)
    · obtain ⟨rfl, -⟩ := h rec hrec
      simp [hrec]
    · have hnone : ∀ start, ¬ (if date < start then .ok none else x) = .ok (some rec) := by
        intro start
        split_ifs
        · simp
        · exact hrec
      simp [hnone]
  · split_ifs at hrec
    · cases hrec
    · exact (h rec hrec).2

end Offer.Sifted

/-- The records of some offers, up to the first that raises. -/
def readOffers (start : Int) (offers : List Offer) : List HazardEventRecord :=
  (appendLoop (fun offer => offer start) offers).1

/-- An offer is taken if nothing before it raises. -/
theorem mem_readOffers {start : Int} {offers : List Offer} {rec : HazardEventRecord} :
    rec ∈ readOffers start offers ↔
      ∃ before offer after, offers = before ++ offer :: after ∧
        (∀ offer ∈ before, ∃ record, offer start = .ok record) ∧ offer start = .ok (some rec) := by
  induction offers with
  | nil => simp [readOffers, appendLoop]
  | cons first offers ih =>
      unfold readOffers at ih ⊢
      constructor
      · intro h
        unfold appendLoop at h
        split at h
        · simp at h
        · rename_i record hfirst
          rcases List.mem_append.mp h with hrecord | hrest
          · rw [Option.mem_toList] at hrecord
            exact ⟨[], first, offers, rfl, by simp, hfirst.trans (by rw [hrecord])⟩
          · obtain ⟨before, offer, after, rfl, hbefore, hoffer⟩ := ih.mp hrest
            refine ⟨first :: before, offer, after, rfl, ?_, hoffer⟩
            exact List.forall_mem_cons.mpr ⟨⟨record, hfirst⟩, hbefore⟩
      · rintro ⟨before, offer, after, hsplit, hbefore, hoffer⟩
        cases before with
        | nil =>
            obtain ⟨rfl, rfl⟩ := List.cons.inj hsplit
            simp [appendLoop, hoffer]
        | cons first' before =>
            obtain ⟨rfl, rfl⟩ := List.cons.inj hsplit
            obtain ⟨⟨record, hrecord⟩, hbefore⟩ := List.forall_mem_cons.mp hbefore
            have hrest := ih.mpr ⟨before, offer, after, rfl, hbefore, hoffer⟩
            simp only [appendLoop, hrecord]
            exact List.mem_append_right _ hrest

theorem readOffers_map {α : Type} (start : Int) (body : Int → α → Except PyError (Option _))
    (items : List α) :
    readOffers start (items.map fun item start => body start item) =
      (appendLoop (body start) items).1 := by
  unfold readOffers
  induction items with
  | nil => rfl
  | cons item items ih =>
      simp only [List.map_cons, appendLoop]
      cases body start item with
      | error e => rfl
      | ok record => simp only [ih]

/-! ### The sources with several locations -/

section Sources

variable (conv : Conversions) (now : Int)

theorem noaaRecord_sifted (station : Station) (obs : Json) :
    Offer.Sifted "noaa" fun start => noaaRecord conv now start station obs := by
  unfold noaaRecord
  refine .ite .nothing (.bind fun t => .bind fun v => .ite .nothing (.dated ?_))
  intro rec hrec
  cases hrec
  exact ⟨rfl, rfl⟩

theorem copernicusRecord_sifted (bbox : Bbox) (prod : Json) :
    Offer.Sifted "copernicus" fun start => copernicusRecord conv now start bbox prod := by
  unfold copernicusRecord
  refine .bind fun prodId => .bind fun name => .bind fun contentDate => .bind fun dateStr =>
    .ite .nothing (.bind fun eventDate => .dated ?_)
  intro rec hrec
  cases hrec
  exact ⟨rfl, rfl⟩

theorem era5Record_sifted (location : MonitoringLocation) (daily : Daily) (entry : Json × Nat) :
    Offer.Sifted "era5" fun start => era5Record conv now start location daily entry := by
  unfold era5Record
  refine .dated ?_
  intro rec hrec
  obtain ⟨temp, -, hrec⟩ := ok_of_bind hrec
  obtain ⟨wind, -, hrec⟩ := ok_of_bind hrec
  obtain ⟨precip, -, hrec⟩ := ok_of_bind hrec
  cases hrec
  exact ⟨rfl, rfl⟩

theorem gdeltRecord_sifted (nowAt : Nat → Int) (entry : Json × Nat) :
    Offer.Sifted "gdelt" fun start => gdeltRecord conv nowAt start entry := by
  unfold gdeltRecord
  refine .bind fun url => .bind fun title => .bind fun seendate => .bind fun domain =>
    .bind fun language => .ite .nothing (.dated ?_)
  intro rec hrec
  split at hrec
  · cases hrec
    exact ⟨rfl, rfl⟩
  · cases hrec

theorem usgsRecord_source {feat : Json} {rec : HazardEventRecord}
    (h : usgsRecord conv feat = .ok (some rec)) : rec.source = "usgs" := by
  unfold usgsRecord at h
  obtain ⟨featId, -, h⟩ := ok_of_bind h
  obtain ⟨props, -, h⟩ := ok_of_bind h
  obtain ⟨geom, -, h⟩ := ok_of_bind h
  obtain ⟨coords, -, h⟩ := ok_of_bind h
  split_ifs at h
  · cases h
  · obtain ⟨length, -, h⟩ := ok_of_bind h
    split_ifs at h
    · cases h
    · obtain ⟨x, -, h⟩ := ok_of_bind h
      obtain ⟨lon, -, h⟩ := ok_of_bind h
      obtain ⟨y, -, h⟩ := ok_of_bind h
      obtain ⟨lat, -, h⟩ := ok_of_bind h
      obtain ⟨epochMs, -, h⟩ := ok_of_bind h
      split_ifs at h
      · cases h
      · obtain ⟨eventDate, -, h⟩ := ok_of_bind h
        obtain ⟨place, -, h⟩ := ok_of_bind h
        obtain ⟨mag, -, h⟩ := ok_of_bind h
        cases h
        rfl

/-- What the stations hand back, one list for each; a station that fails has nothing. -/
def noaaOffers (client : Station → Answer) : List (List Offer) :=
  stationsToProcess.map fun station =>
    match client station >>= fun value => (valueOr value (.obj [])).getD "data" (.arr []) with
    | .ok (.arr observations) =>
        observations.map fun obs start => noaaRecord conv now start station obs
    | _ => []

def copernicusOffers (client : Bbox → Answer) : List (List Offer) :=
  defaultBboxes.map fun bbox =>
    match client bbox >>= fun value => (valueOr value (.arr [])).iter with
    | .ok products => products.map fun prod start => copernicusRecord conv now start bbox prod
    | .error _ => []

/-- The lists of a daily answer, with the times. -/
def dailyLists (value : Option Json) : Except PyError (Daily × List Json) := do
  let daily ← (valueOr value (.obj [])).getD "daily" (.obj [])
  let times ← daily.getD "time" (.arr [])
  let temps ← daily.getD "temperature_2m_mean" (.arr [])
  let winds ← daily.getD "wind_speed_10m_max" (.arr [])
  let precips ← daily.getD "precipitation_sum" (.arr [])
  return (⟨temps, winds, precips⟩, ← times.iter)

/-- The request is for the days from `start`, which the offers are not yet compared with. -/
def era5Offers (client : MonitoringLocation → Int → Int → Answer) (start : Int) :
    List (List Offer) :=
  monitoringLocations.map fun location =>
    match client location start now >>= dailyLists with
    | .ok (daily, times) =>
        times.zipIdx.map fun entry start => era5Record conv now start location daily entry
    | .error _ => []

end Sources

def multiLocationSources : List String := ["era5", "noaa", "copernicus"]

/-- What the locations of a run's source hand back. -/
def JobRun.offers (conv : Conversions) (run : JobRun) (start : Int) : List (List Offer) :=
  if run.sourceClean = "noaa" then noaaOffers conv run.now run.clients.noaa
  else if run.sourceClean = "copernicus" then
    copernicusOffers conv run.now run.clients.copernicus
  else if run.sourceClean = "era5" then era5Offers conv run.now run.clients.era5 start
  else []

section Adapters

variable {conv : Conversions} {run : JobRun} {now : Int} {since : Option Int}

theorem fetchRecentNoaaEvents_eq (client : Station → Answer) :
    fetchRecentNoaaEvents conv client now since =
      (noaaOffers conv now client).flatMap (readOffers (startDt now since)) := by
  unfold fetchRecentNoaaEvents overLocations noaaOffers
  rw [List.flatMap_map]
  congr 1
  funext station
  beta_reduce
  cases client station with
  | error e => rfl
  | ok value =>
      simp only [Bind.bind, Except.bind]
      cases (valueOr value (.obj [])).getD "data" (.arr []) with
      | error e => rfl
      | ok obsList =>
          cases obsList with
          | arr observations =>
              exact (readOffers_map _ (fun start => noaaRecord conv now start station) _).symm
          | _ => rfl

theorem fetchRecentCopernicusEvents_eq (client : Bbox → Answer) :
    fetchRecentCopernicusEvents conv client now since =
      (copernicusOffers conv now client).flatMap (readOffers (startDt now since)) := by
  unfold fetchRecentCopernicusEvents overLocations copernicusOffers
  rw [List.flatMap_map]
  congr 1
  funext bbox
  beta_reduce
  cases client bbox with
  | error e => rfl
  | ok value =>
      simp only [Bind.bind, Except.bind]
      cases (valueOr value (.arr [])).iter with
      | error e => rfl
      | ok products =>
          exact (readOffers_map _ (fun start => copernicusRecord conv now start bbox) _).symm

theorem fetchRecentEra5Events_eq (client : MonitoringLocation → Int → Int → Answer) :
    fetchRecentEra5Events conv client now since =
      (era5Offers conv now client (startDt now since)).flatMap
        (readOffers (startDt now since)) := by
  unfold fetchRecentEra5Events overLocations era5Offers
  rw [List.flatMap_map]
  congr 1
  funext location
  beta_reduce
  have hlists : (do
      let value ← client location (startDt now since) now
      let daily ← (valueOr value (.obj [])).getD "daily" (.obj [])
      let times ← daily.getD "time" (.arr [])
      let temps ← daily.getD "temperature_2m_mean" (.arr [])
      let winds ← daily.getD "wind_speed_10m_max" (.arr [])
      let precips ← daily.getD "precipitation_sum" (.arr [])
      let times ← times.iter
      return appendLoop (era5Record conv now (startDt now since) location ⟨temps, winds, precips⟩)
        times.zipIdx) =
      (client location (startDt now since) now >>= dailyLists >>= fun lists =>
        .ok (appendLoop (era5Record conv now (startDt now since) location lists.1)
          lists.2.zipIdx)) := by
    unfold dailyLists
    simp only [bind_assoc, pure_bind]
    rfl
  rw [hlists]
  cases client location (startDt now since) now >>= dailyLists with
  | error e => rfl
  | ok lists => 
      exact (readOffers_map _ (fun start => era5Record conv now start location lists.1) _).symm

/-- A run of these sources never raises, and has the offers that are wanted. -/
theorem fetchRecords_offers (h : run.sourceClean ∈ multiLocationSources) :
    fetchRecords conv run since =
      .ok ((run.offers conv (startDt run.now since)).flatMap
        (readOffers (startDt run.now since))) := by
  unfold fetchRecords JobRun.offers
  simp only [multiLocationSources, List.mem_cons, List.not_mem_nil, or_false] at h
  rcases h with h | h | h
  · simp only [h, fetchRecentEra5Events_eq]
    rfl
  · simp only [h, fetchRecentNoaaEvents_eq]
    rfl
  · simp only [h, fetchRecentCopernicusEvents_eq]
    rfl

/-- Every offer of a run is sifted. -/
theorem JobRun.offers_sifted {start : Int} {offers : List Offer} {offer : Offer}
    (hoffers : offers ∈ run.offers conv start) (h : offer ∈ offers) :
    offer.Sifted run.sourceClean := by
  unfold JobRun.offers at hoffers
  split_ifs at hoffers with hnoaa hcopernicus hera5
  · obtain ⟨station, -, rfl⟩ := List.mem_map.mp hoffers
    rw [hnoaa]
    split at h
    · obtain ⟨obs, -, rfl⟩ := List.mem_map.mp h
      exact noaaRecord_sifted conv run.now station obs
    · simp at h
  · obtain ⟨bbox, -, rfl⟩ := List.mem_map.mp hoffers
    rw [hcopernicus]
    split at h
    · obtain ⟨prod, -, rfl⟩ := List.mem_map.mp h
      exact copernicusRecord_sifted conv run.now bbox prod
    · simp at h
  · obtain ⟨location, -, rfl⟩ := List.mem_map.mp hoffers
    rw [hera5]
    split at h
    · obtain ⟨entry, -, rfl⟩ := List.mem_map.mp h
      exact era5Record_sifted conv run.now location _ entry
    · simp at h
  · simp at hoffers

end Adapters

/-! ### What is stored -/

/-- The keys of the rows. -/
def Tables.keys (tables : Tables) : List (String × String) :=
  tables.hazardEvents.map HazardEventRecord.key

section Keys

variable {conv : Conversions} {run : JobRun} {tables : Tables} {key : String × String}

/-- A record is of the source it was fetched from. -/
theorem Commits.source {records : List HazardEventRecord} (h : Commits conv run tables records)
    {rec : HazardEventRecord} (hrec : rec ∈ records) : rec.source = run.sourceClean := by
  by_cases hmulti : run.sourceClean ∈ multiLocationSources
  · have hfetched := h.fetched
    rw [fetchRecords_offers hmulti] at hfetched
    cases hfetched
    obtain ⟨offers, hoffers, hrec⟩ := List.mem_flatMap.mp hrec
    obtain ⟨before, offer, after, rfl, -, hoffer⟩ := mem_readOffers.mp hrec
    exact (JobRun.offers_sifted hoffers (by simp)).source _ rec hoffer
  · have hfetched := h.fetched
    simp only [multiLocationSources, List.mem_cons, List.not_mem_nil, or_false, not_or] at hmulti
    unfold fetchRecords at hfetched
    rw [if_neg hmulti.2.1, if_neg hmulti.2.2, if_neg hmulti.1] at hfetched
    split_ifs at hfetched with husgs hgdelt
    · obtain ⟨value, -, hfetched⟩ := ok_of_bind hfetched
      obtain ⟨features, -, hfetched⟩ := ok_of_bind hfetched
      obtain ⟨feat, -, hfeat⟩ := mem_unguarded hfetched hrec
      rw [husgs]
      exact usgsRecord_source conv hfeat
    · obtain ⟨value, -, hfetched⟩ := ok_of_bind hfetched
      obtain ⟨articles, -, hfetched⟩ := ok_of_bind hfetched
      obtain ⟨unsorted, hloop, hfetched⟩ := ok_of_bind hfetched
      cases hfetched
      rw [List.mem_insertionSort] at hrec
      obtain ⟨entry, -, hentry⟩ := mem_unguarded hloop hrec
      rw [hgdelt]
      exact (gdeltRecord_sifted conv run.nowAt entry).source _ rec hentry

end Keys

/-! ### Runs -/

/-- The time from which a run wants records. -/
def JobRun.startIn (run : JobRun) (tables : Tables) : Int :=
  startDt run.now (tables.ingestionCursors.get? run.sourceClean)

/-- The run gets as far as asking its source. -/
def JobRun.asks (run : JobRun) : Prop :=
  run.settings.disables run.sourceClean = false ∧ run.sessionFactory = true

section Served

variable (conv : Conversions) (run : JobRun) (tables : Tables)

/-- The source serves the record: a location answers with an item that is read as it. -/
def Serves (rec : HazardEventRecord) : Prop :=
  ∃ offers ∈ run.offers conv (run.startIn tables), ∃ offer ∈ offers,
    offer rec.eventDate = .ok (some rec)

/-- The record is served behind no item that raises, and not older than the run wants. -/
def ServesInTime (rec : HazardEventRecord) : Prop :=
  run.startIn tables ≤ rec.eventDate ∧
    ∃ offers ∈ run.offers conv (run.startIn tables), ∃ before offer after,
      offers = before ++ offer :: after ∧
        (∀ offer ∈ before, ∃ record, offer (run.startIn tables) = .ok record) ∧
        offer rec.eventDate = .ok (some rec)

end Served

section Runs

variable {conv : Conversions} {run : JobRun} {tables : Tables} {key : String × String}

/-- What a run of these sources commits is what it is served in time. -/
theorem Commits.mem_iff {records : List HazardEventRecord} (h : Commits conv run tables records)
    (hmulti : run.sourceClean ∈ multiLocationSources) {rec : HazardEventRecord} :
    rec ∈ records ↔ ServesInTime conv run tables rec := by
  have hfetched := h.fetched
  rw [fetchRecords_offers hmulti] at hfetched
  cases hfetched
  rw [List.mem_flatMap]
  constructor
  · rintro ⟨offers, hoffers, hrec⟩
    obtain ⟨before, offer, after, rfl, hbefore, hoffer⟩ := mem_readOffers.mp hrec
    obtain ⟨hwanted, hoffer⟩ :=
      ((JobRun.offers_sifted hoffers (by simp)).wanted _ rec).mp hoffer
    exact ⟨hwanted, _, hoffers, before, offer, after, rfl, hbefore, hoffer⟩
  · rintro ⟨hwanted, offers, hoffers, before, offer, after, rfl, hbefore, hoffer⟩
    refine ⟨_, hoffers, mem_readOffers.mpr ⟨before, offer, after, rfl, hbefore, ?_⟩⟩
    exact ((JobRun.offers_sifted hoffers (by simp)).wanted _ rec).mpr ⟨hwanted, hoffer⟩

/-- A served record is of the source of the run. -/
theorem Serves.source {rec : HazardEventRecord} (h : Serves conv run tables rec) :
    rec.source = run.sourceClean := by
  obtain ⟨offers, hoffers, offer, hoffer, hrec⟩ := h
  exact (JobRun.offers_sifted hoffers hoffer).source _ rec hrec

end Runs

end Ingestion

end GaiaOS
