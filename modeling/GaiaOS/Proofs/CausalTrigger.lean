/-
Whose details a causal chain shows.

The claim of a chain announces the details of its initial trigger, and names a region.  Both are
columns of the row, and every round of the query rewrites them with those of the child it adds,
while only the arrays of the path accumulate.  So they are those of the last event, and right
exactly if on every returned path the last event reads like the first.
-/
import GaiaOS.Proofs.CausalPaths

namespace GaiaOS

namespace CausalChain

open HazardDb RecursiveQuery

variable {Point Area : Type}

/-- The region of an event, as a claim shows it. -/
def shownRegion (he : HazardEvent Point) : String := textOr he.regionLabel "unspecified region"

/-- The details of an event, as a claim shows them. -/
def shownDetails (he : HazardEvent Point) : String := textOr he.details "N/A"

/-- One of the two ways to ask for chains. -/
inductive Search
  | aroundPoint (point : ℚ × ℚ) (radiusMeters : ℚ)
  | withinBoundary (boundaryId : Uuid)

namespace Search

variable (search : Search) (tables : Tables Point Area) (gis : PostGis Point Area)
  (eventType : String) (maxDepth : Int) (rounds : Nat)

/-- The words of the claims. -/
def words : ChainWords :=
  match search with
  | aroundPoint _ _ => pointWords
  | withinBoundary boundaryId => boundaryWords boundaryId

/-- The events the anchor selects. -/
def anchored (he : HazardEvent Point) : Bool :=
  match search with
  | aroundPoint point radiusMeters => nearPoint gis eventType point radiusMeters he
  | withinBoundary boundaryId =>
      (targetBoundary tables boundaryId).any (inBoundary gis eventType he)

/-- The rows of the query. -/
def rows : Option (List CausalPathRow) :=
  match search with
  | aroundPoint point radiusMeters =>
      causalPath tables maxDepth (pointAnchor tables gis eventType point radiusMeters) rounds
  | withinBoundary boundaryId =>
      causalPath tables maxDepth (boundaryAnchor tables gis eventType boundaryId) rounds

/-- The call. -/
def find (drawn : Nat → Uuid × Int) : Option (Except PyError (List Evidence)) :=
  match search with
  | aroundPoint point radiusMeters =>
      findCausalChain tables gis drawn none rounds eventType point radiusMeters maxDepth
  | withinBoundary boundaryId =>
      findCausalChainWithinBoundary tables gis drawn none rounds eventType boundaryId maxDepth

theorem rows_eq :
    search.rows tables gis eventType maxDepth rounds =
      causalPath tables maxDepth
        ((tables.hazardEvents.filter (search.anchored tables gis eventType)).map anchorRow)
        rounds := by
  cases search with
  | aroundPoint point radiusMeters => rfl
  | withinBoundary boundaryId =>
      exact congrArg (fun anchor => causalPath tables maxDepth anchor rounds)
        (boundaryAnchor_eq tables gis eventType boundaryId)

theorem find_eq (drawn : Nat → Uuid × Int) :
    search.find tables gis eventType maxDepth rounds drawn =
      (search.rows tables gis eventType maxDepth rounds).map
        (evidenceList search.words drawn 0) := by
  cases search
  all_goals rfl

end Search

/-- A piece of evidence shows the claim of its row and the events the row went through. -/
structure Shows (words : ChainWords) (row : CausalPathRow) (evidence : Evidence) : Prop where
  claim : evidence.claim = (chainClaim words row).text
  visited : Json.field? evidence.extraMetadata "visited_event_ids" =
    some (.arr (row.pathIds.map fun eid => .str eid.text))

/-- What the claims of the rows give as the region and as the details of the initial trigger are
those of the first event visited. -/
def TriggersDescribed (tables : Tables Point Area) (words : ChainWords)
    (rows : List CausalPathRow) : Prop :=
  ∀ row ∈ rows, ∀ he ∈ tables.hazardEvents, row.pathIds.head? = some he.id →
    (chainClaim words row).region = shownRegion he ∧
      (chainClaim words row).details = shownDetails he

theorem shows_of_chainEvidence {words : ChainWords} {drawn : Uuid × Int} {row : CausalPathRow}
    {evidence : Evidence} (h : chainEvidence words drawn row = .ok evidence) :
    Shows words row evidence := by
  obtain ⟨-, hclaim, hmetadata⟩ := chainEvidence_fields h
  refine ⟨hclaim, ?_⟩
  rw [hmetadata]
  unfold chainMetadata
  cases words.boundaryId
  all_goals simp [Json.field?]

/-- The claim of a path is filled with what its last event shows. -/
theorem chainClaim_pathRow (words : ChainWords) (path : Path Point) :
    (chainClaim words (pathRow path)).region = shownRegion (lastEvent path) ∧
      (chainClaim words (pathRow path)).details = shownDetails (lastEvent path) := by
  rw [pathRow_eq]
  exact ⟨rfl, rfl⟩

theorem head?_pathRow (path : Path Point) : (pathRow path).pathIds.head? = some path.start.id := by
  rw [pathRow_eq]
  rfl

theorem triggersDescribed_iff {tables : Tables Point Area} {words : ChainWords}
    {paths : List (Path Point)} (hstart : ∀ path ∈ paths, path.start ∈ tables.hazardEvents) :
    TriggersDescribed tables words (paths.map pathRow) ↔
      ∀ path ∈ paths, shownRegion (lastEvent path) = shownRegion path.start ∧
        shownDetails (lastEvent path) = shownDetails path.start := by
  constructor
  · intro h path hpath
    have hshown := h (pathRow path) (List.mem_map_of_mem hpath) path.start (hstart path hpath)
      (head?_pathRow path)
    rw [(chainClaim_pathRow words path).1, (chainClaim_pathRow words path).2] at hshown
    exact hshown
  · intro h row hrow he hhe hfirst
    obtain ⟨path, hpath, rfl⟩ := List.mem_map.mp hrow
    rw [head?_pathRow, Option.some.injEq] at hfirst
    have hsame : path.start = he :=
      List.inj_on_of_nodup_map tables.eventsPk (hstart path hpath) hhe hfirst
    rw [(chainClaim_pathRow words path).1, (chainClaim_pathRow words path).2, ← hsame]
    exact h path hpath

/-- **When causal evidence describes its own trigger.**  For every content of the tables, either
search and every `max_depth`: the call comes back within a number of rounds, with evidence that
shows the claims of the rows of the query, and the region and the details these present are those
of the first event visited if and only if on every path the search returns the last event shows
the region and the details of the first. -/
theorem trigger_described_iff (search : Search) (tables : Tables Point Area)
    (gis : PostGis Point Area) (eventType : String) (maxDepth : Int)
    (drawn : Nat → Uuid × Int) :
    ∃ (enough : Nat) (rows : List CausalPathRow),
      (∀ rounds, enough ≤ rounds →
        search.rows tables gis eventType maxDepth rounds = some rows ∧
        search.find tables gis eventType maxDepth rounds drawn =
          some (evidenceList search.words drawn 0 rows)) ∧
      (∀ evidences, evidenceList search.words drawn 0 rows = .ok evidences →
        List.Forall₂ (Shows search.words) (rows.filter fun row => ¬ row.depth < 2) evidences) ∧
      (TriggersDescribed tables search.words (rows.filter fun row => ¬ row.depth < 2) ↔
        ∀ path : Path Point,
          IsCausalPath tables (fun he => search.anchored tables gis eventType he = true) maxDepth
            path →
          shownRegion (lastEvent path) = shownRegion path.start ∧
            shownDetails (lastEvent path) = shownDetails path.start) := by
  obtain ⟨paths, -, hpaths, rows, hrows, hquery⟩ :=
    causalPath_eq tables maxDepth (search.anchored tables gis eventType)
  refine ⟨tables.hazardEvents.length + 1, rows, ?_, ?_, ?_⟩
  · intro rounds hrounds
    rw [Search.find_eq, Search.rows_eq, hquery rounds hrounds]
    exact ⟨rfl, rfl⟩
  · intro evidences hevidences
    refine (evidenceList_forall₂ hevidences).imp fun row evidence h => ?_
    obtain ⟨draw, hdraw⟩ := h
    exact shows_of_chainEvidence hdraw
  · rw [hrows, triggersDescribed_iff fun path hpath => ((hpaths path).mp hpath).start]
    exact forall_congr' fun path => imp_congr_left (hpaths path)

/-- The earthquake's chain shows the region and the details of the landslide. -/
theorem landslide_as_trigger :
    (Search.aroundPoint (35, 139) 50000).rows cyclicTables everywhere "earthquake" 4 3 =
        some [anchorRow quake, childRow (anchorRow quake) triggered landslide] ∧
      (chainClaim pointWords (childRow (anchorRow quake) triggered landslide)).text =
        "Historical causal chain in Izu: earthquake -> landslide. " ++
          "Initial trigger details: Landslide collapse" ∧
      ¬ TriggersDescribed cyclicTables pointWords
        [childRow (anchorRow quake) triggered landslide] := by
  refine ⟨by rfl, by decide +kernel, ?_⟩
  intro h
  have hshown := h _ (List.mem_singleton.mpr rfl) quake (List.mem_cons_self) rfl
  exact absurd hshown.2 (by decide +kernel)

end CausalChain

end GaiaOS
