/-
What the causal queries return.

A recursive query with a guard against cycles and a bound on the depth is one thing; the paths
of a graph are another.  `IsCausalPath` says what a path is without a word about rounds: it
starts at an event of the anchor, each relationship leads from the event before it to the event
after it, no event occurs twice, and there are at least two and at most `max_depth` events.

The query returns exactly those, each once (`causalPath_eq`), and it always comes back, cycles
or not: a row holds no event twice, so it is never longer than the table of events.  The
evidence made of a row says which path it is, and its confidence is the least on the path.
-/
import GaiaOS.Db.CausalRepository
import Mathlib.Order.Bounds.Basic

namespace GaiaOS

namespace CausalChain

open HazardDb RecursiveQuery

variable {Point Area : Type}

/-! ### Paths -/

/-- A relationship and the event it leads to. -/
abbrev Hop (Point : Type) := HazardRelationship × HazardEvent Point

/-- A first event, and the hops from it. -/
abbrev Path (Point : Type) := Walk (HazardEvent Point) (Hop Point)

/-- The events of a path, in order. -/
def pathEvents (path : Path Point) : List (HazardEvent Point) :=
  path.start :: path.steps.map Prod.snd

/-- The confidences of its relationships, in order. -/
def pathConfidences (path : Path Point) : List ℚ := path.steps.map fun hop => hop.1.confidence

/-- The relationships of a path, by their identifiers. -/
def pathRelationships (path : Path Point) : List Uuid := path.steps.map fun hop => hop.1.id

/-- Each relationship leads from the event before it to the event after it. -/
def Leads (tables : Tables Point Area) : Uuid → List (Hop Point) → Prop
  | _, [] => True
  | eventId, hop :: hops =>
      hop.1 ∈ tables.hazardRelationships ∧ hop.1.parentId = eventId ∧
        hop.2 ∈ tables.hazardEvents ∧ hop.1.childId = hop.2.id ∧ Leads tables hop.2.id hops

/-- A directed path from an event of the anchor through pairwise distinct events, at least two
of them and at most `maxDepth`. -/
structure IsCausalPath (tables : Tables Point Area) (anchored : HazardEvent Point → Prop)
    (maxDepth : Int) (path : Path Point) : Prop where
  start : path.start ∈ tables.hazardEvents
  anchored : anchored path.start
  leads : Leads tables path.start.id path.steps
  distinct : ((pathEvents path).map (·.id)).Nodup
  two_le : 2 ≤ (pathEvents path).length
  le_maxDepth : ((pathEvents path).length : Int) ≤ maxDepth

/-! ### The rows of the query -/

section Rows

variable {tables : Tables Point Area} {maxDepth : Int} {path : Path Point}

/-- The row a path is found with. -/
def pathRow (path : Path Point) : CausalPathRow :=
  path.row anchorRow fun cp hop => childRow cp hop.1 hop.2

/-- The last event of a path. -/
def lastEvent (path : Path Point) : HazardEvent Point :=
  (path.steps.map Prod.snd).getLastD path.start

/-- A row holds what its path went through, and the columns of the last event. -/
theorem pathRow_eq (path : Path Point) :
    pathRow path =
      { eventId := (lastEvent path).id
        eventType := (lastEvent path).eventType
        region := (lastEvent path).regionLabel
        details := (lastEvent path).details
        pathIds := (pathEvents path).map (·.id)
        pathTypes := (pathEvents path).map (·.eventType)
        depth := (pathEvents path).length
        edgeConfidences := pathConfidences path } := by
  obtain ⟨start, steps⟩ := path
  induction steps using List.reverseRecOn with
  | nil => rfl
  | append_singleton steps hop ih =>
      have hstep : pathRow ⟨start, steps ++ [hop]⟩ =
          childRow (pathRow ⟨start, steps⟩) hop.1 hop.2 := by
        simp [pathRow, Walk.row]
      rw [hstep, ih]
      simp [childRow, lastEvent, pathEvents, pathConfidences]

theorem mem_joined {cp : CausalPathRow} {hop : Hop Point} :
    hop ∈ joined tables maxDepth cp ↔
      hop.1 ∈ tables.hazardRelationships ∧ hop.1.parentId = cp.eventId ∧
        hop.2 ∈ tables.hazardEvents ∧ hop.1.childId = hop.2.id ∧
        cp.depth < maxDepth ∧ hop.2.id ∉ cp.pathIds := by
  obtain ⟨hr, child⟩ := hop
  simp only [joined, List.mem_flatMap, List.mem_filter, List.mem_map, Prod.mk.injEq,
    decide_eq_true_eq]
  constructor
  · rintro ⟨hr', ⟨hrel, hparent⟩, child', ⟨hchild, hjoin, hdepth, hnew⟩, rfl, rfl⟩
    exact ⟨hrel, hparent.symm, hchild, hjoin, hdepth, hnew⟩
  · rintro ⟨hrel, hparent, hchild, hjoin, hdepth, hnew⟩
    exact ⟨hr, ⟨hrel, hparent.symm⟩, child, ⟨hchild, hjoin, hdepth, hnew⟩, rfl, rfl⟩

theorem nodup_joined (tables : Tables Point Area) (maxDepth : Int) (cp : CausalPathRow) :
    (joined tables maxDepth cp).Nodup := by
  have hrelationships : tables.hazardRelationships.Nodup := tables.relationshipsPk.of_map _
  have hevents : tables.hazardEvents.Nodup := tables.eventsPk.of_map _
  refine List.nodup_flatMap.mpr ⟨fun hr _ => ?_, ?_⟩
  · exact (hevents.filter _).map fun child child' h => (Prod.mk.inj h).2
  · refine (hrelationships.filter _).imp fun {hr hr'} hne => ?_
    show List.Disjoint _ _
    rw [List.disjoint_left]
    intro hop hmem hmem'
    obtain ⟨child, -, rfl⟩ := List.mem_map.mp hmem
    obtain ⟨child', -, h⟩ := List.mem_map.mp hmem'
    exact hne (Prod.mk.inj h).1.symm

/-- The hops a row can take: they lead on from its event, go to events that are neither in the
row nor repeated, and stay within the depth. -/
theorem valid_iff {cp : CausalPathRow} {hops : List (Hop Point)} :
    Valid (joined tables maxDepth) (fun cp hop => childRow cp hop.1 hop.2) cp hops ↔
      Leads tables cp.eventId hops ∧ (hops.map fun hop => hop.2.id).Nodup ∧
        (∀ hop ∈ hops, hop.2.id ∉ cp.pathIds) ∧
        (hops = [] ∨ cp.depth + hops.length ≤ maxDepth) := by
  induction hops generalizing cp with
  | nil => simp [Valid, Leads]
  | cons hop hops ih =>
      simp only [Valid, mem_joined, ih]
      simp only [Leads, childRow, List.map_cons, List.nodup_cons, List.mem_map, List.mem_cons,
        List.mem_append, List.length_cons, Nat.cast_add, Nat.cast_one, List.not_mem_nil, or_false,
        forall_eq_or_imp, not_or, not_exists, not_and, reduceCtorEq, false_or]
      constructor
      · rintro ⟨⟨hrel, hparent, hchild, hjoin, hdepth, hnew⟩, hleads, hnodup, havoid, hlong⟩
        refine ⟨⟨hrel, hparent, hchild, hjoin, hleads⟩, ⟨fun hop' hmem => (havoid hop' hmem).2,
          hnodup⟩, ⟨hnew, fun hop' hmem => (havoid hop' hmem).1⟩, ?_⟩
        rcases hlong with rfl | hlong
        · simp only [List.length_nil, Nat.cast_zero]
          omega
        · omega
      · rintro ⟨⟨hrel, hparent, hchild, hjoin, hleads⟩, ⟨hfresh, hnodup⟩, ⟨hnew, havoid⟩, hlong⟩
        refine ⟨⟨hrel, hparent, hchild, hjoin, by omega, hnew⟩, hleads, hnodup,
          fun hop' hmem => ⟨havoid hop' hmem, hfresh hop' hmem⟩, ?_⟩
        exact .inr (by omega)

theorem valid_anchorRow_iff (path : Path Point) :
    Valid (joined tables maxDepth) (fun cp hop => childRow cp hop.1 hop.2) (anchorRow path.start)
        path.steps ↔
      Leads tables path.start.id path.steps ∧ ((pathEvents path).map (·.id)).Nodup ∧
        (path.steps = [] ∨ ((pathEvents path).length : Int) ≤ maxDepth) := by
  have hlength : ((pathEvents path).length : Int) = 1 + path.steps.length := by
    simp only [pathEvents, List.length_cons, List.length_map]
    omega
  rw [valid_iff, hlength]
  simp only [anchorRow, pathEvents, List.map_cons, List.map_map, List.nodup_cons, List.mem_map,
    List.mem_singleton, Function.comp_apply, not_exists, not_and]
  constructor
  · rintro ⟨hleads, hnodup, hnew, hlong⟩
    exact ⟨hleads, ⟨hnew, hnodup⟩, hlong⟩
  · rintro ⟨hleads, ⟨hnew, hnodup⟩, hlong⟩
    exact ⟨hleads, hnodup, hnew, hlong⟩

theorem Leads.mem_tables {eventId : Uuid} {hops : List (Hop Point)}
    (h : Leads tables eventId hops) :
    ∀ hop ∈ hops, hop.1 ∈ tables.hazardRelationships ∧ hop.2 ∈ tables.hazardEvents := by
  induction hops generalizing eventId with
  | nil => simp
  | cons hop hops ih =>
      obtain ⟨hrel, -, hevent, -, hrest⟩ := h
      intro hop' hmem
      rcases List.mem_cons.mp hmem with rfl | hmem
      · exact ⟨hrel, hevent⟩
      · exact ih hrest hop' hmem

/-- A path through distinct events is no longer than the table of events. -/
theorem length_pathEvents_le (path : Path Point) (hstart : path.start ∈ tables.hazardEvents)
    (hleads : Leads tables path.start.id path.steps)
    (hdistinct : ((pathEvents path).map (·.id)).Nodup) :
    (pathEvents path).length ≤ tables.hazardEvents.length := by
  have hsub : (pathEvents path).map (·.id) ⊆ tables.hazardEvents.map (·.id) := by
    refine List.map_subset _ fun he hmem => ?_
    rcases List.mem_cons.mp hmem with rfl | hmem
    · exact hstart
    · obtain ⟨hop, hhop, rfl⟩ := List.mem_map.mp hmem
      exact (hleads.mem_tables hop hhop).2
  have hle := (List.subperm_of_subset hdistinct hsub).length_le
  rwa [List.length_map, List.length_map] at hle

theorem length_pathEvents (path : Path Point) :
    (pathEvents path).length = path.steps.length + 1 := by
  simp [pathEvents]

/-- **The rows of the query.**  It ends after at most as many rounds as there are events, and its
rows of two events and more are those of the paths from its anchor, each path once. -/
theorem causalPath_eq (tables : Tables Point Area) (maxDepth : Int)
    (anchored : HazardEvent Point → Bool) :
    ∃ paths : List (Path Point), paths.Nodup ∧
      (∀ path, path ∈ paths ↔
        IsCausalPath tables (fun he => anchored he = true) maxDepth path) ∧
      ∃ rows : List CausalPathRow,
        (rows.filter fun row => ¬ row.depth < 2) = paths.map pathRow ∧
        ∀ rounds, tables.hazardEvents.length < rounds →
          causalPath tables maxDepth ((tables.hazardEvents.filter anchored).map anchorRow) rounds =
            some rows := by
  have hevents : tables.hazardEvents.Nodup := tables.eventsPk.of_map _
  have hbound : ∀ start ∈ tables.hazardEvents.filter anchored, ∀ steps,
      Valid (joined tables maxDepth) (fun cp hop => childRow cp hop.1 hop.2) (anchorRow start)
        steps → steps.length ≤ tables.hazardEvents.length := by
    intro start hstart steps hvalid
    obtain ⟨hleads, hdistinct, -⟩ := (valid_anchorRow_iff ⟨start, steps⟩).mp hvalid
    have hle := length_pathEvents_le ⟨start, steps⟩ (List.mem_filter.mp hstart).1 hleads hdistinct
    rw [length_pathEvents] at hle
    exact (Nat.le_succ _).trans hle
  obtain ⟨all, hnodup, hmem, hquery⟩ := recursiveQuery_eq anchorRow (joined tables maxDepth)
    (fun cp hop => childRow cp hop.1 hop.2) tables.hazardEvents.length (hevents.filter anchored)
    (nodup_joined tables maxDepth) hbound
  let byDepth : Path Point → Path Point → Prop := fun p p' => (pathRow p).depth ≤ (pathRow p').depth
  have hsorted : (all.insertionSort byDepth).map pathRow =
      (all.map pathRow).insertionSort fun r r' => r.depth ≤ r'.depth :=
    List.map_insertionSort byDepth _ pathRow all fun _ _ _ _ => Iff.rfl
  refine ⟨(all.insertionSort byDepth).filter fun path => ¬ (pathRow path).depth < 2, ?_, ?_,
    (all.insertionSort byDepth).map pathRow, ?_, ?_⟩
  · exact ((List.perm_insertionSort byDepth all).nodup_iff.mpr hnodup).filter _
  · intro path
    have hdepth : (pathRow path).depth = ((pathEvents path).length : Int) := by
      rw [pathRow_eq]
    rw [List.mem_filter, List.mem_insertionSort, hmem, valid_anchorRow_iff, List.mem_filter,
      decide_eq_true_eq, hdepth]
    constructor
    · rintro ⟨⟨⟨hstart, hanchored⟩, hleads, hdistinct, hlong⟩, htwo⟩
      refine ⟨hstart, hanchored, hleads, hdistinct, by omega, ?_⟩
      rcases hlong with hnil | hlong
      · rw [length_pathEvents, hnil, List.length_nil] at htwo
        omega
      · exact hlong
    · intro h
      exact ⟨⟨⟨h.start, h.anchored⟩, h.leads, h.distinct, .inr h.le_maxDepth⟩,
        by have := h.two_le; omega⟩
  · rw [List.filter_map]
    rfl
  · intro rounds hrounds
    unfold causalPath
    rw [hsorted]
    exact congrArg (Option.map _) (hquery rounds hrounds)

/-- The relationships of a path tell its events. -/
theorem Leads.ext {eventId eventId' : Uuid} {hops hops' : List (Hop Point)}
    (h : Leads tables eventId hops) (h' : Leads tables eventId' hops')
    (heq : (hops.map fun hop => hop.1.id) = hops'.map fun hop => hop.1.id) : hops = hops' := by
  induction hops generalizing eventId eventId' hops' with
  | nil =>
      cases hops' with
      | nil => rfl
      | cons hop' hops' => cases heq
  | cons hop hops ih =>
      cases hops' with
      | nil => cases heq
      | cons hop' hops' =>
          obtain ⟨hrel, -, hevent, hchild, hrest⟩ := h
          obtain ⟨hrel', -, hevent', hchild', hrest'⟩ := h'
          rw [List.map_cons, List.map_cons, List.cons.injEq] at heq
          have hr : hop.1 = hop'.1 :=
            List.inj_on_of_nodup_map tables.relationshipsPk hrel hrel' heq.1
          have hid : hop.2.id = hop'.2.id := by
            rw [← hchild, ← hchild', hr]
          have hchildren : hop.2 = hop'.2 :=
            List.inj_on_of_nodup_map tables.eventsPk hevent hevent' hid
          rw [Prod.ext hr hchildren, ih hrest hrest' heq.2]

theorem IsCausalPath.ext {anchored : HazardEvent Point → Prop} {path' : Path Point}
    (h : IsCausalPath tables anchored maxDepth path)
    (h' : IsCausalPath tables anchored maxDepth path')
    (heq : pathRelationships path = pathRelationships path') : path = path' := by
  have hsteps : path.steps = path'.steps := h.leads.ext h'.leads heq
  obtain ⟨start, steps⟩ := path
  obtain ⟨start', steps'⟩ := path'
  cases hsteps
  cases steps with
  | nil => exact absurd h.two_le (by simp [pathEvents])
  | cons hop hops =>
      have hid : start.id = start'.id := h.leads.2.1.symm.trans h'.leads.2.1
      have hstart : start = start' :=
        List.inj_on_of_nodup_map tables.eventsPk h.start h'.start hid
      rw [hstart]

end Rows

/-! ### The evidence -/

/-- The evidence is that of a path: it lists its events and the confidences of its edges in
order, and its own confidence is the least of them. -/
structure Reports (path : Path Point) (evidence : Evidence) : Prop where
  visited : Json.field? evidence.extraMetadata "visited_event_ids" =
    some (.arr ((pathEvents path).map fun he => .str he.id.text))
  chain : Json.field? evidence.extraMetadata "event_chain_path" =
    some (.arr ((pathEvents path).map fun he => .str he.eventType))
  depth : Json.field? evidence.extraMetadata "depth" = some (.int (pathEvents path).length)
  edges : Json.field? evidence.extraMetadata "edge_confidences" =
    some (.arr ((pathConfidences path).map fun c => .float (.finite c)))
  confidence : IsLeast {c | c ∈ pathConfidences path} evidence.confidence

section Evidence

variable {words : ChainWords} {drawn : Uuid × Int} {row : CausalPathRow} {evidence : Evidence}

theorem isLeast_calculateChainConfidence {edgeConfidences : List ℚ} (hne : edgeConfidences ≠ []) :
    IsLeast {c | c ∈ edgeConfidences} (calculateChainConfidence edgeConfidences) := by
  unfold calculateChainConfidence
  cases hmin : edgeConfidences.min? with
  | none => exact absurd (List.min?_eq_none_iff.mp hmin) hne
  | some least =>
      obtain ⟨hmem, hle⟩ := List.min?_eq_some_iff.mp hmin
      exact ⟨hmem, fun c hc => hle c hc⟩

/-- What a piece of evidence takes from its row. -/
theorem chainEvidence_fields (h : chainEvidence words drawn row = .ok evidence) :
    evidence.confidence = calculateChainConfidence row.edgeConfidences ∧
      evidence.claim = (chainClaim words row).text ∧
      evidence.extraMetadata = chainMetadata words row := by
  obtain ⟨hconfidence, -, hclaim, -, -, hmetadata⟩ := Evidence.of_ofConfidence h
  exact ⟨hconfidence, hclaim, hmetadata⟩

theorem chainEvidence_ok (words : ChainWords) (drawn : Uuid × Int)
    (h0 : 0 ≤ calculateChainConfidence row.edgeConfidences)
    (h1 : calculateChainConfidence row.edgeConfidences ≤ 1) :
    ∃ evidence, chainEvidence words drawn row = .ok evidence :=
  Evidence.ofConfidence_ok h0 h1

variable {supply : Nat → Uuid × Int} {rows : List CausalPathRow}

/-- The loop makes one piece of evidence of each row of two events and more, in order. -/
theorem evidenceList_forall₂ {i : Nat} {evidences : List Evidence}
    (h : evidenceList words supply i rows = .ok evidences) :
    List.Forall₂ (fun row evidence => ∃ drawn, chainEvidence words drawn row = .ok evidence)
      (rows.filter fun row => ¬ row.depth < 2) evidences := by
  induction rows generalizing i evidences with
  | nil =>
      cases h
      exact .nil
  | cons row rows ih =>
      unfold evidenceList at h
      by_cases hdepth : row.depth < 2
      · rw [if_pos hdepth] at h
        rw [List.filter_cons_of_neg (by simpa using hdepth)]
        exact ih h
      · rw [if_neg hdepth] at h
        obtain ⟨evidence, hevidence, h⟩ := ok_of_bind h
        obtain ⟨rest, hrest, h⟩ := ok_of_bind h
        cases h
        rw [List.filter_cons_of_pos (by simpa using hdepth)]
        exact .cons ⟨_, hevidence⟩ (ih hrest)

theorem evidenceList_ok (words : ChainWords) (supply : Nat → Uuid × Int)
    (h : ∀ row ∈ rows, ¬ row.depth < 2 →
      0 ≤ calculateChainConfidence row.edgeConfidences ∧
        calculateChainConfidence row.edgeConfidences ≤ 1) (i : Nat) :
    ∃ evidences, evidenceList words supply i rows = .ok evidences := by
  induction rows generalizing i with
  | nil => exact ⟨[], rfl⟩
  | cons row rows ih =>
      rw [List.forall_mem_cons] at h
      unfold evidenceList
      by_cases hdepth : row.depth < 2
      · rw [if_pos hdepth]
        exact ih h.2 i
      · obtain ⟨h0, h1⟩ := h.1 hdepth
        obtain ⟨evidence, hevidence⟩ := chainEvidence_ok words (supply i) h0 h1
        obtain ⟨rest, hrest⟩ := ih h.2 (i + 1)
        rw [if_neg hdepth, hevidence, hrest]
        exact ⟨_, rfl⟩

theorem IsCausalPath.confidences_ne_nil {tables : Tables Point Area}
    {anchored : HazardEvent Point → Prop} {maxDepth : Int} {path : Path Point}
    (h : IsCausalPath tables anchored maxDepth path) : pathConfidences path ≠ [] := by
  intro hnil
  have htwo := h.two_le
  have hsteps : path.steps = [] := List.map_eq_nil_iff.mp hnil
  rw [length_pathEvents, hsteps, List.length_nil] at htwo
  omega

/-- The evidence of a path's row is that of the path. -/
theorem reports_of_chainEvidence {path : Path Point} (hne : pathConfidences path ≠ [])
    (h : chainEvidence words drawn (pathRow path) = .ok evidence) : Reports path evidence := by
  obtain ⟨hconfidence, -, hmetadata⟩ := chainEvidence_fields h
  rw [pathRow_eq] at hconfidence hmetadata
  unfold chainMetadata at hmetadata
  constructor
  case confidence =>
    rw [hconfidence]
    exact isLeast_calculateChainConfidence hne
  all_goals
    rw [hmetadata]
    cases words.boundaryId
    all_goals simp [Json.field?, List.map_map, Function.comp_def]

end Evidence

/-! ### The two functions -/

section Find

variable {tables : Tables Point Area}

/-- There is at most one boundary, so the join with it repeats no event. -/
theorem boundaryAnchor_eq (tables : Tables Point Area) (gis : PostGis Point Area)
    (eventType : String) (boundaryId : Uuid) :
    boundaryAnchor tables gis eventType boundaryId =
      (tables.hazardEvents.filter fun he =>
        (targetBoundary tables boundaryId).any (inBoundary gis eventType he)).map anchorRow := by
  have hone : (targetBoundary tables boundaryId).length ≤ 1 := by
    have hnodup : ((targetBoundary tables boundaryId).map (·.id)).Nodup :=
      tables.boundariesPk.sublist (List.filter_sublist.map _)
    have hall : ∀ id ∈ (targetBoundary tables boundaryId).map (·.id), id = boundaryId := by
      intro id hid
      obtain ⟨tb, htb, rfl⟩ := List.mem_map.mp hid
      simpa using (List.mem_filter.mp htb).2
    have hle := (List.subperm_of_subset hnodup
      fun id hid => List.mem_singleton.mpr (hall id hid)).length_le
    simpa using hle
  unfold boundaryAnchor
  induction tables.hazardEvents with
  | nil => rfl
  | cons he events ih =>
      rw [List.flatMap_cons, ih, List.filter_cons]
      match hboundary : targetBoundary tables boundaryId, hone with
      | [], _ => simp
      | [tb], _ =>
          cases hin : inBoundary gis eventType he tb with
          | false => simp [hin]
          | true => simp [hin]

/-- The least confidence on a path is within the bounds of the table. -/
theorem confidence_bounds {anchored : HazardEvent Point → Prop} {maxDepth : Int} {path : Path Point}
    (hconfidences : ∀ hr ∈ tables.hazardRelationships, 0 ≤ hr.confidence ∧ hr.confidence ≤ 1)
    (h : IsCausalPath tables anchored maxDepth path) :
    0 ≤ calculateChainConfidence (pathRow path).edgeConfidences ∧
      calculateChainConfidence (pathRow path).edgeConfidences ≤ 1 := by
  rw [pathRow_eq]
  obtain ⟨hop, hhop, heq⟩ := List.mem_map.mp
    (isLeast_calculateChainConfidence h.confidences_ne_nil).1
  rw [← heq]
  exact hconfidences hop.1 (h.leads.mem_tables hop hhop).1

/-- A query over the tables and the evidence made of its rows: one piece for each path. -/
theorem findChains_reports (words : ChainWords) (timeoutMessage : String)
    (drawn : Nat → Uuid × Int) {maxDepth : Int} {anchored : HazardEvent Point → Prop}
    (hconfidences : ∀ hr ∈ tables.hazardRelationships, 0 ≤ hr.confidence ∧ hr.confidence ≤ 1)
    {paths : List (Path Point)} {rows : List CausalPathRow}
    (hpaths : ∀ path ∈ paths, IsCausalPath tables anchored maxDepth path)
    (hrows : (rows.filter fun row => ¬ row.depth < 2) = paths.map pathRow) :
    ∃ evidences, findChains words timeoutMessage drawn none (some rows) = some (.ok evidences) ∧
      List.Forall₂ Reports paths evidences := by
  have hbounds : ∀ row ∈ rows, ¬ row.depth < 2 →
      0 ≤ calculateChainConfidence row.edgeConfidences ∧
        calculateChainConfidence row.edgeConfidences ≤ 1 := by
    intro row hrow hdepth
    have hmem : row ∈ paths.map pathRow := by
      rw [← hrows]
      exact List.mem_filter.mpr ⟨hrow, decide_eq_true hdepth⟩
    obtain ⟨path, hpath, rfl⟩ := List.mem_map.mp hmem
    exact confidence_bounds hconfidences (hpaths path hpath)
  obtain ⟨evidences, hevidences⟩ := evidenceList_ok words drawn hbounds 0
  refine ⟨evidences, by simp [findChains, hevidences], ?_⟩
  have hforall := evidenceList_forall₂ hevidences
  rw [hrows, List.forall₂_map_left_iff] at hforall
  refine (List.forall₂_iff_zip.mpr ⟨hforall.length_eq, fun {path evidence} hmem => ?_⟩)
  obtain ⟨draw, hdraw⟩ := (List.forall₂_iff_zip.mp hforall).2 hmem
  exact reports_of_chainEvidence (hpaths path (List.of_mem_zip hmem).1).confidences_ne_nil hdraw

/-- A longer chain is no more confident. -/
theorem Reports.confidence_le {path path' : Path Point} {evidence evidence' : Evidence}
    (h : Reports path evidence) (h' : Reports path' evidence')
    (hextends : path.steps <+: path'.steps) :
    evidence'.confidence ≤ evidence.confidence := by
  refine h'.confidence.2 ?_
  obtain ⟨hop, hhop, heq⟩ := List.mem_map.mp h.confidence.1
  exact List.mem_map.mpr ⟨hop, hextends.subset hhop, heq⟩

end Find

/-- **Causal traversal is exact.**  For every content of the tables with confidences between zero
and one, cyclic or not, and every `max_depth`: there is a list of paths that holds exactly the
directed paths from the events the anchor selects, no two of them with the same relationships,
and `find_causal_chain` comes back within a number of rounds with one piece of evidence for each.
A chain that extends another is not more confident.  And `find_causal_chain_within_boundary`
returns evidence for the same paths if its anchor selects the same events. -/
theorem causal_traversal_exact (tables : Tables Point Area) (gis : PostGis Point Area)
    (eventType : String) (point : ℚ × ℚ) (radiusMeters : ℚ) (maxDepth : Int)
    (drawn : Nat → Uuid × Int)
    (hconfidences : ∀ hr ∈ tables.hazardRelationships, 0 ≤ hr.confidence ∧ hr.confidence ≤ 1) :
    ∃ (paths : List (Path Point)) (enough : Nat) (evidences : List Evidence),
      (paths.map pathRelationships).Nodup ∧
      (∀ path, path ∈ paths ↔ IsCausalPath tables
        (fun he => nearPoint gis eventType point radiusMeters he = true) maxDepth path) ∧
      (∀ rounds, enough ≤ rounds →
        findCausalChain tables gis drawn none rounds eventType point radiusMeters maxDepth =
          some (.ok evidences)) ∧
      List.Forall₂ Reports paths evidences ∧
      (∀ entry ∈ paths.zip evidences, ∀ entry' ∈ paths.zip evidences,
        entry.1.steps <+: entry'.1.steps → entry'.2.confidence ≤ entry.2.confidence) ∧
      ∀ boundaryId drawn',
        (∀ he ∈ tables.hazardEvents, nearPoint gis eventType point radiusMeters he = true ↔
          ∃ tb ∈ targetBoundary tables boundaryId, inBoundary gis eventType he tb = true) →
        ∃ evidences', List.Forall₂ Reports paths evidences' ∧
          ∀ rounds, enough ≤ rounds →
            findCausalChainWithinBoundary tables gis drawn' none rounds eventType boundaryId
              maxDepth = some (.ok evidences') := by
  obtain ⟨paths, hnodup, hpaths, rows, hrows, hquery⟩ :=
    causalPath_eq tables maxDepth (nearPoint gis eventType point radiusMeters)
  have hcausal := fun path hpath => (hpaths path).mp hpath
  obtain ⟨evidences, hfind, hreports⟩ := findChains_reports pointWords
    "causal chain query exceeded time budget" drawn hconfidences hcausal hrows
  refine ⟨paths, tables.hazardEvents.length + 1, evidences, ?_, hpaths, ?_, hreports, ?_, ?_⟩
  · exact hnodup.map_on fun path hpath path' hpath' heq =>
      (hcausal path hpath).ext (hcausal path' hpath') heq
  · intro rounds hrounds
    unfold findCausalChain pointAnchor
    rw [hquery rounds hrounds]
    exact hfind
  · intro entry hentry entry' hentry' hextends
    have hzip : ∀ entry ∈ paths.zip evidences, Reports entry.1 entry.2 :=
      fun entry hmem => (List.forall₂_iff_zip.mp hreports).2 hmem
    exact (hzip entry hentry).confidence_le (hzip entry' hentry') hextends
  · intro boundaryId drawn' hsame
    obtain ⟨evidences', hfind', hreports'⟩ := findChains_reports (boundaryWords boundaryId)
      "causal chain boundary query exceeded time budget" drawn' hconfidences hcausal hrows
    refine ⟨evidences', hreports', fun rounds hrounds => ?_⟩
    have hanchor : (tables.hazardEvents.filter fun he =>
        (targetBoundary tables boundaryId).any (inBoundary gis eventType he)) =
        tables.hazardEvents.filter (nearPoint gis eventType point radiusMeters) := by
      refine List.filter_congr fun he hhe => ?_
      rw [Bool.eq_iff_iff, List.any_eq_true]
      exact (hsame he hhe).symm
    unfold findCausalChainWithinBoundary
    rw [boundaryAnchor_eq, hanchor, hquery rounds hrounds]
    exact hfind'

/-- An earthquake. -/
def quake : HazardEvent Unit where
  id := ⟨"00000000-0000-0000-0000-00000000000a", by decide +kernel⟩
  eventType := "earthquake"
  region := some ()
  regionLabel := some "Tokyo"
  details := some "Initial quake"

/-- A landslide. -/
def landslide : HazardEvent Unit where
  id := ⟨"00000000-0000-0000-0000-00000000000b", by decide +kernel⟩
  eventType := "landslide"
  region := some ()
  regionLabel := some "Izu"
  details := some "Landslide collapse"

/-- The landslide the earthquake triggered. -/
def triggered : HazardRelationship where
  id := ⟨"00000000-0000-0000-0000-0000000000ab", by decide +kernel⟩
  parentId := quake.id
  childId := landslide.id
  relationshipType := "triggered"
  confidence := 9 / 10

/-- The way back. -/
def reactivated : HazardRelationship where
  id := ⟨"00000000-0000-0000-0000-0000000000ba", by decide +kernel⟩
  parentId := landslide.id
  childId := quake.id
  relationshipType := "triggered"
  confidence := 4 / 5

/-- Two events that each triggered the other. -/
def cyclicTables : Tables Unit Unit where
  hazardEvents := [quake, landslide]
  hazardRelationships := [triggered, reactivated]
  administrativeBoundaries := []
  eventsPk := by decide +kernel
  relationshipsPk := by decide +kernel
  boundariesPk := List.nodup_nil
  parentFk := by decide +kernel
  childFk := by decide +kernel
  uqParentChildRel := by decide +kernel

/-- Everything is near everything else. -/
def everywhere : PostGis Unit Unit where
  stDWithin _ _ _ _ := true
  stWithin _ _ := true

/-- A cycle is walked through once. -/
theorem traversal_of_cycle :
    (∀ hr ∈ cyclicTables.hazardRelationships, 0 ≤ hr.confidence ∧ hr.confidence ≤ 1) ∧
      ∃ (paths : List (Path Unit)) (enough : Nat) (evidences : List Evidence),
        List.Forall₂ Reports paths evidences ∧
        ∀ rounds, enough ≤ rounds →
          findCausalChain cyclicTables everywhere (fun _ => (quake.id, 0)) none rounds "earthquake"
            (35, 139) 50000 5 = some (.ok evidences) := by
  have hconfidences : ∀ hr ∈ cyclicTables.hazardRelationships,
      0 ≤ hr.confidence ∧ hr.confidence ≤ 1 := by
    decide +kernel
  obtain ⟨paths, enough, evidences, -, -, hfind, hreports, -, -⟩ :=
    causal_traversal_exact cyclicTables everywhere "earthquake" (35, 139) 50000 5
      (fun _ => (quake.id, 0)) hconfidences
  exact ⟨hconfidences, paths, enough, evidences, hreports, hfind⟩

end CausalChain

end GaiaOS
