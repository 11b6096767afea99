/-
Causal chains among hazard events, after `db/causal_repository.py`.

Both queries walk the relationships with a recursive query: a row carries the events it went
through and the confidences of the edges it took, and is extended by the children of its last
event until it is `max_depth` events long or would come back to an event it has seen.  The two
functions differ in the events they start from and in the words of the evidence.

The query takes the number of rounds it may use; `none` is a query that has not come back.
What the session raises, if it does, is given.  Evidence draws an identifier and a time; those
of the `i`th piece are given by `drawn i`.
-/
import GaiaOS.Lib.RecursiveQuery
import GaiaOS.Db.HazardEvents
import Mathlib.Data.List.Sort

namespace GaiaOS

namespace CausalChain

open HazardDb RecursiveQuery

/-- `calculate_chain_confidence`. -/
def calculateChainConfidence (edgeConfidences : List ℚ) : ℚ := edgeConfidences.min?.getD 1

/-- A row of `causal_path`. -/
structure CausalPathRow where
  eventId : Uuid
  eventType : String
  region : Option String
  details : Option String
  pathIds : List Uuid
  pathTypes : List String
  depth : Int
  edgeConfidences : List ℚ

section Query

variable {Point Area : Type}

/-- The anchor member's row of an event. -/
def anchorRow (he : HazardEvent Point) : CausalPathRow where
  eventId := he.id
  eventType := he.eventType
  region := he.regionLabel
  details := he.details
  pathIds := [he.id]
  pathTypes := [he.eventType]
  depth := 1
  edgeConfidences := []

/-- The recursive member's row for a relationship and the child it leads to. -/
def childRow (cp : CausalPathRow) (hr : HazardRelationship) (child : HazardEvent Point) :
    CausalPathRow where
  eventId := child.id
  eventType := child.eventType
  region := child.regionLabel
  details := child.details
  pathIds := cp.pathIds ++ [child.id]
  pathTypes := cp.pathTypes ++ [child.eventType]
  depth := cp.depth + 1
  edgeConfidences := cp.edgeConfidences ++ [hr.confidence]

variable (tables : Tables Point Area) (maxDepth : Int)

/-- The pairs a row is joined with: its relationships, and their children if the row may still
grow and does not hold them. -/
def joined (cp : CausalPathRow) : List (HazardRelationship × HazardEvent Point) :=
  (tables.hazardRelationships.filter fun hr => cp.eventId = hr.parentId).flatMap fun hr =>
    (tables.hazardEvents.filter fun child =>
      hr.childId = child.id ∧ cp.depth < maxDepth ∧ ¬ child.id ∈ cp.pathIds).map fun child =>
        (hr, child)

/-- The recursive member. -/
def recursiveMember (cp : CausalPathRow) : List CausalPathRow :=
  (joined tables maxDepth cp).map fun pair => childRow cp pair.1 pair.2

/-- `SELECT ... FROM causal_path ORDER BY depth ASC`. -/
def causalPath (anchor : List CausalPathRow) (rounds : Nat) : Option (List CausalPathRow) :=
  (recursiveQuery (recursiveMember tables maxDepth) rounds anchor).map fun rows =>
    rows.insertionSort fun r r' => r.depth ≤ r'.depth

/-- The `WHERE` of `find_causal_chain`'s anchor. -/
def nearPoint (gis : PostGis Point Area) (eventType : String) (point : ℚ × ℚ) (radiusMeters : ℚ)
    (he : HazardEvent Point) : Bool :=
  he.eventType = eventType &&
    match he.region with
    | none => false
    | some region => gis.stDWithin region point.2 point.1 radiusMeters

/-- The `WHERE` of `find_causal_chain_within_boundary`'s anchor. -/
def inBoundary (gis : PostGis Point Area) (eventType : String) (he : HazardEvent Point)
    (tb : AdministrativeBoundary Area) : Bool :=
  he.eventType = eventType &&
    match he.region with
    | none => false
    | some region => gis.stWithin region tb.geom

/-- The anchor member of `find_causal_chain`. -/
def pointAnchor (gis : PostGis Point Area) (eventType : String) (point : ℚ × ℚ)
    (radiusMeters : ℚ) : List CausalPathRow :=
  (tables.hazardEvents.filter (nearPoint gis eventType point radiusMeters)).map anchorRow

/-- `target_boundary`. -/
def targetBoundary (boundaryId : Uuid) : List (AdministrativeBoundary Area) :=
  tables.administrativeBoundaries.filter (·.id = boundaryId)

/-- The anchor member of `find_causal_chain_within_boundary`, a join with the boundary. -/
def boundaryAnchor (gis : PostGis Point Area) (eventType : String) (boundaryId : Uuid) :
    List CausalPathRow :=
  tables.hazardEvents.flatMap fun he =>
    ((targetBoundary tables boundaryId).filter (inBoundary gis eventType he)).map fun _ =>
      anchorRow he

end Query

/-! ### The evidence of a row -/

/-- What the words of a claim are filled with. -/
structure ChainClaim where
  lead : String
  region : String
  chain : String
  details : String

/-- The text of a claim. -/
def ChainClaim.text (claim : ChainClaim) : String :=
  claim.lead ++ claim.region ++ ": " ++ claim.chain ++ ". Initial trigger details: " ++ claim.details

/-- `value or fallback`, of a text that may be null. -/
def textOr (value : Option String) (fallback : String) : String :=
  match value with
  | none => fallback
  | some text => if text = "" then fallback else text

/-- The words the two functions put into their evidence. -/
structure ChainWords where
  source : String
  lead : String
  documentId : String
  boundaryId : Option Uuid

/-- The claim of a row. -/
def chainClaim (words : ChainWords) (row : CausalPathRow) : ChainClaim where
  lead := words.lead
  region := textOr row.region "unspecified region"
  chain := String.intercalate " -> " row.pathTypes
  details := textOr row.details "N/A"

/-- `extra_metadata`. -/
def chainMetadata (words : ChainWords) (row : CausalPathRow) : List (String × Json) :=
  [("visited_event_ids", .arr (row.pathIds.map fun eid => .str eid.text)),
    ("event_chain_path", .arr (row.pathTypes.map .str)),
    ("depth", .int row.depth),
    ("edge_confidences", .arr (row.edgeConfidences.map fun c => .float (.finite c)))] ++
    match words.boundaryId with
    | none => []
    | some boundaryId => [("boundary_id", .str boundaryId.text)]

/-- The evidence of a row. -/
def chainEvidence (words : ChainWords) (drawn : Uuid × Int) (row : CausalPathRow) :
    Except PyError Evidence :=
  Evidence.ofConfidence drawn.1 drawn.2 (calculateChainConfidence row.edgeConfidences)
    words.source (chainClaim words row).text (some words.documentId)
    (some (.inl row.eventId.text))
    (some ("Causal Path: " ++ String.intercalate " -> " row.pathTypes))
    (some "http://db.planetaryrisk.org/causal_chains") (chainMetadata words row)

/-- The loop over the rows; a row of one event is passed over. -/
def evidenceList (words : ChainWords) (drawn : Nat → Uuid × Int) :
    Nat → List CausalPathRow → Except PyError (List Evidence)
  | _, [] => .ok []
  | i, row :: rows =>
      if row.depth < 2 then evidenceList words drawn i rows
      else do
        let evidence ← chainEvidence words (drawn i) row
        let rest ← evidenceList words drawn (i + 1) rows
        return evidence :: rest

/-- What becomes of an error of the session. -/
def sessionError (timeoutMessage : String) (e : PyError) : PyError :=
  let errMsg := e.str.toLower
  if pyIn "57014" errMsg || pyIn "query canceled" errMsg || pyIn "statement timeout" errMsg then
    .exception timeoutMessage
  else e

/-- A call: the query, and the evidence of its rows. -/
def findChains (words : ChainWords) (timeoutMessage : String) (drawn : Nat → Uuid × Int)
    (sessionRaises : Option PyError) (rows : Option (List CausalPathRow)) :
    Option (Except PyError (List Evidence)) :=
  match sessionRaises with
  | some e => some (.error (sessionError timeoutMessage e))
  | none => rows.map (evidenceList words drawn 0)

section Find

variable {Point Area : Type} (tables : Tables Point Area) (gis : PostGis Point Area)
  (drawn : Nat → Uuid × Int) (sessionRaises : Option PyError) (rounds : Nat)

/-- The words of `find_causal_chain`. -/
def pointWords : ChainWords where
  source := "Causal Chain Traversal"
  lead := "Historical causal chain in "
  documentId := "causal_chain"
  boundaryId := none

/-- The words of `find_causal_chain_within_boundary`. -/
def boundaryWords (boundaryId : Uuid) : ChainWords where
  source := "Causal Chain Traversal (Boundary Mode)"
  lead := "Historical causal chain in boundary "
  documentId := "causal_chain_boundary"
  boundaryId := some boundaryId

/-- `find_causal_chain`. -/
def findCausalChain (eventType : String) (point : ℚ × ℚ) (radiusMeters : ℚ) (maxDepth : Int) :
    Option (Except PyError (List Evidence)) :=
  findChains pointWords "causal chain query exceeded time budget" drawn sessionRaises
    (causalPath tables maxDepth (pointAnchor tables gis eventType point radiusMeters) rounds)

/-- `find_causal_chain_within_boundary`. -/
def findCausalChainWithinBoundary (eventType : String) (boundaryId : Uuid) (maxDepth : Int) :
    Option (Except PyError (List Evidence)) :=
  findChains (boundaryWords boundaryId) "causal chain boundary query exceeded time budget" drawn
    sessionRaises
    (causalPath tables maxDepth (boundaryAnchor tables gis eventType boundaryId) rounds)

end Find

end CausalChain

end GaiaOS
