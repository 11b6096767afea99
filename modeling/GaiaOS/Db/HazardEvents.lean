/-
The hazard tables, after `db/models/hazard_event.py`, `db/models/administrative_boundary.py`
and the migrations that create them.

The constraints of the tables are fields: identifiers are primary keys, a relationship refers
to events that exist, and no two relationships of one type join the same two events.  The
columns of PostGIS types are left abstract; `PostGis` is what the queries ask of them.
-/
import GaiaOS.Schemas.AgentIo

namespace GaiaOS

namespace HazardDb

/-- `HazardEvent`, with what the queries read. -/
structure HazardEvent (Point : Type) where
  id : Uuid
  eventType : String
  region : Option Point
  regionLabel : Option String
  details : Option String
  deriving DecidableEq

/-- `HazardRelationship`. -/
structure HazardRelationship where
  id : Uuid
  parentId : Uuid
  childId : Uuid
  relationshipType : String
  confidence : ℚ
  deriving DecidableEq

/-- `AdministrativeBoundary`, with what the queries read. -/
structure AdministrativeBoundary (Area : Type) where
  id : Uuid
  geom : Area

/-- The tables. -/
structure Tables (Point Area : Type) where
  hazardEvents : List (HazardEvent Point)
  hazardRelationships : List HazardRelationship
  administrativeBoundaries : List (AdministrativeBoundary Area)
  eventsPk : (hazardEvents.map (·.id)).Nodup
  relationshipsPk : (hazardRelationships.map (·.id)).Nodup
  boundariesPk : (administrativeBoundaries.map (·.id)).Nodup
  parentFk : ∀ hr ∈ hazardRelationships, ∃ he ∈ hazardEvents, he.id = hr.parentId
  childFk : ∀ hr ∈ hazardRelationships, ∃ he ∈ hazardEvents, he.id = hr.childId
  uqParentChildRel :
    (hazardRelationships.map fun hr => (hr.parentId, hr.childId, hr.relationshipType)).Nodup

/-- `ST_DWithin` around the point with a longitude and a latitude, and `ST_Within`. -/
structure PostGis (Point Area : Type) where
  stDWithin : Point → ℚ → ℚ → ℚ → Bool
  stWithin : Point → Area → Bool

end HazardDb

end GaiaOS
