/-
The literature chunks and the hybrid search over them, after `LiteratureChunk` and
`LiteratureRepository.hybrid_search` in `db/repository.py`.

Scores are exact rationals.  What the database finds is a parameter: the rows of the two
queries, best first, at most as many as the limit and no row twice.
-/
import GaiaOS.Schemas.AgentIo
import GaiaOS.Lib.Dict
import Mathlib.Data.List.Sort

namespace GaiaOS

namespace Literature

/-- `LiteratureChunk`. -/
structure LiteratureChunk where
  id : Uuid
  documentId : String
  sourceId : Option String
  chunkText : String
  embedding : Option (List PyFloat)
  sourceUrl : Option String
  extraMetadata : Option (Dict String Json)

/-- The rows of a query with `.limit(k)`, in its order. -/
structure RankedRows (k : Nat) where
  rows : List LiteratureChunk
  nodup : (rows.map LiteratureChunk.id).Nodup
  length_le : rows.length ≤ k

/-- The two queries of the search. -/
structure LiteratureQueries where
  nearest : List PyFloat → (k : Nat) → RankedRows k
  matching : String → (k : Nat) → RankedRows k

def rrfConstant : ℚ := 60

def maxPossibleScore : ℚ := 2 / (rrfConstant + 1)

/-- `normalized_score`, with the clamp. -/
def normalizedScore (score : ℚ) : ℚ := max 0 (min 1 (score / maxPossibleScore))

/-- `{chunk.id: chunk for chunk in vector_results + fts_results}`. -/
def chunkLookup (vectorResults ftsResults : List LiteratureChunk) : Dict Uuid LiteratureChunk :=
  Dict.ofPairs ((vectorResults ++ ftsResults).map fun chunk => (chunk.id, chunk))

/-! ### The evidence -/

/-- Pydantic's reading of `chunk_id: str | int | None`: a text stays one. -/
def asChunkId (rt : Runtime) : Json → Except PyError (Option (String ⊕ Int))
  | .null => .ok none
  | .str s => .ok (some (.inl s))
  | value =>
      match value.asInt? rt with
      | some n => .ok (some (.inr n))
      | none => .error (.validationError "Evidence" "chunk_id")

/-- Pydantic's reading of `title: str | None`. -/
def asTitle : Json → Except PyError (Option String)
  | .null => .ok none
  | .str s => .ok (some s)
  | _ => .error (.validationError "Evidence" "title")

/-- The evidence of a chunk.  The confidence is in range, so the other fields are read first. -/
def chunkEvidence (rt : Runtime) (drawn : Uuid × Int) (chunk : LiteratureChunk)
    (normalizedScore : ℚ) : Except PyError Evidence := do
  let metadata := chunk.extraMetadata.getD Dict.empty
  let chunkId ← asChunkId rt ((metadata.get? "chunk_id").getD .null)
  let title ← asTitle ((metadata.get? "title").getD .null)
  Evidence.ofConfidence drawn.1 drawn.2 normalizedScore chunk.documentId chunk.chunkText
    (some chunk.documentId) chunkId title chunk.sourceUrl []

/-- The loop over `top_k_ids`. -/
def evidenceList (rt : Runtime) (drawn : Nat → Uuid × Int)
    (lookup : Dict Uuid LiteratureChunk) (rrfScores : Uuid → ℚ) :
    Nat → List Uuid → Except PyError (List Evidence)
  | _, [] => .ok []
  | i, cid :: cids =>
      match lookup.get? cid with
      | none => .error (.keyError cid.text)
      | some chunk => do
          let evidence ← chunkEvidence rt (drawn i) chunk (normalizedScore (rrfScores cid))
          let rest ← evidenceList rt drawn lookup rrfScores (i + 1) cids
          return evidence :: rest

/-- The rows of the vector query, which is made if there is an embedding. -/
def vectorResults (queries : LiteratureQueries) (queryEmbedding : Option (List PyFloat))
    (k : Nat) : List LiteratureChunk :=
  match queryEmbedding with
  | some embedding => (queries.nearest embedding k).rows
  | none => []

end Literature

end GaiaOS
