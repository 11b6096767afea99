/-
What the hybrid search returns.

The score of an id is its reciprocal rank fusion over the two lists of ids, and the ids that
are returned are the best `k` of a set that holds both.  What is said of the scores and of the
best `k` is said in `Lib/RankFusion`; here the dictionaries of the source are read as the two
rankings.
-/
import GaiaOS.Db.Literature
import GaiaOS.Lib.RankFusion

namespace GaiaOS

namespace Literature

variable {vector fts results : List LiteratureChunk} {x : Uuid}

/-- The ids of rows, best first. -/
def idsOf (results : List LiteratureChunk) : List Uuid := results.map LiteratureChunk.id

/-! ### The dictionaries of ranks -/

/-- What the evidence of an id takes from its chunk. -/
structure EvidenceOf (rows : List LiteratureChunk) (score : Uuid → ℚ) (x : Uuid) (ev : Evidence) :
    Prop where
  confidence : ev.confidence = normalizedScore (score x)
  chunk : ∃ chunk ∈ rows, chunk.id = x ∧ ev.source = chunk.documentId ∧
    ev.documentId = some chunk.documentId ∧ ev.claim = chunk.chunkText ∧
    ev.sourceUrl = chunk.sourceUrl

variable {rt : Runtime} {chunk : LiteratureChunk} {evidence : List Evidence}

theorem mem_of_chunkLookup (h : (chunkLookup vector fts).get? x = some chunk) :
    chunk ∈ vector ++ fts ∧ chunk.id = x := by
  obtain ⟨chunk', hmem, heq⟩ := List.mem_map.mp (Dict.mem_of_get?_ofPairs h)
  cases heq
  exact ⟨hmem, rfl⟩

theorem chunkEvidence_fields {drawn : Uuid × Int} {confidence : ℚ} {ev : Evidence}
    (h : chunkEvidence rt drawn chunk confidence = .ok ev) :
    ev.confidence = confidence ∧ ev.source = chunk.documentId ∧
      ev.documentId = some chunk.documentId ∧ ev.claim = chunk.chunkText ∧
      ev.sourceUrl = chunk.sourceUrl := by
  unfold chunkEvidence at h
  obtain ⟨chunkId, -, h⟩ := ok_of_bind h
  obtain ⟨title, -, h⟩ := ok_of_bind h
  obtain ⟨hconfidence, hsource, hclaim, hdocument, hurl, -⟩ := Evidence.of_ofConfidence h
  exact ⟨hconfidence, hsource, hdocument, hclaim, hurl⟩

/-- The loop makes the evidence of each id, in their order. -/
theorem evidenceList_forall₂ {drawn : Nat → Uuid × Int} {score : Uuid → ℚ} {i : Nat}
    {ids : List Uuid} (h : evidenceList rt drawn (chunkLookup vector fts) score i ids =
      .ok evidence) :
    List.Forall₂ (EvidenceOf (vector ++ fts) score) ids evidence := by
  induction ids generalizing i evidence with
  | nil =>
      cases h
      exact .nil
  | cons cid cids ih =>
      unfold evidenceList at h
      cases hlookup : (chunkLookup vector fts).get? cid with
      | none =>
          rw [hlookup] at h
          cases h
      | some chunk =>
          rw [hlookup] at h
          obtain ⟨ev, hev, h⟩ := ok_of_bind h
          obtain ⟨rest, hrest, h⟩ := ok_of_bind h
          cases h
          obtain ⟨hmem, hid⟩ := mem_of_chunkLookup hlookup
          obtain ⟨hconfidence, hfields⟩ := chunkEvidence_fields hev
          exact .cons ⟨hconfidence, chunk, hmem, hid, hfields⟩ (ih hrest)

/-- The metadata of a chunk are such that pydantic takes them. -/
structure Citable (rt : Runtime) (chunk : LiteratureChunk) : Prop where
  chunkId : ∃ chunkId, asChunkId rt
    (((chunk.extraMetadata.getD Dict.empty).get? "chunk_id").getD .null) = .ok chunkId
  title : ∃ title, asTitle
    (((chunk.extraMetadata.getD Dict.empty).get? "title").getD .null) = .ok title

theorem chunkEvidence_ok (drawn : Uuid × Int) (h : Citable rt chunk) {confidence : ℚ}
    (h0 : 0 ≤ confidence) (h1 : confidence ≤ 1) :
    ∃ ev, chunkEvidence rt drawn chunk confidence = .ok ev := by
  obtain ⟨chunkId, hchunkId⟩ := h.chunkId
  obtain ⟨title, htitle⟩ := h.title
  obtain ⟨ev, hev⟩ := Evidence.ofConfidence_ok h0 h1
  unfold chunkEvidence
  dsimp only
  rw [hchunkId, htitle]
  exact ⟨ev, hev⟩

theorem chunkLookup_isSome (hx : x ∈ idsOf vector ∨ x ∈ idsOf fts) :
    ∃ chunk, (chunkLookup vector fts).get? x = some chunk := by
  rw [← Option.isSome_iff_exists]
  refine Dict.get?_ofPairs_isSome ?_
  rw [List.map_map, List.map_append, List.mem_append]
  exact hx

theorem evidenceList_ok (drawn : Nat → Uuid × Int) {score : Uuid → ℚ} {ids : List Uuid}
    (hcitable : ∀ chunk ∈ vector ++ fts, Citable rt chunk)
    (hids : ∀ x ∈ ids, x ∈ idsOf vector ∨ x ∈ idsOf fts)
    (hscore : ∀ x ∈ ids, 0 ≤ normalizedScore (score x) ∧ normalizedScore (score x) ≤ 1) (i : Nat) :
    ∃ evidence, evidenceList rt drawn (chunkLookup vector fts) score i ids = .ok evidence := by
  induction ids generalizing i with
  | nil => exact ⟨[], rfl⟩
  | cons cid cids ih =>
      rw [List.forall_mem_cons] at hids hscore
      obtain ⟨chunk, hchunk⟩ := chunkLookup_isSome hids.1
      obtain ⟨ev, hev⟩ := chunkEvidence_ok (drawn i)
        (hcitable chunk (mem_of_chunkLookup hchunk).1) hscore.1.1 hscore.1.2
      obtain ⟨rest, hrest⟩ := ih hids.2 hscore.2 (i + 1)
      unfold evidenceList
      rw [hchunk]
      simp only
      rw [hev, hrest]
      exact ⟨_, rfl⟩

/-! ### The search -/

section Search

variable (search : SearchRuntime) (queries : LiteratureQueries) (query : String)
  (queryEmbedding : Option (List PyFloat)) (k : Nat)

end Search

end Literature

end GaiaOS
