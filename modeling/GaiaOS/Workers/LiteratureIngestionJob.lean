/-
The literature ingestion, after `workers/jobs/literature_ingestion_job.py`, and the papers
that `arxiv_open_access.py` makes of the entries of a feed.

A text is cut by a loop over a start index, with the integers of the settings as they are.
Slicing does not look at the characters, so the loop is that of any list.

A run adds the chunks of new papers to its session and commits once.  The session does not
flush before a query, so what a run asks about a paper it asks of the table as it was committed
before.  The row of the metric is written in a transaction of its own.
-/
import GaiaOS.Db.Literature
import GaiaOS.Lib.Extrema

namespace GaiaOS

namespace LiteratureIngestion

/-! ### `chunk_text` -/

section ChunkText

variable {α : Type}

/-- `text[start:end]`, of bounds that are not negative. -/
def slice (text : List α) (start stop : Int) : List α := (text.take stop.toNat).drop start.toNat

/-- The `while` loop: a chunk a round, and two ways out. -/
def chunkLoop (text : List α) (chunkSize chunkOverlap start : Int) : List (List α) :=
  if start < text.length then
    let stop := start + chunkSize
    let next := start + (chunkSize - chunkOverlap)
    slice text start stop ::
      if next ≥ text.length ∨ chunkSize ≤ chunkOverlap then []
      else chunkLoop text chunkSize chunkOverlap next
  else []
termination_by (text.length - start).toNat

/-- `chunk_text`. -/
def chunkText (text : List α) (chunkSize chunkOverlap : Int) : List (List α) :=
  if chunkSize ≤ 0 then [text] else chunkLoop text chunkSize chunkOverlap 0

end ChunkText

/-! ### Papers -/

/-- `PaperRecord`. -/
structure PaperRecord where
  sourceId : String
  title : String
  authors : List String
  publishedDate : Int
  abstractAndBody : String
  sourceUrl : String
  extraMetadata : Dict String Json

/-- What is read of an entry of the feed. -/
structure ArxivEntry where
  arxivId : String
  title : String
  summary : String
  authors : List String
  pubDate : Int
  updatedDate : String
  primaryCat : String
  pdfUrl : String

/-- The record that `fetch_new_arxiv_papers` makes of an entry. -/
def ArxivEntry.paper (entry : ArxivEntry) : PaperRecord where
  sourceId := entry.arxivId
  title := entry.title
  authors := entry.authors
  publishedDate := entry.pubDate
  abstractAndBody := "Title: " ++ entry.title ++ "\nAbstract: " ++ entry.summary
  sourceUrl := entry.pdfUrl
  extraMetadata := Dict.ofPairs
    [("arxiv_id", .str entry.arxivId), ("primary_category", .str entry.primaryCat),
      ("updated_date", .str entry.updatedDate), ("authors", .arr (entry.authors.map .str)),
      ("abstract", .str entry.summary)]

/-! ### A run -/

open Literature (LiteratureChunk)

/-- `literature_chunks` and `ingestion_cursors`, as committed. -/
structure Tables where
  literatureChunks : List LiteratureChunk
  ingestionCursors : Dict String Int

/-- The fields of `Settings` the job reads. -/
structure LiteratureSettings where
  enableArxivIngestion : Bool := true
  arxivCategories : List String := ["physics.ao-ph", "physics.geo-ph"]
  chunkSize : Int := 500
  chunkOverlap : Int := 50

/-- `embed_documents` of a provider. -/
abbrev EmbeddingProvider := List String → Except PyError (List (List PyFloat))

/-- The argument of a run, and what it runs in: the papers of the feed, the provider of
embeddings, the identifiers that new rows draw, and what the database raises. -/
structure LiteratureRun where
  source : String := "arxiv"
  settings : LiteratureSettings := {}
  /-- There is a session factory. -/
  sessionFactory : Bool := true
  /-- The entries, in the order in which the papers are returned. -/
  fetch : Option Int → List String → Except PyError (List ArxivEntry)
  provider : Except PyError EmbeddingProvider
  drawId : Nat → Uuid
  cursorError : Option PyError := none
  /-- Raised by the query for the paper with an index. -/
  duplicateError : Nat → Option PyError := fun _ => none
  upsertError : Option PyError := none
  commitError : Option PyError := none
  metricError : Option PyError := none

/-- `source.strip().lower()`. -/
def LiteratureRun.sourceClean (run : LiteratureRun) : String := (pyStrip run.source).toLower

/-- What the job returns. -/
inductive Reply
  | disabled (source : String) (recordsInserted : Nat)
  | success (source : String) (recordsFetched recordsInserted : Nat)
  deriving DecidableEq

/-- `records_inserted` of a reply. -/
def Reply.recordsInserted : Reply → Nat
  | disabled _ recordsInserted => recordsInserted
  | success _ _ recordsInserted => recordsInserted

/-- `raise exc`, where there is one. -/
def raiseIf (exc : Option PyError) : Except PyError Unit :=
  match exc with
  | some e => .error e
  | none => .ok ()

/-- Where the loop over the papers is: the rows added to the session, and the papers they are of,
with `records_inserted`. -/
structure Progress where
  added : List LiteratureChunk := []
  recordsInserted : Nat := 0
  successfullyIngested : List PaperRecord := []

/-- `SELECT 1 FROM literature_chunks WHERE source_id = :source_id`. -/
def isStored (table : List LiteratureChunk) (sourceId : String) : Bool :=
  table.any fun chunk => chunk.sourceId = some sourceId

/-- The chunks of a paper's text. -/
def LiteratureSettings.chunksOf (settings : LiteratureSettings) (paper : PaperRecord) :
    List String :=
  (chunkText paper.abstractAndBody.toList settings.chunkSize settings.chunkOverlap).map
    String.ofList

/-- `meta`: what the record brings along goes over the number. -/
def chunkMetadata (paper : PaperRecord) (idx : Nat) : Dict String Json :=
  (Dict.ofPairs
    [("title", .str paper.title), ("chunk_id", .int (idx + 1 : Nat)),
      ("authors", .arr (paper.authors.map .str))]).update paper.extraMetadata

/-- The row of a chunk. -/
def chunkRow (paper : PaperRecord) (id : Uuid) (idx : Nat) (content : String)
    (embedding : List PyFloat) : LiteratureChunk where
  id
  documentId := "arxiv_" ++ paper.sourceId
  sourceId := some paper.sourceId
  chunkText := content
  embedding := some embedding
  sourceUrl := some paper.sourceUrl
  extraMetadata := some (chunkMetadata paper idx)

/-- `db_chunks`; the lists must be of one length. -/
def chunkRows (paper : PaperRecord) (ids : Nat → Uuid) (chunks : List String)
    (embeddings : List (List PyFloat)) : Except PyError (List LiteratureChunk) :=
  if chunks.length = embeddings.length then
    .ok ((chunks.zip embeddings).zipIdx.map fun ((content, embedding), idx) =>
      chunkRow paper (ids idx) idx content embedding)
  else .error (.valueError "zip() arguments have different lengths")

/-- A pass of the loop over the papers. -/
def LiteratureRun.pass (run : LiteratureRun) (provider : EmbeddingProvider)
    (table : List LiteratureChunk) (progress : Progress) (item : PaperRecord × Nat) :
    Except PyError Progress := do
  raiseIf (run.duplicateError item.2)
  if isStored table item.1.sourceId then
    return progress
  let chunks := run.settings.chunksOf item.1
  if chunks = [] then
    return progress
  let embeddings ← provider chunks
  let ids := fun idx => run.drawId (progress.added.length + idx)
  let rows ← chunkRows item.1 ids chunks embeddings
  return { added := progress.added ++ rows
           recordsInserted := progress.recordsInserted + 1
           successfullyIngested := progress.successfullyIngested ++ [item.1] }

/-- The cursor, if any paper was ingested. -/
def advanceCursor (sourceClean : String) (papers : List PaperRecord) (cursors : Dict String Int) :
    Dict String Int :=
  if h : papers = [] then cursors
  else cursors.set sourceClean (maxOf PaperRecord.publishedDate papers h)

/-- The transaction of some papers. -/
def LiteratureRun.storePapers (run : LiteratureRun) (papers : List PaperRecord) (tables : Tables) :
    Except PyError (Tables × Nat) := do
  let provider ← run.provider
  let progress ← papers.zipIdx.foldlM (run.pass provider tables.literatureChunks) {}
  raiseIf (if progress.successfullyIngested = [] then none else run.upsertError)
  raiseIf run.commitError
  return (⟨tables.literatureChunks ++ progress.added,
    advanceCursor run.sourceClean progress.successfullyIngested tables.ingestionCursors⟩,
    progress.recordsInserted)

/-- The papers a run fetches. -/
def LiteratureRun.papers (run : LiteratureRun) (tables : Tables) :
    Except PyError (List PaperRecord) := do
  raiseIf run.cursorError
  let lastIngestedAt := tables.ingestionCursors.get? run.sourceClean
  let entries ← run.fetch lastIngestedAt run.settings.arxivCategories
  return entries.map ArxivEntry.paper

end LiteratureIngestion

end GaiaOS
