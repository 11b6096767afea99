/-
Whether a paper is stored once.

What a run adds is, for each paper that the table did not hold before the run, a set of rows
numbered from one.  The query for duplicates sees none of them, so a paper that is listed twice
adds two sets.  Counting the rows with the number one tells how many sets a paper has, and that
is how a table in which each paper has one set says that no paper was listed twice.
-/
import GaiaOS.Workers.LiteratureIngestionJob
import GaiaOS.Proofs.ChunkText
import GaiaOS.Lib.Machine
import GaiaOS.Lib.Relations
import Mathlib.Data.List.Dedup

namespace GaiaOS

namespace LiteratureIngestion

open Literature (LiteratureChunk)

/-! ### Sets of chunks -/

/-- Texts with their numbers, from one. -/
def numbered (contents : List String) : List (Option Int × String) :=
  contents.zipIdx.map fun (content, idx) => (some (idx + 1 : Nat), content)

/-- The rows of a source id. -/
def rowsOf (table : List LiteratureChunk) (sourceId : String) : List LiteratureChunk :=
  table.filter fun chunk => chunk.sourceId = some sourceId

/-- A run gets to its commit, and nothing is raised up to there. -/
structure Commits (run : LiteratureRun) (tables : Tables) : Prop where
  enabled : run.settings.enableArxivIngestion = true
  session : run.sessionFactory = true
  stores : ∃ papers stored, run.papers tables = .ok papers ∧ papers ≠ [] ∧
    run.storePapers papers tables = .ok stored

variable {table added : List LiteratureChunk} {paper : PaperRecord} {settings : LiteratureSettings}
  {run : LiteratureRun} {tables : Tables} {papers : List PaperRecord} {sourceId : String}

section After

variable {sets : List (List LiteratureChunk)}

end After

/-! ### A run -/

end LiteratureIngestion

end GaiaOS
