/-
The investigations as researchers list them, after `list_research_investigations` of
`db/repository.py`, with the column `execution_trace` as the database holds it.
-/
import GaiaOS.Db.Investigations
import Mathlib.Data.List.Sort

namespace GaiaOS

/-! ### The column -/

def Severity.text : Severity → String
  | .low => "low"
  | .medium => "medium"
  | .high => "high"

def TraceFlag.toJson (flag : TraceFlag) : Json :=
  .obj [("claim_text", .str flag.claimText), ("flagged_reason", .str flag.flaggedReason),
    ("severity", .str flag.severity.text)]

def ExecutionTrace.toJson (trace : ExecutionTrace) : Json :=
  .obj [("nodes_executed", .arr (trace.nodesExecuted.map .str)),
    ("evidence_count", .int trace.evidenceCount), ("replan_count", .int trace.replanCount),
    ("critic_flags", .arr (trace.criticFlags.map TraceFlag.toJson))]

def StoredTrace.toJson : StoredTrace → Json
  | .execution trace => trace.toJson
  | .error message none => .obj [("error", .str message)]
  | .error message (some errorCode) =>
      .obj [("error", .str message), ("error_code", .str errorCode)]

/-- The column of a row, `null` if it is empty. -/
def Investigation.traceJson (row : Investigation) : Json :=
  (row.executionTrace.map StoredTrace.toJson).getD .null

/-! ### The query -/

section Query

/-- How the database compares letters without case, and writes a value that is no text. -/
structure Collation where
  same : Char → Char → Bool
  text : Json → String

/-- `LIKE`, with `%` for any text, `_` for a character and a backslash before a character that is
meant as it stands. -/
def likeChars (same : Char → Char → Bool) : List Char → List Char → Bool
  | [], text => text.isEmpty
  | '%' :: pattern, text => text.tails.any (likeChars same pattern)
  | '_' :: pattern, text =>
      match text with
      | [] => false
      | _ :: text => likeChars same pattern text
  | '\\' :: c :: pattern, text =>
      match text with
      | [] => false
      | d :: text => same c d && likeChars same pattern text
  | c :: pattern, text =>
      match text with
      | [] => false
      | d :: text => same c d && likeChars same pattern text

variable (collation : Collation)

/-- `text ILIKE pattern`; nothing is like a missing text. -/
def ilike (text : Option String) (pattern : String) : Bool :=
  match text with
  | none => false
  | some text => likeChars collation.same pattern.toList text.toList

/-- `column ->> key`. -/
def textOf (column : Json) (key : String) : Option String :=
  match column with
  | .obj entries =>
      match Json.field? entries key with
      | none | some .null => none
      | some (.str s) => some s
      | some value => some (collation.text value)
  | _ => none

/-- The filter by a domain. -/
def matchesDomain (domain : String) (row : Investigation) : Bool :=
  ilike collation (textOf collation row.traceJson "domains") ("%" ++ domain ++ "%") ||
    ilike collation row.complexityTier ("%" ++ domain ++ "%")

/-- `list_research_investigations`, newest first. -/
def listResearchInvestigations (rows : List Investigation) (domain : Option String)
    (since : Option Int) (limit : Nat) (offset : Nat) : List Investigation :=
  let selected := rows.filter fun row =>
    row.status == "complete" && since.all (· ≤ row.createdAt) &&
      (domain.filter (· ≠ "")).all (matchesDomain collation · row)
  ((selected.insertionSort fun row next => next.createdAt ≤ row.createdAt).drop offset).take limit

end Query

end GaiaOS
