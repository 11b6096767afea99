/-
The table of pattern findings, after `db/models/pattern_finding.py` and the
`PatternFindingRepository` of `db/repository.py`.

A finding is one version of a pattern.  The repository never deletes: saving a pattern takes the
flag `is_active` from the versions there are under its hash and adds the next one.  What
`save_pattern_version` is called with is a record of its own, so that a version is that record
with a number and the flag.
-/
import GaiaOS.Schemas.Uncertainty
import GaiaOS.Lib.Versions
import Mathlib.Data.List.Sort

namespace GaiaOS

/-- The arguments of `save_pattern_version`; times are microseconds since the epoch. -/
structure PatternFields where
  patternHash : String
  sourceEventType : String
  targetEventType : String
  regionLabel : Option String
  timeWindowDays : Nat
  supportCount : Nat
  totalSourceEvents : Nat
  totalTargetEvents : Nat
  observedRate : ℚ
  baselineRate : ℚ
  lift : ℚ
  statisticalConfidence : ℚ
  uncertainty : UncertaintyEstimate
  supportingEventIds : List String
  description : String
  minedAt : Int
  algorithmVersion : String := "1.0"
  deriving DecidableEq

/-- `PatternFinding`. -/
structure PatternFinding extends PatternFields where
  version : Nat := 1
  isActive : Bool := true
  deriving DecidableEq

namespace PatternFindingRepository

/-- The versions under a hash, the highest first. -/
def existingFindings (table : List PatternFinding) (patternHash : String) :
    List PatternFinding :=
  (table.filter fun row => row.patternHash = patternHash).insertionSort
    fun row other => other.version ≤ row.version

/-- `next_version`. -/
def nextVersion (existing : List PatternFinding) : Nat :=
  match existing with
  | [] => 1
  | newest :: _ => newest.version + 1

/-- `old_finding.is_active = False` on the active ones under a hash. -/
def deactivate (patternHash : String) (row : PatternFinding) : PatternFinding :=
  if row.patternHash = patternHash ∧ row.isActive = true then { row with isActive := false }
  else row

/-- `save_pattern_version`: the new finding, and the table with it. -/
def savePatternVersion (table : List PatternFinding) (fields : PatternFields) :
    PatternFinding × List PatternFinding :=
  let existing := existingFindings table fields.patternHash
  let newFinding : PatternFinding :=
    { fields with version := nextVersion existing, isActive := true }
  (newFinding, table.map (deactivate fields.patternHash) ++ [newFinding])

/-! ### The table keeps versions -/

/-- Findings are versions of their fields, by the hash. -/
def versioning : Versioning PatternFinding PatternFields String where
  key := PatternFields.patternHash
  entry := PatternFinding.toPatternFields
  version := PatternFinding.version
  active := PatternFinding.isActive
  retire row := { row with isActive := false }
  entry_retire _ := rfl
  version_retire _ := rfl
  active_retire _ := rfl

/-- The highest version first is the highest version. -/
theorem nextVersion_existingFindings (table : List PatternFinding) (patternHash : String) :
    nextVersion (existingFindings table patternHash) =
      versioning.nextVersion table patternHash := by
  have hperm := List.perm_insertionSort
    (fun row other : PatternFinding => other.version ≤ row.version)
    (table.filter fun row => row.patternHash = patternHash)
  have hsorted := List.pairwise_insertionSort
    (fun row other : PatternFinding => other.version ≤ row.version)
    (table.filter fun row => row.patternHash = patternHash)
  change List.Perm (existingFindings table patternHash) _ at hperm
  change List.Pairwise _ (existingFindings table patternHash) at hsorted
  have hmax : ((versioning.rowsOf table patternHash).map versioning.version).max? =
      (existingFindings table patternHash).head?.map PatternFinding.version := by
    cases hexisting : existingFindings table patternHash with
    | nil =>
        rw [hexisting] at hperm
        have hrows : versioning.rowsOf table patternHash = [] := List.nil_perm.mp hperm
        rw [hrows]
        rfl
    | cons newest older =>
        rw [hexisting] at hperm hsorted
        rw [List.head?_cons, Option.map_some, List.max?_eq_some_iff]
        refine ⟨List.mem_map_of_mem (hperm.mem_iff.mp List.mem_cons_self), ?_⟩
        intro v hv
        obtain ⟨row, hrow, rfl⟩ := List.mem_map.mp hv
        rcases List.mem_cons.mp (hperm.mem_iff.mpr hrow) with rfl | hrow
        · exact le_refl _
        · exact (List.pairwise_cons.mp hsorted).1 row hrow
  unfold Versioning.nextVersion
  rw [hmax]
  cases existingFindings table patternHash <;> rfl

/-- **Saving is adding a version.** -/
theorem savePatternVersion_eq (table : List PatternFinding) (fields : PatternFields) :
    (savePatternVersion table fields).2 =
      versioning.supersede table fields
        fun v => { fields with version := v, isActive := true } := by
  unfold savePatternVersion Versioning.supersede
  simp only [nextVersion_existingFindings]
  rfl

/-- What was saved so far is kept with its numbers, and the last of each hash is active. -/
theorem records_savePatternVersion {saved : List PatternFields} {table : List PatternFinding}
    (h : versioning.Records saved table) (fields : PatternFields) :
    versioning.Records (saved ++ [fields]) (savePatternVersion table fields).2 := by
  rw [savePatternVersion_eq]
  exact h.supersede (fun _ => rfl) (fun _ => rfl) fun _ => rfl

end PatternFindingRepository

end GaiaOS
