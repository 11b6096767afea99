/-
What sanitizing a trace leaves.

No excluded key is left at any depth.  A path through one leads nowhere, and every other path leads
to what it led to: the same leaf, a list as long, an object with the other keys in the order they
had.  For a trace in which no object has a key twice, that describes one value only.
-/
import GaiaOS.App.Anonymization
import GaiaOS.Lib.JsonPath

namespace GaiaOS

namespace Anonymization

open Json

variable {rt : TextRuntime}

/-- In lower case the key is one of those that are excluded, or has a sensitive part in it. -/
def Excludes (rt : TextRuntime) (key : String) : Prop :=
  rt.lower key ∈ excludedTraceKeys ∨
    ∃ part ∈ sensitiveParts, part.toList <:+: (rt.lower key).toList

instance : DecidablePred (Excludes rt) := fun _ => inferInstanceAs (Decidable (_ ∨ _))

theorem isExcluded_iff (rt : TextRuntime) (key : String) :
    isExcluded rt key = true ↔ Excludes rt key := by
  unfold isExcluded Excludes pyIn
  simp

theorem isExcluded_eq (rt : TextRuntime) : isExcluded rt = fun key => decide (Excludes rt key) := by
  funext key
  rw [Bool.eq_iff_iff, isExcluded_iff, decide_eq_true_iff]

/-- The path goes through no excluded key. -/
def Innocent (rt : TextRuntime) (path : List Step) : Prop :=
  ∀ key, .key key ∈ path → ¬ Excludes rt key

theorem innocent_iff (rt : TextRuntime) (path : List Step) :
    Innocent rt path ↔ path.any (Step.through fun key => decide (Excludes rt key)) = false := by
  rw [List.any_eq_false]
  constructor
  · intro hinnocent step hstep
    cases step with
    | key name => simpa [Step.through] using hinnocent name hstep
    | index i => exact Bool.false_ne_true
  · intro hnone key hkey
    simpa [Step.through] using hnone (.key key) hkey

/-- What is left of the trace, and nothing else of it. -/
structure ExactlyLeft (rt : TextRuntime) (trace left : Json) : Prop where
  /-- No object at any depth has an excluded key. -/
  clean : ∀ key, left.Occurs key → ¬ Excludes rt key
  gone : ∀ path, ¬ Innocent rt path → left.at? path = none
  /-- The same leaf, a list as long, or an object with the other keys in their order. -/
  shapes : ∀ path, Innocent rt path →
    (left.at? path).map shape =
      (trace.at? path).map fun value => value.shape.without fun key => decide (Excludes rt key)
  /-- What has no excluded key in it is left as it is. -/
  kept : ∀ path value, Innocent rt path → trace.at? path = some value →
    (∀ key, value.Occurs key → ¬ Excludes rt key) → left.at? path = some value

theorem sanitizeExecutionTrace_eq (rt : TextRuntime) (trace : Json) :
    sanitizeExecutionTrace rt trace = trace.dropKeys fun key => decide (Excludes rt key) := by
  unfold sanitizeExecutionTrace
  rw [isExcluded_eq]

theorem exactlyLeft_sanitize (rt : TextRuntime) (trace : Json) :
    ExactlyLeft rt trace (sanitizeExecutionTrace rt trace) := by
  rw [sanitizeExecutionTrace_eq]
  refine ⟨fun key hkey => ?_, fun path hpath => ?_, fun path hpath => ?_,
    fun path value hpath hvalue hclean => ?_⟩
  · exact of_decide_eq_false (not_dropped_of_occurs hkey)
  · rw [innocent_iff, Bool.not_eq_false] at hpath
    rw [at?_dropKeys, if_pos hpath]
  · rw [innocent_iff] at hpath
    rw [at?_dropKeys, if_neg (by simp [hpath]), Option.map_map]
    congr 1
    funext value
    exact shape_dropKeys _ value
  · rw [innocent_iff] at hpath
    rw [at?_dropKeys, if_neg (by simp [hpath]), hvalue, Option.map_some,
      dropKeys_eq_self fun key hkey => decide_eq_false (hclean key hkey)]

/-- **Sanitizing a trace is exact**, and sanitizing it again changes nothing. -/
theorem sanitize_exact (rt : TextRuntime) (trace : Json) :
    ExactlyLeft rt trace (sanitizeExecutionTrace rt trace) ∧
      sanitizeExecutionTrace rt (sanitizeExecutionTrace rt trace) =
        sanitizeExecutionTrace rt trace :=
  ⟨exactlyLeft_sanitize rt trace, dropKeys_dropKeys _ trace⟩

/-- Nothing else is exactly what is left. -/
theorem exactlyLeft_iff {trace left : Json} (hdistinct : trace.Distinct) :
    ExactlyLeft rt trace left ↔ left = sanitizeExecutionTrace rt trace := by
  constructor
  · intro hleft
    have hsanitized := exactlyLeft_sanitize rt trace
    symm
    refine eq_of_shapes (hdistinct.dropKeys _) fun path => ?_
    by_cases hpath : Innocent rt path
    · exact (hsanitized.shapes path hpath).trans (hleft.shapes path hpath).symm
    · exact congrArg _ ((hsanitized.gone path hpath).trans (hleft.gone path hpath).symm)
  · rintro rfl
    exact exactlyLeft_sanitize rt trace

end Anonymization

end GaiaOS
