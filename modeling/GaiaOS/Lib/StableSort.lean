/-
Where an element lands in a stable sort.

Sorting puts an element behind everything that has to come before it, and behind what may
come on either side of it and stood before it already.  So its place is a count over the list
as it was (`idxOf_insertionSort`), and being among the first `k` is a bound on that count.
-/
import Mathlib.Data.List.Sort

namespace GaiaOS

namespace StableSort

variable {α : Type} [DecidableEq α] {r : α → α → Prop} [DecidableRel r] [IsTrans α r]
  {x y : α} {l before after : List α}

/-- An element goes in behind those it may not precede. -/
theorem idxOf_orderedInsert_self (hsorted : l.Pairwise r) (hnew : x ∉ l) :
    (l.orderedInsert r x).idxOf x = l.countP fun z => ¬ r x z := by
  induction l with
  | nil => simp
  | cons z l ih =>
      rw [List.pairwise_cons] at hsorted
      rw [List.mem_cons, not_or] at hnew
      by_cases hz : r x z
      · have hnone : ∀ z' ∈ z :: l, ¬ decide (¬ r x z') = true := by
          intro z' hmem
          rcases List.mem_cons.mp hmem with rfl | hmem
          · simpa using hz
          · simpa using IsTrans.trans x z z' hz (hsorted.1 z' hmem)
        rw [List.orderedInsert_cons_of_le r l hz, List.idxOf_cons_self,
          List.countP_eq_zero.mpr hnone]
      · rw [List.orderedInsert_of_not_le r l hz, List.idxOf_cons_ne _ (Ne.symm hnew.1),
          ih hsorted.2 hnew.2, List.countP_cons_of_pos (by simpa using hz)]

/-- An element moves up by one that may precede it, and not by another. -/
theorem idxOf_orderedInsert_of_ne (hsorted : l.Pairwise r) (hmem : x ∈ l) (hne : y ≠ x) :
    (l.orderedInsert r y).idxOf x = l.idxOf x + if r y x then 1 else 0 := by
  induction l with
  | nil => cases hmem
  | cons z l ih =>
      rw [List.pairwise_cons] at hsorted
      by_cases hzx : z = x
      · subst hzx
        by_cases hyz : r y z
        · rw [List.orderedInsert_cons_of_le r l hyz, List.idxOf_cons_ne _ hne,
            List.idxOf_cons_self, if_pos hyz]
        · rw [List.orderedInsert_of_not_le r l hyz, List.idxOf_cons_self, List.idxOf_cons_self,
            if_neg hyz]
      · have htail : x ∈ l := (List.mem_cons.mp hmem).resolve_left (Ne.symm hzx)
        by_cases hyz : r y z
        · have hyx : r y x := IsTrans.trans y z x hyz (hsorted.1 x htail)
          rw [List.orderedInsert_cons_of_le r l hyz, List.idxOf_cons_ne _ hne, if_pos hyx]
        · rw [List.orderedInsert_of_not_le r l hyz, List.idxOf_cons_ne _ hzx,
            List.idxOf_cons_ne _ hzx, ih hsorted.2 htail]
          omega

variable [Std.Total r]

/-- The place of an element: behind what stood before it and may precede it, and behind what
stood after it and has to. -/
theorem idxOf_insertionSort (hnodup : (before ++ x :: after).Nodup) :
    ((before ++ x :: after).insertionSort r).idxOf x =
      (before.countP fun y => r y x) + after.countP fun y => ¬ r x y := by
  induction before with
  | nil =>
      have hnew : x ∉ after := (List.nodup_cons.mp hnodup).1
      rw [List.nil_append, List.insertionSort_cons,
        idxOf_orderedInsert_self (List.pairwise_insertionSort r after) (by simpa using hnew),
        (List.perm_insertionSort r after).countP_eq]
      simp
  | cons y before ih =>
      rw [List.cons_append, List.nodup_cons] at hnodup
      have hne : y ≠ x := by
        rintro rfl
        exact hnodup.1 (by simp)
      rw [List.cons_append, List.insertionSort_cons,
        idxOf_orderedInsert_of_ne (List.pairwise_insertionSort r _) (by simp) hne, ih hnodup.2,
        List.countP_cons]
      simp only [decide_eq_true_eq]
      omega

/-- An element is among the first `k` exactly if fewer than `k` go before it. -/
theorem mem_take_insertionSort (hnodup : (before ++ x :: after).Nodup) (k : Nat) :
    x ∈ ((before ++ x :: after).insertionSort r).take k ↔
      (before.countP fun y => r y x) + (after.countP fun y => ¬ r x y) < k := by
  rw [List.mem_take_iff_idxOf_lt (by simp), idxOf_insertionSort hnodup]

end StableSort

end GaiaOS
