/-
Least and greatest readings over a list, and pairs drawn from it.

`min(f(x) for x in xs)` and `max(...)` over a non-empty list depend only on which
elements the list holds, not on their order or multiplicity, and they can only move
outwards when elements are added.  Both facts are instances of one comparison,
`minOf_anti` and `maxOf_mono`, which speak of one list being contained in another.

`pairs` is `itertools.combinations(xs, 2)`.  A symmetric test fails on every pair
exactly when it fails pairwise, which is the form permutations respect.
-/
import Mathlib.Order.Basic
import Mathlib.Data.List.Basic
import Mathlib.Order.MinMax
import Mathlib.Data.List.Pairwise
import Mathlib.Data.List.Perm.Basic
import Mathlib.Order.Lattice

namespace GaiaOS

section Extrema

variable {α K : Type*} [LinearOrder K]

/-- `min(f(x) for x in xs)`. -/
def minOf (f : α → K) (xs : List α) (h : xs ≠ []) : K :=
  (xs.map f).min (by simpa using h)

/-- `max(f(x) for x in xs)`. -/
def maxOf (f : α → K) (xs : List α) (h : xs ≠ []) : K :=
  (xs.map f).max (by simpa using h)

variable {f : α → K} {xs ys : List α}

theorem minOf_le {h : xs ≠ []} {x : α} (hx : x ∈ xs) : minOf f xs h ≤ f x :=
  List.min_le_of_mem (List.mem_map_of_mem hx)

theorem le_maxOf {h : xs ≠ []} {x : α} (hx : x ∈ xs) : f x ≤ maxOf f xs h :=
  List.le_max_of_mem (List.mem_map_of_mem hx)

/-- The least reading is some element's. -/
theorem exists_eq_minOf (f : α → K) (h : xs ≠ []) : ∃ x ∈ xs, f x = minOf f xs h := by
  obtain ⟨x, hx, heq⟩ := List.mem_map.mp (List.min_mem (l := xs.map f) (by simpa using h))
  exact ⟨x, hx, heq⟩

theorem exists_eq_maxOf (f : α → K) (h : xs ≠ []) : ∃ x ∈ xs, f x = maxOf f xs h := by
  obtain ⟨x, hx, heq⟩ := List.mem_map.mp (List.max_mem (l := xs.map f) (by simpa using h))
  exact ⟨x, hx, heq⟩

/-- More elements can only lower the least reading. -/
theorem minOf_anti (hx : xs ≠ []) (hy : ys ≠ []) (hsub : xs ⊆ ys) :
    minOf f ys hy ≤ minOf f xs hx := by
  obtain ⟨x, hmem, heq⟩ := exists_eq_minOf f hx
  rw [← heq]
  exact minOf_le (hsub hmem)

/-- More elements can only raise the greatest reading. -/
theorem maxOf_mono (hx : xs ≠ []) (hy : ys ≠ []) (hsub : xs ⊆ ys) :
    maxOf f xs hx ≤ maxOf f ys hy := by
  obtain ⟨x, hmem, heq⟩ := exists_eq_maxOf f hx
  rw [← heq]
  exact le_maxOf (hsub hmem)

theorem minOf_perm (hx : xs ≠ []) (hy : ys ≠ []) (hp : xs.Perm ys) :
    minOf f xs hx = minOf f ys hy :=
  le_antisymm (minOf_anti hy hx hp.symm.subset) (minOf_anti hx hy hp.subset)

theorem maxOf_perm (hx : xs ≠ []) (hy : ys ≠ []) (hp : xs.Perm ys) :
    maxOf f xs hx = maxOf f ys hy :=
  le_antisymm (maxOf_mono hx hy hp.subset) (maxOf_mono hy hx hp.symm.subset)

end Extrema

section Pairs

variable {α : Type*}

/-- `itertools.combinations(xs, 2)`. -/
def pairs : List α → List (α × α)
  | [] => []
  | x :: xs => xs.map (fun y => (x, y)) ++ pairs xs

/-- No pair passes the test exactly when the list fails it pairwise. -/
theorem any_pairs_eq_false (test : α → α → Bool) (xs : List α) :
    (pairs xs).any (fun p => test p.1 p.2) = false ↔
      xs.Pairwise (fun x y => test x y = false) := by
  induction xs with
  | nil => simp [pairs]
  | cons x xs ih =>
      rw [List.pairwise_cons, ← ih]
      simp [pairs, List.any_append]

/-- A symmetric test passes on some pair whatever the order of the list. -/
theorem any_pairs_perm {test : α → α → Bool} (hsymm : ∀ x y, test x y = test y x)
    {xs ys : List α} (hp : xs.Perm ys) :
    (pairs xs).any (fun p => test p.1 p.2) = (pairs ys).any (fun p => test p.1 p.2) := by
  have hiff := hp.pairwise_iff (R := fun x y => test x y = false)
    (fun {x y} h => by rw [hsymm]; exact h)
  rw [← any_pairs_eq_false, ← any_pairs_eq_false] at hiff
  rw [Bool.eq_iff_iff, ← not_iff_not]
  simpa using hiff

/-- Appending elements keeps a pair that passed. -/
theorem any_pairs_append {test : α → α → Bool} {xs : List α} (ys : List α)
    (h : (pairs xs).any (fun p => test p.1 p.2) = true) :
    (pairs (xs ++ ys)).any (fun p => test p.1 p.2) = true := by
  by_contra hc
  rw [Bool.not_eq_true, any_pairs_eq_false] at hc
  have hsub := (any_pairs_eq_false test xs).mpr (List.pairwise_append.mp hc).1
  rw [hsub] at h
  exact Bool.noConfusion h

end Pairs

end GaiaOS
