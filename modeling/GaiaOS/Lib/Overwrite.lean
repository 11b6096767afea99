/-
A variable that a loop overwrites.

`lastWith f l` is what is left in a variable after a loop over `l` that assigns `f a` to it
whenever that is something.  Only the last item with a value shows, so any value of the list can be
made to show by reordering it (`exists_perm_lastWith`), and the order does not matter exactly as far
as the values agree (`lastWith_rel_of_agree`).
-/
import Mathlib.Data.List.Induction
import Mathlib.Data.List.Perm.Basic
import Mathlib.Data.Option.Basic

namespace GaiaOS

variable {α β : Type}

/-- The value of the last item that has one. -/
def lastWith (f : α → Option β) (l : List α) : Option β :=
  l.foldl (fun acc a => (f a).or acc) none

/-- Any two values of the list are related. -/
def ValuesAgree (f : α → Option β) (R : β → β → Prop) (l : List α) : Prop :=
  ∀ a ∈ l, ∀ b ∈ l, ∀ x y, f a = some x → f b = some y → R x y

theorem lastWith_concat (f : α → Option β) (l : List α) (a : α) :
    lastWith f (l ++ [a]) = (f a).or (lastWith f l) := by
  unfold lastWith
  rw [List.foldl_append]
  rfl

/-- What shows is the value of some item. -/
theorem mem_of_lastWith {f : α → Option β} {l : List α} {x : β} (h : lastWith f l = some x) :
    ∃ a ∈ l, f a = some x := by
  induction l using List.reverseRecOn with
  | nil => cases h
  | append_singleton l a ih =>
      rw [lastWith_concat, Option.or_eq_some_iff] at h
      rcases h with hlast | ⟨-, hrest⟩
      · exact ⟨a, by simp, hlast⟩
      · obtain ⟨b, hb, hx⟩ := ih hrest
        exact ⟨b, List.mem_append_left _ hb, hx⟩

theorem lastWith_eq_none_iff {f : α → Option β} {l : List α} :
    lastWith f l = none ↔ ∀ a ∈ l, f a = none := by
  induction l using List.reverseRecOn with
  | nil => simp [lastWith]
  | append_singleton l a ih =>
      rw [lastWith_concat, Option.or_eq_none_iff, ih]
      simp only [List.mem_append, List.mem_singleton, or_imp, forall_and, forall_eq]
      exact and_comm

/-- Any value of the list shows in some order. -/
theorem exists_perm_lastWith {f : α → Option β} {l : List α} {a : α} {x : β} (ha : a ∈ l)
    (hx : f a = some x) : ∃ l', l.Perm l' ∧ lastWith f l' = some x := by
  obtain ⟨s, t, rfl⟩ := List.append_of_mem ha
  refine ⟨s ++ t ++ [a], ?_, ?_⟩
  · rw [List.append_assoc]
    exact (List.perm_append_singleton a t).symm.append_left s
  · rw [lastWith_concat, hx, Option.some_or]

/-- Values that agree show the same in any order. -/
theorem lastWith_rel_of_agree {f : α → Option β} {R : β → β → Prop} {l l' : List α}
    (h : ValuesAgree f R l) (hp : l.Perm l') : Option.Rel R (lastWith f l) (lastWith f l') := by
  cases hlast : lastWith f l with
  | none =>
      have hnone : lastWith f l' = none :=
        lastWith_eq_none_iff.mpr fun a ha => lastWith_eq_none_iff.mp hlast a (hp.mem_iff.mpr ha)
      rw [hnone]
      exact .none
  | some x =>
      obtain ⟨a, ha, hx⟩ := mem_of_lastWith hlast
      cases hlast' : lastWith f l' with
      | none =>
          have hnone := lastWith_eq_none_iff.mp hlast' a (hp.mem_iff.mp ha)
          rw [hx] at hnone
          cases hnone
      | some y =>
          obtain ⟨b, hb, hy⟩ := mem_of_lastWith hlast'
          exact .some (h a ha b (hp.mem_iff.mpr hb) x y hx hy)

end GaiaOS
