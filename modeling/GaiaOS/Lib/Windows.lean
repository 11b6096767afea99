/-
Cutting a list into windows of one size, a step apart.

The next window starts a stride after the last, as long as there is anything left.  With a
stride of at most the size nothing is lost, and what two neighbours share can be dropped from the
second: the list is the first window and what each later one adds.  With a longer stride the
element behind the first window is lost, if there is one.
-/
import Mathlib.Data.List.Nodup

namespace GaiaOS

namespace Windows

variable {α β : Type} {size step : Nat} {l : List α} {x : α}

/-- The windows of a list, `step + 1` apart. -/
def windows (size step : Nat) : List α → List (List α)
  | [] => []
  | x :: xs => (x :: xs).take size :: windows size step (xs.drop step)
termination_by l => l.length
decreasing_by
  rw [List.length_drop, List.length_cons]
  omega

@[simp] theorem windows_nil : windows size step ([] : List α) = [] := by
  unfold windows
  rfl

theorem windows_of_ne_nil (h : l ≠ []) :
    windows size step l = l.take size :: windows size step (l.drop (step + 1)) := by
  cases l with
  | nil => exact absurd rfl h
  | cons x xs =>
      rw [windows]
      rfl

theorem windows_map (f : α → β) (l : List α) :
    windows size step (l.map f) = (windows size step l).map (List.map f) := by
  fun_induction windows size step l with
  | case1 => rw [List.map_nil, windows_nil, List.map_nil]
  | case2 x xs ih =>
      rw [List.map_cons, windows, ← List.map_cons, ← List.map_take, ← List.map_drop, ih]
      rfl

theorem length_windows_le (l : List α) : (windows size step l).length ≤ l.length := by
  fun_induction windows size step l with
  | case1 => exact Nat.le_refl 0
  | case2 x xs ih =>
      rw [List.length_drop] at ih
      rw [List.length_cons, List.length_cons]
      omega

/-! ### What is in a window -/

/-- A stride of at most the size loses nothing. -/
theorem exists_mem_windows (hstep : step + 1 ≤ size) (hx : x ∈ l) :
    ∃ w ∈ windows size step l, x ∈ w := by
  fun_induction windows size step l with
  | case1 => cases hx
  | case2 y ys ih =>
      rw [← List.take_append_drop size (y :: ys), List.mem_append] at hx
      rcases hx with hfirst | hlater
      · exact ⟨_, List.mem_cons_self, hfirst⟩
      · have hsub : (y :: ys).drop size ⊆ (y :: ys).drop (step + 1) :=
          (List.drop_sublist_drop_left _ hstep).subset
        obtain ⟨w, hw, hxw⟩ := ih (hsub hlater)
        exact ⟨w, List.mem_cons_of_mem _ hw, hxw⟩

theorem mem_of_mem_windows {w : List α} (hw : w ∈ windows size step l) (hx : x ∈ w) : x ∈ l := by
  fun_induction windows size step l with
  | case1 => cases hw
  | case2 y ys ih =>
      rcases List.mem_cons.mp hw with rfl | hw
      · exact List.mem_of_mem_take hx
      · exact List.mem_cons_of_mem _ (List.mem_of_mem_drop (ih hw))

/-- A longer stride loses the element behind the first window. -/
theorem not_mem_windows_of_gap (hnodup : l.Nodup) (hstep : size < step + 1) (hlt : size < l.length)
    {w : List α} (hw : w ∈ windows size step l) : l[size] ∉ w := by
  intro hmem
  rw [windows_of_ne_nil (List.ne_nil_of_length_pos (Nat.zero_lt_of_lt hlt))] at hw
  rcases List.mem_cons.mp hw with rfl | hw
  · obtain ⟨i, hi, heq⟩ := List.mem_take_iff_getElem.mp hmem
    have := hnodup.getElem_inj_iff.mp heq
    omega
  · obtain ⟨i, hi, heq⟩ := List.mem_drop_iff_getElem.mp (mem_of_mem_windows hw hmem)
    have := hnodup.getElem_inj_iff.mp heq
    omega

/-! ### Putting the windows together again -/

/-- The first window, and what is behind the overlap in each later one. -/
def rejoin (overlap : Nat) : List (List α) → List α
  | [] => []
  | first :: later => first ++ later.flatMap (List.drop overlap)

/-- What is behind the overlap in all windows of a list is what is behind it in the list. -/
theorem flatMap_drop_windows {overlap : Nat} (hoverlap : overlap ≤ size)
    (h : rejoin overlap (windows size step l) = l) :
    (windows size step l).flatMap (List.drop overlap) = l.drop overlap := by
  by_cases hl : l = []
  · rw [hl, windows_nil, List.drop_nil, List.flatMap_nil]
  rw [windows_of_ne_nil hl] at h ⊢
  rw [rejoin] at h
  rw [List.flatMap_cons]
  by_cases hle : overlap ≤ (l.take size).length
  · conv_rhs => rw [← h]
    rw [List.drop_append, Nat.sub_eq_zero_of_le hle, List.drop_zero]
  · -- a first window shorter than the overlap is the whole list
    have hwhole : l.take size = l := by
      rw [List.length_take] at hle
      exact List.take_of_length_le (by omega)
    rw [hwhole] at h ⊢
    rw [List.append_right_eq_self.mp h, List.append_nil]

/-- **The list is the first window and what each later one adds**, also where the last windows lie
in the overlap as a whole. -/
theorem rejoin_windows (hstep : step + 1 ≤ size) (l : List α) :
    rejoin (size - (step + 1)) (windows size step l) = l := by
  fun_induction windows size step l with
  | case1 => rfl
  | case2 x xs ih =>
      rw [rejoin, flatMap_drop_windows (Nat.sub_le _ _) ih, List.drop_drop]
      have hsplit : xs.drop (step + (size - (step + 1))) = (x :: xs).drop size := by
        obtain ⟨m, rfl⟩ : ∃ m, size = m + 1 := ⟨size - 1, by omega⟩
        rw [List.drop_succ_cons]
        congr 1
        omega
      rw [hsplit, List.take_append_drop]

end Windows

end GaiaOS
