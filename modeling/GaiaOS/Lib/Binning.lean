/-
Sums over the bins of a list.

Every element of a list falls into a bin, and each bin has the sum of a weight over what fell into
it.  The spread is the sum of the sizes of these sums.  It is at least the size of the sum over the
whole list and at most the sum of the sizes (`abs_sum_le_spread`, `spread_le`), and cutting every
bin into equal parts never lowers it (`spread_le_of_cut`).
-/
import Mathlib.Algebra.BigOperators.Group.Finset.Piecewise
import Mathlib.Algebra.BigOperators.Group.List.Lemmas
import Mathlib.Algebra.Order.BigOperators.Group.Finset
import Mathlib.Algebra.Order.BigOperators.Group.List
import Mathlib.Algebra.Order.Group.Abs

namespace GaiaOS

namespace Binning

variable {α K : Type} [AddCommGroup K] {bin fine : α → Nat} {weight : α → K} {n m : Nat}
  {l l' : List α}

/-- The sum of the weight over what falls into a bin. -/
def binSum (bin : α → Nat) (weight : α → K) (l : List α) (i : Nat) : K :=
  ((l.filter (bin · = i)).map weight).sum

theorem binSum_cons (a : α) (l : List α) (i : Nat) :
    binSum bin weight (a :: l) i = (if bin a = i then weight a else 0) + binSum bin weight l i := by
  unfold binSum
  by_cases h : bin a = i
  · simp [h]
  · simp [h]

theorem binSum_append (l l' : List α) (i : Nat) :
    binSum bin weight (l ++ l') i = binSum bin weight l i + binSum bin weight l' i := by
  unfold binSum
  rw [List.filter_append, List.map_append, List.sum_append]

theorem binSum_perm (h : l.Perm l') (i : Nat) :
    binSum bin weight l i = binSum bin weight l' i :=
  ((h.filter _).map _).sum_eq

/-- A list repeated has every sum as often. -/
theorem binSum_repeat (r : Nat) (l : List α) (i : Nat) :
    binSum bin weight (List.replicate r l).flatten i = r • binSum bin weight l i := by
  induction r with
  | zero => simp [binSum]
  | succ r ih =>
      rw [List.replicate_succ, List.flatten_cons, binSum_append, ih, succ_nsmul']

/-- The bins together have the whole list. -/
theorem sum_binSum (h : ∀ a ∈ l, bin a < n) :
    ∑ i ∈ Finset.range n, binSum bin weight l i = (l.map weight).sum := by
  induction l with
  | nil => simp [binSum]
  | cons a l ih =>
      have ha : bin a ∈ Finset.range n := Finset.mem_range.mpr (h a List.mem_cons_self)
      simp only [binSum_cons]
      rw [Finset.sum_add_distrib, Finset.sum_ite_eq, if_pos ha,
        ih fun b hb => h b (List.mem_cons_of_mem _ hb), List.map_cons, List.sum_cons]

/-- A bin is the sum of the parts it is cut into. -/
theorem binSum_cut (hm : 0 < m) (l : List α) (i : Nat) :
    binSum (fun a => fine a / m) weight l i =
      ∑ r ∈ Finset.range m, binSum fine weight l (i * m + r) := by
  induction l with
  | nil => simp [binSum]
  | cons a l ih =>
      simp only [binSum_cons]
      rw [Finset.sum_add_distrib, ← ih]
      congr 1
      by_cases h : fine a / m = i
      · have hr : fine a % m ∈ Finset.range m := Finset.mem_range.mpr (Nat.mod_lt _ hm)
        have hsplit : fine a = i * m + fine a % m := by
          rw [← h, mul_comm]
          exact (Nat.div_add_mod _ _).symm
        rw [if_pos h, Finset.sum_eq_single_of_mem _ hr, if_pos hsplit]
        intro r _ hne
        refine if_neg fun heq => hne ?_
        omega
      · rw [if_neg h]
        refine (Finset.sum_eq_zero fun r hr => if_neg fun heq => h ?_).symm
        rw [heq, mul_comm, Nat.mul_add_div hm, Nat.div_eq_of_lt (Finset.mem_range.mp hr), add_zero]

theorem sum_range_mul (f : Nat → K) (n m : Nat) :
    ∑ j ∈ Finset.range (n * m), f j =
      ∑ i ∈ Finset.range n, ∑ r ∈ Finset.range m, f (i * m + r) := by
  induction n with
  | zero => simp
  | succ n ih => rw [Nat.succ_mul, Finset.sum_range_add, ih, Finset.sum_range_succ]

variable [LinearOrder K] [IsOrderedAddMonoid K]

/-- The sum of the sizes of the bins' sums. -/
def spread (bin : α → Nat) (n : Nat) (weight : α → K) (l : List α) : K :=
  ∑ i ∈ Finset.range n, |binSum bin weight l i|

theorem spread_nonneg (bin : α → Nat) (n : Nat) (weight : α → K) (l : List α) :
    0 ≤ spread bin n weight l :=
  Finset.sum_nonneg fun _ _ => abs_nonneg _

omit [IsOrderedAddMonoid K] in
theorem spread_perm (h : l.Perm l') : spread bin n weight l = spread bin n weight l' :=
  Finset.sum_congr rfl fun i _ => by rw [binSum_perm h i]

theorem spread_repeat (r : Nat) (l : List α) :
    spread bin n weight (List.replicate r l).flatten = r • spread bin n weight l := by
  unfold spread
  rw [← Finset.sum_nsmul]
  refine Finset.sum_congr rfl fun i _ => ?_
  rw [binSum_repeat, abs_nsmul]

/-- What cancels over the whole list can still be seen in its bins. -/
theorem abs_sum_le_spread (h : ∀ a ∈ l, bin a < n) :
    |(l.map weight).sum| ≤ spread bin n weight l := by
  rw [← sum_binSum h]
  exact Finset.abs_sum_le_sum_abs _ _

theorem abs_binSum_le (bin : α → Nat) (weight : α → K) (l : List α) (i : Nat) :
    |binSum bin weight l i| ≤ binSum bin (fun a => |weight a|) l i := by
  induction l with
  | nil => simp [binSum]
  | cons a l ih =>
      rw [binSum_cons, binSum_cons]
      refine (abs_add_le _ _).trans (add_le_add ?_ ih)
      split
      · exact le_refl _
      · exact abs_zero.le

theorem spread_le (h : ∀ a ∈ l, bin a < n) :
    spread bin n weight l ≤ (l.map fun a => |weight a|).sum := by
  rw [← sum_binSum h]
  exact Finset.sum_le_sum fun i _ => abs_binSum_le bin weight l i

/-- **Cutting every bin into equal parts never lowers the spread.** -/
theorem spread_le_of_cut (hm : 0 < m) (n : Nat) (weight : α → K) (l : List α) :
    spread (fun a => fine a / m) n weight l ≤ spread fine (n * m) weight l := by
  unfold spread
  rw [sum_range_mul]
  refine Finset.sum_le_sum fun i _ => ?_
  rw [binSum_cut hm]
  exact Finset.abs_sum_le_sum_abs _ _

end Binning

end GaiaOS
