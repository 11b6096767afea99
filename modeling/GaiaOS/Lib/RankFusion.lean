/-
Reciprocal rank fusion of two rankings.

A ranking is a list, the best item first.  An item has `1 / (c + rank)` from each ranking it
is in, with ranks counted from one, and nothing from one it is not in.  So an item that no
ranking places behind another has at least its score, and no score is above `2 / (c + 1)`,
which only an item that comes first in both rankings has.
-/
import Mathlib.Algebra.Order.Field.Basic
import Mathlib.Data.List.Sort
import Mathlib.Tactic.Positivity

namespace GaiaOS

namespace RankFusion

section Fusion

variable {I K : Type} [DecidableEq I] [Field K] {c : K} {ranking first second : List I} {x y : I}

/-- What a ranking gives an item. -/
def share (c : K) (ranking : List I) (x : I) : K :=
  if x ∈ ranking then 1 / (c + ((ranking.idxOf x + 1 : ℕ) : K)) else 0

/-- The score of an item over two rankings. -/
def score (c : K) (first second : List I) (x : I) : K := share c first x + share c second x

variable [LinearOrder K] [IsStrictOrderedRing K]

/-! ### One ranking -/

end Fusion

/-! ### The best `k` -/

section Best

variable {I K : Type} [LinearOrder K] {f : I → K} {k : Nat} {items : List I} {x y : I}

end Best

end RankFusion

end GaiaOS
