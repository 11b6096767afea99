/-
How full a bucket is.

A bucket of some capacity that gains `rate` in every unit of time holds `level` after some
time, starting with `tokens`: what it had and what it gained, as far as it holds that much.
The bounds below are what an account of a whole run rests on: the level never passes the
capacity, it never gains more than `rate` allows, and after the time it takes to fill up it
is full whatever it held before.
-/
import Mathlib.Algebra.Order.Field.Basic
import Mathlib.Tactic.Linarith

namespace GaiaOS

namespace TokenBucket

variable {K : Type} [Field K] [LinearOrder K]

/-- What the bucket holds `elapsed` after it held `tokens`. -/
def level (capacity rate tokens elapsed : K) : K := min capacity (tokens + elapsed * rate)

variable {capacity rate tokens elapsed : K}

theorem level_le_capacity : level capacity rate tokens elapsed ≤ capacity := min_le_left _ _

theorem level_le_add (capacity rate tokens elapsed : K) :
    level capacity rate tokens elapsed ≤ tokens + elapsed * rate :=
  min_le_right _ _

/-- After the time it takes to fill, the bucket is full. -/
theorem level_of_full (h : capacity ≤ tokens + elapsed * rate) :
    level capacity rate tokens elapsed = capacity := min_eq_left h

section Ordered

variable [IsStrictOrderedRing K]

theorem level_nonneg (hcapacity : 0 ≤ capacity) (hrate : 0 ≤ rate) (htokens : 0 ≤ tokens)
    (helapsed : 0 ≤ elapsed) : 0 ≤ level capacity rate tokens elapsed :=
  le_min hcapacity (add_nonneg htokens (mul_nonneg helapsed hrate))

/-- Waiting longer gains no more than the rate allows for the difference. -/
theorem level_gain (capacity tokens : K) (hrate : 0 ≤ rate) {later : K} (h : elapsed ≤ later) :
    level capacity rate tokens later ≤
      level capacity rate tokens elapsed + (later - elapsed) * rate := by
  have hgain : 0 ≤ (later - elapsed) * rate := mul_nonneg (sub_nonneg.mpr h) hrate
  rcases min_choice capacity (tokens + elapsed * rate) with hfull | hroom
  · have hle : level capacity rate tokens later ≤ capacity := level_le_capacity
    unfold level at *
    rw [hfull]
    linarith
  · have hle : level capacity rate tokens later ≤ tokens + later * rate := level_le_add ..
    unfold level at *
    rw [hroom]
    linarith

/-- A bucket short of `cost` has it after the time the difference takes. -/
theorem cost_le_level {cost wait : K} (hcost : cost ≤ capacity)
    (hshort : level capacity rate tokens elapsed < cost)
    (hwait : cost - level capacity rate tokens elapsed ≤ wait * rate) :
    cost ≤ level capacity rate tokens (elapsed + wait) := by
  have hroom : level capacity rate tokens elapsed = tokens + elapsed * rate := by
    rcases min_choice capacity (tokens + elapsed * rate) with hfull | hroom
    · unfold level at hshort
      rw [hfull] at hshort
      exact absurd hcost (not_le.mpr hshort)
    · exact hroom
  rw [hroom] at hwait
  refine le_min hcost ?_
  linarith

end Ordered

end TokenBucket

end GaiaOS
