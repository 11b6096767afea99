/-
Rounding to a number of digits, halves to even, over any ordered field with floors.

A number is rounded to within half a unit.  So a bound that has no more digits is kept, and two
numbers that are more than a unit apart stay apart.
-/
import GaiaOS.Lib.Python
import Mathlib.Algebra.Order.Floor.Ring
import Mathlib.Algebra.Order.Field.Basic
import Mathlib.Data.Rat.Floor
import Mathlib.Tactic.Linarith
import Mathlib.Tactic.NormNum

namespace GaiaOS

namespace Rounding

variable {K : Type} [Field K] [LinearOrder K] [IsStrictOrderedRing K] [FloorRing K]

/-- The integer nearest to a number, the even one of two. -/
def roundEven (x : K) : ℤ :=
  let low := ⌊x⌋
  if x - low < low + 1 - x then low
  else if low + 1 - x < x - low then low + 1
  else if low % 2 = 0 then low
  else low + 1

/-- `round(x, digits)`. -/
def roundDigits (digits : Nat) (x : K) : ℚ :=
  roundEven (x * (10 ^ digits : ℕ)) / 10 ^ digits

omit [IsStrictOrderedRing K] in
theorem roundDigits_eq (digits : Nat) (x : K) :
    roundDigits digits x = roundEven (x * 10 ^ digits) / 10 ^ digits := by
  unfold roundDigits
  rw [Nat.cast_pow, Nat.cast_ofNat]

theorem roundEven_rat (x : ℚ) : roundEven x = roundHalfEven x := by
  have hdown : x - ⌊x⌋ < ⌊x⌋ + 1 - x ↔ x - ⌊x⌋ < 1 / 2 := by constructor <;> intro h <;> linarith
  have hup : ⌊x⌋ + 1 - x < x - ⌊x⌋ ↔ 1 / 2 < x - ⌊x⌋ := by constructor <;> intro h <;> linarith
  unfold roundEven roundHalfEven
  simp only [hdown, hup]
  rfl

/-- On the rationals this is the rounding there is. -/
theorem roundDigits_rat (digits : Nat) (x : ℚ) : roundDigits digits x = pyRound x digits := by
  rw [roundDigits_eq, roundEven_rat]
  rfl

theorem roundEven_le (x : K) : (roundEven x : K) ≤ x + 1 / 2 := by
  have hlow := Int.floor_le x
  unfold roundEven
  simp only
  split_ifs with hdown hup heven
  · linarith
  · push_cast
    linarith
  · linarith
  · push_cast
    linarith

theorem le_roundEven (x : K) : x - 1 / 2 ≤ (roundEven x : K) := by
  have hlow := Int.floor_le x
  have hhigh := Int.lt_floor_add_one x
  unfold roundEven
  simp only
  split_ifs with hdown hup heven
  · linarith
  · push_cast
    linarith
  · linarith
  · push_cast
    linarith

theorem le_roundEven_of_intCast_le {n : ℤ} {x : K} (h : (n : K) ≤ x) : n ≤ roundEven x := by
  have hround := le_roundEven x
  have hlt : (n : K) < ((roundEven x + 1 : ℤ) : K) := by
    push_cast
    linarith
  exact Int.lt_add_one_iff.mp (Int.cast_lt.mp hlt)

theorem roundEven_le_of_le_intCast {n : ℤ} {x : K} (h : x ≤ n) : roundEven x ≤ n := by
  have hround := roundEven_le x
  have hlt : (roundEven x : K) < ((n + 1 : ℤ) : K) := by
    push_cast
    linarith
  exact Int.lt_add_one_iff.mp (Int.cast_lt.mp hlt)

theorem roundEven_lt {x y : K} (h : x + 1 < y) : roundEven x < roundEven y := by
  have hx := roundEven_le x
  have hy := le_roundEven y
  have hlt : (roundEven x : K) < (roundEven y : K) := by linarith
  exact Int.cast_lt.mp hlt

variable {digits : Nat}

/-- A lower bound of so many digits is kept. -/
theorem le_roundDigits {n : ℤ} {x : K} (h : (n : K) ≤ x * 10 ^ digits) :
    (n : ℚ) / 10 ^ digits ≤ roundDigits digits x := by
  rw [roundDigits_eq]
  have hunit : (0 : ℚ) < 10 ^ digits := pow_pos (by norm_num) _
  exact div_le_div_of_nonneg_right (Int.cast_le.mpr (le_roundEven_of_intCast_le h)) hunit.le

/-- An upper bound of so many digits is kept. -/
theorem roundDigits_le {n : ℤ} {x : K} (h : x * 10 ^ digits ≤ n) :
    roundDigits digits x ≤ (n : ℚ) / 10 ^ digits := by
  rw [roundDigits_eq]
  have hunit : (0 : ℚ) < 10 ^ digits := pow_pos (by norm_num) _
  exact div_le_div_of_nonneg_right (Int.cast_le.mpr (roundEven_le_of_le_intCast h)) hunit.le

/-- Numbers more than a unit apart stay apart. -/
theorem roundDigits_lt {x y : K} (h : x * 10 ^ digits + 1 < y * 10 ^ digits) :
    roundDigits digits x < roundDigits digits y := by
  rw [roundDigits_eq, roundDigits_eq]
  have hunit : (0 : ℚ) < 10 ^ digits := pow_pos (by norm_num) _
  exact div_lt_div_of_pos_right (Int.cast_lt.mpr (roundEven_lt h)) hunit

end Rounding

end GaiaOS
