/-
Floats of 64 bits, as the rationals they are.

`double` rounds a rational to 53 binary digits, a tie to the even one, with the least exponent of
the format.  It keeps the order (`double_mono`) and every integer up to 2^53 (`double_intCast`);
above that integers get lost, the first of them being 2^53 + 1.  `PyFloat.ofRat` adds what does
not fit in the format, and the arithmetic is that of the format: exact, then rounded.  The sign of
a zero is not kept.
-/
import GaiaOS.Lib.Python
import Mathlib.Data.Int.Log
import Mathlib.Tactic.Linarith
import Mathlib.Tactic.NormNum

namespace GaiaOS

/-! ### Rounding to an integer -/

theorem floor_le_roundHalfEven (x : ℚ) : ⌊x⌋ ≤ roundHalfEven x := by
  show x.floor ≤ _
  unfold roundHalfEven
  simp only
  split
  · exact le_refl _
  split
  · omega
  split <;> omega

theorem roundHalfEven_le_floor_add_one (x : ℚ) : roundHalfEven x ≤ ⌊x⌋ + 1 := by
  show _ ≤ x.floor + 1
  unfold roundHalfEven
  simp only
  split
  · omega
  split
  · exact le_refl _
  split <;> omega

theorem roundHalfEven_intCast (n : ℤ) : roundHalfEven (n : ℚ) = n := by
  have hfloor : (n : ℚ).floor = n := Rat.floor_intCast n
  unfold roundHalfEven
  rw [hfloor, if_pos (by rw [sub_self]; norm_num)]

theorem roundHalfEven_mono {x y : ℚ} (h : x ≤ y) : roundHalfEven x ≤ roundHalfEven y := by
  rcases (Int.floor_mono h).lt_or_eq with hlt | heq
  · -- the integers between them
    calc roundHalfEven x ≤ ⌊x⌋ + 1 := roundHalfEven_le_floor_add_one x
      _ ≤ ⌊y⌋ := hlt
      _ ≤ roundHalfEven y := floor_le_roundHalfEven y
  · -- between the same integers, the fractions decide
    by_cases hx : x - ⌊x⌋ < 1 / 2
    · have hdown : roundHalfEven x = ⌊x⌋ := if_pos hx
      rw [hdown, heq]
      exact floor_le_roundHalfEven y
    by_cases hy : 1 / 2 < y - ⌊y⌋
    · have hnot : ¬ y - ⌊y⌋ < 1 / 2 := not_lt.mpr hy.le
      have hup : roundHalfEven y = ⌊y⌋ + 1 := (if_neg hnot).trans (if_pos hy)
      rw [hup, ← heq]
      exact roundHalfEven_le_floor_add_one x
    · have hsame : x = y := by
        rw [heq] at hx
        linarith
      rw [hsame]

theorem roundHalfEven_neg (x : ℚ) : roundHalfEven (-x) = -roundHalfEven x := by
  by_cases hint : x = ⌊x⌋
  · rw [hint, ← Int.cast_neg, roundHalfEven_intCast, roundHalfEven_intCast]
  · -- the fraction of `-x` is what is missing to one
    have hlow : (⌊x⌋ : ℚ) < x := lt_of_le_of_ne (Int.floor_le x) (Ne.symm hint)
    have hhigh : x < ⌊x⌋ + 1 := Int.lt_floor_add_one x
    have hfloor : ⌊-x⌋ = -⌊x⌋ - 1 := by
      rw [Int.floor_eq_iff]
      push_cast
      constructor <;> linarith
    change (-x).floor = -x.floor - 1 at hfloor
    change (x.floor : ℚ) < x at hlow
    unfold roundHalfEven
    simp only [hfloor]
    push_cast
    rcases lt_trichotomy (x - x.floor) (1 / 2) with hless | hhalf | hmore
    · rw [if_neg (by linarith), if_pos (by linarith), if_pos hless]
      omega
    · have hnotless : ¬ -x - (-(x.floor : ℚ) - 1) < 1 / 2 := by linarith
      have hnotmore : ¬ 1 / 2 < -x - (-(x.floor : ℚ) - 1) := by linarith
      rw [if_neg hnotless, if_neg hnotmore, if_neg hhalf.not_lt, if_neg hhalf.not_gt]
      split <;> split <;> omega
    · rw [if_pos (by linarith), if_neg (by linarith), if_pos hmore]
      omega

/-! ### Rounding to decimal digits -/

/-- Rounding to digits keeps the order. -/
theorem pyRound_mono (digits : Nat) {x y : ℚ} (h : x ≤ y) :
    pyRound x digits ≤ pyRound y digits := by
  have hunit : (0 : ℚ) < 10 ^ digits := pow_pos (by norm_num) _
  unfold pyRound
  refine div_le_div_of_nonneg_right ?_ hunit.le
  exact_mod_cast roundHalfEven_mono (mul_le_mul_of_nonneg_right h hunit.le)

theorem pyRound_intCast (n : ℤ) (digits : Nat) : pyRound n digits = n := by
  have hunit : (10 : ℚ) ^ digits ≠ 0 := pow_ne_zero _ (by norm_num)
  have hround : roundHalfEven ((n : ℚ) * 10 ^ digits) = n * 10 ^ digits := by
    exact_mod_cast roundHalfEven_intCast (n * 10 ^ digits)
  unfold pyRound
  rw [hround]
  push_cast
  exact mul_div_cancel_right₀ _ hunit

/-! ### Rounding to a float -/

/-- The exponent of the last digit of a float near `x`. -/
def lastExponent (x : ℚ) : ℤ := max (Int.log 2 |x| - 52) (-1074)

/-- The nearest float, whatever its exponent above. -/
def double (x : ℚ) : ℚ := roundHalfEven (x / 2 ^ lastExponent x) * 2 ^ lastExponent x

theorem double_zero : double 0 = 0 := by
  unfold double
  rw [zero_div]
  have hzero : roundHalfEven 0 = 0 := roundHalfEven_intCast 0
  rw [hzero, Int.cast_zero, zero_mul]

/-- A power of two is a number of units that are no larger. -/
theorem zpow_eq_units {e k : ℤ} (h : e ≤ k) :
    (2 : ℚ) ^ k = ((2 ^ (k - e).toNat : ℤ) : ℚ) * 2 ^ e := by
  have hexact : ((k - e).toNat : ℤ) = k - e := Int.toNat_of_nonneg (sub_nonneg.mpr h)
  push_cast
  rw [← zpow_natCast, hexact, ← zpow_add₀ two_ne_zero, sub_add_cancel]

/-- An integral number of last digits is a float. -/
theorem double_of_digits {x : ℚ} {m : ℤ} (hx : x = m * 2 ^ lastExponent x) : double x = x := by
  have hscaled : x / 2 ^ lastExponent x = m := by
    rw [div_eq_iff (zpow_ne_zero _ two_ne_zero)]
    exact hx
  unfold double
  rw [hscaled, roundHalfEven_intCast]
  exact hx.symm

/-- An integer of 53 digits is a float. -/
theorem double_intCast {n : ℤ} (hn : |n| < 2 ^ 53) : double n = n := by
  have hexponent : lastExponent (n : ℚ) ≤ 0 := by
    refine max_le ?_ (by norm_num)
    by_cases hzero : n = 0
    · rw [hzero]
      norm_num
    · have hpos : (0 : ℚ) < |(n : ℚ)| := abs_pos.mpr (Int.cast_ne_zero.mpr hzero)
      have hlog : Int.log 2 |(n : ℚ)| < 53 := by
        rw [← Int.lt_zpow_iff_log_lt one_lt_two hpos]
        exact_mod_cast hn
      omega
  refine double_of_digits (m := n * 2 ^ (0 - lastExponent (n : ℚ)).toNat) ?_
  rw [Int.cast_mul, mul_assoc, ← zpow_eq_units hexponent, zpow_zero, mul_one]

theorem double_nonneg {x : ℚ} (hx : 0 ≤ x) : 0 ≤ double x := by
  have hunit : (0 : ℚ) < 2 ^ lastExponent x := zpow_pos two_pos _
  refine mul_nonneg ?_ hunit.le
  have hfloor : 0 ≤ ⌊x / 2 ^ lastExponent x⌋ := Int.floor_nonneg.mpr (div_nonneg hx hunit.le)
  exact_mod_cast hfloor.trans (floor_le_roundHalfEven _)

/-- In units no larger than a bound allows, rounding does not pass the bound. -/
theorem double_le_of_le {x b : ℚ} {m : ℤ} (hb : b = m * 2 ^ lastExponent x) (h : x ≤ b) :
    double x ≤ b := by
  have hunit : (0 : ℚ) < 2 ^ lastExponent x := zpow_pos two_pos _
  have hround : roundHalfEven (x / 2 ^ lastExponent x) ≤ m := by
    rw [← roundHalfEven_intCast m]
    refine roundHalfEven_mono ((div_le_iff₀ hunit).mpr ?_)
    rw [← hb]
    exact h
  unfold double
  rw [hb]
  exact mul_le_mul_of_nonneg_right (by exact_mod_cast hround) hunit.le

theorem le_double_of_le {x b : ℚ} {m : ℤ} (hb : b = m * 2 ^ lastExponent x) (h : b ≤ x) :
    b ≤ double x := by
  have hunit : (0 : ℚ) < 2 ^ lastExponent x := zpow_pos two_pos _
  have hround : m ≤ roundHalfEven (x / 2 ^ lastExponent x) := by
    rw [← roundHalfEven_intCast m]
    refine roundHalfEven_mono ((le_div_iff₀ hunit).mpr ?_)
    rw [← hb]
    exact h
  unfold double
  rw [hb]
  exact mul_le_mul_of_nonneg_right (by exact_mod_cast hround) hunit.le

/-- **Rounding keeps the order**, of numbers that are not negative. -/
theorem double_mono {x y : ℚ} (hx : 0 ≤ x) (h : x ≤ y) : double x ≤ double y := by
  rcases hx.eq_or_lt with rfl | hx
  · rw [double_zero]
    exact double_nonneg h
  have hy : 0 < y := hx.trans_le h
  have hlog : Int.log 2 |x| ≤ Int.log 2 |y| := by
    rw [abs_of_pos hx, abs_of_pos hy]
    exact Int.log_mono_right hx h
  have hexponent : lastExponent x ≤ lastExponent y := by
    unfold lastExponent
    omega
  rcases hexponent.eq_or_lt with heq | hlt
  · -- in the same units
    have hunit : (0 : ℚ) < 2 ^ lastExponent y := zpow_pos two_pos _
    unfold double
    rw [heq]
    refine mul_le_mul_of_nonneg_right ?_ hunit.le
    exact_mod_cast roundHalfEven_mono (div_le_div_of_nonneg_right h hunit.le)
  · -- a power of two lies between them, and it is a float
    have hdigits : lastExponent y = Int.log 2 |y| - 52 := by
      unfold lastExponent at hlt ⊢
      omega
    have hlogs : Int.log 2 |x| < Int.log 2 |y| := by
      unfold lastExponent at hlt
      omega
    have hbelow : x < 2 ^ (Int.log 2 |y|) := by
      have hnext := Int.lt_zpow_succ_log_self one_lt_two |x|
      rw [abs_of_pos hx] at hnext
      refine hnext.trans_le (zpow_le_zpow_right₀ one_le_two ?_)
      rw [← abs_of_pos hx]
      exact hlogs
    have habove : 2 ^ (Int.log 2 |y|) ≤ y := by
      have hself := Int.zpow_log_le_self one_lt_two (abs_pos.mpr hy.ne')
      rwa [abs_of_pos hy] at hself ⊢
    calc double x ≤ 2 ^ (Int.log 2 |y|) :=
          double_le_of_le (zpow_eq_units (by omega)) hbelow.le
      _ ≤ double y := le_double_of_le (zpow_eq_units (by omega)) habove

theorem double_nonpos {x : ℚ} (hx : x ≤ 0) : double x ≤ 0 :=
  double_le_of_le (m := 0) (by rw [Int.cast_zero, zero_mul]) hx

theorem double_neg (x : ℚ) : double (-x) = -double x := by
  unfold double lastExponent
  rw [abs_neg, neg_div, roundHalfEven_neg, Int.cast_neg, neg_mul]

theorem double_monotone : Monotone double := by
  intro x y h
  rcases le_or_gt 0 x with hx | hx
  · exact double_mono hx h
  rcases le_or_gt 0 y with hy | hy
  · exact (double_nonpos hx.le).trans (double_nonneg hy)
  · have hneg : double (-y) ≤ double (-x) := double_mono (neg_nonneg.mpr hy.le) (neg_le_neg h)
    rw [double_neg, double_neg] at hneg
    exact neg_le_neg_iff.mp hneg

/-- A power of two is a float from the least exponent on. -/
theorem double_zpow {k : ℤ} (hk : -1074 ≤ k) : double (2 ^ k) = 2 ^ k := by
  have hlog : Int.log 2 |(2 : ℚ) ^ k| = k := by
    rw [abs_of_pos (zpow_pos two_pos k)]
    exact_mod_cast @Int.log_zpow ℚ _ _ _ _ 2 one_lt_two k
  have hexponent : lastExponent ((2 : ℚ) ^ k) ≤ k := by
    unfold lastExponent
    rw [hlog]
    exact max_le (by omega) hk
  exact double_of_digits (zpow_eq_units hexponent)

/-- What is not below some float is not rounded to zero. -/
theorem double_pos {x : ℚ} {k : ℤ} (hk : -1074 ≤ k) (hx : 2 ^ k ≤ x) : 0 < double x := by
  have hleast : (0 : ℚ) < 2 ^ k := zpow_pos two_pos k
  calc 0 < (2 : ℚ) ^ k := hleast
    _ = double (2 ^ k) := (double_zpow hk).symm
    _ ≤ double x := double_mono hleast.le hx

/-! ### Around 2^53 -/

theorem double_two_pow_53 : double (2 ^ 53) = 2 ^ 53 := by decide +kernel

/-- The first integer that is not a float. -/
theorem double_two_pow_53_add_one : double (2 ^ 53 + 1) = 2 ^ 53 := by decide +kernel

theorem double_two_pow_53_add_two : double (2 ^ 53 + 2) = 2 ^ 53 + 2 := by decide +kernel

/-- From here on rounding can go up. -/
theorem double_two_pow_53_add_three : double (2 ^ 53 + 3) = 2 ^ 53 + 4 := by decide +kernel

theorem double_two_pow_53_add_four : double (2 ^ 53 + 4) = 2 ^ 53 + 4 := by decide +kernel

theorem double_natCast {n : Nat} (hn : n ≤ 2 ^ 53) : double n = n := by
  rcases hn.eq_or_lt with rfl | hn
  · exact_mod_cast double_two_pow_53
  · have hcast : |(n : ℤ)| < 2 ^ 53 := by
      rw [abs_of_nonneg (Int.natCast_nonneg n)]
      exact_mod_cast hn
    exact_mod_cast double_intCast hcast

/-- Up to 2^53 + 2 a whole number stays whole and is not rounded up. -/
theorem double_natCast_eq {n : Nat} (hn : n ≤ 2 ^ 53 + 2) : ∃ m : Nat, double n = m ∧ m ≤ n := by
  by_cases hsmall : n ≤ 2 ^ 53
  · exact ⟨n, double_natCast hsmall, Nat.le_refl n⟩
  · obtain rfl | rfl : n = 2 ^ 53 + 1 ∨ n = 2 ^ 53 + 2 := by omega
    · exact ⟨2 ^ 53, by exact_mod_cast double_two_pow_53_add_one, by omega⟩
    · exact ⟨2 ^ 53 + 2, by exact_mod_cast double_two_pow_53_add_two, Nat.le_refl _⟩

theorem double_one : double 1 = 1 := by
  have h := double_natCast (show 1 ≤ 2 ^ 53 by norm_num)
  rwa [Nat.cast_one] at h

/-- What does not pass such a number is not rounded past it. -/
theorem double_le_natCast {x : ℚ} {n : Nat} (hx : 0 ≤ x) (h : x ≤ n) (hn : n ≤ 2 ^ 53 + 2) :
    double x ≤ n := by
  obtain ⟨m, hm, hle⟩ := double_natCast_eq hn
  calc double x ≤ double n := double_mono hx h
    _ = m := hm
    _ ≤ n := by exact_mod_cast hle

/-! ### Arithmetic -/

namespace PyFloat

/-- The float nearest to a number; what is too large for the format is infinite. -/
def ofRat (x : ℚ) : PyFloat :=
  if |double x| < 2 ^ 1024 then .finite (double x)
  else if 0 < x then .infinity
  else .negInfinity

def neg : PyFloat → PyFloat
  | .finite x => .finite (-x)
  | .infinity => .negInfinity
  | .negInfinity => .infinity
  | .nan => .nan

def add : PyFloat → PyFloat → PyFloat
  | .finite x, .finite y => ofRat (x + y)
  | .nan, _ | _, .nan => .nan
  | .infinity, .negInfinity | .negInfinity, .infinity => .nan
  | .infinity, _ | _, .infinity => .infinity
  | .negInfinity, _ | _, .negInfinity => .negInfinity

def sub (a b : PyFloat) : PyFloat := a.add b.neg

/-- An infinity times something of a sign. -/
def infinite (sign : ℚ) : PyFloat :=
  if 0 < sign then .infinity else if sign < 0 then .negInfinity else .nan

/-- The sign of what is a number. -/
def sign : PyFloat → ℚ
  | .finite x => if 0 < x then 1 else if x < 0 then -1 else 0
  | .infinity => 1
  | .negInfinity => -1
  | .nan => 0

def mul : PyFloat → PyFloat → PyFloat
  | .finite x, .finite y => ofRat (x * y)
  | .nan, _ | _, .nan => .nan
  | a, b => infinite (a.sign * b.sign)

/-- Division; by zero it is infinite. -/
def div : PyFloat → PyFloat → PyFloat
  | .finite x, .finite y => if y = 0 then infinite (finite x).sign else ofRat (x / y)
  | .nan, _ | _, .nan => .nan
  | .finite _, _ => .finite 0
  | a, .finite y => infinite (a.sign * if y < 0 then -1 else 1)
  | _, _ => .nan

/-- `a < b`. -/
def lt : PyFloat → PyFloat → Bool
  | .finite x, .finite y => x < y
  | .nan, _ | _, .nan => false
  | .negInfinity, .negInfinity | .infinity, .infinity => false
  | .negInfinity, _ | _, .infinity => true
  | _, _ => false

/-- `a <= b`. -/
def le : PyFloat → PyFloat → Bool
  | .finite x, .finite y => x ≤ y
  | .nan, _ | _, .nan => false
  | .negInfinity, _ | _, .infinity => true
  | _, _ => false

/-- The larger of two numbers, the first if it cannot be told. -/
def max (a b : PyFloat) : PyFloat := if a.lt b then b else a

/-- The smaller of two numbers, the first if it cannot be told. -/
def min (a b : PyFloat) : PyFloat := if b.lt a then b else a

/-- The least integer above. -/
def ceil : PyFloat → PyFloat
  | .finite x => .finite ⌈x⌉
  | a => a

/-- The integer a float is, if it is one and no larger than a bound. -/
def asInteger (bound : ℚ) : PyFloat → Option ℤ
  | .finite x => if x.den = 1 ∧ |x| ≤ bound then some x.num else none
  | _ => none

/-! ### Results in range -/

theorem ofRat_of_le {x b : ℚ} (hx : 0 ≤ x) (hb : double x ≤ b) (hlimit : b < 2 ^ 1024) :
    ofRat x = .finite (double x) := by
  refine if_pos ?_
  rw [abs_of_nonneg (double_nonneg hx)]
  exact hb.trans_lt hlimit

/-- The float of a number that is not negative. -/
theorem ofRat_cases {x : ℚ} (hx : 0 ≤ x) : ofRat x = .finite (double x) ∨ ofRat x = .infinity := by
  unfold ofRat
  by_cases hlimit : |double x| < 2 ^ 1024
  · exact .inl (if_pos hlimit)
  · rw [if_neg hlimit]
    rcases hx.eq_or_lt with rfl | hpos
    · rw [double_zero] at hlimit
      exact absurd (by norm_num) hlimit
    · exact .inr (if_pos hpos)

/-- A number among those that can be counted stays among them. -/
theorem ofRat_le_natCast {x : ℚ} {n : Nat} (hx : 0 ≤ x) (h : x ≤ n) (hn : n ≤ 2 ^ 53 + 2) :
    ofRat x = .finite (double x) := by
  refine ofRat_of_le hx (double_le_natCast hx h hn) ?_
  calc (n : ℚ) ≤ 2 ^ 53 + 2 := by exact_mod_cast hn
    _ < 2 ^ 54 := by norm_num
    _ ≤ 2 ^ 1024 := pow_le_pow_right₀ one_le_two (by omega)

theorem ofRat_zero : ofRat 0 = .finite 0 := by
  have hsmall := ofRat_of_le (le_refl 0) double_zero.le (by norm_num)
  rw [hsmall, double_zero]

theorem ofRat_eq_finite {x y : ℚ} (h : ofRat x = .finite y) : y = double x ∧ |y| < 2 ^ 1024 := by
  unfold ofRat at h
  split at h
  · next hlimit =>
      cases h
      exact ⟨rfl, hlimit⟩
  · split at h <;> cases h

theorem asInteger_intCast {bound : ℚ} {n : ℤ} (h : |(n : ℚ)| ≤ bound) :
    (finite n).asInteger bound = some n := if_pos ⟨Rat.den_intCast n, h⟩

theorem asInteger_eq_some {bound : ℚ} {a : PyFloat} {n : ℤ} (h : a.asInteger bound = some n) :
    a = .finite n ∧ |(n : ℚ)| ≤ bound := by
  cases a with
  | finite x =>
      by_cases hx : x.den = 1 ∧ |x| ≤ bound
      · have hnum : x.num = n := Option.some.inj ((if_pos hx).symm.trans h)
        have hn : (n : ℚ) = x := by
          rw [← hnum]
          exact Rat.coe_int_num_of_den_eq_one hx.1
        rw [hn]
        exact ⟨rfl, hx.2⟩
      · exact absurd ((if_neg hx).symm.trans h) (by simp)
  | infinity => cases h
  | negInfinity => cases h
  | nan => cases h

/-! ### Order -/

/-- Rounding keeps a lower bound, itself rounded. -/
theorem le_ofRat {x b : ℚ} (hb : 0 ≤ b) (h : b ≤ x) : (finite (double b)).le (ofRat x) = true := by
  rcases ofRat_cases (hb.trans h) with heq | heq
  · rw [heq]
    exact decide_eq_true (double_mono hb h)
  · rw [heq]
    rfl

theorem zero_le_ofRat {x : ℚ} (h : 0 ≤ x) : (finite 0).le (ofRat x) = true := by
  have hle := le_ofRat (le_refl 0) h
  rwa [double_zero] at hle

theorem le_of_le {a : PyFloat} {b c : ℚ} (hbc : b ≤ c) (h : (finite c).le a = true) :
    (finite b).le a = true := by
  cases a with
  | finite x => exact decide_eq_true (hbc.trans (of_decide_eq_true h))
  | infinity => rfl
  | negInfinity => cases h
  | nan => cases h

/-- Neither of two numbers is below a bound, so the smaller is not. -/
theorem le_min_of_le {a b c : PyFloat} (hb : a.le b = true) (hc : a.le c = true) :
    a.le (b.min c) = true := by
  unfold min
  split
  · exact hc
  · exact hb

/-- A number that is not below a finite one is finite or infinite. -/
theorem eq_of_le {a : PyFloat} {b : ℚ} (h : (finite b).le a = true) :
    a = .infinity ∨ ∃ x, a = .finite x ∧ b ≤ x := by
  cases a with
  | finite x => exact .inr ⟨x, rfl, of_decide_eq_true h⟩
  | infinity => exact .inl rfl
  | negInfinity => cases h
  | nan => cases h

/-- A lower bound of a sum. -/
theorem le_add {a : PyFloat} {b y : ℚ} (hb : 0 ≤ b + y) (h : (finite b).le a = true) :
    (finite (double (b + y))).le (a.add (.finite y)) = true := by
  rcases eq_of_le h with rfl | ⟨x, rfl, hx⟩
  · rfl
  · exact le_ofRat hb (by linarith)

theorem zero_le_max (a : PyFloat) : (finite 0).le ((finite 0).max a) = true := by
  cases a with
  | finite x =>
      by_cases hx : 0 < x
      · have hmax : (finite 0).max (finite x) = finite x := if_pos (decide_eq_true hx)
        rw [hmax]
        exact decide_eq_true hx.le
      · have hmax : (finite 0).max (finite x) = finite 0 := if_neg (by simpa [lt] using hx)
        rw [hmax]
        rfl
  | infinity => rfl
  | negInfinity => rfl
  | nan => rfl

theorem zero_le_mul {a : PyFloat} {y : ℚ} (ha : (finite 0).le a = true) (hy : 0 < y) :
    (finite 0).le (a.mul (.finite y)) = true := by
  rcases eq_of_le ha with rfl | ⟨x, rfl, hx⟩
  · have hinfinite : infinity.mul (finite y) = .infinity := by
      show infinite (1 * if 0 < y then 1 else _) = _
      rw [if_pos hy, one_mul]
      exact if_pos one_pos
    rw [hinfinite]
    rfl
  · exact zero_le_ofRat (mul_nonneg hx hy.le)

theorem zero_le_add {a : PyFloat} {x : ℚ} (hx : 0 ≤ x) (ha : (finite 0).le a = true) :
    (finite 0).le ((finite x).add a) = true := by
  rcases eq_of_le ha with rfl | ⟨y, rfl, hy⟩
  · rfl
  · exact zero_le_ofRat (add_nonneg hx hy)

theorem min_finite (c x : ℚ) : (finite c).min (.finite x) = .finite (Min.min c x) := by
  by_cases hlt : x < c
  · have hmin : (finite c).min (.finite x) = .finite x := if_pos (decide_eq_true hlt)
    rw [hmin, min_eq_right hlt.le]
  · have hmin : (finite c).min (.finite x) = .finite c := if_neg (by simpa [lt] using hlt)
    rw [hmin, min_eq_left (not_lt.mp hlt)]

/-- The smaller of a finite number and something that is not negative is finite. -/
theorem finite_min {c : ℚ} {a : PyFloat} (hc : 0 ≤ c) (ha : (finite 0).le a = true) :
    ∃ x, (finite c).min a = .finite x ∧ 0 ≤ x ∧ x ≤ c := by
  rcases eq_of_le ha with rfl | ⟨x, rfl, hx⟩
  · exact ⟨c, rfl, hc, le_refl c⟩
  · exact ⟨Min.min c x, min_finite c x, le_min hc hx, min_le_left c x⟩

end PyFloat

end GaiaOS
