/-
The text of a float.

`repr` of a finite float is the shortest decimal text that is read back as the float, the nearest
one where there are several, with an exponent where the number is below `1e-4` or not below
`1e16`.  The exponents of the last digit are tried from the largest down; at `-1074` a float is
its own decimal.

A text without an exponent is read back as the float it shows.  Of a text with one, the digits
before the exponent show another number.
-/
import GaiaOS.Lib.DecimalText

namespace GaiaOS

/-- A finite float: its sign and its magnitude.  Zero has both signs. -/
structure FiniteFloat where
  negative : Bool
  magnitude : ℚ
  nonneg : 0 ≤ magnitude
  isDouble : double magnitude = magnitude
  lt_limit : magnitude < 2 ^ 1024

/-- The number a float is. -/
def FiniteFloat.toRat (x : FiniteFloat) : ℚ := if x.negative then -x.magnitude else x.magnitude

/-- The multiple of `10 ^ k` that is read back as `x`, the nearer one if both around it are. -/
def readBack? (x : ℚ) (k : ℤ) : Option ℤ :=
  let low := ⌊x / 10 ^ k⌋
  let high := ⌈x / 10 ^ k⌉
  if double (low * 10 ^ k) = x then
    if double (high * 10 ^ k) = x then some (roundHalfEven (x / 10 ^ k)) else some low
  else if double (high * 10 ^ k) = x then some high else none

/-- The digits of the shortest text and the exponent of the last one, which is at most
`n - 1074`. -/
def shortest (x : ℚ) : Nat → ℤ × ℤ
  | 0 => (⌊x / 10 ^ (-1074 : ℤ)⌋, -1074)
  | n + 1 =>
      match readBack? x ((n + 1 : ℕ) - 1074) with
      | some digits => (digits, (n + 1 : ℕ) - 1074)
      | none => shortest x n

/-- No float has a digit above the one of `1e308`. -/
def shortestDecimal (x : ℚ) : ℤ × ℤ := if x = 0 then (0, 0) else shortest x (1074 + 308)

/-- The exponent, in two digits at least. -/
def exponentText (e : ℤ) : List Char :=
  let digits := Nat.toDigits 10 e.natAbs
  'e' :: (if e < 0 then '-' else '+') :: (List.replicate (2 - digits.length) '0' ++ digits)

/-- Digits with a dot after the first `point` of them. -/
def placePoint (digits : List Char) (point : ℤ) : List Char :=
  if point ≤ 0 then '0' :: '.' :: (List.replicate (-point).toNat '0' ++ digits)
  else if point < digits.length then
    digits.take point.toNat ++ '.' :: digits.drop point.toNat
  else digits ++ List.replicate (point - digits.length).toNat '0' ++ ['.', '0']

/-- The first digit, and the others after a dot. -/
def mantissaText (digits : List Char) : List Char :=
  if digits.length ≤ 1 then digits else digits.take 1 ++ '.' :: digits.drop 1

/-- The digits of the text. -/
def digitsOf (x : ℚ) : List Char := Nat.toDigits 10 (shortestDecimal x).1.toNat

/-- The number of digits before the dot. -/
def pointOf (x : ℚ) : ℤ := (digitsOf x).length + (shortestDecimal x).2

/-- The text of a magnitude. -/
def magnitudeRepr (x : ℚ) : List Char :=
  if pointOf x ≤ -4 ∨ 16 < pointOf x then
    mantissaText (digitsOf x) ++ exponentText (pointOf x - 1)
  else placePoint (digitsOf x) (pointOf x)

/-- `repr` of a finite float. -/
def floatRepr (x : FiniteFloat) : String :=
  String.ofList ((if x.negative then ['-'] else []) ++ magnitudeRepr x.magnitude)

/-! ### The digits -/

theorem roundHalfEven_eq_floor_or_ceil (x : ℚ) :
    roundHalfEven x = ⌊x⌋ ∨ roundHalfEven x = ⌈x⌉ := by
  have hlow := floor_le_roundHalfEven x
  have hhigh := roundHalfEven_le_floor_add_one x
  by_cases hfloor : roundHalfEven x = ⌊x⌋
  · exact .inl hfloor
  · have hnext : roundHalfEven x = ⌊x⌋ + 1 := by omega
    have hmono : roundHalfEven x ≤ ⌈x⌉ := by
      rw [← roundHalfEven_intCast ⌈x⌉]
      exact roundHalfEven_mono (Int.le_ceil x)
    have hceil := Int.ceil_le_floor_add_one x
    exact .inr (by omega)

theorem double_of_readBack {x : ℚ} {k d : ℤ} (h : readBack? x k = some d) :
    double (d * 10 ^ k) = x := by
  simp only [readBack?] at h
  split at h
  · next hlow =>
      split at h
      · next hhigh =>
          obtain rfl := Option.some_inj.mp h
          rcases roundHalfEven_eq_floor_or_ceil (x / 10 ^ k) with hround | hround
          · rw [hround]
            exact hlow
          · rw [hround]
            exact hhigh
      · obtain rfl := Option.some_inj.mp h
        exact hlow
  · split at h
    · next hhigh =>
        obtain rfl := Option.some_inj.mp h
        exact hhigh
    · cases h

/-- Where some multiple is read back, one of the two around the float is. -/
theorem readBack_ne_none {x : ℚ} {k m : ℤ} (hx : double x = x) (hm : double (m * 10 ^ k) = x) :
    readBack? x k ≠ none := by
  have hunit : (0 : ℚ) < 10 ^ k := zpow_pos (by norm_num) k
  have hfloor : (⌊x / 10 ^ k⌋ : ℚ) * 10 ^ k ≤ x := (le_div_iff₀ hunit).mp (Int.floor_le _)
  have hceil : x ≤ (⌈x / 10 ^ k⌉ : ℚ) * 10 ^ k := (div_le_iff₀ hunit).mp (Int.le_ceil _)
  have haround : double ((⌊x / 10 ^ k⌋ : ℚ) * 10 ^ k) = x ∨
      double ((⌈x / 10 ^ k⌉ : ℚ) * 10 ^ k) = x := by
    rcases le_total ((m : ℚ) * 10 ^ k) x with hle | hle
    · left
      have hbetween : (m : ℚ) * 10 ^ k ≤ ⌊x / 10 ^ k⌋ * 10 ^ k := by
        refine mul_le_mul_of_nonneg_right ?_ hunit.le
        exact_mod_cast Int.le_floor.mpr ((le_div_iff₀ hunit).mpr hle)
      exact le_antisymm ((double_monotone hfloor).trans hx.le)
        (hm.ge.trans (double_monotone hbetween))
    · right
      have hbetween : (⌈x / 10 ^ k⌉ : ℚ) * 10 ^ k ≤ m * 10 ^ k := by
        refine mul_le_mul_of_nonneg_right ?_ hunit.le
        exact_mod_cast Int.ceil_le.mpr ((div_le_iff₀ hunit).mpr hle)
      exact le_antisymm ((double_monotone hbetween).trans hm.le)
        (hx.ge.trans (double_monotone hceil))
  simp only [readBack?]
  rcases haround with h | h
  · rw [if_pos h]
    split
    · exact Option.some_ne_none _
    · exact Option.some_ne_none _
  · rw [if_pos h]
    split
    · exact Option.some_ne_none _
    · exact Option.some_ne_none _

/-- A negative power of two ends in decimal, at the digit of the same exponent. -/
theorem two_zpow_neg (n : ℕ) : (2 : ℚ) ^ (-n : ℤ) = ((5 ^ n : ℤ) : ℚ) * 10 ^ (-n : ℤ) := by
  have hten : (10 : ℚ) = 5 * 2 := by norm_num
  rw [hten, mul_zpow, Int.cast_pow, ← mul_assoc, ← zpow_natCast, Int.cast_ofNat,
    ← zpow_add₀ (by norm_num), add_neg_cancel, zpow_zero, one_mul]

/-- A float is a whole number of the smallest ones, and these end at the digit of `1e-1074`. -/
theorem eq_floor_smallest {x : ℚ} (hx : double x = x) :
    x = ⌊x / 10 ^ (-1074 : ℤ)⌋ * 10 ^ (-1074 : ℤ) := by
  have hunit : (10 : ℚ) ^ (-1074 : ℤ) ≠ 0 := zpow_ne_zero _ (by norm_num)
  have hexponent : (-1074 : ℤ) ≤ lastExponent x := le_max_right _ _
  have hsmallest : (2 : ℚ) ^ (-1074 : ℤ) = ((5 ^ 1074 : ℤ) : ℚ) * 10 ^ (-1074 : ℤ) :=
    two_zpow_neg 1074
  have hwhole : x = ((roundHalfEven (x / 2 ^ lastExponent x) *
      2 ^ (lastExponent x - -1074).toNat * (5 ^ 1074 : ℤ) : ℤ) : ℚ) * 10 ^ (-1074 : ℤ) := by
    rw [Int.cast_mul, Int.cast_mul, mul_assoc, mul_assoc, ← hsmallest]
    refine hx.symm.trans ?_
    rw [double]
    exact congrArg _ (zpow_eq_units hexponent)
  have hscaled := (div_eq_iff hunit).mpr hwhole
  rw [hscaled, Int.floor_intCast]
  exact hwhole

/-- The shortest text is read back as the float, and no shorter one is. -/
theorem shortest_spec {x : ℚ} (hx : double x = x) (n : Nat) :
    double ((shortest x n).1 * 10 ^ (shortest x n).2) = x ∧
      ∀ j, (shortest x n).2 < j → j ≤ n - 1074 → readBack? x j = none := by
  induction n with
  | zero =>
      refine ⟨?_, fun j hlow hhigh => ?_⟩
      · rw [shortest, ← eq_floor_smallest hx]
        exact hx
      · have hlow : -1074 < j := hlow
        have hhigh : j ≤ ((0 : ℕ) : ℤ) - 1074 := hhigh
        omega
  | succ n ih =>
      cases h : readBack? x ((n + 1 : ℕ) - 1074) with
      | some d =>
          simp only [shortest, h]
          exact ⟨double_of_readBack h, fun j hlow hhigh => absurd hhigh (by omega)⟩
      | none =>
          simp only [shortest, h]
          refine ⟨ih.1, fun j hlow hhigh => ?_⟩
          rcases hhigh.lt_or_eq with hlt | rfl
          · exact ih.2 j hlow (by push_cast at hlt; omega)
          · exact h

/-! ### The size of the text's number -/

/-- The number the shortest text shows. -/
def shortestValue (x : ℚ) : ℚ := (shortestDecimal x).1 * 10 ^ (shortestDecimal x).2

section Value

variable {x : ℚ} (hx : double x = x)
include hx

theorem double_shortestValue : double (shortestValue x) = x := by
  unfold shortestValue shortestDecimal
  by_cases hzero : x = 0
  · rw [if_pos hzero, hzero]
    simpa using double_zero
  · rw [if_neg hzero]
    exact (shortest_spec hx _).1

theorem shortestValue_pos (hpos : 0 < x) : 0 < shortestValue x := by
  by_contra hle
  have hnonpos := double_nonpos (not_lt.mp hle)
  rw [double_shortestValue hx] at hnonpos
  exact absurd hpos (not_lt.mpr hnonpos)

theorem shortestDigits_pos (hpos : 0 < x) : 0 < (shortestDecimal x).1 := by
  have hunit : (0 : ℚ) < 10 ^ (shortestDecimal x).2 := zpow_pos (by norm_num) _
  exact_mod_cast (mul_pos_iff_of_pos_right hunit).mp (shortestValue_pos hx hpos)

/-- A power of ten below the float is below the number of its text: else the power itself is a
shorter text. -/
theorem le_shortestValue {j : ℤ} (hj : j ≤ 308) (h : 10 ^ j ≤ x) : 10 ^ j ≤ shortestValue x := by
  by_contra hlt
  have hpos : 0 < x := (zpow_pos (by norm_num) j).trans_le h
  have hpower : double ((1 : ℤ) * 10 ^ j) = x := by
    rw [Int.cast_one, one_mul]
    refine le_antisymm ((double_monotone h).trans hx.le) ?_
    calc x = double (shortestValue x) := (double_shortestValue hx).symm
      _ ≤ double (10 ^ j) := double_monotone (not_le.mp hlt).le
  have hdecimal : shortestDecimal x = shortest x (1074 + 308) := if_neg hpos.ne'
  have hexponent : j ≤ (shortestDecimal x).2 := by
    by_contra hlow
    rw [hdecimal] at hlow
    exact readBack_ne_none hx hpower ((shortest_spec hx _).2 j (not_le.mp hlow) hj)
  have hdigits : (1 : ℚ) ≤ (shortestDecimal x).1 := by exact_mod_cast shortestDigits_pos hx hpos
  refine hlt ?_
  calc (10 : ℚ) ^ j ≤ 10 ^ (shortestDecimal x).2 := zpow_le_zpow_right₀ (by norm_num) hexponent
    _ ≤ shortestValue x := le_mul_of_one_le_left (zpow_nonneg (by norm_num) _) hdigits

theorem shortestValue_lt {j : ℤ} (hpower : (10 : ℚ) ^ j ≤ double (10 ^ j)) (h : x < 10 ^ j) :
    shortestValue x < 10 ^ j := by
  by_contra hle
  have hdouble := hpower.trans (double_monotone (not_lt.mp hle))
  rw [double_shortestValue hx] at hdouble
  exact absurd h (not_lt.mpr hdouble)

end Value

/-! ### The place of the dot -/

section Point

theorem natCast_lt_of_length (d : ℕ) : (d : ℚ) < 10 ^ ((Nat.toDigits 10 d).length : ℤ) := by
  rw [zpow_natCast]
  exact_mod_cast (Nat.length_toDigits_le_iff (by omega) Nat.length_toDigits_pos).mp le_rfl

theorem le_natCast_of_length {d : ℕ} (hd : 0 < d) :
    (10 : ℚ) ^ ((Nat.toDigits 10 d).length - 1 : ℤ) ≤ d := by
  obtain ⟨k, hk⟩ : ∃ k, (Nat.toDigits 10 d).length = k + 1 :=
    Nat.exists_eq_succ_of_ne_zero Nat.length_toDigits_pos.ne'
  rw [hk, Nat.cast_succ, add_sub_cancel_right, zpow_natCast]
  by_contra hlt
  have hlt : d < 10 ^ k := by exact_mod_cast not_le.mp hlt
  rcases Nat.eq_zero_or_pos k with rfl | hkpos
  · omega
  · have hle := (Nat.length_toDigits_le_iff (b := 10) (by omega) hkpos).mpr hlt
    omega

variable {x : ℚ} (hx : double x = x) (hpos : 0 < x)
include hx hpos

theorem shortestValue_eq :
    shortestValue x = ((shortestDecimal x).1.toNat : ℚ) * 10 ^ (shortestDecimal x).2 := by
  have hcast : (((shortestDecimal x).1.toNat : ℤ) : ℚ) = (shortestDecimal x).1 := by
    rw [Int.toNat_of_nonneg (shortestDigits_pos hx hpos).le]
  rw [shortestValue, ← hcast, Int.cast_natCast]

theorem shortestValue_lt_point : shortestValue x < 10 ^ pointOf x := by
  rw [shortestValue_eq hx hpos, pointOf, zpow_add₀ (by norm_num)]
  exact mul_lt_mul_of_pos_right (natCast_lt_of_length _) (zpow_pos (by norm_num) _)

theorem point_le_shortestValue : 10 ^ (pointOf x - 1) ≤ shortestValue x := by
  have hdigits : 0 < (shortestDecimal x).1.toNat := by
    have := shortestDigits_pos hx hpos
    omega
  rw [shortestValue_eq hx hpos, pointOf, add_sub_right_comm, zpow_add₀ (by norm_num)]
  exact mul_le_mul_of_nonneg_right (le_natCast_of_length hdigits) (zpow_nonneg (by norm_num) _)

/-- **The texts with an exponent** are those of numbers that are small or large. -/
theorem point_le_iff : pointOf x ≤ -4 ↔ x < 10 ^ (-4 : ℤ) := by
  constructor
  · intro hpoint
    by_contra hle
    have hvalue := le_shortestValue hx (by norm_num) (not_lt.mp hle)
    have hlt := shortestValue_lt_point hx hpos
    have hpower : (10 : ℚ) ^ pointOf x ≤ 10 ^ (-4 : ℤ) := zpow_le_zpow_right₀ (by norm_num) hpoint
    exact absurd (hvalue.trans_lt hlt) (not_lt.mpr hpower)
  · intro hlt
    by_contra hpoint
    have hvalue := shortestValue_lt hx (by decide +kernel) hlt
    have hpower : (10 : ℚ) ^ (-4 : ℤ) ≤ 10 ^ (pointOf x - 1) :=
      zpow_le_zpow_right₀ (by norm_num) (by omega)
    exact absurd (hpower.trans (point_le_shortestValue hx hpos)) (not_le.mpr hvalue)

theorem lt_point_iff : 16 < pointOf x ↔ 10 ^ (16 : ℤ) ≤ x := by
  constructor
  · intro hpoint
    by_contra hlt
    have hvalue := shortestValue_lt hx (by decide +kernel) (not_le.mp hlt)
    have hpower : (10 : ℚ) ^ (16 : ℤ) ≤ 10 ^ (pointOf x - 1) :=
      zpow_le_zpow_right₀ (by norm_num) (by omega)
    exact absurd (hpower.trans (point_le_shortestValue hx hpos)) (not_le.mpr hvalue)
  · intro hle
    by_contra hpoint
    have hvalue := le_shortestValue hx (by norm_num) hle
    have hlt := shortestValue_lt_point hx hpos
    have hpower : (10 : ℚ) ^ pointOf x ≤ 10 ^ (16 : ℤ) :=
      zpow_le_zpow_right₀ (by norm_num) (by omega)
    exact absurd (hvalue.trans_lt hlt) (not_lt.mpr hpower)

end Point

/-! ### Reading the text back -/

section Read

variable {digits : List Char} (hdigits : ∀ c ∈ digits, c.isDigit = true)
include hdigits

theorem dot_not_mem_digits : '.' ∉ digits := fun h => absurd (hdigits '.' h) (by decide)

theorem isDigit_of_mem_zeros {c : Char} {n : ℕ} (h : c ∈ List.replicate n '0' ++ digits) :
    c.isDigit = true := by
  rcases List.mem_append.mp h with h | h
  · rw [List.eq_of_mem_replicate h]
    rfl
  · exact hdigits c h

theorem isDigit_of_mem_padded {c : Char} {n : ℕ} (h : c ∈ digits ++ List.replicate n '0') :
    c.isDigit = true := by
  rcases List.mem_append.mp h with h | h
  · exact hdigits c h
  · rw [List.eq_of_mem_replicate h]
    rfl

/-- Zeros between the dot and the digits. -/
theorem floatOfFigure_zerosBefore {point : ℤ} (hlow : point ≤ 0) :
    floatOfFigure (['0'] ++ '.' :: (List.replicate (-point).toNat '0' ++ digits)) =
      .ok (.ofRat (Nat.ofDigitChars 10 digits 0 * 10 ^ (point - digits.length))) := by
  have hfraction : ∀ c ∈ '0' :: (List.replicate (-point).toNat '0' ++ digits),
      c.isDigit = true := by
    rw [← List.cons_append, ← List.replicate_succ]
    exact fun c => isDigit_of_mem_zeros hdigits
  have hdot : '.' ∉ List.replicate (-point).toNat '0' ++ digits :=
    fun h => dot_not_mem_digits hfraction (List.mem_cons_of_mem _ h)
  have hlength : ((List.replicate (-point).toNat '0' ++ digits).length : ℤ) =
      digits.length - point := by
    rw [List.length_append, List.length_replicate]
    omega
  have hzero : '.' ∉ ['0'] := by decide
  refine (floatOfFigure_point hzero _).trans ?_
  rw [if_neg (by simp [hdot]), List.singleton_append, decimalValue_eq_ofDigitChars hfraction,
    Nat.ofDigitChars_cons, Nat.ofDigitChars_append, Nat.ofDigitChars_replicate_zero,
    ← zpow_natCast, hlength, div_eq_mul_inv, ← zpow_neg, neg_sub]
  simp

/-- The dot is between two digits. -/
theorem floatOfFigure_dotInside (hne : digits ≠ []) {point : ℤ} (hlow : 0 < point)
    (hshort : point < digits.length) :
    floatOfFigure (digits.take point.toNat ++ '.' :: digits.drop point.toNat) =
      .ok (.ofRat (Nat.ofDigitChars 10 digits 0 * 10 ^ (point - digits.length))) := by
  have hdot : '.' ∉ digits := dot_not_mem_digits hdigits
  have hlength : ((digits.drop point.toNat).length : ℤ) = digits.length - point := by
    rw [List.length_drop]
    omega
  rw [floatOfFigure_point (fun h => hdot (List.mem_of_mem_take h)), List.take_append_drop,
    if_neg (not_or.mpr ⟨hne, fun h => hdot (List.mem_of_mem_drop h)⟩),
    decimalValue_eq_ofDigitChars hdigits, ← zpow_natCast, hlength, div_eq_mul_inv, ← zpow_neg,
    neg_sub]

/-- Zeros between the digits and the dot. -/
theorem floatOfFigure_zerosAfter (zeros : ℕ) :
    floatOfFigure (digits ++ List.replicate zeros '0' ++ '.' :: ['0']) =
      .ok (.ofRat (Nat.ofDigitChars 10 digits 0 * 10 ^ zeros)) := by
  have hall : ∀ c ∈ digits ++ List.replicate zeros '0' ++ ['0'], c.isDigit = true := by
    rw [List.append_assoc, ← List.replicate_succ']
    exact fun c => isDigit_of_mem_padded hdigits
  have hwhole : ∀ c ∈ digits ++ List.replicate zeros '0', c.isDigit = true :=
    fun c => isDigit_of_mem_padded hdigits
  rw [floatOfFigure_point (dot_not_mem_digits hwhole), if_neg (by simp),
    decimalValue_eq_ofDigitChars hall, Nat.ofDigitChars_append, Nat.ofDigitChars_append,
    Nat.ofDigitChars_replicate_zero, Nat.ofDigitChars_cons]
  congr 2
  simp only [Nat.ofDigitChars_nil, List.length_singleton]
  push_cast
  ring

/-- **A text without an exponent is read back.** -/
theorem floatOfFigure_placePoint (hne : digits ≠ []) (point : ℤ) :
    floatOfFigure (placePoint digits point) =
      .ok (.ofRat (Nat.ofDigitChars 10 digits 0 * 10 ^ (point - digits.length))) := by
  unfold placePoint
  by_cases hlow : point ≤ 0
  · rw [if_pos hlow]
    exact floatOfFigure_zerosBefore hdigits hlow
  · rw [if_neg hlow]
    by_cases hshort : point < digits.length
    · rw [if_pos hshort]
      exact floatOfFigure_dotInside hdigits hne (not_le.mp hlow) hshort
    · obtain ⟨zeros, hzeros⟩ := Int.eq_ofNat_of_zero_le
        (show 0 ≤ point - digits.length by omega)
      rw [if_neg hshort, hzeros, Int.toNat_natCast, zpow_natCast]
      exact floatOfFigure_zerosAfter hdigits zeros

/-- Of a text with an exponent, the digits before it are read with the dot after the first. -/
theorem floatOfFigure_mantissa (hne : digits ≠ []) :
    floatOfFigure (mantissaText digits) =
      .ok (.ofRat (Nat.ofDigitChars 10 digits 0 / 10 ^ (digits.length - 1))) := by
  have hdot : '.' ∉ digits := dot_not_mem_digits hdigits
  unfold mantissaText
  by_cases hone : digits.length ≤ 1
  · rw [if_pos hone, floatOfFigure_whole hdot, if_neg hne, decimalValue_eq_ofDigitChars hdigits,
      Nat.sub_eq_zero_of_le hone, pow_zero, div_one]
  · rw [if_neg hone, floatOfFigure_point (fun h => hdot (List.mem_of_mem_take h)),
      List.take_append_drop, if_neg (not_or.mpr ⟨hne, fun h => hdot (List.mem_of_mem_drop h)⟩),
      decimalValue_eq_ofDigitChars hdigits, List.length_drop]

theorem isFigureChar_of_mem_placePoint {c : Char} {point : ℤ} (hc : c ∈ placePoint digits point) :
    isFigureChar c = true := by
  have hfigure : ∀ d ∈ digits, isFigureChar d = true := fun d hd =>
    Bool.or_eq_true_iff.mpr (.inl (isDecimalDigit_of_isDigit (hdigits d hd)))
  have hzero : isFigureChar '0' = true := by decide
  have hpoint : isFigureChar '.' = true := by decide
  unfold placePoint at hc
  split at hc
  · rcases List.mem_cons.mp hc with rfl | hc
    · exact hzero
    rcases List.mem_cons.mp hc with rfl | hc
    · exact hpoint
    rcases List.mem_append.mp hc with hc | hc
    · rw [List.eq_of_mem_replicate hc]
      exact hzero
    · exact hfigure c hc
  split at hc
  · rcases List.mem_append.mp hc with hc | hc
    · exact hfigure c (List.mem_of_mem_take hc)
    rcases List.mem_cons.mp hc with rfl | hc
    · exact hpoint
    · exact hfigure c (List.mem_of_mem_drop hc)
  · rcases List.mem_append.mp hc with hc | hc
    · rcases List.mem_append.mp hc with hc | hc
      · exact hfigure c hc
      · rw [List.eq_of_mem_replicate hc]
        exact hzero
    · rcases List.mem_pair.mp hc with rfl | rfl
      · exact hpoint
      · exact hzero

theorem isFigureChar_of_mem_mantissa {c : Char} (hc : c ∈ mantissaText digits) :
    isFigureChar c = true := by
  have hfigure : ∀ d ∈ digits, isFigureChar d = true := fun d hd =>
    Bool.or_eq_true_iff.mpr (.inl (isDecimalDigit_of_isDigit (hdigits d hd)))
  unfold mantissaText at hc
  split at hc
  · exact hfigure c hc
  · rcases List.mem_append.mp hc with hc | hc
    · exact hfigure c (List.mem_of_mem_take hc)
    rcases List.mem_cons.mp hc with rfl | hc
    · decide
    · exact hfigure c (List.mem_of_mem_drop hc)

end Read

theorem placePoint_ne_nil (digits : List Char) (point : ℤ) : placePoint digits point ≠ [] := by
  unfold placePoint
  split
  · exact List.cons_ne_nil _ _
  split
  · exact List.append_ne_nil_of_right_ne_nil _ (List.cons_ne_nil _ _)
  · exact List.append_ne_nil_of_right_ne_nil _ (List.cons_ne_nil _ _)

theorem mantissaText_ne_nil {digits : List Char} (hne : digits ≠ []) :
    mantissaText digits ≠ [] := by
  unfold mantissaText
  split
  · exact hne
  · exact List.append_ne_nil_of_right_ne_nil _ (List.cons_ne_nil _ _)

theorem isDigit_of_mem_digitsOf {x : ℚ} : ∀ c ∈ digitsOf x, c.isDigit = true :=
  fun _ hc => Nat.isDigit_of_mem_toDigits (by decide) (by decide) hc

theorem digitsOf_ne_nil (x : ℚ) : digitsOf x ≠ [] := Nat.toDigits_ne_nil

/-! ### Which floats survive -/

namespace FiniteFloat

/-- The text has neither a sign nor an exponent. -/
def IsPlain (x : FiniteFloat) : Prop :=
  x.negative = false ∧
    (x.magnitude = 0 ∨ (10 ^ (-4 : ℤ) ≤ x.magnitude ∧ x.magnitude < 10 ^ (16 : ℤ)))

instance (x : FiniteFloat) : Decidable x.IsPlain := inferInstanceAs (Decidable (_ ∧ _))

variable {x : FiniteFloat}

theorem magnitude_pos (h : x.magnitude ≠ 0) : 0 < x.magnitude := lt_of_le_of_ne x.nonneg h.symm

/-- The number of a text is the float when it is rounded. -/
theorem ofRat_shortestValue (x : FiniteFloat) :
    PyFloat.ofRat (shortestValue x.magnitude) = .finite x.magnitude := by
  have hdouble := double_shortestValue x.isDouble
  unfold PyFloat.ofRat
  rw [hdouble, if_pos]
  rw [abs_of_nonneg x.nonneg]
  exact x.lt_limit

theorem toList_floatRepr (x : FiniteFloat) :
    (floatRepr x).toList = (if x.negative then ['-'] else []) ++ magnitudeRepr x.magnitude :=
  String.toList_ofList

/-- The characters of the text of a float. -/
theorem mem_floatRepr {c : Char} (hc : c ∈ (floatRepr x).toList) :
    isFigureChar c = true ∨ c = 'e' ∨ c = '+' ∨ c = '-' := by
  have hdigit : ∀ d : Char, d.isDigit = true → isFigureChar d = true := fun d hd =>
    Bool.or_eq_true_iff.mpr (.inl (isDecimalDigit_of_isDigit hd))
  rw [toList_floatRepr] at hc
  rcases List.mem_append.mp hc with hc | hc
  · split at hc
    · exact .inr (.inr (.inr (List.mem_singleton.mp hc)))
    · cases hc
  unfold magnitudeRepr at hc
  split at hc
  · rcases List.mem_append.mp hc with hc | hc
    · exact .inl (isFigureChar_of_mem_mantissa isDigit_of_mem_digitsOf hc)
    rcases List.mem_cons.mp hc with rfl | hc
    · exact .inr (.inl rfl)
    rcases List.mem_cons.mp hc with rfl | hc
    · split
      · exact .inr (.inr (.inr rfl))
      · exact .inr (.inr (.inl rfl))
    · refine .inl (hdigit c (isDigit_of_mem_zeros ?_ hc))
      exact fun d hd => Nat.isDigit_of_mem_toDigits (by decide) (by decide) hd
  · exact .inl (isFigureChar_of_mem_placePoint isDigit_of_mem_digitsOf hc)

/-- **A plain text is a figure that is read back as the float.** -/
theorem floatRepr_of_isPlain (h : x.IsPlain) :
    (floatRepr x).toList ≠ [] ∧ (∀ c ∈ (floatRepr x).toList, isFigureChar c = true) ∧
      floatOfFigure (floatRepr x).toList = .ok (.finite x.toRat) := by
  obtain ⟨hsign, hsize⟩ := h
  have hrat : x.toRat = x.magnitude := by rw [toRat, hsign]; rfl
  have hpoint : ¬ (pointOf x.magnitude ≤ -4 ∨ 16 < pointOf x.magnitude) := by
    rcases hsize with hzero | ⟨hlow, hhigh⟩
    · rw [hzero]
      decide
    · have hpos : 0 < x.magnitude := (zpow_pos (by norm_num) _).trans_le hlow
      rw [point_le_iff x.isDouble hpos, lt_point_iff x.isDouble hpos, not_or, not_lt, not_le]
      exact ⟨hlow, hhigh⟩
  have htext : (floatRepr x).toList =
      placePoint (digitsOf x.magnitude) (pointOf x.magnitude) := by
    rw [toList_floatRepr, hsign, magnitudeRepr, if_neg hpoint]
    rfl
  rw [htext, hrat, floatOfFigure_placePoint isDigit_of_mem_digitsOf (digitsOf_ne_nil _)]
  refine ⟨placePoint_ne_nil _ _,
    fun c => isFigureChar_of_mem_placePoint isDigit_of_mem_digitsOf, ?_⟩
  rw [← ofRat_shortestValue x, digitsOf, Nat.ofDigitChars_ten_toDigits, pointOf, digitsOf,
    add_sub_cancel_left]
  rcases eq_or_ne x.magnitude 0 with hzero | hne
  · rw [hzero]
    rfl
  · rw [shortestValue_eq x.isDouble (magnitude_pos hne)]

/-- The digits before an exponent show a number from one to ten. -/
theorem floatOfFigure_mantissa_between (hne : x.magnitude ≠ 0) :
    ∃ y, floatOfFigure (mantissaText (digitsOf x.magnitude)) = .ok (.finite y) ∧
      1 ≤ y ∧ y ≤ 10 := by
  have hdigits := shortestDigits_pos x.isDouble (magnitude_pos hne)
  have hhigh := natCast_lt_of_length (shortestDecimal x.magnitude).1.toNat
  have hlow := le_natCast_of_length (d := (shortestDecimal x.magnitude).1.toNat) (by omega)
  have hvalue := floatOfFigure_mantissa isDigit_of_mem_digitsOf (digitsOf_ne_nil x.magnitude)
  obtain ⟨k, hk⟩ : ∃ k, (digitsOf x.magnitude).length = k + 1 :=
    Nat.exists_eq_succ_of_ne_zero (List.length_pos_iff.mpr (digitsOf_ne_nil _)).ne'
  rw [digitsOf, Nat.ofDigitChars_ten_toDigits] at hvalue
  rw [digitsOf] at hk ⊢
  rw [hk, Nat.add_sub_cancel] at hvalue
  rw [hk, Nat.cast_succ, add_sub_cancel_right, zpow_natCast] at hlow
  rw [hk, zpow_natCast, pow_succ'] at hhigh
  generalize ((shortestDecimal x.magnitude).1.toNat : ℚ) = d at hvalue hlow hhigh
  have hunit : (0 : ℚ) < 10 ^ k := by positivity
  have hone : 1 ≤ d / 10 ^ k := (one_le_div hunit).mpr hlow
  have hten : d / 10 ^ k ≤ (10 : ℕ) := (div_le_iff₀ hunit).mpr (by exact_mod_cast hhigh.le)
  refine ⟨double (d / 10 ^ k), ?_, ?_, ?_⟩
  · rw [hvalue, PyFloat.ofRat_le_natCast (zero_le_one.trans hone) hten (by norm_num)]
  · exact double_one.ge.trans (double_monotone hone)
  · exact double_le_natCast (zero_le_one.trans hone) hten (by norm_num)

/-- **Of any other text** the sign comes first, or the figure ends at an exponent and shows another
number. -/
theorem floatRepr_of_not_isPlain (h : ¬ x.IsPlain) :
    (x.negative = true ∧ ∃ rest, (floatRepr x).toList = '-' :: rest) ∨
      ∃ figure rest y, (floatRepr x).toList = figure ++ 'e' :: rest ∧ figure ≠ [] ∧
        (∀ c ∈ figure, isFigureChar c = true) ∧ floatOfFigure figure = .ok y ∧
        y ≠ .finite x.toRat := by
  cases hsign : x.negative with
  | true =>
      left
      refine ⟨rfl, magnitudeRepr x.magnitude, ?_⟩
      rw [toList_floatRepr, hsign]
      rfl
  | false =>
      right
      have hrat : x.toRat = x.magnitude := by rw [toRat, hsign]; rfl
      have hsize : ¬ (x.magnitude = 0 ∨
          (10 ^ (-4 : ℤ) ≤ x.magnitude ∧ x.magnitude < 10 ^ (16 : ℤ))) := fun hs => h ⟨hsign, hs⟩
      have hne : x.magnitude ≠ 0 := fun hzero => hsize (.inl hzero)
      have hpos := magnitude_pos hne
      have hextreme : x.magnitude < 10 ^ (-4 : ℤ) ∨ 10 ^ (16 : ℤ) ≤ x.magnitude := by
        by_contra hboth
        rw [not_or, not_lt, not_le] at hboth
        exact hsize (.inr hboth)
      have hpoint : pointOf x.magnitude ≤ -4 ∨ 16 < pointOf x.magnitude := by
        rwa [point_le_iff x.isDouble hpos, lt_point_iff x.isDouble hpos]
      obtain ⟨y, hy, hone, hten⟩ := floatOfFigure_mantissa_between hne
      refine ⟨mantissaText (digitsOf x.magnitude), (exponentText (pointOf x.magnitude - 1)).tail,
        .finite y, ?_, mantissaText_ne_nil (digitsOf_ne_nil _),
        fun c => isFigureChar_of_mem_mantissa isDigit_of_mem_digitsOf, hy, ?_⟩
      · rw [toList_floatRepr, hsign, magnitudeRepr, if_pos hpoint]
        rfl
      · rw [hrat]
        intro hsame
        obtain rfl := PyFloat.finite.inj hsame
        rcases hextreme with hlow | hhigh
        · exact absurd (hone.trans_lt hlow) (by norm_num)
        · exact absurd (hhigh.trans hten) (by norm_num)

end FiniteFloat

end GaiaOS
