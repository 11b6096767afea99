/-
Numbers in decimal text.

`floatOfFigure` is `float` of a text of decimal digits and dots, in any script: a number where it
has a digit and not more than one dot, and a `ValueError` otherwise.
-/
import GaiaOS.Lib.Double
import GaiaOS.Lib.Text

namespace GaiaOS

/-! ### Decimal digits -/

/-- The zeros of Unicode 15: each is followed by the other nine digits of its script. -/
def decimalZeros : List Nat :=
  [0x30, 0x660, 0x6f0, 0x7c0, 0x966, 0x9e6, 0xa66, 0xae6, 0xb66, 0xbe6, 0xc66, 0xce6, 0xd66,
    0xde6, 0xe50, 0xed0, 0xf20, 0x1040, 0x1090, 0x17e0, 0x1810, 0x1946, 0x19d0, 0x1a80, 0x1a90,
    0x1b50, 0x1bb0, 0x1c40, 0x1c50, 0xa620, 0xa8d0, 0xa900, 0xa9d0, 0xa9f0, 0xaa50, 0xabf0,
    0xff10, 0x104a0, 0x10d30, 0x11066, 0x110f0, 0x11136, 0x111d0, 0x112f0, 0x11450, 0x114d0,
    0x11650, 0x116c0, 0x11730, 0x118e0, 0x11950, 0x11c50, 0x11d50, 0x11da0, 0x11f50, 0x16a60,
    0x16ac0, 0x16b50, 0x1d7ce, 0x1d7d8, 0x1d7e2, 0x1d7ec, 0x1d7f6, 0x1e140, 0x1e2f0, 0x1e4f0,
    0x1e950, 0x1fbf0]

/-- `unicodedata.decimal`. -/
def decimalDigit? (c : Char) : Option Nat :=
  (decimalZeros.find? fun first => first ≤ c.toNat && c.toNat < first + 10).map (c.toNat - ·)

/-- `\d`. -/
def isDecimalDigit (c : Char) : Bool := (decimalDigit? c).isSome

/-- `[\d.]`. -/
def isFigureChar (c : Char) : Bool := isDecimalDigit c || c == '.'

/-- The number a sequence of decimal digits shows. -/
def decimalValue (digits : List Char) : Nat :=
  digits.foldl (fun n c => 10 * n + (decimalDigit? c).getD 0) 0

/-! ### Reading -/

/-- `float(figure)` of a text of decimal digits and dots. -/
def floatOfFigure (figure : List Char) : Except PyError PyFloat :=
  let whole := figure.takeWhile (· ≠ '.')
  let fraction := (figure.dropWhile (· ≠ '.')).drop 1
  if whole ++ fraction = [] ∨ '.' ∈ fraction then
    .error (.valueError ("could not convert string to float: '" ++ String.ofList figure ++ "'"))
  else .ok (.ofRat (decimalValue (whole ++ fraction) / 10 ^ fraction.length))

/-- A digit, and not more than one dot. -/
def IsNumber (figure : List Char) : Prop :=
  (∃ c ∈ figure, isDecimalDigit c = true) ∧ figure.count '.' ≤ 1

instance (figure : List Char) : Decidable (IsNumber figure) :=
  decidable_of_iff (figure.any isDecimalDigit = true ∧ figure.count '.' ≤ 1)
    (and_congr_left' List.any_eq_true)

theorem floatOfFigure_whole {digits : List Char} (hdot : '.' ∉ digits) :
    floatOfFigure digits =
      if digits = [] then
        .error (.valueError ("could not convert string to float: '" ++ String.ofList digits ++ "'"))
      else .ok (.ofRat (decimalValue digits)) := by
  have hall : ∀ c ∈ digits, decide (c ≠ '.') = true := by
    intro c hc
    exact decide_eq_true fun h => hdot (h ▸ hc)
  have htake : digits.takeWhile (fun c => decide (c ≠ '.')) = digits :=
    List.takeWhile_eq_self_iff.mpr hall
  have hdrop : digits.dropWhile (fun c => decide (c ≠ '.')) = [] :=
    List.dropWhile_eq_nil_iff.mpr hall
  simp only [floatOfFigure, htake, hdrop]
  simp

theorem floatOfFigure_point {whole : List Char} (hdot : '.' ∉ whole) (fraction : List Char) :
    floatOfFigure (whole ++ '.' :: fraction) =
      if whole ++ fraction = [] ∨ '.' ∈ fraction then
        .error (.valueError ("could not convert string to float: '" ++
          String.ofList (whole ++ '.' :: fraction) ++ "'"))
      else .ok (.ofRat (decimalValue (whole ++ fraction) / 10 ^ fraction.length)) := by
  have hall : ∀ c ∈ whole, decide (c ≠ '.') = true := by
    intro c hc
    exact decide_eq_true fun h => hdot (h ▸ hc)
  have htake : (whole ++ '.' :: fraction).takeWhile (fun c => decide (c ≠ '.')) = whole := by
    rw [List.takeWhile_append_of_pos hall, List.takeWhile_cons_of_neg (by simp), List.append_nil]
  have hdrop : (whole ++ '.' :: fraction).dropWhile (fun c => decide (c ≠ '.')) =
      '.' :: fraction := by
    rw [List.dropWhile_append_of_pos hall, List.dropWhile_cons_of_neg (by simp)]
  simp only [floatOfFigure, htake, hdrop, List.drop_succ_cons, List.drop_zero]

theorem point_cases (figure : List Char) :
    '.' ∉ figure ∨ ∃ whole fraction, '.' ∉ whole ∧ figure = whole ++ '.' :: fraction := by
  by_cases hdot : '.' ∈ figure
  · obtain ⟨whole, fraction, hfigure, hwhole⟩ := List.eq_append_cons_of_mem hdot
    exact .inr ⟨whole, fraction, hwhole, hfigure⟩
  · exact .inl hdot

theorem exists_digit_iff {text : List Char} (h : ∀ c ∈ text, isFigureChar c = true)
    (hdot : '.' ∉ text) : (∃ c ∈ text, isDecimalDigit c = true) ↔ text ≠ [] := by
  constructor
  · rintro ⟨c, hc, -⟩
    exact List.ne_nil_of_mem hc
  · intro hne
    obtain ⟨c, hc⟩ := List.exists_mem_of_ne_nil text hne
    refine ⟨c, hc, ?_⟩
    rcases Bool.or_eq_true_iff.mp (h c hc) with hdigit | hpoint
    · exact hdigit
    · exact absurd (beq_iff_eq.mp hpoint ▸ hc) hdot

/-- **The texts of digits and dots that are numbers.** -/
theorem floatOfFigure_ok_iff {figure : List Char} (h : ∀ c ∈ figure, isFigureChar c = true) :
    (∃ x, floatOfFigure figure = .ok x) ↔ IsNumber figure := by
  rcases point_cases figure with hdot | ⟨whole, fraction, hwhole, rfl⟩
  · rw [floatOfFigure_whole hdot, IsNumber, exists_digit_iff h hdot, List.count_eq_zero.mpr hdot]
    by_cases hnil : figure = []
    · simp [hnil]
    · simp [hnil]
  · rw [floatOfFigure_point hwhole, IsNumber, List.count_append, List.count_cons_self,
      List.count_eq_zero.mpr hwhole]
    by_cases hdot : '.' ∈ fraction
    · have hcount : 0 < fraction.count '.' := List.count_pos_iff.mpr hdot
      rw [if_pos (.inr hdot)]
      constructor
      · rintro ⟨x, hx⟩
        cases hx
      · rintro ⟨-, hle⟩
        omega
    · have hdigits : (∃ c ∈ whole ++ '.' :: fraction, isDecimalDigit c = true) ↔
          whole ++ fraction ≠ [] := by
        have hparts : ∀ c ∈ whole ++ fraction, isFigureChar c = true := fun c hc =>
          h c (by rcases List.mem_append.mp hc with hc | hc <;> simp [hc])
        rw [← exists_digit_iff hparts (by simp [hwhole, hdot])]
        have hpoint : isDecimalDigit '.' = false := by decide
        simp [or_and_right, exists_or, hpoint]
      rw [hdigits, List.count_eq_zero.mpr hdot]
      by_cases hnil : whole ++ fraction = []
      · simp [hnil]
      · simp [hnil, hdot]

/-! ### The value of a text -/

theorem decimalDigit?_of_isDigit {c : Char} (h : c.isDigit = true) :
    decimalDigit? c = some (c.toNat - '0'.toNat) := by
  have hrange : 48 ≤ c.toNat ∧ c.toNat ≤ 57 := by
    simpa [Char.isDigit, UInt32.le_iff_toNat_le] using h
  have hfirst : (decide (0x30 ≤ c.toNat) && decide (c.toNat < 0x30 + 10)) = true := by
    simp only [Bool.and_eq_true, decide_eq_true_eq]
    omega
  unfold decimalDigit? decimalZeros
  rw [List.find?_cons, hfirst]
  rfl

theorem isDecimalDigit_of_isDigit {c : Char} (h : c.isDigit = true) : isDecimalDigit c = true := by
  rw [isDecimalDigit, decimalDigit?_of_isDigit h]
  rfl

/-- A digit or a dot is in one of the runs; the dot is close before the digits of ASCII. -/
theorem exists_run_of_isFigureChar {c : Char} (h : isFigureChar c = true) :
    ∃ first ∈ 46 :: decimalZeros, first ≤ c.toNat ∧ c.toNat < first + 10 := by
  rcases Bool.or_eq_true_iff.mp h with hdigit | hdot
  · obtain ⟨n, hn⟩ := Option.isSome_iff_exists.mp hdigit
    obtain ⟨first, hfind, -⟩ := Option.map_eq_some_iff.mp hn
    exact ⟨first, List.mem_cons_of_mem _ (List.mem_of_find?_eq_some hfind),
      by simpa using List.find?_some hfind⟩
  · rw [beq_iff_eq.mp hdot]
    exact ⟨46, List.mem_cons_self, by decide⟩

/-- No letter without an accent is a digit or a dot. -/
theorem toNat_of_isFigureChar {c : Char} (h : isFigureChar c = true) :
    c.toNat < 58 ∨ 0x660 ≤ c.toNat := by
  obtain ⟨first, hmem, hlow, hhigh⟩ := exists_run_of_isFigureChar h
  have hapart : ∀ first ∈ 46 :: decimalZeros, first + 10 ≤ 58 ∨ 0x660 ≤ first := by decide
  have hrange := hapart first hmem
  omega

/-- A digit or a dot is not white space, in any script. -/
theorem not_space_of_isFigureChar {c : Char} (h : isFigureChar c = true) : isPySpace c = false := by
  obtain ⟨first, hmem, hlow, hhigh⟩ := exists_run_of_isFigureChar h
  -- the runs of digits lie between the white space
  have hapart : ∀ first ∈ 46 :: decimalZeros, (32 < first ∧ first + 10 ≤ 0x85) ∨
      (0xa0 < first ∧ first + 10 ≤ 0x1680) ∨ (0x1680 < first ∧ first + 10 ≤ 0x2000) ∨
        0x3000 < first := by
    decide
  have hrange := hapart first hmem
  simp only [isPySpace, Bool.or_eq_false_iff, Bool.and_eq_false_iff, decide_eq_false_iff_not,
    beq_eq_false_iff_ne]
  omega

/-- Of the digits of ASCII the number is the usual one. -/
theorem decimalValue_eq_ofDigitChars {digits : List Char} (h : ∀ c ∈ digits, c.isDigit = true) :
    decimalValue digits = Nat.ofDigitChars 10 digits 0 := by
  suffices hfold : ∀ n, digits.foldl (fun n c => 10 * n + (decimalDigit? c).getD 0) n =
      Nat.ofDigitChars 10 digits n from hfold 0
  induction digits with
  | nil => exact fun _ => rfl
  | cons c digits ih =>
      intro n
      rw [List.foldl_cons, Nat.ofDigitChars_cons, decimalDigit?_of_isDigit (h c List.mem_cons_self),
        ih fun d hd => h d (List.mem_cons_of_mem c hd)]
      rfl

end GaiaOS
