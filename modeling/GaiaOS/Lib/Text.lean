/-
Reading text back.

A text put together with separators can be taken apart again where the separator occurs in
none of the parts, and the decimal text of an integer tells the integer.  `pySplitOn` is
`str.split` with a separator and `pyInt` reads a decimal text back.  Trimmed text stays as it is
when it is trimmed again, also in lower case.
-/
import GaiaOS.Lib.Python
import Mathlib.Data.List.DropRight
import Mathlib.Tactic.IntervalCases

namespace GaiaOS

/-- What stands before a separator that does not occur in it can be read off. -/
theorem eq_of_append_separator {c : Char} {before before' after after' : List Char}
    (hbefore : c ∉ before) (hbefore' : c ∉ before')
    (h : before ++ c :: after = before' ++ c :: after') : before = before' ∧ after = after' := by
  induction before generalizing before' with
  | nil =>
      cases before' with
      | nil => simpa using h
      | cons d before' =>
          rw [List.nil_append, List.cons_append, List.cons.injEq] at h
          exact absurd (h.1 ▸ List.mem_cons_self) hbefore'
  | cons d before ih =>
      cases before' with
      | nil =>
          rw [List.nil_append, List.cons_append, List.cons.injEq] at h
          exact absurd (h.1 ▸ List.mem_cons_self) hbefore
      | cons d' before' =>
          rw [List.cons_append, List.cons_append, List.cons.injEq] at h
          rw [List.mem_cons, not_or] at hbefore hbefore'
          obtain ⟨rfl, rfl⟩ := ih hbefore.2 hbefore'.2 h.2
          exact ⟨by rw [h.1], rfl⟩

/-- A word without the separator is found on one of its sides. -/
theorem infix_of_append_separator {c : Char} {word before after : List Char} (hword : c ∉ word)
    (h : word <:+: before ++ c :: after) : word <:+: before ∨ word <:+: after := by
  rcases List.infix_append_iff.mp h with h | h | ⟨l₁, l₂, rfl, hsuffix, hstart⟩
  · exact .inl h
  · rcases List.infix_cons_iff.mp h with h | h
    · cases word with
      | nil => exact .inl List.nil_infix
      | cons d word =>
          rw [List.cons_prefix_cons] at h
          exact absurd (h.1 ▸ List.mem_cons_self) hword
    · exact .inr h
  · cases l₂ with
    | nil =>
        rw [List.append_nil]
        exact .inl hsuffix.isInfix
    | cons d l₂ =>
        rw [List.cons_prefix_cons] at hstart
        exact absurd (List.mem_append_right l₁ (hstart.1 ▸ List.mem_cons_self)) hword

/-- What stands after the last of the separators, and before it. -/
theorem eq_of_append_last_separator {c : Char} {before before' after after' : List Char}
    (hafter : c ∉ after) (hafter' : c ∉ after')
    (h : before ++ c :: after = before' ++ c :: after') : before = before' ∧ after = after' := by
  have hreverse : after.reverse ++ c :: before.reverse =
      after'.reverse ++ c :: before'.reverse := by
    simpa using congrArg List.reverse h
  obtain ⟨h1, h2⟩ := eq_of_append_separator (fun hc => hafter (List.mem_reverse.mp hc))
    (fun hc => hafter' (List.mem_reverse.mp hc)) hreverse
  exact ⟨List.reverse_inj.mp h2, List.reverse_inj.mp h1⟩

/-- The same for text. -/
theorem text_eq_of_append_separator {before before' after after' : String} {c : Char}
    (hbefore : c ∉ before.toList) (hbefore' : c ∉ before'.toList)
    (h : before ++ (String.singleton c ++ after) = before' ++ (String.singleton c ++ after')) :
    before = before' ∧ after = after' := by
  have hlist := congrArg String.toList h
  simp only [String.toList_append, String.toList_singleton, List.singleton_append] at hlist
  obtain ⟨hb, ha⟩ := eq_of_append_separator hbefore hbefore' hlist
  exact ⟨String.toList_inj.mp hb, String.toList_inj.mp ha⟩

theorem toDigits_inj {m n : Nat} (h : Nat.toDigits 10 m = Nat.toDigits 10 n) : m = n := by
  rw [← Nat.ofDigitChars_ten_toDigits (n := m), h, Nat.ofDigitChars_ten_toDigits]

theorem minus_not_mem_toDigits (n : Nat) : '-' ∉ Nat.toDigits 10 n := by
  intro h
  have hdigit := Nat.isDigit_of_mem_toDigits (by decide) (by decide) h
  cases hdigit

/-- The decimal text of an integer has digits and a sign. -/
theorem mem_toString_int {c : Char} {m : Int} (h : c ∈ (toString m).toList) :
    c = '-' ∨ c.isDigit = true := by
  cases m with
  | ofNat m =>
      have hdigits : c ∈ Nat.toDigits 10 m := by
        simpa [Int.toString_eq_repr, Int.repr] using h
      exact .inr (Nat.isDigit_of_mem_toDigits (by decide) (by decide) hdigits)
  | negSucc m =>
      have hdigits : c = '-' ∨ c ∈ Nat.toDigits 10 (m + 1) := by
        simpa [Int.toString_eq_repr, Int.repr] using h
      rcases hdigits with rfl | hdigits
      · exact .inl rfl
      · exact .inr (Nat.isDigit_of_mem_toDigits (by decide) (by decide) hdigits)

/-- The decimal text of an integer tells the integer. -/
theorem toString_int_inj {m n : Int} (h : toString m = toString n) : m = n := by
  have hlist := congrArg String.toList h
  cases m with
  | ofNat m =>
      cases n with
      | ofNat n =>
          have hdigits : Nat.toDigits 10 m = Nat.toDigits 10 n := by
            simpa [Int.toString_eq_repr, Int.repr] using hlist
          rw [toDigits_inj hdigits]
      | negSucc n =>
          have hdigits : Nat.toDigits 10 m = '-' :: Nat.toDigits 10 (n + 1) := by
            simpa [Int.toString_eq_repr, Int.repr] using hlist
          exact absurd (hdigits ▸ List.mem_cons_self) (minus_not_mem_toDigits m)
  | negSucc m =>
      cases n with
      | ofNat n =>
          have hdigits : '-' :: Nat.toDigits 10 (m + 1) = Nat.toDigits 10 n := by
            simpa [Int.toString_eq_repr, Int.repr] using hlist
          exact absurd (hdigits ▸ List.mem_cons_self) (minus_not_mem_toDigits n)
      | negSucc n =>
          have hdigits : Nat.toDigits 10 (m + 1) = Nat.toDigits 10 (n + 1) := by
            simpa [Int.toString_eq_repr, Int.repr] using hlist
          have hsucc := toDigits_inj hdigits
          rw [Nat.succ.inj hsucc]

/-! ### Splitting -/

/-- The pieces between the places where a separator stands, found from left to right.  `skip`
characters of a separator are still to be passed over, and `piece` is what was read since the
last one, backwards. -/
def splitPieces (sep : List Char) : Nat → List Char → List Char → List (List Char)
  | _, piece, [] => [piece.reverse]
  | skip + 1, piece, _ :: rest => splitPieces sep skip piece rest
  | 0, piece, c :: rest =>
      if sep.isPrefixOf (c :: rest) then
        piece.reverse :: splitPieces sep (sep.length - 1) [] rest
      else splitPieces sep 0 (c :: piece) rest

/-- `text.split(sep)`. -/
def pySplitOn (sep text : String) : List String :=
  (splitPieces sep.toList 0 [] text.toList).map String.ofList

/-- `text.replace(old, "")`: the pieces between the occurrences, put together. -/
def pyRemove (old text : String) : String :=
  String.ofList (splitPieces old.toList 0 [] text.toList).flatten

theorem splitPieces_skip (sep piece passed rest : List Char) :
    splitPieces sep passed.length piece (passed ++ rest) = splitPieces sep 0 piece rest := by
  induction passed with
  | nil => rfl
  | cons c passed ih =>
      rw [List.length_cons, List.cons_append, splitPieces]
      exact ih

theorem splitPieces_sep (c : Char) (sep piece rest : List Char) :
    splitPieces (c :: sep) 0 piece (c :: sep ++ rest) =
      piece.reverse :: splitPieces (c :: sep) 0 [] rest := by
  have hstart : (c :: sep).isPrefixOf (c :: (sep ++ rest)) = true :=
    List.isPrefixOf_iff_prefix.mpr (List.prefix_append (c :: sep) rest)
  rw [List.cons_append, splitPieces, if_pos hstart, List.length_cons, Nat.add_sub_cancel,
    splitPieces_skip]

/-- Text without the separator's first character is read into the piece. -/
theorem splitPieces_word {c : Char} {word : List Char} (h : c ∉ word)
    (sep piece rest : List Char) :
    splitPieces (c :: sep) 0 piece (word ++ rest) =
      splitPieces (c :: sep) 0 (word.reverse ++ piece) rest := by
  induction word generalizing piece with
  | nil => rfl
  | cons d word ih =>
      rw [List.mem_cons, not_or] at h
      have hstart : ¬ (c :: sep).isPrefixOf (d :: (word ++ rest)) = true := by
        rw [List.isPrefixOf_iff_prefix, List.cons_prefix_cons]
        exact fun hc => h.1 hc.1
      rw [List.cons_append, splitPieces, if_neg hstart, ih h.2]
      simp

/-- Where a separator of two different characters stands, a piece ends, whatever comes before. -/
theorem splitPieces_append {a b : Char} (hab : a ≠ b) (after : List Char) :
    ∀ (n : Nat) (before piece : List Char), before.length ≤ n →
      ∃ pieces, pieces ≠ [] ∧ splitPieces [a, b] 0 piece (before ++ a :: b :: after) =
        pieces ++ splitPieces [a, b] 0 [] after := by
  intro n
  induction n with
  | zero =>
      intro before piece hlen
      obtain rfl : before = [] := List.length_eq_zero_iff.mp (Nat.le_zero.mp hlen)
      exact ⟨[piece.reverse], by simp, splitPieces_sep a [b] piece after⟩
  | succ n ih =>
      intro before piece hlen
      match before, hlen with
      | [], _ => exact ⟨[piece.reverse], by simp, splitPieces_sep a [b] piece after⟩
      | c :: before, hlen =>
          have hlen' : before.length ≤ n := by simpa using hlen
          by_cases hmatch : [a, b].isPrefixOf (c :: (before ++ a :: b :: after)) = true
          · rw [List.isPrefixOf_iff_prefix, List.cons_prefix_cons] at hmatch
            obtain ⟨rfl, hmatch⟩ := hmatch
            -- the match ends inside `before`: the next character is not the separator's first
            match before, hlen' with
            | [], _ => exact absurd (by simpa using hmatch : b = a).symm hab
            | d :: before, hlen' =>
                obtain rfl : b = d := by simpa using hmatch
                obtain ⟨pieces, hne, hpieces⟩ := ih before [] (by simp at hlen'; omega)
                refine ⟨piece.reverse :: pieces, by simp, ?_⟩
                have hsep := splitPieces_sep a [b] piece (before ++ a :: b :: after)
                rw [hpieces] at hsep
                exact hsep
          · obtain ⟨pieces, hne, hpieces⟩ := ih before (c :: piece) hlen'
            refine ⟨pieces, hne, ?_⟩
            rw [List.cons_append, splitPieces, if_neg hmatch, hpieces]

/-! ### Reading a decimal number -/

theorem readDigits_of_digits {digits : List Char} (h : ∀ c ∈ digits, c.isDigit = true) :
    ∀ n, readDigits digits true n = some (Nat.ofDigitChars 10 digits n) := by
  induction digits with
  | nil =>
      intro n
      rfl
  | cons c rest ih =>
      intro n
      rw [readDigits, if_pos (h c List.mem_cons_self),
        ih (fun d hd => h d (List.mem_cons_of_mem _ hd)), Nat.ofDigitChars_cons, Nat.mul_comm]

theorem not_space_of_isDigit {c : Char} (h : c.isDigit = true) : isPySpace c = false := by
  have hrange : 48 ≤ c.toNat ∧ c.toNat ≤ 57 := by
    simpa [Char.isDigit, UInt32.le_iff_toNat_le] using h
  simp only [isPySpace, Bool.or_eq_false_iff, Bool.and_eq_false_iff, decide_eq_false_iff_not,
    beq_eq_false_iff_ne]
  omega

theorem dropWhile_eq_self_of_head {p : Char → Bool} {text : List Char}
    (h : ∀ c ∈ text, p c = false) : text.dropWhile p = text := by
  cases text with
  | nil => rfl
  | cons c rest => rw [List.dropWhile_cons_of_neg (by simp [h c List.mem_cons_self])]

/-- `int(str(n))` is `n`. -/
theorem pyInt_toString (n : Nat) : pyInt (toString n) = some (n : Int) := by
  have hdigit : ∀ c ∈ Nat.toDigits 10 n, c.isDigit = true := fun c hc =>
    Nat.isDigit_of_mem_toDigits (by decide) (by decide) hc
  have hstrip : (pyStrip (toString n)).toList = Nat.toDigits 10 n := by
    have hspace : ∀ c ∈ Nat.toDigits 10 n, isPySpace c = false := fun c hc =>
      not_space_of_isDigit (hdigit c hc)
    have hback : ∀ c ∈ (Nat.toDigits 10 n).reverse, isPySpace c = false := fun c hc =>
      hspace c (List.mem_reverse.mp hc)
    have htext : (toString n).toList = Nat.toDigits 10 n := by simp
    rw [pyStrip, String.toList_ofList, htext, dropWhile_eq_self_of_head hspace,
      dropWhile_eq_self_of_head hback, List.reverse_reverse]
  have hread : readDigits (Nat.toDigits 10 n) false 0 = some n := by
    have hofDigits := Nat.ofDigitChars_ten_toDigits (n := n)
    cases htext : Nat.toDigits 10 n with
    | nil => exact absurd htext (by simp)
    | cons c rest =>
        rw [htext] at hofDigits hdigit
        rw [readDigits, if_pos (hdigit c List.mem_cons_self),
          readDigits_of_digits (fun d hd => hdigit d (List.mem_cons_of_mem _ hd)), ← hofDigits,
          Nat.ofDigitChars_cons, Nat.mul_comm]
  unfold pyInt
  rw [hstrip]
  split
  · rename_i digits htext
    exact absurd (hdigit '-' (htext ▸ List.mem_cons_self)) (by decide)
  · rename_i digits htext
    exact absurd (hdigit '+' (htext ▸ List.mem_cons_self)) (by decide)
  · rw [hread]
    rfl

/-! ### Trimming -/

theorem toList_pyStrip (text : String) :
    (pyStrip text).toList = (text.toList.dropWhile isPySpace).rdropWhile isPySpace := by
  unfold pyStrip List.rdropWhile
  rw [String.toList_ofList]

theorem pyStrip_pyStrip (text : String) : pyStrip (pyStrip text) = pyStrip text := by
  apply String.toList_inj.mp
  rw [toList_pyStrip, toList_pyStrip]
  generalize hm : text.toList.dropWhile isPySpace = m
  have hhead : (m.rdropWhile isPySpace).dropWhile isPySpace = m.rdropWhile isPySpace := by
    refine List.dropWhile_eq_self_iff.mpr fun hpos => ?_
    -- what is left after trimming the end begins as before
    have hstart := List.rdropWhile_prefix isPySpace (l := m)
    rw [hstart.getElem hpos]
    have hm' : m.dropWhile isPySpace = m := by rw [← hm, List.dropWhile_idempotent]
    exact List.dropWhile_eq_self_iff.mp hm' (hpos.trans_le hstart.length_le)
  rw [hhead, List.rdropWhile_idempotent]

theorem pyStrip_map {f : Char → Char} (hf : ∀ c, isPySpace (f c) = isPySpace c) (text : String) :
    pyStrip (text.map f) = (pyStrip text).map f := by
  have hcomp : isPySpace ∘ f = isPySpace := funext hf
  apply String.toList_inj.mp
  rw [toList_pyStrip, String.toList_map, String.toList_map, toList_pyStrip]
  unfold List.rdropWhile
  rw [List.dropWhile_map, hcomp, ← List.map_reverse, List.dropWhile_map, hcomp, List.map_reverse]

/-- A character is in lower case, or an upper-case letter of ASCII. -/
theorem toLower_cases (c : Char) :
    c.toLower = c ∨ ∃ n, (65 ≤ n ∧ n ≤ 90) ∧ c = Char.ofNat n := by
  by_cases hupper : c.val ≥ 'A'.val ∧ c.val ≤ 'Z'.val
  · right
    refine ⟨c.toNat, ?_, (Char.ofNat_toNat c).symm⟩
    simpa [UInt32.le_iff_toNat_le] using hupper
  · left
    unfold Char.toLower
    exact dif_neg hupper

theorem isPySpace_toLower (c : Char) : isPySpace c.toLower = isPySpace c := by
  rcases toLower_cases c with hsame | ⟨n, ⟨hlow, hhigh⟩, rfl⟩
  · rw [hsame]
  · interval_cases n <;> rfl

theorem toLower_toLower (c : Char) : c.toLower.toLower = c.toLower := by
  rcases toLower_cases c with hsame | ⟨n, ⟨hlow, hhigh⟩, rfl⟩
  · rw [hsame, hsame]
  · interval_cases n <;> rfl

/-- Trimming and lowering ASCII text twice is doing it once. -/
theorem toLower_pyStrip (text : String) :
    (pyStrip (pyStrip text).toLower).toLower = (pyStrip text).toLower := by
  unfold String.toLower
  rw [pyStrip_map isPySpace_toLower, pyStrip_pyStrip, String.map_map]
  congr 1
  exact funext toLower_toLower

end GaiaOS
