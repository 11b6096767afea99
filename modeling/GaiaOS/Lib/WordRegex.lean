/-
Searches between word boundaries.

A pattern between two boundaries is found where one of its ways starts and ends at a change
between characters of words and others; only whether it is found is asked for.  A character that
belongs to no word and to no class of the pattern separates: the pattern is found in a text
exactly if it is found in one of the clauses between such characters.
-/
import GaiaOS.Lib.Regex

namespace GaiaOS

namespace Regex

variable {α : Type} (word : α → Bool)

/-- `\b` between two neighbours, either of which may be missing. -/
def boundary (before after : Option α) : Bool := before.any word != after.any word

/-- The last character that was read, or the one before. -/
def lastRead (prev : Option α) (text rest : List α) : Option α :=
  (text.take (text.length - rest.length)).getLast?.or prev

/-- `\b...\b` at a place of a text, after the character before it. -/
def Pattern.boundedAt (r : Pattern α) (prev : Option α) (text : List α) : Bool :=
  boundary word prev text.head? && (r.ways ⟨none, text⟩).any fun m =>
    boundary word (lastRead prev text m.rest) m.rest.head?

/-- `re.search(r"\b...\b", text)` finds something. -/
def Pattern.boundedIn (r : Pattern α) : Option α → List α → Bool
  | prev, [] => r.boundedAt word prev []
  | prev, c :: text => r.boundedAt word prev (c :: text) || r.boundedIn (some c) text

/-- One of the patterns is found. -/
def anyBounded (patterns : List (Pattern α)) (text : List α) : Bool :=
  patterns.any fun r => r.boundedIn word none text

/-- A character that separates clauses for a pattern that is not empty. -/
structure Separates (c : α) (r : Pattern α) : Prop where
  noWord : word c = false
  avoided : r.avoids c = true
  nonempty : r.ways ⟨none, []⟩ = []

variable {word} {r : Pattern α} {c : α}

/-- Before a text a character of no word is like none. -/
theorem boundedIn_congr {prev prev' : Option α} (h : prev.any word = prev'.any word)
    (text : List α) : r.boundedIn word prev text = r.boundedIn word prev' text := by
  have hlast : ∀ rest : List α, (lastRead prev text rest).any word =
      (lastRead prev' text rest).any word := by
    intro rest
    unfold lastRead
    cases (text.take (text.length - rest.length)).getLast? with
    | none => exact h
    | some d => rfl
  have hat : r.boundedAt word prev text = r.boundedAt word prev' text := by
    simp only [Pattern.boundedAt, boundary, h, hlast]
  cases text with
  | nil => exact hat
  | cons d text => rw [Pattern.boundedIn, Pattern.boundedIn, hat]

/-- What follows a separator does not matter before it. -/
theorem boundedAt_append_separator (hc : Separates word c r) (prev : Option α)
    (text tail : List α) :
    r.boundedAt word prev (text ++ c :: tail) = r.boundedAt word prev text := by
  have hways := ways_append_stop r hc.avoided tail ⟨none, text⟩
  rw [show (⟨none, text⟩ : Match α).extend (c :: tail) = ⟨none, text ++ c :: tail⟩ from rfl]
    at hways
  have hhead : ∀ rest : List α, (rest ++ c :: tail).head?.any word = rest.head?.any word := by
    intro rest
    cases rest with
    | nil => simpa using hc.noWord
    | cons d rest => rfl
  have hread : ∀ m ∈ r.ways ⟨none, text⟩,
      lastRead prev (text ++ c :: tail) (m.rest ++ c :: tail) = lastRead prev text m.rest := by
    intro m hm
    have hle : m.rest.length ≤ text.length := (rest_suffix r hm).length_le
    have hlength : (text ++ c :: tail).length - (m.rest ++ c :: tail).length =
        text.length - m.rest.length := by
      simp only [List.length_append]
      omega
    unfold lastRead
    rw [hlength, List.take_append_of_le_length (Nat.sub_le _ _)]
  unfold Pattern.boundedAt boundary
  rw [hways, hhead, List.any_map]
  congr 1
  rw [Bool.eq_iff_iff, List.any_eq_true, List.any_eq_true]
  refine exists_congr fun m => and_congr_right fun hm => ?_
  simp only [Function.comp_apply, Match.extend_rest, hread m hm, hhead]

/-- A pattern is found on one of the sides of a separator. -/
theorem boundedIn_append_separator (hc : Separates word c r) (prev : Option α)
    (text tail : List α) :
    r.boundedIn word prev (text ++ c :: tail) =
      (r.boundedIn word prev text || r.boundedIn word none tail) := by
  induction text generalizing prev with
  | nil =>
      have hat := boundedAt_append_separator hc prev [] tail
      have hafter : r.boundedIn word (some c) tail = r.boundedIn word none tail :=
        boundedIn_congr (by simpa using hc.noWord) tail
      rw [List.nil_append] at hat
      rw [List.nil_append, Pattern.boundedIn, Pattern.boundedIn, hat, hafter]
  | cons d text ih =>
      have hat := boundedAt_append_separator hc prev (d :: text) tail
      rw [List.cons_append] at hat
      rw [List.cons_append, Pattern.boundedIn, Pattern.boundedIn, hat, ih, Bool.or_assoc]

theorem anyBounded_append_separator {patterns : List (Pattern α)}
    (hc : ∀ r ∈ patterns, Separates word c r) (text tail : List α) :
    anyBounded word patterns (text ++ c :: tail) =
      (anyBounded word patterns text || anyBounded word patterns tail) := by
  unfold anyBounded
  induction patterns with
  | nil => rfl
  | cons r patterns ih =>
      rw [List.any_cons, List.any_cons, List.any_cons,
        boundedIn_append_separator (hc r List.mem_cons_self),
        ih fun r' hr' => hc r' (List.mem_cons_of_mem r hr')]
      cases r.boundedIn word none text
      · simp [Bool.or_left_comm]
      · simp

/-- **A search goes clause by clause.** -/
theorem anyBounded_splitOnP {patterns : List (Pattern α)} {ends : α → Bool}
    (hends : ∀ c, ends c = true → ∀ r ∈ patterns, Separates word c r) (text : List α) :
    anyBounded word patterns text = (text.splitOnP ends).any (anyBounded word patterns) := by
  induction hlength : text.length using Nat.strongRecOn generalizing text with
  | ind length ih =>
      by_cases hcut : ∃ c ∈ text, ends c = true
      · obtain ⟨c, hmem, hc⟩ := hcut
        obtain ⟨before, after, rfl⟩ := List.append_of_mem hmem
        rw [List.length_append, List.length_cons] at hlength
        rw [anyBounded_append_separator (hends c hc), List.splitOnP_append_cons _ _ hc,
          List.any_append, ← ih before.length (by omega) before rfl,
          ← ih after.length (by omega) after rfl]
      · have hnone : ∀ c ∈ text, ends c = false := by
          intro c hmem
          by_contra hc
          exact hcut ⟨c, hmem, by simpa using hc⟩
        rw [List.splitOnP_eq_singleton hnone, List.any_cons, List.any_nil, Bool.or_false]

end Regex

end GaiaOS
