/-
Patterns of Python's `re` on text.

A literal is one class for each of its characters, with `re.IGNORECASE` the characters that are
the same when the case is ignored: among letters without accents, `i`, `s` and `k` have partners
outside ASCII.
-/
import GaiaOS.Lib.Regex
import GaiaOS.Lib.Python

namespace GaiaOS

namespace Regex

/-- A character of a pattern under `re.IGNORECASE`. -/
def caseless (x c : Char) : Bool :=
  c.toLower == x.toLower || (x.toLower == 'i' && (c == '\u0130' || c == '\u0131')) ||
    (x.toLower == 's' && c == '\u017f') || (x.toLower == 'k' && c == '\u212a')

/-- The classes of a literal. -/
def literal (text : String) : List (Char → Bool) := text.toList.map fun x c => c == x

/-- The classes of a literal under `re.IGNORECASE`. -/
def caselessLiteral (text : String) : List (Char → Bool) := text.toList.map caseless

/-- `[...]` of single characters. -/
def oneOf (chars : String) (c : Char) : Bool := chars.toList.contains c

/-- `\s*`. -/
def spaces : Pattern Char := .many isPySpace

/-- `re.search(pattern, text)` and `.group(1)` of the match, for a pattern whose group takes part in
every match. -/
def group1 (r : Pattern Char) (text : String) : Option (List Char) := r.figure text.toList

theorem caseless_self (c : Char) : caseless c c = true := by simp [caseless]

/-- A literal matches its own text. -/
theorem forall₂_caselessLiteral (text : String) :
    List.Forall₂ (fun p c => p c = true) (caselessLiteral text) text.toList := by
  rw [caselessLiteral, List.forall₂_map_left_iff, List.forall₂_same]
  exact fun c _ => caseless_self c

/-- A text that matches a literal is the literal. -/
theorem eq_of_forall₂_literal {text : String} {word : List Char}
    (h : List.Forall₂ (fun p c => p c = true) (literal text) word) : word = text.toList := by
  rw [literal, List.forall₂_map_left_iff] at h
  have hsame : List.Forall₂ (· = ·) text.toList word := h.imp fun x c hc => (beq_iff_eq.mp hc).symm
  exact (List.forall₂_eq_eq_eq ▸ hsame : text.toList = word).symm

end Regex

end GaiaOS
