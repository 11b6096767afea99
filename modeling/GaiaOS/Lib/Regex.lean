/-
Regular expressions, matched with backtracking.

A pattern is tried at one place of a text, and `ways` lists the ways it matches there in the
order a backtracking matcher finds them: the longer repetition before the shorter, the left
alternative before the right.  `search` is the first way at the first place with one.  A group
remembers what it read last, and only classes of characters are repeated.

Two rules carry most proofs about a search.  A match does not go past a character that no class
of the pattern has, so a text can be cut there and searched in parts; and a figure that is read
to its end is captured as it stands.
-/
import Mathlib.Data.List.Basic

namespace GaiaOS

namespace Regex

variable {α : Type}

inductive Pattern (α : Type)
  | empty
  | one (p : α → Bool)
  | many (p : α → Bool)
  | seq (a b : Pattern α)
  | alt (a b : Pattern α)
  | group (a : Pattern α)

/-- How far a match has come: what the group read, and the text that is left. -/
structure Match (α : Type) where
  captured : Option (List α)
  rest : List α
  deriving DecidableEq

/-- What may be left of a text when a class is repeated, the longest repetition first. -/
def rests (p : α → Bool) : List α → List (List α)
  | [] => [[]]
  | c :: text => if p c then rests p text ++ [c :: text] else [c :: text]

namespace Pattern

/-- A character of each class, in order. -/
def word : List (α → Bool) → Pattern α
  | [] => empty
  | p :: ps => seq (one p) (word ps)

/-- `a?`. -/
def opt (a : Pattern α) : Pattern α := alt a empty

/-- `p+` of a class. -/
def plus (p : α → Bool) : Pattern α := seq (one p) (many p)

/-- Characters of a class, captured, after what leads up to them. -/
def capturing (lead : Pattern α) (p : α → Bool) : Pattern α := seq lead (group (plus p))

/-- The ways a pattern matches at the beginning of what is left, in the order they are tried. -/
def ways : Pattern α → Match α → List (Match α)
  | empty, m => [m]
  | one p, m =>
      match m.rest with
      | [] => []
      | c :: rest => if p c then [⟨m.captured, rest⟩] else []
  | many p, m => (rests p m.rest).map fun rest => ⟨m.captured, rest⟩
  | seq a b, m => (a.ways m).flatMap b.ways
  | alt a b, m => a.ways m ++ b.ways m
  | group a, m =>
      (a.ways m).map fun m' => ⟨some (m.rest.take (m.rest.length - m'.rest.length)), m'.rest⟩

/-- `re.search`: the first way at the first place. -/
def search (r : Pattern α) : List α → Option (Match α)
  | [] => (r.ways ⟨none, []⟩).head?
  | c :: text => (r.ways ⟨none, c :: text⟩).head?.or (r.search text)

/-- What the group read in the first match. -/
def figure (r : Pattern α) (text : List α) : Option (List α) := (r.search text).bind (·.captured)

/-- No class of the pattern has the character. -/
def avoids (c : α) : Pattern α → Bool
  | empty => true
  | one p => !p c
  | many p => !p c
  | seq a b => a.avoids c && b.avoids c
  | alt a b => a.avoids c && b.avoids c
  | group a => a.avoids c

end Pattern

namespace Match

/-- The match in a text that goes on. -/
def extend (tail : List α) (m : Match α) : Match α := ⟨m.captured, m.rest ++ tail⟩

@[simp] theorem extend_captured (tail : List α) (m : Match α) :
    (m.extend tail).captured = m.captured := rfl

@[simp] theorem extend_rest (tail : List α) (m : Match α) :
    (m.extend tail).rest = m.rest ++ tail := rfl

end Match

/-! ### Cutting a text -/

section Cut

variable {c : α}

theorem rests_append_stop {p : α → Bool} (hc : p c = false) (tail text : List α) :
    rests p (text ++ c :: tail) = (rests p text).map (· ++ c :: tail) := by
  induction text with
  | nil => simp [rests, hc]
  | cons d text ih =>
      rw [List.cons_append, rests, rests, ih]
      by_cases hd : p d = true
      · rw [if_pos hd, if_pos hd, List.map_append]
        rfl
      · rw [if_neg hd, if_neg hd]
        rfl

/-- A repetition reads characters of its class. -/
theorem reads_of_mem_rests {p : α → Bool} {text rest : List α} (h : rest ∈ rests p text) :
    ∃ read, (∀ d ∈ read, p d = true) ∧ text = read ++ rest := by
  induction text with
  | nil =>
      rw [List.mem_singleton.mp h]
      exact ⟨[], by simp, rfl⟩
  | cons d text ih =>
      rw [rests] at h
      split at h
      · next hd =>
          rcases List.mem_append.mp h with h | h
          · obtain ⟨read, hread, rfl⟩ := ih h
            exact ⟨d :: read, by simpa [hd] using hread, rfl⟩
          · rw [List.mem_singleton.mp h]
            exact ⟨[], by simp, rfl⟩
      · rw [List.mem_singleton.mp h]
        exact ⟨[], by simp, rfl⟩

/-- What is left is the end of the text. -/
theorem rest_suffix (r : Pattern α) :
    ∀ {m m' : Match α}, m' ∈ r.ways m → m'.rest <:+ m.rest := by
  induction r with
  | empty =>
      intro m m' h
      obtain rfl : m' = m := List.mem_singleton.mp h
      exact List.suffix_refl _
  | one p =>
      intro m m' h
      simp only [Pattern.ways] at h
      split at h
      · cases h
      · next d rest hrest =>
          split at h
          · rw [List.mem_singleton.mp h, hrest]
            exact List.suffix_cons d rest
          · cases h
  | many p =>
      intro m m' h
      obtain ⟨rest, hrest, rfl⟩ := List.mem_map.mp h
      obtain ⟨read, -, hread⟩ := reads_of_mem_rests hrest
      exact ⟨read, hread.symm⟩
  | seq a b iha ihb =>
      intro m m' h
      obtain ⟨between, hbetween, hm'⟩ := List.mem_flatMap.mp h
      exact (ihb hm').trans (iha hbetween)
  | alt a b iha ihb =>
      intro m m' h
      rcases List.mem_append.mp h with h | h
      · exact iha h
      · exact ihb h
  | group a ih =>
      intro m m' h
      obtain ⟨inner, hinner, rfl⟩ := List.mem_map.mp h
      exact @ih m inner hinner

/-- A match does not go past a character that no class has. -/
theorem ways_append_stop (r : Pattern α) (hc : r.avoids c = true) (tail : List α) :
    ∀ m : Match α, r.ways (m.extend (c :: tail)) =
      (r.ways m).map (Match.extend (c :: tail)) := by
  induction r with
  | empty =>
      intro m
      rfl
  | one p =>
      intro m
      have hp : p c = false := by simpa [Pattern.avoids] using hc
      obtain ⟨captured, rest⟩ := m
      cases rest with
      | nil => simp [Pattern.ways, Match.extend, hp]
      | cons d rest =>
          simp only [Pattern.ways, Match.extend, List.cons_append]
          by_cases hd : p d = true
          · rw [if_pos hd, if_pos hd]
            rfl
          · rw [if_neg hd, if_neg hd]
            rfl
  | many p =>
      intro m
      have hp : p c = false := by simpa [Pattern.avoids] using hc
      simp only [Pattern.ways, Match.extend_rest, Match.extend_captured]
      rw [rests_append_stop hp, List.map_map, List.map_map]
      rfl
  | seq a b iha ihb =>
      intro m
      have hab : a.avoids c = true ∧ b.avoids c = true := by simpa [Pattern.avoids] using hc
      simp only [Pattern.ways]
      rw [iha hab.1, List.flatMap_map, List.map_flatMap]
      exact List.flatMap_congr fun m' _ => ihb hab.2 m'
  | alt a b iha ihb =>
      intro m
      have hab : a.avoids c = true ∧ b.avoids c = true := by simpa [Pattern.avoids] using hc
      simp only [Pattern.ways]
      rw [iha hab.1, ihb hab.2, List.map_append]
  | group a ih =>
      intro m
      simp only [Pattern.ways]
      rw [ih (by simpa [Pattern.avoids] using hc), List.map_map, List.map_map]
      refine List.map_congr_left fun m' hm' => ?_
      have hle := (rest_suffix a hm').length_le
      have hlen : (m.extend (c :: tail)).rest.length - (m'.extend (c :: tail)).rest.length =
          m.rest.length - m'.rest.length := by
        simp only [Match.extend_rest, List.length_append]
        omega
      simp only [Function.comp_apply, hlen]
      rw [Match.extend_rest, List.take_append_of_le_length (Nat.sub_le _ _)]
      rfl

/-- A search in a text with a character that no class has: the part before it is searched, and
then the part after it. -/
theorem search_append_stop {r : Pattern α} (hc : r.avoids c = true)
    (hempty : r.ways ⟨none, []⟩ = []) (text tail : List α) :
    r.search (text ++ c :: tail) =
      ((r.search text).map (Match.extend (c :: tail))).or (r.search tail) := by
  induction text with
  | nil =>
      have hnone : r.ways ⟨none, c :: tail⟩ = [] := by
        have h := ways_append_stop r hc tail ⟨none, []⟩
        rw [hempty] at h
        exact h
      rw [List.nil_append, Pattern.search, Pattern.search, hnone, hempty]
      rfl
  | cons d text ih =>
      have h := ways_append_stop r hc tail ⟨none, d :: text⟩
      simp only [Match.extend, List.cons_append] at h
      rw [List.cons_append, Pattern.search, Pattern.search, h, ih, List.head?_map]
      cases (r.ways ⟨none, d :: text⟩).head? with
      | none => rfl
      | some m => rfl

end Cut

/-! ### Reading a figure -/

section Figure

variable {p : α → Bool} {lead : Pattern α}

theorem mem_ways_plus {m m' : Match α} (h : m' ∈ (Pattern.plus p).ways m) :
    ∃ read, read ≠ [] ∧ (∀ c ∈ read, p c = true) ∧ m.rest = read ++ m'.rest := by
  obtain ⟨captured, text⟩ := m
  obtain ⟨between, hone, hmany⟩ := List.mem_flatMap.mp h
  cases text with
  | nil => cases hone
  | cons c text =>
      simp only [Pattern.ways] at hone
      split at hone
      · next hc =>
          rw [List.mem_singleton.mp hone] at hmany
          obtain ⟨rest, hrest, rfl⟩ := List.mem_map.mp hmany
          obtain ⟨read, hread, rfl⟩ := reads_of_mem_rests hrest
          exact ⟨c :: read, List.cons_ne_nil c read, by simpa [hc] using hread, rfl⟩
      · cases hone

/-- What a pattern captures is of the class it captures. -/
theorem mem_ways_capturing {m m' : Match α} (h : m' ∈ (lead.capturing p).ways m) :
    ∃ read, read ≠ [] ∧ (∀ c ∈ read, p c = true) ∧ m'.captured = some read := by
  obtain ⟨between, -, hgroup⟩ := List.mem_flatMap.mp h
  obtain ⟨inner, hinner, rfl⟩ := List.mem_map.mp hgroup
  obtain ⟨read, hne, hread, hrest⟩ := mem_ways_plus hinner
  refine ⟨read, hne, hread, ?_⟩
  rw [hrest, List.length_append, Nat.add_sub_cancel, List.take_left]

theorem exists_ways_of_search {r : Pattern α} {text : List α} {m : Match α}
    (h : r.search text = some m) : ∃ place, m ∈ r.ways ⟨none, place⟩ := by
  induction text with
  | nil => exact ⟨[], List.mem_of_mem_head? h⟩
  | cons c text ih =>
      rcases Option.or_eq_some_iff.mp h with h | ⟨-, h⟩
      · exact ⟨c :: text, List.mem_of_mem_head? h⟩
      · exact ih h

/-- Where a pattern is found it captures something. -/
theorem captured_of_search {text : List α} {m : Match α}
    (h : (lead.capturing p).search text = some m) :
    ∃ read, read ≠ [] ∧ (∀ c ∈ read, p c = true) ∧ m.captured = some read := by
  obtain ⟨place, hm⟩ := exists_ways_of_search h
  exact mem_ways_capturing hm

theorem figure_eq_some {text read : List α} (h : (lead.capturing p).figure text = some read) :
    read ≠ [] ∧ ∀ c ∈ read, p c = true := by
  obtain ⟨m, hm, hcaptured⟩ := Option.bind_eq_some_iff.mp h
  obtain ⟨read', hne, hread, hcaptured'⟩ := captured_of_search hm
  obtain rfl : read' = read := Option.some_inj.mp (hcaptured'.symm.trans hcaptured)
  exact ⟨hne, hread⟩

/-- The first figure of a text with a character that no class has is that of the part before it,
and else that of the part after it. -/
theorem figure_append_stop {c : α} (hc : (lead.capturing p).avoids c = true)
    (hempty : (lead.capturing p).ways ⟨none, []⟩ = []) (text tail : List α) :
    (lead.capturing p).figure (text ++ c :: tail) =
      ((lead.capturing p).figure text).or ((lead.capturing p).figure tail) := by
  rw [Pattern.figure, Pattern.figure, search_append_stop hc hempty]
  cases hsearch : (lead.capturing p).search text with
  | none => rfl
  | some m =>
      obtain ⟨read, -, -, hcaptured⟩ := captured_of_search hsearch
      simp [hcaptured]

/-- Characters no match starts with are passed over. -/
theorem search_append_of_ways_nil {r : Pattern α} {passed : List α}
    (h : ∀ c ∈ passed, ∀ text, r.ways ⟨none, c :: text⟩ = []) (text : List α) :
    r.search (passed ++ text) = r.search text := by
  induction passed with
  | nil => rfl
  | cons c passed ih =>
      rw [List.cons_append, Pattern.search, h c List.mem_cons_self]
      exact ih fun d hd => h d (List.mem_cons_of_mem c hd)

/-! ### The first way -/

theorem head_ways_seq {a b : Pattern α} {m between m' : Match α}
    (ha : (a.ways m).head? = some between) (hb : (b.ways between).head? = some m') :
    ((a.seq b).ways m).head? = some m' := by
  obtain ⟨others, hways⟩ := List.head?_eq_some_iff.mp ha
  rw [Pattern.ways, hways, List.flatMap_cons, List.head?_append, hb]
  rfl

theorem ways_word {ps : List (α → Bool)} {text : List α}
    (h : List.Forall₂ (fun p c => p c = true) ps text) (captured : Option (List α))
    (tail : List α) : (Pattern.word ps).ways ⟨captured, text ++ tail⟩ = [⟨captured, tail⟩] := by
  induction h with
  | nil => rfl
  | cons hc _ ih => simp [Pattern.word, Pattern.ways, hc, ih]

/-- A repetition reads on to the first character that is not of its class. -/
theorem head_rests {text tail : List α} (htext : ∀ c ∈ text, p c = true)
    (htail : ∀ c ∈ tail.head?, p c = false) : (rests p (text ++ tail)).head? = some tail := by
  induction text with
  | nil =>
      cases tail with
      | nil => rfl
      | cons c tail => simp [rests, htail c rfl]
  | cons c text ih =>
      rw [List.cons_append, rests, if_pos (htext c List.mem_cons_self), List.head?_append,
        ih fun d hd => htext d (List.mem_cons_of_mem c hd)]
      rfl

theorem head_ways_many {text tail : List α} (htext : ∀ c ∈ text, p c = true)
    (htail : ∀ c ∈ tail.head?, p c = false) (captured : Option (List α)) :
    ((Pattern.many p).ways ⟨captured, text ++ tail⟩).head? = some ⟨captured, tail⟩ := by
  rw [Pattern.ways, List.head?_map, head_rests htext htail]
  rfl

/-- A figure is captured up to the first character that is not of its class. -/
theorem head_ways_group_plus {text tail : List α} (hne : text ≠ [])
    (htext : ∀ c ∈ text, p c = true) (htail : ∀ c ∈ tail.head?, p c = false)
    (captured : Option (List α)) :
    ((Pattern.plus p).group.ways ⟨captured, text ++ tail⟩).head? = some ⟨some text, tail⟩ := by
  obtain ⟨c, rest, rfl⟩ := List.exists_cons_of_ne_nil hne
  have hone : ((Pattern.one p).ways ⟨captured, c :: rest ++ tail⟩).head? =
      some ⟨captured, rest ++ tail⟩ := by
    simp [Pattern.ways, htext c List.mem_cons_self]
  have hmany := head_ways_many (fun d hd => htext d (List.mem_cons_of_mem c hd)) htail captured
  rw [Pattern.ways, List.head?_map, Pattern.plus, head_ways_seq hone hmany, Option.map_some]
  show some (⟨some ((c :: rest ++ tail).take ((c :: rest ++ tail).length - tail.length)), tail⟩ :
    Match α) = _
  rw [List.length_append, Nat.add_sub_cancel, List.take_left]

/-! ### The word before a figure -/

/-- A way through a word reads a text of its classes. -/
theorem mem_ways_word {ps : List (α → Bool)} {m m' : Match α} (h : m' ∈ (Pattern.word ps).ways m) :
    ∃ read, List.Forall₂ (fun p c => p c = true) ps read ∧ m.rest = read ++ m'.rest := by
  induction ps generalizing m with
  | nil =>
      obtain rfl : m' = m := List.mem_singleton.mp h
      exact ⟨[], .nil, rfl⟩
  | cons p ps ih =>
      obtain ⟨between, hone, hword⟩ := List.mem_flatMap.mp h
      obtain ⟨read, hread, hrest⟩ := ih hword
      simp only [Pattern.ways] at hone
      split at hone
      · cases hone
      · rename_i c rest hm
        split at hone
        · rename_i hc
          rw [List.mem_singleton.mp hone] at hrest
          exact ⟨c :: read, .cons hc hread, by rw [hm, show rest = _ from hrest]; rfl⟩
        · cases hone

/-- The place where a pattern is found is in the text. -/
theorem exists_place_of_search {r : Pattern α} {text : List α} {m : Match α}
    (h : r.search text = some m) : ∃ place, place <:+ text ∧ m ∈ r.ways ⟨none, place⟩ := by
  induction text with
  | nil => exact ⟨[], List.suffix_refl _, List.mem_of_mem_head? h⟩
  | cons c text ih =>
      rcases Option.or_eq_some_iff.mp h with h | ⟨-, h⟩
      · exact ⟨c :: text, List.suffix_refl _, List.mem_of_mem_head? h⟩
      · obtain ⟨place, hplace, hm⟩ := ih h
        exact ⟨place, hplace.trans (List.suffix_cons c text), hm⟩

/-- A figure after a word and spaces is found only in a text that has the word. -/
theorem word_infix_of_figure {ps : List (α → Bool)} {q : α → Bool} {text read : List α}
    (h : (((Pattern.word ps).seq (Pattern.many q)).capturing p).figure text = some read) :
    ∃ word, List.Forall₂ (fun p c => p c = true) ps word ∧ word <:+: text := by
  obtain ⟨m, hm, -⟩ := Option.bind_eq_some_iff.mp h
  obtain ⟨place, hplace, hm⟩ := exists_place_of_search hm
  obtain ⟨between, hlead, -⟩ := List.mem_flatMap.mp hm
  obtain ⟨after, hword, -⟩ := List.mem_flatMap.mp hlead
  obtain ⟨word, hmatches, hrest⟩ := mem_ways_word hword
  refine ⟨word, hmatches, List.IsInfix.trans ?_ hplace.isInfix⟩
  exact List.IsPrefix.isInfix ⟨after.rest, hrest.symm⟩

/-- The figure after a word and spaces. -/
theorem figure_word_spaces {ps : List (α → Bool)} {q : α → Bool} {text spaces read tail : List α}
    (hword : List.Forall₂ (fun p c => p c = true) ps text) (hspaces : ∀ c ∈ spaces, q c = true)
    (hread : ∀ c ∈ read, p c = true ∧ q c = false) (hne : read ≠ [])
    (htail : ∀ c ∈ tail.head?, p c = false) :
    (((Pattern.word ps).seq (Pattern.many q)).capturing p).figure
      (text ++ (spaces ++ (read ++ tail))) = some read := by
  have hlead : (((Pattern.word ps).seq (Pattern.many q)).ways
      ⟨none, text ++ (spaces ++ (read ++ tail))⟩).head? = some ⟨none, read ++ tail⟩ := by
    refine head_ways_seq (by rw [ways_word hword]; rfl) (head_ways_many hspaces ?_ none)
    obtain ⟨c, rest, rfl⟩ := List.exists_cons_of_ne_nil hne
    intro d hd
    obtain rfl : c = d := by simpa using hd
    exact (hread c List.mem_cons_self).2
  have hways := head_ways_seq hlead
    (head_ways_group_plus hne (fun c hc => (hread c hc).1) htail none)
  rw [Pattern.figure, Pattern.capturing]
  generalize text ++ (spaces ++ (read ++ tail)) = whole at hways
  cases whole with
  | nil => rw [Pattern.search, hways]; rfl
  | cons c whole => rw [Pattern.search, hways]; rfl

end Figure

end Regex

end GaiaOS
