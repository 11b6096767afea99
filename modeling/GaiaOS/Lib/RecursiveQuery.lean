/-
`WITH RECURSIVE ... UNION ALL`, as an SQL database evaluates it.

The rows of the anchor are the first working table.  Each round joins the working table with
the recursive member, appends what comes out to the result and makes it the next working
table; the query ends with the first empty one.  Nothing ensures that there is one, so the
evaluation takes the number of rounds it may use and comes back empty-handed if they run out.

A recursive member that extends a row by one of some edges gives every row a history: where it
started and the edges taken since.  `recursiveQuery_eq` says that the result is exactly the rows
of all histories, each once, provided histories cannot be arbitrarily long; the query then ends.
-/
import Mathlib.Data.List.Nodup
import Mathlib.Data.List.Range
import Mathlib.Data.List.Flatten

namespace GaiaOS

namespace RecursiveQuery

/-- The rounds from a working table on; `none` if there were not enough of them. -/
def recursiveQuery {ρ : Type} (member : ρ → List ρ) : Nat → List ρ → Option (List ρ)
  | _, [] => some []
  | 0, _ :: _ => none
  | rounds + 1, row :: working =>
      (recursiveQuery member rounds ((row :: working).flatMap member)).map (row :: working ++ ·)

/-- Where a row started and the edges taken since. -/
structure Walk (σ ε : Type) where
  start : σ
  steps : List ε

variable {ρ σ ε : Type} (anchor : σ → ρ) (edges : ρ → List ε) (extend : ρ → ε → ρ)

/-- Each edge is one of those at the row it is taken at. -/
def Valid : ρ → List ε → Prop
  | _, [] => True
  | r, e :: steps => e ∈ edges r ∧ Valid (extend r e) steps

/-- The row of a walk. -/
def Walk.row (walk : Walk σ ε) : ρ := walk.steps.foldl extend (anchor walk.start)

/-- The walks of one more edge. -/
def extensions (walk : Walk σ ε) : List (Walk σ ε) :=
  (edges (walk.row anchor extend)).map fun e => ⟨walk.start, walk.steps ++ [e]⟩

/-- The walks of `n` edges from some starts. -/
def walks (starts : List σ) : Nat → List (Walk σ ε)
  | 0 => starts.map fun s => ⟨s, []⟩
  | n + 1 => (walks starts n).flatMap (extensions anchor edges extend)

variable {anchor edges extend} {starts : List σ} {walk : Walk σ ε}

theorem valid_append {r : ρ} {steps : List ε} {e : ε} :
    Valid edges extend r (steps ++ [e]) ↔
      Valid edges extend r steps ∧ e ∈ edges (steps.foldl extend r) := by
  induction steps generalizing r with
  | nil => simp [Valid]
  | cons e' steps ih => simp only [List.cons_append, Valid, List.foldl_cons, ih, and_assoc]

theorem mem_walks {n : Nat} :
    walk ∈ walks anchor edges extend starts n ↔
      walk.start ∈ starts ∧ walk.steps.length = n ∧
        Valid edges extend (anchor walk.start) walk.steps := by
  induction n generalizing walk with
  | zero =>
      obtain ⟨start, steps⟩ := walk
      simp only [walks, List.mem_map, Walk.mk.injEq, List.length_eq_zero_iff]
      constructor
      · rintro ⟨s, hs, rfl, rfl⟩
        exact ⟨hs, rfl, trivial⟩
      · rintro ⟨hs, rfl, -⟩
        exact ⟨start, hs, rfl, rfl⟩
  | succ n ih =>
      obtain ⟨start, steps⟩ := walk
      simp only [walks, extensions, List.mem_flatMap, List.mem_map, Walk.mk.injEq]
      constructor
      · rintro ⟨shorter, hshorter, e, he, rfl, rfl⟩
        obtain ⟨hs, hlength, hvalid⟩ := ih.mp hshorter
        refine ⟨hs, by simp [hlength], valid_append.mpr ⟨hvalid, he⟩⟩
      · rintro ⟨hs, hlength, hvalid⟩
        obtain ⟨front, e, rfl⟩ : ∃ front e, steps = front ++ [e] := by
          rcases List.eq_nil_or_concat steps with rfl | ⟨front, e, h⟩
          · simp at hlength
          · exact ⟨front, e, by simpa using h⟩
        obtain ⟨hfront, he⟩ := valid_append.mp hvalid
        have hlength' : front.length = n := by simpa using hlength
        exact ⟨⟨start, front⟩, ih.mpr ⟨hs, hlength', hfront⟩, e, he, rfl, rfl⟩

theorem nodup_walks (hstarts : starts.Nodup) (hedges : ∀ r, (edges r).Nodup) (n : Nat) :
    (walks anchor edges extend starts n).Nodup := by
  induction n with
  | zero => exact hstarts.map fun s s' h => (Walk.mk.inj h).1
  | succ n ih =>
      refine List.nodup_flatMap.mpr ⟨fun walk _ => ?_, ?_⟩
      · refine (hedges _).map fun e e' h => ?_
        have hsteps := (Walk.mk.inj h).2
        simpa using hsteps
      · refine ih.imp_of_mem fun {walk walk'} _ _ hne => ?_
        show List.Disjoint _ _
        rw [List.disjoint_left]
        intro longer hmem hmem'
        obtain ⟨e, -, rfl⟩ := List.mem_map.mp hmem
        obtain ⟨e', -, h⟩ := List.mem_map.mp hmem'
        obtain ⟨hstart, hsteps⟩ := Walk.mk.inj h
        apply hne
        obtain ⟨start, steps⟩ := walk
        obtain ⟨start', steps'⟩ := walk'
        have := (List.append_inj' hsteps rfl).1
        simp_all

/-- A round turns the rows of the walks of one length into those of the next. -/
theorem flatMap_row_walks (anchor : σ → ρ) (edges : ρ → List ε) (extend : ρ → ε → ρ)
    (starts : List σ) (n : Nat) :
    ((walks anchor edges extend starts n).map (Walk.row anchor extend)).flatMap
        (fun r => (edges r).map (extend r)) =
      (walks anchor edges extend starts (n + 1)).map (Walk.row anchor extend) := by
  simp only [walks, List.flatMap_map, List.map_flatMap, extensions, List.map_map]
  refine List.flatMap_congr fun walk _ => List.map_congr_left fun e _ => ?_
  simp [Walk.row]

theorem recursiveQuery_walks {bound : Nat}
    (hbound : walks anchor edges extend starts (bound + 1) = []) {n k : Nat} (rounds : Nat)
    (hk : n + k = bound + 1) (hrounds : k ≤ rounds) :
    recursiveQuery (fun r => (edges r).map (extend r)) rounds
        ((walks anchor edges extend starts n).map (Walk.row anchor extend)) =
      some (((List.range' n k).flatMap (walks anchor edges extend starts)).map
        (Walk.row anchor extend)) := by
  induction k generalizing n rounds with
  | zero =>
      have hn : n = bound + 1 := by omega
      rw [hn, hbound]
      simp [recursiveQuery]
  | succ k ih =>
      rw [List.range'_succ, List.flatMap_cons, List.map_append]
      cases hworking : (walks anchor edges extend starts n).map (Walk.row anchor extend) with
      | nil =>
          -- an empty working table stays empty, so nothing longer exists either
          have hnext := flatMap_row_walks anchor edges extend starts n
          rw [hworking, List.flatMap_nil] at hnext
          have hrest := ih (n := n + 1) k (by omega) le_rfl
          rw [← hnext] at hrest
          simpa [recursiveQuery] using hrest
      | cons r working =>
          obtain ⟨rounds, rfl⟩ : ∃ rounds', rounds = rounds' + 1 := ⟨rounds - 1, by omega⟩
          rw [recursiveQuery, ← hworking, flatMap_row_walks,
            ih (n := n + 1) rounds (by omega) (by omega), Option.map_some]

/-- **What a recursive query returns.**  If no walk has more than `bound` edges, the query ends,
and its result is the rows of the walks, each walk once. -/
theorem recursiveQuery_eq (anchor : σ → ρ) (edges : ρ → List ε) (extend : ρ → ε → ρ) (bound : Nat)
    (hstarts : starts.Nodup) (hedges : ∀ r, (edges r).Nodup)
    (hbound : ∀ start ∈ starts, ∀ steps, Valid edges extend (anchor start) steps →
      steps.length ≤ bound) :
    ∃ all : List (Walk σ ε), all.Nodup ∧
      (∀ walk, walk ∈ all ↔
        walk.start ∈ starts ∧ Valid edges extend (anchor walk.start) walk.steps) ∧
      ∀ rounds, bound < rounds →
        recursiveQuery (fun r => (edges r).map (extend r)) rounds (starts.map anchor) =
          some (all.map (Walk.row anchor extend)) := by
  have hnone : walks anchor edges extend starts (bound + 1) = [] := by
    rw [List.eq_nil_iff_forall_not_mem]
    intro walk hwalk
    obtain ⟨hs, hlength, hvalid⟩ := mem_walks.mp hwalk
    have := hbound walk.start hs walk.steps hvalid
    omega
  refine ⟨(List.range' 0 (bound + 1)).flatMap (walks anchor edges extend starts), ?_, ?_, ?_⟩
  · refine List.nodup_flatMap.mpr ⟨fun n _ => nodup_walks hstarts hedges n, ?_⟩
    refine (List.nodup_range' 1).imp fun {n n'} hne => ?_
    show List.Disjoint _ _
    rw [List.disjoint_left]
    intro walk hwalk hwalk'
    exact hne ((mem_walks.mp hwalk).2.1.symm.trans (mem_walks.mp hwalk').2.1)
  · intro walk
    simp only [List.mem_flatMap, List.mem_range'_1, mem_walks]
    constructor
    · rintro ⟨n, -, hs, -, hvalid⟩
      exact ⟨hs, hvalid⟩
    · rintro ⟨hs, hvalid⟩
      have hle := hbound walk.start hs walk.steps hvalid
      exact ⟨walk.steps.length, ⟨by omega, by omega⟩, hs, rfl, hvalid⟩
  · intro rounds hrounds
    have hquery := recursiveQuery_walks hnone (n := 0) rounds (by omega) hrounds
    have hfirst : (walks anchor edges extend starts 0).map (Walk.row anchor extend) =
        starts.map anchor := by
      simp [walks, Walk.row]
    rw [hfirst] at hquery
    exact hquery

end RecursiveQuery

end GaiaOS
