/-
Tables that keep every version of an entry.

An entry has a key.  A row is an entry with a version and a mark that says whether it is the one
in use.  Nothing is deleted: a new entry takes the next version of its key, and the rows before
it lose the mark.

What was ever entered is a list, and the table is that list: `Records` says that the rows of a
key are what was entered for it, numbered from 1 in order, and that the mark is on the last.
`Records.supersede` keeps it, and `Records.active_iff` reads the entries in use off the list.
-/
import Mathlib.Data.List.Range
import Mathlib.Data.List.Basic

namespace GaiaOS

/-- How rows of type `R` hold entries of type `F` under keys of type `K`. -/
structure Versioning (R F K : Type) where
  key : F → K
  entry : R → F
  version : R → Nat
  active : R → Bool
  retire : R → R
  entry_retire : ∀ r, entry (retire r) = entry r
  version_retire : ∀ r, version (retire r) = version r
  active_retire : ∀ r, active (retire r) = false

namespace Versioning

variable {R F K : Type} [DecidableEq K] (vs : Versioning R F K)

/-- The rows of a key. -/
def rowsOf (table : List R) (k : K) : List R := table.filter fun r => vs.key (vs.entry r) = k

/-- The entries of a key. -/
def entriesOf (log : List F) (k : K) : List F := log.filter fun f => vs.key f = k

/-- One more than the highest version of a key. -/
def nextVersion (table : List R) (k : K) : Nat :=
  match ((vs.rowsOf table k).map vs.version).max? with
  | some v => v + 1
  | none => 1

/-- A row without the mark, if it is one of a key. -/
def retireAt (k : K) (r : R) : R :=
  if vs.key (vs.entry r) = k ∧ vs.active r = true then vs.retire r else r

/-- The next version of an entry, the only one of its key with the mark. -/
def supersede (table : List R) (f : F) (new : Nat → R) : List R :=
  table.map (vs.retireAt (vs.key f)) ++ [new (vs.nextVersion table (vs.key f))]

/-- The table holds what was entered, in order, and the last entry of each key is in use. -/
def Records (log : List F) (table : List R) : Prop :=
  ∀ k, (vs.rowsOf table k).map vs.entry = vs.entriesOf log k ∧
    (vs.rowsOf table k).map vs.version = List.range' 1 (vs.entriesOf log k).length ∧
    ∀ r ∈ vs.rowsOf table k, vs.active r = true ↔ vs.version r = (vs.entriesOf log k).length

variable {vs} {table : List R} {log : List F} {f : F} {new : Nat → R} {k : K}

theorem mem_rowsOf {r : R} : r ∈ vs.rowsOf table k ↔ r ∈ table ∧ vs.key (vs.entry r) = k := by
  unfold rowsOf
  rw [List.mem_filter, decide_eq_true_iff]

theorem records_nil : vs.Records [] [] := by
  intro k
  exact ⟨rfl, rfl, fun r hr => by cases hr⟩

/-! ### The next version -/

theorem max?_range' (n : Nat) : (List.range' 1 (n + 1)).max? = some (n + 1) := by
  rw [List.max?_eq_some_iff]
  refine ⟨?_, ?_⟩
  · rw [List.mem_range'_1]
    omega
  · intro b hb
    rw [List.mem_range'_1] at hb
    omega

theorem nextVersion_eq {n : Nat} (h : (vs.rowsOf table k).map vs.version = List.range' 1 n) :
    vs.nextVersion table k = n + 1 := by
  unfold nextVersion
  rw [h]
  cases n with
  | zero => rfl
  | succ n => rw [max?_range']

/-! ### Taking the mark off -/

theorem entry_retireAt (k : K) (r : R) : vs.entry (vs.retireAt k r) = vs.entry r := by
  unfold retireAt
  split
  · exact vs.entry_retire r
  · rfl

theorem version_retireAt (k : K) (r : R) : vs.version (vs.retireAt k r) = vs.version r := by
  unfold retireAt
  split
  · exact vs.version_retire r
  · rfl

theorem active_retireAt (k : K) (r : R) :
    vs.active (vs.retireAt k r) = if vs.key (vs.entry r) = k then false else vs.active r := by
  unfold retireAt
  by_cases hk : vs.key (vs.entry r) = k
  · by_cases hactive : vs.active r = true
    · rw [if_pos ⟨hk, hactive⟩, if_pos hk]
      exact vs.active_retire r
    · rw [if_neg fun h => hactive h.2, if_pos hk]
      simpa using hactive
  · rw [if_neg fun h => hk h.1, if_neg hk]

theorem rowsOf_map_retireAt (table : List R) (k k' : K) :
    vs.rowsOf (table.map (vs.retireAt k)) k' = (vs.rowsOf table k').map (vs.retireAt k) := by
  unfold rowsOf
  rw [List.filter_map]
  congr 1
  apply List.filter_congr
  intro r _
  simp only [Function.comp, entry_retireAt]

/-- The rows of a key after an entry. -/
theorem rowsOf_supersede (hentry : ∀ v, vs.entry (new v) = f) (k : K) :
    vs.rowsOf (vs.supersede table f new) k =
      (vs.rowsOf table k).map (vs.retireAt (vs.key f)) ++
        if vs.key f = k then [new (vs.nextVersion table (vs.key f))] else [] := by
  rw [← rowsOf_map_retireAt]
  unfold rowsOf Versioning.supersede
  rw [List.filter_append]
  by_cases hk : vs.key f = k <;> simp [hentry, hk]

theorem entriesOf_concat (log : List F) (f : F) (k : K) :
    vs.entriesOf (log ++ [f]) k = vs.entriesOf log k ++ if vs.key f = k then [f] else [] := by
  unfold entriesOf
  rw [List.filter_append]
  by_cases hk : vs.key f = k <;> simp [hk]

/-! ### The table is the list -/

/-- **A new version keeps the table in order.** -/
theorem Records.supersede (h : vs.Records log table) (hentry : ∀ v, vs.entry (new v) = f)
    (hversion : ∀ v, vs.version (new v) = v) (hactive : ∀ v, vs.active (new v) = true) :
    vs.Records (log ++ [f]) (vs.supersede table f new) := by
  intro k
  obtain ⟨hentries, hversions, hmark⟩ := h k
  have hsame : ((vs.rowsOf table k).map (vs.retireAt (vs.key f))).map vs.entry =
      vs.entriesOf log k := by
    rw [← hentries, List.map_map]
    exact List.map_congr_left fun r _ => entry_retireAt _ r
  have hcount : ((vs.rowsOf table k).map (vs.retireAt (vs.key f))).map vs.version =
      List.range' 1 (vs.entriesOf log k).length := by
    rw [← hversions, List.map_map]
    exact List.map_congr_left fun r _ => version_retireAt _ r
  rw [rowsOf_supersede hentry, entriesOf_concat]
  by_cases hk : vs.key f = k
  · have hnext : vs.nextVersion table (vs.key f) = (vs.entriesOf log k).length + 1 :=
      nextVersion_eq (by rw [hk]; exact hversions)
    rw [if_pos hk, if_pos hk]
    refine ⟨?_, ?_, ?_⟩
    · rw [List.map_append, hsame, List.map_singleton, hentry]
    · rw [List.map_append, hcount, List.map_singleton, hversion, hnext, List.length_append,
        List.length_singleton, List.range'_concat, Nat.one_mul, Nat.add_comm 1]
    · intro r hr
      rw [List.length_append, List.length_singleton]
      rcases List.mem_append.mp hr with hr | hr
      · -- an earlier row lost the mark, and its version is below the new one
        obtain ⟨r₀, hr₀, rfl⟩ := List.mem_map.mp hr
        have hbelow : vs.version r₀ ∈ List.range' 1 (vs.entriesOf log k).length := by
          rw [← hversions]
          exact List.mem_map_of_mem hr₀
        rw [List.mem_range'_1] at hbelow
        rw [active_retireAt, version_retireAt, if_pos ((mem_rowsOf.mp hr₀).2.trans hk.symm)]
        simp only [Bool.false_eq_true, false_iff]
        omega
      · rw [List.mem_singleton.mp hr, hversion, hnext, hactive]
        simp
  · rw [if_neg hk, if_neg hk, List.append_nil, List.append_nil]
    refine ⟨hsame, hcount, ?_⟩
    intro r hr
    obtain ⟨r₀, hr₀, rfl⟩ := List.mem_map.mp hr
    have hother : ¬ vs.key (vs.entry r₀) = vs.key f := by
      rw [(mem_rowsOf.mp hr₀).2]
      exact Ne.symm hk
    rw [active_retireAt, version_retireAt, if_neg hother]
    exact hmark r₀ hr₀

/-- The entry in use for a key is the last one. -/
theorem Records.active_iff (h : vs.Records log table) (f : F) :
    (∃ r ∈ table, vs.active r = true ∧ vs.entry r = f) ↔
      (vs.entriesOf log (vs.key f)).getLast? = some f := by
  obtain ⟨hentries, hversions, hmark⟩ := h (vs.key f)
  have hlength : (vs.rowsOf table (vs.key f)).length = (vs.entriesOf log (vs.key f)).length := by
    rw [← hentries, List.length_map]
  -- the row at a place has that place plus one as its version
  have hplace : ∀ i r, (vs.rowsOf table (vs.key f))[i]? = some r → vs.version r = i + 1 := by
    intro i r hi
    have hv : (List.range' 1 (vs.entriesOf log (vs.key f)).length)[i]? =
        some (vs.version r) := by
      rw [← hversions, List.getElem?_map, hi]
      rfl
    rw [List.getElem?_eq_some_iff] at hv
    obtain ⟨_, hv⟩ := hv
    rw [← hv, List.getElem_range']
    omega
  rw [List.getLast?_eq_getElem?]
  constructor
  · rintro ⟨r, hr, hactive, rfl⟩
    have hrow : r ∈ vs.rowsOf table (vs.key (vs.entry r)) := mem_rowsOf.mpr ⟨hr, rfl⟩
    obtain ⟨i, hi⟩ := List.mem_iff_getElem?.mp hrow
    have hlast := (hmark r hrow).mp hactive
    rw [hplace i r hi] at hlast
    rw [← hlast, Nat.add_sub_cancel, ← hentries, List.getElem?_map, hi]
    rfl
  · intro hlast
    rw [← hentries, List.getElem?_map, Option.map_eq_some_iff] at hlast
    obtain ⟨r, hr, rfl⟩ := hlast
    have hrow := List.mem_of_getElem? hr
    refine ⟨r, (mem_rowsOf.mp hrow).1, (hmark r hrow).mpr ?_, rfl⟩
    have hpos := List.length_pos_of_mem hrow
    rw [hplace _ r hr, List.length_map]
    omega

end Versioning

end GaiaOS
