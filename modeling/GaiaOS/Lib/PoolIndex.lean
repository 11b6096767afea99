/-
A pool of items looked up through two indexes.

The primary index holds one item for a key, the last one that has it.  The secondary index
collects the items under a signature and serves a lookup whose key is missing or unknown,
but only where a single item carries the signature asked for.  Both are built once.

With distinct keys a lookup is a scan of the pool (`find_build`), and what the scan finds is
the one item the lookup names (`scan_eq_some_iff`).  When the pool grows by items with new
keys, an item found by its key stays found, and one found by its signature is lost as soon
as a new item carries the same signature (`find_append_isSome_iff`).
-/
import GaiaOS.Lib.Dict
import Mathlib.Data.List.Nodup

namespace GaiaOS

/-- The indexes of a pool. -/
structure PoolIndex (K L V : Type) where
  primary : Dict K V
  secondary : Dict L (List V)

namespace PoolIndex

variable {K L V : Type} [DecidableEq K] [DecidableEq L]

/-- The element of a one-element list. -/
def single? : List V → Option V
  | [v] => some v
  | _ => none

/-- The indexes of a pool, filled in one pass each. -/
def build (key : V → K) (sig : V → L) (pool : List V) : PoolIndex K L V where
  primary := Dict.ofPairs (pool.map fun v => (key v, v))
  secondary := Dict.group (pool.map fun v => (sig v, v))

/-- By key first, then by a signature that only one item has. -/
def find (ix : PoolIndex K L V) (k : Option K) (l : L) : Option V :=
  (k.bind ix.primary.get?).or (single? ((ix.secondary.get? l).getD []))

/-- The same lookup without indexes. -/
def scan (key : V → K) (sig : V → L) (pool : List V) (k : Option K) (l : L) : Option V :=
  (k.bind fun k => pool.find? fun v => key v = k).or (single? (pool.filter fun v => sig v = l))

/-- The item a lookup is about: the one with the key or, where no item has it, the only one with
the signature. -/
def Names (key : V → K) (sig : V → L) (pool : List V) (k : Option K) (l : L) (v : V) : Prop :=
  v ∈ pool ∧ (k = some (key v) ∨
    (∀ w ∈ pool, k ≠ some (key w)) ∧ sig v = l ∧ ∀ w ∈ pool, sig w = l → w = v)

variable {key : V → K} {sig : V → L} {pool : List V}

/-! ### The two indexes -/

theorem lookup_map_key (key : V → K) (pool : List V) (k : K) :
    Dict.lookup (pool.map fun v => (key v, v)) k = pool.find? fun v => key v = k := by
  induction pool with
  | nil => rfl
  | cons v pool ih =>
      rw [List.map_cons, Dict.lookup, List.find?_cons, ih]
      by_cases hk : key v = k <;> simp [hk]

theorem get?_primary (hkeys : (pool.map key).Nodup) (k : K) :
    (build key sig pool).primary.get? k = pool.find? fun v => key v = k := by
  show (Dict.ofPairs (pool.map fun v => (key v, v))).get? k = _
  have hfst : (pool.map fun v => (key v, v)).map Prod.fst = pool.map key := by
    rw [List.map_map]
    rfl
  rw [Dict.get?_ofPairs_of_nodup (hfst ▸ hkeys), lookup_map_key]

theorem get?_secondary (pool : List V) (l : L) :
    ((build key sig pool).secondary.get? l).getD [] = pool.filter fun v => sig v = l := by
  show ((Dict.group (pool.map fun v => (sig v, v))).get? l).getD [] = _
  rw [Dict.get?_group_getD, List.filter_map, List.map_map]
  exact List.map_id _

variable (sig) in
/-- A key is present exactly if some item has it. -/
theorem get?_primary_isSome (pool : List V) (k : K) :
    ((build key sig pool).primary.get? k).isSome = true ↔ ∃ v ∈ pool, key v = k := by
  have hmem : k ∈ (pool.map fun v => (key v, v)).map Prod.fst ↔ ∃ v ∈ pool, key v = k := by
    simp
  rw [← hmem]
  constructor
  · intro h
    obtain ⟨v, hv⟩ := Option.isSome_iff_exists.mp h
    exact List.mem_map_of_mem (Dict.mem_of_get?_ofPairs hv)
  · exact Dict.get?_ofPairs_isSome

/-! ### A lookup is a scan -/

/-- **With distinct keys the indexed lookup is the scan.** -/
theorem find_build (hkeys : (pool.map key).Nodup) (k : Option K) (l : L) :
    (build key sig pool).find k l = scan key sig pool k l := by
  unfold find scan
  rw [get?_secondary]
  congr 1
  induction k with
  | none => rfl
  | some k => exact get?_primary hkeys k

theorem single?_eq_some_iff {vs : List V} {v : V} : single? vs = some v ↔ vs = [v] := by
  unfold single?
  split <;> simp_all

/-- The only item of a pool without repetitions that passes a test. -/
theorem single?_filter_eq_some_iff (hpool : pool.Nodup) {p : V → Bool} {v : V} :
    single? (pool.filter p) = some v ↔ v ∈ pool ∧ p v = true ∧ ∀ w ∈ pool, p w = true → w = v := by
  rw [single?_eq_some_iff]
  constructor
  · intro h
    have hmem : ∀ w, w ∈ pool ∧ p w = true ↔ w = v := by
      intro w
      rw [← List.mem_filter, h, List.mem_singleton]
    obtain ⟨hv, hp⟩ := (hmem v).mpr rfl
    exact ⟨hv, hp, fun w hw hpw => (hmem w).mp ⟨hw, hpw⟩⟩
  · rintro ⟨hv, hp, honly⟩
    have hfilter := hpool.filter p
    have hall : ∀ w ∈ pool.filter p, w = v := by
      intro w hw
      obtain ⟨hw, hpw⟩ := List.mem_filter.mp hw
      exact honly w hw hpw
    have hv' : v ∈ pool.filter p := List.mem_filter.mpr ⟨hv, hp⟩
    -- a list without repetitions all of whose members are one item
    induction hvs : pool.filter p with
    | nil => simp [hvs] at hv'
    | cons w rest =>
        rw [hvs] at hall hfilter
        have hw : w = v := hall w List.mem_cons_self
        have hrest : rest = [] := by
          refine List.eq_nil_iff_forall_not_mem.mpr ?_
          intro u hu
          have huv : u = v := hall u (List.mem_cons_of_mem _ hu)
          exact (List.nodup_cons.mp hfilter).1 (hw.trans huv.symm ▸ hu)
        rw [hw, hrest]

theorem find?_key_eq_some_iff (hkeys : (pool.map key).Nodup) {k : K} {v : V} :
    (pool.find? fun v => key v = k) = some v ↔ v ∈ pool ∧ key v = k := by
  constructor
  · intro h
    exact ⟨List.mem_of_find?_eq_some h, by simpa using List.find?_some h⟩
  · rintro ⟨hv, rfl⟩
    obtain ⟨w, hw⟩ : ∃ w, (pool.find? fun w => key w = key v) = some w :=
      Option.isSome_iff_exists.mp (List.find?_isSome.mpr ⟨v, hv, by simp⟩)
    have hkey : key w = key v := by simpa using List.find?_some hw
    rw [hw, List.inj_on_of_nodup_map hkeys (List.mem_of_find?_eq_some hw) hv hkey]

/-- **What a scan finds is the item it names.** -/
theorem scan_eq_some_iff (hkeys : (pool.map key).Nodup) {k : Option K} {l : L} {v : V} :
    scan key sig pool k l = some v ↔ Names key sig pool k l v := by
  have hsingle := single?_filter_eq_some_iff (p := fun v => decide (sig v = l)) (v := v)
    (List.Nodup.of_map key hkeys)
  simp only [decide_eq_true_eq] at hsingle
  unfold scan Names
  by_cases hk : ∃ w ∈ pool, k = some (key w)
  · obtain ⟨w, hw, rfl⟩ := hk
    have hfind := (find?_key_eq_some_iff hkeys).mpr ⟨hw, rfl⟩
    rw [Option.bind_some, hfind, Option.some_or]
    constructor
    · intro h
      rw [← Option.some.inj h]
      exact ⟨hw, .inl rfl⟩
    · rintro ⟨hv, hkey | ⟨hnone, -⟩⟩
      · rw [List.inj_on_of_nodup_map hkeys hw hv (Option.some.inj hkey)]
      · exact absurd rfl (hnone w hw)
  · have hnone : (k.bind fun k => pool.find? fun v => key v = k) = none := by
      refine Option.bind_eq_none_iff.mpr ?_
      intro k' hk'
      refine List.find?_eq_none.mpr ?_
      intro w hw hkey
      exact hk ⟨w, hw, by rw [hk', of_decide_eq_true hkey]⟩
    rw [hnone, Option.none_or, hsingle]
    constructor
    · rintro ⟨hv, hsig, honly⟩
      exact ⟨hv, .inr ⟨fun w hw hkey => hk ⟨w, hw, hkey⟩, hsig, honly⟩⟩
    · rintro ⟨hv, hkey | ⟨-, hsig, honly⟩⟩
      · exact absurd ⟨v, hv, hkey⟩ hk
      · exact ⟨hv, hsig, honly⟩

/-! ### A growing pool -/

/-- A lookup succeeds if some item has the key, or exactly one has the signature. -/
theorem find_isSome_iff (pool : List V) (k : Option K) (l : L) :
    ((build key sig pool).find k l).isSome = true ↔
      (∃ v ∈ pool, k = some (key v)) ∨ (pool.filter fun v => sig v = l).length = 1 := by
  have hprimary : (k.bind (build key sig pool).primary.get?).isSome = true ↔
      ∃ v ∈ pool, k = some (key v) := by
    induction k with
    | none => simp
    | some k =>
        rw [Option.bind_some, get?_primary_isSome]
        simp only [Option.some.injEq, eq_comm]
  have hsingle : ∀ vs : List V, (single? vs).isSome = true ↔ vs.length = 1 := by
    intro vs
    rw [Option.isSome_iff_exists, List.length_eq_one_iff]
    simp only [single?_eq_some_iff]
  unfold find
  rw [Option.isSome_or, Bool.or_eq_true, hprimary, get?_secondary, hsingle]

/--
**A lookup that succeeds survives new items exactly as long as none of them shares its
signature, unless it goes by key.**
-/
theorem find_append_isSome_iff {more : List V} {k : Option K} {l : L}
    (h : ((build key sig pool).find k l).isSome = true) :
    ((build key sig (pool ++ more)).find k l).isSome = true ↔
      (∃ v ∈ pool ++ more, k = some (key v)) ∨ ∀ v ∈ more, sig v ≠ l := by
  rw [find_isSome_iff]
  refine or_congr_right' ?_
  intro hkey
  have hone : (pool.filter fun v => sig v = l).length = 1 := by
    rcases (find_isSome_iff pool k l).mp h with ⟨v, hv, hk⟩ | hone
    · exact absurd ⟨v, List.mem_append_left _ hv, hk⟩ hkey
    · exact hone
  rw [List.filter_append, List.length_append, hone, Nat.add_eq_left, List.length_eq_zero_iff,
    List.filter_eq_nil_iff]
  simp

/-- New keys leave what a known key finds as it is. -/
theorem get?_primary_append {more : List V} {k : K} (h : ∀ v ∈ more, key v ≠ k) :
    (build key sig (pool ++ more)).primary.get? k = (build key sig pool).primary.get? k := by
  show (Dict.ofPairs ((pool ++ more).map fun v => (key v, v))).get? k = _
  rw [List.map_append, Dict.get?_ofPairs_append]
  · rfl
  · simpa using h

/-- A lookup whose key no new item has finds the same item, unless its signature was repeated. -/
theorem find_append_eq {more : List V} {k : Option K} {l : L}
    (hkey : ∀ v ∈ more, k ≠ some (key v))
    (hsig : (∃ v ∈ pool, k = some (key v)) ∨ ∀ v ∈ more, sig v ≠ l) :
    (build key sig (pool ++ more)).find k l = (build key sig pool).find k l := by
  have hprimary : k.bind (build key sig (pool ++ more)).primary.get? =
      k.bind (build key sig pool).primary.get? := by
    induction k with
    | none => rfl
    | some k => exact get?_primary_append fun v hv heq => hkey v hv (by rw [heq])
  unfold find
  rw [hprimary]
  rcases hsig with ⟨v, hv, rfl⟩ | hsig
  · obtain ⟨w, hw⟩ := Option.isSome_iff_exists.mp
      ((get?_primary_isSome sig pool (key v)).mpr ⟨v, hv, rfl⟩)
    rw [Option.bind_some, hw, Option.some_or, Option.some_or]
  · have hnone : (more.filter fun v => sig v = l) = [] :=
      List.filter_eq_nil_iff.mpr (by simpa using hsig)
    rw [get?_secondary, get?_secondary, List.filter_append, hnone, List.append_nil]

end PoolIndex

end GaiaOS
