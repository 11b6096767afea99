/-
Python dictionaries.

A `Dict` is the list of its entries in insertion order together with the fact that
no key occurs twice; assigning to a key replaces its value where it stands and a new
key goes to the end.  The two ways code fills one in a loop get a name and a
characterisation each: `ofPairs` is repeated assignment, where the last value under a
key wins, and `group` is `defaultdict(list)` with `append`, where a key collects its
values in order.
-/
import Mathlib.Data.List.Nodup
import Mathlib.Data.List.Basic

namespace GaiaOS

/-- A Python dict. -/
structure Dict (K V : Type) where
  entries : List (K × V)
  nodup : (entries.map Prod.fst).Nodup

namespace Dict

variable {K V : Type}

def empty : Dict K V := ⟨[], List.nodup_nil⟩

instance : Inhabited (Dict K V) := ⟨empty⟩

theorem ext_entries {d d' : Dict K V} (h : d.entries = d'.entries) : d = d' := by
  cases d
  cases d'
  cases h
  rfl

def keys (d : Dict K V) : List K := d.entries.map Prod.fst

variable [DecidableEq K]

/-- The value stored under a key in a list of entries. -/
def lookup : List (K × V) → K → Option V
  | [], _ => none
  | (k', v) :: rest, k => if k' = k then some v else lookup rest k

/-- `d.get(k)`, with `none` for a missing key. -/
def get? (d : Dict K V) (k : K) : Option V := lookup d.entries k

/-- `k in d`. -/
def contains (d : Dict K V) (k : K) : Bool := (d.get? k).isSome

/-- The entries after `d[k] = v`. -/
def assign : List (K × V) → K → V → List (K × V)
  | [], k, v => [(k, v)]
  | (k', v') :: rest, k, v =>
      if k' = k then (k', v) :: rest else (k', v') :: assign rest k v

theorem mem_keys_assign (entries : List (K × V)) (k : K) (v : V) (x : K) :
    x ∈ (assign entries k v).map Prod.fst ↔ x = k ∨ x ∈ entries.map Prod.fst := by
  induction entries with
  | nil => simp [assign]
  | cons e rest ih =>
      obtain ⟨k', v'⟩ := e
      by_cases hk : k' = k
      · subst hk
        simp [assign]
      · simp only [assign, if_neg hk, List.map_cons, List.mem_cons, ih]
        tauto

theorem nodup_assign {entries : List (K × V)} (h : (entries.map Prod.fst).Nodup) (k : K) (v : V) :
    ((assign entries k v).map Prod.fst).Nodup := by
  induction entries with
  | nil => simp [assign]
  | cons e rest ih =>
      obtain ⟨k', v'⟩ := e
      obtain ⟨hnot, hrest⟩ := List.nodup_cons.mp h
      by_cases hk : k' = k
      · simp only [assign, if_pos hk]
        exact h
      · simp only [assign, if_neg hk, List.map_cons]
        refine List.nodup_cons.mpr ⟨?_, ih hrest⟩
        rw [mem_keys_assign]
        rintro (heq | hmem)
        · exact hk heq
        · exact hnot hmem

/-- `d[k] = v`. -/
def set (d : Dict K V) (k : K) (v : V) : Dict K V := ⟨assign d.entries k v, nodup_assign d.nodup k v⟩

theorem lookup_assign (entries : List (K × V)) (k : K) (v : V) (x : K) :
    lookup (assign entries k v) x = if k = x then some v else lookup entries x := by
  induction entries with
  | nil => simp [assign, lookup]
  | cons e rest ih =>
      obtain ⟨k', v'⟩ := e
      by_cases hk : k' = k
      · subst hk
        by_cases hx : k' = x <;> simp [assign, lookup, hx]
      · by_cases hx : k' = x
        · subst hx
          simp [assign, lookup, hk, Ne.symm hk]
        · simp [assign, lookup, hk, hx, ih]

@[simp] theorem get?_empty (k : K) : (empty : Dict K V).get? k = none := rfl

theorem get?_set (d : Dict K V) (k : K) (v : V) (x : K) :
    (d.set k v).get? x = if k = x then some v else d.get? x := lookup_assign d.entries k v x

theorem get?_set_self (d : Dict K V) (k : K) (v : V) : (d.set k v).get? k = some v := by
  rw [get?_set, if_pos rfl]

theorem get?_set_of_ne (d : Dict K V) {k x : K} (h : k ≠ x) (v : V) :
    (d.set k v).get? x = d.get? x := by
  rw [get?_set, if_neg h]

/-! ### Filling a dict in a loop -/

/-- `for k, v in pairs: d[k] = v`, from an empty dict. -/
def ofPairs (ps : List (K × V)) : Dict K V := ps.foldl (fun d p => d.set p.1 p.2) empty

private theorem fold_set_get? (ps : List (K × V)) :
    ∀ (d : Dict K V) (k : K) (v : V),
      (ps.foldl (fun d p => d.set p.1 p.2) d).get? k = some v →
      (k, v) ∈ ps ∨ d.get? k = some v := by
  induction ps with
  | nil => intro d k v h; exact Or.inr h
  | cons p rest ih =>
      intro d k v h
      rcases ih _ k v h with hmem | hget
      · exact Or.inl (List.mem_cons_of_mem _ hmem)
      · rw [get?_set] at hget
        split at hget
        · rename_i hk
          refine Or.inl (List.mem_cons.mpr (Or.inl ?_))
          rw [← hk, ← Option.some.inj hget]
        · exact Or.inr hget

private theorem fold_set_isSome (ps : List (K × V)) :
    ∀ (d : Dict K V) (k : K), (k ∈ ps.map Prod.fst ∨ (d.get? k).isSome) →
      ((ps.foldl (fun d p => d.set p.1 p.2) d).get? k).isSome := by
  induction ps with
  | nil =>
      intro d k h
      rcases h with h | h
      · simp at h
      · exact h
  | cons p rest ih =>
      intro d k h
      refine ih _ k ?_
      rw [get?_set]
      by_cases hk : p.1 = k
      · exact Or.inr (by rw [if_pos hk]; rfl)
      · rw [if_neg hk]
        rcases h with h | h
        · rcases List.mem_cons.mp h with heq | hrest
          · exact absurd heq.symm hk
          · exact Or.inl hrest
        · exact Or.inr h

/-- What a filled dict holds was assigned. -/
theorem mem_of_get?_ofPairs {ps : List (K × V)} {k : K} {v : V}
    (h : (ofPairs ps).get? k = some v) : (k, v) ∈ ps := by
  rcases fold_set_get? ps empty k v h with hmem | hget
  · exact hmem
  · simp at hget

theorem get?_ofPairs_isSome {ps : List (K × V)} {k : K} (h : k ∈ ps.map Prod.fst) :
    ((ofPairs ps).get? k).isSome := fold_set_isSome ps empty k (Or.inl h)

theorem lookup_of_mem {entries : List (K × V)} (hnodup : (entries.map Prod.fst).Nodup) {k : K} {v : V}
    (h : (k, v) ∈ entries) : lookup entries k = some v := by
  induction entries with
  | nil => cases h
  | cons e rest ih =>
      obtain ⟨k', v'⟩ := e
      obtain ⟨hnot, hrest⟩ := List.nodup_cons.mp hnodup
      rcases List.mem_cons.mp h with heq | hmem
      · cases heq
        exact if_pos rfl
      · have hne : k' ≠ k := by
          intro heq
          exact hnot (List.mem_map.mpr ⟨(k, v), hmem, heq.symm⟩)
        exact (if_neg hne).trans (ih hrest hmem)

theorem mem_of_lookup {entries : List (K × V)} {k : K} {v : V} (h : lookup entries k = some v) :
    (k, v) ∈ entries := by
  induction entries with
  | nil => cases h
  | cons e rest ih =>
      obtain ⟨k', v'⟩ := e
      unfold lookup at h
      split at h
      · rename_i heq
        cases h
        exact List.mem_cons.mpr (Or.inl (by rw [heq]))
      · exact List.mem_cons_of_mem _ (ih h)

/-- The entries are what the keys hold. -/
theorem mem_entries_iff (d : Dict K V) {k : K} {v : V} : (k, v) ∈ d.entries ↔ d.get? k = some v :=
  ⟨lookup_of_mem d.nodup, mem_of_lookup⟩

/-- The keys are those that hold something. -/
theorem mem_keys_iff (d : Dict K V) {k : K} : k ∈ d.keys ↔ (d.get? k).isSome = true := by
  rw [Option.isSome_iff_exists]
  simp only [← mem_entries_iff, keys, List.mem_map, Prod.exists, exists_and_right, exists_eq_right]

/-- `d.pop(k, None)`. -/
def erase (d : Dict K V) (k : K) : Dict K V :=
  ⟨d.entries.filter fun e => e.1 ≠ k,
    d.nodup.sublist ((List.filter_sublist (l := d.entries)).map Prod.fst)⟩

theorem get?_erase (d : Dict K V) (k x : K) :
    (d.erase k).get? x = if k = x then none else d.get? x := by
  have h : ∀ entries : List (K × V), lookup (entries.filter fun e => e.1 ≠ k) x =
      if k = x then none else lookup entries x := by
    intro entries
    induction entries with
    | nil => simp [lookup]
    | cons e rest ih =>
        obtain ⟨k', v'⟩ := e
        by_cases hk : k' = k
        · subst hk
          by_cases hx : k' = x <;> simp_all [lookup]
        · by_cases hx : k' = x
          · subst hx
            simp [lookup, hk, Ne.symm hk]
          · simp_all [lookup]
  exact h d.entries

/-- `d.update(e)`. -/
def update (d e : Dict K V) : Dict K V := e.entries.foldl (fun d p => d.set p.1 p.2) d

private theorem fold_set_get?_of_nodup (ps : List (K × V)) :
    (ps.map Prod.fst).Nodup → ∀ (d : Dict K V) (k : K),
      (ps.foldl (fun d p => d.set p.1 p.2) d).get? k = (lookup ps k).or (d.get? k) := by
  induction ps with
  | nil =>
      intro _ d k
      rfl
  | cons p ps ih =>
      intro hnodup d k
      obtain ⟨hnot, hrest⟩ := List.nodup_cons.mp hnodup
      rw [List.foldl_cons, ih hrest, get?_set]
      by_cases hk : p.1 = k
      · have hnone : lookup ps k = none := by
          cases hlookup : lookup ps k with
          | none => rfl
          | some v => exact absurd (List.mem_map_of_mem (mem_of_lookup hlookup)) (hk ▸ hnot)
        simp [lookup, hk, hnone]
      · simp [lookup, hk]

/-- The updating dict wins. -/
theorem get?_update (d e : Dict K V) (k : K) : (d.update e).get? k = (e.get? k).or (d.get? k) :=
  fold_set_get?_of_nodup e.entries e.nodup d k

/-- Filled with pairs of distinct keys, a dict holds what the pairs say. -/
theorem get?_ofPairs_of_nodup {ps : List (K × V)} (h : (ps.map Prod.fst).Nodup) (k : K) :
    (ofPairs ps).get? k = lookup ps k := by
  unfold ofPairs
  rw [fold_set_get?_of_nodup ps h, get?_empty, Option.or_none]

theorem get?_ofPairs_of_mem {ps : List (K × V)} (h : (ps.map Prod.fst).Nodup) {k : K} {v : V}
    (hmem : (k, v) ∈ ps) : (ofPairs ps).get? k = some v := by
  rw [get?_ofPairs_of_nodup h]
  exact lookup_of_mem h hmem

/-- Pairs of other keys do not touch a key. -/
theorem get?_ofPairs_append {ps qs : List (K × V)} {k : K} (h : k ∉ qs.map Prod.fst) :
    (ofPairs (ps ++ qs)).get? k = (ofPairs ps).get? k := by
  have key : ∀ (qs : List (K × V)) (d : Dict K V), k ∉ qs.map Prod.fst →
      (qs.foldl (fun d p => d.set p.1 p.2) d).get? k = d.get? k := by
    intro qs
    induction qs with
    | nil =>
        intro d _
        rfl
    | cons q qs ih =>
        intro d hk
        rw [List.map_cons, List.mem_cons, not_or] at hk
        rw [List.foldl_cons, ih _ hk.2, get?_set_of_ne d (Ne.symm hk.1)]
  unfold ofPairs
  rw [List.foldl_append]
  exact key qs _ h

theorem assign_self {entries : List (K × V)} {k : K} {v : V} (h : lookup entries k = some v) :
    assign entries k v = entries := by
  induction entries with
  | nil => cases h
  | cons e rest ih =>
      obtain ⟨k', v'⟩ := e
      by_cases hk : k' = k
      · subst hk
        obtain rfl : v' = v := by simpa [lookup] using h
        simp [assign]
      · simp only [assign, if_neg hk]
        rw [ih (by simpa [lookup, hk] using h)]

/-- Assigning what is there changes nothing, not even the order. -/
theorem set_self {d : Dict K V} {k : K} {v : V} (h : d.get? k = some v) : d.set k v = d :=
  ext_entries (assign_self h)

theorem update_self {d e : Dict K V} (h : ∀ k v, e.get? k = some v → d.get? k = some v) :
    d.update e = d := by
  have hfold : ∀ ps : List (K × V), (∀ p ∈ ps, d.get? p.1 = some p.2) →
      ps.foldl (fun d p => d.set p.1 p.2) d = d := by
    intro ps
    induction ps with
    | nil =>
        intro _
        rfl
    | cons p ps ih =>
        intro hps
        rw [List.foldl_cons, set_self (hps p List.mem_cons_self)]
        exact ih fun q hq => hps q (List.mem_cons_of_mem _ hq)
  exact hfold e.entries fun p hp => h p.1 p.2 (e.mem_entries_iff.mp hp)

/-- `{k: f(k, v) for k, v in d.items()}`. -/
def mapValues {W : Type} (f : K → V → W) (d : Dict K V) : Dict K W :=
  ⟨d.entries.map fun e => (e.1, f e.1 e.2), by rw [List.map_map]; exact d.nodup⟩

theorem get?_mapValues {W : Type} (f : K → V → W) (d : Dict K V) (k : K) :
    (d.mapValues f).get? k = (d.get? k).map (f k) := by
  have h : ∀ entries : List (K × V), lookup (entries.map fun e => (e.1, f e.1 e.2)) k =
      (lookup entries k).map (f k) := by
    intro entries
    induction entries with
    | nil => rfl
    | cons e rest ih =>
        obtain ⟨k', v'⟩ := e
        by_cases hk : k' = k
        · subst hk
          simp [lookup]
        · simp [lookup, hk, ih]
  exact h d.entries

/-- Some entry of the first dict is missing in the second, or stands there with a value that is
too far from it. -/
def Loses {W : Type} (far : K → V → W → Prop) (d : Dict K V) (d' : Dict K W) : Prop :=
  ∃ k v, d.get? k = some v ∧ (d'.get? k = none ∨ ∃ v', d'.get? k = some v' ∧ far k v v')

/-- A loop over the first dict that looks up the second comes to something bad if it loses. -/
theorem exists_mem_flatMap_iff_loses {W σ : Type} {far : K → V → W → Prop} {d : Dict K V}
    {d' : Dict K W} {f : K × V → List σ} {Bad : σ → Prop}
    (hf : ∀ k v, d.get? k = some v → ((∃ s ∈ f (k, v), Bad s) ↔
      d'.get? k = none ∨ ∃ v', d'.get? k = some v' ∧ far k v v')) :
    (∃ s ∈ d.entries.flatMap f, Bad s) ↔ d.Loses far d' := by
  constructor
  · rintro ⟨s, hs, hbad⟩
    obtain ⟨⟨k, v⟩, he, hs⟩ := List.mem_flatMap.mp hs
    have hv := d.mem_entries_iff.mp he
    exact ⟨k, v, hv, (hf k v hv).mp ⟨s, hs, hbad⟩⟩
  · rintro ⟨k, v, hv, hloses⟩
    obtain ⟨s, hs, hbad⟩ := (hf k v hv).mpr hloses
    exact ⟨s, List.mem_flatMap.mpr ⟨(k, v), d.mem_entries_iff.mpr hv, hs⟩, hbad⟩

/-- The entries that a list of keys has under a function. -/
theorem lookup_map_pair (keys : List K) (f : K → V) (k : K) :
    lookup (keys.map fun key => (key, f key)) k = if k ∈ keys then some (f k) else none := by
  induction keys with
  | nil => rfl
  | cons key keys ih =>
      rw [List.map_cons, lookup, ih]
      by_cases hk : key = k
      · simp [hk]
      · simp [hk, Ne.symm hk]

/-- A new key goes to the end. -/
theorem assign_of_not_mem {entries : List (K × V)} {k : K} (h : k ∉ entries.map Prod.fst) (v : V) :
    assign entries k v = entries ++ [(k, v)] := by
  induction entries with
  | nil => rfl
  | cons e rest ih =>
      obtain ⟨k', v'⟩ := e
      have hne : k' ≠ k := fun heq => h (by simp [heq])
      have hrest : k ∉ rest.map Prod.fst := fun hmem => h (List.mem_cons_of_mem _ hmem)
      simp only [assign, if_neg hne, ih hrest, List.cons_append]

/-- A new key comes last. -/
theorem keys_set_of_not_mem {d : Dict K V} {k : K} (h : k ∉ d.keys) (v : V) :
    (d.set k v).keys = d.keys ++ [k] := by
  show (assign d.entries k v).map Prod.fst = _
  rw [assign_of_not_mem h, List.map_append]
  rfl

/-- Filling an empty dict with the entries of another gives that dict back. -/
theorem ofPairs_entries (d : Dict K V) : ofPairs d.entries = d := by
  -- the dict filled so far is what stands to the left of the entries still to come
  have key : ∀ (rest : List (K × V)) (acc : Dict K V),
      ((acc.entries ++ rest).map Prod.fst).Nodup →
      (rest.foldl (fun d p => d.set p.1 p.2) acc).entries = acc.entries ++ rest := by
    intro rest
    induction rest with
    | nil => intro acc _; simp
    | cons p rest ih =>
        intro acc hnodup
        have hfresh : p.1 ∉ acc.entries.map Prod.fst := by
          rw [List.map_append, List.map_cons] at hnodup
          intro hmem
          exact List.disjoint_of_nodup_append hnodup hmem (List.mem_cons_self ..)
        have hset : (acc.set p.1 p.2).entries = acc.entries ++ [p] := assign_of_not_mem hfresh p.2
        rw [List.foldl_cons, ih (acc.set p.1 p.2) (by rw [hset]; simpa using hnodup), hset]
        simp
  have hentries : (ofPairs d.entries).entries = d.entries :=
    key d.entries empty (by simpa [empty] using d.nodup)
  exact ext_entries hentries

/-- `for k, v in pairs: d[k].append(v)` on a `defaultdict(list)`. -/
def group (ps : List (K × V)) : Dict K (List V) :=
  ps.foldl (fun d p => d.set p.1 ((d.get? p.1).getD [] ++ [p.2])) empty

/-- A key of a grouping holds its values in order. -/
theorem get?_group_getD (ps : List (K × V)) (k : K) :
    ((group ps).get? k).getD [] = (ps.filter (fun p => p.1 = k)).map Prod.snd := by
  have key : ∀ (ps : List (K × V)) (d : Dict K (List V)),
      ((ps.foldl (fun d p => d.set p.1 ((d.get? p.1).getD [] ++ [p.2])) d).get? k).getD []
        = (d.get? k).getD [] ++ (ps.filter (fun p => p.1 = k)).map Prod.snd := by
    intro ps
    induction ps with
    | nil => intro d; simp
    | cons p rest ih =>
        intro d
        rw [List.foldl_cons, ih, get?_set]
        by_cases hk : p.1 = k
        · simp [hk]
        · simp [hk]
  simpa [group] using key ps empty

/-- An entry of a grouping holds the values of its key. -/
theorem values_of_mem_group {ps : List (K × V)} {k : K} {vs : List V}
    (h : (k, vs) ∈ (group ps).entries) : vs = (ps.filter (fun p => p.1 = k)).map Prod.snd := by
  have hvalues := get?_group_getD ps k
  rw [(mem_entries_iff _).mp h] at hvalues
  exact hvalues

/-- Every key that occurs has an entry. -/
theorem mem_group_of_mem {ps : List (K × V)} {k : K} {v : V} (h : (k, v) ∈ ps) :
    (k, (ps.filter (fun p => p.1 = k)).map Prod.snd) ∈ (group ps).entries := by
  rw [mem_entries_iff]
  have hvalues := get?_group_getD ps k
  have hmem : v ∈ (ps.filter (fun p => p.1 = k)).map Prod.snd :=
    List.mem_map.mpr ⟨(k, v), List.mem_filter.mpr ⟨h, decide_eq_true rfl⟩, rfl⟩
  cases hget : (group ps).get? k with
  | none =>
      rw [hget, Option.getD_none] at hvalues
      rw [← hvalues] at hmem
      cases hmem
  | some vs =>
      rw [hget, Option.getD_some] at hvalues
      rw [hvalues]

/-! ### Filling two dicts with the same keys -/

/-- Entries of one key, with related values. -/
def SameKey {W : Type} (related : V → W → Prop) (p : K × V) (q : K × W) : Prop :=
  p.1 = q.1 ∧ related p.2 q.2

section SameKeys

variable {W : Type} {related : V → W → Prop} {ps : List (K × V)} {qs : List (K × W)}

theorem forall₂_assign (h : List.Forall₂ (SameKey related) ps qs) {k : K} {v : V} {w : W}
    (hvw : related v w) : List.Forall₂ (SameKey related) (assign ps k v) (assign qs k w) := by
  induction h with
  | nil => exact .cons ⟨rfl, hvw⟩ .nil
  | @cons p q ps qs hpq hrest ih =>
      obtain ⟨x, v'⟩ := p
      obtain ⟨y, w'⟩ := q
      obtain ⟨rfl, hrelated⟩ : x = y ∧ related v' w' := hpq
      by_cases hk : x = k
      · simp only [assign, if_pos hk]
        exact .cons ⟨rfl, hvw⟩ hrest
      · simp only [assign, if_neg hk]
        exact .cons ⟨rfl, hrelated⟩ ih

/-- The two dicts have the same keys in the same order. -/
theorem forall₂_ofPairs (h : List.Forall₂ (SameKey related) ps qs) :
    List.Forall₂ (SameKey related) (ofPairs ps).entries (ofPairs qs).entries := by
  have hfold : ∀ (d : Dict K V) (e : Dict K W),
      List.Forall₂ (SameKey related) d.entries e.entries →
      List.Forall₂ (SameKey related) (ps.foldl (fun d p => d.set p.1 p.2) d).entries
        (qs.foldl (fun d p => d.set p.1 p.2) e).entries := by
    induction h with
    | nil => exact fun d e hde => hde
    | @cons p q ps qs hpq hrest ih =>
        intro d e hde
        refine ih _ _ ?_
        obtain ⟨hkey, hrelated⟩ := hpq
        show List.Forall₂ (SameKey related) (assign d.entries p.1 p.2) (assign e.entries q.1 q.2)
        rw [← hkey]
        exact forall₂_assign hde hrelated
  exact hfold empty empty .nil

omit [DecidableEq K] in
theorem keys_of_forall₂ {d : Dict K V} {e : Dict K W}
    (h : List.Forall₂ (SameKey related) d.entries e.entries) : d.keys = e.keys := by
  obtain ⟨ps, hps⟩ := d
  obtain ⟨qs, hqs⟩ := e
  change List.Forall₂ (SameKey related) ps qs at h
  show ps.map Prod.fst = qs.map Prod.fst
  clear hps hqs
  induction h with
  | nil => rfl
  | cons hpq _ ih => rw [List.map_cons, List.map_cons, ih, hpq.1]

/-- What one dict has under a key is related to what the other has. -/
theorem get?_of_forall₂ {d : Dict K V} {e : Dict K W}
    (h : List.Forall₂ (SameKey related) d.entries e.entries) (k : K) :
    Option.Rel related (d.get? k) (e.get? k) := by
  obtain ⟨ps, hps⟩ := d
  obtain ⟨qs, hqs⟩ := e
  change List.Forall₂ (SameKey related) ps qs at h
  show Option.Rel related (lookup ps k) (lookup qs k)
  clear hps hqs
  induction h with
  | nil => exact .none
  | @cons p q ps qs hpq _ ih =>
      obtain ⟨x, v⟩ := p
      obtain ⟨y, w⟩ := q
      obtain ⟨rfl, hrelated⟩ : x = y ∧ related v w := hpq
      by_cases hk : x = k
      · simp only [lookup, if_pos hk]
        exact .some hrelated
      · simp only [lookup, if_neg hk]
        exact ih

end SameKeys
end Dict

end GaiaOS
