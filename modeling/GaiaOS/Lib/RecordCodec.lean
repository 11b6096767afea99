/-
Records read from JSON objects and written back.

A `Kind` says how the value of an attribute is read: as it stands, as a scalar that is spelled as
text, as one of these unless it is null or cannot be read, as a list, or as a record with required
and optional keys.  A record keeps what stands under the keys it does not know.

What is written reads back as what it was written from (`read_write`), and what a record does not
know changes nothing of what it does (`read_prune`), at any depth.
-/
import GaiaOS.Lib.Dict
import GaiaOS.Lib.Python
import GaiaOS.Lib.Relations

namespace GaiaOS

namespace Json

/-- `dict(pairs)` of one pair; a key is text. -/
def pairOf (item : Json) : Except PyError (String × Json) := do
  let parts ← item.iter
  match parts with
  | [.str key, value] => return (key, value)
  | [_, _] => .error (.typeError "keys are text")
  | _ => .error (.valueError "dictionary update sequence element has the wrong length")

/-- `dict(x)`: of a dict, or of its items. -/
def asDict : Json → Except PyError (Dict String Json)
  | .obj entries => .ok (Dict.ofPairs entries)
  | x => do
      let items ← x.iter
      let pairs ← items.mapM pairOf
      return Dict.ofPairs pairs

end Json

namespace Codec

/-! ### Kinds and values -/

mutual

/-- How a value is read. -/
inductive Kind (ι : Type)
  | plain
  | scalar (i : ι)
  | lenient (kind : Kind ι)
  | listOf (item : Kind ι)
  | record (slots : List (Slot ι))

/-- A key of a record and how its value is read. -/
inductive Slot (ι : Type)
  | required (key : String) (kind : Kind ι)
  | optional (key : String) (kind : Kind ι)

end

mutual

/-- What a value is read as. -/
inductive Datum (V : Type)
  | raw (x : Json)
  | scalar (v : V)
  | list (items : List (Datum V))
  | record (attributes : List (Attribute V)) (additional : Dict String Json)

/-- An attribute of a record. -/
inductive Attribute (V : Type)
  | set (key : String) (value : Datum V)
  | unset (key : String)

end

variable {ι V : Type}

namespace Slot

def key : Slot ι → String
  | required key _ => key
  | optional key _ => key

def kind : Slot ι → Kind ι
  | required _ kind => kind
  | optional _ kind => kind

end Slot

namespace Attribute

def key : Attribute V → String
  | set key _ => key
  | unset key => key

end Attribute

/-- What a lenient attribute tries to read: a record from a dict, a scalar from text, and nothing
from null. -/
def Kind.admits : Kind ι → Json → Bool
  | _, .null => false
  | .record _, .obj _ => true
  | .record _, _ => false
  | .scalar _, .str _ => true
  | .scalar _, _ => false
  | _, _ => true

/-- How scalars are read and written, and which exceptions a lenient attribute catches. -/
structure Scalars (ι V : Type) where
  read : ι → Json → Except PyError V
  write : V → String
  caught : PyError → Bool
  read_write : ∀ i x v, read i x = .ok v → read i (.str (write v)) = .ok v

section

variable (scalars : Scalars ι V)

/-! ### Reading -/

mutual

def Kind.read : Kind ι → Json → Except PyError (Datum V)
  | .plain, x => .ok (.raw x)
  | .scalar i, x => (scalars.read i x).map .scalar
  | .lenient kind, x =>
      if kind.admits x then
        match kind.read x with
        | .ok v => .ok v
        | .error e => if scalars.caught e then .ok (.raw x) else .error e
      else .ok (.raw x)
  | .listOf item, x => do
      let items ← x.iter
      let values ← items.mapM item.read
      return .list values
  | .record slots, x => do
      let d ← x.asDict
      let (attributes, additional) ← readSlots slots d
      return .record attributes additional

/-- The attributes, popped one after the other, and what is left. -/
def readSlots : List (Slot ι) → Dict String Json →
    Except PyError (List (Attribute V) × Dict String Json)
  | [], d => .ok ([], d)
  | slot :: slots, d => do
      let first ← readSlot slot d
      let (rest, additional) ← readSlots slots (d.erase slot.key)
      return (first :: rest, additional)

def readSlot : Slot ι → Dict String Json → Except PyError (Attribute V)
  | .required key kind, d =>
      match d.get? key with
      | some x => (kind.read x).map (.set key)
      | none => .error (.keyError key)
  | .optional key kind, d =>
      match d.get? key with
      | some x => (kind.read x).map (.set key)
      | none => .ok (.unset key)

end

/-! ### Writing -/

mutual

def Datum.write : Datum V → Json
  | .raw x => x
  | .scalar v => .str (scalars.write v)
  | .list items => .arr (writeItems items)
  | .record attributes additional =>
      .obj ((writeAttributes attributes).foldl (fun d p => d.set p.1 p.2) additional).entries

def writeItems : List (Datum V) → List Json
  | [] => []
  | item :: items => item.write :: writeItems items

/-- The entries of the attributes that are set. -/
def writeAttributes : List (Attribute V) → List (String × Json)
  | [] => []
  | first :: rest => writeAttribute first ++ writeAttributes rest

def writeAttribute : Attribute V → List (String × Json)
  | .set key value => [(key, value.write)]
  | .unset _ => []

end

/-! ### What a record knows -/

mutual

/-- The keys of every record are distinct. -/
def Kind.distinct : Kind ι → Bool
  | .plain => true
  | .scalar _ => true
  | .lenient kind => kind.distinct
  | .listOf item => item.distinct
  | .record slots => decide ((slots.map Slot.key).Nodup) && distinctSlots slots

def distinctSlots : List (Slot ι) → Bool
  | [] => true
  | slot :: slots => distinctSlot slot && distinctSlots slots

def distinctSlot : Slot ι → Bool
  | .required _ kind => kind.distinct
  | .optional _ kind => kind.distinct

end

mutual

/-- The value without what no record knows. -/
def Kind.prune : Kind ι → Json → Json
  | .plain, x => x
  | .scalar _, x => x
  | .lenient kind, x =>
      if kind.admits x && (kind.read scalars x).isOk then kind.prune x else x
  | .listOf item, x =>
      match x.iter with
      | .ok items => .arr (items.map item.prune)
      | .error _ => x
  | .record slots, x =>
      match x.asDict with
      | .ok d => .obj (pruneSlots slots d)
      | .error _ => x

def pruneSlots : List (Slot ι) → Dict String Json → List (String × Json)
  | [], _ => []
  | slot :: slots, d => pruneSlot slot d ++ pruneSlots slots (d.erase slot.key)

def pruneSlot : Slot ι → Dict String Json → List (String × Json)
  | .required key kind, d => (d.get? key).toList.map fun x => (key, kind.prune x)
  | .optional key kind, d => (d.get? key).toList.map fun x => (key, kind.prune x)

end

mutual

/-- What was read without what no record knows. -/
def Datum.known : Datum V → Datum V
  | .raw x => .raw x
  | .scalar v => .scalar v
  | .list items => .list (knownItems items)
  | .record attributes _ => .record (knownAttributes attributes) Dict.empty

def knownItems : List (Datum V) → List (Datum V)
  | [] => []
  | item :: items => item.known :: knownItems items

def knownAttributes : List (Attribute V) → List (Attribute V)
  | [] => []
  | first :: rest => knownAttribute first :: knownAttributes rest

def knownAttribute : Attribute V → Attribute V
  | .set key value => .set key value.known
  | .unset key => .unset key

end

end

/-! ### Equations -/

theorem writeItems_eq (scalars : Scalars ι V) (items : List (Datum V)) :
    writeItems scalars items = items.map (Datum.write scalars) := by
  induction items with
  | nil => rfl
  | cons item items ih => rw [writeItems, ih, List.map_cons]

theorem writeAttributes_eq (scalars : Scalars ι V) (attributes : List (Attribute V)) :
    writeAttributes scalars attributes = attributes.flatMap (writeAttribute scalars) := by
  induction attributes with
  | nil => rfl
  | cons first rest ih => rw [writeAttributes, ih, List.flatMap_cons]

theorem knownItems_eq (items : List (Datum V)) : knownItems items = items.map Datum.known := by
  induction items with
  | nil => rfl
  | cons item items ih => rw [knownItems, ih, List.map_cons]

theorem distinctSlots_eq (slots : List (Slot ι)) :
    distinctSlots slots = slots.all fun slot => slot.kind.distinct := by
  induction slots with
  | nil => rfl
  | cons slot slots ih =>
      rw [distinctSlots, ih, List.all_cons]
      cases slot <;> rfl

/-- Induction over a kind: the kinds it is made of come first. -/
theorem Kind.tree_induction {P : Kind ι → Prop} (plain : P .plain) (scalar : ∀ i, P (.scalar i))
    (lenient : ∀ kind, P kind → P (.lenient kind)) (listOf : ∀ item, P item → P (.listOf item))
    (record : ∀ slots, (∀ slot ∈ slots, P slot.kind) → P (.record slots)) :
    ∀ kind, P kind :=
  @Kind.rec ι P (fun slot => P slot.kind) (fun slots => ∀ slot ∈ slots, P slot.kind) plain
    scalar lenient listOf record (fun _ _ h => h) (fun _ _ h => h) (by simp)
    (fun _ _ hslot hslots => List.forall_mem_cons.mpr ⟨hslot, hslots⟩)

/-! ### Dicts filled at the end -/

theorem entries_foldl_set {ps : List (String × Json)} : ∀ {d : Dict String Json},
    ((d.entries ++ ps).map Prod.fst).Nodup →
    (ps.foldl (fun d p => d.set p.1 p.2) d).entries = d.entries ++ ps := by
  induction ps with
  | nil =>
      intro d _
      simp
  | cons p ps ih =>
      intro d hnodup
      have hfresh : p.1 ∉ d.entries.map Prod.fst := by
        intro hmem
        rw [List.map_append] at hnodup
        exact List.disjoint_of_nodup_append hnodup hmem (by simp)
      have hset : (d.set p.1 p.2).entries = d.entries ++ [p] :=
        Dict.assign_of_not_mem hfresh p.2
      rw [List.foldl_cons, ih (by rw [hset]; simpa using hnodup), hset, List.append_assoc,
        List.singleton_append]

theorem erase_entries_of_append {d rest : Dict String Json} {key : String}
    {first more : List (String × Json)} (hd : d.entries = rest.entries ++ (first ++ more))
    (hrest : key ∉ rest.keys) (hfirst : ∀ p ∈ first, p.1 = key) (hmore : key ∉ more.map Prod.fst) :
    (d.erase key).entries = rest.entries ++ more := by
  show d.entries.filter _ = _
  have hkeep : ∀ l : List (String × Json), key ∉ l.map Prod.fst →
      l.filter (fun e => e.1 ≠ key) = l := by
    intro l hl
    refine List.filter_eq_self.mpr fun p hp => ?_
    have hne : p.1 ≠ key := fun heq => hl (heq ▸ List.mem_map_of_mem hp)
    simpa using hne
  have hdrop : first.filter (fun e => e.1 ≠ key) = [] :=
    List.filter_eq_nil_iff.mpr fun p hp => by simp [hfirst p hp]
  rw [hd, List.filter_append, List.filter_append, hkeep _ hrest, hkeep _ hmore, hdrop,
    List.nil_append]

/-! ### Reading what was written -/

section Laws

variable {scalars : Scalars ι V}

/-- What a key that is not there comes to. -/
def Slot.missing : Slot ι → Except PyError (Attribute V)
  | .required key _ => .error (.keyError key)
  | .optional key _ => .ok (.unset key)

theorem readSlot_eq (slot : Slot ι) (d : Dict String Json) :
    readSlot scalars slot d = (d.get? slot.key).elim slot.missing
      fun x => (slot.kind.read scalars x).map (.set slot.key) := by
  cases slot with
  | required key kind =>
      rw [readSlot]
      show _ = (d.get? key).elim _ _
      cases d.get? key <;> rfl
  | optional key kind =>
      rw [readSlot]
      show _ = (d.get? key).elim _ _
      cases d.get? key <;> rfl

theorem missing_ok {slot : Slot ι} {first : Attribute V} (h : slot.missing = .ok first) :
    first = .unset slot.key := by
  cases slot with
  | required key kind => cases h
  | optional key kind =>
      cases h
      rfl

theorem readSlot_ok_iff {slot : Slot ι} {d : Dict String Json} {first : Attribute V} :
    readSlot scalars slot d = .ok first ↔
      (d.get? slot.key = none ∧ slot.missing = .ok first) ∨
      ∃ x v, d.get? slot.key = some x ∧ slot.kind.read scalars x = .ok v ∧
        first = .set slot.key v := by
  rw [readSlot_eq]
  cases d.get? slot.key with
  | none => simp
  | some x =>
      cases hread : slot.kind.read scalars x with
      | error e => simp [hread, Except.map]
      | ok v =>
          simp only [Option.elim, hread, Except.map, Except.ok.injEq]
          constructor
          · rintro rfl
            exact .inr ⟨x, v, rfl, hread, rfl⟩
          · rintro (⟨hnone, -⟩ | ⟨x', v', hx, hv, rfl⟩)
            · cases hnone
            · cases hx
              rw [hread] at hv
              cases hv
              rfl

theorem readSlot_key {slot : Slot ι} {d : Dict String Json} {first : Attribute V}
    (h : readSlot scalars slot d = .ok first) : first.key = slot.key := by
  rcases readSlot_ok_iff.mp h with ⟨-, hmissing⟩ | ⟨x, v, -, -, rfl⟩
  · rw [missing_ok hmissing]
    rfl
  · rfl

/-- A reading of slots, one slot at a time. -/
theorem readSlots_cons {slot : Slot ι} {slots : List (Slot ι)} {d rest : Dict String Json}
    {attributes : List (Attribute V)} :
    readSlots scalars (slot :: slots) d = .ok (attributes, rest) ↔
      ∃ first more, attributes = first :: more ∧ readSlot scalars slot d = .ok first ∧
        readSlots scalars slots (d.erase slot.key) = .ok (more, rest) := by
  rw [readSlots, except_bind_ok_iff]
  constructor
  · rintro ⟨first, hfirst, h⟩
    obtain ⟨⟨more, rest'⟩, hmore, h⟩ := except_bind_ok_iff.mp h
    cases h
    exact ⟨first, more, rfl, hfirst, hmore⟩
  · rintro ⟨first, more, rfl, hfirst, hmore⟩
    exact ⟨first, hfirst, except_bind_ok_iff.mpr ⟨(more, rest), hmore, rfl⟩⟩

theorem readSlots_keys {slots : List (Slot ι)} : ∀ {d rest : Dict String Json}
    {attributes : List (Attribute V)}, readSlots scalars slots d = .ok (attributes, rest) →
      attributes.map Attribute.key = slots.map Slot.key := by
  induction slots with
  | nil =>
      intro d rest attributes h
      cases h
      rfl
  | cons slot slots ih =>
      intro d rest attributes h
      obtain ⟨first, more, rfl, hfirst, hmore⟩ := readSlots_cons.mp h
      rw [List.map_cons, List.map_cons, readSlot_key hfirst, ih hmore]

/-- What is left has what stood under the other keys. -/
theorem readSlots_rest {slots : List (Slot ι)} (key : String) : ∀ {d rest : Dict String Json}
    {attributes : List (Attribute V)}, readSlots scalars slots d = .ok (attributes, rest) →
      rest.get? key = if key ∈ slots.map Slot.key then none else d.get? key := by
  induction slots with
  | nil =>
      intro d rest attributes h
      cases h
      simp
  | cons slot slots ih =>
      intro d rest attributes h
      obtain ⟨first, more, rfl, -, hmore⟩ := readSlots_cons.mp h
      rw [ih hmore, Dict.get?_erase]
      by_cases hkey : slot.key = key
      · simp [hkey]
      · simp [hkey, Ne.symm hkey]

theorem writeAttribute_keys (first : Attribute V) :
    ∀ p ∈ writeAttribute scalars first, p.1 = first.key := by
  intro p hp
  cases first with
  | set key value =>
      obtain rfl := List.mem_singleton.mp hp
      rfl
  | unset key => cases hp

theorem writeAttributes_keys (attributes : List (Attribute V)) :
    ((writeAttributes scalars attributes).map Prod.fst).Sublist
      (attributes.map Attribute.key) := by
  induction attributes with
  | nil => exact List.Sublist.slnil
  | cons first rest ih =>
      rw [writeAttributes, List.map_append, List.map_cons]
      cases first with
      | set key value => exact ih.cons_cons key
      | unset key => exact ih.cons key

/-- An attribute that reads back is read in a dict with nothing else under its key. -/
theorem readSlot_write {slot : Slot ι} {d d' : Dict String Json} {first : Attribute V}
    (hkind : ∀ x v, slot.kind.read scalars x = .ok v →
      slot.kind.read scalars (v.write scalars) = .ok v)
    (h : readSlot scalars slot d = .ok first)
    (hd' : d'.get? slot.key = (writeAttribute scalars first).head?.map Prod.snd) :
    readSlot scalars slot d' = .ok first := by
  rw [readSlot_ok_iff] at h ⊢
  rcases h with ⟨-, hmissing⟩ | ⟨x, v, -, hv, rfl⟩
  · rw [missing_ok hmissing] at hd'
    exact .inl ⟨hd', hmissing⟩
  · exact .inr ⟨v.write scalars, v, hd', hkind x v hv, rfl⟩

/-- The attributes of a record are read back from behind what is left. -/
theorem readSlots_write {slots : List (Slot ι)}
    (hkinds : ∀ slot ∈ slots, ∀ x v, slot.kind.read scalars x = .ok v →
      slot.kind.read scalars (v.write scalars) = .ok v)
    (hnodup : (slots.map Slot.key).Nodup) :
    ∀ {d d' rest left : Dict String Json} {attributes : List (Attribute V)},
      readSlots scalars slots d = .ok (attributes, left) →
      (∀ slot ∈ slots, slot.key ∉ rest.keys) →
      d'.entries = rest.entries ++ writeAttributes scalars attributes →
      readSlots scalars slots d' = .ok (attributes, rest) := by
  induction slots with
  | nil =>
      intro d d' rest left attributes h _ hd'
      cases h
      rw [writeAttributes, List.append_nil] at hd'
      rw [Dict.ext_entries hd']
      rfl
  | cons slot slots ih =>
      intro d d' rest left attributes h hrest hd'
      obtain ⟨first, more, rfl, hfirst, hmore⟩ := readSlots_cons.mp h
      obtain ⟨hkind, hkinds⟩ := List.forall_mem_cons.mp hkinds
      obtain ⟨hslot, hrest⟩ := List.forall_mem_cons.mp hrest
      rw [List.map_cons, List.nodup_cons] at hnodup
      rw [writeAttributes] at hd'
      have hkey := readSlot_key hfirst
      have hlater : slot.key ∉ (writeAttributes scalars more).map Prod.fst := by
        intro hmem
        refine hnodup.1 ?_
        rw [← readSlots_keys hmore]
        exact (writeAttributes_keys more).subset hmem
      have hget : d'.get? slot.key = (writeAttribute scalars first).head?.map Prod.snd := by
        cases first with
        | set key value =>
            refine (Dict.mem_entries_iff d').mp ?_
            rw [hd', ← hkey]
            simp [writeAttribute, Attribute.key]
        | unset key =>
            show _ = none
            rw [← Option.not_isSome_iff_eq_none, ← Dict.mem_keys_iff]
            show slot.key ∉ d'.entries.map Prod.fst
            rw [hd', List.map_append, List.mem_append]
            exact not_or.mpr ⟨hslot, hlater⟩
      refine readSlots_cons.mpr ⟨first, more, rfl, readSlot_write hkind hfirst hget, ?_⟩
      refine ih hkinds hnodup.2 hmore hrest ?_
      refine erase_entries_of_append hd' hslot ?_ hlater
      intro p hp
      rw [writeAttribute_keys first p hp, hkey]

theorem not_null_of_admits {kind : Kind ι} {x : Json} (h : kind.admits x = true) : x ≠ .null := by
  rintro rfl
  cases kind <;> cases h

theorem read_scalar {i : ι} {x : Json} {v : Datum V}
    (h : (Kind.scalar i).read scalars x = .ok v) :
    ∃ w, v = .scalar w ∧ scalars.read i x = .ok w := by
  rw [Kind.read] at h
  cases hread : scalars.read i x with
  | error e =>
      rw [hread] at h
      cases h
  | ok w =>
      rw [hread] at h
      cases h
      exact ⟨w, rfl, rfl⟩

/-- A lenient attribute is read, or stays as it is. -/
theorem read_lenient {kind : Kind ι} {x : Json} {v : Datum V}
    (h : (Kind.lenient kind).read scalars x = .ok v) :
    v = .raw x ∨ kind.admits x = true ∧ kind.read scalars x = .ok v := by
  rw [Kind.read] at h
  split at h
  · rename_i hadmits
    cases hread : kind.read scalars x with
    | ok w =>
        rw [hread] at h
        cases h
        exact .inr ⟨hadmits, rfl⟩
    | error e =>
        rw [hread] at h
        dsimp only at h
        split at h
        · cases h
          exact .inl rfl
        · cases h
  · cases h
    exact .inl rfl

theorem read_lenient_of_ok {kind : Kind ι} {x : Json} {v : Datum V}
    (hadmits : kind.admits x = true) (h : kind.read scalars x = .ok v) :
    (Kind.lenient kind).read scalars x = .ok v := by
  rw [Kind.read, if_pos hadmits, h]

theorem read_listOf {item : Kind ι} {x : Json} {v : Datum V}
    (h : (Kind.listOf item).read scalars x = .ok v) :
    ∃ items values, x.iter = .ok items ∧
      List.Forall₂ (fun x v => item.read scalars x = .ok v) items values ∧ v = .list values := by
  rw [Kind.read] at h
  obtain ⟨items, hitems, h⟩ := except_bind_ok_iff.mp h
  obtain ⟨values, hvalues, h⟩ := except_bind_ok_iff.mp h
  cases h
  exact ⟨items, values, hitems, except_mapM_ok_iff.mp hvalues, rfl⟩

theorem read_record {slots : List (Slot ι)} {x : Json} {v : Datum V}
    (h : (Kind.record slots).read scalars x = .ok v) :
    ∃ d attributes left, x.asDict = .ok d ∧
      readSlots scalars slots d = .ok (attributes, left) ∧ v = .record attributes left := by
  rw [Kind.read] at h
  obtain ⟨d, hd, h⟩ := except_bind_ok_iff.mp h
  obtain ⟨⟨attributes, left⟩, hslots, h⟩ := except_bind_ok_iff.mp h
  cases h
  exact ⟨d, attributes, left, hd, hslots, rfl⟩

theorem admits_write {kind : Kind ι} : ∀ {x : Json} {v : Datum V},
    kind.read scalars x = .ok v → kind.admits x = true → kind.admits (v.write scalars) = true := by
  induction kind using Kind.tree_induction with
  | plain =>
      intro x v h hx
      cases h
      exact hx
  | scalar i =>
      intro x v h _
      obtain ⟨w, rfl, -⟩ := read_scalar h
      rfl
  | lenient kind ih =>
      intro x v h hx
      rcases read_lenient h with rfl | ⟨hadmits, hread⟩
      · exact hx
      · have hne := not_null_of_admits (ih hread hadmits)
        cases hwrite : v.write scalars with
        | null => exact absurd hwrite hne
        | _ => rfl
  | listOf item ih =>
      intro x v h _
      obtain ⟨items, values, -, -, rfl⟩ := read_listOf h
      rfl
  | record slots ih =>
      intro x v h _
      obtain ⟨d, attributes, left, -, -, rfl⟩ := read_record h
      rfl

/-- The dict a record is written to. -/
theorem written_entries {slots : List (Slot ι)} {d left : Dict String Json}
    {attributes : List (Attribute V)} (hnodup : (slots.map Slot.key).Nodup)
    (h : readSlots scalars slots d = .ok (attributes, left)) :
    ((writeAttributes scalars attributes).foldl (fun d p => d.set p.1 p.2) left).entries =
      left.entries ++ writeAttributes scalars attributes := by
  have hkeys : ((writeAttributes scalars attributes).map Prod.fst).Sublist
      (slots.map Slot.key) := by
    rw [← readSlots_keys h]
    exact writeAttributes_keys attributes
  refine entries_foldl_set ?_
  rw [List.map_append, List.nodup_append]
  refine ⟨left.nodup, hkeys.nodup hnodup, ?_⟩
  intro key hleft key' hwritten
  rintro rfl
  have hsome := left.mem_keys_iff.mp hleft
  rw [readSlots_rest key h, if_pos (hkeys.subset hwritten)] at hsome
  cases hsome

/-- **What was written reads back** as what it was written from. -/
theorem Kind.read_write {kind : Kind ι} (hkind : kind.distinct = true) :
    ∀ {x : Json} {v : Datum V}, kind.read scalars x = .ok v →
      kind.read scalars (v.write scalars) = .ok v := by
  induction kind using Kind.tree_induction with
  | plain =>
      intro x v h
      cases h
      rfl
  | scalar i =>
      intro x v h
      obtain ⟨w, rfl, hread⟩ := read_scalar h
      rw [Kind.read, Datum.write, scalars.read_write i x w hread]
      rfl
  | lenient kind ih =>
      intro x v h
      rw [Kind.distinct] at hkind
      rcases read_lenient h with rfl | ⟨hadmits, hread⟩
      · exact h
      · exact read_lenient_of_ok (admits_write hread hadmits) (ih hkind hread)
  | listOf item ih =>
      intro x v h
      rw [Kind.distinct] at hkind
      obtain ⟨items, values, -, hvalues, rfl⟩ := read_listOf h
      have hback : (values.map (Datum.write scalars)).mapM (item.read scalars) = .ok values := by
        rw [except_mapM_ok_iff, List.forall₂_map_left_iff]
        refine List.forall₂_same.mpr fun value hvalue => ?_
        obtain ⟨x, -, hx⟩ := forall₂_mem_right hvalues hvalue
        exact ih hkind hx
      rw [Kind.read, Datum.write, writeItems_eq]
      exact except_bind_ok_iff.mpr ⟨_, rfl, except_bind_ok_iff.mpr ⟨_, hback, rfl⟩⟩
  | record slots ih =>
      intro x v h
      rw [Kind.distinct, Bool.and_eq_true, decide_eq_true_eq, distinctSlots_eq,
        List.all_eq_true] at hkind
      obtain ⟨hnodup, hkinds⟩ := hkind
      obtain ⟨d, attributes, left, -, hslots, rfl⟩ := read_record h
      have hleft : ∀ slot ∈ slots, slot.key ∉ left.keys := by
        intro slot hslot
        rw [left.mem_keys_iff, readSlots_rest slot.key hslots,
          if_pos (List.mem_map_of_mem hslot)]
        decide
      have hback := readSlots_write (fun slot hslot x v => ih slot hslot (hkinds slot hslot))
        hnodup hslots hleft (written_entries hnodup hslots)
      rw [Kind.read, Datum.write]
      refine except_bind_ok_iff.mpr
        ⟨_, rfl, except_bind_ok_iff.mpr ⟨(attributes, left), ?_, rfl⟩⟩
      rw [Dict.ofPairs_entries]
      exact hback

/-- With distinct keys, every attribute is read from the whole dict. -/
theorem readSlots_forall₂ {slots : List (Slot ι)} : (slots.map Slot.key).Nodup →
    ∀ {d rest : Dict String Json} {attributes : List (Attribute V)},
      readSlots scalars slots d = .ok (attributes, rest) →
      List.Forall₂ (fun slot first => readSlot scalars slot d = .ok first) slots attributes := by
  induction slots with
  | nil =>
      intro _ d rest attributes h
      cases h
      exact .nil
  | cons slot slots ih =>
      intro hnodup d rest attributes h
      rw [List.map_cons, List.nodup_cons] at hnodup
      obtain ⟨first, more, rfl, hfirst, hmore⟩ := readSlots_cons.mp h
      have hlater := (List.forall₂_and_left slots more).mpr ⟨fun _ h => h, ih hnodup.2 hmore⟩
      refine .cons hfirst (hlater.imp ?_)
      rintro other shown ⟨hother, hread⟩
      have hne : slot.key ≠ other.key := by
        intro heq
        rw [heq] at hnodup
        exact hnodup.1 (List.mem_map_of_mem hother)
      rwa [readSlot_eq, Dict.get?_erase, if_neg hne, ← readSlot_eq] at hread

/-- What is kept as it stands is written as it stood. -/
theorem get?_written {slots : List (Slot ι)} {d d' left : Dict String Json}
    {attributes : List (Attribute V)} (hnodup : (slots.map Slot.key).Nodup)
    (h : readSlots scalars slots d = .ok (attributes, left))
    (hd' : d'.entries = left.entries ++ writeAttributes scalars attributes) {key : String}
    (hkey : ∀ slot ∈ slots, slot.key = key → slot.kind = .plain) :
    d'.get? key = d.get? key := by
  have hread := readSlots_forall₂ hnodup h
  have hattribute : ∀ x, (key, x) ∈ writeAttributes scalars attributes ↔
      key ∈ slots.map Slot.key ∧ d.get? key = some x := by
    intro x
    rw [writeAttributes_eq, List.mem_flatMap]
    constructor
    · rintro ⟨first, hfirst, hmem⟩
      obtain ⟨slot, hslot, hshown⟩ := forall₂_mem_right hread hfirst
      rcases readSlot_ok_iff.mp hshown with ⟨-, hmissing⟩ | ⟨y, v, hy, hv, rfl⟩
      · rw [missing_ok hmissing] at hmem
        cases hmem
      · obtain ⟨rfl, rfl⟩ := Prod.mk.inj (List.mem_singleton.mp hmem)
        rw [hkey slot hslot rfl] at hv
        cases hv
        exact ⟨List.mem_map_of_mem hslot, hy⟩
    · rintro ⟨hmem, hx⟩
      obtain ⟨slot, hslot, rfl⟩ := List.mem_map.mp hmem
      obtain ⟨first, hfirst, hshown⟩ := forall₂_mem_left hread hslot
      refine ⟨first, hfirst, ?_⟩
      rcases readSlot_ok_iff.mp hshown with ⟨hnone, -⟩ | ⟨y, v, hy, hv, rfl⟩
      · rw [hx] at hnone
        cases hnone
      · rw [hx] at hy
        cases hy
        rw [hkey slot hslot rfl] at hv
        cases hv
        exact List.mem_singleton.mpr rfl
  refine Option.ext fun x => ?_
  rw [← Dict.mem_entries_iff, hd', List.mem_append, hattribute, Dict.mem_entries_iff,
    readSlots_rest key h]
  by_cases hmem : key ∈ slots.map Slot.key
  · simp [hmem]
  · simp [hmem]

/-- The attribute of a key is what stands under it. -/
def Shows (scalars : Scalars ι V) (entries : List (String × Json)) (slot : Slot ι)
    (shown : Attribute V) : Prop :=
  ∃ x v, Dict.lookup entries slot.key = some x ∧ slot.kind.read scalars x = .ok v ∧
    shown = .set slot.key v

theorem readSlots_of_shows {entries : List (String × Json)} {slots : List (Slot ι)}
    {attributes : List (Attribute V)}
    (h : List.Forall₂ (Shows scalars entries) slots attributes) :
    (slots.map Slot.key).Nodup → ∀ {d : Dict String Json},
      (∀ slot ∈ slots, d.get? slot.key = Dict.lookup entries slot.key) →
      (∀ key ∈ d.keys, key ∈ slots.map Slot.key) →
      readSlots scalars slots d = .ok (attributes, Dict.empty) := by
  induction h with
  | nil =>
      intro _ d _ hkeys
      have hempty : d.entries = [] := by
        refine List.eq_nil_iff_forall_not_mem.mpr fun p hp => ?_
        exact absurd (hkeys p.1 (List.mem_map_of_mem hp)) List.not_mem_nil
      rw [show d = Dict.empty from Dict.ext_entries hempty]
      rfl
  | @cons slot shown slots attributes hshows hrest ih =>
      intro hnodup d hget hkeys
      obtain ⟨x, v, hx, hv, rfl⟩ := hshows
      obtain ⟨hslot, hget⟩ := List.forall_mem_cons.mp hget
      rw [List.map_cons, List.nodup_cons] at hnodup
      refine readSlots_cons.mpr ⟨_, _, rfl,
        readSlot_ok_iff.mpr (.inr ⟨x, v, hslot.trans hx, hv, rfl⟩), ih hnodup.2 ?_ ?_⟩
      · intro other hother
        have hne : slot.key ≠ other.key := by
          intro heq
          rw [heq] at hnodup
          exact hnodup.1 (List.mem_map_of_mem hother)
        rw [Dict.get?_erase, if_neg hne, hget other hother]
      · intro key hkey
        rw [Dict.mem_keys_iff, Dict.get?_erase] at hkey
        split at hkey
        · cases hkey
        · rename_i hne
          have hmem := hkeys key (d.mem_keys_iff.mpr hkey)
          rw [List.map_cons, List.mem_cons] at hmem
          exact hmem.resolve_left fun heq => hne heq.symm

/-- A record is read from entries of just its keys, in any order. -/
theorem read_record_of_shows {entries : List (String × Json)} {slots : List (Slot ι)}
    {attributes : List (Attribute V)} (hnodup : (slots.map Slot.key).Nodup)
    (hperm : (entries.map Prod.fst).Perm (slots.map Slot.key))
    (h : List.Forall₂ (Shows scalars entries) slots attributes) :
    (Kind.record slots).read scalars (.obj entries) = .ok (.record attributes Dict.empty) := by
  have hdistinct : (entries.map Prod.fst).Nodup := hperm.nodup_iff.mpr hnodup
  have hdict : Dict.ofPairs entries = ⟨entries, hdistinct⟩ := Dict.ofPairs_entries ⟨_, hdistinct⟩
  have hslots : readSlots scalars slots ⟨entries, hdistinct⟩ = .ok (attributes, Dict.empty) :=
    readSlots_of_shows h hnodup (fun _ _ => rfl) fun key hkey => hperm.subset hkey
  rw [Kind.read]
  refine except_bind_ok_iff.mpr
    ⟨_, rfl, except_bind_ok_iff.mpr ⟨(attributes, Dict.empty), ?_, rfl⟩⟩
  rw [hdict]
  exact hslots

theorem read_listOf_of_ok {α : Type} {item : Kind ι} {body : α → Json} {value : α → Datum V}
    (h : ∀ a, item.read scalars (body a) = .ok (value a)) (l : List α) :
    (Kind.listOf item).read scalars (.arr (l.map body)) = .ok (.list (l.map value)) := by
  have hitems : (l.map body).mapM (item.read scalars) = .ok (l.map value) := by
    rw [except_mapM_ok_iff, List.forall₂_map_left_iff, List.forall₂_map_right_iff]
    exact List.forall₂_same.mpr fun a _ => h a
  rw [Kind.read]
  exact except_bind_ok_iff.mpr ⟨_, rfl, except_bind_ok_iff.mpr ⟨_, hitems, rfl⟩⟩

/-- A record without keys keeps a dict as it is. -/
theorem read_anything (d : Dict String Json) :
    (Kind.record []).read scalars (.obj d.entries) = .ok (.record [] d) := by
  rw [Kind.read]
  refine except_bind_ok_iff.mpr ⟨d, congrArg Except.ok (Dict.ofPairs_entries d), rfl⟩

/-! ### What is not known -/

theorem pruneSlot_eq (slot : Slot ι) (d : Dict String Json) :
    pruneSlot scalars slot d =
      (d.get? slot.key).toList.map fun x => (slot.key, slot.kind.prune scalars x) := by
  cases slot <;> rfl

theorem prune_ne_null {kind : Kind ι} : ∀ {x : Json}, x ≠ .null →
    kind.prune scalars x ≠ .null := by
  induction kind using Kind.tree_induction with
  | plain => exact id
  | scalar i => exact id
  | lenient kind ih =>
      intro x hx
      rw [Kind.prune]
      split
      · exact ih hx
      · exact hx
  | listOf item ih =>
      intro x hx
      rw [Kind.prune]
      split
      · exact fun h => by cases h
      · exact hx
  | record slots ih =>
      intro x hx
      rw [Kind.prune]
      split
      · exact fun h => by cases h
      · exact hx

theorem admits_prune {kind : Kind ι} {x : Json} (h : kind.admits x = true) :
    kind.admits (kind.prune scalars x) = true := by
  have hne : kind.prune scalars x ≠ .null := prune_ne_null (not_null_of_admits h)
  cases kind with
  | plain => exact h
  | scalar i => exact h
  | lenient kind =>
      generalize (Kind.lenient kind).prune scalars x = y at hne
      cases y with
      | null => exact absurd rfl hne
      | _ => rfl
  | listOf item =>
      generalize (Kind.listOf item).prune scalars x = y at hne
      cases y with
      | null => exact absurd rfl hne
      | _ => rfl
  | record slots =>
      rw [Kind.prune]
      split
      · rfl
      · exact h

theorem pruneSlots_keys (slots : List (Slot ι)) : ∀ d : Dict String Json,
    ∀ p ∈ pruneSlots scalars slots d, p.1 ∈ slots.map Slot.key := by
  induction slots with
  | nil =>
      intro d p hp
      cases hp
  | cons slot slots ih =>
      intro d p hp
      rw [pruneSlots, pruneSlot_eq, List.mem_append] at hp
      rw [List.map_cons]
      rcases hp with hp | hp
      · obtain ⟨x, -, rfl⟩ := List.mem_map.mp hp
        exact List.mem_cons_self
      · exact List.mem_cons_of_mem _ (ih _ p hp)

theorem pruneSlots_nodup (slots : List (Slot ι)) : (slots.map Slot.key).Nodup →
    ∀ d : Dict String Json, ((pruneSlots scalars slots d).map Prod.fst).Nodup := by
  induction slots with
  | nil =>
      intro _ d
      exact List.nodup_nil
  | cons slot slots ih =>
      intro hnodup d
      rw [List.map_cons, List.nodup_cons] at hnodup
      rw [pruneSlots, pruneSlot_eq, List.map_append]
      have hlater := ih hnodup.2 (d.erase slot.key)
      cases d.get? slot.key with
      | none => simpa using hlater
      | some x =>
          refine List.nodup_cons.mpr ⟨?_, hlater⟩
          intro hmem
          obtain ⟨p, hp, hkey⟩ := List.mem_map.mp hmem
          refine hnodup.1 ?_
          rw [← show p.1 = slot.key from hkey]
          exact pruneSlots_keys slots _ p hp

/-- An attribute is read from the pruned value as from the whole one. -/
theorem readSlot_prune {slot : Slot ι} {d d' : Dict String Json}
    (hkind : ∀ x, slot.kind.read scalars (slot.kind.prune scalars x) =
      (slot.kind.read scalars x).map Datum.known)
    (hd' : d'.get? slot.key = (d.get? slot.key).map (slot.kind.prune scalars)) :
    readSlot scalars slot d' = (readSlot scalars slot d).map knownAttribute := by
  rw [readSlot_eq, readSlot_eq, hd']
  cases d.get? slot.key with
  | none => cases slot <;> rfl
  | some x =>
      simp only [Option.map_some, Option.elim, hkind]
      cases slot.kind.read scalars x <;> rfl

/-- The slots of a pruned record read as those of the record, with nothing left. -/
theorem readSlots_prune {slots : List (Slot ι)}
    (hkinds : ∀ slot ∈ slots, ∀ x,
      slot.kind.read scalars (slot.kind.prune scalars x) =
        (slot.kind.read scalars x).map Datum.known)
    (hnodup : (slots.map Slot.key).Nodup) : ∀ {d d' : Dict String Json},
    d'.entries = pruneSlots scalars slots d →
    readSlots scalars slots d' = (readSlots scalars slots d).map
      fun result => (result.1.map knownAttribute, Dict.empty) := by
  induction slots with
  | nil =>
      intro d d' hd'
      have hempty : d' = Dict.empty := Dict.ext_entries hd'
      rw [hempty]
      rfl
  | cons slot slots ih =>
      intro d d' hd'
      obtain ⟨hkind, hkinds⟩ := List.forall_mem_cons.mp hkinds
      rw [List.map_cons, List.nodup_cons] at hnodup
      rw [pruneSlots, pruneSlot_eq] at hd'
      have hlater : slot.key ∉ (pruneSlots scalars slots (d.erase slot.key)).map Prod.fst := by
        intro hmem
        obtain ⟨p, hp, hkey⟩ := List.mem_map.mp hmem
        exact hnodup.1 (hkey ▸ pruneSlots_keys slots _ p hp)
      have hget : d'.get? slot.key = (d.get? slot.key).map (slot.kind.prune scalars) := by
        cases hx : d.get? slot.key with
        | none =>
            rw [Option.map_none, ← Option.not_isSome_iff_eq_none, ← Dict.mem_keys_iff]
            show slot.key ∉ d'.entries.map Prod.fst
            rw [hd', hx]
            exact hlater
        | some x =>
            refine (Dict.mem_entries_iff d').mp ?_
            rw [hd', hx]
            exact List.mem_cons_self
      have herase :
          (d'.erase slot.key).entries = pruneSlots scalars slots (d.erase slot.key) :=
        @erase_entries_of_append d' Dict.empty slot.key _ _ hd' List.not_mem_nil (by simp) hlater
      rw [readSlots, readSlots, readSlot_prune hkind hget, ih hkinds hnodup.2 herase]
      cases readSlot scalars slot d with
      | error e => rfl
      | ok first =>
          cases readSlots scalars slots (d.erase slot.key) with
          | error e => rfl
          | ok result => rfl

theorem mapM_map_of_commute {α β ε : Type} {f : α → Except ε β} {g : α → α} {k : β → β}
    (h : ∀ a, f (g a) = (f a).map k) (l : List α) :
    (l.map g).mapM f = (l.mapM f).map (List.map k) := by
  induction l with
  | nil => rfl
  | cons a l ih =>
      rw [List.map_cons, List.mapM_cons, List.mapM_cons, h, ih]
      cases f a with
      | error e => rfl
      | ok b =>
          cases l.mapM f with
          | error e => rfl
          | ok bs => rfl

theorem knownAttributes_eq (attributes : List (Attribute V)) :
    knownAttributes attributes = attributes.map knownAttribute := by
  induction attributes with
  | nil => rfl
  | cons first rest ih => rw [knownAttributes, ih, List.map_cons]

/-- **What no record knows changes nothing** of what is read. -/
theorem Kind.read_prune {kind : Kind ι} (hkind : kind.distinct = true) :
    ∀ x : Json, kind.read scalars (kind.prune scalars x) =
      (kind.read scalars x).map Datum.known := by
  induction kind using Kind.tree_induction with
  | plain =>
      intro x
      rfl
  | scalar i =>
      intro x
      rw [Kind.prune, Kind.read]
      cases scalars.read i x <;> rfl
  | lenient kind ih =>
      intro x
      rw [Kind.distinct] at hkind
      rw [Kind.prune]
      split
      · rename_i h
        obtain ⟨hadmits, hok⟩ := Bool.and_eq_true_iff.mp h
        rw [Kind.read, Kind.read, if_pos (admits_prune hadmits), if_pos hadmits, ih hkind]
        cases hread : kind.read scalars x with
        | error e =>
            rw [hread] at hok
            cases hok
        | ok v => rfl
      · rename_i h
        rw [Kind.read]
        split
        · rename_i hadmits
          cases hread : kind.read scalars x with
          | error e =>
              dsimp only
              split
              · rfl
              · rfl
          | ok v =>
              rw [hadmits, hread] at h
              exact absurd rfl h
        · rfl
  | listOf item ih =>
      intro x
      rw [Kind.distinct] at hkind
      rw [Kind.prune, Kind.read, Kind.read]
      cases hiter : x.iter with
      | error e =>
          dsimp only
          rw [hiter]
          rfl
      | ok items =>
          dsimp only
          show ((items.map (item.prune scalars)).mapM (item.read scalars) >>= _) = _
          rw [mapM_map_of_commute (ih hkind)]
          show _ = ((items.mapM (item.read scalars)) >>= _).map Datum.known
          cases items.mapM (item.read scalars) with
          | error e => rfl
          | ok values =>
              show Except.ok (Datum.list (values.map Datum.known)) = .ok (.list (knownItems values))
              rw [knownItems_eq]
  | record slots ih =>
      intro x
      rw [Kind.distinct, Bool.and_eq_true, decide_eq_true_eq, distinctSlots_eq,
        List.all_eq_true] at hkind
      obtain ⟨hnodup, hkinds⟩ := hkind
      rw [Kind.prune, Kind.read, Kind.read]
      cases hdict : x.asDict with
      | error e =>
          dsimp only
          rw [hdict]
          rfl
      | ok d =>
          let pruned : Dict String Json :=
            ⟨pruneSlots scalars slots d, pruneSlots_nodup slots hnodup d⟩
          have hpruned : Dict.ofPairs (pruneSlots scalars slots d) = pruned :=
            Dict.ofPairs_entries pruned
          have hslots := readSlots_prune
            (fun slot hslot => ih slot hslot (hkinds slot hslot)) hnodup
            (show pruned.entries = pruneSlots scalars slots d from rfl)
          dsimp only
          show (readSlots scalars slots (Dict.ofPairs (pruneSlots scalars slots d)) >>= _) = _
          rw [hpruned, hslots]
          show _ = ((readSlots scalars slots d) >>= _).map Datum.known
          cases readSlots scalars slots d with
          | error e => rfl
          | ok result =>
              show Except.ok (Datum.record (result.1.map knownAttribute) Dict.empty) =
                .ok (.record (knownAttributes result.1) Dict.empty)
              rw [knownAttributes_eq]

end Laws

end Codec

end GaiaOS
