/-
Paths into JSON values.

A path leads from object to entry and from list to item.  `shape` is what is seen of a value
without looking into its parts: a value at every path with its shape is the whole tree
(`eq_of_shapes`).  Keys dropped at any depth are followed along paths: one through a dropped key
leads nowhere any more, and every other leads to what was there, with its own keys dropped.
-/
import GaiaOS.Lib.JsonTree
import Mathlib.Data.List.Nodup

namespace GaiaOS

namespace Json

/-- One step of a path. -/
inductive Step
  | key (name : String)
  | index (i : Nat)
  deriving DecidableEq

def child? : Json → Step → Option Json
  | .obj entries, .key key => field? entries key
  | .arr items, .index i => items[i]?
  | _, _ => none

/-- What a path leads to. -/
def at? (x : Json) : List Step → Option Json
  | [] => some x
  | step :: path => (x.child? step).bind fun child => child.at? path

/-- A value without its parts. -/
inductive Shape
  | leaf (x : Json)
  | arr (length : Nat)
  | obj (keys : List String)

def shape : Json → Shape
  | .arr items => .arr items.length
  | .obj entries => .obj (entries.map (·.1))
  | x => .leaf x

/-- The shape without some keys. -/
def Shape.without (p : String → Bool) : Shape → Shape
  | .obj keys => .obj (keys.filter fun key => !p key)
  | shape => shape

/-- The key is one of an object somewhere in the value. -/
inductive Occurs (key : String) : Json → Prop
  | here {entries : List (String × Json)} (value : Json) (h : (key, value) ∈ entries) :
      Occurs key (.obj entries)
  | entry {entries : List (String × Json)} {entry : String × Json} (hmem : entry ∈ entries)
      (h : Occurs key entry.2) : Occurs key (.obj entries)
  | item {items : List Json} {item : Json} (hmem : item ∈ items) (h : Occurs key item) :
      Occurs key (.arr items)

variable {p : String → Bool} {x : Json} {items : List Json} {entries : List (String × Json)}

theorem dropKeys_of_isLeaf (h : x.isLeaf = true) : dropKeys p x = x := fold_of_isLeaf _ h

theorem child?_of_isLeaf (h : x.isLeaf = true) (step : Step) : x.child? step = none := by
  cases x with
  | arr items => cases h
  | obj entries => cases h
  | _ => rfl

theorem shape_of_isLeaf (h : x.isLeaf = true) : x.shape = .leaf x := by
  cases x with
  | arr items => cases h
  | obj entries => cases h
  | _ => rfl

/-! ### A value and its shapes -/

/-- No object in the value has a key twice. -/
def Distinct (x : Json) : Prop :=
  ∀ path entries, x.at? path = some (.obj entries) → (entries.map (·.1)).Nodup

theorem Distinct.child {step : Step} {child : Json} (h : x.Distinct)
    (hchild : x.child? step = some child) : child.Distinct := by
  intro path entries hat
  refine h (step :: path) entries ?_
  rw [at?, hchild, Option.bind_some, hat]

theorem field?_of_nodup {key : String} {value : Json} (h : (entries.map (·.1)).Nodup)
    (hmem : (key, value) ∈ entries) : field? entries key = some value := by
  unfold field?
  cases hfind : entries.reverse.find? fun entry => entry.1 == key with
  | none =>
      rw [List.find?_eq_none] at hfind
      exact absurd (beq_self_eq_true key) (hfind (key, value) (List.mem_reverse.mpr hmem))
  | some entry =>
      have hkey : entry.1 = key := by simpa using List.find?_some hfind
      have hentry : entry ∈ entries := List.mem_reverse.mp (List.mem_of_find?_eq_some hfind)
      obtain rfl : entry = (key, value) := List.inj_on_of_nodup_map h hentry hmem hkey
      rfl

/-- What two values with the same shapes have at a step has the same shapes. -/
theorem shapes_child {y cx cy : Json} {step : Step}
    (h : ∀ path, (x.at? path).map shape = (y.at? path).map shape)
    (hx : x.child? step = some cx) (hy : y.child? step = some cy) (path : List Step) :
    (cx.at? path).map shape = (cy.at? path).map shape := by
  have hstep := h (step :: path)
  rwa [at?, at?, hx, hy, Option.bind_some, Option.bind_some] at hstep

/-- **A value is known by its shape at every path.** -/
theorem eq_of_shapes {y : Json} (hdistinct : x.Distinct)
    (h : ∀ path, (x.at? path).map shape = (y.at? path).map shape) : x = y := by
  have hroot : x.shape = y.shape := Option.some.inj (h [])
  induction x using tree_induction generalizing y with
  | leaf x hleaf =>
      rw [shape_of_isLeaf hleaf] at hroot
      cases y with
      | arr items => cases hroot
      | obj entries => cases hroot
      | _ => exact Shape.leaf.inj hroot
  | arr items ih =>
      cases y with
      | arr items' =>
          have hlength : items.length = items'.length := Shape.arr.inj hroot
          congr 1
          refine List.ext_getElem hlength fun i hi hi' => ?_
          have hx : (Json.arr items).child? (.index i) = some items[i] :=
            List.getElem?_eq_getElem hi
          have hy : (Json.arr items').child? (.index i) = some items'[i] :=
            List.getElem?_eq_getElem hi'
          have hchild := shapes_child h hx hy
          exact ih _ (List.getElem_mem hi) (hdistinct.child hx) hchild
            (Option.some.inj (hchild []))
      | _ => cases hroot
  | obj entries ih =>
      cases y with
      | obj entries' =>
          have hkeys : entries.map (·.1) = entries'.map (·.1) := Shape.obj.inj hroot
          have hlength : entries.length = entries'.length := by
            simpa using congrArg List.length hkeys
          have hnodup : (entries.map (·.1)).Nodup := hdistinct [] entries rfl
          congr 1
          refine List.ext_getElem hlength fun i hi hi' => ?_
          have hkey : entries[i].1 = entries'[i].1 := by
            have hget := congrArg (·[i]?) hkeys
            simpa [hi, hi'] using hget
          have hx : (Json.obj entries).child? (.key entries[i].1) = some entries[i].2 :=
            field?_of_nodup hnodup (List.getElem_mem hi)
          have hy : (Json.obj entries').child? (.key entries[i].1) = some entries'[i].2 := by
            refine field?_of_nodup (hkeys ▸ hnodup) ?_
            rw [hkey]
            exact List.getElem_mem hi'
          have hchild := shapes_child h hx hy
          exact Prod.ext hkey (ih _ (List.getElem_mem hi) (hdistinct.child hx) hchild
            (Option.some.inj (hchild [])))
      | _ => cases hroot

/-! ### Dropped keys along paths -/

/-- The step is to a key. -/
def Step.through (p : String → Bool) : Step → Bool
  | .key name => p name
  | .index _ => false

theorem field?_dropKeys (p : String → Bool) (entries : List (String × Json)) (key : String) :
    field? ((entries.filter fun entry => !p entry.1).map
        fun entry => (entry.1, dropKeys p entry.2)) key =
      if p key then none else (field? entries key).map (dropKeys p) := by
  unfold field?
  rw [← List.map_reverse, ← List.filter_reverse, List.find?_map, List.find?_filter, Option.map_map,
    Option.map_map]
  by_cases hkey : p key = true
  · rw [if_pos hkey, Option.map_eq_none_iff, List.find?_eq_none]
    rintro entry - hfound
    obtain ⟨hkept, hsame⟩ := of_decide_eq_true hfound
    obtain rfl : entry.1 = key := beq_iff_eq.mp hsame
    simp [hkey] at hkept
  · have hpred : (fun entry : String × Json => decide ((!p entry.1) = true ∧
        (entry.1 == key) = true)) = fun entry => entry.1 == key := by
      funext entry
      by_cases hsame : entry.1 = key
      · simp [hsame, hkey]
      · simp [hsame]
    rw [if_neg hkey]
    exact congrArg (fun found => (entries.reverse.find? found).map
      fun entry => dropKeys p entry.2) hpred

theorem child?_dropKeys (p : String → Bool) (x : Json) (step : Step) :
    (dropKeys p x).child? step =
      if step.through p then none else (x.child? step).map (dropKeys p) := by
  cases x with
  | arr items =>
      rw [dropKeys_arr]
      cases step with
      | key key => simp [child?]
      | index i => exact List.getElem?_map
  | obj entries =>
      rw [dropKeys_obj]
      cases step with
      | key key => exact field?_dropKeys p entries key
      | index i => rfl
  | _ =>
      rw [dropKeys_of_isLeaf rfl, child?_of_isLeaf rfl]
      simp

/-- **What a path leads to once keys are dropped.** -/
theorem at?_dropKeys (p : String → Bool) (x : Json) (path : List Step) :
    (dropKeys p x).at? path =
      if path.any (Step.through p) then none else (x.at? path).map (dropKeys p) := by
  induction path generalizing x with
  | nil => rfl
  | cons step path ih =>
      rw [at?, at?, child?_dropKeys, List.any_cons]
      cases hthrough : step.through p with
      | true => rfl
      | false =>
          rw [Bool.false_or, if_neg Bool.false_ne_true, Option.bind_map]
          cases x.child? step with
          | none => simp
          | some child => exact ih child

/-- **The shape once keys are dropped**: the other keys are left, in order. -/
theorem shape_dropKeys (p : String → Bool) (x : Json) :
    (dropKeys p x).shape = x.shape.without p := by
  cases x with
  | arr items =>
      rw [dropKeys_arr]
      simp [shape, Shape.without]
  | obj entries =>
      rw [dropKeys_obj]
      simp [shape, Shape.without, List.filter_map, Function.comp_def]
  | _ =>
      rw [dropKeys_of_isLeaf rfl]
      rfl

theorem Distinct.dropKeys (p : String → Bool) (h : x.Distinct) : (dropKeys p x).Distinct := by
  intro path entries hat
  rw [at?_dropKeys] at hat
  split_ifs at hat
  obtain ⟨value, hvalue, hdropped⟩ := Option.map_eq_some_iff.mp hat
  have hkeys : (Shape.obj (entries.map (·.1))) = value.shape.without p := by
    rw [← shape_dropKeys, hdropped]
    rfl
  cases value with
  | obj original =>
      rw [Shape.obj.inj hkeys]
      exact (h path original hvalue).filter _
  | _ => cases hkeys

/-- None of the keys is left, at any depth. -/
theorem not_dropped_of_occurs {key : String} (h : (dropKeys p x).Occurs key) : p key = false := by
  induction x using tree_induction with
  | leaf x hleaf =>
      rw [dropKeys_of_isLeaf hleaf] at h
      cases h with
      | here => cases hleaf
      | entry => cases hleaf
      | item => cases hleaf
  | arr items ih =>
      rw [dropKeys_arr] at h
      cases h with
      | item hmem h =>
          obtain ⟨item, hitem, rfl⟩ := List.mem_map.mp hmem
          exact ih item hitem h
  | obj entries ih =>
      rw [dropKeys_obj] at h
      cases h with
      | here value hmem =>
          obtain ⟨entry, hentry, heq⟩ := List.mem_map.mp hmem
          obtain rfl := (Prod.mk.inj heq).1
          simpa using (List.mem_filter.mp hentry).2
      | entry hmem h =>
          obtain ⟨entry, hentry, rfl⟩ := List.mem_map.mp hmem
          exact ih entry (List.mem_filter.mp hentry).1 h

/-- Where none of the keys occurs, nothing is dropped. -/
theorem dropKeys_eq_self (h : ∀ key, x.Occurs key → p key = false) : dropKeys p x = x := by
  induction x using tree_induction with
  | leaf x hleaf => exact dropKeys_of_isLeaf hleaf
  | arr items ih =>
      rw [dropKeys_arr]
      congr 1
      refine (List.map_congr_left fun item hitem => ?_).trans (List.map_id items)
      exact ih item hitem fun key hkey => h key (.item hitem hkey)
  | obj entries ih =>
      rw [dropKeys_obj, List.filter_eq_self.mpr]
      · congr 1
        refine (List.map_congr_left fun entry hentry => ?_).trans (List.map_id entries)
        rw [ih entry hentry fun key hkey => h key (.entry hentry hkey)]
        rfl
      · intro entry hentry
        simpa using h entry.1 (.here entry.2 hentry)

/-- Dropping the keys once is enough. -/
theorem dropKeys_dropKeys (p : String → Bool) (x : Json) :
    dropKeys p (dropKeys p x) = dropKeys p x :=
  dropKeys_eq_self fun _ => not_dropped_of_occurs

end Json

end GaiaOS
