/-
JSON values as trees.

`Json.fold` is the one recursion: what to make of a value that has no parts, of a list, given what
its items came to, and of an object, given what its entries did.  Induction goes the same way.  The
functions code writes over a tree it knows nothing about are instances: keys dropped at any depth,
the values under some keys replaced, whether such a key occurs, and the text Python prints.
-/
import GaiaOS.Lib.Python

namespace GaiaOS

namespace Json

variable {α : Type}

/-- What to make of each kind of value. -/
structure Algebra (α : Type) where
  leaf : Json → α
  arr : List α → α
  obj : List (String × α) → α

mutual

def fold (algebra : Algebra α) : Json → α
  | .null => algebra.leaf .null
  | .bool b => algebra.leaf (.bool b)
  | .int n => algebra.leaf (.int n)
  | .float x => algebra.leaf (.float x)
  | .str s => algebra.leaf (.str s)
  | .arr items => algebra.arr (foldItems algebra items)
  | .obj entries => algebra.obj (foldEntries algebra entries)

def foldItems (algebra : Algebra α) : List Json → List α
  | [] => []
  | item :: items => fold algebra item :: foldItems algebra items

def foldEntries (algebra : Algebra α) : List (String × Json) → List (String × α)
  | [] => []
  | entry :: entries => foldEntry algebra entry :: foldEntries algebra entries

def foldEntry (algebra : Algebra α) : String × Json → String × α
  | (key, value) => (key, fold algebra value)

end

theorem fold_arr (algebra : Algebra α) (items : List Json) :
    fold algebra (.arr items) = algebra.arr (items.map (fold algebra)) := by
  rw [fold]
  congr 1
  induction items with
  | nil => rfl
  | cons item items ih => rw [foldItems, List.map_cons, ih]

theorem fold_obj (algebra : Algebra α) (entries : List (String × Json)) :
    fold algebra (.obj entries) =
      algebra.obj (entries.map fun entry => (entry.1, fold algebra entry.2)) := by
  rw [fold]
  congr 1
  induction entries with
  | nil => rfl
  | cons entry entries ih =>
      obtain ⟨key, value⟩ := entry
      rw [foldEntries, foldEntry, List.map_cons, ih]

/-- The value has no parts. -/
def isLeaf : Json → Bool
  | .arr _ => false
  | .obj _ => false
  | _ => true

theorem fold_of_isLeaf (algebra : Algebra α) {x : Json} (h : x.isLeaf = true) :
    fold algebra x = algebra.leaf x := by
  cases x with
  | arr items => cases h
  | obj entries => cases h
  | _ => rfl

/-- Induction over a value: its items and the values of its entries come first. -/
theorem tree_induction {P : Json → Prop} (leaf : ∀ x, x.isLeaf = true → P x)
    (arr : ∀ items, (∀ item ∈ items, P item) → P (.arr items))
    (obj : ∀ entries, (∀ entry ∈ entries, P entry.2) → P (.obj entries)) : ∀ x, P x :=
  @Json.rec P (fun items => ∀ item ∈ items, P item)
    (fun entries => ∀ entry ∈ entries, P entry.2) (fun entry => P entry.2) (leaf _ rfl)
    (fun _ => leaf _ rfl) (fun _ => leaf _ rfl) (fun _ => leaf _ rfl) (fun _ => leaf _ rfl) arr obj
    (by simp)
    (fun _ _ hitem hitems => List.forall_mem_cons.mpr ⟨hitem, hitems⟩) (by simp)
    (fun _ _ hentry hentries => List.forall_mem_cons.mpr ⟨hentry, hentries⟩)
    (fun _ _ hvalue => hvalue)

/-! ### Keys -/

section Keys

variable (p : String → Bool)

/-- The value without the entries under some keys, at any depth. -/
def dropKeys : Json → Json :=
  fold
    { leaf := id
      arr := .arr
      obj := fun entries => .obj (entries.filter fun entry => !p entry.1) }

/-- The value with another one under some keys, at any depth. -/
def fill (filler : Json) : Json → Json :=
  fold
    { leaf := id
      arr := .arr
      obj := fun entries =>
        .obj (entries.map fun entry => if p entry.1 then (entry.1, filler) else entry) }

/-- Such a key occurs at some depth. -/
def hasKey : Json → Bool :=
  fold
    { leaf := fun _ => false
      arr := fun items => items.any id
      obj := fun entries => entries.any fun entry => p entry.1 || entry.2 }

variable {p} {x filler : Json} {items : List Json} {entries : List (String × Json)}

theorem dropKeys_arr : dropKeys p (.arr items) = .arr (items.map (dropKeys p)) := fold_arr _ _

theorem dropKeys_obj :
    dropKeys p (.obj entries) =
      .obj ((entries.filter fun entry => !p entry.1).map
        fun entry => (entry.1, dropKeys p entry.2)) := by
  unfold dropKeys
  rw [fold_obj]
  simp only [List.filter_map]
  rfl

theorem fill_of_isLeaf (h : x.isLeaf = true) : fill p filler x = x := fold_of_isLeaf _ h

theorem fill_arr : fill p filler (.arr items) = .arr (items.map (fill p filler)) := fold_arr _ _

theorem fill_obj :
    fill p filler (.obj entries) =
      .obj (entries.map fun entry =>
        (entry.1, if p entry.1 then filler else fill p filler entry.2)) := by
  unfold fill
  rw [fold_obj]
  dsimp only
  rw [List.map_map]
  congr 2
  funext entry
  simp only [Function.comp]
  split_ifs
  all_goals rfl

theorem hasKey_of_isLeaf (h : x.isLeaf = true) : hasKey p x = false := fold_of_isLeaf _ h

theorem hasKey_arr : hasKey p (.arr items) = items.any (hasKey p) := by
  unfold hasKey
  rw [fold_arr]
  dsimp only
  rw [List.any_map]
  rfl

theorem hasKey_obj :
    hasKey p (.obj entries) = entries.any fun entry => p entry.1 || hasKey p entry.2 := by
  unfold hasKey
  rw [fold_obj]
  dsimp only
  rw [List.any_map]
  rfl

/-- What is dropped does not matter. -/
theorem dropKeys_fill (p : String → Bool) (filler x : Json) :
    dropKeys p (fill p filler x) = dropKeys p x := by
  induction x using tree_induction with
  | leaf x h => rw [fill_of_isLeaf h]
  | arr items ih =>
      rw [fill_arr, dropKeys_arr, dropKeys_arr, List.map_map, List.map_congr_left]
      exact ih
  | obj entries ih =>
      rw [fill_obj, dropKeys_obj, dropKeys_obj, List.filter_map, List.map_map]
      congr 1
      refine List.map_congr_left fun entry hentry => ?_
      obtain ⟨hmem, hkept⟩ := List.mem_filter.mp hentry
      have hkept : p entry.1 = false := by simpa using hkept
      simp [hkept, ih entry hmem]

/-- The later filling is the one that counts. -/
theorem fill_fill (p : String → Bool) (filler filler' x : Json) :
    fill p filler (fill p filler' x) = fill p filler x := by
  induction x using tree_induction with
  | leaf x h => rw [fill_of_isLeaf h]
  | arr items ih =>
      rw [fill_arr, fill_arr, fill_arr, List.map_map, List.map_congr_left]
      exact ih
  | obj entries ih =>
      rw [fill_obj, fill_obj, fill_obj, List.map_map]
      congr 1
      refine List.map_congr_left fun entry hentry => ?_
      by_cases hkey : p entry.1 = true
      · simp [hkey]
      · simp [hkey, ih entry hentry]

theorem any_congr_of_mem {β : Type} {l : List β} {f g : β → Bool} (h : ∀ a ∈ l, f a = g a) :
    l.any f = l.any g := by
  induction l with
  | nil => rfl
  | cons a l ih =>
      obtain ⟨ha, hl⟩ := List.forall_mem_cons.mp h
      rw [List.any_cons, List.any_cons, ha, ih hl]

theorem hasKey_fill_null (p : String → Bool) (x : Json) :
    hasKey p (fill p .null x) = hasKey p x := by
  induction x using tree_induction with
  | leaf x h => rw [fill_of_isLeaf h]
  | arr items ih =>
      rw [fill_arr, hasKey_arr, hasKey_arr, List.any_map]
      exact any_congr_of_mem ih
  | obj entries ih =>
      rw [fill_obj, hasKey_obj, hasKey_obj, List.any_map]
      refine any_congr_of_mem fun entry hentry => ?_
      by_cases hkey : p entry.1 = true
      · simp [hkey]
      · simp [hkey, ih entry hentry]

/-- Without such keys there is nothing to fill. -/
theorem fill_of_hasKey_false (filler : Json) (h : hasKey p x = false) : fill p filler x = x := by
  induction x using tree_induction with
  | leaf x hleaf => exact fill_of_isLeaf hleaf
  | arr items ih =>
      rw [hasKey_arr, List.any_eq_false] at h
      rw [fill_arr]
      congr 1
      refine (List.map_congr_left fun item hitem => ?_).trans (List.map_id items)
      exact ih item hitem (by simpa using h item hitem)
  | obj entries ih =>
      rw [hasKey_obj, List.any_eq_false] at h
      rw [fill_obj]
      congr 1
      refine (List.map_congr_left fun entry hentry => ?_).trans (List.map_id entries)
      have hnone := h entry hentry
      simp only [Bool.or_eq_true, not_or, Bool.not_eq_true] at hnone
      rw [ih entry hentry hnone.2, hnone.1]
      rfl

end Keys

/-! ### The text of a value -/

/-- What Python prints of texts and floats. -/
structure Reprs where
  str : String → String
  float : PyFloat → String

/-- `repr(x)`. -/
def pyRepr (reprs : Reprs) : Json → String :=
  fold
    { leaf := fun
        | .bool b => if b then "True" else "False"
        | .int n => toString n
        | .float x => reprs.float x
        | .str s => reprs.str s
        | _ => "None"
      arr := fun items => "[" ++ ", ".intercalate items ++ "]"
      obj := fun entries =>
        "\x7b" ++ ", ".intercalate (entries.map fun entry => reprs.str entry.1 ++ ": " ++ entry.2) ++
          "\x7d" }

theorem length_le_intercalate (separator : String) {text : String} {texts : List String}
    (h : text ∈ texts) :
    text.length ≤ (separator.intercalate texts).length := by
  induction texts with
  | nil => simp at h
  | cons first texts ih =>
      cases texts with
      | nil =>
          obtain rfl := List.mem_singleton.mp h
          rw [String.intercalate_singleton]
      | cons second texts =>
          rw [String.intercalate_cons_cons, String.length_append, String.length_append]
          rcases List.mem_cons.mp h with rfl | hrest
          · omega
          · have := ih hrest
            omega

theorem pyRepr_arr (reprs : Reprs) (items : List Json) :
    pyRepr reprs (.arr items) = "[" ++ ", ".intercalate (items.map (pyRepr reprs)) ++ "]" :=
  fold_arr _ _

theorem pyRepr_obj (reprs : Reprs) (entries : List (String × Json)) :
    pyRepr reprs (.obj entries) =
      "\x7b" ++ ", ".intercalate (entries.map fun entry =>
        reprs.str entry.1 ++ ": " ++ pyRepr reprs entry.2) ++ "\x7d" := by
  unfold pyRepr
  rw [fold_obj]
  dsimp only
  rw [List.map_map]
  rfl

theorem length_item_le (reprs : Reprs) {items : List Json} {item : Json} (h : item ∈ items) :
    (pyRepr reprs item).length ≤ (pyRepr reprs (.arr items)).length := by
  rw [pyRepr_arr, String.length_append, String.length_append]
  have := length_le_intercalate ", " (List.mem_map_of_mem (f := pyRepr reprs) h)
  omega

theorem length_entry_le (reprs : Reprs) {entries : List (String × Json)} {entry : String × Json}
    (h : entry ∈ entries) :
    (pyRepr reprs entry.2).length ≤ (pyRepr reprs (.obj entries)).length := by
  rw [pyRepr_obj, String.length_append, String.length_append]
  have := length_le_intercalate ", " (List.mem_map_of_mem
    (f := fun entry : String × Json => reprs.str entry.1 ++ ": " ++ pyRepr reprs entry.2) h)
  rw [String.length_append] at this
  omega

/-- A long list prints as a long text. -/
theorem le_length_replicate (reprs : Reprs) (n : Nat) :
    n ≤ (pyRepr reprs (.arr (List.replicate n .null))).length := by
  rw [pyRepr_arr, List.map_replicate]
  have hlong : ∀ n, n ≤ (", ".intercalate (List.replicate n (pyRepr reprs .null))).length := by
    intro n
    induction n with
    | zero => omega
    | succ n ih =>
        cases n with
        | zero =>
            rw [List.replicate_one, String.intercalate_singleton]
            show 1 ≤ "None".length
            decide
        | succ n =>
            rw [List.replicate_succ, List.replicate_succ, String.intercalate_cons_cons,
              String.length_append, String.length_append, ← List.replicate_succ]
            have : ", ".length = 2 := by decide
            omega
  have := hlong n
  rw [String.length_append, String.length_append]
  omega

/-- A value that is filled with a long list somewhere prints as a long text. -/
theorem le_length_fill (reprs : Reprs) {p : String → Bool} {x : Json} (h : hasKey p x = true)
    (n : Nat) : n ≤ (pyRepr reprs (fill p (.arr (List.replicate n .null)) x)).length := by
  induction x using tree_induction with
  | leaf x hleaf =>
      rw [hasKey_of_isLeaf hleaf] at h
      cases h
  | arr items ih =>
      rw [hasKey_arr, List.any_eq_true] at h
      obtain ⟨item, hitem, hkey⟩ := h
      rw [fill_arr]
      exact (ih item hitem hkey).trans (length_item_le reprs (List.mem_map_of_mem hitem))
  | obj entries ih =>
      rw [hasKey_obj, List.any_eq_true] at h
      obtain ⟨entry, hentry, hkey⟩ := h
      rw [fill_obj]
      refine Nat.le_trans ?_ (length_entry_le reprs (List.mem_map_of_mem hentry))
      dsimp only
      by_cases hhere : p entry.1 = true
      · rw [if_pos hhere]
        exact le_length_replicate reprs n
      · rw [if_neg hhere]
        refine ih entry hentry ?_
        simpa [hhere] using hkey

/-- `str(x)`, which leaves a text as it is. -/
def pyStr (reprs : Reprs) : Json → String
  | .str s => s
  | x => pyRepr reprs x

end Json

end GaiaOS
