/-
Where the resolver's writes are not seen.

`resolve_schema` extends `properties` dictionaries of the document it reads.  `effective` is the
same computation without the writes, on the document as it was given.  The two agree for every
schema of a regular document: one in which no schema has both `allOf` and `properties`, so that
nothing is written, or one in which every chain of `$ref` and `allOf` ends before the depth limit.
In the second case a dictionary is always as it was given or already in the form `effective` has
for its schema, and extending it again changes nothing.

What a discipline gives a reader of the document is stated once, and the comparison of two
schemas is derived from it.
-/
import GaiaOS.Scripts.VerifyApiStability

namespace GaiaOS

namespace ApiStability

/-! ### Resolution without writes -/

/-- What a reader gets of a resolved schema. -/
structure Effective where
  type : Option SchemaType
  properties : Option (Dict String Schema)
  required : Option (List String)

def Effective.props (e : Effective) : Dict String Schema := e.properties.getD .empty

def Effective.req (e : Effective) : List String := e.required.getD []

def Resolved.view (heap : Heap) (r : Resolved) : Effective :=
  ⟨r.type, r.properties.map (·.read heap), r.required⟩

def Merged.addEffective (merged : Merged) (sub : Effective) : Merged where
  props := match sub.properties with
    | some props => merged.props.update props
    | none => merged.props
  req := merged.req ++ sub.required.getD []
  type := sub.type.getD merged.type

theorem Merged.add_eq (merged : Merged) (heap : Heap) (r : Resolved) :
    merged.add heap r = merged.addEffective (r.view heap) := by
  obtain ⟨type, properties, required⟩ := r
  cases properties with
  | none => rfl
  | some props => rfl

/-- The component schema of that name, `{}` if there is none. -/
def Spec.component (b : Spec) (schemaName : String) : Schema := (b.schemas.get? schemaName).getD {}

/-- The component a schema refers to. -/
def Schema.target? (schema : Schema) : Option String := schema.ref.bind refTarget?

/-- `merged_props`, `merged_req` and `schema_type` before the loop over `allOf`. -/
def Schema.mergeStart (schema : Schema) : Merged := ⟨.empty, [], schema.type.getD (.name "object")⟩

/-- The outcome of the loop, put together with the schema's own keywords. -/
def Schema.compose (schema : Schema) (heap : Heap) (merged : Merged) : Effective where
  type := some merged.type
  properties := some (match schema.properties with
    | some l => (heap l).update merged.props
    | none => merged.props)
  required := some (sortedSet (schema.required.getD [] ++ merged.req))

/-- `resolve_schema` on the document as it was given. -/
def effective (b : Spec) : Nat → Schema → Effective
  | 0, schema => schema.copy.view b.heap
  | left + 1, schema =>
      match schema.target? with
      | some schemaName => effective b left (b.component schemaName)
      | none =>
          match schema.allOf with
          | none => schema.copy.view b.heap
          | some subs =>
              schema.compose b.heap (subs.foldl (fun merged sub =>
                merged.addEffective (effective b left sub)) schema.mergeStart)

/-- The steps of `resolve_schema` in the same terms. -/
theorem resolveSchema_ref {b : Spec} {left : Nat} {schema : Schema} {schemaName : String}
    (h : schema.target? = some schemaName) (heap : Heap) :
    resolveSchema b.schemas (left + 1) schema heap =
      resolveSchema b.schemas left (b.component schemaName) heap := by
  unfold Schema.target? at h
  rw [resolveSchema, h]
  rfl

theorem resolveSchema_plain {b : Spec} {schema : Schema} (href : schema.target? = none)
    (hallOf : schema.allOf = none) (left : Nat) (heap : Heap) :
    resolveSchema b.schemas left schema heap = (schema.copy, heap) := by
  unfold Schema.target? at href
  cases left with
  | zero => rfl
  | succ left => rw [resolveSchema, href, hallOf]

/-- The loop over `allOf`. -/
def mergeSubs (b : Spec) (left : Nat) (subs : List Schema) (start : Merged) (heap : Heap) :
    Merged × Heap :=
  subs.foldl (fun (merged, heap) sub =>
    let (subResolved, heap) := resolveSchema b.schemas left sub heap
    (merged.add heap subResolved, heap)) (start, heap)

theorem resolveSchema_allOf {b : Spec} {left : Nat} {schema : Schema} {subs : List Schema}
    (href : schema.target? = none) (hallOf : schema.allOf = some subs) (heap : Heap) :
    resolveSchema b.schemas (left + 1) schema heap =
      let result := mergeSubs b left subs schema.mergeStart heap
      let required := sortedSet (schema.required.getD [] ++ result.1.req)
      match schema.properties with
      | some l => (⟨some result.1.type, some (.inDocument l), some required⟩,
          Function.update result.2 l ((result.2 l).update result.1.props))
      | none => (⟨some result.1.type, some (.new result.1.props), some required⟩, result.2) := by
  unfold Schema.target? at href
  rw [resolveSchema, href, hallOf]
  rfl

theorem effective_ref {b : Spec} {left : Nat} {schema : Schema} {schemaName : String}
    (h : schema.target? = some schemaName) :
    effective b (left + 1) schema = effective b left (b.component schemaName) := by
  rw [effective, h]

theorem effective_plain {b : Spec} {schema : Schema} (href : schema.target? = none)
    (hallOf : schema.allOf = none) (left : Nat) :
    effective b left schema = schema.copy.view b.heap := by
  cases left with
  | zero => rfl
  | succ left => rw [effective, href, hallOf]

theorem effective_allOf {b : Spec} {left : Nat} {schema : Schema} {subs : List Schema}
    (href : schema.target? = none) (hallOf : schema.allOf = some subs) :
    effective b (left + 1) schema =
      schema.compose b.heap (subs.foldl (fun merged sub =>
        merged.addEffective (effective b left sub)) schema.mergeStart) := by
  rw [effective, href, hallOf]

/-- Induction along the resolver: the levels may have run out, and otherwise a schema refers to a
component, stands for itself, or is composed of members. -/
@[elab_as_elim]
theorem resolution_induction (b : Spec) {motive : Nat → Schema → Prop}
    (cut : ∀ schema, motive 0 schema)
    (ref : ∀ left schema schemaName, schema.target? = some schemaName →
      motive left (b.component schemaName) → motive (left + 1) schema)
    (plain : ∀ left schema, schema.target? = none → schema.allOf = none → motive (left + 1) schema)
    (compose : ∀ left schema subs, schema.target? = none → schema.allOf = some subs →
      (∀ sub ∈ subs, motive left sub) → motive (left + 1) schema) :
    ∀ left schema, motive left schema := by
  intro left
  induction left with
  | zero => exact cut
  | succ left ih =>
      intro schema
      cases href : schema.target? with
      | some schemaName => exact ref left schema schemaName href (ih _)
      | none =>
          cases hallOf : schema.allOf with
          | none => exact plain left schema href hallOf
          | some subs => exact compose left schema subs href hallOf fun sub _ => ih sub

/-! ### The schemas of a document -/

/-- The schemas of the media types of an operation. -/
def Operation.bodies (op : Operation) : List Schema :=
  (op.requestBody.getD .empty).entries.map (·.2.schema) ++
    op.responses.entries.flatMap fun (_, content) => content.entries.map (·.2.schema)

def PathEntry.bodies : PathEntry → List Schema
  | .operation op => op.bodies
  | .other => []

/-- The schemas of all media types. -/
def Spec.bodies (b : Spec) : List Schema :=
  b.paths.entries.flatMap fun (_, item) => item.entries.flatMap fun (_, entry) => entry.bodies

/-- The schemas the check can come across. -/
inductive Occurs (b : Spec) : Schema → Prop
  | body {schema : Schema} (h : schema ∈ b.bodies) : Occurs b schema
  | component (schemaName : String) : Occurs b (b.component schemaName)
  | member {schema sub : Schema} {subs : List Schema} (h : Occurs b schema)
      (hallOf : schema.allOf = some subs) (hmem : sub ∈ subs) : Occurs b sub
  | property {schema p : Schema} {l : Loc} {pName : String} (h : Occurs b schema)
      (hloc : schema.properties = some l) (hget : (b.heap l).get? pName = some p) : Occurs b p

/-! ### Where a property comes from -/

/-- The properties a schema has itself. -/
def Schema.own (schema : Schema) (heap : Heap) : Dict String Schema :=
  match schema.properties with
  | some l => heap l
  | none => .empty

theorem copy_view_props (schema : Schema) (heap : Heap) :
    (schema.copy.view heap).props = schema.own heap := by
  unfold Schema.own Schema.copy Resolved.view Effective.props
  cases schema.properties with
  | none => rfl
  | some l => rfl

theorem Merged.addEffective_get? (merged : Merged) (sub : Effective) (pName : String) :
    (merged.addEffective sub).props.get? pName =
      (sub.props.get? pName).or (merged.props.get? pName) := by
  unfold Merged.addEffective Effective.props
  cases sub.properties with
  | none => rfl
  | some props => exact Dict.get?_update ..

theorem Schema.compose_get? (schema : Schema) (heap : Heap) (merged : Merged) (pName : String) :
    (schema.compose heap merged).props.get? pName =
      (merged.props.get? pName).or ((schema.own heap).get? pName) := by
  unfold Schema.compose Schema.own Effective.props
  cases schema.properties with
  | none =>
      dsimp only [Option.getD_some]
      rw [Dict.get?_empty, Option.or_none]
  | some l => exact Dict.get?_update ..

/-- A merged property is one of a member, or was there before. -/
theorem foldl_addEffective_get? (eff : Schema → Effective) {pName : String} {p : Schema}
    (subs : List Schema) : ∀ merged : Merged,
    (subs.foldl (fun merged sub => merged.addEffective (eff sub)) merged).props.get? pName =
      some p →
    merged.props.get? pName = some p ∨ ∃ sub ∈ subs, (eff sub).props.get? pName = some p := by
  induction subs with
  | nil => exact fun merged h => .inl h
  | cons sub subs ih =>
      intro merged h
      rcases ih _ h with h | ⟨sub', hmem, h⟩
      · rw [Merged.addEffective_get?, Option.or_eq_some_iff] at h
        rcases h with h | ⟨-, h⟩
        · exact .inr ⟨sub, List.mem_cons_self, h⟩
        · exact .inl h
      · exact .inr ⟨sub', List.mem_cons_of_mem _ hmem, h⟩

theorem occurs_of_own {b : Spec} {schema p : Schema} {pName : String} (hocc : Occurs b schema)
    (h : (schema.own b.heap).get? pName = some p) : Occurs b p := by
  unfold Schema.own at h
  cases hloc : schema.properties with
  | none =>
      rw [hloc] at h
      cases h
  | some l =>
      rw [hloc] at h
      exact .property hocc hloc h

/-- The properties of a schema occur in the document. -/
theorem occurs_of_effective {b : Spec} (left : Nat) {schema : Schema} {pName : String}
    {p : Schema} (hocc : Occurs b schema)
    (h : (effective b left schema).props.get? pName = some p) : Occurs b p := by
  induction left, schema using resolution_induction b with
  | cut schema =>
      rw [effective, copy_view_props] at h
      exact occurs_of_own hocc h
  | ref left schema schemaName href ih =>
      rw [effective_ref href] at h
      exact ih (.component schemaName) h
  | plain left schema href hallOf =>
      rw [effective_plain href hallOf, copy_view_props] at h
      exact occurs_of_own hocc h
  | compose left schema subs href hallOf ih =>
      rw [effective_allOf href hallOf, Schema.compose_get?, Option.or_eq_some_iff] at h
      rcases h with h | ⟨-, h⟩
      · rcases foldl_addEffective_get? _ subs _ h with h | ⟨sub, hmem, h⟩
        · cases h
        · exact ih sub hmem (.member hocc hallOf hmem) h
      · exact occurs_of_own hocc h

/-! ### The loop over `allOf` -/

/-- If every member resolves to its effective schema and keeps an invariant of the heap, so does
the loop. -/
theorem mergeSubs_spec {b : Spec} {left : Nat} (Inv : Heap → Prop) {eff : Schema → Effective}
    {subs : List Schema}
    (hsub : ∀ sub ∈ subs, ∀ heap, Inv heap →
      Inv (resolveSchema b.schemas left sub heap).2 ∧
        (resolveSchema b.schemas left sub heap).1.view
          (resolveSchema b.schemas left sub heap).2 = eff sub) :
    ∀ (start : Merged) (heap : Heap), Inv heap →
      Inv (mergeSubs b left subs start heap).2 ∧
        (mergeSubs b left subs start heap).1 =
          subs.foldl (fun merged sub => merged.addEffective (eff sub)) start := by
  induction subs with
  | nil => exact fun start heap h => ⟨h, rfl⟩
  | cons sub subs ih =>
      intro start heap h
      obtain ⟨hinv, hview⟩ := hsub sub List.mem_cons_self heap h
      have hrest := ih (fun s hs => hsub s (List.mem_cons_of_mem _ hs))
        (start.add (resolveSchema b.schemas left sub heap).2
          (resolveSchema b.schemas left sub heap).1) (resolveSchema b.schemas left sub heap).2 hinv
      rw [Merged.add_eq, hview] at hrest
      rw [List.foldl_cons, ← hrest.2]
      have hcons : mergeSubs b left (sub :: subs) start heap =
          mergeSubs b left subs (start.addEffective (eff sub))
            (resolveSchema b.schemas left sub heap).2 := by
        rw [← hview, ← Merged.add_eq]
        rfl
      rw [hcons]
      exact ⟨hrest.1, rfl⟩

/-! ### Disciplines -/

/-- A way in which the heap of a document may change, such that every schema resolves to its
effective one and what was read once is read again later. -/
structure Discipline (b : Spec) where
  Inv : Heap → Prop
  Le : Heap → Heap → Prop
  start : Inv b.heap
  refl : ∀ heap, Le heap heap
  trans : ∀ {heap heap' heap''}, Le heap heap' → Le heap' heap'' → Le heap heap''
  inv : ∀ {schema heap}, Occurs b schema → Inv heap → Inv (resolve b.schemas schema heap).2
  le : ∀ {schema heap}, Occurs b schema → Inv heap → Le heap (resolve b.schemas schema heap).2
  view : ∀ {schema heap heap'}, Occurs b schema → Inv heap → Inv heap' →
    Le (resolve b.schemas schema heap).2 heap' →
    (resolve b.schemas schema heap).1.view heap' = effective b 21 schema

/-- No schema has both `allOf` and `properties`. -/
def NoWrites (b : Spec) : Prop :=
  ∀ schema, Occurs b schema → schema.allOf = none ∨ schema.properties = none

theorem resolveSchema_noWrites {b : Spec} (h : NoWrites b) (left : Nat) {schema : Schema}
    (hocc : Occurs b schema) :
    (resolveSchema b.schemas left schema b.heap).2 = b.heap ∧
      (resolveSchema b.schemas left schema b.heap).1.view b.heap = effective b left schema := by
  induction left, schema using resolution_induction b with
  | cut schema => exact ⟨rfl, rfl⟩
  | ref left schema schemaName href ih =>
      rw [resolveSchema_ref href, effective_ref href]
      exact ih (.component schemaName)
  | plain left schema href hallOf =>
      rw [resolveSchema_plain href hallOf, effective_plain href hallOf]
      exact ⟨rfl, rfl⟩
  | compose left schema subs href hallOf ih =>
      have hloc : schema.properties = none := by
        have := h schema hocc
        rw [hallOf] at this
        exact this.resolve_left (by simp)
      have hsub : ∀ sub ∈ subs, ∀ heap, heap = b.heap →
          (resolveSchema b.schemas left sub heap).2 = b.heap ∧
            (resolveSchema b.schemas left sub heap).1.view
              (resolveSchema b.schemas left sub heap).2 = effective b left sub := by
        rintro sub hmem _ rfl
        obtain ⟨hheap, hview⟩ := ih sub hmem (.member hocc hallOf hmem)
        exact ⟨hheap, by rw [hheap, hview]⟩
      obtain ⟨hheap, hmerged⟩ := mergeSubs_spec (· = b.heap) hsub schema.mergeStart b.heap rfl
      rw [resolveSchema_allOf href hallOf, effective_allOf href hallOf]
      dsimp only
      rw [hloc]
      dsimp only
      rw [hmerged]
      refine ⟨hheap, ?_⟩
      unfold Resolved.view Schema.compose
      rw [hloc]
      rfl

/-- Without writes the heap stays as it was given. -/
def Discipline.ofNoWrites {b : Spec} (h : NoWrites b) : Discipline b where
  Inv heap := heap = b.heap
  Le _ _ := True
  start := rfl
  refl _ := trivial
  trans _ _ := trivial
  inv hocc hinv := by
    subst hinv
    exact (resolveSchema_noWrites h 21 hocc).1
  le _ _ := trivial
  view hocc hinv hinv' _ := by
    subst hinv
    subst hinv'
    exact (resolveSchema_noWrites h 21 hocc).2

/-- The chains of `$ref` and `allOf` from a schema end within so many steps. -/
def Within (b : Spec) : Nat → Schema → Prop
  | 0, schema => schema.target? = none ∧ schema.allOf = none
  | left + 1, schema =>
      match schema.target? with
      | some schemaName => Within b left (b.component schemaName)
      | none => ∀ subs, schema.allOf = some subs → ∀ sub ∈ subs, Within b left sub

/-- Every chain ends before the depth limit, and no two schemas share a `properties` dictionary. -/
structure Tame (b : Spec) : Prop where
  within : ∀ schema, Occurs b schema → Within b 21 schema
  separate : ∀ schema schema' l, Occurs b schema → Occurs b schema' →
    schema.properties = some l → schema'.properties = some l → schema = schema'

theorem Within.ref {b : Spec} {left : Nat} {schema : Schema} {schemaName : String}
    (h : Within b (left + 1) schema) (href : schema.target? = some schemaName) :
    Within b left (b.component schemaName) := by
  rw [Within, href] at h
  exact h

theorem Within.member {b : Spec} {left : Nat} {schema sub : Schema} {subs : List Schema}
    (h : Within b (left + 1) schema) (href : schema.target? = none)
    (hallOf : schema.allOf = some subs) (hmem : sub ∈ subs) : Within b left sub := by
  rw [Within, href] at h
  exact h subs hallOf sub hmem

/-- Levels beyond those a schema needs change nothing. -/
theorem effective_of_within {b : Spec} : ∀ {left : Nat} (extra : Nat) {schema : Schema},
    Within b left schema → effective b (left + extra) schema = effective b left schema := by
  intro left
  induction left with
  | zero =>
      intro extra schema h
      rw [effective_plain h.1 h.2, effective_plain h.1 h.2]
  | succ left ih =>
      intro extra schema h
      rw [Nat.add_right_comm]
      cases href : schema.target? with
      | some schemaName => rw [effective_ref href, effective_ref href, ih extra (h.ref href)]
      | none =>
          cases hallOf : schema.allOf with
          | none => rw [effective_plain href hallOf, effective_plain href hallOf]
          | some subs =>
              rw [effective_allOf href hallOf, effective_allOf href hallOf]
              congr 1
              refine List.foldl_ext _ _ _ fun merged sub hmem => ?_
              rw [ih extra (h.member href hallOf hmem)]

theorem effective_of_within_le {b : Spec} {left top : Nat} {schema : Schema}
    (h : Within b left schema) (hle : left ≤ top) :
    effective b top schema = effective b left schema := by
  obtain ⟨extra, rfl⟩ := Nat.exists_eq_add_of_le hle
  exact effective_of_within extra h

/-- The properties of a schema after it was resolved. -/
def Schema.final (b : Spec) (schema : Schema) : Dict String Schema := (effective b 21 schema).props

section Tame

variable {b : Spec} {heap heap' : Heap} {schema : Schema}

/-- Every dictionary is as it was given or final. -/
def Tidy (b : Spec) (heap : Heap) : Prop :=
  ∀ schema l, Occurs b schema → schema.target? = none → schema.properties = some l →
    heap l = b.heap l ∨ heap l = schema.final b

/-- What is final stays so. -/
def Settles (b : Spec) (heap heap' : Heap) : Prop :=
  ∀ schema l, Occurs b schema → schema.target? = none → schema.properties = some l →
    heap l = schema.final b → heap' l = schema.final b

/-- The dictionary a resolved schema points to is final. -/
def Settled (b : Spec) (heap : Heap) (r : Resolved) : Prop :=
  ∀ l, r.properties = some (.inDocument l) → ∃ schema, Occurs b schema ∧
    schema.target? = none ∧ schema.properties = some l ∧ heap l = schema.final b

theorem Settles.trans {heap'' : Heap} (h : Settles b heap heap') (h' : Settles b heap' heap'') :
    Settles b heap heap'' := fun schema l hocc href hloc hfinal =>
  h' schema l hocc href hloc (h schema l hocc href hloc hfinal)

theorem Settled.view (h : Settled b heap r) (hle : Settles b heap heap') :
    r.view heap' = r.view heap := by
  obtain ⟨type, properties, required⟩ := r
  unfold Resolved.view
  cases properties with
  | none => rfl
  | some props =>
      cases props with
      | new d => rfl
      | inDocument l =>
          obtain ⟨schema, hocc, href, hloc, hfinal⟩ := h l rfl
          have hfinal' := hle schema l hocc href hloc hfinal
          show (⟨type, some (heap' l), required⟩ : Effective) = ⟨type, some (heap l), required⟩
          rw [hfinal, hfinal']

/-- Without `allOf` there is nothing to extend. -/
theorem final_plain {l : Loc} (href : schema.target? = none) (hallOf : schema.allOf = none)
    (hloc : schema.properties = some l) : schema.final b = b.heap l := by
  rw [Schema.final, effective_plain href hallOf, copy_view_props, Schema.own, hloc]

/-- Extending by the members twice is extending once. -/
theorem final_update {l : Loc} {merged : Merged}
    (hfinal : schema.final b = (b.heap l).update merged.props) :
    (schema.final b).update merged.props = schema.final b := by
  refine Dict.update_self fun pName p hget => ?_
  rw [hfinal, Dict.get?_update, hget]
  rfl

/-- What one call of the resolver does in a tame document. -/
structure TameSpec (b : Spec) (schema : Schema) (heap : Heap) (result : Resolved × Heap) :
    Prop where
  tidy : Tidy b result.2
  settles : Settles b heap result.2
  view : result.1.view result.2 = effective b 21 schema
  settled : Settled b result.2 result.1

theorem tameSpec_plain (hocc : Occurs b schema) (href : schema.target? = none)
    (hallOf : schema.allOf = none) (h : Tidy b heap) :
    TameSpec b schema heap (schema.copy, heap) := by
  have hfinal : ∀ l, schema.properties = some l → heap l = schema.final b := by
    intro l hloc
    rcases h schema l hocc href hloc with hgiven | hfinal
    · rw [hgiven, final_plain href hallOf hloc]
    · exact hfinal
  refine ⟨h, fun _ _ _ _ _ hfinal => hfinal, ?_, ?_⟩
  · rw [effective_plain href hallOf]
    unfold Schema.copy Resolved.view
    cases hloc : schema.properties with
    | none => rfl
    | some l =>
        show (⟨schema.type, some (heap l), schema.required⟩ : Effective) =
          ⟨schema.type, some (b.heap l), schema.required⟩
        rw [hfinal l hloc, final_plain href hallOf hloc]
  · intro l hl
    have hloc : schema.properties = some l := by
      simpa [Schema.copy] using hl
    exact ⟨schema, hocc, href, hloc, hfinal l hloc⟩

/-- A schema with `allOf` and without `properties` of its own gets a new dictionary. -/
theorem tameSpec_new {heap₁ : Heap} {merged : Merged} (hloc : schema.properties = none)
    (htidy : Tidy b heap₁) (hsettles : Settles b heap heap₁)
    (heff : effective b 21 schema = schema.compose b.heap merged) :
    TameSpec b schema heap (⟨some merged.type, some (.new merged.props),
      some (sortedSet (schema.required.getD [] ++ merged.req))⟩, heap₁) := by
  refine ⟨htidy, hsettles, ?_, fun l hl => by cases hl⟩
  rw [heff]
  unfold Schema.compose
  rw [hloc]
  rfl

/-- One with both writes the final dictionary to a place that is its own. -/
theorem tameSpec_write (htame : Tame b) {heap₁ : Heap} {merged : Merged} {l : Loc}
    (hocc : Occurs b schema) (href : schema.target? = none) (hloc : schema.properties = some l)
    (htidy : Tidy b heap₁) (hsettles : Settles b heap heap₁)
    (heff : effective b 21 schema = schema.compose b.heap merged) :
    TameSpec b schema heap (⟨some merged.type, some (.inDocument l),
      some (sortedSet (schema.required.getD [] ++ merged.req))⟩,
      Function.update heap₁ l ((heap₁ l).update merged.props)) := by
  have hfinal : schema.final b = (b.heap l).update merged.props := by
    rw [Schema.final, heff]
    unfold Schema.compose
    rw [hloc]
    rfl
  have hwritten : (heap₁ l).update merged.props = schema.final b := by
    rcases htidy schema l hocc href hloc with hgiven | hdone
    · rw [hgiven, hfinal]
    · rw [hdone, final_update hfinal]
  have hcases : ∀ schema' l', Occurs b schema' → schema'.properties = some l' →
      Function.update heap₁ l ((heap₁ l).update merged.props) l' = heap₁ l' ∨
        Function.update heap₁ l ((heap₁ l).update merged.props) l' = schema'.final b := by
    intro schema' l' hocc' hloc'
    by_cases heq : l' = l
    · subst heq
      obtain rfl := htame.separate schema schema' l' hocc hocc' hloc hloc'
      rw [Function.update_self]
      exact .inr hwritten
    · rw [Function.update_of_ne heq]
      exact .inl rfl
  refine ⟨?_, ?_, ?_, ?_⟩
  · intro schema' l' hocc' href' hloc'
    dsimp only
    rcases hcases schema' l' hocc' hloc' with hsame | hdone
    · rw [hsame]
      exact htidy schema' l' hocc' href' hloc'
    · exact .inr hdone
  · intro schema' l' hocc' href' hloc' hdone
    dsimp only
    rcases hcases schema' l' hocc' hloc' with hsame | hdone'
    · rw [hsame]
      exact hsettles schema' l' hocc' href' hloc' hdone
    · exact hdone'
  · rw [heff]
    unfold Schema.compose Resolved.view
    rw [hloc]
    show (⟨_, some (Function.update heap₁ l _ l), _⟩ : Effective) = _
    rw [Function.update_self, hwritten, hfinal]
  · intro l' hl'
    obtain rfl : l = l' := by simpa using hl'
    refine ⟨schema, hocc, href, hloc, ?_⟩
    dsimp only
    rw [Function.update_self, hwritten]

theorem resolveSchema_tame (htame : Tame b) (left : Nat) (hle : left ≤ 21)
    (hocc : Occurs b schema) (hwithin : Within b left schema) (htidy : Tidy b heap) :
    TameSpec b schema heap (resolveSchema b.schemas left schema heap) := by
  induction left, schema using resolution_induction b generalizing heap with
  | cut schema => exact tameSpec_plain hocc hwithin.1 hwithin.2 htidy
  | ref left schema schemaName href ih =>
      have hle' : left ≤ 20 := by omega
      have hspec := ih (by omega) (.component schemaName) (hwithin.ref href) htidy
      rw [resolveSchema_ref href]
      refine ⟨hspec.tidy, hspec.settles, ?_, hspec.settled⟩
      rw [hspec.view, effective_ref href, effective_of_within_le (hwithin.ref href) hle',
        effective_of_within_le (hwithin.ref href) (by omega)]
  | plain left schema href hallOf =>
      rw [resolveSchema_plain href hallOf]
      exact tameSpec_plain hocc href hallOf htidy
  | compose left schema subs href hallOf ih =>
      have hle' : left ≤ 20 := by omega
      -- the members first, each in a heap that settles what was final before
      have hsub : ∀ sub ∈ subs, ∀ heap₁, Tidy b heap₁ ∧ Settles b heap heap₁ →
          (Tidy b (resolveSchema b.schemas left sub heap₁).2 ∧
            Settles b heap (resolveSchema b.schemas left sub heap₁).2) ∧
            (resolveSchema b.schemas left sub heap₁).1.view
              (resolveSchema b.schemas left sub heap₁).2 = effective b 20 sub := by
        rintro sub hmem heap₁ ⟨htidy₁, hsettles₁⟩
        have hwithin' := hwithin.member href hallOf hmem
        have hspec := ih sub hmem (by omega) (.member hocc hallOf hmem) hwithin' htidy₁
        refine ⟨⟨hspec.tidy, hsettles₁.trans hspec.settles⟩, ?_⟩
        rw [hspec.view, effective_of_within_le hwithin' hle',
          effective_of_within_le hwithin' (by omega)]
      obtain ⟨⟨htidy₁, hsettles₁⟩, hmerged⟩ := mergeSubs_spec
        (fun heap₁ => Tidy b heap₁ ∧ Settles b heap heap₁) hsub schema.mergeStart heap
        ⟨htidy, fun _ _ _ _ _ hfinal => hfinal⟩
      have heff : effective b 21 schema =
          schema.compose b.heap (mergeSubs b left subs schema.mergeStart heap).1 := by
        rw [effective_allOf href hallOf, hmerged]
      rw [resolveSchema_allOf href hallOf]
      cases hloc : schema.properties with
      | none => exact tameSpec_new hloc htidy₁ hsettles₁ heff
      | some l => exact tameSpec_write htame hocc href hloc htidy₁ hsettles₁ heff

/-- In a tame document every dictionary is as given or final. -/
def Discipline.ofTame (htame : Tame b) : Discipline b where
  Inv := Tidy b
  Le := Settles b
  start _ _ _ _ _ := .inl rfl
  refl _ _ _ _ _ _ hfinal := hfinal
  trans h h' := h.trans h'
  inv hocc h := (resolveSchema_tame htame 21 le_rfl hocc (htame.within _ hocc) h).tidy
  le hocc h := (resolveSchema_tame htame 21 le_rfl hocc (htame.within _ hocc) h).settles
  view hocc h _ hle := by
    have hspec := resolveSchema_tame htame 21 le_rfl hocc (htame.within _ hocc) h
    exact (hspec.settled.view hle).trans hspec.view

end Tame

/-- A document whose schemas are resolved as if nothing were written. -/
def Regular (b : Spec) : Prop := NoWrites b ∨ Tame b

theorem Regular.discipline {b : Spec} (h : Regular b) : Nonempty (Discipline b) := by
  rcases h with h | h
  · exact ⟨.ofNoWrites h⟩
  · exact ⟨.ofTame h⟩

/-! ### Comparing two schemas -/

/-- The errors about one property of the baseline. -/
def propertyFindings (rt : Runtime) (b c : Spec) (locationPrefix : String)
    (currProps : Dict String Schema) (baseReq currReq : List String) (e : String × Schema) :
    List String :=
  match currProps.get? e.1 with
  | none => [locationPrefix ++ ": Removed schema property '" ++ e.1 ++ "'."]
  | some currP =>
      propertyErrors rt locationPrefix e.1 (effective b 21 e.2).type (effective c 21 currP).type
        baseReq currReq

/-- `check_schema_compatibility` on the documents as they were given. -/
def schemaFindings (rt : Runtime) (b c : Spec) (baseSchema currSchema : Schema)
    (locationPrefix : String) : List String :=
  let base := effective b 21 baseSchema
  let curr := effective c 21 currSchema
  base.props.entries.flatMap (propertyFindings rt b c locationPrefix curr.props base.req curr.req)

theorem Resolved.view_props (heap : Heap) (r : Resolved) :
    (r.view heap).props = r.props.read heap := by
  obtain ⟨type, properties, required⟩ := r
  cases properties with
  | none => rfl
  | some props => rfl

/-- A loop over a dictionary that is read the same at every pass. -/
theorem compareProperties_spec (pass : String → Schema → Heaps → List String × Heaps)
    (findings : String × Schema → List String) {baseProps : Properties} {D : Dict String Schema}
    (Good : Heaps → Prop) (hread : ∀ heaps, Good heaps → baseProps.read heaps.base = D)
    (hpass : ∀ e ∈ D.entries, ∀ heaps, Good heaps →
      (pass e.1 e.2 heaps).1 = findings e ∧ Good (pass e.1 e.2 heaps).2) :
    ∀ (left : Nat) (heaps : Heaps), left ≤ D.entries.length → Good heaps →
      ∃ heaps', compareProperties pass baseProps D.entries.length left heaps =
          .ok ((D.entries.drop (D.entries.length - left)).flatMap findings, heaps') ∧
        Good heaps' := by
  intro left
  induction left with
  | zero =>
      intro heaps _ hgood
      refine ⟨heaps, ?_, hgood⟩
      unfold compareProperties
      simp [hread heaps hgood]
  | succ left ih =>
      intro heaps hle hgood
      have hlt : D.entries.length - (left + 1) < D.entries.length := by omega
      obtain ⟨hfindings, hgood'⟩ := hpass D.entries[D.entries.length - (left + 1)]
        (List.getElem_mem hlt) heaps hgood
      obtain ⟨heaps', hrest, hgood''⟩ := ih _ (by omega) hgood'
      refine ⟨heaps', ?_, hgood''⟩
      have hdrop : D.entries.drop (D.entries.length - (left + 1)) =
          D.entries[D.entries.length - (left + 1)] :: D.entries.drop (D.entries.length - left) := by
        rw [List.drop_eq_getElem_cons hlt]
        congr 2
        omega
      unfold compareProperties
      rw [hread heaps hgood, if_neg (by simp)]
      dsimp only
      rw [List.getElem?_eq_getElem hlt]
      dsimp only
      rw [hrest, hfindings, hdrop, List.flatMap_cons]
      rfl

section Compare

variable {rt : Runtime} {b c : Spec} (db : Discipline b) (dc : Discipline c)

/-- Both heaps are as the disciplines allow and read as they did. -/
def Good (start heaps : Heaps) : Prop :=
  (db.Inv heaps.base ∧ dc.Inv heaps.curr) ∧
    db.Le start.base heaps.base ∧ dc.Le start.curr heaps.curr

theorem compareProperty_spec {start heaps : Heaps} {locationPrefix : String}
    {currProps : Properties} {D : Dict String Schema} {baseReq currReq : List String}
    {e : String × Schema} (hgood : Good db dc start heaps)
    (hread : currProps.read heaps.curr = D) (hocc : Occurs b e.2)
    (hcurr : ∀ pName p, D.get? pName = some p → Occurs c p) :
    (compareProperty rt b c locationPrefix currProps baseReq currReq e.1 e.2 heaps).1 =
        propertyFindings rt b c locationPrefix D baseReq currReq e ∧
      Good db dc start
        (compareProperty rt b c locationPrefix currProps baseReq currReq e.1 e.2 heaps).2 := by
  unfold compareProperty propertyFindings
  rw [hread]
  cases hget : D.get? e.1 with
  | none => exact ⟨rfl, hgood⟩
  | some currP =>
      obtain ⟨⟨hb, hc⟩, hlb, hlc⟩ := hgood
      have hocc' := hcurr e.1 currP hget
      have hviewb := db.view hocc hb (db.inv hocc hb) (db.refl _)
      have hviewc := dc.view hocc' hc (dc.inv hocc' hc) (dc.refl _)
      dsimp only
      refine ⟨?_, ⟨db.inv hocc hb, dc.inv hocc' hc⟩, db.trans hlb (db.le hocc hb),
        dc.trans hlc (dc.le hocc' hc)⟩
      rw [← hviewb, ← hviewc]
      rfl

/-- On regular documents the comparison gives what it gives without writes. -/
theorem checkSchemaCompatibility_spec (rt : Runtime) (locationPrefix : String)
    {baseSchema currSchema : Schema} {heaps : Heaps} (hb : db.Inv heaps.base)
    (hc : dc.Inv heaps.curr)
    (hbase : Occurs b baseSchema) (hcurr : Occurs c currSchema) :
    ∃ heaps', checkSchemaCompatibility rt b c baseSchema currSchema locationPrefix heaps =
        .ok (schemaFindings rt b c baseSchema currSchema locationPrefix, heaps') ∧
      db.Inv heaps'.base ∧ dc.Inv heaps'.curr := by
  have hviewb : ∀ heap', db.Inv heap' → db.Le (resolve b.schemas baseSchema heaps.base).2 heap' →
      (resolve b.schemas baseSchema heaps.base).1.view heap' = effective b 21 baseSchema :=
    fun _ hinv hle => db.view hbase hb hinv hle
  have hviewc : ∀ heap', dc.Inv heap' → dc.Le (resolve c.schemas currSchema heaps.curr).2 heap' →
      (resolve c.schemas currSchema heaps.curr).1.view heap' = effective c 21 currSchema :=
    fun _ hinv hle => dc.view hcurr hc hinv hle
  have hinvb := db.inv hbase hb
  have hinvc := dc.inv hcurr hc
  unfold checkSchemaCompatibility
  dsimp only
  generalize resolve b.schemas baseSchema heaps.base = resultb at *
  generalize resolve c.schemas currSchema heaps.curr = resultc at *
  obtain ⟨rb, heapb⟩ := resultb
  obtain ⟨rc, heapc⟩ := resultc
  dsimp only at *
  have hreadb : ∀ heap', db.Inv heap' → db.Le heapb heap' →
      rb.props.read heap' = (effective b 21 baseSchema).props := by
    intro heap' hinv hle
    rw [← rb.view_props, hviewb heap' hinv hle]
  have hreadc : ∀ heap', dc.Inv heap' → dc.Le heapc heap' →
      rc.props.read heap' = (effective c 21 currSchema).props := by
    intro heap' hinv hle
    rw [← rc.view_props, hviewc heap' hinv hle]
  have hreqb : rb.req = (effective b 21 baseSchema).req := by
    rw [← hviewb heapb hinvb (db.refl _)]
    rfl
  have hreqc : rc.req = (effective c 21 currSchema).req := by
    rw [← hviewc heapc hinvc (dc.refl _)]
    rfl
  rw [hreadb heapb hinvb (db.refl _), hreqb, hreqc]
  obtain ⟨heaps', hloop, hgood⟩ := compareProperties_spec
    (compareProperty rt b c locationPrefix rc.props (effective b 21 baseSchema).req
      (effective c 21 currSchema).req)
    (propertyFindings rt b c locationPrefix (effective c 21 currSchema).props
      (effective b 21 baseSchema).req (effective c 21 currSchema).req)
    (Good db dc ⟨heapb, heapc⟩)
    (fun heaps' h => hreadb heaps'.base h.1.1 h.2.1)
    (fun e he heaps' h => compareProperty_spec db dc h (hreadc heaps'.curr h.1.2 h.2.2)
      (occurs_of_effective 21 hbase (Dict.mem_entries_iff _ |>.mp he))
      (fun pName p hget => occurs_of_effective 21 hcurr hget))
    (effective b 21 baseSchema).props.entries.length ⟨heapb, heapc⟩ le_rfl
    ⟨⟨hinvb, hinvc⟩, db.refl _, dc.refl _⟩
  rw [Nat.sub_self, List.drop_zero] at hloop
  exact ⟨heaps', hloop, hgood.1⟩

end Compare

end ApiStability

end GaiaOS
