/-
The breaking changes of the stability contract, against those the check reports.

`Breaking` follows `docs/api/STABILITY.md`: what an operation loses or newly asks for, and what
becomes of the schemas of its bodies, at any depth below properties, array items and
alternatives, where a schema is what it refers to and what it is composed of.  It knows nothing of
the resolver and its depth limit.

The check reports a breaking change where it finds one in `Detected`, which stops at the
properties of the schemas it compares and does not look at new parameters, the types of
parameters, new properties or `null`.
-/
import GaiaOS.Proofs.ApiStability
import Mathlib.Data.List.Dedup

namespace GaiaOS

namespace ApiStability

/-! ### What a schema says -/

/-- The schemas whose keywords make up a schema: what it refers to, itself and what it is composed
of. -/
inductive MadeOf (b : Spec) : Schema → Schema → Prop
  | here {s : Schema} (href : s.target? = none) : MadeOf b s s
  | ref {s t : Schema} {schemaName : String} (href : s.target? = some schemaName)
      (h : MadeOf b (b.component schemaName) t) : MadeOf b s t
  | member {s sub t : Schema} {subs : List Schema} (href : s.target? = none)
      (hallOf : s.allOf = some subs) (hmem : sub ∈ subs) (h : MadeOf b sub t) : MadeOf b s t

def HasProperty (b : Spec) (s : Schema) (pName : String) (p : Schema) : Prop :=
  ∃ t, MadeOf b s t ∧ (t.own b.heap).get? pName = some p

def Requires (b : Spec) (s : Schema) (pName : String) : Prop :=
  ∃ t, MadeOf b s t ∧ pName ∈ t.required.getD []

def HasType (b : Spec) (s : Schema) (type : SchemaType) : Prop :=
  ∃ t, MadeOf b s t ∧ t.type = some type

theorem madeOf_ref {b : Spec} {s t : Schema} {schemaName : String}
    (href : s.target? = some schemaName) :
    MadeOf b s t ↔ MadeOf b (b.component schemaName) t := by
  constructor
  · intro h
    cases h with
    | here hnone => simp [hnone] at href
    | ref href' h =>
        rw [href] at href'
        cases href'
        exact h
    | member hnone => simp [hnone] at href
  · exact .ref href

theorem madeOf_plain {b : Spec} {s t : Schema} (href : s.target? = none) (hallOf : s.allOf = none) :
    MadeOf b s t ↔ t = s := by
  constructor
  · intro h
    cases h with
    | here => rfl
    | ref href' => simp [href] at href'
    | member _ hallOf' => simp [hallOf] at hallOf'
  · rintro rfl
    exact .here href

theorem madeOf_allOf {b : Spec} {s t : Schema} {subs : List Schema} (href : s.target? = none)
    (hallOf : s.allOf = some subs) :
    MadeOf b s t ↔ t = s ∨ ∃ sub ∈ subs, MadeOf b sub t := by
  constructor
  · intro h
    cases h with
    | here => exact .inl rfl
    | ref href' => simp [href] at href'
    | member _ hallOf' hmem h =>
        rw [hallOf] at hallOf'
        cases hallOf'
        exact .inr ⟨_, hmem, h⟩
  · rintro (rfl | ⟨sub, hmem, h⟩)
    · exact .here href
    · exact .member href hallOf hmem h

/-! ### What the resolver makes of it -/

theorem foldl_addEffective_isSome (eff : Schema → Effective) (pName : String)
    (subs : List Schema) : ∀ merged : Merged,
    ((subs.foldl (fun merged sub => merged.addEffective (eff sub)) merged).props.get?
      pName).isSome = true ↔
    (merged.props.get? pName).isSome = true ∨
      ∃ sub ∈ subs, ((eff sub).props.get? pName).isSome = true := by
  induction subs with
  | nil => simp
  | cons sub subs ih =>
      intro merged
      rw [List.foldl_cons, ih, Merged.addEffective_get?, Option.isSome_or, Bool.or_eq_true]
      simp only [List.mem_cons, exists_eq_or_imp]
      tauto

theorem mem_foldl_addEffective_req (eff : Schema → Effective) (pName : String)
    (subs : List Schema) : ∀ merged : Merged,
    pName ∈ (subs.foldl (fun merged sub => merged.addEffective (eff sub)) merged).req ↔
      pName ∈ merged.req ∨ ∃ sub ∈ subs, pName ∈ (eff sub).req := by
  induction subs with
  | nil => simp
  | cons sub subs ih =>
      intro merged
      rw [List.foldl_cons, ih]
      simp only [Merged.addEffective, Effective.req, List.mem_append, List.mem_cons,
        exists_eq_or_imp]
      tauto

theorem mem_sortedSet {names : List String} {pName : String} :
    pName ∈ sortedSet names ↔ pName ∈ names := by
  unfold sortedSet
  rw [List.mem_mergeSort, List.mem_dedup]

/-- Where the chains end in time, the resolver finds the names of the properties a schema has. -/
theorem isSome_effective_iff {b : Spec} {pName : String} {left : Nat} {s : Schema}
    (h : Within b left s) :
    ((effective b left s).props.get? pName).isSome = true ↔ ∃ p, HasProperty b s pName p := by
  have hplain : ∀ {s : Schema}, s.target? = none → s.allOf = none →
      (((s.copy.view b.heap).props.get? pName).isSome = true ↔ ∃ p, HasProperty b s pName p) := by
    intro s href hallOf
    rw [copy_view_props, Option.isSome_iff_exists]
    simp only [HasProperty, madeOf_plain href hallOf, exists_eq_left]
  induction left, s using resolution_induction b with
  | cut s => exact hplain h.1 h.2
  | ref left s schemaName href ih =>
      rw [effective_ref href]
      refine Iff.trans (ih (h.ref href)) ?_
      simp only [HasProperty, madeOf_ref href]
  | plain left s href hallOf =>
      rw [effective_plain href hallOf]
      exact hplain href hallOf
  | compose left s subs href hallOf ih =>
      have hsubs : (∃ sub ∈ subs, ((effective b left sub).props.get? pName).isSome = true) ↔
          ∃ sub ∈ subs, ∃ p, HasProperty b sub pName p := by
        refine exists_congr fun sub => and_congr_right fun hmem => ?_
        exact ih sub hmem (h.member href hallOf hmem)
      rw [effective_allOf href hallOf, Schema.compose_get?, Option.isSome_or, Bool.or_eq_true,
        foldl_addEffective_isSome, hsubs, @Option.isSome_iff_exists _ ((s.own b.heap).get? pName)]
      simp only [Schema.mergeStart, Dict.get?_empty, Option.isSome_none, Bool.false_eq_true,
        false_or, HasProperty, madeOf_allOf href hallOf]
      constructor
      · rintro (⟨sub, hmem, p, t, ht, hp⟩ | ⟨p, hp⟩)
        · exact ⟨p, t, .inr ⟨sub, hmem, ht⟩, hp⟩
        · exact ⟨p, s, .inl rfl, hp⟩
      · rintro ⟨p, t, rfl | ⟨sub, hmem, ht⟩, hp⟩
        · exact .inr ⟨p, hp⟩
        · exact .inl ⟨sub, hmem, p, t, ht, hp⟩

/-- And the names it requires. -/
theorem mem_effective_req_iff {b : Spec} {pName : String} {left : Nat} {s : Schema}
    (h : Within b left s) : pName ∈ (effective b left s).req ↔ Requires b s pName := by
  have hplain : ∀ {s : Schema}, s.target? = none → s.allOf = none →
      (pName ∈ (s.copy.view b.heap).req ↔ Requires b s pName) := by
    intro s href hallOf
    simp only [Requires, madeOf_plain href hallOf, exists_eq_left]
    rfl
  induction left, s using resolution_induction b with
  | cut s => exact hplain h.1 h.2
  | ref left s schemaName href ih =>
      rw [effective_ref href]
      refine Iff.trans (ih (h.ref href)) ?_
      simp only [Requires, madeOf_ref href]
  | plain left s href hallOf =>
      rw [effective_plain href hallOf]
      exact hplain href hallOf
  | compose left s subs href hallOf ih =>
      have hsubs : (∃ sub ∈ subs, pName ∈ (effective b left sub).req) ↔
          ∃ sub ∈ subs, Requires b sub pName := by
        refine exists_congr fun sub => and_congr_right fun hmem => ?_
        exact ih sub hmem (h.member href hallOf hmem)
      rw [effective_allOf href hallOf]
      simp only [Schema.compose, Effective.req, Option.getD_some, mem_sortedSet, List.mem_append]
      rw [mem_foldl_addEffective_req, hsubs]
      simp only [Schema.mergeStart, List.not_mem_nil, false_or, Requires,
        madeOf_allOf href hallOf]
      constructor
      · rintro (hreq | ⟨sub, hmem, t, ht, hreq⟩)
        · exact ⟨s, .inl rfl, hreq⟩
        · exact ⟨t, .inr ⟨sub, hmem, ht⟩, hreq⟩
      · rintro ⟨t, rfl | ⟨sub, hmem, ht⟩, hreq⟩
        · exact .inl hreq
        · exact .inr ⟨sub, hmem, t, ht, hreq⟩

/-! ### Breaking changes -/

inductive Side
  | request
  | response

/-- The media types of the request body. -/
def Operation.content (op : Operation) : Dict String MediaType := op.requestBody.getD .empty

/-- Where the resolver is not cut off, a property missing in the current schema is reported. -/
theorem SchemaDetected.of_removed {rt : Runtime} {b c : Spec} {label pName : String}
    {s s' p : Schema} (hb : Within b 21 s) (hc : Within c 21 s') (hbase : HasProperty b s pName p)
    (hcurr : ∀ p', ¬ HasProperty c s' pName p') : SchemaDetected rt b c label s s' := by
  obtain ⟨q, hq⟩ := Option.isSome_iff_exists.mp ((isSome_effective_iff hb).mpr ⟨p, hbase⟩)
  refine ⟨pName, q, hq, .inl ?_⟩
  rw [← Option.not_isSome_iff_eq_none, isSome_effective_iff hc]
  rintro ⟨p', hp'⟩
  exact hcurr p' hp'

/-- So is one that became required under the label of a request. -/
theorem SchemaDetected.of_required {rt : Runtime} {b c : Spec} {label pName : String}
    {s s' p p' : Schema} (hb : Within b 21 s) (hc : Within c 21 s')
    (hlabel : isRequest rt label = true) (hbase : HasProperty b s pName p)
    (hcurr : HasProperty c s' pName p') (hnot : ¬ Requires b s pName)
    (h : Requires c s' pName) : SchemaDetected rt b c label s s' := by
  obtain ⟨q, hq⟩ := Option.isSome_iff_exists.mp ((isSome_effective_iff hb).mpr ⟨p, hbase⟩)
  obtain ⟨q', hq'⟩ := Option.isSome_iff_exists.mp ((isSome_effective_iff hc).mpr ⟨p', hcurr⟩)
  refine ⟨pName, q, hq, .inr ⟨q', hq', .required hlabel ?_ ?_⟩⟩
  · rwa [mem_effective_req_iff hb]
  · rwa [mem_effective_req_iff hc]

/-- The breaking changes of an operation that the check looks for, in the contract's terms: those
of parameters that stay, of media types and status codes, and of the properties of the bodies
themselves. -/
inductive SurfaceBreaks (rt : Runtime) (b c : Spec) (label : String)
    (baseOp currOp : Operation) : Prop
  | parameterRemoved {key : Option String × Option String} {p : Parameter}
      (hbase : baseOp.params.get? key = some p) (hcurr : currOp.params.get? key = none)
  | parameterRequired {key : Option String × Option String} {p p' : Parameter}
      (hbase : baseOp.params.get? key = some p) (hcurr : currOp.params.get? key = some p')
      (hnot : p.required = false) (h : p'.required = true)
  | requestMediaRemoved {cType : String} {m : MediaType}
      (hbase : baseOp.content.get? cType = some m) (hcurr : currOp.content.get? cType = none)
  | statusRemoved {statusCode : String} {content : Dict String MediaType}
      (hbase : baseOp.responses.get? statusCode = some content)
      (hcurr : currOp.responses.get? statusCode = none)
  | responseMediaRemoved {statusCode cType : String} {content content' : Dict String MediaType}
      {m : MediaType} (hbase : baseOp.responses.get? statusCode = some content)
      (hcurr : currOp.responses.get? statusCode = some content')
      (hm : content.get? cType = some m) (hm' : content'.get? cType = none)
  | propertyRemoved {base curr : Schema} {locationPrefix pName : String} {p : Schema}
      (hpair : SchemaPair label baseOp currOp base curr locationPrefix)
      (hbase : HasProperty b base pName p) (hcurr : ∀ p', ¬ HasProperty c curr pName p')
  | propertyRequired {base curr : Schema} {locationPrefix pName : String} {p p' : Schema}
      (hpair : SchemaPair label baseOp currOp base curr locationPrefix)
      (hlabel : isRequest rt locationPrefix = true) (hbase : HasProperty b base pName p)
      (hcurr : HasProperty c curr pName p') (hnot : ¬ Requires b base pName)
      (h : Requires c curr pName)

theorem OperationDetected.of_pair {rt : Runtime} {b c : Spec} {label locationPrefix : String}
    {baseOp currOp : Operation} {base curr : Schema}
    (hpair : SchemaPair label baseOp currOp base curr locationPrefix)
    (h : SchemaDetected rt b c locationPrefix base curr) :
    OperationDetected rt b c label baseOp currOp := by
  cases hpair with
  | request hbase hcurr hm hm' => exact .body hbase hcurr ⟨_, _, hm, .inr ⟨_, hm', h⟩⟩
  | response hbase hcurr hm hm' =>
      exact .responses ⟨_, _, hbase, .inr ⟨_, hcurr, _, _, hm, .inr ⟨_, hm', h⟩⟩⟩

theorem OperationDetected.of_surface {rt : Runtime} {b c : Spec} {label : String}
    {baseOp currOp : Operation} (hb : ∀ s ∈ baseOp.bodies, Within b 21 s)
    (hc : ∀ s ∈ currOp.bodies, Within c 21 s)
    (h : SurfaceBreaks rt b c label baseOp currOp) :
    OperationDetected rt b c label baseOp currOp := by
  cases h with
  | parameterRemoved hbase hcurr => exact .parameters ⟨_, _, hbase, .inl hcurr⟩
  | parameterRequired hbase hcurr hnot h =>
      exact .parameters ⟨_, _, hbase, .inr ⟨_, hcurr, hnot, h⟩⟩
  | requestMediaRemoved hbase hcurr =>
      unfold Operation.content at hbase hcurr
      cases hbody : baseOp.requestBody with
      | none => simp [hbody] at hbase
      | some content =>
          rw [hbody, Option.getD_some] at hbase
          cases hbody' : currOp.requestBody with
          | none => exact .bodyRemoved hbody hbody'
          | some content' =>
              rw [hbody', Option.getD_some] at hcurr
              exact .body hbody hbody' ⟨_, _, hbase, .inl hcurr⟩
  | statusRemoved hbase hcurr => exact .responses ⟨_, _, hbase, .inl hcurr⟩
  | responseMediaRemoved hbase hcurr hm hm' =>
      exact .responses ⟨_, _, hbase, .inr ⟨_, hcurr, _, _, hm, .inl hm'⟩⟩
  | propertyRemoved hpair hbase hcurr =>
      obtain ⟨hmem, hmem'⟩ := hpair.mem_bodies
      exact .of_pair hpair (.of_removed (hb _ hmem) (hc _ hmem') hbase hcurr)
  | propertyRequired hpair hlabel hbase hcurr hnot h =>
      obtain ⟨hmem, hmem'⟩ := hpair.mem_bodies
      exact .of_pair hpair
        (.of_required (hb _ hmem) (hc _ hmem') hlabel hbase hcurr hnot h)

/-- In tame documents every change on the surface of a protected operation is reported. -/
theorem surface_change_reported (rt : Runtime) {b c : Spec} (hb : Tame b) (hc : Tame c)
    (honly : OnlyOperations b c) {path method : String} {baseOp currOp : Operation}
    (hprot : Protected b c path method (.operation baseOp))
    (hcurr : c.entryAt path method = some (.operation currOp))
    (h : SurfaceBreaks rt b c (opLabel rt path method) baseOp currOp) :
    ∃ errors, checkSpecStability rt b c = .ok (false, errors) := by
  refine (checkSpecStability_incompatible_iff (.inr hb) (.inr hc)).mpr ⟨honly, ?_⟩
  refine .operation hprot hcurr (.of_surface ?_ ?_ h)
  · exact fun s hs => hb.within s (.body (mem_bodies_of_entry hprot.entry hs))
  · exact fun s hs => hc.within s (.body (mem_bodies_of_entry hcurr hs))

/-! ### The gate -/

/-- The methods of `str` on ASCII texts. -/
def asciiRuntime : Runtime := ⟨String.toLower, String.toUpper, fun s => "'" ++ s ++ "'"⟩

end ApiStability

end GaiaOS
