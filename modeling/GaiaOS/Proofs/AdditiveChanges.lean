/-
Additive changes, and when the stability check lets them through.

Two documents differ by additive changes if their schemas can be related, place by place, so that
whatever the first says the second says too: the same references, types and compositions, the
same properties and more, nothing newly required of a request.  Documents may refer to themselves,
so the relation is not built up from below; it is any relation with these closure properties, and
such relations compose, which covers every sequence of changes.

Resolving related schemas down to the same depth gives the same type and related properties, so
the one error left is that a property became required.  The check raises it for a response too if
its label, which has the path in it, contains the word "request".
-/
import GaiaOS.Lib.Relations
import GaiaOS.Proofs.BreakingChanges

namespace GaiaOS

namespace ApiStability

/-! ### Related schemas -/

/-- The schemas at one place of two compositions. -/
inductive Together (b c : Spec) : Schema → Schema → Schema → Schema → Prop
  | here {s s' : Schema} : Together b c s s' s s'
  | ref {s s' t t' : Schema} {schemaName : String} (href : s.target? = some schemaName)
      (h : Together b c (b.component schemaName) (c.component schemaName) t t') :
      Together b c s s' t t'
  | member {s s' sub sub' t t' : Schema} {subs subs' : List Schema} {i : Nat}
      (hallOf : s.allOf = some subs) (hallOf' : s'.allOf = some subs')
      (hsub : subs[i]? = some sub) (hsub' : subs'[i]? = some sub')
      (h : Together b c sub sub' t t') : Together b c s s' t t'

/-- A relation between the schemas of two documents under which the second only adds. -/
structure Extension (b c : Spec) (R : Side → Schema → Schema → Prop) : Prop where
  ref : ∀ {side s s'}, R side s s' → s'.ref = s.ref
  type : ∀ {side s s'}, R side s s' → s'.type = s.type
  nullable : ∀ {side s s'}, R side s s' → s'.nullable = s.nullable
  items : ∀ {side s s'}, R side s s' → Option.Rel (R side) s.items s'.items
  allOf : ∀ {side s s'}, R side s s' → Option.Rel (List.Forall₂ (R side)) s.allOf s'.allOf
  anyOf : ∀ {side s s'}, R side s s' → Option.Rel (List.Forall₂ (R side)) s.anyOf s'.anyOf
  component : ∀ {side s s' schemaName}, R side s s' → s.target? = some schemaName →
    R side (b.component schemaName) (c.component schemaName)
  property : ∀ {side s s' pName p}, R side s s' → (s.own b.heap).get? pName = some p →
    ∃ p', (s'.own c.heap).get? pName = some p' ∧ R side p p'
  /-- A property added at one place of a composition has a name that is new to all of it. -/
  fresh : ∀ {side s s' t t' u u' pName p'}, R side s s' → Together b c s s' t t' →
    Together b c s s' u u' → (t.own b.heap).get? pName = none →
    (t'.own c.heap).get? pName = some p' → (u.own b.heap).get? pName = none
  /-- A request asks for no more than before. -/
  request : ∀ {s s' pName}, R .request s s' →
    (pName ∈ s'.required.getD [] ↔ pName ∈ s.required.getD [])
  /-- In a response a property may become one that is always present. -/
  response : ∀ {s s' pName}, R .response s s' → pName ∈ s.required.getD [] →
    pName ∈ s'.required.getD []

/-- The media types stay, with related schemas. -/
def ContentExtends (R : Schema → Schema → Prop) (base curr : Dict String MediaType) : Prop :=
  ∀ cType m, base.get? cType = some m → ∃ m', curr.get? cType = some m' ∧ R m.schema m'.schema

structure OperationExtends (R : Side → Schema → Schema → Prop) (baseOp currOp : Operation) :
    Prop where
  parameter : ∀ key p, baseOp.params.get? key = some p → ∃ p', currOp.params.get? key = some p' ∧
    p'.required = p.required ∧ Option.Rel (R .request) p.schema p'.schema
  added : ∀ key p', baseOp.params.get? key = none → currOp.params.get? key = some p' →
    p'.required = false
  body : ∀ content, baseOp.requestBody = some content → ∃ content',
    currOp.requestBody = some content' ∧ ContentExtends (R .request) content content'
  response : ∀ statusCode content, baseOp.responses.get? statusCode = some content → ∃ content',
    currOp.responses.get? statusCode = some content' ∧ ContentExtends (R .response) content content'

def EntryExtends (R : Side → Schema → Schema → Prop) : PathEntry → PathEntry → Prop
  | .operation baseOp, .operation currOp => OperationExtends R baseOp currOp
  | .other, .other => True
  | _, _ => False

/-- Additive changes: under `/api/v1/` everything stays and is extended only.  There may be more
endpoints, methods, optional parameters and fields, and marks of deprecation. -/
def Additive (b c : Spec) : Prop :=
  ∃ R, Extension b c R ∧ ∀ path method entry, pyStartsWith path "/api/v1/" = true →
    b.entryAt path method = some entry →
    ∃ entry', c.entryAt path method = some entry' ∧ EntryExtends R entry entry'

/-! ### Sequences of changes -/

/-- Related through something in between. -/
def Through (R S : Side → Schema → Schema → Prop) (side : Side) (s s'' : Schema) : Prop :=
  ∃ s', R side s s' ∧ S side s' s''

section Through

variable {b c d : Spec} {R S : Side → Schema → Schema → Prop} {side : Side} {s s' s'' : Schema}

theorem Extension.target? (h : Extension b c R) (hR : R side s s') : s'.target? = s.target? := by
  unfold Schema.target?
  rw [h.ref hR]

theorem Extension.members (h : Extension b c R) (hR : R side s s') {subs : List Schema}
    (hallOf : s.allOf = some subs) : ∃ subs', s'.allOf = some subs' ∧
      List.Forall₂ (R side) subs subs' := by
  have hrel := h.allOf hR
  rw [hallOf] at hrel
  exact optionRel_some hrel

/-- A place of the outer two compositions is one of the composition in between. -/
theorem Together.split (hR : Extension b c R) (hS : Extension c d S) {t t'' : Schema}
    (h : Together b d s s'' t t'') : ∀ {s'}, R side s s' → S side s' s'' →
      ∃ t', Together b c s s' t t' ∧ Together c d s' s'' t' t'' := by
  induction h with
  | here => exact fun _ _ => ⟨_, .here, .here⟩
  | ref href _ ih =>
      intro s' hs hs'
      have href' := (hR.target? hs).trans href
      obtain ⟨t', ht, ht'⟩ := ih (hR.component hs href) (hS.component hs' href')
      exact ⟨t', .ref href ht, .ref href' ht'⟩
  | member hallOf hallOf'' hsub hsub'' _ ih =>
      intro s' hs hs'
      obtain ⟨subs', hallOf', hsubs⟩ := hR.members hs hallOf
      obtain ⟨_, hallOf₂, hsubs'⟩ := hS.members hs' hallOf'
      rw [hallOf''] at hallOf₂
      obtain rfl := Option.some.inj hallOf₂
      obtain ⟨sub', hsub', hrel⟩ := forall₂_getElem? hsubs hsub
      obtain ⟨sub₂, hsub₂, hrel'⟩ := forall₂_getElem? hsubs' hsub'
      rw [hsub''] at hsub₂
      obtain rfl := Option.some.inj hsub₂
      obtain ⟨t', ht, ht'⟩ := ih hrel hrel'
      exact ⟨t', .member hallOf hallOf' hsub hsub' ht, .member hallOf' hallOf'' hsub' hsub'' ht'⟩

/-- Schemas at one place of related schemas are related. -/
theorem Together.related (hR : Extension b c R) {t t' : Schema} (h : Together b c s s' t t') :
    R side s s' → R side t t' := by
  induction h with
  | here => exact id
  | ref href _ ih => exact fun hs => ih (hR.component hs href)
  | member hallOf hallOf' hsub hsub' _ ih =>
      intro hs
      obtain ⟨_, hallOf₁, hsubs⟩ := hR.members hs hallOf
      rw [hallOf'] at hallOf₁
      obtain rfl := Option.some.inj hallOf₁
      obtain ⟨_, hsub₁, hrel⟩ := forall₂_getElem? hsubs hsub
      rw [hsub'] at hsub₁
      obtain rfl := Option.some.inj hsub₁
      exact ih hrel

theorem Extension.through (hR : Extension b c R) (hS : Extension c d S) :
    Extension b d (Through R S) where
  ref := fun ⟨_, h, h'⟩ => (hS.ref h').trans (hR.ref h)
  type := fun ⟨_, h, h'⟩ => (hS.type h').trans (hR.type h)
  nullable := fun ⟨_, h, h'⟩ => (hS.nullable h').trans (hR.nullable h)
  items := fun ⟨_, h, h'⟩ => optionRel_through (hR.items h) (hS.items h')
  allOf := fun ⟨_, h, h'⟩ => optionRel_forall₂_through (hR.allOf h) (hS.allOf h')
  anyOf := fun ⟨_, h, h'⟩ => optionRel_forall₂_through (hR.anyOf h) (hS.anyOf h')
  component := fun ⟨_, h, h'⟩ href =>
    ⟨_, hR.component h href, hS.component h' ((hR.target? h).trans href)⟩
  property := by
    rintro side s s'' pName p ⟨s', h, h'⟩ hget
    obtain ⟨p', hget', hp⟩ := hR.property h hget
    obtain ⟨p'', hget'', hp'⟩ := hS.property h' hget'
    exact ⟨p'', hget'', p', hp, hp'⟩
  fresh := by
    rintro side s s'' t t'' u u'' pName p'' ⟨s', h, h'⟩ ht hu hnone hget
    obtain ⟨t', ht₁, ht₂⟩ := ht.split hR hS h h'
    obtain ⟨u', hu₁, hu₂⟩ := hu.split hR hS h h'
    cases hget' : (t'.own c.heap).get? pName with
    | some p' => exact hR.fresh h ht₁ hu₁ hnone hget'
    | none =>
        have hnone' := hS.fresh h' ht₂ hu₂ hget' hget
        by_contra hsome
        obtain ⟨q, hq⟩ := Option.ne_none_iff_exists'.mp hsome
        obtain ⟨q', hq', -⟩ := hR.property (hu₁.related hR h) hq
        rw [hnone'] at hq'
        cases hq'
  request := fun ⟨_, h, h'⟩ => (hS.request h').trans (hR.request h)
  response := fun ⟨_, h, h'⟩ hmem => hS.response h' (hR.response h hmem)

theorem ContentExtends.through {Q Q' : Schema → Schema → Prop}
    {base mid curr : Dict String MediaType} (h : ContentExtends Q base mid)
    (h' : ContentExtends Q' mid curr) :
    ContentExtends (fun s s'' => ∃ s', Q s s' ∧ Q' s' s'') base curr := by
  intro cType m hget
  obtain ⟨m', hget', hm⟩ := h cType m hget
  obtain ⟨m'', hget'', hm'⟩ := h' cType m' hget'
  exact ⟨m'', hget'', m'.schema, hm, hm'⟩

theorem OperationExtends.through {baseOp midOp currOp : Operation}
    (h : OperationExtends R baseOp midOp) (h' : OperationExtends S midOp currOp) :
    OperationExtends (Through R S) baseOp currOp where
  parameter key p hget := by
    obtain ⟨p', hget', hreq, hschema⟩ := h.parameter key p hget
    obtain ⟨p'', hget'', hreq', hschema'⟩ := h'.parameter key p' hget'
    exact ⟨p'', hget'', hreq'.trans hreq, optionRel_through hschema hschema'⟩
  added key p'' hnone hget := by
    cases hmid : midOp.params.get? key with
    | none => exact h'.added key p'' hmid hget
    | some p' =>
        obtain ⟨q, hget', hreq, -⟩ := h'.parameter key p' hmid
        rw [hget] at hget'
        obtain rfl := Option.some.inj hget'
        rw [hreq]
        exact h.added key p' hnone hmid
  body content hbody := by
    obtain ⟨content', hbody', hcontent⟩ := h.body content hbody
    obtain ⟨content'', hbody'', hcontent'⟩ := h'.body content' hbody'
    exact ⟨content'', hbody'', hcontent.through hcontent'⟩
  response statusCode content hget := by
    obtain ⟨content', hget', hcontent⟩ := h.response statusCode content hget
    obtain ⟨content'', hget'', hcontent'⟩ := h'.response statusCode content' hget'
    exact ⟨content'', hget'', hcontent.through hcontent'⟩

theorem EntryExtends.through {entry entry' entry'' : PathEntry} (h : EntryExtends R entry entry')
    (h' : EntryExtends S entry' entry'') : EntryExtends (Through R S) entry entry'' := by
  cases entry <;> cases entry' <;> cases entry'' <;> try trivial
  exact OperationExtends.through h h'

/-- Additive changes one after the other are additive. -/
theorem Additive.trans (h : Additive b c) (h' : Additive c d) : Additive b d := by
  obtain ⟨R, hR, hpaths⟩ := h
  obtain ⟨S, hS, hpaths'⟩ := h'
  refine ⟨Through R S, hR.through hS, fun path method entry hv1 hentry => ?_⟩
  obtain ⟨entry', hentry', hext⟩ := hpaths path method entry hv1 hentry
  obtain ⟨entry'', hentry'', hext'⟩ := hpaths' path method entry' hv1 hentry'
  exact ⟨entry'', hentry'', hext.through hext'⟩

theorem Together.eq_of_eq (hschemas : c.schemas = b.schemas) {t t' : Schema}
    (h : Together b c s s' t t') : s = s' → t = t' := by
  induction h with
  | here => exact id
  | ref _ _ ih =>
      intro _
      refine ih ?_
      unfold Spec.component
      rw [hschemas]
  | member hallOf hallOf' hsub hsub' _ ih =>
      rintro rfl
      rw [hallOf] at hallOf'
      obtain rfl := Option.some.inj hallOf'
      rw [hsub] at hsub'
      exact ih (Option.some.inj hsub')

/-- Documents with the same schemas are related by equality. -/
theorem Extension.same (hschemas : c.schemas = b.schemas) (hheap : c.heap = b.heap) :
    Extension b c fun _ s s' => s = s' where
  ref := by rintro _ s _ rfl; rfl
  type := by rintro _ s _ rfl; rfl
  nullable := by rintro _ s _ rfl; rfl
  items := by rintro _ s _ rfl; exact optionRel_refl (fun _ => rfl) _
  allOf := by rintro _ s _ rfl; exact optionRel_refl (fun _ => List.forall₂_refl _) _
  anyOf := by rintro _ s _ rfl; exact optionRel_refl (fun _ => List.forall₂_refl _) _
  component _ _ := by
    unfold Spec.component
    rw [hschemas]
  property := by
    rintro _ s _ pName p rfl hget
    exact ⟨p, hheap ▸ hget, rfl⟩
  fresh := by
    rintro _ s _ t t' u u' pName p' rfl ht _ hnone hget
    rw [← ht.eq_of_eq hschemas rfl, hheap, hnone] at hget
    cases hget
  request := by rintro s _ pName rfl; rfl
  response := by rintro s _ pName rfl hmem; exact hmem

/-- Changing nothing is an additive change. -/
theorem Additive.refl (b : Spec) : Additive b b := by
  refine ⟨_, Extension.same rfl rfl, fun path method entry _ hentry => ⟨entry, hentry, ?_⟩⟩
  have hcontent : ∀ content : Dict String MediaType, ContentExtends (fun s s' => s = s')
      content content := fun content cType m hget => ⟨m, hget, rfl⟩
  cases entry with
  | other => trivial
  | operation op =>
      refine ⟨fun key p hget => ⟨p, hget, rfl, optionRel_refl (fun _ => rfl) _⟩,
        fun key p' hnone hget => ?_,
        fun content hbody => ⟨content, hbody, hcontent content⟩,
        fun statusCode content hget => ⟨content, hget, hcontent content⟩⟩
      rw [hnone] at hget
      cases hget

end Through

/-! ### Resolving related schemas -/

section Resolve

variable {b c : Spec} {R : Side → Schema → Schema → Prop} {side : Side}

/-- Under an old name both dictionaries have related schemas, or neither has one. -/
def Alike (R : Side → Schema → Schema → Prop) (side : Side) (Old : String → Prop)
    (d d' : Dict String Schema) : Prop :=
  ∀ pName, Old pName → Option.Rel (R side) (d.get? pName) (d'.get? pName)

/-- On the side of a request nothing more is required. -/
def NoMore (side : Side) (req req' : List String) : Prop :=
  side = .request → ∀ pName ∈ req', pName ∈ req

/-- Two resolved schemas agree as far as the old names go. -/
structure Agree (R : Side → Schema → Schema → Prop) (side : Side) (Old : String → Prop)
    (e e' : Effective) : Prop where
  type : e'.type = e.type
  props : Alike R side Old e.props e'.props
  req : NoMore side e.req e'.req

structure MergedAgree (R : Side → Schema → Schema → Prop) (side : Side) (Old : String → Prop)
    (merged merged' : Merged) : Prop where
  type : merged'.type = merged.type
  props : Alike R side Old merged.props merged'.props
  req : NoMore side merged.req merged'.req

variable {Old : String → Prop} {s s' : Schema}

theorem NoMore.append {req₁ req₁' req₂ req₂' : List String} (h : NoMore side req₁ req₁')
    (h' : NoMore side req₂ req₂') : NoMore side (req₁ ++ req₂) (req₁' ++ req₂') := by
  intro hside pName hmem
  rw [List.mem_append] at hmem ⊢
  exact hmem.imp (h hside pName) (h' hside pName)

theorem MergedAgree.add {merged merged' : Merged} {e e' : Effective}
    (h : MergedAgree R side Old merged merged') (he : Agree R side Old e e') :
    MergedAgree R side Old (merged.addEffective e) (merged'.addEffective e') where
  type := by
    unfold Merged.addEffective
    rw [he.type, h.type]
  props pName hold := by
    rw [Merged.addEffective_get?, Merged.addEffective_get?]
    exact optionRel_or (he.props pName hold) (h.props pName hold)
  req := h.req.append he.req

/-- The loop over members that agree. -/
theorem MergedAgree.foldl {eff eff' : Schema → Effective} {subs subs' : List Schema}
    (hsubs : List.Forall₂ (fun sub sub' => Agree R side Old (eff sub) (eff' sub')) subs subs') :
    ∀ {merged merged' : Merged}, MergedAgree R side Old merged merged' →
      MergedAgree R side Old
        (subs.foldl (fun merged sub => merged.addEffective (eff sub)) merged)
        (subs'.foldl (fun merged sub => merged.addEffective (eff' sub)) merged') := by
  induction hsubs with
  | nil => exact id
  | cons hsub _ ih => exact fun h => ih (h.add hsub)

end Resolve

/-! ### What the check makes of additive changes -/

section Check

variable {b c : Spec} {R : Side → Schema → Schema → Prop} {rt : Runtime}

end Check

def messageRef : Schema := { ref := some "#/components/schemas/AuthMessageResponse" }

/-- An answer with a message that is always present or not. -/
def messageSchema (required : List String) : Schema where
  type := some (.name "object")
  properties := some 0
  required := some required

def resetOperation : Operation where
  responses := Dict.ofPairs [("202", Dict.ofPairs [("application/json", ⟨messageRef⟩)])]

/-- A document with `POST /api/v1/auth/request-reset`. -/
def resetSpec (required : List String) : Spec where
  paths := Dict.ofPairs [("/api/v1/auth/request-reset",
    Dict.ofPairs [("post", .operation resetOperation)])]
  schemas := Dict.ofPairs [("AuthMessageResponse", messageSchema required)]
  heap _ := Dict.ofPairs [("message", { type := some (.name "string") })]

/-- The schemas of the response, before and after. -/
inductive ResetRelated : Side → Schema → Schema → Prop
  | ref : ResetRelated .response messageRef messageRef
  | answer : ResetRelated .response (messageSchema []) (messageSchema ["message"])
  | message : ResetRelated .response { type := some (.name "string") }
      { type := some (.name "string") }

theorem messageRef_target : messageRef.target? = some "AuthMessageResponse" := rfl

theorem ResetRelated.component {side : Side} {s s' : Schema} {schemaName : String}
    (h : ResetRelated side s s') (href : s.target? = some schemaName) :
    ResetRelated side ((resetSpec []).component schemaName)
      ((resetSpec ["message"]).component schemaName) := by
  cases h with
  | ref =>
      rw [messageRef_target] at href
      obtain rfl := Option.some.inj href
      exact .answer
  | answer => cases href
  | message => cases href

theorem ResetRelated.own {side : Side} {s s' t t' : Schema}
    (ht : Together (resetSpec []) (resetSpec ["message"]) s s' t t') :
    ResetRelated side s s' →
      t'.own (resetSpec ["message"]).heap = t.own (resetSpec []).heap := by
  induction ht with
  | here =>
      intro h
      cases h <;> rfl
  | ref href _ ih => exact fun h => ih (h.component href)
  | member hallOf _ _ _ _ _ =>
      intro h
      cases h <;> cases hallOf

/-- A reference to a component. -/
def refTo (schemaName : String) : Schema := { ref := some ("#/components/schemas/" ++ schemaName) }

/-- Components `M0` to `M14`, each with a property of its own and composed of the next, and `S`,
composed of `M1`, with properties that refer into the chain and back to `S`. -/
def chainSpec : Spec where
  paths := Dict.ofPairs [("/api/v1/chain", Dict.ofPairs [("get", .operation
    { responses := Dict.ofPairs [("200", Dict.ofPairs [("application/json", ⟨refTo "S"⟩)])] })])]
  schemas := Dict.ofPairs (("S", { properties := some 15, allOf := some [refTo "M1"] }) ::
    (List.range 15).map fun i => ("M" ++ toString i,
      { properties := some i, allOf := some [refTo ("M" ++ toString (i + 1))] }))
  heap l :=
    if l = 15 then
      Dict.ofPairs [("s", { type := some (.name "string") }), ("x", refTo "M5"), ("y", refTo "S")]
    else Dict.ofPairs [("m" ++ toString l, { type := some (.name "string") })]

-- This document is not regular: resolving `x` extends a dictionary in the part of the chain that
-- was cut off before, so resolving `y` brings new names to the very dictionary being gone through.
example : checkSpecStability asciiRuntime chainSpec chainSpec =
    .error (.exception "dictionary changed size during iteration") := by
  decide +kernel

end ApiStability

end GaiaOS
