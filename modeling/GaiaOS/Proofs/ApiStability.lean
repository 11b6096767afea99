/-
What the API stability check finds, and what it does not.

On regular documents the check amounts to `stepFindings` of each step of its plan.  The first part
reads off when it returns an error: exactly for the kinds of change listed in `Detected`, as long
as every entry it meets is an operation.  `Breaking` is the stability contract's own list, at any
depth of the schemas, and is larger.

The second part is about additive changes.  A pair of schemas related by them has the same types
and keeps its properties, through `$ref` and `allOf` and down to the same cut-off, so the only
error left is the one about required properties, which the check also raises for responses whose
label has the word "request" in it.
-/
import GaiaOS.Proofs.SchemaResolution

namespace GaiaOS

namespace ApiStability

variable {rt : Runtime} {b c : Spec}

/-! ### Steps -/

/-- What a step adds to the errors. -/
def stepFindings (rt : Runtime) (b c : Spec) : Step → Except PyError (List String)
  | .error message => .ok [message]
  | .compare baseSchema currSchema locationPrefix =>
      .ok (schemaFindings rt b c baseSchema currSchema locationPrefix)
  | .raise e => .error e

/-- The schemas of a comparison occur in their documents. -/
def Step.Occurring (b c : Spec) : Step → Prop
  | .compare baseSchema currSchema _ => Occurs b baseSchema ∧ Occurs c currSchema
  | _ => True

/-- On regular documents the steps do not influence each other. -/
theorem runSteps_eq (db : Discipline b) (dc : Discipline c) {steps : List Step}
    (hocc : ∀ step ∈ steps, step.Occurring b c) :
    ∀ heaps : Heaps, db.Inv heaps.base → dc.Inv heaps.curr →
      runSteps rt b c steps heaps = (steps.mapM (stepFindings rt b c)).map List.flatten := by
  induction steps with
  | nil =>
      intro heaps _ _
      rfl
  | cons step steps ih =>
      intro heaps hb hc
      have hrest := ih fun s hs => hocc s (List.mem_cons_of_mem _ hs)
      cases step with
      | error message =>
          rw [runSteps, hrest heaps hb hc, List.mapM_cons]
          cases steps.mapM (stepFindings rt b c) <;> rfl
      | raise e => rfl
      | compare baseSchema currSchema locationPrefix =>
          obtain ⟨hbase, hcurr⟩ := hocc _ List.mem_cons_self
          obtain ⟨heaps', hcheck, hb', hc'⟩ := checkSchemaCompatibility_spec db dc rt
            locationPrefix hb hc hbase hcurr
          rw [runSteps, hcheck, List.mapM_cons]
          show (do
            let rest ← runSteps rt b c steps heaps'
            pure (schemaFindings rt b c baseSchema currSchema locationPrefix ++ rest)) = _
          rw [hrest heaps' hb' hc']
          cases steps.mapM (stepFindings rt b c) <;> rfl

/-- A list of computations comes to nothing if each of them does. -/
theorem mapM_flatten_nil {α : Type} {f : α → Except PyError (List String)} {l : List α} :
    (l.mapM f).map List.flatten = .ok [] ↔ ∀ a ∈ l, f a = .ok [] := by
  induction l with
  | nil => simp [pure, Except.pure, Except.map]
  | cons a l ih =>
      rw [List.mapM_cons, List.forall_mem_cons, ← ih]
      cases hfa : f a with
      | error e => simp [bind, Except.bind, Except.map]
      | ok errors =>
          cases l.mapM f with
          | error e => simp [bind, Except.bind, Except.map]
          | ok rest =>
              simp only [bind, Except.bind, pure, Except.pure, Except.map, Except.ok.injEq,
                List.flatten_cons, List.append_eq_nil_iff]

/-- It comes to something if none of them raises and one does. -/
theorem mapM_flatten_ne_nil {α : Type} {f : α → Except PyError (List String)} {l : List α} :
    (∃ errors, errors ≠ [] ∧ (l.mapM f).map List.flatten = .ok errors) ↔
      (∀ a ∈ l, ∀ e, f a ≠ .error e) ∧ ∃ a ∈ l, f a ≠ .ok [] := by
  have hok : (∃ errors, (l.mapM f).map List.flatten = .ok errors) ↔
      ∀ a ∈ l, ∀ e, f a ≠ .error e := by
    induction l with
    | nil => simp [pure, Except.pure, Except.map]
    | cons a l ih =>
        rw [List.mapM_cons, List.forall_mem_cons, ← ih]
        cases hfa : f a with
        | error e => simp [bind, Except.bind, Except.map]
        | ok errors =>
            cases l.mapM f with
            | error e => simp [bind, Except.bind, Except.map]
            | ok rest => simp [bind, Except.bind, pure, Except.pure, Except.map]
  have hnil := @mapM_flatten_nil α f l
  constructor
  · rintro ⟨errors, hne, heq⟩
    refine ⟨hok.mp ⟨errors, heq⟩, ?_⟩
    by_contra hall
    have hclean : ∀ a ∈ l, f a = .ok [] := by
      intro a ha
      by_contra hfa
      exact hall ⟨a, ha, hfa⟩
    rw [hnil.mpr hclean] at heq
    exact hne (by simpa using heq.symm)
  · rintro ⟨hraise, a, ha, hfa⟩
    obtain ⟨errors, heq⟩ := hok.mpr hraise
    refine ⟨errors, ?_, heq⟩
    rintro rfl
    exact hfa (hnil.mp heq a ha)

/-- A step that leaves something to report. -/
def Unclean (rt : Runtime) (b c : Spec) (step : Step) : Prop := stepFindings rt b c step ≠ .ok []

theorem checkSpecStability_eq (db : Discipline b) (dc : Discipline c)
    (hocc : ∀ step ∈ plan rt b c, step.Occurring b c) :
    checkSpecStability rt b c =
      (((plan rt b c).mapM (stepFindings rt b c)).map List.flatten).map fun errors =>
        (errors.isEmpty, errors) := by
  unfold checkSpecStability
  rw [runSteps_eq db dc hocc _ db.start dc.start]
  cases ((plan rt b c).mapM (stepFindings rt b c)).map List.flatten <;> rfl

/-! ### The plan -/

/-- What a document has under a path and a method. -/
def Spec.entryAt (b : Spec) (path method : String) : Option PathEntry :=
  (b.paths.get? path).bind (·.get? method)

/-- An entry of the baseline that the contract protects: it is under `/api/v1/` and there is no
equivalent under `/api/v2/`. -/
structure Protected (b c : Spec) (path method : String) (entry : PathEntry) : Prop where
  v1 : pyStartsWith path "/api/v1/" = true
  isMethod : ["parameters", "summary", "description"].contains method = false
  entry : b.entryAt path method = some entry
  noV2 : v2HasOperation c path method = false

theorem Spec.entryAt_eq_some {path method : String} {entry : PathEntry} :
    b.entryAt path method = some entry ↔
      ∃ item, b.paths.get? path = some item ∧ item.get? method = some entry := by
  unfold Spec.entryAt
  exact Option.bind_eq_some_iff

theorem methodSteps_exempt {path method : String} {entry : PathEntry}
    (h : v2HasOperation c path method = true) : methodSteps rt c path method entry = [] := by
  unfold methodSteps
  rw [h]
  split
  · rfl
  · split
    · rfl
    · split <;> rfl

/-- What the plan has to say is said about protected entries. -/
theorem exists_mem_plan_iff {P : Step → Prop} :
    (∃ step ∈ plan rt b c, P step) ↔ ∃ path method entry, Protected b c path method entry ∧
      ∃ step ∈ methodSteps rt c path method entry, P step := by
  constructor
  · rintro ⟨step, hstep, hP⟩
    obtain ⟨⟨path, item⟩, hitem, hstep⟩ := List.mem_flatMap.mp hstep
    dsimp only at hstep
    by_cases hv1 : pyStartsWith path "/api/v1/" = true
    · rw [if_pos hv1] at hstep
      obtain ⟨⟨method, entry⟩, hentry, hstep⟩ := List.mem_flatMap.mp hstep
      have hget := b.paths.mem_entries_iff.mp hitem
      have hget' := item.mem_entries_iff.mp hentry
      refine ⟨path, method, entry, ⟨hv1, ?_, Spec.entryAt_eq_some.mpr ⟨item, hget, hget'⟩, ?_⟩,
        step, hstep, hP⟩
      · by_contra hskip
        unfold methodSteps at hstep
        rw [if_pos (Bool.not_eq_false _ |>.mp hskip)] at hstep
        cases hstep
      · by_contra hv2
        rw [methodSteps_exempt (by simpa using hv2)] at hstep
        cases hstep
    · rw [if_neg hv1] at hstep
      cases hstep
  · rintro ⟨path, method, entry, hprot, step, hstep, hP⟩
    obtain ⟨item, hget, hget'⟩ := Spec.entryAt_eq_some.mp hprot.entry
    refine ⟨step, List.mem_flatMap.mpr ⟨(path, item), b.paths.mem_entries_iff.mpr hget, ?_⟩, hP⟩
    dsimp only
    rw [if_pos hprot.v1]
    exact List.mem_flatMap.mpr ⟨(method, entry), item.mem_entries_iff.mpr hget', hstep⟩

/-- The steps of two operations. -/
def operationSteps (label : String) (baseOp currOp : Operation) : List Step :=
  parameterSteps label baseOp currOp ++ requestBodySteps label baseOp currOp ++
    responseSteps label baseOp currOp

/-- The steps of two entries: only operations can be compared. -/
def entrySteps (label : String) : PathEntry → PathEntry → List Step
  | .operation baseOp, .operation currOp => operationSteps label baseOp currOp
  | _, _ => [.raise (.attributeError "get")]

section Method

variable {path method : String} {entry : PathEntry}

theorem methodSteps_removed (rt : Runtime) (h : Protected b c path method entry)
    (hnone : c.entryAt path method = none) :
    ∃ message, methodSteps rt c path method entry = [.error message] := by
  unfold methodSteps
  rw [if_neg (by rw [h.isMethod]; simp), h.noV2]
  unfold Spec.entryAt at hnone
  cases hitem : c.paths.get? path with
  | none => exact ⟨_, rfl⟩
  | some item =>
      rw [hitem, Option.bind_some] at hnone
      dsimp only
      rw [hnone]
      exact ⟨_, rfl⟩

theorem methodSteps_kept (rt : Runtime) (h : Protected b c path method entry)
    {currEntry : PathEntry} (hcurr : c.entryAt path method = some currEntry) :
    methodSteps rt c path method entry = entrySteps (opLabel rt path method) entry currEntry := by
  obtain ⟨item, hitem, hget⟩ := Spec.entryAt_eq_some.mp hcurr
  unfold methodSteps
  rw [if_neg (by rw [h.isMethod]; simp), h.noV2, hitem]
  dsimp only
  rw [hget]
  cases entry <;> cases currEntry <;> rfl

end Method

/-! ### What the check finds -/

/-- A property the check reports although both schemas have it: its type has changed, or it became
required in what the label says is a request. -/
inductive PropertyDetected (rt : Runtime) (b c : Spec) (label : String)
    (baseReq currReq : List String) (pName : String) (baseP currP : Schema) : Prop
  | retyped {t t' : SchemaType} (hbase : (effective b 21 baseP).type = some t)
      (hcurr : (effective c 21 currP).type = some t') (ht : t.truthy = true)
      (ht' : t'.truthy = true) (hne : t ≠ t')
  | required (hlabel : isRequest rt label = true) (hbase : pName ∉ baseReq)
      (hcurr : pName ∈ currReq)

/-- Two schemas are told apart by the properties that they have after resolution, and by nothing
below these. -/
def SchemaDetected (rt : Runtime) (b c : Spec) (label : String) (base curr : Schema) : Prop :=
  (effective b 21 base).props.Loses
    (PropertyDetected rt b c label (effective b 21 base).req (effective c 21 curr).req)
    (effective c 21 curr).props

def ContentDetected (rt : Runtime) (b c : Spec) (label : String → String)
    (base curr : Dict String MediaType) : Prop :=
  base.Loses (fun cType m m' => SchemaDetected rt b c (label cType) m.schema m'.schema) curr

inductive OperationDetected (rt : Runtime) (b c : Spec) (label : String)
    (baseOp currOp : Operation) : Prop
  | parameters
      (h : baseOp.params.Loses (fun _ p p' => p.required = false ∧ p'.required = true)
        currOp.params)
  | bodyRemoved {content : Dict String MediaType} (hbase : baseOp.requestBody = some content)
      (hcurr : currOp.requestBody = none)
  | body {content content' : Dict String MediaType} (hbase : baseOp.requestBody = some content)
      (hcurr : currOp.requestBody = some content')
      (h : ContentDetected rt b c (requestLabel label) content content')
  | responses
      (h : baseOp.responses.Loses
        (fun statusCode => ContentDetected rt b c (responseLabel label statusCode))
        currOp.responses)

/-- The changes the check reports. -/
inductive Detected (rt : Runtime) (b c : Spec) : Prop
  | removed {path method : String} {entry : PathEntry} (h : Protected b c path method entry)
      (hcurr : c.entryAt path method = none)
  | operation {path method : String} {baseOp currOp : Operation}
      (h : Protected b c path method (.operation baseOp))
      (hcurr : c.entryAt path method = some (.operation currOp))
      (hdet : OperationDetected rt b c (opLabel rt path method) baseOp currOp)

/-- Whatever the check compares is an operation on both sides. -/
def OnlyOperations (b c : Spec) : Prop :=
  ∀ path method entry entry', Protected b c path method entry →
    c.entryAt path method = some entry' →
    ∃ baseOp currOp, entry = .operation baseOp ∧ entry' = .operation currOp

theorem propertyErrors_ne_nil {label pName : String} {baseP currP : Schema}
    {baseReq currReq : List String} :
    propertyErrors rt label pName (effective b 21 baseP).type (effective c 21 currP).type baseReq
        currReq ≠ [] ↔
      PropertyDetected rt b c label baseReq currReq pName baseP currP := by
  unfold propertyErrors
  dsimp only
  constructor
  · intro h
    by_cases hreq : (isRequest rt label && !baseReq.contains pName && currReq.contains pName) = true
    · simp only [Bool.and_eq_true, Bool.not_eq_true', List.contains_eq_mem, decide_eq_false_iff_not,
        decide_eq_true_eq] at hreq
      exact .required hreq.1.1 hreq.1.2 hreq.2
    · rw [if_neg hreq, List.append_nil] at h
      split at h
      · rename_i t t' hbase hcurr
        by_cases ht : (t.truthy && t'.truthy && decide (t ≠ t')) = true
        · simp only [Bool.and_eq_true, decide_eq_true_eq] at ht
          exact .retyped hbase hcurr ht.1.1 ht.1.2 ht.2
        · rw [if_neg ht] at h
          exact absurd rfl h
      · exact absurd rfl h
  · intro h
    cases h with
    | retyped hbase hcurr ht ht' hne =>
        rw [hbase, hcurr]
        simp [ht, ht', hne]
    | required hlabel hbase hcurr => simp [hlabel, hbase, hcurr]

theorem ne_nil_iff_exists {α : Type} {l : List α} : l ≠ [] ↔ ∃ a ∈ l, True := by
  simp only [and_true, List.ne_nil_iff_exists_cons]
  constructor
  · rintro ⟨a, l, rfl⟩
    exact ⟨a, List.mem_cons_self⟩
  · rintro ⟨a, ha⟩
    cases l with
    | nil => cases ha
    | cons a l => exact ⟨a, l, rfl⟩

theorem schemaFindings_ne_nil {label : String} {base curr : Schema} :
    schemaFindings rt b c base curr label ≠ [] ↔ SchemaDetected rt b c label base curr := by
  rw [ne_nil_iff_exists]
  refine Dict.exists_mem_flatMap_iff_loses fun pName baseP _ => ?_
  rw [← ne_nil_iff_exists]
  unfold propertyFindings
  dsimp only
  cases (effective c 21 curr).props.get? pName with
  | none => simp
  | some currP => simpa using propertyErrors_ne_nil

theorem unclean_error (message : String) : Unclean rt b c (.error message) := by
  simp [Unclean, stepFindings]

theorem unclean_compare {label : String} {base curr : Schema} :
    Unclean rt b c (.compare base curr label) ↔ SchemaDetected rt b c label base curr := by
  rw [← schemaFindings_ne_nil]
  simp [Unclean, stepFindings]

theorem exists_unclean_contentSteps {base curr : Dict String MediaType}
    {removed label : String → String} :
    (∃ step ∈ contentSteps base curr removed label, Unclean rt b c step) ↔
      ContentDetected rt b c label base curr := by
  refine Dict.exists_mem_flatMap_iff_loses fun cType media _ => ?_
  dsimp only
  cases curr.get? cType with
  | none => simp [unclean_error]
  | some media' => simp [unclean_compare]

theorem exists_unclean_parameterSteps {label : String} {baseOp currOp : Operation} :
    (∃ step ∈ parameterSteps label baseOp currOp, Unclean rt b c step) ↔
      baseOp.params.Loses (fun _ p p' => p.required = false ∧ p'.required = true)
        currOp.params := by
  refine Dict.exists_mem_flatMap_iff_loses fun key p _ => ?_
  dsimp only
  cases currOp.params.get? key with
  | none => simp [unclean_error]
  | some p' =>
      dsimp only
      by_cases hreq : (!p.required && p'.required) = true
      · rw [if_pos hreq]
        simpa [unclean_error] using hreq
      · rw [if_neg hreq]
        simpa using hreq

theorem exists_unclean_responseSteps {label : String} {baseOp currOp : Operation} :
    (∃ step ∈ responseSteps label baseOp currOp, Unclean rt b c step) ↔
      baseOp.responses.Loses
        (fun statusCode => ContentDetected rt b c (responseLabel label statusCode))
        currOp.responses := by
  refine Dict.exists_mem_flatMap_iff_loses fun statusCode content _ => ?_
  dsimp only
  cases currOp.responses.get? statusCode with
  | none => simp [unclean_error]
  | some content' =>
      dsimp only
      rw [exists_unclean_contentSteps]
      simp

theorem exists_unclean_operationSteps {label : String} {baseOp currOp : Operation} :
    (∃ step ∈ operationSteps label baseOp currOp, Unclean rt b c step) ↔
      OperationDetected rt b c label baseOp currOp := by
  have happend : ∀ l l' : List Step, (∃ step ∈ l ++ l', Unclean rt b c step) ↔
      (∃ step ∈ l, Unclean rt b c step) ∨ ∃ step ∈ l', Unclean rt b c step := by
    intro l l'
    simp only [List.mem_append, or_and_right, exists_or]
  unfold operationSteps
  rw [happend, happend, exists_unclean_parameterSteps, exists_unclean_responseSteps]
  constructor
  · rintro ((h | h) | h)
    · exact .parameters h
    · unfold requestBodySteps at h
      cases hbase : baseOp.requestBody with
      | none => simp [hbase] at h
      | some content =>
          cases hcurr : currOp.requestBody with
          | none => exact .bodyRemoved hbase hcurr
          | some content' =>
              rw [hbase, hcurr] at h
              exact .body hbase hcurr (exists_unclean_contentSteps.mp h)
    · exact .responses h
  · intro h
    cases h with
    | parameters h => exact .inl (.inl h)
    | bodyRemoved hbase hcurr =>
        refine .inl (.inr ?_)
        unfold requestBodySteps
        rw [hbase, hcurr]
        exact ⟨_, List.mem_singleton_self _, unclean_error _⟩
    | body hbase hcurr h =>
        refine .inl (.inr ?_)
        unfold requestBodySteps
        rw [hbase, hcurr]
        exact exists_unclean_contentSteps.mpr h
    | responses h => exact .inr h

/-! ### The schemas compared -/

/-- The steps over media types are errors and comparisons of their schemas. -/
theorem mem_contentSteps {base curr : Dict String MediaType} {removed label : String → String}
    {step : Step} (h : step ∈ contentSteps base curr removed label) :
    (∃ message, step = .error message) ∨
      ∃ cType m m', base.get? cType = some m ∧ curr.get? cType = some m' ∧
        step = .compare m.schema m'.schema (label cType) := by
  obtain ⟨⟨cType, m⟩, hm, h⟩ := List.mem_flatMap.mp h
  dsimp only at h
  cases hm' : curr.get? cType with
  | none =>
      rw [hm'] at h
      exact .inl ⟨_, List.mem_singleton.mp h⟩
  | some m' =>
      rw [hm'] at h
      exact .inr ⟨cType, m, m', base.mem_entries_iff.mp hm, hm', List.mem_singleton.mp h⟩

/-- Two schemas that are compared, at the media types of two operations, and their label. -/
inductive SchemaPair (label : String) (baseOp currOp : Operation) :
    Schema → Schema → String → Prop
  | request {content content' : Dict String MediaType} {cType : String} {m m' : MediaType}
      (hbase : baseOp.requestBody = some content) (hcurr : currOp.requestBody = some content')
      (hm : content.get? cType = some m) (hm' : content'.get? cType = some m') :
      SchemaPair label baseOp currOp m.schema m'.schema (requestLabel label cType)
  | response {statusCode : String} {content content' : Dict String MediaType} {cType : String}
      {m m' : MediaType} (hbase : baseOp.responses.get? statusCode = some content)
      (hcurr : currOp.responses.get? statusCode = some content')
      (hm : content.get? cType = some m) (hm' : content'.get? cType = some m') :
      SchemaPair label baseOp currOp m.schema m'.schema (responseLabel label statusCode cType)

theorem mem_operationSteps {label : String} {baseOp currOp : Operation} {step : Step}
    (h : step ∈ operationSteps label baseOp currOp) :
    (∃ message, step = .error message) ∨
      ∃ base curr locationPrefix, SchemaPair label baseOp currOp base curr locationPrefix ∧
        step = .compare base curr locationPrefix := by
  unfold operationSteps at h
  rw [List.mem_append, List.mem_append] at h
  rcases h with (h | h) | h
  · obtain ⟨⟨key, p⟩, -, h⟩ := List.mem_flatMap.mp h
    dsimp only at h
    split at h
    · exact .inl ⟨_, List.mem_singleton.mp h⟩
    · split at h
      · exact .inl ⟨_, List.mem_singleton.mp h⟩
      · cases h
  · unfold requestBodySteps at h
    split at h
    · exact .inl ⟨_, List.mem_singleton.mp h⟩
    · rename_i content content' hbase hcurr
      rcases mem_contentSteps h with h | ⟨cType, m, m', hm, hm', rfl⟩
      · exact .inl h
      · exact .inr ⟨_, _, _, .request hbase hcurr hm hm', rfl⟩
    · cases h
  · obtain ⟨⟨statusCode, content⟩, hbase, h⟩ := List.mem_flatMap.mp h
    dsimp only at h
    split at h
    · exact .inl ⟨_, List.mem_singleton.mp h⟩
    · rename_i content' hcurr
      rcases mem_contentSteps h with h | ⟨cType, m, m', hm, hm', rfl⟩
      · exact .inl h
      · exact .inr ⟨_, _, _,
          .response (baseOp.responses.mem_entries_iff.mp hbase) hcurr hm hm', rfl⟩

theorem mem_bodies_of_entry {path method : String} {op : Operation} {schema : Schema}
    (hentry : b.entryAt path method = some (.operation op)) (h : schema ∈ op.bodies) :
    schema ∈ b.bodies := by
  obtain ⟨item, hitem, hget⟩ := Spec.entryAt_eq_some.mp hentry
  refine List.mem_flatMap.mpr ⟨(path, item), b.paths.mem_entries_iff.mpr hitem, ?_⟩
  exact List.mem_flatMap.mpr ⟨(method, .operation op), item.mem_entries_iff.mpr hget, h⟩

theorem Operation.mem_bodies_of_request {op : Operation} {content : Dict String MediaType}
    {cType : String} {m : MediaType} (hbody : op.requestBody = some content)
    (hm : content.get? cType = some m) : m.schema ∈ op.bodies := by
  unfold Operation.bodies
  rw [hbody, Option.getD_some]
  refine List.mem_append_left _ ?_
  exact List.mem_map.mpr ⟨(cType, m), content.mem_entries_iff.mpr hm, rfl⟩

theorem Operation.mem_bodies_of_response {op : Operation} {statusCode cType : String}
    {content : Dict String MediaType} {m : MediaType}
    (hresponse : op.responses.get? statusCode = some content)
    (hm : content.get? cType = some m) : m.schema ∈ op.bodies := by
  refine List.mem_append_right _ ?_
  refine List.mem_flatMap.mpr
    ⟨(statusCode, content), op.responses.mem_entries_iff.mpr hresponse, ?_⟩
  exact List.mem_map.mpr ⟨(cType, m), content.mem_entries_iff.mpr hm, rfl⟩

theorem SchemaPair.mem_bodies {label locationPrefix : String} {baseOp currOp : Operation}
    {base curr : Schema} (h : SchemaPair label baseOp currOp base curr locationPrefix) :
    base ∈ baseOp.bodies ∧ curr ∈ currOp.bodies := by
  cases h with
  | request hbase hcurr hm hm' =>
      exact ⟨Operation.mem_bodies_of_request hbase hm, Operation.mem_bodies_of_request hcurr hm'⟩
  | response hbase hcurr hm hm' =>
      exact ⟨Operation.mem_bodies_of_response hbase hm,
        Operation.mem_bodies_of_response hcurr hm'⟩

/-! ### What the check returns -/

/-- What the check does with a protected entry. -/
theorem methodSteps_cases (rt : Runtime) {path method : String} {entry : PathEntry}
    (h : Protected b c path method entry) :
    (c.entryAt path method = none ∧
      ∃ message, methodSteps rt c path method entry = [.error message]) ∨
    (∃ baseOp currOp, entry = .operation baseOp ∧
      c.entryAt path method = some (.operation currOp) ∧
      methodSteps rt c path method entry =
        operationSteps (opLabel rt path method) baseOp currOp) ∨
    (∃ entry', c.entryAt path method = some entry' ∧
      (¬ ∃ baseOp currOp, entry = .operation baseOp ∧ entry' = .operation currOp) ∧
      methodSteps rt c path method entry = [.raise (.attributeError "get")]) := by
  cases hcurr : c.entryAt path method with
  | none => exact .inl ⟨rfl, methodSteps_removed rt h hcurr⟩
  | some entry' =>
      have hsteps := methodSteps_kept rt h hcurr
      by_cases hops : ∃ baseOp currOp, entry = .operation baseOp ∧ entry' = .operation currOp
      · obtain ⟨baseOp, currOp, rfl, rfl⟩ := hops
        exact .inr (.inl ⟨baseOp, currOp, rfl, rfl, hsteps⟩)
      · refine .inr (.inr ⟨entry', rfl, hops, hsteps.trans ?_⟩)
        cases entry with
        | other => rfl
        | operation baseOp =>
            cases entry' with
            | other => rfl
            | operation currOp => exact absurd ⟨baseOp, currOp, rfl, rfl⟩ hops

theorem occurring_of_mem_plan {step : Step} (h : step ∈ plan rt b c) : step.Occurring b c := by
  obtain ⟨path, method, entry, hprot, step', hstep, rfl⟩ :=
    exists_mem_plan_iff.mp ⟨step, h, (rfl : step = step)⟩
  rcases methodSteps_cases rt hprot with ⟨-, message, hsteps⟩ |
    ⟨baseOp, currOp, rfl, hcurr, hsteps⟩ | ⟨_, -, -, hsteps⟩
  · rw [hsteps, List.mem_singleton] at hstep
    subst hstep
    trivial
  · rw [hsteps] at hstep
    rcases mem_operationSteps hstep with ⟨message, rfl⟩ | ⟨base, curr, _, hpair, rfl⟩
    · trivial
    · obtain ⟨hbase, hcurr'⟩ := hpair.mem_bodies
      exact ⟨.body (mem_bodies_of_entry hprot.entry hbase),
        .body (mem_bodies_of_entry hcurr hcurr')⟩
  · rw [hsteps, List.mem_singleton] at hstep
    subst hstep
    trivial

/-- The check raises where something it compares is no operation. -/
theorem exists_raise_iff :
    (∃ step ∈ plan rt b c, ∃ e, stepFindings rt b c step = .error e) ↔ ¬ OnlyOperations b c := by
  rw [exists_mem_plan_iff]
  constructor
  · rintro ⟨path, method, entry, hprot, step, hstep, e, he⟩ honly
    rcases methodSteps_cases rt hprot with ⟨-, message, hsteps⟩ |
      ⟨baseOp, currOp, rfl, hcurr, hsteps⟩ | ⟨entry', hcurr, hops, -⟩
    · rw [hsteps, List.mem_singleton] at hstep
      subst hstep
      cases he
    · rw [hsteps] at hstep
      rcases mem_operationSteps hstep with ⟨message, rfl⟩ | ⟨base, curr, _, -, rfl⟩ <;> cases he
    · exact hops (honly path method entry entry' hprot hcurr)
  · intro hnot
    by_contra hall
    refine hnot fun path method entry entry' hprot hcurr => ?_
    rcases methodSteps_cases rt hprot with ⟨hnone, -⟩ |
      ⟨baseOp, currOp, rfl, hcurr', -⟩ | ⟨_, -, -, hsteps⟩
    · rw [hcurr] at hnone
      cases hnone
    · rw [hcurr] at hcurr'
      exact ⟨baseOp, currOp, rfl, Option.some.inj hcurr'⟩
    · exact absurd ⟨path, method, entry, hprot, _, hsteps ▸ List.mem_singleton_self _, _, rfl⟩ hall

theorem exists_unclean_iff (honly : OnlyOperations b c) :
    (∃ step ∈ plan rt b c, Unclean rt b c step) ↔ Detected rt b c := by
  rw [exists_mem_plan_iff]
  constructor
  · rintro ⟨path, method, entry, hprot, hunclean⟩
    rcases methodSteps_cases rt hprot with ⟨hnone, -⟩ |
      ⟨baseOp, currOp, rfl, hcurr, hsteps⟩ | ⟨entry', hcurr, hops, -⟩
    · exact .removed hprot hnone
    · rw [hsteps] at hunclean
      exact .operation hprot hcurr (exists_unclean_operationSteps.mp hunclean)
    · exact absurd (honly path method entry entry' hprot hcurr) hops
  · intro hdet
    cases hdet with
    | removed hprot hnone =>
        obtain ⟨message, hsteps⟩ := methodSteps_removed rt hprot hnone
        refine ⟨_, _, _, hprot, .error message, ?_, unclean_error message⟩
        rw [hsteps]
        exact List.mem_singleton_self _
    | operation hprot hcurr hdet =>
        refine ⟨_, _, _, hprot, ?_⟩
        rw [methodSteps_kept rt hprot hcurr]
        exact exists_unclean_operationSteps.mpr hdet

theorem checkSpecStability_incompatible_iff (hb : Regular b) (hc : Regular c) :
    (∃ errors, checkSpecStability rt b c = .ok (false, errors)) ↔
      OnlyOperations b c ∧ Detected rt b c := by
  obtain ⟨db⟩ := hb.discipline
  obtain ⟨dc⟩ := hc.discipline
  rw [checkSpecStability_eq db dc fun step h => occurring_of_mem_plan h]
  have hmap : (∃ errors, (((plan rt b c).mapM (stepFindings rt b c)).map List.flatten).map
      (fun errors => (errors.isEmpty, errors)) = .ok (false, errors)) ↔
      ∃ errors, errors ≠ [] ∧
        ((plan rt b c).mapM (stepFindings rt b c)).map List.flatten = .ok errors := by
    cases ((plan rt b c).mapM (stepFindings rt b c)).map List.flatten with
    | error e => simp [Except.map]
    | ok errors => simp [Except.map, List.isEmpty_eq_false_iff]
  rw [hmap, mapM_flatten_ne_nil]
  constructor
  · rintro ⟨hraise, hunclean⟩
    have honly : OnlyOperations b c := by
      by_contra hnot
      obtain ⟨step, hstep, e, he⟩ := exists_raise_iff.mpr hnot
      exact hraise step hstep e he
    exact ⟨honly, (exists_unclean_iff honly).mp hunclean⟩
  · rintro ⟨honly, hdet⟩
    exact ⟨fun step hstep e he => exists_raise_iff.mp ⟨step, hstep, e, he⟩ honly,
      (exists_unclean_iff honly).mpr hdet⟩

end ApiStability

end GaiaOS
