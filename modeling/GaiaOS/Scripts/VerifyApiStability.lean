/-
The API stability check, after `scripts/verify_api_stability.py`.

A specification is what the check reads of an OpenAPI document, together with the keywords of a
schema that the stability contract is about.  `resolve_schema` follows `$ref` and flattens
`allOf` down to a depth of twenty; where a schema has both `allOf` and `properties` it extends
that very `properties` dictionary of the document, and later readers see it extended.  So the
dictionaries have an identity: a schema holds the place of its `properties`, and the places are
read and written in a heap.

`plan` is the sequence of errors and schema comparisons the loops over paths, methods,
parameters and media types come to; it does not depend on the heap, which the comparisons then
go through in that order.
-/
import GaiaOS.Lib.Dict
import GaiaOS.Lib.Text

namespace GaiaOS

namespace ApiStability

/-- The `type` of a schema: a name or a list of names. -/
inductive SchemaType
  | name (t : String)
  | names (ts : List String)
  deriving DecidableEq

/-- `bool(type)`. -/
def SchemaType.truthy : SchemaType → Bool
  | name t => t != ""
  | names ts => !ts.isEmpty

/-- `str(type)`, where `repr` prints a text in a list. -/
def SchemaType.str (repr : String → String) : SchemaType → String
  | name t => t
  | names ts => "[" ++ String.intercalate ", " (ts.map repr) ++ "]"

/-- The place of a `properties` dictionary. -/
abbrev Loc := Nat

structure Schema where
  ref : Option String := none
  type : Option SchemaType := none
  properties : Option Loc := none
  required : Option (List String) := none
  allOf : Option (List Schema) := none
  anyOf : Option (List Schema) := none
  items : Option Schema := none
  nullable : Bool := false
  deprecated : Bool := false

/-- The `properties` dictionaries of a document. -/
abbrev Heap := Loc → Dict String Schema

structure Parameter where
  name : Option String
  location : Option String
  required : Bool
  schema : Option Schema

structure MediaType where
  schema : Schema := {}

structure Operation where
  parameters : List Parameter := []
  /-- The media types of the request body, if there is one. -/
  requestBody : Option (Dict String MediaType) := none
  /-- The media types of each response. -/
  responses : Dict String (Dict String MediaType) := .empty
  deprecated : Bool := false

/-- An entry of a path item: an operation, or a value that is no object (`servers`, `$ref`). -/
inductive PathEntry
  | operation (op : Operation)
  | other

structure Spec where
  paths : Dict String (Dict String PathEntry)
  /-- `components["schemas"]`. -/
  schemas : Dict String Schema
  heap : Heap

/-! ### Schemas -/

/-- What is read of `resolved["properties"]`: a dictionary of the document, or a new one. -/
inductive Properties
  | inDocument (l : Loc)
  | new (d : Dict String Schema)

def Properties.read (heap : Heap) : Properties → Dict String Schema
  | inDocument l => heap l
  | new d => d

/-- A resolved schema. -/
structure Resolved where
  type : Option SchemaType
  properties : Option Properties
  required : Option (List String)

/-- `dict(schema)`. -/
def Schema.copy (schema : Schema) : Resolved :=
  ⟨schema.type, schema.properties.map .inDocument, schema.required⟩

/-- The component a `$ref` into `#/components/schemas/` names. -/
def refTarget? (ref : String) : Option String :=
  match pySplitOn "/" ref with
  | _ :: "components" :: "schemas" :: schemaName :: _ => some schemaName
  | _ => none

/-- `merged_props`, `merged_req` and `schema_type`. -/
structure Merged where
  props : Dict String Schema
  req : List String
  type : SchemaType

/-- One pass of the loop over `allOf`. -/
def Merged.add (merged : Merged) (heap : Heap) (sub : Resolved) : Merged where
  props := match sub.properties with
    | some props => merged.props.update (props.read heap)
    | none => merged.props
  req := merged.req ++ sub.required.getD []
  type := sub.type.getD merged.type

/-- `sorted(set(names))`. -/
def sortedSet (names : List String) : List String :=
  (names.dedup).mergeSort fun a b => decide (a ≤ b)

/-- `resolve_schema(schema, components, depth)` where `21 - depth` levels are left: at none the
schema is returned as it is. -/
def resolveSchema (schemas : Dict String Schema) : Nat → Schema → Heap → Resolved × Heap
  | 0, schema, heap => (schema.copy, heap)
  | left + 1, schema, heap =>
      match schema.ref.bind refTarget? with
      | some schemaName =>
          resolveSchema schemas left ((schemas.get? schemaName).getD {}) heap
      | none =>
          match schema.allOf with
          | none => (schema.copy, heap)
          | some subs =>
              let start : Merged := ⟨.empty, [], schema.type.getD (.name "object")⟩
              let (merged, heap) := subs.foldl (fun (merged, heap) sub =>
                let (subResolved, heap) := resolveSchema schemas left sub heap
                (merged.add heap subResolved, heap)) (start, heap)
              let required := sortedSet (schema.required.getD [] ++ merged.req)
              match schema.properties with
              | some l =>
                  (⟨some merged.type, some (.inDocument l), some required⟩,
                    Function.update heap l ((heap l).update merged.props))
              | none =>
                  (⟨some merged.type, some (.new merged.props), some required⟩, heap)

/-- `resolve_schema(schema, components)`. -/
def resolve (schemas : Dict String Schema) (schema : Schema) (heap : Heap) : Resolved × Heap :=
  resolveSchema schemas 21 schema heap

/-- `resolved.get("properties", {})`. -/
def Resolved.props (resolved : Resolved) : Properties := resolved.properties.getD (.new .empty)

/-- `set(resolved.get("required", []))`. -/
def Resolved.req (resolved : Resolved) : List String := resolved.required.getD []

/-- The heaps of the two documents, which are separate: one comes from a file, the other from the
application. -/
structure Heaps where
  base : Heap
  curr : Heap

/-- What the code takes from elsewhere: `str.lower`, `str.upper` and `repr` of a text. -/
structure Runtime where
  lower : String → String
  upper : String → String
  repr : String → String

/-- The label of a comparison says it is about a request. -/
def isRequest (rt : Runtime) (locationPrefix : String) : Bool :=
  pyIn "request" (rt.lower locationPrefix)

/-- The errors about a property that both schemas have, from its two types and whether it is
required. -/
def propertyErrors (rt : Runtime) (locationPrefix pName : String)
    (baseType currType : Option SchemaType) (baseReq currReq : List String) : List String :=
  let typeErrors := match baseType, currType with
    | some baseType, some currType =>
        if baseType.truthy && currType.truthy && decide (baseType ≠ currType) then
          [locationPrefix ++ ": Changed type of property '" ++ pName ++ "' from '" ++
            baseType.str rt.repr ++ "' to '" ++ currType.str rt.repr ++ "'."]
        else []
    | _, _ => []
  let requiredErrors :=
    if isRequest rt locationPrefix && !baseReq.contains pName && currReq.contains pName then
      [locationPrefix ++ ": Optional property '" ++ pName ++
        "' became required in request schema."]
    else []
  typeErrors ++ requiredErrors

/-- One pass of the loop over `base_props.items()`. -/
def compareProperty (rt : Runtime) (b c : Spec) (locationPrefix : String)
    (currProps : Properties) (baseReq currReq : List String) (pName : String) (baseP : Schema)
    (heaps : Heaps) : List String × Heaps :=
  match (currProps.read heaps.curr).get? pName with
  | none => ([locationPrefix ++ ": Removed schema property '" ++ pName ++ "'."], heaps)
  | some currP =>
      let (basePResolved, baseHeap) := resolve b.schemas baseP heaps.base
      let (currPResolved, currHeap) := resolve c.schemas currP heaps.curr
      (propertyErrors rt locationPrefix pName basePResolved.type currPResolved.type baseReq currReq,
        ⟨baseHeap, currHeap⟩)

/-- The loop over `base_props.items()` with `left` entries to go.  The dictionary is read at each
pass, and the iterator raises if it has grown. -/
def compareProperties (pass : String → Schema → Heaps → List String × Heaps)
    (baseProps : Properties) (size : Nat) : Nat → Heaps → Except PyError (List String × Heaps)
  | left, heaps =>
      let entries := (baseProps.read heaps.base).entries
      if entries.length ≠ size then
        .error (.exception "dictionary changed size during iteration")
      else
        match left with
        | 0 => .ok ([], heaps)
        | left + 1 =>
            match entries[size - (left + 1)]? with
            | none => .ok ([], heaps)
            | some (pName, baseP) => do
                let (errors, heaps) := pass pName baseP heaps
                let (rest, heaps) ← compareProperties pass baseProps size left heaps
                pure (errors ++ rest, heaps)

def checkSchemaCompatibility (rt : Runtime) (b c : Spec) (baseSchema currSchema : Schema)
    (locationPrefix : String) (heaps : Heaps) : Except PyError (List String × Heaps) :=
  let (baseResolved, baseHeap) := resolve b.schemas baseSchema heaps.base
  let (currResolved, currHeap) := resolve c.schemas currSchema heaps.curr
  let size := (baseResolved.props.read baseHeap).entries.length
  compareProperties (compareProperty rt b c locationPrefix currResolved.props baseResolved.req
    currResolved.req) baseResolved.props size size ⟨baseHeap, currHeap⟩

/-! ### The whole document -/

/-- What the loops come to, in order. -/
inductive Step
  | error (message : String)
  | compare (baseSchema currSchema : Schema) (locationPrefix : String)
  | raise (e : PyError)

/-- `f"{x}"` of a text or `None`. -/
def strOption (x : Option String) : String := x.getD "None"

/-- `{(p.get("name"), p.get("in")): p for p in op.get("parameters", [])}`. -/
def Operation.params (op : Operation) : Dict (Option String × Option String) Parameter :=
  Dict.ofPairs (op.parameters.map fun p => ((p.name, p.location), p))

def parameterSteps (opLabel : String) (baseOp currOp : Operation) : List Step :=
  baseOp.params.entries.flatMap fun (key, baseP) =>
    match currOp.params.get? key with
    | none =>
        [.error ("BREAKING CHANGE [" ++ opLabel ++ "]: Removed parameter '" ++ strOption key.1 ++
          "' in '" ++ strOption key.2 ++ "'.")]
    | some currP =>
        if !baseP.required && currP.required then
          [.error ("BREAKING CHANGE [" ++ opLabel ++ "]: Parameter '" ++ strOption key.1 ++
            "' in '" ++ strOption key.2 ++ "' changed from optional to required.")]
        else []

/-- The loop over media types; a removed one gives `removed`, a kept one is compared under
`label`. -/
def contentSteps (baseContent currContent : Dict String MediaType)
    (removed label : String → String) : List Step :=
  baseContent.entries.flatMap fun (cType, baseMedia) =>
    match currContent.get? cType with
    | none => [.error (removed cType)]
    | some currMedia => [.compare baseMedia.schema currMedia.schema (label cType)]

/-- The label of a comparison of request schemas. -/
def requestLabel (opLabel cType : String) : String :=
  "BREAKING CHANGE [" ++ opLabel ++ "] (Request Body " ++ cType ++ ")"

def requestBodySteps (opLabel : String) (baseOp currOp : Operation) : List Step :=
  match baseOp.requestBody, currOp.requestBody with
  | some _, none => [.error ("BREAKING CHANGE [" ++ opLabel ++ "]: Request body removed.")]
  | some baseContent, some currContent =>
      contentSteps baseContent currContent
        (fun cType => "BREAKING CHANGE [" ++ opLabel ++ "]: Request body media type '" ++ cType ++
          "' removed.")
        (requestLabel opLabel)
  | none, _ => []

/-- The label of a comparison of response schemas. -/
def responseLabel (opLabel statusCode cType : String) : String :=
  "BREAKING CHANGE [" ++ opLabel ++ "] (Response " ++ statusCode ++ " " ++ cType ++ ")"

def responseSteps (opLabel : String) (baseOp currOp : Operation) : List Step :=
  baseOp.responses.entries.flatMap fun (statusCode, baseContent) =>
    match currOp.responses.get? statusCode with
    | none =>
        [.error ("BREAKING CHANGE [" ++ opLabel ++ "]: Response status code '" ++ statusCode ++
          "' removed.")]
    | some currContent =>
        contentSteps baseContent currContent
          (fun cType => "BREAKING CHANGE [" ++ opLabel ++ "]: Response content media type '" ++
            cType ++ "' for status '" ++ statusCode ++ "' removed.")
          (responseLabel opLabel statusCode)

/-- `path.replace("/api/v1/", "/api/v2/")`. -/
def v2Path (path : String) : String := String.intercalate "/api/v2/" (pySplitOn "/api/v1/" path)

/-- Exact operation match under `/api/v2/`. -/
def v2HasOperation (c : Spec) (path method : String) : Bool :=
  match c.paths.get? (v2Path path) with
  | some item => item.contains method
  | none => false

/-- `f"{method_upper} {path}"`. -/
def opLabel (rt : Runtime) (path method : String) : String := rt.upper method ++ " " ++ path

def methodSteps (rt : Runtime) (c : Spec) (path method : String) (baseEntry : PathEntry) :
    List Step :=
  if ["parameters", "summary", "description"].contains method then []
  else
    match c.paths.get? path with
    | none =>
        if v2HasOperation c path method then []
        else [.error ("BREAKING CHANGE [" ++ opLabel rt path method ++
          "]: Endpoint removed without equivalent /v2 endpoint.")]
    | some currItem =>
        match currItem.get? method with
        | none =>
            if v2HasOperation c path method then []
            else [.error ("BREAKING CHANGE [" ++ opLabel rt path method ++ "]: HTTP method '" ++
              rt.upper method ++ "' removed without equivalent /v2 operation.")]
        | some currEntry =>
            if v2HasOperation c path method then []
            else
              match baseEntry, currEntry with
              | .operation baseOp, .operation currOp =>
                  parameterSteps (opLabel rt path method) baseOp currOp ++
                    requestBodySteps (opLabel rt path method) baseOp currOp ++
                    responseSteps (opLabel rt path method) baseOp currOp
              -- `.get` on a value that is no object
              | _, _ => [.raise (.attributeError "get")]

def plan (rt : Runtime) (b c : Spec) : List Step :=
  b.paths.entries.flatMap fun (path, baseItem) =>
    if pyStartsWith path "/api/v1/" then
      baseItem.entries.flatMap fun (method, baseEntry) => methodSteps rt c path method baseEntry
    else []

/-- Carrying out the steps one after the other. -/
def runSteps (rt : Runtime) (b c : Spec) : List Step → Heaps → Except PyError (List String)
  | [], _ => .ok []
  | .error message :: steps, heaps => do
      let errors ← runSteps rt b c steps heaps
      pure (message :: errors)
  | .raise e :: _, _ => .error e
  | .compare baseSchema currSchema locationPrefix :: steps, heaps => do
      let (errors, heaps) ←
        checkSchemaCompatibility rt b c baseSchema currSchema locationPrefix heaps
      let rest ← runSteps rt b c steps heaps
      pure (errors ++ rest)

def checkSpecStability (rt : Runtime) (baselineSpec currentSpec : Spec) :
    Except PyError (Bool × List String) := do
  let errors ← runSteps rt baselineSpec currentSpec (plan rt baselineSpec currentSpec)
    ⟨baselineSpec.heap, currentSpec.heap⟩
  pure (errors.isEmpty, errors)

end ApiStability

end GaiaOS
