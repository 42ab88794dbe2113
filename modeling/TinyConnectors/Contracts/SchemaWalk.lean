/-
# Schema walks

`contracts/schema_walk.rs`: breadth-first searches for the first array, over the
`properties` of a JSON Schema and over a JSON value, and the field names a
schema declares.  The two searches are one walk that differs in what it takes
for the entries of a node and in which of them it stops at.
-/
import Mathlib
import TinyConnectors.Json

namespace SchemaWalk

/-! ## Entries of a node -/

/-- `Value::get`. -/
def get (key : String) : Json → Option Json
  | .obj fields => Json.field key fields
  | _ => none

/-- `Value::as_object`, as the list of its entries. -/
def asObject : Json → Option (List (String × Json))
  | .obj fields => some fields
  | _ => none

/-- What the nodes still to be visited weigh. -/
noncomputable def weight (entries : List (String × Json)) : ℕ :=
  (entries.map fun entry => sizeOf entry.2).sum

theorem weight_cons (key : String) (value : Json) (entries : List (String × Json)) :
    weight ((key, value) :: entries) = sizeOf value + weight entries := by
  simp [weight]

theorem weight_append (xs ys : List (String × Json)) :
    weight (xs ++ ys) = weight xs + weight ys := by
  simp [weight]

theorem weight_filter_le (p : String × Json → Bool) (entries : List (String × Json)) :
    weight (entries.filter p) ≤ weight entries := by
  induction entries with
  | nil => simp
  | cons entry entries ih =>
    obtain ⟨key, value⟩ := entry
    by_cases hp : p (key, value) = true
    · rw [List.filter_cons_of_pos hp, weight_cons, weight_cons]
      omega
    · rw [List.filter_cons_of_neg hp, weight_cons]
      omega

theorem weight_lt_sizeOf_obj (fields : List (String × Json)) :
    weight fields < sizeOf (Json.obj fields) := by
  have hfields : weight fields < sizeOf fields := by
    induction fields with
    | nil => simp [weight]
    | cons field fields ih =>
      obtain ⟨key, value⟩ := field
      rw [weight_cons, List.cons.sizeOf_spec, Prod.mk.sizeOf_spec]
      omega
  rw [Json.obj.sizeOf_spec]
  omega

theorem weight_nil_lt (node : Json) : weight [] < sizeOf node := by
  show 0 < sizeOf node
  cases node with
  | null => decide
  | bool b => simp only [Json.bool.sizeOf_spec]; omega
  | num n => simp only [Json.num.sizeOf_spec]; omega
  | str s => simp only [Json.str.sizeOf_spec]; omega
  | arr items => simp only [Json.arr.sizeOf_spec]; omega
  | obj fields => simp only [Json.obj.sizeOf_spec]; omega

/-- The entries of a value weigh less than it. -/
theorem weight_asObject_lt (node : Json) : weight ((asObject node).getD []) < sizeOf node := by
  cases node with
  | obj fields => exact weight_lt_sizeOf_obj fields
  | _ => exact weight_nil_lt _

/-- A field of a value weighs less than it. -/
theorem sizeOf_get_lt {key : String} {node value : Json} (h : get key node = some value) :
    sizeOf value < sizeOf node := by
  cases node with
  | obj fields =>
    rw [get, Json.field, List.lookup_eq_some_iff] at h
    obtain ⟨before, after, rfl, -⟩ := h
    have hobj := weight_lt_sizeOf_obj (before ++ (key, value) :: after)
    rw [weight_append, weight_cons] at hobj
    omega
  | _ => cases h

/-! ## The walk -/

/-- The path of an entry below `path`. -/
def joinPath (path key : String) : String := if path = "" then key else path ++ "." ++ key

/-- Visit the queue in order: the first entry `isArray` holds of, with every
entry of a node tried before any of them is entered. -/
def walk (entries : String → Json → List (String × Json))
    (hentries : ∀ path node, weight (entries path node) < sizeOf node) (isArray : Json → Bool) :
    List (String × Json) → Option String
  | [] => none
  | (path, node) :: queue =>
    match (entries path node).find? fun entry => isArray entry.2 with
    | some entry => some (joinPath path entry.1)
    | none => walk entries hentries isArray
      (queue ++ (entries path node).map fun entry => (joinPath path entry.1, entry.2))
termination_by queue => weight queue
decreasing_by
  have hnode := hentries path node
  have hmap : weight ((entries path node).map fun entry => (joinPath path entry.1, entry.2)) =
      weight (entries path node) := by simp [weight, Function.comp_def]
  rw [weight_append, hmap, weight_cons]
  omega

/-- The properties a schema declares. -/
def properties (_ : String) (node : Json) : List (String × Json) :=
  ((get "properties" node).bind asObject).getD []

theorem weight_properties_lt (path : String) (node : Json) :
    weight (properties path node) < sizeOf node := by
  unfold properties
  cases hget : get "properties" node with
  | none => exact weight_nil_lt node
  | some value => exact (weight_asObject_lt value).trans (sizeOf_get_lt hget)

/-- `type: "array"`, alone or among others. -/
def declaresArray (schema : Json) : Bool :=
  match get "type" schema with
  | some (.str kind) => kind = "array"
  | some (.arr types) => types.any fun type => type.asStr = some "array"
  | _ => false

/-- Dotted path to the shallowest array-typed property declared by `schema`. -/
def computePrimaryArrayPath (schema : Option Json) : Option String :=
  schema.bind fun root => walk properties weight_properties_lt declaresArray [("", root)]

/-- The entries of a value, without the skipped keys at the root. -/
def members (skipRootKeys : List String) (path : String) (node : Json) : List (String × Json) :=
  ((asObject node).getD []).filter fun entry => !(path = "" && skipRootKeys.contains entry.1)

theorem weight_members_lt (skipRootKeys : List String) (path : String) (node : Json) :
    weight (members skipRootKeys path node) < sizeOf node :=
  (weight_filter_le _ _).trans_lt (weight_asObject_lt node)

/-- `Value::is_array`. -/
def isArray : Json → Bool
  | .arr _ => true
  | _ => false

/-- Dotted path to the shallowest array of a value. -/
def computePrimaryArrayPathFromValue (value : Json) (skipRootKeys : List String) : Option String :=
  walk (members skipRootKeys) (weight_members_lt skipRootKeys) isArray [("", value)]

/-! ## Declared fields -/

def SCHEMA_KEYWORDS : List String :=
  ["type", "required", "additionalProperties", "$schema", "description", "title", "examples", "$id",
    "$anchor", "$ref", "$defs", "definitions", "properties", "patternProperties", "propertyNames",
    "minProperties", "maxProperties", "dependencies", "dependentRequired", "dependentSchemas",
    "unevaluatedProperties", "contentEncoding", "contentMediaType", "contentSchema", "default",
    "deprecated", "readOnly", "writeOnly", "const", "enum", "format", "$comment", "$vocabulary",
    "$dynamicRef", "$dynamicAnchor", "allOf", "anyOf", "oneOf", "not", "if", "then", "else",
    "minimum", "maximum", "exclusiveMinimum", "exclusiveMaximum", "multipleOf", "minLength",
    "maxLength", "pattern", "minItems", "maxItems", "uniqueItems", "contains", "minContains",
    "maxContains", "items", "prefixItems", "unevaluatedItems"]

/-- The top-level field names of an output schema, sorted. -/
def responseFieldsFromSchema (schema : Option Json) : List String :=
  match schema.bind asObject with
  | none => []
  | some fields =>
    let names :=
      match (Json.field "properties" fields).bind asObject with
      | some props => props.map Prod.fst
      | none => (fields.map Prod.fst).filter fun key => !SCHEMA_KEYWORDS.contains key
    names.mergeSort fun a b => decide (a ≤ b)

end SchemaWalk
