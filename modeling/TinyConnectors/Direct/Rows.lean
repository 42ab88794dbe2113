/-
# Rows of the v3 API

The readers of `client/route/direct.rs` and `client/route/direct_triggers.rs`: how
a value the v3 API answered becomes the envelopes of the contract.  A field has
come under several names, as a string or nested in an object, so each is looked
for under a list of keys.
-/
import TinyConnectors.Contracts.SchemaWalk
import TinyConnectors.Payloads

open RustStr SchemaWalk

namespace Direct

/-! ## Fields -/

/-- The keys a nested object carries its own name under. -/
def innerKeys : List String := ["slug", "id", "name", "key"]

/-- The first of `keys` that carries a string, or an object with a string in it,
that `accept` takes. -/
def readField (accept : String → Option String) (item : Json) (keys : List String) :
    Option String :=
  keys.findSome? fun key =>
    match get key item with
    | some (.str value) => accept value
    | some (.obj nested) =>
      innerKeys.findSome? fun inner =>
        match Json.field inner nested with
        | some (.str value) => accept value
        | _ => none
    | _ => none

/-- A trimmed string, unless it is blank. -/
def nonBlank (value : String) : Option String :=
  let value := trim value
  if value = "" then none else some value

/-- Read a string field, tolerating the object-wrapped form. -/
def field : Json → List String → Option String := readField some

/-- Read a slug, skipping blank strings so a later key can still supply it. -/
def slugField : Json → List String → Option String := readField nonBlank

/-! ## Listings -/

/-- The rows under the first of `keys`, or of the value itself. -/
def rowsUnder (keys : List String) (value : Json) : List Json :=
  match (keys.findSome? fun key => get key value).getD value with
  | .arr rows => rows
  | _ => []

/-- The rows of a v3 listing, which has come as `{items}`, `{data}` or a bare array. -/
def rowsOf : Json → List Json := rowsUnder ["items", "data"]

/-- The cursor for the next page, when the listing says there is one. -/
def nextCursor (value : Json) : Option String := slugField value ["next_cursor", "nextCursor"]

/-! ## Connections and tools -/

/-- Translate one `connected_accounts` item. -/
def connectionFromV3 (item : Json) : Option ComposioConnection :=
  match field item ["id", "nanoid", "connectedAccountId"] with
  | none => none
  | some id =>
    -- a blank id is no id
    if trim id = "" then none
    else some {
      id := trim id
      toolkit := (slugField item
        ["toolkit", "appName", "app_name", "toolkit_slug", "appUniqueId"]).getD ""
      status := (field item ["status", "connectionStatus"]).getD ""
      createdAt := field item ["createdAt", "created_at"]
      accountEmail := field item ["accountEmail", "email"]
      workspace := field item ["workspace", "teamName"]
      username := field item ["username", "login", "screenName"] }

/-- One row of a tools listing, unless its name is blank. -/
def toolFromV3 (row : Json) : Option ComposioToolSchema :=
  match field row ["slug", "name"] with
  | none => none
  | some name =>
    if name = "" then none
    else some { function := {
      name := name
      description := field row ["description", "name"]
      parameters := (get "input_parameters" row).or (get "parameters" row)
      outputParameters := get "output_parameters" row } }

/-- Pull tool schemas out of a v3 listing. -/
def toolSchemasFromV3 (value : Json) : List ComposioToolSchema :=
  (rowsUnder ["items", "data", "tools"] value).filterMap toolFromV3

/-- `Value::as_bool`. -/
def asBool : Json → Option Bool
  | .bool b => some b
  | _ => none

/-- Reshape a v3 execute result into the envelope the proxy returns. -/
def executeResponseFromV3 (raw : Json) : ComposioExecuteResponse :=
  let hasError := (get "error" raw).any fun error => error ≠ .null
  { data := (get "data" raw).getD raw
    successful := (((get "successful" raw).or (get "success" raw)).bind asBool).getD !hasError
    error := (get "error" raw).bind Json.asStr
    costUsd := 0
    markdownFormatted := none }

/-! ## Triggers -/

/-- A trigger type a toolkit offers. -/
structure ComposioAvailableTrigger where
  slug : String
  scope : String
  defaultConfig : Option Json
  requiredConfigKeys : Option (List String)

/-- A subscription. -/
structure ComposioActiveTrigger where
  id : String
  slug : String
  toolkit : String
  connectionId : String
  triggerConfig : Option Json
  state : Option String

/-- The entries of a map of fields whose descriptor carries a `default`. -/
def defaultsOf (fields : List (String × Json)) : List (String × Json) :=
  fields.filterMap fun entry => (get "default" entry.2).map fun default => (entry.1, default)

/-- The defaults and required keys of a trigger type's `config`: a JSON Schema
object, or a bare map of field name to a descriptor. -/
def configShape (config : Option Json) : List (String × Json) × Option (List String) :=
  match config.bind asObject with
  | none => ([], none)
  | some config =>
    let schemaFields := (Json.field "properties" config).bind asObject
    let requiredList := match Json.field "required" config with
      | some (.arr keys) => some keys
      | _ => none
    if schemaFields.isSome || requiredList.isSome then
      (defaultsOf (schemaFields.getD []), requiredList.map (·.filterMap Json.asStr))
    else
      let fields := config.filter fun entry => (asObject entry.2).isSome
      let required := (fields.filter fun entry =>
        (get "required" entry.2).bind asBool = some true).map (·.1)
      (defaultsOf fields, if required = [] then none else some required)

/-- Translate one `triggers_types` row. -/
def availableTriggerFromV3 (row : Json) : Option ComposioAvailableTrigger :=
  (slugField row ["slug", "name"]).map fun slug =>
    let shape := configShape (get "config" row)
    { slug := slug
      scope := "static"
      defaultConfig := if shape.1 = [] then none else some (.obj shape.1)
      requiredConfigKeys := shape.2 }

/-- The keys a row may carry its connected account's id under. -/
def CONNECTION_KEYS : List String :=
  ["connected_account_id", "connectedAccountId", "connection_id"]

/-- The keys a row may carry its owner under. -/
def ownerKeys : List String := ["user_id", "userId"]

/-- The keys a row may carry its toolkit under. -/
def toolkitKeys : List String := ["toolkit", "toolkit_slug", "app_name", "appName"]

/-- The keys a row may carry a subscription's id under. -/
def triggerIdKeys : List String := ["id", "trigger_id", "triggerId"]

/-- Whether an active-instance row names no toolkit of its own. -/
def namesNoToolkit (row : Json) : Bool := (slugField row toolkitKeys).isNone

/-- Whether an active-instance row belongs to `entityId`, or names no owner. -/
def ownedBy (row : Json) (entityId : String) : Bool :=
  (slugField row ownerKeys).all fun owner => owner = entityId

/-- Whether a row positively names `entityId` as its owner. -/
def namesOwner (row : Json) (entityId : String) : Bool :=
  (slugField row ownerKeys).any fun owner => owner = entityId

/-- The toolkit a trigger slug belongs to, by its first word. -/
def toolkitOfSlug (slug : String) : String := toAsciiLowercase (splitFirst slug '_')

/-- Whether a trigger slug names a trigger of `toolkit`. -/
def slugInToolkit (slug toolkit : String) : Bool :=
  startsWith (toAsciiUppercase slug) (toAsciiUppercase toolkit ++ "_")

/-- The toolkit a row is labelled with, or `none` where the filter leaves it out. -/
def labelOf (row : Json) (slug : String) (toolkit : Option String)
    (connectionToolkits : String → Option String) : Option String :=
  let explicit := slugField row toolkitKeys
  match toolkit.bind nonBlank with
  | some wanted =>
    let isMatch := match explicit with
      | some explicit => eqIgnoreAsciiCase explicit wanted
      | none => slugInToolkit slug wanted
    if isMatch then some (explicit.getD wanted) else none
  | none =>
    let ofConnection := ((field row CONNECTION_KEYS).bind connectionToolkits).filter fun toolkit =>
      toolkit ≠ ""
    some ((explicit.or ofConnection).getD (toolkitOfSlug slug))

/-- Translate one active-instance row. -/
def activeTriggerFromV3 (row : Json) (toolkit : Option String)
    (connectionToolkits : String → Option String) : Option ComposioActiveTrigger :=
  match slugField row triggerIdKeys with
  | none => none
  | some id =>
    let slug := (slugField row ["trigger_name", "triggerName", "slug"]).getD ""
    (labelOf row slug toolkit connectionToolkits).map fun toolkit =>
      let disabled := ((get "disabled_at" row).or (get "disabledAt" row)).any fun time =>
        time ≠ .null
      { id := id
        slug := slug
        toolkit := toolkit
        connectionId := (field row CONNECTION_KEYS).getD ""
        triggerConfig :=
          ((get "trigger_config" row).or (get "triggerConfig" row)).filter fun config =>
          config ≠ .null
        state := some (if disabled then "disabled" else "active") }

end Direct
