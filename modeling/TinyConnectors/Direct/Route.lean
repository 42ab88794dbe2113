/-
# The direct route

`client/route/direct.rs`: the members of a `DirectRoute`, each a program that
calls the v3 API.  A call asks the gate and the transport; what either says comes
back as the answer of the request, so the members are the same programs whatever
the gate has counted and whoever else is calling.
-/
import TinyConnectors.Direct.Rows
import TinyConnectors.Direct.Url
import TinyConnectors.Requests

open RustStr SchemaWalk

namespace Direct

/-! ## Calls -/

/-- A request to the transport. -/
inductive Request where
  | get (path : String)
  | post (path : String) (body : Json)
  | delete (path : String)

/-- What comes of a call. -/
inductive Answer where
  /-- `check_gate` refused it, and nothing was sent. -/
  | gated
  /-- The transport answered it. -/
  | replied (outcome : Except Error Json)

def GATED_MESSAGE : String :=
  "Composio rejected this API key repeatedly, so further direct-mode calls are paused. " ++
    "Enter a valid key to resume."

/-- What the caller is told. -/
def Answer.outcome : Answer → Except Error Json
  | .gated => .error (.directAuthGated GATED_MESSAGE)
  | .replied outcome => outcome

/-- A member at work: it makes calls and returns a value or an error. -/
abbrev Calls : Type → Type := ExceptT Error (Prog Request Answer)

/-- `DirectRoute::call`. -/
def call (request : Request) : Calls Json :=
  ExceptT.mk (.ask request fun answer => .done answer.outcome)

/-- Whether a failure says Composio refused the key itself. -/
def isInvalidApiKey : Error → Bool
  | .transport _ message =>
    startsWith message "HTTP 401" && contains (toAsciiLowercase message) "api key"
  | _ => false

/-- Most pages of one v3 listing the route will follow. -/
def MAX_PAGES : ℕ := 20

/-! ## Pages -/

/-- The path of the page a cursor names. -/
def pagePath (path : String) : Option String → String
  | none => path
  | some cursor => path ++ "&cursor=" ++ encode cursor

/-- The loop of `list_pages`, with `pages` more to go. -/
def listPagesFrom (path : String) : ℕ → Option String → List Json → Calls (List Json)
  | 0, _, _ => throw (.listingIncomplete path MAX_PAGES)
  | pages + 1, cursor, rows => do
    let value ← call (.get (pagePath path cursor))
    let rows := rows ++ rowsOf value
    match nextCursor value with
    | none => pure rows
    | some next =>
      -- a cursor that repeats would never reach the last page
      if some next = cursor then throw (.listingIncomplete path MAX_PAGES)
      else listPagesFrom path pages (some next) rows

/-- Every row of a cursor-paged v3 listing. -/
def listPages (path : String) : Calls (List Json) := listPagesFrom path MAX_PAGES none []

/-! ## The route -/

/-- `DirectRoute`, without the transport and the failures, which answer its calls. -/
structure Route where
  entityId : String
  webhooks : Bool

/-- The entity a route acts as: `"default"` for a blank one. -/
def Route.new (entityId : String) : Route :=
  { entityId := if trim entityId = "" then "default" else entityId, webhooks := false }

def Route.withWebhooks (route : Route) (webhooks : Bool) : Route :=
  { route with webhooks := webhooks }

/-- Refuse a member this route cannot honestly serve. -/
def unsupported (member : String) : Error := .unsupportedByRoute "direct" member

/-- `GET /connected_accounts/{id}`. -/
def accountPath (connectionId : String) : Except Error String :=
  (segment connectionId "connection_id").map ("/connected_accounts/" ++ ·)

/-- The user a connected account belongs to: best effort, except that a rejected
key and a closed gate are returned. -/
def accountOwner (connectionId : String) : Calls (Option String) := do
  let path ← accountPath connectionId
  match ← ExceptT.lift (call (.get path)).run with
  | .ok value => pure (slugField value ownerKeys)
  | .error error =>
    match error with
    | .directAuthGated _ => throw error
    | _ => if isInvalidApiKey error then throw error else pure none

/-- Refuse a trigger member unless the host receives webhooks itself. -/
def requireWebhooks (route : Route) (member : String) : Except Error Unit :=
  if route.webhooks then .ok () else .error (unsupported member)

/-- Refuse a connection unless this route's entity is known to own it. -/
def ensureOwned (route : Route) (connectionId : String) : Calls Unit := do
  let owner ← accountOwner connectionId
  if owner = some route.entityId then pure () else throw (.connectionNotOwned (trim connectionId))

/-- The active instances of this entity. -/
def activePath (route : Route) : String :=
  "/trigger_instances/active?user_ids=" ++ encode route.entityId ++ "&show_disabled=false&limit=50"

/-- Whether a row is an instance of `slug` on `connectionId` with this configuration. -/
def isInstance (route : Route) (slug : String) (connectionId : Option String) (config : Option Json)
    (row : Json) : Bool :=
  ((slugField row ["trigger_name", "triggerName", "slug"]).any fun named =>
    eqIgnoreAsciiCase named (trim slug)) &&
  ownedBy row route.entityId &&
  ((connectionId.map trim).all fun wanted => wanted = (field row CONNECTION_KEYS).getD "") &&
  config.all fun config =>
    ((get "trigger_config" row).or (get "triggerConfig" row)).any fun stored => stored = config

/-- The id of this entity's active instance of `slug` on `connectionId`, where only
one row is it. -/
def findActiveTrigger (route : Route) (slug : String) (connectionId : Option String)
    (config : Option Json) : Calls (Option String) := do
  let rows ← listPages (activePath route)
  match rows.filter (isInstance route slug connectionId config) with
  | [only] => pure (slugField only triggerIdKeys)
  | _ => pure none

/-- What an upsert answered. -/
structure UpsertReply where
  triggerId : String
  status : Option String

/-- The body of an upsert. -/
def upsertBody (route : Route) (connectionId : Option String) (triggerConfig : Option Json) :
    Json :=
  let body := [("toolkit_versions", .str "latest"), ("user_id", .str route.entityId)]
  let body := connectionId.elim body fun id =>
    Json.insert "connected_account_id" (.str (trim id)) body
  .obj (triggerConfig.elim body fun config => Json.insert "trigger_config" config body)

/-- Create or re-enable a trigger instance as this entity. -/
def upsert (route : Route) (slug : String) (connectionId : Option String)
    (triggerConfig : Option Json) : Calls UpsertReply := do
  connectionId.elim (pure ()) (ensureOwned route)
  let named ← segment slug "trigger slug"
  let path := "/trigger_instances/" ++ named ++ "/upsert"
  let value ← call (.post path (upsertBody route connectionId triggerConfig))
  let status := field value ["status"]
  match slugField value ["trigger_id", "triggerId", "id"] with
  | some id => pure { triggerId := id, status := status }
  | none =>
    match ← findActiveTrigger route slug connectionId triggerConfig with
    | some id => pure { triggerId := id, status := status }
    | none => throw (.decode path "upsert response carried no trigger id")

/-! ## Members -/

/-- `DirectRoute::list_connections`. -/
def listConnections : Calls (List ComposioConnection) := do
  let value ← call (.get "/connected_accounts?limit=200")
  pure ((rowsOf value).filterMap connectionFromV3)

/-- The link reply of an authorize. -/
structure ComposioAuthorizeResponse where
  connectUrl : String
  connectionId : String

/-- `DirectRoute::authorize`. -/
def authorize (route : Route) (body : Json) : Calls ComposioAuthorizeResponse := do
  let request := match body with
    | .obj fields => .obj (Json.insert "entity_id" (.str route.entityId) fields)
    | other => other
  let path := "/connected_accounts/link"
  let value ← call (.post path request)
  match field value ["redirectUrl", "redirect_url", "connectUrl"] with
  | none => throw (.decode path "link response carried no redirect URL")
  | some connectUrl =>
    -- the link reply has no stable connection id
    let connectionId := (field value ["connectedAccountId", "id"]).getD ""
    pure { connectUrl := connectUrl, connectionId := connectionId }

/-- The path of a tools listing. -/
def toolsPath (toolkits tags : List String) : String :=
  let query := ["limit=200", "toolkit_versions=latest"] ++
    ((commaJoined toolkits).map ("toolkits=" ++ ·)).toList ++
    (((tags.map trim).filter fun tag => tag ≠ "").map fun tag => "tags=" ++ encode tag)
  "/tools?" ++ String.intercalate "&" query

/-- `DirectRoute::list_tools`. -/
def listTools (toolkits tags : List String) : Calls ComposioToolsResponse := do
  let value ← call (.get (toolsPath toolkits tags))
  pure { tools := toolSchemasFromV3 value }

/-- The body of an execute. -/
def executeBody (entityId : String) (arguments : Json) (connectionId : Option String) : Json :=
  let body := [("arguments", arguments), ("entity_id", .str entityId)]
  .obj (connectionId.elim body fun id => Json.insert "connected_account_id" (.str id) body)

/-- The user an execute acts as: the account's own when it can be read. -/
def executeEntity (route : Route) : Option String → Calls String
  | some connectionId => do
    let owner ← accountOwner connectionId
    pure (owner.getD route.entityId)
  | none => pure route.entityId

/-- `DirectRoute::execute`. -/
def execute (route : Route) (tool : String) (arguments : Json) (connectionId : Option String) :
    Calls ComposioExecuteResponse := do
  let named ← segment tool tool
  let path := "/tools/execute/" ++ named
  let entityId ← executeEntity route connectionId
  let raw ← call (.post path (executeBody entityId arguments connectionId))
  pure (executeResponseFromV3 raw)

/-- `DirectRoute::list_available_triggers`. -/
def listAvailableTriggers (route : Route) (toolkit : String) :
    Calls (List ComposioAvailableTrigger) := do
  requireWebhooks route "ListAvailableTriggers"
  let rows ← listPages
    ("/triggers_types?toolkit_slugs=" ++ encode toolkit ++ "&limit=50&toolkit_versions=latest")
  pure (rows.filterMap availableTriggerFromV3)

/-- The toolkits of a listing of accounts, the last row of an id counting. -/
def connectionToolkits (accounts : List Json) (id : String) : Option String :=
  let connections := accounts.filterMap connectionFromV3
  (connections.reverse.find? fun connection => connection.id = id).map fun connection =>
    toAsciiLowercase connection.toolkit

/-- The accounts an unfiltered listing of triggers reads toolkits off. -/
def lookupAccounts : Bool → Calls (List Json)
  | true => do
    match ← ExceptT.lift (listPages "/connected_accounts?limit=200").run with
    | .ok accounts => pure accounts
    -- a failed lookup only costs accuracy
    | .error _ => pure []
  | false => pure []

/-- `DirectRoute::list_triggers`. -/
def listTriggers (route : Route) (toolkit : Option String) :
    Calls (List ComposioActiveTrigger) := do
  requireWebhooks route "ListTriggers"
  let listed ← listPages (activePath route)
  let rows := listed.filter fun row => ownedBy row route.entityId
  let wantsLookup := (toolkit.all fun t => trim t = "") && rows.any namesNoToolkit
  let accounts ← lookupAccounts wantsLookup
  pure (rows.filterMap fun row => activeTriggerFromV3 row toolkit (connectionToolkits accounts))

/-- `DirectRoute::create_trigger`. -/
def createTrigger (route : Route) (slug : String) (connectionId : Option String)
    (triggerConfig : Option Json) : Calls UpsertReply := do
  requireWebhooks route "CreateTrigger"
  upsert route slug connectionId triggerConfig

/-- What enabling a trigger answered. -/
structure ComposioEnableTriggerResponse where
  triggerId : String
  slug : String
  connectionId : String

/-- `DirectRoute::enable_trigger`. -/
def enableTrigger (route : Route) (connectionId slug : String) (triggerConfig : Option Json) :
    Calls ComposioEnableTriggerResponse := do
  requireWebhooks route "EnableTrigger"
  let reply ← upsert route slug (some connectionId) triggerConfig
  pure { triggerId := reply.triggerId, slug := trim slug, connectionId := trim connectionId }

/-- The lookup that precedes removing a subscription. -/
def lookupPath (route : Route) (triggerId : String) : String :=
  "/trigger_instances/active?trigger_ids=" ++ encode triggerId ++ "&user_ids=" ++
    encode route.entityId ++ "&show_disabled=true&limit=50"

/-- Whether a row is the subscription `triggerId` of this entity. -/
def isOwnTrigger (route : Route) (triggerId : String) (row : Json) : Bool :=
  slugField row triggerIdKeys = some triggerId && namesOwner row route.entityId

/-- `DirectRoute::disable_trigger`: whether it was deleted. -/
def disableTrigger (route : Route) (id : String) : Calls Bool := do
  requireWebhooks route "DisableTrigger"
  let triggerId := trim id
  let found ← call (.get (lookupPath route triggerId))
  if (rowsOf found).any (isOwnTrigger route triggerId) then
    let named ← segment triggerId "trigger_id"
    let _ ← call (.delete ("/trigger_instances/manage/" ++ named))
    pure true
  else
    throw (.triggerNotOwned triggerId)

end Direct
