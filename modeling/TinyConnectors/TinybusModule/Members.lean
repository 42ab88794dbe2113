/-
# The members that reach Composio

`tinybus_module/mod.rs`: each member asks for the configured client when it needs one and
goes on with the one it was given, while `Configure` may replace it at any time.  What is
asked for is either the client slot, a call of the route a client was built on, or a stored
preference.
-/
import TinyConnectors.Catalog.Identity
import TinyConnectors.Client.Handoff
import TinyConnectors.Client.Operations
import TinyConnectors.Execute.Retry
import TinyConnectors.Listing.Members
import TinyConnectors.Sessions

open RustStr Client

namespace Members

/-! ## Asking -/

section Asking

/-- What a member asks for, over clients `R`. -/
inductive ServiceCall (R : Type) where
  /-- A read of the client slot. -/
  | client
  | route (client : R) (request : RouteRequest)
  | prefs (key : String)
  | sleep (seconds : ℕ)

/-- What there is for the next call, of whichever kind it is. -/
structure ServiceReply (R : Type) where
  client : Option R
  toolkits : Except Direct.Error ComposioToolkitsResponse
  connections : Except Direct.Error (List ComposioConnection)
  tools : Except Direct.Error ComposioToolsResponse
  executed : Except Direct.Error ComposioExecuteResponse
  handoff : Except Direct.Error Direct.ComposioAuthorizeResponse
  deletion : Except Direct.Error ComposioDeleteResponse
  /-- The reply to a request whose payload is handed on unread. -/
  payload : Except Direct.Error Json
  pref : Except SyncError (Option Json)

/-- Why an action that a provider runs failed. -/
inductive ActionCause where
  | noRoute
  | call (failure : Execute.Failure Direct.Error)
  | refused (error : Option String)

/-- What a member fails with. -/
inductive MemberError where
  | bus (error : BusError)
  /-- `to_bus_error` of an error of the client. -/
  | client (error : Client.Error)
  /-- `Error::OauthRateLimited`. -/
  | oauthRateLimited (toolkit message : String)
  /-- `format_provider_error` of an execute that came to no response. -/
  | execute (tool : String) (failure : Execute.Failure Direct.Error)
  /-- `format_provider_error` of an error of the client. -/
  | classified (slug : String) (error : Client.Error)
  /-- `tinyconnectors_sync::Error::Action`. -/
  | action (action : String) (cause : ActionCause)

variable {R : Type}

/-- A member at work. -/
abbrev Member (R α : Type) := ExceptT MemberError (Prog (ServiceCall R) (ServiceReply R)) α

/-- One call and what is made of the reply. -/
def ask {α : Type} (request : ServiceCall R) (reading : ServiceReply R → Except MemberError α) :
    Member R α :=
  ExceptT.mk (.ask request fun reply => .done (reading reply))

/-- One call of the route. -/
def call {α : Type} (client : R) (request : RouteRequest)
    (field : ServiceReply R → Except Direct.Error α) : Member R α :=
  ask (.route client request) fun reply => (field reply).mapError fun error =>
    .client (.route error)

/-- The client in the slot, or what is said where there is none. -/
def readClient (missing : MemberError) : Member R R :=
  ask .client fun reply => reply.client.elim (.error missing) .ok

/-- `ConnectorService::client`. -/
def client : Member R R :=
  readClient (.bus (.failed ("this module was loaded without a connector route: pass a `route` " ++
    "of \"proxy\" or \"direct\" in its configuration, or call Configure, to reach Composio")))

/-- One read of a stored preference. -/
def prefsGet (key : String) : Member R (Option Json) :=
  ask (.prefs key) fun reply => reply.pref.mapError fun error => .bus (.prefs error)

/-! ## What a caller is told -/

section Told

/-- What to report when a provider refuses an action. -/
def refusalMessage (error : Option String) : String :=
  ((error.map trim).filter fun error => error ≠ "").getD "the provider reported failure"

/-- The message of `tinyconnectors_sync::Error::Action`; that of refused arguments shows the
value, and is a parameter. -/
def ActionCause.text (shown : InvalidArguments → String) : ActionCause → String
  | .noRoute => "this module was loaded without a connector route"
  | .call (.invalid fault) => shown fault
  | .call (.route error) => error.text
  | .refused error => refusalMessage error

/-- How an error is put on the bus. -/
def MemberError.told (shown : InvalidArguments → String) : MemberError → BusError
  | .bus error => error
  | .client error => .failed error.text
  | .oauthRateLimited _ message => .failed message
  | .execute tool (.invalid fault) => .provider tool fault
  | .execute tool (.route error) => .failed (Execute.formatProviderError tool error.text)
  | .classified slug error => .failed (Execute.formatProviderError slug error.text)
  | .action slug cause => .failed s!"action `{slug}` failed: {cause.text shown}"

end Told

/-! ## Programs of the client -/

/-- A request of a handoff, over `client`. -/
def handoffCall (client : R) : Client.RouteCall → ServiceCall R
  | .listConnections => .route client .listConnections
  | .deleteConnection connectionId => .route client (.deleteConnection connectionId)
  | .authorize toolkit body => .route client (.authorize toolkit body)
  | .sleep seconds => .sleep seconds

def handoffReply (reply : ServiceReply R) : RouteReply :=
  ⟨reply.connections, reply.deletion, reply.handoff⟩

/-- A request of an execute; the wait before it is part of it. -/
def executeCall (client : R) (call : Execute.Call) : ServiceCall R :=
  .route client (.execute call.tool call.arguments call.connectionId)

/-- `ComposioClient::execute`. -/
def runExecute (client : R) (tool : String) (arguments : Option Json)
    (connectionId : Option String) :
    Prog (ServiceCall R) (ServiceReply R)
    (Except (Execute.Failure Direct.Error) ComposioExecuteResponse) :=
  Session.within (executeCall client) ServiceReply.executed
    (Execute.executeAction tool arguments connectionId)

end Asking

/-! ## Preferences -/

section Preferences

variable {R : Type}

/-- `UserScopePref::load`. -/
def loadPref (toolkit : String) : Member R UserScopePref := do
  match ← prefsGet (UserScopePref.key toolkit) with
  | none => pure UserScopePref.default
  | some value =>
    match UserScopePref.fromValue value with
    | .ok pref => pure pref
    | .error fault => throw (.bus (.prefs (.decode (UserScopePref.key toolkit) fault)))

/-- The loop of `pref_for`, over the toolkit names a slug starts with. -/
def prefForToolkits : List String → Member R UserScopePref
  | [] => pure UserScopePref.default
  | toolkit :: rest => do
    match ← prefsGet (UserScopePref.key toolkit) with
    | some _ => loadPref toolkit
    | none => prefForToolkits rest

def prefFor (action : String) : Member R UserScopePref :=
  prefForToolkits (rmatchPrefixes (toAsciiLowercase (trim action)) '_')

/-- Whether the user's preference permits `action`. -/
def permits (action : String) : Member R Bool :=
  match Sync.toolkitFromSlug action with
  | none => pure true
  | some toolkit => do
    let pref ← prefFor action
    pure (pref.allows (requiredScope defaultRegistry toolkit action))

/-- Whether a listing offers `action`. -/
def listed (action : String) : Member R Bool :=
  match Sync.toolkitFromSlug action with
  | none => pure true
  | some _ => do
    let pref ← prefFor action
    pure (isActionVisibleWithPref action pref)

/-- Keep the tools a listing offers, in order. -/
def retainListed : List ComposioToolSchema → Member R (List ComposioToolSchema)
  | [] => pure []
  | tool :: rest => do
    let keep ← listed tool.function.name
    let allowed ← retainListed rest
    pure (if keep then tool :: allowed else allowed)

/-- The stored preference of each toolkit. -/
def loadPreferences : List String → Member R (List (String × UserScopePref))
  | [] => pure []
  | toolkit :: rest => do
    let preference ← loadPref toolkit
    let preferences ← loadPreferences rest
    pure ((toolkit, preference) :: preferences)

end Preferences

/-! ## Identities -/

section Identities

variable {R : Type}

/-- The payload of an execute: a refusal is an error here, not an empty profile. -/
def payloadOf (action : String) :
    Except (Execute.Failure Direct.Error) ComposioExecuteResponse → Member R Json
  | .error failure => throw (.action action (.call failure))
  | .ok response =>
    if response.successful then pure response.data
    else throw (.action action (.refused response.error))

/-- `ClientActions::run`: the payload of an action that a provider runs. -/
def runAction (action : String) (arguments : Json) (connectionId : String) : Member R Json := do
  let client ← readClient (.action action .noRoute)
  let outcome ← ExceptT.lift (runExecute client action (some arguments) (some connectionId))
  payloadOf action outcome

/-- What a caller is told about a toolkit without a provider. -/
def noProvider (toolkit : String) : MemberError :=
  .bus (.failed (s!"no provider for toolkit `{toolkit}`: this build does not know " ++
    "how to read its profile"))

/-- `profile_of`: one connection's identity, through its toolkit's provider. -/
def profileOf (toolkit connectionId : String) : Member R Identity.UserProfile :=
  match Identity.readerOf toolkit with
  | none => throw (noProvider toolkit)
  | some reader => do
    let payload ← runAction reader.profileAction (.obj []) connectionId
    pure (reader.profile connectionId payload)

/-- `first_active_connection`. -/
def firstActiveConnection (toolkit : String) : Member R String := do
  let wanted := toAsciiLowercase (trim toolkit)
  let client ← client
  let connections ← call client .listConnections ServiceReply.connections
  match connections.find? fun connection =>
      connection.isActive && decide (connection.normalizedToolkit = wanted) with
  | some connection => pure connection.id
  | none => throw (.bus (.failed s!"no active connection for toolkit `{toolkit}`"))

/-- A connection whose identity could not be read. -/
structure ComposioIdentityFailure where
  connectionId : String
  toolkit : String
  message : MemberError

structure ComposioRefreshIdentitiesResponse where
  profiles : List Identity.UserProfile
  failures : List ComposioIdentityFailure

/-- The loop over the active connections. -/
def readIdentities : List ComposioConnection → ComposioRefreshIdentitiesResponse →
    Member R ComposioRefreshIdentitiesResponse
  | [], read => pure read
  | connection :: rest, read => do
    let toolkit := connection.normalizedToolkit
    match ← ExceptT.lift (profileOf toolkit connection.id).run with
    | .ok profile => readIdentities rest { read with profiles := read.profiles ++ [profile] }
    -- one unreadable connection hides none of the others
    | .error error =>
      readIdentities rest { read with failures := read.failures ++
        [⟨connection.id, toolkit, error⟩] }

def refreshAllIdentities : Member R ComposioRefreshIdentitiesResponse := do
  let client ← client
  let connections ← call client .listConnections ServiceReply.connections
  readIdentities (connections.filter ComposioConnection.isActive) ⟨[], []⟩

/-- `get_user_profile`: without a connection named, the toolkit's first active one. -/
def getUserProfile (toolkit : String) (connectionId : Option String) :
    Member R Identity.UserProfile := do
  match connectionId.filter fun id => trim id ≠ "" with
  | some id => profileOf toolkit id
  | none => do
    let id ← firstActiveConnection toolkit
    profileOf toolkit id

end Identities

/-! ## The other members -/

section Others

variable {R : Type}

/-- An operation of the client whose reply is handed on. -/
def handOn (op : Operation) (wrap : Client.Error → MemberError) : Member R Json := do
  let client ← client
  let request ← liftM (op.asks.mapError wrap)
  ask (.route client request) fun reply => reply.payload.mapError fun error => wrap (.route error)

def listToolkits (offered : OfferedToolkits) : Member R ComposioToolkitsResponse := do
  let client ← client
  let response ← call client .listToolkits ServiceReply.toolkits
  pure { toolkits := response.toolkits.filter offered.permits
         catalog := response.catalog.filter fun entry => offered.permits entry.slug }

/-- What a user is told where Meta limits the sign-ins. -/
def metaOauthRateLimitMessage (toolkit : String) : String :=
  let name := trim toolkit
  let accountHint :=
    if eqIgnoreAsciiCase name "instagram" then
      " Use an Instagram Business or Creator account — personal accounts are not supported."
    else if eqIgnoreAsciiCase name "facebook" then
      " Confirm the Facebook account has access to the relevant Page or Business Manager."
    else ""
  s!"Meta is temporarily rate-limiting {name} sign-in (HTTP 429). Wait a few " ++
    s!"minutes before retrying and avoid clicking Connect repeatedly.{accountHint}"

def wrapAuthorizeRateLimitError (toolkit : String) (error : Client.Error) : MemberError :=
  if isMetaOauthToolkit toolkit && isAuthorizeRateLimited error.text then
    .oauthRateLimited (trim toolkit) (metaOauthRateLimitMessage toolkit)
  else .client error

/-- The client is resolved once, outside the retry. -/
def authorize (toolkit : String) (extraParams : Option Json) :
    Member R Direct.ComposioAuthorizeResponse := do
  let client ← client
  let outcome ← ExceptT.lift
    (Session.within (handoffCall client) handoffReply (authorizeRetried toolkit extraParams))
  liftM (outcome.mapError (wrapAuthorizeRateLimitError toolkit))

def listTools (offered : OfferedToolkits) (toolkits tags : List String) (applyUserScopes : Bool) :
    Member R ComposioToolsResponse := do
  let client ← client
  let response ← call client (.listTools toolkits tags) ServiceReply.tools
  let tools := response.tools.filter fun tool =>
    (Sync.toolkitFromSlug tool.function.name).all offered.permits
  if applyUserScopes then do
    let allowed ← retainListed tools
    pure ⟨allowed⟩
  else pure ⟨tools⟩

/-- `execute_checked`. -/
def execute (tool : String) (arguments : Option Json) (connectionId : Option String) :
    Member R ComposioExecuteResponse := do
  let permitted ← permits tool
  if permitted then do
    let client ← client
    let outcome ← ExceptT.lift (runExecute client tool arguments connectionId)
    liftM (outcome.mapError (MemberError.execute tool))
  else
    throw (.bus (.failed (s!"`{tool}` is not permitted: " ++
      "the scope preference for this toolkit does not allow it")))

/-- The listings of the hosted backend; nothing where its allowlist is empty. -/
def backendListings (client : R) : Member R (Option FetchedListings) := do
  let toolkits ← call client .listToolkits ServiceReply.toolkits
  let descriptions := catalogDescriptions toolkits.catalog
  let allowlist := connectableToolkitSlugs toolkits.toolkits toolkits.catalog
  if allowlist.isEmpty then pure none
  else do
    let connections ← call client .listConnections ServiceReply.connections
    let connected := activeToolkits connections
    if connected.isEmpty then pure (some ⟨allowlist, connections, [], descriptions⟩)
    else do
      let listing ← call client (.listTools connected []) ServiceReply.tools
      pure (some ⟨allowlist, connections, listing.tools, descriptions⟩)

/-- The listings of the user's own tenant, where a failed tool listing only costs the tools. -/
def directListings (client : R) : Member R (Option FetchedListings) := do
  let connections ← call client .listConnections ServiceReply.connections
  let allowlist := activeToolkits connections
  if allowlist.isEmpty then pure none
  else do
    match ← ExceptT.lift (call client (.listTools allowlist []) ServiceReply.tools).run with
    | .ok listing => pure (some ⟨allowlist, connections, listing.tools, ∅⟩)
    | .error _ => pure (some ⟨allowlist, connections, [], ∅⟩)

def fetchListings (client : R) :
    ComposioConnectedIntegrationsMode → Member R (Option FetchedListings)
  | .backend => backendListings client
  | .direct => directListings client

/-- `connected_integrations`. -/
def connectedIntegrations (routeName : R → String) (upper : Uppercase)
    (mode : ComposioConnectedIntegrationsMode) : Member R (List ComposioConnectedIntegration) := do
  let client ← client
  if routeName client ≠ mode.routeFor then
    throw (.bus (.failed
      (s!"connected integrations requested over the {mode.debug} route, but this " ++
        s!"module is configured for `{routeName client}`")))
  else do
    match ← fetchListings client mode with
    | none => pure []
    | some ⟨allowlist, connections, tools, descriptions⟩ => do
      let preferences ← loadPreferences (activeToolkits connections)
      pure (assemble upper { allowlist, connections, tools, descriptions, preferences })

end Others

/-! ## Calls -/

/-- A call of a member that reaches Composio. -/
inductive BusCall where
  | listToolkits
  | listConnections
  | authorize (toolkit : String) (extraParams : Option Json)
  | deleteConnection (connectionId : String)
  | listTools (toolkits tags : List String) (applyUserScopes : Bool)
  | execute (tool : String) (arguments : Option Json) (connectionId : Option String)
  | getUserProfile (toolkit : String) (connectionId : Option String)
  | refreshAllIdentities
  | listGithubRepos (connectionId : Option String)
  | listAvailableTriggers (toolkit : String) (connectionId : Option String)
  | listTriggers (toolkit : Option String)
  | createTrigger (slug : String) (connectionId : Option String) (triggerConfig : Option Json)
  | enableTrigger (connectionId slug : String) (triggerConfig : Option Json)
  | disableTrigger (triggerId : String)
  | listConnectedIntegrations (mode : ComposioConnectedIntegrationsMode)

/-- What a member returns. -/
inductive BusReply where
  | toolkits (response : ComposioToolkitsResponse)
  | authorized (response : Direct.ComposioAuthorizeResponse)
  | tools (response : ComposioToolsResponse)
  | executed (response : ComposioExecuteResponse)
  | profile (profile : Identity.UserProfile)
  | identities (response : ComposioRefreshIdentitiesResponse)
  | integrations (integrations : List ComposioConnectedIntegration)
  | handedOn (payload : Json)

/-- What of the module does not change. -/
structure Setting (R : Type) where
  routeName : R → String
  upper : Uppercase
  offered : OfferedToolkits

/-- The member of a call. -/
def member {R : Type} (setting : Setting R) : BusCall → Member R BusReply
  | .listToolkits => .toolkits <$> listToolkits setting.offered
  | .listConnections => .handedOn <$> handOn .listConnections .client
  | .authorize toolkit extraParams => .authorized <$> authorize toolkit extraParams
  | .deleteConnection connectionId => .handedOn <$> handOn (.deleteConnection connectionId) .client
  | .listTools toolkits tags applyUserScopes =>
    .tools <$> listTools setting.offered toolkits tags applyUserScopes
  | .execute tool arguments connectionId => .executed <$> execute tool arguments connectionId
  | .getUserProfile toolkit connectionId => .profile <$> getUserProfile toolkit connectionId
  | .refreshAllIdentities => .identities <$> refreshAllIdentities
  | .listGithubRepos connectionId => .handedOn <$> handOn (.listGithubRepos connectionId) .client
  | .listAvailableTriggers toolkit connectionId =>
    .handedOn <$> handOn (.listAvailableTriggers toolkit connectionId) .client
  | .listTriggers toolkit => .handedOn <$> handOn (.listTriggers toolkit) .client
  | .createTrigger slug connectionId triggerConfig =>
    .handedOn <$> handOn (.createTrigger slug connectionId triggerConfig) .client
  | .enableTrigger connectionId slug triggerConfig =>
    .handedOn <$> handOn (.enableTrigger connectionId slug triggerConfig) (.classified slug)
  | .disableTrigger triggerId => .handedOn <$> handOn (.disableTrigger triggerId) .client
  | .listConnectedIntegrations mode =>
    .integrations <$> connectedIntegrations setting.routeName setting.upper mode

end Members
