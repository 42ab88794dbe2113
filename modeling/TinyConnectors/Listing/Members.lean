/-
# The listing members

`tinybus_module/mod.rs` and `contracts.rs`: `ListTools`, `ListVisibleTools` and
the connected-integration overview, and the operator's toolkit policy
(`vocabulary/offered.rs`).  What the route answers is an argument of each member.
-/
import TinyConnectors.Listing.Overview
import TinyConnectors.ScopeCheck

open RustStr

/-! ## The toolkit policy -/

/-- Allow and deny lists of toolkit slugs. -/
structure OfferedToolkits where
  allow : List String
  deny : List String

namespace OfferedToolkits

/-- `Default for OfferedToolkits`: nothing is narrowed. -/
def default : OfferedToolkits := ⟨[], []⟩

/-- How names are compared: lower case, without `_`, `-` and white space. -/
def key (name : String) : String :=
  String.ofList
    ((name.toList.filter fun c => c ≠ '_' && c ≠ '-' && !isWhitespace c).map Char.toLower)

/-- Whether `toolkit` is offered. -/
def permits (offered : OfferedToolkits) (toolkit : String) : Bool :=
  if offered.deny.any fun name => key name == key toolkit then false
  else offered.allow.isEmpty || offered.allow.any fun name => key name == key toolkit

end OfferedToolkits

/-! ## The service -/

/-- The parts of the bus service the listing members read. -/
structure ListingService extends ConnectorService where
  offered : OfferedToolkits

/-- The service as the module assembles it. -/
def ListingService.load (client : Option String) (prefs : PrefsStore) (offered : OfferedToolkits) :
    ListingService :=
  { ConnectorService.load client prefs with offered }

/-- The name of the configured route. -/
def ConnectorService.route (service : ConnectorService) : Except BusError String :=
  match service.client with
  | some route => .ok route
  | none => .error (.failed ("this module was loaded without a connector route: pass a `route` " ++
      "of \"proxy\" or \"direct\" in its configuration, or call Configure, to reach Composio"))

namespace ListingService

/-! ## `ListTools` -/

/-- Keep the tools a listing offers, in order; the first failing check fails the listing. -/
def retainListed (service : ListingService) :
    List ComposioToolSchema → Except BusError (List ComposioToolSchema)
  | [] => .ok []
  | tool :: rest => do
    let keep ← service.listed tool.function.name
    let allowed ← retainListed service rest
    return if keep then tool :: allowed else allowed

/-- Whether the policy offers the toolkit that a tool's slug names. -/
def offers (service : ListingService) (tool : ComposioToolSchema) : Bool :=
  (Sync.toolkitFromSlug tool.function.name).all service.offered.permits

/-- The tools of `reply` that the policy offers and, on request, the preferences allow. -/
def listTools (service : ListingService) (applyUserScopes : Bool)
    (reply : Except BusError ComposioToolsResponse) : Except BusError ComposioToolsResponse := do
  let _ ← service.route
  let response ← reply
  let tools := response.tools.filter service.offers
  if applyUserScopes then
    let allowed ← service.retainListed tools
    return ⟨allowed⟩
  else return ⟨tools⟩

/-- A listing that answers has an answer for its first tool and for the others. -/
theorem retainListed_cons {service : ListingService} {head : ComposioToolSchema}
    {tools kept : List ComposioToolSchema} (h : service.retainListed (head :: tools) = .ok kept) :
    ∃ keep allowed, service.listed head.function.name = .ok keep ∧
      service.retainListed tools = .ok allowed ∧
        kept = if keep then head :: allowed else allowed := by
  rw [retainListed] at h
  cases hkeep : service.listed head.function.name with
  | error error =>
    rw [hkeep] at h
    cases h
  | ok keep =>
    cases hrest : service.retainListed tools with
    | error error =>
      rw [hkeep, hrest] at h
      cases h
    | ok allowed =>
      rw [hkeep, hrest] at h
      exact ⟨keep, allowed, rfl, rfl, (Except.ok.inj h).symm⟩

theorem mem_retainListed {service : ListingService} {tools kept : List ComposioToolSchema}
    (h : service.retainListed tools = .ok kept) (tool : ComposioToolSchema) :
    tool ∈ kept ↔ tool ∈ tools ∧ service.listed tool.function.name = .ok true := by
  induction tools generalizing kept with
  | nil =>
    cases h
    simp
  | cons head tools ih =>
    obtain ⟨keep, allowed, hkeep, hrest, rfl⟩ := retainListed_cons h
    rw [List.mem_cons]
    cases keep with
    | true =>
      rw [if_pos rfl, List.mem_cons, ih hrest]
      constructor
      · rintro (rfl | ⟨hmem, hlisted⟩)
        · exact ⟨.inl rfl, hkeep⟩
        · exact ⟨.inr hmem, hlisted⟩
      · rintro ⟨rfl | hmem, hlisted⟩
        · exact .inl rfl
        · exact .inr ⟨hmem, hlisted⟩
    | false =>
      rw [if_neg Bool.false_ne_true, ih hrest]
      constructor
      · rintro ⟨hmem, hlisted⟩
        exact ⟨.inr hmem, hlisted⟩
      · rintro ⟨rfl | hmem, hlisted⟩
        · rw [hkeep, Except.ok.injEq] at hlisted
          cases hlisted
        · exact ⟨hmem, hlisted⟩

/-- A listing that answers has checked every tool it was given. -/
theorem exists_listed_of_retainListed {service : ListingService}
    {tools kept : List ComposioToolSchema} (h : service.retainListed tools = .ok kept)
    {tool : ComposioToolSchema} (hmem : tool ∈ tools) :
    ∃ keep, service.listed tool.function.name = .ok keep := by
  induction tools generalizing kept with
  | nil => cases hmem
  | cons head tools ih =>
    obtain ⟨keep, allowed, hkeep, hrest, -⟩ := retainListed_cons h
    rcases List.mem_cons.mp hmem with rfl | hmem
    · exact ⟨keep, hkeep⟩
    · exact ih hrest hmem

/-- With the preferences applied, `ListTools` keeps of the offered tools those that are listed. -/
theorem listTools_spec {service : ListingService} {reply : Except BusError ComposioToolsResponse}
    {listing kept : ComposioToolsResponse} (hlisting : service.listTools false reply = .ok listing)
    (hkept : service.listTools true reply = .ok kept) :
    service.retainListed listing.tools = .ok kept.tools := by
  rw [listTools] at hlisting hkept
  cases hroute : service.route with
  | error error =>
    rw [hroute] at hkept
    cases hkept
  | ok route =>
    cases reply with
    | error error =>
      rw [hroute] at hkept
      cases hkept
    | ok response =>
      rw [hroute] at hlisting hkept
      have hall : (⟨response.tools.filter service.offers⟩ : ComposioToolsResponse) = listing :=
        Except.ok.inj hlisting
      cases hretain : service.retainListed (response.tools.filter service.offers) with
      | error error =>
        simp only [bind, Except.bind, if_true, hretain] at hkept
        cases hkept
      | ok allowed =>
        simp only [bind, Except.bind, if_true, hretain] at hkept
        have hallowed : (⟨allowed⟩ : ComposioToolsResponse) = kept := Except.ok.inj hkept
        rw [← hall, ← hallowed, hretain]

/-- A request that is answered with the preferences applied is answered without them, too. -/
theorem exists_listTools_false {service : ListingService}
    {reply : Except BusError ComposioToolsResponse} {kept : ComposioToolsResponse}
    (h : service.listTools true reply = .ok kept) :
    ∃ listing, service.listTools false reply = .ok listing := by
  rw [listTools] at h
  rw [listTools]
  cases hroute : service.route with
  | error error =>
    rw [hroute] at h
    cases h
  | ok route =>
    cases reply with
    | error error =>
      rw [hroute] at h
      cases h
    | ok response => exact ⟨⟨response.tools.filter service.offers⟩, rfl⟩

/-- Without them, it returns what the policy offers. -/
theorem mem_listTools {service : ListingService} {response answer : ComposioToolsResponse}
    (h : service.listTools false (.ok response) = .ok answer) (tool : ComposioToolSchema) :
    tool ∈ answer.tools ↔ tool ∈ response.tools ∧ service.offers tool = true := by
  rw [listTools] at h
  cases hroute : service.route with
  | error error =>
    rw [hroute] at h
    cases h
  | ok route =>
    rw [hroute] at h
    obtain rfl : (⟨response.tools.filter service.offers⟩ : ComposioToolsResponse) = answer :=
      Except.ok.inj h
    rw [List.mem_filter]

end ListingService

/-- A tool of which only the slug is known. -/
def bareTool (slug : String) : ComposioToolSchema := ⟨⟨slug, none, none, none⟩⟩

/-! ## `ListVisibleTools` -/

/-- One curated action of an answer. -/
structure VisibleTool where
  toolkit : String
  slug : String
  scope : ToolScope
  deriving DecidableEq

/-- The curated actions of a toolkit that a scope preference exposes. -/
structure VisibleToolsResponse where
  toolkit : String
  preference : UserScopePref
  hasCatalog : Bool
  tools : List VisibleTool

/-- `vocabulary::list_visible_tools`. -/
def visibleTools (toolkit : String) (preference : UserScopePref) : VisibleToolsResponse :=
  let catalog := catalogForToolkit toolkit
  { toolkit
    preference
    hasCatalog := catalog.isSome
    tools := ((catalog.getD []).filter fun action => preference.allows action.scope).map
      fun action => { toolkit, slug := action.slug, scope := action.scope } }

namespace ListingService

/-- Without a preference in the request, the stored one applies. -/
def listVisibleTools (service : ListingService) (toolkit : String)
    (preference : Option UserScopePref) : Except BusError VisibleToolsResponse := do
  let toolkit := toAsciiLowercase (trim toolkit)
  match preference with
  | some preference => return visibleTools toolkit preference
  | none =>
    let preference ← (UserScopePref.load service.prefs toolkit).mapError .prefs
    return visibleTools toolkit preference

end ListingService

/-! ## The overview -/

/-- Which side of the backend an overview is assembled from. -/
inductive ComposioConnectedIntegrationsMode where
  | backend
  | direct
  deriving DecidableEq

namespace ComposioConnectedIntegrationsMode

/-- The route name a mode is served over. -/
def routeFor : ComposioConnectedIntegrationsMode → String
  | backend => "proxy"
  | direct => "direct"

/-- `Debug`. -/
def debug : ComposioConnectedIntegrationsMode → String
  | backend => "Backend"
  | direct => "Direct"

end ComposioConnectedIntegrationsMode

/-- What the route answers while an overview is assembled. -/
structure RouteListings where
  toolkits : Except BusError ComposioToolkitsResponse
  connections : Except BusError (List ComposioConnection)
  /-- By the toolkits asked for. -/
  tools : List String → Except BusError ComposioToolsResponse

/-- What an overview is assembled from, the preferences apart. -/
structure FetchedListings where
  allowlist : List String
  connections : List ComposioConnection
  tools : List ComposioToolSchema
  descriptions : AList fun _ : String => String

namespace ListingService

/-- The stored preference of each toolkit. -/
def loadPreferences (service : ListingService) :
    List String → Except BusError (List (String × UserScopePref))
  | [] => .ok []
  | toolkit :: rest => do
    let preference ← (UserScopePref.load service.prefs toolkit).mapError .prefs
    let preferences ← loadPreferences service rest
    return (toolkit, preference) :: preferences

/-- The listings of the hosted backend; nothing when its allowlist is empty. -/
def backendListings (replies : RouteListings) :
    Except BusError (Option FetchedListings) := do
  let toolkits ← replies.toolkits
  let descriptions := catalogDescriptions toolkits.catalog
  let allowlist := connectableToolkitSlugs toolkits.toolkits toolkits.catalog
  if allowlist.isEmpty then return none
  else
    let connections ← replies.connections
    let connected := activeToolkits connections
    if connected.isEmpty then return some ⟨allowlist, connections, [], descriptions⟩
    else
      let listing ← replies.tools connected
      return some ⟨allowlist, connections, listing.tools, descriptions⟩

/-- The listings of the user's own tenant, where a failed tool listing only costs the tools. -/
def directListings (replies : RouteListings) :
    Except BusError (Option FetchedListings) := do
  let connections ← replies.connections
  let allowlist := activeToolkits connections
  if allowlist.isEmpty then return none
  else
    match replies.tools allowlist with
    | .ok listing => return some ⟨allowlist, connections, listing.tools, ∅⟩
    | .error _ => return some ⟨allowlist, connections, [], ∅⟩

/-- The listings of a mode. -/
def fetchListings (replies : RouteListings) :
    ComposioConnectedIntegrationsMode → Except BusError (Option FetchedListings)
  | .backend => backendListings replies
  | .direct => directListings replies

/-- Assembles the overview for `mode`. -/
def connectedIntegrations (upper : Uppercase) (service : ListingService)
    (mode : ComposioConnectedIntegrationsMode) (replies : RouteListings) :
    Except BusError (List ComposioConnectedIntegration) := do
  let route ← service.route
  if route ≠ mode.routeFor then
    .error (.failed (s!"connected integrations requested over the {mode.debug} route, but this " ++
      s!"module is configured for `{route}`"))
  else
    let listings ← fetchListings replies mode
    match listings with
    | none => return []
    | some ⟨allowlist, connections, tools, descriptions⟩ =>
      let preferences ← service.loadPreferences (activeToolkits connections)
      return assemble upper { allowlist, connections, tools, descriptions, preferences }

end ListingService
