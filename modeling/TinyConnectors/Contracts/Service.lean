/-
# The contract members under way

`tinybus_module/contracts.rs`: `toolkit_contracts`, `contract_with_probe` and
`probe_output`, suspended at their await points, and `Configure`, which swaps the
route under them.  A call that is resumed runs to its next await point in one
step (`ContractTask.resume`).  Which route a client was installed with and which
one a cache entry was fetched over is recorded in history fields that no
function reads.
-/
import TinyConnectors.Contracts.Caches
import TinyConnectors.Listing.Overview
import TinyConnectors.ScopeCheck

open RustStr

/-- The stable wire name of a scope. -/
def ToolScope.asStr : ToolScope → String
  | .read => "read"
  | .write => "write"
  | .admin => "admin"

/-- Why a contract member fails. -/
inductive ContractError where
  /-- A text of the module's own. -/
  | failed (message : String)
  /-- A preference error, with its own text. -/
  | prefs (error : SyncError)
  /-- The text of an error of the client. -/
  | upstream (message : String)
  /-- `format_provider_error(tool, message)`. -/
  | provider (tool message : String)
  /-- ``probe: real call to `{slug}` failed: {error}``. -/
  | probeCall (slug : String) (error : ContractError)

/-- A client, with the number of the `Configure` that installed it. -/
structure RouteClient where
  route : String
  generation : ℕ
  deriving DecidableEq

/-- The parts of the bus service the contract members read and write. -/
structure ContractService where
  client : Option RouteClient
  prefs : PrefsStore
  caches : ContractCaches
  /-- The toolkits whose fetch lock is held; a lock is made on demand and never removed. -/
  held : Finset String
  /-- The clock, in seconds. -/
  now : ℕ
  /-- History: how many `Configure` calls have taken effect. -/
  generation : ℕ
  /-- History: over which route the catalog of a toolkit, or a probe, was fetched. -/
  catalogRoute : String → ℕ
  probeRoute : String → ℕ

namespace ContractService

/-- The service as the module assembles it. -/
def load (route : Option String) (prefs : PrefsStore) : ContractService where
  client := route.map fun name => ⟨name, 0⟩
  prefs := prefs
  caches := .default
  held := ∅
  now := 0
  generation := 0
  catalogRoute _ := 0
  probeRoute _ := 0

/-! ## Configure -/

/-- `ComposioConfigureRequest`, after `into_route` has taken it or refused it. -/
inductive ConfigureRequest where
  | none
  | route (built : Except ContractError String)

/-- Swap the client, then forget what was fetched over the old one. -/
def install (service : ContractService) (route : Option String) : ContractService :=
  { service with
    client := route.map fun name => ⟨name, service.generation + 1⟩
    caches := service.caches.clear
    generation := service.generation + 1 }

/-- Install or replace the route; the answer is its name. -/
def configure (service : ContractService) :
    ConfigureRequest → Except ContractError String × ContractService
  | .none => (.ok "none", service.install none)
  | .route (.ok name) => (.ok name, service.install (some name))
  | .route (.error error) => (.error error, service)

/-! ## Locks and caches -/

def hold (service : ContractService) (key : String) : ContractService :=
  { service with held := insert key service.held }

def release (service : ContractService) (key : String) : ContractService :=
  { service with held := service.held.erase key }

def catalog (service : ContractService) (key : String) : Option (List ComposioToolContract) :=
  service.caches.catalog service.now key

def probe (service : ContractService) (slug : String) : Option ComposioProbedOutputSample :=
  service.caches.probe service.now slug

def applyProbe (service : ContractService) (contract : ComposioToolContract) :
    ComposioToolContract :=
  service.caches.applyProbe service.now contract

/-- Remember a catalog that `client` has fetched. -/
def rememberCatalog (service : ContractService) (client : RouteClient) (key : String)
    (contracts : List ComposioToolContract) : ContractService :=
  { service with
    caches := service.caches.rememberCatalog service.now key contracts
    catalogRoute := Function.update service.catalogRoute key client.generation }

/-- Remember a probe that `client` has run. -/
def rememberProbe (service : ContractService) (client : RouteClient) (slug : String)
    (sample : ComposioProbedOutputSample) : ContractService :=
  { service with
    caches := service.caches.rememberProbe service.now slug sample
    probeRoute := Function.update service.probeRoute (ContractCaches.probeKey slug)
      client.generation }

end ContractService

/-- The error of a call that needs a route when there is none. -/
def noRoute : ContractError :=
  .failed ("this module was loaded without a connector route: pass a `route` of " ++
    "\"proxy\" or \"direct\" in its configuration, or call Configure, to reach Composio")

/-! ## Calls -/

/-- A call of one of the members. -/
inductive ContractCall where
  | toolkitContracts (toolkit : String)
  | contractWithProbe (slug : String)
  | probeOutput (slug : String) (args : Json)

/-- What a catalog is fetched for: all of it, or the contract of one action. -/
inductive CatalogUse where
  | whole
  | action (slug : String)

/-- What a call returns. -/
inductive ContractReply where
  | catalog (result : Except ContractError (String × List ComposioToolContract))
  | contract (result : Except ContractError (Option ComposioToolContract))
  | sample (result : Except ContractError ComposioProbedOutputSample)

/-- Where a call is suspended, with the variables that are live there. -/
inductive ContractTask where
  | called (call : ContractCall)
  /-- `lock.lock()`. -/
  | awaitLock (use : CatalogUse) (key : String)
  /-- `list_tools`, with the lock held. -/
  | awaitListing (use : CatalogUse) (key : String) (client : RouteClient)
  /-- `list_connections`. -/
  | awaitConnections (slug toolkit : String) (args : Json) (client : RouteClient)
  /-- A read of `pref_for`. -/
  | awaitPref (slug : String) (arguments : Option Json) (toolkit : String) (rest : List String)
  /-- The read of `UserScopePref::load`. -/
  | awaitLoad (slug : String) (arguments : Option Json) (toolkit : String)
  /-- `execute`. -/
  | awaitExecute (slug : String) (arguments : Option Json) (client : RouteClient)
  | returned (reply : ContractReply)

/-- What a suspended call is resumed with. -/
inductive Answer where
  /-- Nothing but its turn: the call has just been made, got its lock, or reads a preference. -/
  | turn
  | listing (reply : Except String ComposioToolsResponse)
  | connections (reply : Except String (List ComposioConnection))
  | executed (reply : Except String ComposioExecuteResponse)

namespace ContractTask

/-! ## `toolkit_contracts` and `contract_with_probe` -/

/-- Return a catalog, or the contract wanted of it with any cached probe laid over it. -/
def finish (service : ContractService) (use : CatalogUse)
    (result : Except ContractError (String × List ComposioToolContract)) : ContractTask :=
  match use with
  | .whole => .returned (.catalog result)
  | .action slug => .returned (.contract (result.map fun found =>
      (found.2.find? fun contract => eqIgnoreAsciiCase contract.slug slug).map service.applyProbe))

/-- Up to the fetch lock. -/
def toolkitContracts (service : ContractService) (use : CatalogUse) (toolkit : String) :
    ContractTask :=
  let key := toAsciiLowercase (trim toolkit)
  if key = "" then finish service use (.error (.failed "toolkit must not be empty"))
  else
    match service.catalog key with
    | some cached => finish service use (.ok (key, cached))
    | none => .awaitLock use key

def contractWithProbe (service : ContractService) (slug : String) : ContractTask :=
  let slug := trim slug
  match toolkitOf slug with
  | none => .returned (.contract (.ok none))
  | some toolkit => toolkitContracts service (.action slug) toolkit

/-- With the lock: another caller may have filled the cache while this one waited. -/
def afterLock (service : ContractService) (use : CatalogUse) (key : String) :
    ContractTask × ContractService :=
  match service.catalog key with
  | some cached => (finish service use (.ok (key, cached)), service)
  | none =>
    match service.client with
    | none => (finish service use (.error noRoute), service)
    | some client => (.awaitListing use key client, service.hold key)

def afterListing (service : ContractService) (use : CatalogUse) (key : String)
    (client : RouteClient) :
    Except String ComposioToolsResponse → ContractTask × ContractService
  | .error message => (finish service use (.error (.upstream message)), service.release key)
  | .ok listing =>
    let fetched := contractsFromListing key listing
    let service := (service.rememberCatalog client key fetched).release key
    (finish service use (.ok (key, fetched)), service)

/-! ## `probe_output` -/

def refuse (message : String) : ContractTask := .returned (.sample (.error (.failed message)))

/-- `execute_checked` has failed. -/
def failCall (slug : String) (error : ContractError) : ContractTask :=
  .returned (.sample (.error (.probeCall slug error)))

def probeOutput (service : ContractService) (slug : String) (args : Json) : ContractTask :=
  let slug := trim slug
  if slug = "" then refuse "probe: slug must not be empty"
  else
    match resolveActionScope slug with
    | some .read =>
      match toolkitOf slug with
      | none => refuse s!"probe: could not extract a toolkit from slug `{slug}`"
      | some toolkit =>
        match service.client with
        | none => .returned (.sample (.error noRoute))
        | some client => .awaitConnections slug toolkit args client
    | some other =>
      let scope := other.asStr
      refuse (s!"probe refuses `{slug}`: classified as {scope} - a probe is read-only and never " ++
        "performs a real mutation, whatever the user's scope preference. Use the " ++
        "tool contract for its schema-derived, possibly unknown, output shape.")
    | none =>
      refuse (s!"probe refuses `{slug}`: could not confirm it is a read action. Either no " ++
        "toolkit could be extracted from the slug, or its toolkit has a curated " ++
        "catalog and this slug is not in it. A probe never falls back to a verb " ++
        "heuristic there, since an uncurated action could really be a write.")

/-- The permitted call, over the client in use now. -/
def execute (service : ContractService) (slug : String) (arguments : Option Json) : ContractTask :=
  match service.client with
  | none => failCall slug noRoute
  | some client => .awaitExecute slug arguments client

/-- `permits` has resolved the preference. -/
def judge (service : ContractService) (slug : String) (arguments : Option Json)
    (pref : UserScopePref) : ContractTask :=
  match Sync.toolkitFromSlug slug with
  | none => execute service slug arguments
  | some toolkit =>
    if pref.allows (requiredScope defaultRegistry toolkit slug) then execute service slug arguments
    else failCall slug (.failed (s!"`{slug}` is not permitted: " ++
      "the scope preference for this toolkit does not allow it"))

/-- The loop of `pref_for`. -/
def nextPref (service : ContractService) (slug : String) (arguments : Option Json) :
    List String → ContractTask
  | [] => judge service slug arguments UserScopePref.default
  | toolkit :: rest => .awaitPref slug arguments toolkit rest

def afterPref (service : ContractService) (slug : String) (arguments : Option Json)
    (toolkit : String) (rest : List String) : ContractTask :=
  match service.prefs.get (UserScopePref.key toolkit) with
  | .error error => failCall slug (.prefs error)
  | .ok none => nextPref service slug arguments rest
  | .ok (some _) => .awaitLoad slug arguments toolkit

def afterLoad (service : ContractService) (slug : String) (arguments : Option Json)
    (toolkit : String) : ContractTask :=
  match UserScopePref.load service.prefs toolkit with
  | .error error => failCall slug (.prefs error)
  | .ok pref => judge service slug arguments pref

def afterConnections (service : ContractService) (slug toolkit : String) (args : Json) :
    Except String (List ComposioConnection) → ContractTask
  | .error message => .returned (.sample (.error (.upstream message)))
  | .ok connections =>
    if toolkit ∉ activeToolkits connections then
      refuse (s!"probe refuses `{slug}`: the `{toolkit}` toolkit has no active connection for " ++
        "this user. Connect it first, or fall back to the tool contract's " ++
        "schema-derived hint.")
    else
      let arguments := if args = .null then none else some args
      match Sync.toolkitFromSlug slug with
      | none => execute service slug arguments
      | some _ =>
        nextPref service slug arguments (rmatchPrefixes (toAsciiLowercase (trim slug)) '_')

/-- What a provider gives for a failure, or that it gives nothing. -/
def failureDetail (response : ComposioExecuteResponse) : String :=
  ((response.error.map trim).filter fun detail => detail ≠ "").getD
    "no error detail returned by the provider"

def afterExecute (service : ContractService) (slug : String) (client : RouteClient) :
    Except String ComposioExecuteResponse → ContractTask × ContractService
  | .error message => (failCall slug (.provider slug message), service)
  | .ok response =>
    if response.successful then
      let sample := probedSample response
      (.returned (.sample (.ok sample)), service.rememberProbe client slug sample)
    else
      let detail := failureDetail response
      (refuse s!"probe: `{slug}` reported failure at the provider: {detail}", service)

/-! ## Resuming -/

/-- A call that has just been made. -/
def begin (service : ContractService) : ContractCall → ContractTask
  | .toolkitContracts toolkit => toolkitContracts service .whole toolkit
  | .contractWithProbe slug => contractWithProbe service slug
  | .probeOutput slug args => probeOutput service slug args

/-- From one await point to the next; `none` where the call cannot be resumed so. -/
def resume (service : ContractService) :
    ContractTask → Answer → Option (ContractTask × ContractService)
  | .called call, .turn => some (begin service call, service)
  | .awaitLock use key, .turn =>
    if key ∈ service.held then none else some (afterLock service use key)
  | .awaitListing use key client, .listing reply => some (afterListing service use key client reply)
  | .awaitConnections slug toolkit args _, .connections reply =>
    some (afterConnections service slug toolkit args reply, service)
  | .awaitPref slug arguments toolkit rest, .turn =>
    some (afterPref service slug arguments toolkit rest, service)
  | .awaitLoad slug arguments toolkit, .turn =>
    some (afterLoad service slug arguments toolkit, service)
  | .awaitExecute slug _ client, .executed reply => some (afterExecute service slug client reply)
  | _, _ => none

/-- The client whose answer is stored in a cache when the call is resumed with it. -/
def storedOver : ContractTask → Answer → Option RouteClient
  | .awaitListing _ _ client, .listing (.ok _) => some client
  | .awaitExecute _ _ client, .executed (.ok response) =>
    if response.successful then some client else none
  | _, _ => none

/-! ## Misses -/

/-- The key `toolkit_contracts` lists, caches and locks a toolkit under. -/
def toolkitKey (toolkit : String) : String := toAsciiLowercase (trim toolkit)

/-- A call that misses goes up to the lock of its key. -/
theorem resume_called {service : ContractService} {toolkit key : String}
    (hkey : toolkitKey toolkit = key) (hempty : key ≠ "") (hmiss : service.catalog key = none) :
    resume service (.called (.toolkitContracts toolkit)) .turn =
      some (.awaitLock .whole key, service) := by
  unfold toolkitKey at hkey
  simp only [resume, begin, toolkitContracts, hkey, if_neg hempty, hmiss]

/-- With the lock, a call that misses again lists. -/
theorem resume_lock {service : ContractService} {key : String} {client : RouteClient}
    (hfree : key ∉ service.held) (hmiss : service.catalog key = none)
    (hclient : service.client = some client) (use : CatalogUse) :
    resume service (.awaitLock use key) .turn =
      some (.awaitListing use key client, service.hold key) := by
  simp only [resume, if_neg hfree, afterLock, hmiss, hclient]

end ContractTask
