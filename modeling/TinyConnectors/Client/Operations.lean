/-
# What is asked of a route

`client/composio.rs`: the operations that are one call of the route each.  An identifier
that has to be there is trimmed and refused where it is blank, and an optional one that is
blank counts as absent; what the route is asked for is then a member of `Route`.
-/
import TinyConnectors.Client.Authorize

namespace Client

open RustStr

/-- A call of a route: the members of `Route` with their arguments. -/
inductive RouteRequest where
  | listToolkits
  | listConnections
  | authorize (toolkit : String) (body : Json)
  | listTools (toolkits tags : List String)
  | execute (tool : String) (arguments : Json) (connectionId : Option String)
  | deleteConnection (connectionId : String)
  | listGithubRepos (connectionId : Option String)
  | listAvailableTriggers (toolkit : String) (connectionId : Option String)
  | listTriggers (toolkit : Option String)
  | createTrigger (slug : String) (connectionId : Option String) (triggerConfig : Option Json)
  | enableTrigger (connectionId slug : String) (triggerConfig : Option Json)
  | disableTrigger (triggerId : String)
  deriving DecidableEq

/-- The operations of `ComposioClient` that ask the route once. -/
inductive Operation where
  | listToolkits
  | listConnections
  | deleteConnection (connectionId : String)
  | listTools (toolkits tags : List String)
  | listGithubRepos (connectionId : Option String)
  | listAvailableTriggers (toolkit : String) (connectionId : Option String)
  | listTriggers (toolkit : Option String)
  | createTrigger (slug : String) (connectionId : Option String) (triggerConfig : Option Json)
  | enableTrigger (connectionId slug : String) (triggerConfig : Option Json)
  | disableTrigger (triggerId : String)

/-- Refuse an empty required identifier before it reaches a URL. -/
def require (member field value : String) : Except Error String :=
  let trimmed := trim value
  if trimmed = "" then
    .error (.route (.invalidArguments member ("`" ++ field ++ "` must not be empty")))
  else .ok trimmed

/-- Treat a blank optional argument as absent. -/
def nonEmpty (value : Option String) : Option String :=
  (value.map trim).filter fun value => value ≠ ""

/-- What an operation asks the route for. -/
def Operation.asks : Operation → Except Error RouteRequest
  | .listToolkits => .ok .listToolkits
  | .listConnections => .ok .listConnections
  | .deleteConnection connectionId =>
    let connectionId := trim connectionId
    -- the one identifier that is refused as an authorize is
    if connectionId = "" then .error (.authorize "" "connection_id must not be empty")
    else .ok (.deleteConnection connectionId)
  | .listTools toolkits tags => .ok (.listTools toolkits tags)
  | .listGithubRepos connectionId => .ok (.listGithubRepos (nonEmpty connectionId))
  | .listAvailableTriggers toolkit connectionId => do
    let toolkit ← require "ListAvailableTriggers" "toolkit" toolkit
    return .listAvailableTriggers toolkit (nonEmpty connectionId)
  | .listTriggers toolkit => .ok (.listTriggers (nonEmpty toolkit))
  | .createTrigger slug connectionId triggerConfig => do
    let slug ← require "CreateTrigger" "slug" slug
    return .createTrigger slug (nonEmpty connectionId) triggerConfig
  | .enableTrigger connectionId slug triggerConfig => do
    let connectionId ← require "EnableTrigger" "connection_id" connectionId
    let slug ← require "EnableTrigger" "slug" slug
    return .enableTrigger connectionId slug triggerConfig
  | .disableTrigger triggerId => do
    let triggerId ← require "DisableTrigger" "trigger_id" triggerId
    return .disableTrigger triggerId

/-! ## Identifiers -/

/-- The texts a request names one thing by; an authorize does so in its body. -/
def RouteRequest.identifiers : RouteRequest → List String
  | .listToolkits | .listConnections | .listTools _ _ | .authorize _ _ => []
  | .execute tool _ connectionId => tool :: connectionId.toList
  | .deleteConnection connectionId => [connectionId]
  | .listGithubRepos connectionId => connectionId.toList
  | .listAvailableTriggers toolkit connectionId => toolkit :: connectionId.toList
  | .listTriggers toolkit => toolkit.toList
  | .createTrigger slug connectionId _ => slug :: connectionId.toList
  | .enableTrigger connectionId slug _ => [connectionId, slug]
  | .disableTrigger triggerId => [triggerId]

/-- Trimmed, and not blank. -/
def Clean (text : String) : Prop := trim text = text ∧ text ≠ ""

theorem clean_of_require {member field value named : String}
    (h : require member field value = .ok named) : Clean named := by
  simp only [require] at h
  split_ifs at h with hblank
  obtain rfl := Except.ok.inj h
  exact ⟨trim_trim value, hblank⟩

theorem clean_of_nonEmpty {value : Option String} {named : String}
    (h : named ∈ (nonEmpty value).toList) : Clean named := by
  rw [Option.mem_toList, nonEmpty, Option.filter_eq_some_iff, Option.map_eq_some_iff,
    decide_eq_true_iff] at h
  obtain ⟨⟨given, -, rfl⟩, hne⟩ := h
  exact ⟨trim_trim given, hne⟩

/-- A step that may refuse has not. -/
theorem exists_of_bind_ok {ε α β : Type} {m : Except ε α} {f : α → Except ε β} {b : β}
    (h : m >>= f = .ok b) : ∃ a, m = .ok a ∧ f a = .ok b := by
  cases m with
  | error e => cases h
  | ok a => exact ⟨a, rfl, h⟩

/-- Whatever a route is asked for by an operation is named, and without white space around it. -/
theorem Operation.clean_of_asks {op : Operation} {request : RouteRequest}
    (h : op.asks = .ok request) :
    ∀ text ∈ request.identifiers, Clean text := by
  cases op with
  | listToolkits | listConnections | listTools toolkits tags =>
    obtain rfl := Except.ok.inj h
    exact List.forall_mem_nil _
  | deleteConnection connectionId =>
    simp only [asks] at h
    split_ifs at h with hblank
    obtain rfl := Except.ok.inj h
    exact List.forall_mem_singleton.mpr ⟨trim_trim connectionId, hblank⟩
  | listGithubRepos connectionId | listTriggers toolkit =>
    obtain rfl := Except.ok.inj h
    intro text
    exact clean_of_nonEmpty
  | listAvailableTriggers toolkit connectionId | createTrigger slug connectionId triggerConfig =>
    obtain ⟨named, hnamed, hdone⟩ := exists_of_bind_ok h
    obtain rfl := Except.ok.inj hdone
    refine List.forall_mem_cons.mpr ⟨clean_of_require hnamed, ?_⟩
    intro text
    exact clean_of_nonEmpty
  | enableTrigger connectionId slug triggerConfig =>
    obtain ⟨named, hnamed, hrest⟩ := exists_of_bind_ok h
    obtain ⟨called, hcalled, hdone⟩ := exists_of_bind_ok hrest
    obtain rfl := Except.ok.inj hdone
    exact List.forall_mem_cons.mpr
      ⟨clean_of_require hnamed, List.forall_mem_singleton.mpr (clean_of_require hcalled)⟩
  | disableTrigger triggerId =>
    obtain ⟨named, hnamed, hdone⟩ := exists_of_bind_ok h
    obtain rfl := Except.ok.inj hdone
    exact List.forall_mem_singleton.mpr (clean_of_require hnamed)

end Client
