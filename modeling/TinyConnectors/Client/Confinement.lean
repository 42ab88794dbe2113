/-
# Where a credential is sent

`RouteConfig::into_route` (`tinybus_module/mod.rs`), the stateless reads of
`tinybus_module/routed.rs` and `client/direct_read.rs`: whichever way a route comes to be
built, and whatever is asked and answered over it, its credential goes to the base URL that
was admitted and to no other place, in one header, and the reads change nothing.
-/
import TinyConnectors.Client.DirectRequests
import TinyConnectors.Client.Transport

open RustStr Prog Session Proxy

namespace Client

/-! ## Routes -/

def COMPOSIO_API_BASE : String := "https://backend.composio.dev/api/v3"

/-- `RouteConfig`, without the state directory, which is read by nothing. -/
inductive RouteConfig where
  | proxy (baseUrl authToken : String) (timezone : Option String)
      (transport : Option TransportConfig)
  | direct (apiKey : String) (entityId baseUrl : Option String) (transport : Option TransportConfig)
      (webhooks : Bool)

/-- A route with its transport. -/
inductive BuiltRoute (crates : Crates) where
  | proxy (transport : HttpTransport crates)
  | direct (transport : HttpTransport crates) (route : Direct.Route)

def BuiltRoute.transport {crates : Crates} : BuiltRoute crates → HttpTransport crates
  | proxy transport => transport
  | direct transport _ => transport

namespace RouteConfig

variable (crates : Crates)

def intoRoute : RouteConfig → Except SetupError (BuiltRoute crates)
  | proxy baseUrl authToken timezone transport => do
    let built ← HttpTransport.bearer baseUrl authToken
    let built ← (built.withTimezone timezone).withNetwork transport
    return .proxy built
  | direct apiKey entityId baseUrl transport webhooks => do
    let built ← HttpTransport.apiKey (baseUrl.getD COMPOSIO_API_BASE) apiKey
    let built ← built.withNetwork transport
    return .direct built ((Direct.Route.new (entityId.getD "")).withWebhooks webhooks)

/-- Where the configuration points. -/
def base : RouteConfig → String
  | proxy baseUrl _ _ _ => HttpTransport.baseOf baseUrl
  | direct _ _ baseUrl _ _ => HttpTransport.baseOf (baseUrl.getD COMPOSIO_API_BASE)

def scheme : RouteConfig → AuthScheme
  | proxy _ _ _ _ => .bearer
  | direct _ _ _ _ _ => .apiKey

def credential : RouteConfig → String
  | proxy _ authToken _ _ => authToken
  | direct apiKey _ _ _ _ => apiKey

def timezone : RouteConfig → Option String
  | proxy _ _ timezone _ => timezone
  | direct _ _ _ _ _ => none

def network : RouteConfig → Option TransportConfig
  | proxy _ _ _ transport => transport
  | direct _ _ _ transport _ => transport

end RouteConfig

/-- The member of the direct route for a call. -/
def memberOf : RouteRequest → Direct.Member
  | .listToolkits => .listToolkits
  | .listConnections => .listConnections
  | .authorize _ body => .authorize body
  | .listTools toolkits tags => .listTools toolkits tags
  | .execute tool arguments connectionId => .execute tool arguments connectionId
  | .deleteConnection _ => .deleteConnection
  | .listGithubRepos _ => .listGithubRepos
  | .listAvailableTriggers toolkit _ => .listAvailableTriggers toolkit
  | .listTriggers toolkit => .listTriggers toolkit
  | .createTrigger slug connectionId triggerConfig => .createTrigger slug connectionId triggerConfig
  | .enableTrigger connectionId slug triggerConfig => .enableTrigger connectionId slug triggerConfig
  | .disableTrigger triggerId => .disableTrigger triggerId

namespace BuiltRoute

variable {crates : Crates}

/-- What a route calls; the proxy route's reply is handed on. -/
def calls : BuiltRoute crates → RouteRequest → Direct.Calls Unit
  | proxy _, asked => do
    let sent ← Proxy.request asked
    Direct.finished (Direct.call sent)
  | direct _ route, asked => (memberOf asked).calls route

/-- The requests of a run, as they are sent. -/
def sent (built : BuiltRoute crates) (asked : RouteRequest) (answers : List Direct.Answer) :
    List HttpRequest :=
  ((built.calls asked).run.exchanges answers).map fun exchange => built.transport.request exchange.1

end BuiltRoute

/-! ## Stateless reads -/

/-- `ComposioDirectCredential`. -/
structure DirectCredential where
  apiKey : String
  entityId : Option String
  baseUrl : Option String
  transport : Option TransportConfig
  webhooks : Bool

/-- `ComposioCallRoute`. -/
inductive CallRoute where
  | proxy (baseUrl authToken : String) (timezone : Option String)
      (transport : Option TransportConfig)
  | direct (credential : DirectCredential)

/-- `ComposioReadOperation`. -/
inductive ReadOperation where
  | listToolkits
  | listConnections
  | listGithubRepos (connectionId : Option String)
  | listAvailableTriggers (toolkit : String) (connectionId : Option String)
  | listTriggers (toolkit : Option String)

def ReadOperation.operation : ReadOperation → Operation
  | listToolkits => .listToolkits
  | listConnections => .listConnections
  | listGithubRepos connectionId => .listGithubRepos connectionId
  | listAvailableTriggers toolkit connectionId => .listAvailableTriggers toolkit connectionId
  | listTriggers toolkit => .listTriggers toolkit

/-- The configuration of a routed read, or the message it is refused with. -/
def CallRoute.config : CallRoute → Except String RouteConfig
  | proxy baseUrl authToken timezone transport =>
    if trim authToken = "" ∨ trim baseUrl = "" then
      .error "routed read requires a nonempty proxy endpoint and bearer credential"
    else .ok (.proxy baseUrl authToken timezone transport)
  | direct credential =>
    if trim credential.apiKey = "" ∨ credential.baseUrl.any (fun url => trim url = "") then
      .error "routed read requires a nonempty direct key and endpoint"
    else .ok (.direct credential.apiKey credential.entityId credential.baseUrl credential.transport
      credential.webhooks)

/-- The message without the URL, which can contain a credential. -/
def confidentialText : SetupError → String
  | .insecureBaseUrl _ reason => s!"refusing credential-bearing endpoint: {reason}"
  | .invalidNetworkConfig reason => (SetupError.invalidNetworkConfig reason).text

/-- `routed::read`, up to its call of the route. -/
def routedRead (crates : Crates) (route : CallRoute) (operation : ReadOperation) :
    Except String (BuiltRoute crates × RouteRequest) := do
  let config ← route.config
  let built ← (config.intoRoute crates).mapError confidentialText
  let asked ← operation.operation.asks.mapError Error.text
  return (built, asked)

/-- `route_for` of the direct reads, which has no webhooks. -/
def directReadRoute (crates : Crates) (credential : DirectCredential) :
    Except String (BuiltRoute crates) :=
  let apiKey := trim credential.apiKey
  if apiKey = "" then .error "composio direct api key must not be empty"
  else
    let baseUrl :=
      ((credential.baseUrl.map trim).filter fun base => base ≠ "").getD COMPOSIO_API_BASE
    let transport := do
      let built ← (HttpTransport.apiKey baseUrl apiKey : Except SetupError (HttpTransport crates))
      built.withNetwork credential.transport
    (transport.mapError SetupError.text).map fun built =>
      .direct built (Direct.Route.new (credential.entityId.getD ""))

/-! ## The guard -/

section Guard

variable {crates : Crates}

/-- HTTPS, or plain HTTP to a loopback address, and no credential in it. -/
structure Url.Safe (url : Url) : Prop where
  username : url.username = ""
  password : url.password = none
  scheme : url.scheme = "https" ∨ url.scheme = "http" ∧ url.host.any Host.isLoopback = true

/-- The guard lets a credential go there. -/
def Admitted (crates : Crates) (base : String) : Prop :=
  ∃ url, crates.parse base = some url ∧ url.Safe

theorem admitted_iff (base : String) :
    (∃ host, checkBaseUrl crates base = .ok host) ↔ Admitted crates base := by
  unfold checkBaseUrl Admitted
  cases crates.parse base with
  | none => simp
  | some url =>
    simp only [Option.some.injEq, exists_eq_left']
    -- the five ways out of the guard, in its order
    split_ifs with hembedded hhttps hhttp hloopback
    · refine iff_of_false (by simp) ?_
      intro hsafe
      rcases hembedded with h | h
      · exact h hsafe.username
      · rw [hsafe.password] at h
        cases h
    all_goals
      obtain ⟨husername, hpassword⟩ := not_or.mp hembedded
      have hnone : url.password = none := by simpa using hpassword
    · exact iff_of_true ⟨_, rfl⟩ ⟨not_not.mp husername, hnone, .inl hhttps⟩
    · exact iff_of_true ⟨_, rfl⟩ ⟨not_not.mp husername, hnone, .inr ⟨hhttp, hloopback⟩⟩
    · refine iff_of_false (by simp) ?_
      rintro ⟨-, -, h | h⟩
      · exact hhttps h
      · exact hloopback h.2
    · refine iff_of_false (by simp) ?_
      rintro ⟨-, -, h | h⟩
      · exact hhttps h
      · exact hhttp h.1

/-! ## What is built -/

/-- A transport is the one that a configuration describes. -/
structure BuiltFor (config : RouteConfig) (transport : HttpTransport crates) : Prop where
  base : transport.baseUrl = config.base
  scheme : transport.scheme = config.scheme
  credential : transport.credential = config.credential
  timezone : transport.timezone = (config.timezone.map trim).filter isZone
  agent : ∃ host, checkBaseUrl crates config.base = .ok host ∧
    buildAgent crates config.scheme.strictness config.network host = .ok transport.agent

/-- A transport is the one that a configuration describes, before its policy is applied. -/
structure Plainly (config : RouteConfig) (transport : HttpTransport crates) : Prop where
  base : transport.baseUrl = config.base
  scheme : transport.scheme = config.scheme
  credential : transport.credential = config.credential
  timezone : transport.timezone = (config.timezone.map trim).filter isZone

theorem build_ok {baseUrl credential : String} {scheme : AuthScheme}
    {transport : HttpTransport crates}
    (h : HttpTransport.build baseUrl credential scheme = .ok transport) :
    transport.baseUrl = HttpTransport.baseOf baseUrl ∧ transport.scheme = scheme ∧
      transport.credential = credential ∧ transport.timezone = none := by
  unfold HttpTransport.build at h
  split at h
  · cases h
  · split at h
    · cases h
    · obtain rfl := Except.ok.inj h
      exact ⟨rfl, rfl, rfl, rfl⟩

theorem plainly_proxy {baseUrl authToken : String} {timezone : Option String}
    {network : Option TransportConfig} {plain : HttpTransport crates}
    (h : HttpTransport.bearer baseUrl authToken = .ok plain) :
    Plainly (.proxy baseUrl authToken timezone network) (plain.withTimezone timezone) := by
  obtain ⟨hbase, hscheme, hcredential, -⟩ := build_ok h
  exact ⟨hbase, hscheme, hcredential, rfl⟩

theorem plainly_direct {apiKey : String} {entityId baseUrl : Option String}
    {network : Option TransportConfig} {webhooks : Bool} {plain : HttpTransport crates}
    (h : HttpTransport.apiKey (baseUrl.getD COMPOSIO_API_BASE) apiKey = .ok plain) :
    Plainly (.direct apiKey entityId baseUrl network webhooks) plain := by
  obtain ⟨hbase, hscheme, hcredential, htimezone⟩ := build_ok h
  exact ⟨hbase, hscheme, hcredential, htimezone⟩

/-- A policy changes the agent alone. -/
theorem withNetwork_ok {transport applied : HttpTransport crates} {network : Option TransportConfig}
    (h : transport.withNetwork network = .ok applied) :
    applied.baseUrl = transport.baseUrl ∧ applied.scheme = transport.scheme ∧
      applied.credential = transport.credential ∧ applied.timezone = transport.timezone ∧
      ∃ host, checkBaseUrl crates transport.baseUrl = .ok host ∧
        buildAgent crates transport.scheme.strictness network host = .ok applied.agent := by
  unfold HttpTransport.withNetwork at h
  split at h
  · cases h
  · next host hhost =>
    split at h
    · cases h
    · next agent hagent =>
      obtain rfl := Except.ok.inj h
      exact ⟨rfl, rfl, rfl, rfl, host, hhost, hagent⟩

theorem Plainly.builtFor {config : RouteConfig} {plain applied : HttpTransport crates}
    (h : Plainly config plain) (happlied : plain.withNetwork config.network = .ok applied) :
    BuiltFor config applied := by
  obtain ⟨hbase, hscheme, hcredential, htimezone, host, hhost, hagent⟩ := withNetwork_ok happlied
  rw [h.base] at hbase hhost
  rw [h.scheme] at hscheme hagent
  exact ⟨hbase, hscheme, hcredential.trans h.credential, htimezone.trans h.timezone, host,
    hhost, hagent⟩

theorem builtFor_intoRoute {config : RouteConfig} {built : BuiltRoute crates}
    (h : config.intoRoute crates = .ok built) : BuiltFor config built.transport := by
  -- either route is a plain transport with its policy applied
  cases config
  all_goals
    obtain ⟨plain, hplain, happlied⟩ := exists_of_bind_ok h
    obtain ⟨applied, hnetwork, hbuilt⟩ := exists_of_bind_ok happlied
    obtain rfl := Except.ok.inj hbuilt
  case proxy => exact (plainly_proxy hplain).builtFor hnetwork
  case direct => exact (plainly_direct hplain).builtFor hnetwork

end Guard

/-! ## Paths -/

/-- A character that may stand in the path of a request. -/
def UrlChar (c : Char) : Prop := Direct.isUnreserved c = true ∨ c ∈ ['%', '/', '?', '&', '=', ',']

/-- A text of such characters. -/
def UrlText (text : String) : Prop := ∀ c ∈ text.toList, UrlChar c

instance : DecidablePred UrlText := fun text =>
  decidable_of_iff ((text.toList.all fun c =>
    Direct.isUnreserved c || ['%', '/', '?', '&', '=', ','].contains c) = true)
    (by simp [UrlText, UrlChar])

theorem urlText_append {first second : String} (h : UrlText first) (h' : UrlText second) :
    UrlText (first ++ second) := by
  intro c hc
  rw [String.toList_append] at hc
  exact (List.mem_append.mp hc).elim (h c) (h' c)

theorem isUnreserved_of_isHexDigit {c : Char} (h : PercentEncoding.isHexDigit c = true) :
    Direct.isUnreserved c = true := by
  have halphanum : c.isAlphanum = true := by
    rw [PercentEncoding.isHexDigit, Bool.or_eq_true, Bool.and_eq_true, decide_eq_true_iff,
      decide_eq_true_iff] at h
    rcases h with hdigit | ⟨hlow, hhigh⟩
    · rw [Char.isAlphanum, hdigit, Bool.or_true]
    · have hupper : c.isUpper = true := by
        rw [Char.isUpper, decide_eq_true_iff, ge_iff_le, UInt32.le_iff_toNat_le,
          UInt32.le_iff_toNat_le]
        exact ⟨hlow, hhigh.trans (by decide)⟩
      rw [Char.isAlphanum, Char.isAlpha, hupper, Bool.true_or, Bool.true_or]
  rw [Direct.isUnreserved, halphanum]
  rfl

theorem urlText_encode (value : String) : UrlText (Direct.encode value) := by
  intro c hc
  rcases (Direct.standsFor_encode value).escaped.mem hc with hplain | rfl | hhex
  · exact .inl hplain
  · exact .inr (by simp)
  · exact .inl (isUnreserved_of_isHexDigit hhex)

theorem urlText_commaJoined {values : List String} {text : String}
    (h : Direct.commaJoined values = some text) : UrlText text := by
  intro c hc
  rcases Proxy.mem_commaJoined h hc with rfl | ⟨value, hc⟩
  · exact .inr (by simp)
  · exact urlText_encode value c hc

/-- Rooted, and of such characters: it goes on in the authority of no URL it is put after. -/
structure UrlPath (path : String) : Prop where
  rooted : path.toList.head? = some '/'
  chars : UrlText path

theorem urlPath_target {segments : List String} {parameters : List (String × String)}
    {path : String} (hpath : path.toList = target segments parameters) (hrooted : segments ≠ [])
    (hsegments : ∀ text ∈ segments, UrlText text)
    (hparameters : ∀ p ∈ parameters, UrlText p.1 ∧ UrlText p.2) : UrlPath path where
  rooted := by
    obtain ⟨first, segments, rfl⟩ := List.exists_cons_of_ne_nil hrooted
    rw [hpath, target, List.flatMap_cons]
    rfl
  chars := by
    intro c hc
    rw [hpath, target] at hc
    rcases List.mem_append.mp hc with hc | hc
    · obtain ⟨text, htext, hc⟩ := List.mem_flatMap.mp hc
      rcases List.mem_cons.mp hc with rfl | hc
      · exact .inr (by simp)
      · exact hsegments text htext c hc
    · split_ifs at hc
      · cases hc
      · rcases List.mem_cons.mp hc with rfl | hc
        · exact .inr (by simp)
        · rcases mem_intercalate hc with hsep | ⟨written, hwritten, hc⟩
          · exact .inr (by simp [List.mem_singleton.mp hsep])
          · obtain ⟨p, hp, rfl⟩ := List.mem_map.mp hwritten
            rcases List.mem_append.mp hc with hc | hc
            · exact (hparameters p hp).1 c hc
            · rcases List.mem_cons.mp hc with rfl | hc
              · exact .inr (by simp)
              · exact (hparameters p hp).2 c hc

/-- The words of the direct route. -/
theorem urlText_v3Words : ∀ text ∈ Direct.v3Words, UrlText text := by decide +kernel

theorem urlPath_of_shaped {segments : List String} {parameters : List (String × String)}
    {path : String} (h : Direct.Shaped segments parameters path) : UrlPath path := by
  apply urlPath_target h.written h.rooted
  · intro text htext
    rcases h.items text htext with hword | ⟨value, what, hsegment⟩
    · exact urlText_v3Words text hword
    · rw [Direct.eq_encode_of_segment hsegment]
      exact urlText_encode value
  · intro p hp
    obtain ⟨hkey, hvalue⟩ := h.values p hp
    refine ⟨urlText_v3Words p.1 hkey, ?_⟩
    rcases hvalue with hword | ⟨value, hencoded⟩ | ⟨values, hjoined⟩
    · exact urlText_v3Words p.2 hword
    · rw [hencoded]
      exact urlText_encode value
    · exact urlText_commaJoined hjoined

/-- What the paths of the proxy route begin with. -/
def proxyTexts : List String :=
  ["/agent-integrations/composio/toolkits", "/agent-integrations/composio/connections",
    "/agent-integrations/composio/authorize", "/agent-integrations/composio/execute",
    "/agent-integrations/composio/connections/", "/agent-integrations/composio/github/repos",
    "/agent-integrations/composio/triggers/available?toolkit=",
    "/agent-integrations/composio/triggers", "/agent-integrations/composio/triggers/"]

theorem urlText_proxyTexts : ∀ text ∈ proxyTexts, UrlText text := by decide +kernel

theorem rooted_proxyTexts : ∀ text ∈ proxyTexts, text.toList.head? = some '/' := by
  simp [proxyTexts]

theorem urlText_marks : ∀ text ∈ ["?connectionId=", "&connectionId=", "?toolkit="],
    UrlText text := by
  decide +kernel

theorem UrlPath.append {path text : String} (h : UrlPath path) (htext : UrlText text) :
    UrlPath (path ++ text) where
  rooted := by
    rw [String.toList_append, List.head?_append, h.rooted]
    rfl
  chars := urlText_append h.chars htext

theorem urlPath_word {path : String} (h : path ∈ proxyTexts) : UrlPath path :=
  ⟨rooted_proxyTexts path h, urlText_proxyTexts path h⟩

theorem UrlPath.withParameter {mark path : String} (h : UrlPath path)
    (hmark : mark ∈ ["?connectionId=", "&connectionId=", "?toolkit="]) (value : Option String) :
    UrlPath (withParameter mark value path) := by
  cases value with
  | none => exact h
  | some value => exact (h.append (urlText_marks mark hmark)).append (urlText_encode value)

theorem urlPath_toolsPath (toolkits tags : List String) :
    UrlPath (Proxy.toolsPath toolkits tags) := by
  have hwords : ∀ text ∈ ["agent-integrations", "composio", "tools", "toolkits", "tags"],
      UrlText text := by
    decide +kernel
  apply urlPath_target (Proxy.toList_toolsPath toolkits tags) (List.cons_ne_nil _ _)
  · intro text htext
    exact hwords text (List.mem_append_left ["toolkits", "tags"] htext)
  · intro p hp
    rcases List.mem_append.mp hp with hp | hp <;>
      obtain ⟨joined, hjoined, rfl⟩ := Option.map_eq_some_iff.mp (Option.mem_toList.mp hp) <;>
      exact ⟨hwords _ (by simp), urlText_commaJoined hjoined⟩

/-- So is every path of the proxy route. -/
theorem urlPath_request {asked : RouteRequest} {sent : Direct.Request}
    (h : Proxy.request asked = .ok sent) :
    UrlPath sent.path := by
  cases asked with
  | deleteConnection connectionId =>
    obtain ⟨named, hnamed, hdone⟩ := exists_of_bind_ok h
    obtain rfl := Except.ok.inj hdone
    rw [Direct.eq_encode_of_segment hnamed]
    exact (urlPath_word (by simp [proxyTexts])).append (urlText_encode connectionId)
  | disableTrigger triggerId =>
    obtain ⟨named, hnamed, hdone⟩ := exists_of_bind_ok h
    obtain rfl := Except.ok.inj hdone
    rw [Direct.eq_encode_of_segment hnamed]
    exact (urlPath_word (by simp [proxyTexts])).append (urlText_encode triggerId)
  | listTools toolkits tags =>
    obtain rfl := Except.ok.inj h
    exact urlPath_toolsPath toolkits tags
  | listGithubRepos connectionId =>
    obtain rfl := Except.ok.inj h
    exact (urlPath_word (by simp [proxyTexts])).withParameter (by simp) connectionId
  | listAvailableTriggers toolkit connectionId =>
    obtain rfl := Except.ok.inj h
    exact ((urlPath_word (by simp [proxyTexts])).append (urlText_encode toolkit)).withParameter
      (by simp)
      connectionId
  | listTriggers toolkit =>
    obtain rfl := Except.ok.inj h
    exact (urlPath_word (by simp [proxyTexts])).withParameter (by simp) toolkit
  | _ =>
    obtain rfl := Except.ok.inj h
    exact urlPath_word (by simp [proxyTexts, Direct.Request.path])

/-! ## Runs -/

section Runs

variable {crates : Crates}

/-- What every exchange of a route is to. -/
theorem urlPath_exchanges (built : BuiltRoute crates) (asked : RouteRequest)
    (answers : List Direct.Answer) :
    ∀ exchange ∈ (built.calls asked).run.exchanges answers, UrlPath exchange.1.path := by
  cases built with
  | proxy transport =>
    -- one request at most, and nothing depends on its answer
    have hkeeps : Keeps (fun request => UrlPath request.path) (Direct.price 0 0) 0
        ((BuiltRoute.proxy transport).calls asked).run := by
      apply Keeps.liftExcept
      intro sent hsent
      exact (Direct.keeps_finished (Direct.keeps_call (urlPath_request hsent))).mono
        (by simp [Direct.price])
    exact hkeeps.exchanges answers
  | direct transport route =>
    intro exchange hmem
    obtain ⟨-, segments, parameters, hshaped, -⟩ :=
      (Direct.confined route).sends (memberOf asked) answers exchange hmem
    exact urlPath_of_shaped hshaped

/-- A request that goes where `config` points, as `config` says. -/
structure KeepsTo (config : RouteConfig) (request : HttpRequest) : Prop where
  /-- Below the base, and no part of its authority. -/
  url : ∃ path, request.url = config.base ++ path ∧ UrlPath path
  /-- The credential is in one header; the zone, where it is one, in another. -/
  headers : request.headers = (config.scheme.header, config.scheme.value config.credential) ::
    (((config.timezone.map trim).filter isZone).map fun zone => (TIMEZONE_HEADER, zone)).toList

theorem keepsTo_request {config : RouteConfig} {transport : HttpTransport crates}
    (h : BuiltFor config transport) {request : Direct.Request} (hpath : UrlPath request.path) :
    KeepsTo config (transport.request request) := by
  cases request
  all_goals
    constructor
    · refine ⟨_, ?_, hpath⟩
      rw [← h.base]
      rfl
    · rw [← h.scheme, ← h.credential, ← h.timezone]
      rfl

theorem keepsTo_sent {config : RouteConfig} {built : BuiltRoute crates}
    (h : config.intoRoute crates = .ok built) {asked : RouteRequest} {answers : List Direct.Answer}
    {request : HttpRequest} (hsent : request ∈ built.sent asked answers) :
    KeepsTo config request := by
  obtain ⟨exchange, hmem, rfl⟩ := List.mem_map.mp hsent
  exact keepsTo_request (builtFor_intoRoute h) (urlPath_exchanges built asked answers exchange hmem)

/-- A call that only reads, over either route. -/
structure OnlyReads (asked : RouteRequest) : Prop where
  direct : (memberOf asked).writes = 0
  proxy : ∀ sent, Proxy.request asked = .ok sent → sent.isGet = true

theorem method_of_onlyReads {asked : RouteRequest} (h : OnlyReads asked) (built : BuiltRoute crates)
    {answers : List Direct.Answer} {request : HttpRequest}
    (hsent : request ∈ built.sent asked answers) :
    request.method = .get := by
  obtain ⟨exchange, hmem, rfl⟩ := List.mem_map.mp hsent
  have hget : exchange.1.isGet = true := by
    cases built with
    | proxy transport =>
      have hkeeps : Keeps (fun request => request.isGet = true) (Direct.price 0 0) 0
          ((BuiltRoute.proxy transport).calls asked).run := by
        apply Keeps.liftExcept
        intro sent hasked
        exact (Direct.keeps_finished (Direct.keeps_call (h.proxy sent hasked))).mono
          (by simp [Direct.price])
      exact hkeeps.exchanges answers exchange hmem
    | direct transport route =>
      -- a member with no writes to spend sends GETs alone
      have hwrites := (Direct.confined route).writes (memberOf asked) answers
      rw [h.direct, Nat.le_zero, List.countP_eq_zero] at hwrites
      simpa using hwrites exchange hmem
  cases hrequest : exchange.1 with
  | get path => rfl
  | post path body =>
    rw [hrequest] at hget
    cases hget
  | delete path =>
    rw [hrequest] at hget
    cases hget

/-- Every operation of a routed read only reads. -/
theorem onlyReads_of_asks {operation : ReadOperation} {asked : RouteRequest}
    (h : operation.operation.asks = .ok asked) : OnlyReads asked := by
  cases operation with
  | listAvailableTriggers toolkit connectionId =>
    obtain ⟨named, -, hdone⟩ := exists_of_bind_ok h
    obtain rfl := Except.ok.inj hdone
    refine ⟨rfl, ?_⟩
    intro sent hsent
    obtain rfl := Except.ok.inj hsent
    rfl
  | _ =>
    obtain rfl := Except.ok.inj h
    refine ⟨rfl, ?_⟩
    intro sent hsent
    obtain rfl := Except.ok.inj hsent
    rfl

end Runs

/-! ## Refusals -/

section Refusals

variable {crates : Crates}

theorem error_of_bind {ε α β : Type} {x : Except ε α} {f : α → Except ε β} {e : ε}
    (h : (x >>= f) = .error e) : x = .error e ∨ ∃ a, x = .ok a ∧ f a = .error e := by
  cases x with
  | error e' =>
    obtain rfl : e' = e := Except.error.inj h
    exact .inl rfl
  | ok a => exact .inr ⟨a, rfl, h⟩

def BASE_REASONS : List String :=
  ["not a valid URL", "URL carries embedded credentials",
    "plain HTTP is only allowed to a loopback address", "URL scheme must be https"]

def NETWORK_REASONS : List String :=
  ["the proxy URL is not a valid URL", "the proxy URL scheme is not supported",
    "the proxy URL has no host", "the proxy URL cannot be used"]

/-- A refusal for one of the reasons there are. -/
inductive Reasoned : SetupError → Prop where
  | base (baseUrl : String) {reason : String} (h : reason ∈ BASE_REASONS) :
      Reasoned (.insecureBaseUrl baseUrl reason)
  | network {reason : String} (h : reason ∈ NETWORK_REASONS) :
      Reasoned (.invalidNetworkConfig reason)

theorem reasoned_checkBaseUrl {base : String} {error : SetupError}
    (h : checkBaseUrl crates base = .error error) : Reasoned error := by
  unfold checkBaseUrl at h
  cases hurl : crates.parse base with
  | none =>
    rw [hurl] at h
    obtain rfl := Except.error.inj h
    exact .base base (by simp [BASE_REASONS])
  | some url =>
    rw [hurl] at h
    dsimp only at h
    split_ifs at h
    all_goals
      obtain rfl := Except.error.inj h
      exact .base base (by simp [BASE_REASONS])

theorem reasoned_invalid {α : Type} {reason : String} {error : SetupError}
    (hreason : reason ∈ NETWORK_REASONS)
    (h : (invalid reason : Except SetupError α) = .error error) :
    Reasoned error := by
  obtain rfl := Except.error.inj h
  exact .network hreason

theorem reasoned_parseProxy {raw : String} {error : SetupError}
    (h : parseProxy crates raw = .error error) :
    Reasoned error := by
  unfold parseProxy at h
  split at h
  · exact reasoned_invalid (by simp [NETWORK_REASONS]) h
  · split at h
    · exact reasoned_invalid (by simp [NETWORK_REASONS]) h
    · split at h
      · exact reasoned_invalid (by simp [NETWORK_REASONS]) h
      · dsimp only at h
        split_ifs at h
        all_goals exact reasoned_invalid (by simp [NETWORK_REASONS]) h

theorem error_of_map {ε α β : Type} {x : Except ε α} {f : α → β} {e : ε} (h : x.map f = .error e) :
    x = .error e := by
  cases x with
  | error e' => exact congrArg Except.error (Except.error.inj h)
  | ok a => cases h

theorem reasoned_buildAgent {strictness : Strictness} {network : Option TransportConfig}
    {host : String} {error : SetupError}
    (h : buildAgent crates strictness network host = .error error) :
    Reasoned error := by
  cases network with
  | none => cases h
  | some network =>
    have hproxy : proxyFor crates network host = .error error := error_of_map h
    unfold proxyFor at hproxy
    split at hproxy
    · cases hproxy
    · split_ifs at hproxy
      exact reasoned_parseProxy (error_of_map hproxy)

theorem error_of_build {baseUrl credential : String} {scheme : AuthScheme} {error : SetupError}
    (h : (HttpTransport.build baseUrl credential scheme : Except _ (HttpTransport crates)) =
      .error error) :
    checkBaseUrl crates (HttpTransport.baseOf baseUrl) = .error error := by
  unfold HttpTransport.build at h
  split at h
  · next hbase =>
    obtain rfl := Except.error.inj h
    exact hbase
  · split at h
    · next hagent => cases hagent
    · cases h

theorem Plainly.error_of_withNetwork {config : RouteConfig} {plain : HttpTransport crates}
    {error : SetupError} (h : Plainly config plain)
    (hrefused : plain.withNetwork config.network = .error error) :
    checkBaseUrl crates config.base = .error error ∨
      ∃ host, checkBaseUrl crates config.base = .ok host ∧
        buildAgent crates config.scheme.strictness config.network host = .error error := by
  rw [← h.base, ← h.scheme]
  unfold HttpTransport.withNetwork at hrefused
  split at hrefused
  · next hbase =>
    obtain rfl := Except.error.inj hrefused
    exact .inl hbase
  · next host hbase =>
    split at hrefused
    · next hagent =>
      obtain rfl := Except.error.inj hrefused
      exact .inr ⟨host, hbase, hagent⟩
    · cases hrefused

/-- A configuration is refused by the guard or for its policy, and by nothing else. -/
theorem error_of_intoRoute {config : RouteConfig} {error : SetupError}
    (h : config.intoRoute crates = .error error) :
    checkBaseUrl crates config.base = .error error ∨
      ∃ host, checkBaseUrl crates config.base = .ok host ∧
        buildAgent crates config.scheme.strictness config.network host = .error error := by
  cases config
  all_goals
    rcases error_of_bind h with hplain | ⟨plain, hplain, happlied⟩
    · exact .inl (error_of_build hplain)
    rcases error_of_bind happlied with hnetwork | ⟨applied, -, hdone⟩
    swap
    · cases hdone
  case proxy => exact (plainly_proxy hplain).error_of_withNetwork hnetwork
  case direct => exact (plainly_direct hplain).error_of_withNetwork hnetwork

theorem reasoned_intoRoute {config : RouteConfig} {error : SetupError}
    (h : config.intoRoute crates = .error error) : Reasoned error := by
  rcases error_of_intoRoute h with hbase | ⟨host, -, hagent⟩
  · exact reasoned_checkBaseUrl hbase
  · exact reasoned_buildAgent hagent

/-- Every message a routed read is refused with before it calls anything. -/
def REFUSALS : List String :=
  ["routed read requires a nonempty proxy endpoint and bearer credential",
    "routed read requires a nonempty direct key and endpoint"] ++
    (BASE_REASONS.map fun reason => s!"refusing credential-bearing endpoint: {reason}") ++
    (NETWORK_REASONS.map fun reason => s!"invalid network settings: {reason}") ++
    ["invalid arguments for `ListAvailableTriggers`: `toolkit` must not be empty"]

theorem confidentialText_mem {error : SetupError} (h : Reasoned error) :
    confidentialText error ∈ REFUSALS := by
  cases h with
  | base baseUrl h =>
    exact List.mem_append_left _
      (List.mem_append_left _ (List.mem_append_right _ (List.mem_map_of_mem h)))
  | network h => exact List.mem_append_left _ (List.mem_append_right _ (List.mem_map_of_mem h))

theorem error_of_mapError {ε ε' α : Type} {x : Except ε α} {f : ε → ε'} {e : ε'}
    (h : x.mapError f = .error e) : ∃ e', x = .error e' ∧ f e' = e := by
  cases x with
  | error e' => exact ⟨e', rfl, Except.error.inj h⟩
  | ok a => cases h

theorem config_refusal {route : CallRoute} {text : String} (h : route.config = .error text) :
    text ∈ REFUSALS := by
  cases route
  all_goals
    rw [CallRoute.config] at h
    split_ifs at h
    obtain rfl := Except.error.inj h
    simp [REFUSALS]

theorem asks_refusal {operation : ReadOperation} {error : Error}
    (h : operation.operation.asks = .error error) : error.text ∈ REFUSALS := by
  cases operation with
  | listAvailableTriggers toolkit connectionId =>
    rcases error_of_bind h with hrequired | ⟨named, -, hdone⟩
    · unfold require at hrequired
      dsimp only at hrequired
      split_ifs at hrequired
      obtain rfl := Except.error.inj hrequired
      apply List.mem_append_right
      rw [List.mem_singleton]
      rfl
    · cases hdone
  | _ => cases h

/-- A refusal quotes nothing of the request. -/
theorem routedRead_refusal {route : CallRoute} {operation : ReadOperation} {text : String}
    (h : routedRead crates route operation = .error text) : text ∈ REFUSALS := by
  rcases error_of_bind h with hconfig | ⟨config, -, h⟩
  · exact config_refusal hconfig
  · rcases error_of_bind h with hbuilt | ⟨built, -, h⟩
    · obtain ⟨error, hroute, rfl⟩ := error_of_mapError hbuilt
      exact confidentialText_mem (reasoned_intoRoute hroute)
    · rcases error_of_bind h with hasked | ⟨asked, -, hdone⟩
      · obtain ⟨error, hasks, rfl⟩ := error_of_mapError hasked
        exact asks_refusal hasks
      · cases hdone

end Refusals

/-! ## Where a credential stays -/

section Stays

variable {crates : Crates}

/-- A base that the guard admits, with a policy that can be applied, is all it takes. -/
theorem exists_intoRoute_iff (config : RouteConfig) :
    (∃ built, config.intoRoute crates = .ok built) ↔
      ∃ host agent, checkBaseUrl crates config.base = .ok host ∧
        buildAgent crates config.scheme.strictness config.network host = .ok agent := by
  constructor
  · rintro ⟨built, hbuilt⟩
    obtain ⟨host, hhost, hagent⟩ := (builtFor_intoRoute hbuilt).agent
    exact ⟨host, _, hhost, hagent⟩
  · rintro ⟨host, agent, hhost, hagent⟩
    cases hroute : config.intoRoute crates with
    | ok built => exact ⟨built, rfl⟩
    | error error =>
      -- only the guard or the policy refuses, and neither does here
      rcases error_of_intoRoute hroute with hbase | ⟨host', hbase, hrefused⟩
      · rw [hhost] at hbase
        cases hbase
      · obtain rfl : host = host' := Except.ok.inj (hhost.symm.trans hbase)
        rw [hagent] at hrefused
        cases hrefused

/-- What holds of every route that is built, of every run over it, and of every read that
brings a route of its own. -/
structure CredentialStays (crates : Crates) : Prop where
  /-- The guard lets a credential go to HTTPS or a loopback address, and nowhere else. -/
  guard : ∀ base, (∃ host, checkBaseUrl crates base = .ok host) ↔ Admitted crates base
  /-- A route is built exactly where the guard admits its base and its policy can be applied. -/
  built : ∀ config : RouteConfig, (∃ built, config.intoRoute crates = .ok built) ↔
    ∃ host agent, checkBaseUrl crates config.base = .ok host ∧
      buildAgent crates config.scheme.strictness config.network host = .ok agent
  /-- A base that was admitted stays so, and a key follows no redirect. -/
  guarded : ∀ (config : RouteConfig) built, config.intoRoute crates = .ok built →
    Admitted crates config.base ∧
      (config.scheme = .apiKey → built.transport.agent.maxRedirects = some 0)
  /-- Every request of every run goes there, as the configuration says. -/
  sent : ∀ (config : RouteConfig) built, config.intoRoute crates = .ok built →
    ∀ asked answers, ∀ request ∈ built.sent asked answers, KeepsTo config request
  /-- A routed read is over the route it brings, and only reads. -/
  reads : ∀ route operation built asked, routedRead crates route operation = .ok (built, asked) →
    ∃ config, route.config = .ok config ∧ config.intoRoute crates = .ok built ∧
      ∀ answers, ∀ request ∈ built.sent asked answers,
      KeepsTo config request ∧ request.method = .get
  /-- Where it is refused, the message is one of these, whatever the request was. -/
  refused : ∀ route operation text, routedRead crates route operation = .error text →
    text ∈ REFUSALS
  /-- A direct read with a credential of its own goes where that credential says. -/
  direct : ∀ credential built, directReadRoute crates credential = .ok built →
    ∃ config : RouteConfig, config.credential = trim credential.apiKey ∧ config.scheme = .apiKey ∧
      config.credential ≠ "" ∧ Admitted crates config.base ∧ ∀ asked answers,
        ∀ request ∈ built.sent asked answers, KeepsTo config request

theorem exists_of_mapError_ok {ε ε' α : Type} {x : Except ε α} {f : ε → ε'} {a : α}
    (h : x.mapError f = .ok a) : x = .ok a := by
  cases x with
  | error e => cases h
  | ok b => exact congrArg Except.ok (Except.ok.inj h)

theorem exists_of_map_ok {ε α β : Type} {x : Except ε α} {f : α → β} {b : β} (h : x.map f = .ok b) :
    ∃ a, x = .ok a ∧ f a = b := by
  cases x with
  | error e => cases h
  | ok a => exact ⟨a, rfl, Except.ok.inj h⟩

theorem admitted_of_intoRoute {config : RouteConfig} {built : BuiltRoute crates}
    (h : config.intoRoute crates = .ok built) : Admitted crates config.base := by
  obtain ⟨host, hhost, -⟩ := (builtFor_intoRoute h).agent
  exact (admitted_iff config.base).mp ⟨host, hhost⟩

/-- The route of a direct read is one a configuration without webhooks describes. -/
theorem intoRoute_of_directReadRoute {credential : DirectCredential} {built : BuiltRoute crates}
    (h : directReadRoute crates credential = .ok built) :
    trim credential.apiKey ≠ "" ∧
      (RouteConfig.direct (trim credential.apiKey) credential.entityId
        ((credential.baseUrl.map trim).filter fun base => base ≠ "") credential.transport
        false).intoRoute crates = .ok built := by
  unfold directReadRoute at h
  dsimp only at h
  split_ifs at h with hblank
  refine ⟨hblank, ?_⟩
  obtain ⟨transport, hmapped, rfl⟩ := exists_of_map_ok h
  obtain ⟨plain, hplain, happlied⟩ := exists_of_bind_ok (exists_of_mapError_ok hmapped)
  -- the same two steps build both, and a new route has no webhooks
  dsimp only [RouteConfig.intoRoute]
  rw [hplain]
  change (plain.withNetwork credential.transport >>= fun applied => _) = _
  rw [happlied]
  rfl

/-- Whatever the two crates do within their contracts, a route that was built passed the address
guard, and every request it sends keeps the credential to the address it was built for; a
routed read sends nothing but `GET`s. -/
theorem credentialStays (crates : Crates) : CredentialStays crates where
  guard := admitted_iff
  built := exists_intoRoute_iff
  guarded config built h := by
    refine ⟨admitted_of_intoRoute h, ?_⟩
    intro hscheme
    -- the agent of every transport there is follows its scheme
    have hstrict := built.transport.strict.1
    rw [(builtFor_intoRoute h).scheme, hscheme] at hstrict
    exact hstrict
  sent config built h asked answers request hsent := keepsTo_sent h hsent
  reads route operation built asked h := by
    obtain ⟨config, hconfig, h⟩ := exists_of_bind_ok h
    obtain ⟨built', hbuilt, h⟩ := exists_of_bind_ok h
    obtain ⟨asked', hasked, h⟩ := exists_of_bind_ok h
    obtain ⟨rfl, rfl⟩ := Prod.mk.inj (Except.ok.inj h)
    have hroute := exists_of_mapError_ok hbuilt
    have honly := onlyReads_of_asks (exists_of_mapError_ok hasked)
    refine ⟨config, hconfig, hroute, ?_⟩
    intro answers request hsent
    exact ⟨keepsTo_sent hroute hsent, method_of_onlyReads honly _ hsent⟩
  refused route operation text h := routedRead_refusal h
  direct credential built h := by
    obtain ⟨hkey, hroute⟩ := intoRoute_of_directReadRoute h
    refine ⟨.direct (trim credential.apiKey) credential.entityId
      ((credential.baseUrl.map trim).filter fun base => base ≠ "") credential.transport false, rfl,
      rfl, hkey, admitted_of_intoRoute hroute, ?_⟩
    intro asked answers request hsent
    exact keepsTo_sent hroute hsent

end Stays

end Client
