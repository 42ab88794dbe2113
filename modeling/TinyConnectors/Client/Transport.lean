/-
# The transport of a credential

`client/http.rs` and `client/network.rs`: a transport holds a base URL and a credential, and
is built only where the credential may go there.  The guard, the zone that may be sent along
and the treatment of responses are part of the type, so that a transport that was built keeps
to them whatever it is asked to send.
-/
import TinyConnectors.Client.Bypass
import TinyConnectors.Direct.Route

open RustStr

namespace Client

/-! ## The crates -/

/-- `url::Host`. -/
inductive Host where
  | domain (name : String)
  | ip (addr : IpAddr)

/-- `url::Url`, as far as it is read. -/
structure Url where
  scheme : String
  username : String
  password : Option String
  host : Option Host
  hostStr : Option String
  port : Option ℕ

/-- `ureq::ProxyProtocol`. -/
inductive ProxyProtocol where
  | http | https | socks4 | socks4a | socks5 | socks5h

/-- What a proxy is built of. -/
structure ProxyServer where
  protocol : ProxyProtocol
  host : String
  port : Option ℕ
  username : Option String
  password : Option String

/-- What is used of the crates for URLs and for HTTP. -/
structure Crates where
  /-- `Url::parse`. -/
  parse : String → Option Url
  /-- `percent_decode_str` and `decode_utf8_lossy`. -/
  decode : String → String
  /-- Whether `ProxyBuilder::build` succeeds. -/
  builds : ProxyServer → Bool

/-! ## Settings -/

/-- `ComposioTlsRoots`. -/
inductive TlsRoots where
  | bundled | platform
  deriving DecidableEq

/-- `ComposioTransportConfig`. -/
structure TransportConfig where
  proxyUrl : Option String
  noProxy : List String
  tlsRoots : TlsRoots
  deriving DecidableEq

/-- What a transport is refused with. -/
inductive SetupError where
  | insecureBaseUrl (baseUrl reason : String)
  | invalidNetworkConfig (reason : String)

def SetupError.text : SetupError → String
  | insecureBaseUrl baseUrl reason => s!"refusing to send a credential to {baseUrl}: {reason}"
  | invalidNetworkConfig reason => s!"invalid network settings: {reason}"

/-! ## The guard -/

/-- `IpAddr::is_loopback`. -/
def IpAddr.isLoopback : IpAddr → Bool
  | v4 addr => addr.toNat / 2 ^ 24 = 127
  | v6 addr => addr = 1

def Host.isLoopback : Host → Bool
  | domain name => eqIgnoreAsciiCase name "localhost"
  | ip addr => addr.isLoopback

/-- Refuse a base URL that would send a credential where it must not go. -/
def checkBaseUrl (crates : Crates) (baseUrl : String) : Except SetupError String :=
  match crates.parse baseUrl with
  | none => .error (.insecureBaseUrl baseUrl "not a valid URL")
  | some parsed =>
    if parsed.username ≠ "" ∨ parsed.password.isSome then
      .error (.insecureBaseUrl baseUrl "URL carries embedded credentials")
    else
      let host := parsed.hostStr.getD ""
      if parsed.scheme = "https" then .ok host
      else if parsed.scheme = "http" then
        if parsed.host.any Host.isLoopback then .ok host
        else .error (.insecureBaseUrl baseUrl "plain HTTP is only allowed to a loopback address")
      else .error (.insecureBaseUrl baseUrl "URL scheme must be https")

/-! ## The agent -/

/-- How a transport treats the responses it gets. -/
inductive Strictness where
  /-- Redirects are followed; a failing status is the client's own error. -/
  | backend
  /-- No redirect is followed; a failing status is returned to be rendered. -/
  | credentialed
  deriving DecidableEq

/-- Where the agent's requests go through. -/
inductive ProxyChoice where
  /-- What the environment says, which is the library's default. -/
  | environment
  /-- None, for a destination that is exempt from the one configured. -/
  | bypass
  | use (proxy : ProxyServer)

/-- `ureq::Agent`, as it is configured. -/
structure Agent where
  timeoutSecs : ℕ
  /-- `none` for the library's own. -/
  maxRedirects : Option ℕ
  statusIsError : Bool
  proxy : ProxyChoice
  roots : TlsRoots

def invalid {α : Type} (reason : String) : Except SetupError α :=
  .error (.invalidNetworkConfig reason)

def proxyProtocol : String → Option ProxyProtocol
  | "http" => some .http
  | "https" => some .https
  | "socks4" => some .socks4
  | "socks4a" => some .socks4a
  | "socks5" => some .socks5
  | "socks" => some .socks5
  | "socks5h" => some .socks5h
  | _ => none

def parseProxy (crates : Crates) (raw : String) : Except SetupError ProxyServer :=
  match crates.parse raw with
  | none => invalid "the proxy URL is not a valid URL"
  | some parsed =>
    match proxyProtocol parsed.scheme with
    | none => invalid "the proxy URL scheme is not supported"
    | some protocol =>
      match parsed.hostStr with
      | none => invalid "the proxy URL has no host"
      | some host =>
        let named := parsed.username ≠ ""
        let proxy : ProxyServer :=
          { protocol := protocol
            host := host
            port := parsed.port
            username := if named then some (crates.decode parsed.username) else none
            password := if named then parsed.password.map crates.decode else none }
        if crates.builds proxy then .ok proxy else invalid "the proxy URL cannot be used"

/-- The proxy URL of a policy, unless it is blank. -/
def TransportConfig.proxyText (network : TransportConfig) : Option String :=
  (network.proxyUrl.map trim).filter fun url => url ≠ ""

def proxyFor (crates : Crates) (network : TransportConfig) (host : String) :
    Except SetupError ProxyChoice :=
  match network.proxyText with
  | none => .ok .environment
  | some raw =>
    -- every list is answered, without a panic
    if bypassesProxy network.noProxy host = some true then .ok .bypass
    else (parseProxy crates raw).map .use

def REQUEST_TIMEOUT : ℕ := 30

def plainAgent (strictness : Strictness) : Agent where
  timeoutSecs := REQUEST_TIMEOUT
  maxRedirects := if strictness = .credentialed then some 0 else none
  statusIsError := strictness ≠ .credentialed
  proxy := .environment
  roots := .bundled

/-- Build the agent, applying `network` to requests for `host`. -/
def buildAgent (crates : Crates) (strictness : Strictness) (network : Option TransportConfig)
    (host : String) : Except SetupError Agent :=
  match network with
  | none => .ok (plainAgent strictness)
  | some network => (proxyFor crates network host).map fun choice =>
    { plainAgent strictness with proxy := choice, roots := network.tlsRoots }

/-! ## The transport -/

/-- How a transport presents its credential. -/
inductive AuthScheme where
  | bearer | apiKey
  deriving DecidableEq

namespace AuthScheme

def header : AuthScheme → String
  | bearer => "authorization"
  | apiKey => "x-api-key"

def strictness : AuthScheme → Strictness
  | bearer => .backend
  | apiKey => .credentialed

def value (credential : String) : AuthScheme → String
  | bearer => "Bearer " ++ credential
  | apiKey => credential

end AuthScheme

def TIMEZONE_HEADER : String := "x-timezone"

def TIMEZONE_MAX_LEN : ℕ := 64

/-- The shape of an IANA name. -/
def isZone (zone : String) : Bool :=
  zone ≠ "" && len zone ≤ TIMEZONE_MAX_LEN &&
    zone.toList.all fun c => c.isAlphanum || ['/', '_', '+', '-'].contains c

/-- A transport that reaches a base URL with a credential.  What was checked when it was
built holds of every one there is. -/
structure HttpTransport (crates : Crates) where
  baseUrl : String
  credential : String
  scheme : AuthScheme
  timezone : Option String
  agent : Agent
  guarded : ∃ host, checkBaseUrl crates baseUrl = .ok host
  zoned : ∀ zone ∈ timezone, isZone zone = true
  strict : agent.maxRedirects = (plainAgent scheme.strictness).maxRedirects ∧
    agent.statusIsError = (plainAgent scheme.strictness).statusIsError

theorem strict_of_buildAgent {crates : Crates} {strictness : Strictness}
    {network : Option TransportConfig} {host : String} {agent : Agent}
    (h : buildAgent crates strictness network host = .ok agent) :
    agent.maxRedirects = (plainAgent strictness).maxRedirects ∧
      agent.statusIsError = (plainAgent strictness).statusIsError := by
  cases network with
  | none =>
    obtain rfl := Except.ok.inj h
    exact ⟨rfl, rfl⟩
  | some network =>
    rw [buildAgent] at h
    cases hproxy : proxyFor crates network host with
    | error error =>
      rw [hproxy] at h
      cases h
    | ok choice =>
      rw [hproxy] at h
      obtain rfl := Except.ok.inj h
      exact ⟨rfl, rfl⟩

namespace HttpTransport

variable {crates : Crates}

/-- The base of a URL: without the blanks around it and the slashes at its end. -/
def baseOf (baseUrl : String) : String := trimEndMatches (trim baseUrl) '/'

def build (baseUrl credential : String) (scheme : AuthScheme) :
    Except SetupError (HttpTransport crates) :=
  match hbase : checkBaseUrl crates (baseOf baseUrl) with
  | .error error => .error error
  | .ok host =>
    match hagent : buildAgent crates scheme.strictness none host with
    | .error error => .error error
    | .ok agent => .ok
      { baseUrl := baseOf baseUrl
        credential := credential
        scheme := scheme
        timezone := none
        agent := agent
        guarded := ⟨host, hbase⟩
        zoned := by simp
        strict := strict_of_buildAgent hagent }

def bearer (baseUrl token : String) : Except SetupError (HttpTransport crates) :=
  build baseUrl token .bearer

def apiKey (baseUrl key : String) : Except SetupError (HttpTransport crates) :=
  build baseUrl key .apiKey

/-- Apply the host's proxy and TLS policy. -/
def withNetwork (transport : HttpTransport crates) (network : Option TransportConfig) :
    Except SetupError (HttpTransport crates) :=
  match checkBaseUrl crates transport.baseUrl with
  | .error error => .error error
  | .ok host =>
    match hagent : buildAgent crates transport.scheme.strictness network host with
    | .error error => .error error
    | .ok agent => .ok { transport with agent := agent, strict := strict_of_buildAgent hagent }

/-- Send the user's zone along, where it has the shape of one. -/
def withTimezone (transport : HttpTransport crates) (timezone : Option String) :
    HttpTransport crates :=
  { transport with
    timezone := (timezone.map trim).filter isZone
    zoned := by
      intro zone hzone
      exact (Option.filter_eq_some_iff.mp hzone).2 }

end HttpTransport

/-! ## Requests -/

inductive Method where
  | get | post | delete
  deriving DecidableEq

/-- A request as it is sent. -/
structure HttpRequest where
  method : Method
  url : String
  headers : List (String × String)
  body : Option Json

/-- The request of `get`, `post` and `delete`. -/
def HttpTransport.request {crates : Crates} (transport : HttpTransport crates)
    (asked : Direct.Request) : HttpRequest :=
  let headers := (transport.scheme.header, transport.scheme.value transport.credential) ::
    (transport.timezone.map fun zone => (TIMEZONE_HEADER, zone)).toList
  match asked with
  | .get path => ⟨.get, transport.baseUrl ++ path, headers, none⟩
  | .post path body => ⟨.post, transport.baseUrl ++ path, headers, some body⟩
  | .delete path => ⟨.delete, transport.baseUrl ++ path, headers, none⟩

end Client
