/-
# What kind of failure an action reports

`execute/classify.rs`: a failure message is classified by what it contains, the
first arm that matches deciding, and rendered as advice for the user under the
name of its class.
-/
import TinyConnectors.RustStr

namespace Execute

open RustStr

/-- `ComposioErrorClass`. -/
inductive ErrorClass where
  | Validation
  | InsufficientScope
  | TriggerPermission
  | RateLimited
  | ActionNotFound
  | UpstreamProvider
  | ComposioPlatform
  | Gateway
  | Other
  deriving DecidableEq

/-- The name used in the message prefix. -/
def ErrorClass.asStr : ErrorClass → String
  | .Validation => "validation"
  | .InsufficientScope => "insufficient_scope"
  | .TriggerPermission => "trigger_permission"
  | .RateLimited => "rate_limited"
  | .ActionNotFound => "action_not_found"
  | .UpstreamProvider => "upstream_provider"
  | .ComposioPlatform => "composio_platform"
  | .Gateway => "gateway"
  | .Other => "other"

/-- Whether retrying the same call unchanged could succeed. -/
def ErrorClass.isTransient (c : ErrorClass) : Bool := c = .RateLimited || c = .Gateway

/-! ## The arms -/

/-- `iter().any(|needle| lower.contains(needle))`. -/
def containsAny (lower : String) (needles : List String) : Bool := needles.any (contains lower)

def isValidation (lower : String) : Bool :=
  containsAny lower ["invalid arguments", "missing required", "must not be empty",
    "required field", "bad request", "invalid date", "rfc 3339", "timemax", "timemin"]

def isInsufficientScope (lower : String) : Bool :=
  containsAny lower ["insufficient authentication scopes", "insufficient scope",
    "insufficient permissions", "invalid oauth scope"] ||
    contains lower "403" && contains lower "scope"

/-- A refusal to manage triggers: all three signals are required. -/
def isTriggerPermission (lower : String) : Bool :=
  containsAny lower ["403", "forbidden"] &&
    containsAny lower ["do not have permission", "not have permission", "permission denied",
      "not permitted", "not allowed"] &&
    contains lower "trigger"

def isRateLimited (lower : String) : Bool :=
  containsAny lower ["rate limit", "rate_limit", "ratelimited", "too many requests", "429"]

def isActionNotFound (lower : String) : Bool := containsAny lower ["http 404", "http 410"]

def isComposioPlatform (lower : String) : Bool :=
  containsAny lower ["connection error, try to authenticate", "not enabled", "not connected",
    "token revoked"]

def isGateway (lower : String) : Bool :=
  (["502", "503", "504"].any fun code =>
    contains lower ("backend returned " ++ code) || contains lower ("(" ++ code ++ " ")) ||
    contains lower "502 bad gateway"

/-- Whether a message names a provider's failure, also inside a gateway envelope. -/
def isEmbeddedProviderFailure (lower : String) : Bool :=
  isValidation lower || isInsufficientScope lower || isTriggerPermission lower ||
    isRateLimited lower || isActionNotFound lower || isComposioPlatform lower ||
    containsAny lower ["composio", "google", "slack", "notion", "gmail", "fetch_type"]

def isKnownToolkitAction (tool : String) : Bool :=
  ["GMAIL_", "SLACK_", "NOTION_", "GOOGLECALENDAR_"].any (startsWith tool)

/-- `classify_composio_error`. -/
def classifyComposioError (tool message : String) : ErrorClass :=
  let lower := toAsciiLowercase message
  -- first, because such a body often reads like trouble with the connection
  if isActionNotFound lower then .ActionNotFound
  else if isValidation lower then .Validation
  else if isInsufficientScope lower then .InsufficientScope
  else if isTriggerPermission lower then .TriggerPermission
  else if isRateLimited lower then .RateLimited
  else if isGateway lower && !isEmbeddedProviderFailure lower then .Gateway
  else if isComposioPlatform lower then .ComposioPlatform
  else if isKnownToolkitAction tool then .UpstreamProvider
  else .Other

/-! ## The texts -/

/-- The first word of an action, in lower case. -/
def toolkitOf (tool : String) : String := toAsciiLowercase (splitFirst tool '_')

def insufficientScopeMessage (tool detail : String) : String :=
  s!"`{tool}` was rejected because the connected {toolkitOf tool} account is missing required " ++
    s!"permissions ({detail}). Reconnect the integration in Connections → {toolkitOf tool} and " ++
    "grant the scopes requested during OAuth."

def triggerPermissionMessage (tool : String) : String :=
  s!"Couldn't enable this trigger: the connected {toolkitOf tool} account doesn't have " ++
    s!"permission to manage triggers. Reconnect {toolkitOf tool} in Connections → " ++
    s!"{toolkitOf tool} and grant the permissions requested during OAuth, then try again."

/-- Does not echo the detail, which often reads like a sign-in problem. -/
def actionNotFoundMessage (tool : String) : String :=
  s!"`{tool}` couldn't run: Composio reported this action as not found. Your {toolkitOf tool} " ++
    "integration is still connected and working — this is not a sign-in problem. The action " ++
    "name is likely out of date or Composio's API changed; try again with the current action " ++
    "name, or report this if it keeps happening."

def rateLimitedMessage (tool detail : String) : String :=
  s!"`{tool}` hit an upstream rate limit ({detail}). Wait a minute and retry, or reduce call " ++
    "frequency — this is not a gateway outage."

/-- The message of a class. -/
def classMessage (tool detail : String) : ErrorClass → String
  | .Validation => s!"Invalid arguments for `{tool}`: {detail}"
  | .InsufficientScope => insufficientScopeMessage tool detail
  | .TriggerPermission => triggerPermissionMessage tool
  | .RateLimited => rateLimitedMessage tool detail
  | .ActionNotFound => actionNotFoundMessage tool
  | .UpstreamProvider => s!"`{tool}` failed at the connected provider: {detail}"
  | .ComposioPlatform => s!"Composio connection issue for `{tool}`: {detail}"
  | .Gateway => s!"Temporary gateway error while calling `{tool}`: {detail}"
  | .Other => s!"`{tool}` failed: {detail}"

/-- `format_provider_error`. -/
def formatProviderError (tool raw : String) : String :=
  let errorClass := classifyComposioError tool raw
  s!"[composio:error:{errorClass.asStr}] {classMessage tool (trim raw) errorClass}"

example :
    classifyComposioError "GMAIL_FETCH_EMAILS" "HTTP 404: connection error, try to authenticate" =
    .ActionNotFound := by decide +kernel

end Execute
