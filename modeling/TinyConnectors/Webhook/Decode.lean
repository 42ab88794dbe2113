/-
# Decoding a webhook delivery

`composio/triggers/webhook.rs`: the body of a verified delivery becomes a trigger
event.  There are three versions of the body.  V3 keeps its routing ids in
`metadata`; V2 mixes them into `data`, beside what the provider sent, and names
the trigger in lower case in `type`; V1 has them at the top level.
-/
import TinyConnectors.Json
import TinyConnectors.Webhook.Verify

namespace Webhook

open RustStr

/-- Where an event came from. -/
structure ComposioTriggerMetadata where
  id : String
  uuid : String
  userId : String
  connectedAccountId : String
  triggerId : String
  deriving DecidableEq

/-- One fired trigger. -/
structure ComposioTriggerEvent where
  toolkit : String
  trigger : String
  payload : Json
  metadata : ComposioTriggerMetadata

/-- The V3 `type` of a trigger delivery. -/
def V3_TRIGGER_TYPE : String := "composio.trigger.message"

/-- A string value, trimmed; anything else is empty. -/
def text (value : Option Json) : String := ((value.bind Json.asStr).map trim).getD ""

/-- The first of the texts under `keys` that is not empty. -/
def first (keys : List String) (fields : List (String × Json)) : String :=
  ((keys.map fun key => text (Json.field key fields)).find? fun value => value ≠ "").getD ""

/-- A toolkit the payload names outright, when it does. -/
def explicitToolkit (fields : List (String × Json)) : Option String :=
  (["toolkit_slug", "toolkit"].map fun key => toAsciiLowercase (text (Json.field key fields))).find?
    fun toolkit => toolkit ≠ ""

/-- `Iterator::max_by_key`: of several elements with the greatest key, the last. -/
def maxByKey {α : Type} (key : α → ℕ) (items : List α) : Option α :=
  items.foldl (fun best item =>
    match best with
    | none => some item
    | some found => if key item < key found then some found else some item) none

/-- The toolkit a trigger slug belongs to: the longest `known` slug that prefixes
it, else its first word. -/
def toolkitOf (trigger : String) (known : List String) : String :=
  let upper := toAsciiUppercase trigger
  let best := maxByKey len (known.filter fun toolkit =>
    decide (toolkit ≠ "") && startsWith upper (toAsciiUppercase toolkit ++ "_"))
  match best with
  | some toolkit => toAsciiLowercase toolkit
  | none => toAsciiLowercase (splitFirst trigger '_')

def undecodable (reason : String) : WebhookError := .UndecodableBody reason

/-- Decode the current payload, whose routing ids live in `metadata`. -/
def decodeV3 (object metadata : List (String × Json)) (known : List String) :
    Except WebhookError ComposioTriggerEvent :=
  let trigger := text (Json.field "trigger_slug" metadata)
  if trigger = "" then .error (undecodable "`metadata` names no `trigger_slug`")
  else .ok {
    toolkit :=
      ((explicitToolkit metadata).or (explicitToolkit object)).getD (toolkitOf trigger known)
    payload := (Json.field "data" object).getD .null
    metadata := {
      id := text (Json.field "id" object)
      uuid := text (Json.field "log_id" metadata)
      userId := text (Json.field "user_id" metadata)
      connectedAccountId := text (Json.field "connected_account_id" metadata)
      triggerId := text (Json.field "trigger_id" metadata) }
    trigger }

/-- Decode the legacy payload, whose routing ids are mixed into `data`. -/
def decodeV2 (object : List (String × Json)) (kind : String) (known : List String) :
    Option ComposioTriggerEvent :=
  let trigger := toAsciiUppercase kind
  match Json.field "data" object with
  | some (.obj fields) =>
    match Json.field "timestamp" object with
    | none | some .null => none
    | some _ =>
      if ["connection_nano_id", "connection_id", "connected_account_id"].any
          fun key => text (Json.field key fields) ≠ "" then
        some {
          toolkit := ((explicitToolkit fields).or (explicitToolkit object)).getD
            (toolkitOf trigger known)
          metadata := {
            id := text (Json.field "id" object)
            uuid := text (Json.field "log_id" object)
            userId := first ["user_id"] fields
            connectedAccountId :=
              first ["connection_nano_id", "connected_account_id", "connection_id"] fields
            triggerId := first ["trigger_nano_id", "trigger_id"] fields }
          payload := .obj fields
          trigger }
      else none
  | _ => none

/-- Decode the oldest payload, whose routing ids sit at the top level beside the
provider's `payload`. -/
def decodeV1 (object : List (String × Json)) (known : List String) : Option ComposioTriggerEvent :=
  let trigger := text (Json.field "trigger_name" object)
  let payload := (Json.field "payload" object).getD .null
  if trigger = "" ∨ text (Json.field "connection_id" object) = "" ∨
      text (Json.field "trigger_id" object) = "" ∨ payload = .null then none
  else some {
    toolkit := (explicitToolkit object).getD (toolkitOf trigger known)
    metadata := {
      id := text (Json.field "id" object)
      uuid := text (Json.field "log_id" object)
      userId := text (Json.field "user_id" object)
      connectedAccountId := text (Json.field "connection_id" object)
      triggerId := text (Json.field "trigger_id" object) }
    payload
    trigger := toAsciiUppercase trigger }

/-- Which version an object is, and its event. -/
def decodeObject (object : List (String × Json)) (known : List String) :
    Except WebhookError ComposioTriggerEvent :=
  let kind := text (Json.field "type" object)
  match Json.field "metadata" object with
  | some (.obj metadata) =>
    if kind = V3_TRIGGER_TYPE then decodeV3 object metadata known
    else .error (undecodable "not a V3 trigger delivery")
  | _ =>
    if kind ≠ "" ∧ kind ≠ V3_TRIGGER_TYPE then
      match decodeV2 object kind known with
      | some event => .ok event
      | none => .error (undecodable
          "not a V2 trigger delivery: needs `timestamp` and `data` naming a connection")
    else
      match decodeV1 object known with
      | some event => .ok event
      | none => .error (undecodable "no trigger slug in `metadata`, `type` or `trigger_name`")

/-- `decode_with_toolkits`; `parse` is `serde_json::from_slice`, with the text of its error. -/
def decodeWithToolkits (parse : List UInt8 → Except String Json) (body : List UInt8)
    (known : List String) : Except WebhookError ComposioTriggerEvent :=
  match parse body with
  | .error reason => .error (undecodable reason)
  | .ok (.obj object) => decodeObject object known
  | .ok _ => .error (undecodable "the body is not a JSON object")

/-- `decode`. -/
def decode (parse : List UInt8 → Except String Json) (body : List UInt8) :
    Except WebhookError ComposioTriggerEvent :=
  decodeWithToolkits parse body []

end Webhook
