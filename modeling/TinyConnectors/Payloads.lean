/-
# Wire payloads

The payloads of `tinyconnectors-bus/src/composio/` that more than one part of
the module reads: tool listings, connections, toolkits and execute results.
-/
import TinyConnectors.Json
import TinyConnectors.RustStr

open RustStr

/-! ## Tools -/

/-- The name, description, and schemas of one callable action. -/
structure ComposioToolFunction where
  name : String
  description : Option String
  parameters : Option Json
  outputParameters : Option Json

/-- One tool of a listing. -/
structure ComposioToolSchema where
  function : ComposioToolFunction

structure ComposioToolsResponse where
  tools : List ComposioToolSchema

/-! ## Connections and toolkits -/

/-- One connected account. -/
structure ComposioConnection where
  id : String
  toolkit : String
  status : String
  createdAt : Option String
  accountEmail : Option String
  workspace : Option String
  username : Option String

namespace ComposioConnection

def normalizedToolkit (connection : ComposioConnection) : String :=
  toAsciiLowercase (trim connection.toolkit)

/-- Whether this row represents a usable connection. -/
def isActive (connection : ComposioConnection) : Bool :=
  let status := trim connection.status
  eqIgnoreAsciiCase status "ACTIVE" || eqIgnoreAsciiCase status "CONNECTED"

end ComposioConnection

/-- One row of the backend's toolkit catalog. -/
structure ComposioToolkitCatalogEntry where
  slug : String
  description : Option String
  /-- Whether the user may connect this toolkit. -/
  enabled : Option Bool

structure ComposioToolkitsResponse where
  toolkits : List String
  catalog : List ComposioToolkitCatalogEntry

/-! ## Results -/

/-- What a provider answered to an action. -/
structure ComposioExecuteResponse where
  data : Json
  successful : Bool
  error : Option String
  costUsd : ℚ
  markdownFormatted : Option String

/-- `serde_json::to_value(response)`. -/
def ComposioExecuteResponse.toValue (response : ComposioExecuteResponse) : Json :=
  .obj [("costUsd", .num (.float response.costUsd)), ("data", response.data),
    ("error", response.error.elim .null .str),
    ("markdownFormatted", response.markdownFormatted.elim .null .str),
    ("successful", .bool response.successful)]
