/-
# The connected-integration overview

`contracts/overview.rs`: the shaping rules that turn an allowlist, the
connections and a tool listing into one entry per toolkit.  Pure; the member
that fetches the listings is in `Listing.Members`.
-/
import Mathlib.Data.List.AList
import TinyConnectors.Catalog.Lookup
import TinyConnectors.Payloads

open RustStr

/-! ## Upper case -/

/-- `str::to_uppercase`, of which only the ASCII part matters here: it agrees with
`to_ascii_uppercase` there. -/
structure Uppercase where
  toUppercase : String → String
  ascii : ∀ s : String, (∀ c ∈ s.toList, c.toNat < 128) → toUppercase s = toAsciiUppercase s

/-! ## Toolkits -/

/-- A slug trimmed and lowercased. -/
def normalizeSlug (slug : String) : String := toAsciiLowercase (trim slug)

/-- The toolkits a user may connect: the enabled entries of the catalog, or the
flat list of a backend that sends none. -/
def connectableToolkitSlugs (toolkits : List String) (catalog : List ComposioToolkitCatalogEntry) :
    List String :=
  if catalog.isEmpty then (toolkits.map normalizeSlug).filter fun slug => slug ≠ ""
  else ((catalog.filter fun entry => entry.enabled.getD false).map fun entry =>
    normalizeSlug entry.slug).filter fun slug => slug ≠ ""

/-- Descriptions the backend catalog supplies, keyed by lowercase slug; of two
for one slug the later is kept. -/
def catalogDescriptions (catalog : List ComposioToolkitCatalogEntry) :
    AList fun _ : String => String :=
  catalog.foldl (fun descriptions entry =>
    let slug := normalizeSlug entry.slug
    match (entry.description.map trim).filter fun description => description ≠ "" with
    | some description =>
      if slug = "" then descriptions else descriptions.insert slug description
    | none => descriptions) ∅

/-- Sorted, deduplicated toolkits that have an active connection. -/
def activeToolkits (connections : List ComposioConnection) : List String :=
  let slugs := ((connections.filter ComposioConnection.isActive).map
    ComposioConnection.normalizedToolkit).filter fun toolkit => toolkit ≠ ""
  (slugs.mergeSort fun a b => decide (a ≤ b)).dedup

theorem mem_activeToolkits {connections : List ComposioConnection} {toolkit : String} :
    toolkit ∈ activeToolkits connections ↔ toolkit ≠ "" ∧
      ∃ connection ∈ connections, connection.isActive = true ∧
        connection.normalizedToolkit = toolkit := by
  simp only [activeToolkits, List.mem_dedup, List.mem_mergeSort, List.mem_filter, List.mem_map,
    decide_eq_true_eq, and_assoc]
  exact and_comm

/-! ## Statuses -/

/-- How actionable a non-active status is. -/
def statusPriority (status : String) : ℕ :=
  let status := toAsciiUppercase (trim status)
  if status = "EXPIRED" then 4
  else if status = "FAILED" ∨ status = "ERROR" then 3
  else if status = "INITIATED" ∨ status = "INITIALIZING" ∨ status = "PENDING" then 2
  else 1

/-- One non-active row: it is kept when it is more actionable than the row kept so far. -/
def keepStatus (connected : List String) (best : AList fun _ : String => ℕ × String)
    (connection : ComposioConnection) : AList fun _ : String => ℕ × String :=
  let toolkit := connection.normalizedToolkit
  if toolkit = "" ∨ toolkit ∈ connected then best
  else
    let priority := statusPriority connection.status
    match best.lookup toolkit with
    | some current =>
        if current.1 < priority then best.insert toolkit (priority, connection.status) else best
    | none => best.insert toolkit (priority, connection.status)

/-- The most actionable non-active status of a toolkit without an active connection. -/
def nonActiveStatusByToolkit (connections : List ComposioConnection) (connected : List String)
    (toolkit : String) : Option String :=
  let best :=
    (connections.filter fun connection => !connection.isActive).foldl (keepStatus connected) ∅
  (best.lookup toolkit).map Prod.snd

/-! ## Assembling -/

/-- One action a user can call on a connected toolkit. -/
structure ComposioConnectedIntegrationTool where
  name : String
  description : String
  parameters : Option Json

/-- A curated action the user's scope preference hides. -/
structure ComposioGatedIntegrationTool where
  name : String
  description : String
  requiredScope : ToolScope

/-- One active connection of a toolkit. -/
structure ComposioIntegrationConnection where
  connectionId : String
  label : Option String
  isDefault : Bool

/-- One toolkit in the overview. -/
structure ComposioConnectedIntegration where
  toolkit : String
  description : String
  tools : List ComposioConnectedIntegrationTool
  gatedTools : List ComposioGatedIntegrationTool
  connected : Bool
  connections : List ComposioIntegrationConnection
  nonActiveStatus : Option String

/-- The raw listings an overview is assembled from. -/
structure Listings where
  allowlist : List String
  connections : List ComposioConnection
  tools : List ComposioToolSchema
  descriptions : AList fun _ : String => String
  /-- The scope preference of each connected toolkit. -/
  preferences : List (String × UserScopePref)

/-- The compiled descriptions (`toolkits/catalog/descriptions.rs`). -/
def TOOLKIT_DESCRIPTIONS : List (String × String) :=
  [("gmail", "Send, read, draft, reply, forward, and search emails; manage labels and threads"),
    ("notion", "Create, read, update, and search notion pages and notion databases"),
    ("github", "Manage repositories, issues, and pull requests on GitHub; can be " ++
      "synced into memory as a document source"),
    ("slack", "Send messages, read channels, manage threads, and post updates in Slack"),
    ("discord", "Send messages, manage channels, and interact with Discord servers"),
    ("google_calendar", "Create, update, and query calendar events; check availability"),
    ("googlecalendar", "Create, update, and query calendar events; check availability"),
    ("google_drive", "Upload, download, search, and share files in Google Drive"),
    ("googledrive", "Upload, download, search, and share files in Google Drive"),
    ("google_docs", "Create, read, and edit Google Docs documents"),
    ("googledocs", "Create, read, and edit Google Docs documents"),
    ("google_sheets", "Read, write, and manage Google Sheets spreadsheets"),
    ("googlesheets", "Read, write, and manage Google Sheets spreadsheets"),
    ("outlook", "Send, read, and manage emails in Microsoft Outlook"),
    ("microsoft", "Send messages and manage channels in Microsoft Teams"),
    ("microsoft_teams", "Send messages and manage channels in Microsoft Teams"),
    ("larksuite", "Connect Lark / Feishu workspace chat, docs, wiki, and meetings via Composio"),
    ("linear", "Create, read, and manage issues, projects, and cycles in Linear; can be " ++
      "synced into memory as a document source"),
    ("jira", "Create and manage issues, projects, and sprints in Jira"),
    ("trello", "Create and manage cards, lists, and boards in Trello"),
    ("asana", "Create and manage tasks, projects, and sections in Asana"),
    ("clickup", "Create, read, and manage tasks, lists, and docs in ClickUp; can be " ++
      "synced into memory as a document source"),
    ("dropbox", "Upload, download, and share files in Dropbox"),
    ("twitter", "Post tweets, read timelines, and manage Twitter interactions"),
    ("spotify", "Control playback, search music, and manage playlists on Spotify"),
    ("telegram", "Send and receive messages via Telegram"),
    ("whatsapp", "Send and receive messages via WhatsApp"),
    ("twilio", "Send SMS, make calls, and manage communications via Twilio"),
    ("shopify", "Manage products, orders, and customers in Shopify"),
    ("stripe", "Manage payments, subscriptions, and customers in Stripe"),
    ("hubspot", "Manage contacts, deals, and marketing in HubSpot"),
    ("salesforce", "Manage contacts, leads, and opportunities in Salesforce"),
    ("airtable", "Read and write records in Airtable bases"),
    ("figma", "Access and manage Figma design files and components"),
    ("youtube", "Search videos, manage playlists, and interact with YouTube"),
    ("calendar", "Create, update, and query calendar events"),
    ("one_drive", "Upload, download, search, and share files in Microsoft OneDrive"),
    ("onedrive", "Upload, download, search, and share files in Microsoft OneDrive"),
    ("one", "Upload, download, search, and share files in Microsoft OneDrive"),
    ("excel", "Read, write, and manage workbooks, worksheets, and tables in Microsoft Excel"),
    ("todoist", "Create and manage tasks, projects, sections, and labels in Todoist")]

/-- Human-readable capability summary for a toolkit slug. -/
def toolkitDescription (slug : String) : String :=
  (TOOLKIT_DESCRIPTIONS.lookup slug).getD
    "Interact with this connected service via its available actions"

/-- The actions of a listing that carry a toolkit's name, anchored with an underscore. -/
def ownTools (upper : Uppercase) (slug : String) (tools : List ComposioToolSchema) :
    List ComposioToolSchema :=
  tools.filter fun tool => startsWith tool.function.name (upper.toUppercase slug ++ "_")

/-- Splits a connected toolkit's actions into callable and gated. -/
def splitTools (upper : Uppercase) (slug : String) (listings : Listings) :
    List ComposioConnectedIntegrationTool × List ComposioGatedIntegrationTool :=
  let preference := (listings.preferences.lookup slug).getD UserScopePref.default
  let own := ownTools upper slug listings.tools
  (own.filterMap fun tool =>
      if isActionVisibleWithPref tool.function.name preference then
        some {
          name := tool.function.name
          description := tool.function.description.getD ""
          parameters := tool.function.parameters }
      else none,
    own.filterMap fun tool =>
      if isActionVisibleWithPref tool.function.name preference then none
      else (curatedScopeFor tool.function.name).map fun requiredScope => {
        name := tool.function.name
        description := tool.function.description.getD ""
        requiredScope })

/-- `Ord` of `Option<String>`: nothing first, then the strings in order. -/
def leCreated : Option String → Option String → Bool
  | none, _ => true
  | some _, none => false
  | some a, some b => decide (a ≤ b)

/-- The first label of a connection that is not blank. -/
def connectionLabel (connection : ComposioConnection) : Option String :=
  ([connection.accountEmail, connection.workspace, connection.username].filterMap id).map trim
    |>.find? fun label => label ≠ ""

/-- Active connections of `slug`, oldest first; the first is the default. -/
def activeConnections (slug : String) (connections : List ComposioConnection) :
    List ComposioIntegrationConnection :=
  let active := connections.filter fun connection =>
    connection.isActive && decide (connection.normalizedToolkit = slug)
  (active.mergeSort fun a b => leCreated a.createdAt b.createdAt).mapIdx fun index connection => {
    connectionId := connection.id
    label := connectionLabel connection
    isDefault := decide (index = 0) }

/-- The entry of one allowlisted toolkit. -/
def integrationOf (upper : Uppercase) (listings : Listings) (slug : String) :
    ComposioConnectedIntegration :=
  let connected := activeToolkits listings.connections
  let isConnected := decide (slug ∈ connected)
  let (tools, gatedTools) := if isConnected then splitTools upper slug listings else ([], [])
  {
    toolkit := slug
    description := (listings.descriptions.lookup slug).getD (toolkitDescription slug)
    tools
    gatedTools
    connected := isConnected
    connections := if isConnected then activeConnections slug listings.connections else []
    nonActiveStatus :=
      if isConnected then none
      else nonActiveStatusByToolkit listings.connections connected slug }

/-- Builds the overview: one entry per allowlisted toolkit, sorted by slug. -/
def assemble (upper : Uppercase) (listings : Listings) : List ComposioConnectedIntegration :=
  let toolkits := (listings.allowlist.mergeSort fun a b => decide (a ≤ b)).dedup
  (toolkits.map (integrationOf upper listings)).mergeSort fun a b => decide (a.toolkit ≤ b.toolkit)

/-- The entries of an overview are those of the allowlist. -/
theorem mem_assemble {upper : Uppercase} {listings : Listings}
    {integration : ComposioConnectedIntegration} :
    integration ∈ assemble upper listings ↔
      ∃ slug ∈ listings.allowlist, integrationOf upper listings slug = integration := by
  simp [assemble]

/-- What a connected toolkit can call: its own actions that its preference shows. -/
theorem exists_tool_integrationOf (upper : Uppercase) {listings : Listings} {slug : String}
    (hconnected : slug ∈ activeToolkits listings.connections) (name : String) :
    (∃ tool ∈ (integrationOf upper listings slug).tools, tool.name = name) ↔
      (∃ tool ∈ ownTools upper slug listings.tools, tool.function.name = name) ∧
        isActionVisibleWithPref name
          ((listings.preferences.lookup slug).getD UserScopePref.default) = true := by
  have htools : (integrationOf upper listings slug).tools = (splitTools upper slug listings).1 := by
    simp only [integrationOf, decide_eq_true hconnected, if_true]
  rw [htools]
  simp only [splitTools, List.mem_filterMap]
  constructor
  · rintro ⟨tool, ⟨source, hsource, hshown⟩, rfl⟩
    split_ifs at hshown with hvisible
    cases hshown
    exact ⟨⟨source, hsource, rfl⟩, hvisible⟩
  · rintro ⟨⟨source, hsource, rfl⟩, hvisible⟩
    exact ⟨_, ⟨source, hsource, if_pos hvisible⟩, rfl⟩
