/-
# Listings of one request

`list_connections` and `list_tools` ask for one page with a generous limit, where
the other listings follow the cursor of each page to the next.  So over a server
that answers in pages they are complete only while no page but the first has a
row for them (`listingsComplete_iff`).
-/
import TinyConnectors.Contracts.Lookups
import TinyConnectors.Direct.Gate

open ContractTask Prog RustStr

namespace Direct

/-! ## A member alone -/

/-- What a member comes to over a server, when nobody else calls and the failures map
holds this. -/
def alone {α : Type} (server : Request → Except Error Json) : Option ℕ → Prog Request Answer α → α
  | _, .done a => a
  | failures, .ask request next =>
    if INVALID_API_KEY_THRESHOLD ≤ failures.getD 0 then alone server failures (next .gated)
    else alone server (Gate.record failures (server request)) (next (.replied (server request)))

section

variable {server : Request → Except Error Json} {failures : Option ℕ}

theorem alone_of_closed {α : Type} (hclosed : INVALID_API_KEY_THRESHOLD ≤ failures.getD 0)
    (request : Request) (reading : Json → α) :
    alone server failures (call request >>= fun value => pure (reading value) : Calls α).run =
      .error (.directAuthGated GATED_MESSAGE) := by
  show (if _ then _ else _) = _
  rw [if_pos hclosed]
  rfl

theorem alone_of_open {α : Type} (hopen : ¬ INVALID_API_KEY_THRESHOLD ≤ failures.getD 0)
    {request : Request} {value : Json} (hserver : server request = .ok value) (reading : Json → α) :
    alone server failures (call request >>= fun value => pure (reading value) : Calls α).run =
      .ok (reading value) := by
  show (if _ then _ else _) = _
  rw [if_neg hopen, hserver]
  rfl

end

/-! ## Servers that answer in pages -/

/-- From the page of this cursor on, the server answers these pages. -/
inductive PagesFrom (server : Request → Except Error Json) (path : String) :
    Option String → List Json → Prop where
  | last {cursor page} (h : server (.get (pagePath path cursor)) = .ok page)
      (hnext : nextCursor page = none) : PagesFrom server path cursor [page]
  | more {cursor page next pages} (h : server (.get (pagePath path cursor)) = .ok page)
      (hnext : nextCursor page = some next) (hrest : PagesFrom server path (some next) pages) :
      PagesFrom server path cursor (page :: pages)

/-- The server answers the listing at `path` in these pages. -/
def ServesPages (server : Request → Except Error Json) (path : String) (pages : List Json) : Prop :=
  PagesFrom server path none pages

theorem ServesPages.first {server : Request → Except Error Json} {path : String} {pages : List Json}
    (h : ServesPages server path pages) :
    ∃ page rest, pages = page :: rest ∧ server (.get path) = .ok page := by
  cases h with
  | last h hnext => exact ⟨_, [], rfl, h⟩
  | more h hnext hrest => exact ⟨_, _, rfl, h⟩

/-- The path of the accounts listing. -/
def accountsPath : String := "/connected_accounts?limit=200"

/-- The tools listing as the contract members fetch it; `render` is `to_bus_error`. -/
def directBackend (server : Request → Except Error Json) (failures : Option ℕ)
    (render : Error → String) (key : String) : Except String ComposioToolsResponse :=
  (alone server failures (listTools [key] []).run).mapError render

/-! ## Complete or an error -/

/-- The connections on a page. -/
def connectionsOf (page : Json) : List ComposioConnection :=
  (rowsOf page).filterMap connectionFromV3

/-- Each listing returns the rows of all pages, or an error; so do the contracts of a
toolkit. -/
structure ListingsComplete (server : Request → Except Error Json) (failures : Option ℕ) : Prop where
  connections : ∀ pages, ServesPages server accountsPath pages →
    ∀ connections, alone server failures listConnections.run = .ok connections →
      connections = pages.flatMap connectionsOf
  tools : ∀ toolkits tags pages, ServesPages server (toolsPath toolkits tags) pages →
    ∀ listing, alone server failures (listTools toolkits tags).run = .ok listing →
      listing.tools = pages.flatMap toolSchemasFromV3
  contracts : ∀ render service service' toolkit found,
    Faithful (directBackend server failures render) service →
    Backend.Returns (directBackend server failures render)
      (toolkitContracts service .whole toolkit, service) (.catalog (.ok found)) service' →
    ∀ pages, ServesPages server (toolsPath [toolkitKey toolkit] []) pages →
      found.2 = contractsFromListing (toolkitKey toolkit)
      { tools := pages.flatMap toolSchemasFromV3 }

/-- No page but the first carries a row that is read. -/
def OnFirstPage (server : Request → Except Error Json) : Prop :=
  (∀ pages, ServesPages server accountsPath pages →
    ∀ page ∈ pages.tail, ∀ row ∈ rowsOf page, connectionFromV3 row = none) ∧
  ∀ toolkits tags pages, ServesPages server (toolsPath toolkits tags) pages →
    ∀ page ∈ pages.tail, toolSchemasFromV3 page = []

section

variable {server : Request → Except Error Json} {failures : Option ℕ}

theorem listConnections_of_open (hopen : ¬ INVALID_API_KEY_THRESHOLD ≤ failures.getD 0)
    {page : Json} (hserver : server (.get accountsPath) = .ok page) :
    alone server failures listConnections.run = .ok (connectionsOf page) :=
  alone_of_open hopen hserver connectionsOf

theorem listTools_of_open (hopen : ¬ INVALID_API_KEY_THRESHOLD ≤ failures.getD 0)
    {toolkits tags : List String} {page : Json}
    (hserver : server (.get (toolsPath toolkits tags)) = .ok page) :
    alone server failures (listTools toolkits tags).run = .ok { tools := toolSchemasFromV3 page } :=
  alone_of_open hopen hserver fun value =>
    ({ tools := toolSchemasFromV3 value } : ComposioToolsResponse)

/-- The first page is the whole listing exactly when the later ones have nothing. -/
theorem head_eq_flatMap_iff {α : Type} (read : Json → List α) (page : Json) (rest : List Json) :
    read page = (page :: rest).flatMap read ↔ ∀ later ∈ rest, read later = [] := by
  rw [List.flatMap_cons, List.self_eq_append_right, List.flatMap_eq_nil_iff]

/-- An error is not a listing. -/
theorem no_listing_of_closed (hclosed : INVALID_API_KEY_THRESHOLD ≤ failures.getD 0) :
    (∀ connections, alone server failures listConnections.run ≠ .ok connections) ∧
      ∀ toolkits tags listing, alone server failures (listTools toolkits tags).run ≠
        .ok listing := by
  constructor
  · intro connections h
    rw [listConnections, alone_of_closed hclosed] at h
    cases h
  · intro toolkits tags listing h
    rw [listTools, alone_of_closed hclosed] at h
    cases h

theorem tools_of_onFirstPage (hfirst : OnFirstPage server) {toolkits tags : List String}
    {pages : List Json} (hpages : ServesPages server (toolsPath toolkits tags) pages)
    {listing : ComposioToolsResponse}
    (hlisting : alone server failures (listTools toolkits tags).run = .ok listing) :
    listing.tools = pages.flatMap toolSchemasFromV3 := by
  by_cases hclosed : INVALID_API_KEY_THRESHOLD ≤ failures.getD 0
  · exact absurd hlisting ((no_listing_of_closed hclosed).2 toolkits tags listing)
  · have hlater := hfirst.2 toolkits tags pages hpages
    obtain ⟨page, rest, rfl, hpage⟩ := hpages.first
    rw [listTools_of_open hclosed hpage, Except.ok.injEq] at hlisting
    rw [← hlisting]
    exact (head_eq_flatMap_iff toolSchemasFromV3 page rest).mpr hlater

/-- What the contract members make of a toolkit is what they make of its listing. -/
theorem listing_of_returns {render : Error → String} {service service' : ContractService}
    {toolkit : String} {found : String × List ComposioToolContract}
    (hfaithful : Faithful (directBackend server failures render) service)
    (h : Backend.Returns (directBackend server failures render)
      (toolkitContracts service .whole toolkit, service) (.catalog (.ok found)) service') :
    ∃ listing, alone server failures (listTools [toolkitKey toolkit] []).run = .ok listing ∧
      found.2 = contractsFromListing (toolkitKey toolkit) listing := by
  obtain ⟨result, hreply, hlisted⟩ := returns_toolkitContracts hfaithful h
  generalize toolkitKey toolkit = key at hlisted ⊢
  rw [finish, ContractTask.returned.injEq, ContractReply.catalog.injEq] at hreply
  obtain ⟨listing, hbackend, hfound⟩ := (hlisted found hreply).listing
  rw [directBackend] at hbackend
  cases hrun : alone server failures (listTools [key] []).run with
  | error error =>
    rw [hrun] at hbackend
    cases hbackend
  | ok listed =>
    rw [hrun, Except.mapError, Except.ok.injEq] at hbackend
    rw [hfound, hbackend]
    exact ⟨listing, rfl, rfl⟩

theorem listingsComplete_of_onFirstPage (hfirst : OnFirstPage server) :
    ListingsComplete server failures where
  connections pages hpages connections hconnections := by
    by_cases hclosed : INVALID_API_KEY_THRESHOLD ≤ failures.getD 0
    · exact absurd hconnections ((no_listing_of_closed hclosed).1 connections)
    · have hlater := hfirst.1 pages hpages
      obtain ⟨page, rest, rfl, hpage⟩ := hpages.first
      rw [listConnections_of_open hclosed hpage, Except.ok.injEq] at hconnections
      rw [← hconnections]
      refine (head_eq_flatMap_iff connectionsOf page rest).mpr ?_
      intro later hmem
      rw [connectionsOf, List.filterMap_eq_nil_iff]
      exact hlater later hmem
  tools toolkits tags pages hpages listing hlisting := tools_of_onFirstPage hfirst hpages hlisting
  contracts render service service' toolkit found hfaithful hreturns pages hpages := by
    obtain ⟨listing, hlisting, hfound⟩ := listing_of_returns hfaithful hreturns
    rw [hfound, ← tools_of_onFirstPage hfirst hpages hlisting]

theorem listingsComplete_of_closed (hclosed : INVALID_API_KEY_THRESHOLD ≤ failures.getD 0) :
    ListingsComplete server failures where
  connections pages _ connections hconnections :=
    absurd hconnections ((no_listing_of_closed hclosed).1 connections)
  tools toolkits tags pages _ listing hlisting :=
    absurd hlisting ((no_listing_of_closed hclosed).2 toolkits tags listing)
  contracts render service service' toolkit found hfaithful hreturns pages _ := by
    obtain ⟨listing, hlisting, _⟩ := listing_of_returns hfaithful hreturns
    exact absurd hlisting ((no_listing_of_closed hclosed).2 _ _ listing)

theorem onFirstPage_of_listingsComplete (h : ListingsComplete server failures)
    (hopen : ¬ INVALID_API_KEY_THRESHOLD ≤ failures.getD 0) : OnFirstPage server := by
  constructor
  · intro pages hpages later hmem
    have hcomplete := h.connections pages hpages
    obtain ⟨page, rest, rfl, hpage⟩ := hpages.first
    have hall := hcomplete _ (listConnections_of_open hopen hpage)
    have hnone := (head_eq_flatMap_iff connectionsOf page rest).mp hall later hmem
    rwa [connectionsOf, List.filterMap_eq_nil_iff] at hnone
  · intro toolkits tags pages hpages
    have hcomplete := h.tools toolkits tags pages hpages
    obtain ⟨page, rest, rfl, hpage⟩ := hpages.first
    have hall := hcomplete _ (listTools_of_open hopen hpage)
    exact (head_eq_flatMap_iff toolSchemasFromV3 page rest).mp hall

/-- The listings are complete or fail exactly when the gate is closed, so that they
fail, or every row that is read is on a first page. -/
theorem listingsComplete_iff (server : Request → Except Error Json) (failures : Option ℕ) :
    ListingsComplete server failures ↔
      INVALID_API_KEY_THRESHOLD ≤ failures.getD 0 ∨ OnFirstPage server := by
  constructor
  · intro h
    by_cases hclosed : INVALID_API_KEY_THRESHOLD ≤ failures.getD 0
    · exact .inl hclosed
    · exact .inr (onFirstPage_of_listingsComplete h hclosed)
  · rintro (hclosed | hfirst)
    · exact listingsComplete_of_closed hclosed
    · exact listingsComplete_of_onFirstPage hfirst

end

/-! ## A tenant with one connection too many -/

/-- An active connection of the tenant. -/
def account (n : ℕ) : Json :=
  .obj [("id", .str ("ca_" ++ toString n)), ("status", .str "ACTIVE"), ("toolkit", .str "gmail")]

/-- Two hundred accounts on the first page, and one more on the second. -/
def largeTenant : Request → Except Error Json
  | .get path =>
    if path = accountsPath then
      .ok (.obj [("items", .arr ((List.range 200).map account)), ("next_cursor", .str "p2")])
    else if path = pagePath accountsPath (some "p2") then .ok (.obj [("items", .arr [account 200])])
    else .error (.transport path "HTTP 404")
  | _ => .error (.transport "" "HTTP 405")

/-- Of 201 connected accounts served in two pages the route returns the first 200. -/
theorem not_listingsComplete_largeTenant : ¬ ListingsComplete largeTenant none := by
  intro h
  have hpages : ServesPages largeTenant accountsPath
      [.obj [("items", .arr ((List.range 200).map account)), ("next_cursor", .str "p2")],
        .obj [("items", .arr [account 200])]] := by
    refine .more ?_ (show _ = some "p2" by decide +kernel) (.last ?_ ?_)
    · rw [pagePath, largeTenant, if_pos rfl]
    · rw [largeTenant, if_neg (by decide +kernel), if_pos rfl]
    · decide +kernel
  have hfirst := (onFirstPage_of_listingsComplete h (by decide)).1 _ hpages _
    (List.mem_singleton_self _) (account 200) (by decide +kernel)
  have hread : (connectionFromV3 (account 200)).isSome = true := by decide +kernel
  rw [hfirst] at hread
  cases hread

end Direct
