/-
# What the direct route sends

`client/route/direct.rs`: what a member of the direct route asks for next may depend on what
the v3 API has answered, its cursors and ids included.  Whatever is answered, a member makes
only the calls named here, to a path of fixed segments and parameters with one value in a
place each; it changes something at most once, and asks no more than its pages allow.
-/
import TinyConnectors.Client.ProxyRequests
import TinyConnectors.Direct.GateRuns
import TinyConnectors.Direct.Ownership
import TinyConnectors.Sessions

open RustStr SchemaWalk Client Prog Session Proxy

namespace Direct

/-! ## Calls of the v3 API -/

def Request.path : Request → String
  | .get path => path
  | .post path _ => path
  | .delete path => path

/-- Whether it only reads. -/
def Request.isGet : Request → Bool
  | .get _ => true
  | .post _ _ => false
  | .delete _ => false

/-- The body of a link. -/
def linkBody (route : Route) : Json → Json
  | .obj fields => .obj (Json.insert "entity_id" (.str route.entityId) fields)
  | other => other

/-- What a link reply comes to. -/
def linkReply (value : Json) : Calls ComposioAuthorizeResponse :=
  match field value ["redirectUrl", "redirect_url", "connectUrl"] with
  | none => throw (.decode "/connected_accounts/link" "link response carried no redirect URL")
  | some connectUrl =>
    let connectionId := (field value ["connectedAccountId", "id"]).getD ""
    pure { connectUrl := connectUrl, connectionId := connectionId }

theorem authorize_eq (route : Route) (body : Json) :
    authorize route body = call (.post "/connected_accounts/link" (linkBody route body)) >>=
      linkReply := by
  cases body <;> rfl

/-- The listing of the triggers of a toolkit. -/
def typesPath (toolkit : String) : String :=
  "/triggers_types?toolkit_slugs=" ++ encode toolkit ++ "&limit=50&toolkit_versions=latest"

/-- The listings a member follows through their pages. -/
def Member.listings (route : Route) : Member → List String
  | .listAvailableTriggers toolkit => [typesPath toolkit]
  | .listTriggers _ => [activePath route, "/connected_accounts?limit=200"]
  | .createTrigger _ _ _ => [activePath route]
  | .enableTrigger _ _ _ => [activePath route]
  | _ => []

/-- The connection whose owner a member reads. -/
def Member.connection : Member → Option String
  | .execute _ _ connectionId => connectionId
  | .createTrigger _ connectionId _ => connectionId
  | .enableTrigger connectionId _ _ => some connectionId
  | _ => none

/-- The subscription a member makes. -/
def Member.upserts : Member → Option (String × Option String × Option Json)
  | .createTrigger slug connectionId triggerConfig => some (slug, connectionId, triggerConfig)
  | .enableTrigger connectionId slug triggerConfig => some (slug, some connectionId, triggerConfig)
  | _ => none

/-- The calls of a member. -/
inductive Sends (route : Route) : Member → Request → Prop where
  | accounts : Sends route .listConnections (.get "/connected_accounts?limit=200")
  | link (body : Json) :
      Sends route (.authorize body) (.post "/connected_accounts/link" (linkBody route body))
  | tools (toolkits tags : List String) :
      Sends route (.listTools toolkits tags) (.get (toolsPath toolkits tags))
  | account {member : Member} {id path : String} (h : member.connection = some id)
      (hpath : accountPath id = .ok path) : Sends route member (.get path)
  | run {tool named : String} (arguments : Json) (connectionId : Option String) (entityId : String)
      (hnamed : segment tool tool = .ok named) :
      Sends route (.execute tool arguments connectionId)
        (.post ("/tools/execute/" ++ named) (executeBody entityId arguments connectionId))
  | page {member : Member} {path : String} (h : path ∈ member.listings route)
      (cursor : Option String) :
      Sends route member (.get (pagePath path cursor))
  | upsert {member : Member} {slug named : String} {connectionId : Option String}
      {triggerConfig : Option Json} (h : member.upserts = some (slug, connectionId, triggerConfig))
      (hnamed : segment slug "trigger slug" = .ok named) :
      Sends route member (.post ("/trigger_instances/" ++ named ++ "/upsert")
        (upsertBody route connectionId triggerConfig))
  | lookup (id : String) : Sends route (.disableTrigger id) (.get (lookupPath route (trim id)))
  | remove {id named : String} (hnamed : segment (trim id) "trigger_id" = .ok named) :
      Sends route (.disableTrigger id) (.delete ("/trigger_instances/manage/" ++ named))

/-- The reads of a member, at most. -/
def Member.reads : Member → ℕ
  | .listConnections => 1
  | .listTools _ _ => 1
  | .execute _ _ _ => 1
  | .listAvailableTriggers _ => MAX_PAGES
  | .listTriggers _ => MAX_PAGES + MAX_PAGES
  | .createTrigger _ _ _ => 1 + MAX_PAGES
  | .enableTrigger _ _ _ => 1 + MAX_PAGES
  | .disableTrigger _ => 1
  | _ => 0

/-- Whether it may change anything. -/
def Member.writes : Member → ℕ
  | .authorize _ => 1
  | .execute _ _ _ => 1
  | .createTrigger _ _ _ => 1
  | .enableTrigger _ _ _ => 1
  | .disableTrigger _ => 1
  | _ => 0

/-! ## Whatever is answered -/

section Members

variable {q : Request → Prop} {read write : ℕ}

/-- What calls cost, where a read costs `read` and anything else `write`. -/
def price (read write : ℕ) (request : Request) : ℕ := if request.isGet then read else write

theorem keeps_call {request : Request} (h : q request) :
    Keeps q (price read write) (price read write request) (call request).run :=
  .ask h le_rfl fun answer => .done _ answer.outcome

theorem keeps_listPagesFrom {path : String} (h : ∀ cursor, q (.get (pagePath path cursor)))
    (pages : ℕ) (cursor : Option String) (rows : List Json) :
    Keeps q (price read write) (pages * read) (listPagesFrom path pages cursor rows).run := by
  induction pages generalizing cursor rows with
  | zero => exact .done _ _
  | succ pages ih =>
    rw [listPagesFrom, Nat.succ_mul, Nat.add_comm]
    apply Keeps.andThen (keeps_call (h cursor))
    intro value
    dsimp only
    split
    · exact .done _ _
    · split_ifs
      · exact .done _ _
      · exact ih _ _

/-- One call, and what is made of its reply. -/
theorem keeps_reply {α : Type} {request : Request} {f : Json → Calls α} (h : q request)
    (hf : ∀ value, Keeps q (price read write) 0 (f value).run) :
    Keeps q (price read write) (price read write request) (call request >>= f).run :=
  Keeps.andThen (keeps_call h) hf

/-- However long a listing is, its pages are counted. -/
theorem keeps_listPages {path : String} (h : ∀ cursor, q (.get (pagePath path cursor))) :
    Keeps q (price read write) (MAX_PAGES * read) (listPages path).run :=
  keeps_listPagesFrom h MAX_PAGES none []

theorem keeps_accountOwner {id : String} (h : ∀ path, accountPath id = .ok path → q (.get path)) :
    Keeps q (price read write) read (accountOwner id).run := by
  rw [accountOwner]
  apply Keeps.liftExcept
  intro path hpath
  show Keeps q _ (price read write (.get path) + 0) _
  apply Keeps.andThen (Keeps.attempt (keeps_call (h path hpath)))
  intro outcome
  cases outcome with
  | ok value => exact .done _ _
  | error error =>
    cases error with
    | directAuthGated message => exact .done _ _
    | _ =>
      dsimp only
      split_ifs
      all_goals exact .done _ _

variable {route : Route}

theorem keeps_listConnections (h : q (.get "/connected_accounts?limit=200")) :
    Keeps q (price read write) read listConnections.run :=
  keeps_reply h fun _ => .done _ _

theorem keeps_authorize {body : Json}
    (h : q (.post "/connected_accounts/link" (linkBody route body))) :
    Keeps q (price read write) write (authorize route body).run := by
  rw [authorize_eq]
  apply keeps_reply h
  intro value
  rw [linkReply]
  split
  all_goals exact .done _ _

theorem keeps_listTools {toolkits tags : List String} (h : q (.get (toolsPath toolkits tags))) :
    Keeps q (price read write) read (listTools toolkits tags).run :=
  keeps_reply h fun _ => .done _ _

theorem keeps_ensureOwned {id : String} (h : ∀ path, accountPath id = .ok path → q (.get path)) :
    Keeps q (price read write) read (ensureOwned route id).run := by
  rw [ensureOwned]
  show Keeps q _ (read + 0) _
  apply Keeps.andThen (keeps_accountOwner h)
  intro owner
  split_ifs
  all_goals exact .done _ _

theorem keeps_findActiveTrigger (h : ∀ cursor, q (.get (pagePath (activePath route) cursor)))
    (slug : String) (connectionId : Option String) (config : Option Json) :
    Keeps q (price read write) (MAX_PAGES * read)
      (findActiveTrigger route slug connectionId config).run := by
  rw [findActiveTrigger]
  show Keeps q _ (MAX_PAGES * read + 0) _
  apply Keeps.andThen (keeps_listPages h)
  intro rows
  split
  all_goals exact .done _ _

/-- The owner is read, the subscription made, and looked up where the reply had no id. -/
theorem keeps_upsert {slug : String} {connectionId : Option String} {config : Option Json}
    (haccount : ∀ id path, connectionId = some id → accountPath id = .ok path → q (.get path))
    (hpost : ∀ named, segment slug "trigger slug" = .ok named →
      q (.post ("/trigger_instances/" ++ named ++ "/upsert")
        (upsertBody route connectionId config)))
    (hpage : ∀ cursor, q (.get (pagePath (activePath route) cursor))) :
    Keeps q (price read write) (read + (write + MAX_PAGES * read))
      (upsert route slug connectionId config).run := by
  have howned : Keeps q (price read write) read
      (connectionId.elim (pure ()) (ensureOwned route)).run := by
    cases connectionId with
    | none => exact .done _ _
    | some id => exact keeps_ensureOwned fun path hpath => haccount id path rfl hpath
  rw [upsert]
  apply Keeps.andThen howned
  intro _
  apply Keeps.liftExcept
  intro named hnamed
  apply Keeps.andThen (keeps_call (hpost named hnamed))
  intro value
  dsimp only
  split
  · exact .done _ _
  · show Keeps q _ (MAX_PAGES * read + 0) _
    apply Keeps.andThen (keeps_findActiveTrigger hpage slug connectionId config)
    intro found
    split
    all_goals exact .done _ _

theorem keeps_execute {tool : String} {arguments : Json} {connectionId : Option String}
    (haccount : ∀ id path, connectionId = some id → accountPath id = .ok path → q (.get path))
    (hpost : ∀ named entityId, segment tool tool = .ok named →
      q (.post ("/tools/execute/" ++ named) (executeBody entityId arguments connectionId))) :
    Keeps q (price read write) (read + write) (execute route tool arguments connectionId).run := by
  have hentity : Keeps q (price read write) read (executeEntity route connectionId).run := by
    cases connectionId with
    | none => exact .done _ _
    | some id =>
      rw [executeEntity]
      show Keeps q _ (read + 0) _
      apply Keeps.andThen (keeps_accountOwner fun path hpath => haccount id path rfl hpath)
      intro owner
      exact .done _ _
  rw [execute]
  apply Keeps.liftExcept
  intro named hnamed
  apply Keeps.andThen hentity
  intro entityId
  show Keeps q _ (write + 0) _
  apply Keeps.andThen (keeps_call (hpost named entityId hnamed))
  intro raw
  exact .done _ _

theorem keeps_listTriggers {toolkit : Option String}
    (hactive : ∀ cursor, q (.get (pagePath (activePath route) cursor)))
    (haccounts : ∀ cursor, q (.get (pagePath "/connected_accounts?limit=200" cursor))) :
    Keeps q (price read write) (MAX_PAGES * read + MAX_PAGES * read)
    (listTriggers route toolkit).run := by
  have hlookup : ∀ wanted, Keeps q (price read write) (MAX_PAGES * read)
      (lookupAccounts wanted).run := by
    intro wanted
    cases wanted with
    | false => exact .done _ _
    | true =>
      rw [lookupAccounts]
      show Keeps q _ (MAX_PAGES * read + 0) _
      apply Keeps.andThen (Keeps.attempt (keeps_listPages haccounts))
      intro outcome
      split
      all_goals exact .done _ _
  rw [listTriggers]
  apply Keeps.liftExcept
  intro _ _
  apply Keeps.andThen (keeps_listPages hactive)
  intro listed
  show Keeps q _ (MAX_PAGES * read + 0) _
  apply Keeps.andThen (hlookup _)
  intro accounts
  exact .done _ _

theorem keeps_disableTrigger {id : String} (hlookup : q (.get (lookupPath route (trim id))))
    (hremove : ∀ named, segment (trim id) "trigger_id" = .ok named →
      q (.delete ("/trigger_instances/manage/" ++ named))) :
    Keeps q (price read write) (read + write) (disableTrigger route id).run := by
  rw [disableTrigger]
  apply Keeps.liftExcept
  intro _ _
  apply Keeps.andThen (keeps_call hlookup)
  intro found
  split_ifs
  · apply Keeps.liftExcept
    intro named hnamed
    show Keeps q _ (write + 0) _
    apply Keeps.andThen (keeps_call (hremove named hnamed))
    intro _
    exact .done _ _
  · exact .done _ _

theorem keeps_finished {α : Type} {budget : ℕ} {p : Calls α}
    (h : Keeps q (price read write) budget p.run) :
    Keeps q (price read write) budget (finished p).run := by
  show Keeps q _ (budget + 0) _
  exact Keeps.andThen h fun _ => .done _ _

end Members

/-- The subscription of a member is made by calls of that member. -/
theorem keeps_upserts {route : Route} {member : Member} {slug : String}
    {connectionId : Option String} {triggerConfig : Option Json}
    (hupserts : member.upserts = some (slug, connectionId, triggerConfig))
    (hconnection : member.connection = connectionId)
    (hlisting : activePath route ∈ member.listings route) (read write : ℕ) :
    Keeps (Sends route member) (price read write) (read + (write + MAX_PAGES * read))
      (upsert route slug connectionId triggerConfig).run := by
  apply keeps_upsert
  · intro id path hid hpath
    exact .account (hconnection.trans hid) hpath
  · intro named hnamed
    exact .upsert hupserts hnamed
  · intro cursor
    exact .page hlisting cursor

/-- Whatever is answered, a member makes only the calls of its own, so many of each kind. -/
theorem keeps_calls (route : Route) (member : Member) (read write : ℕ) :
    Keeps (Sends route member) (price read write) (member.reads * read + member.writes * write)
      (member.calls route).run := by
  cases member with
  | listToolkits => exact .done _ _
  | deleteConnection => exact .done _ _
  | listGithubRepos => exact .done _ _
  | listConnections =>
    refine (keeps_finished (keeps_listConnections .accounts)).mono ?_
    simp only [Member.reads, Member.writes]
    omega
  | authorize body =>
    refine (keeps_finished (keeps_authorize (.link body))).mono ?_
    simp only [Member.reads, Member.writes]
    omega
  | listTools toolkits tags =>
    refine (keeps_finished (keeps_listTools (.tools toolkits tags))).mono ?_
    simp only [Member.reads, Member.writes]
    omega
  | execute tool arguments connectionId =>
    refine (keeps_finished (keeps_execute ?_ ?_)).mono
      (by simp only [Member.reads, Member.writes]; omega)
    · intro id path hid hpath
      exact .account hid hpath
    · intro named entityId hnamed
      exact .run arguments connectionId entityId hnamed
  | listAvailableTriggers toolkit =>
    -- webhooks are required first, which asks for nothing
    refine Keeps.mono (keeps_finished (?_ : Keeps _ _ (MAX_PAGES * read) _)) (Nat.le_add_right _ _)
    rw [listAvailableTriggers]
    apply Keeps.liftExcept
    intro _ _
    show Keeps _ _ (MAX_PAGES * read + 0) _
    apply Keeps.andThen (keeps_listPages fun cursor => .page (List.mem_singleton_self _) cursor)
    intro rows
    exact .done _ _
  | listTriggers toolkit =>
    refine (keeps_finished (keeps_listTriggers ?_ ?_)).mono
      (by simp only [Member.reads, Member.writes, MAX_PAGES]; omega)
    · intro cursor
      exact .page (List.mem_cons_self ..) cursor
    · intro cursor
      exact .page (List.mem_cons_of_mem _ (List.mem_singleton_self _)) cursor
  | createTrigger slug connectionId triggerConfig =>
    refine (keeps_finished (?_ : Keeps _ _ (read + (write + MAX_PAGES * read)) _)).mono
      (by simp only [Member.reads, Member.writes, MAX_PAGES]; omega)
    rw [createTrigger]
    apply Keeps.liftExcept
    intro _ _
    exact keeps_upserts rfl rfl (List.mem_singleton_self _) read write
  | enableTrigger connectionId slug triggerConfig =>
    refine (keeps_finished (?_ : Keeps _ _ (read + (write + MAX_PAGES * read) + 0) _)).mono
      (by simp only [Member.reads, Member.writes, MAX_PAGES]; omega)
    rw [enableTrigger]
    apply Keeps.liftExcept
    intro _ _
    apply Keeps.andThen (keeps_upserts rfl rfl (List.mem_singleton_self _) read write)
    intro reply
    exact .done _ _
  | disableTrigger id =>
    refine (keeps_finished (keeps_disableTrigger (.lookup id) ?_)).mono
      (by simp only [Member.reads, Member.writes]; omega)
    intro named hnamed
    exact .remove hnamed

/-! ## Paths -/

/-- The words the paths are written with. -/
def v3Words : List String :=
  ["50", "200", "active", "connected_accounts", "cursor", "execute", "false", "latest",
    "limit", "link", "manage", "show_disabled", "tags", "toolkit_slugs", "toolkit_versions",
    "toolkits", "tools", "trigger_ids", "trigger_instances", "triggers_types", "true", "upsert",
    "user_ids"]

theorem plain_v3Words : ∀ text ∈ v3Words, Plain text := by decide +kernel

/-- A word of the API, or a value that `segment` wrote: neither blank nor made of dots. -/
def Item (text : String) : Prop := text ∈ v3Words ∨ ∃ value what, segment value what = .ok text

/-- A word of the API, or one value or several with commas between them. -/
def Written (text : String) : Prop :=
  text ∈ v3Words ∨ (∃ value, text = encode value) ∨ ∃ values, commaJoined values = some text

theorem Item.plain {text : String} (h : Item text) : Plain text := by
  rcases h with hword | ⟨value, what, hsegment⟩
  · exact plain_v3Words text hword
  · rw [eq_encode_of_segment hsegment]
    exact plain_encode value

theorem Written.plain {text : String} (h : Written text) : Plain text := by
  rcases h with hword | ⟨value, rfl⟩ | ⟨values, hvalues⟩
  · exact plain_v3Words text hword
  · exact plain_encode value
  · exact plain_commaJoined hvalues

/-- A path of items, with parameters that the API knows. -/
structure Shaped (segments : List String) (parameters : List (String × String)) (path : String) :
    Prop where
  rooted : segments ≠ []
  items : ∀ text ∈ segments, Item text
  values : ∀ p ∈ parameters, p.1 ∈ v3Words ∧ Written p.2
  written : path.toList = target segments parameters

section Paths

variable {segments : List String} {parameters : List (String × String)} {path : String}

theorem Shaped.parted (h : Shaped segments parameters path) : Parted segments parameters where
  segments text htext := (h.items text htext).plain
  parameters p hp := ⟨plain_v3Words p.1 (h.values p hp).1, (h.values p hp).2.plain⟩

/-- A cursor is one parameter more, whatever is in it. -/
theorem Shaped.page (h : Shaped segments parameters path) (hparameters : parameters ≠ [])
    (cursor : Option String) :
    Shaped segments (parameters ++ optionalParameter "cursor" cursor) (pagePath path cursor) where
  rooted := h.rooted
  items := h.items
  values p hp := by
    rcases List.mem_append.mp hp with hp | hp
    · exact h.values p hp
    · obtain ⟨value, -, rfl⟩ := Option.map_eq_some_iff.mp (Option.mem_toList.mp hp)
      exact ⟨by simp [v3Words], .inr (.inl ⟨value, rfl⟩)⟩
  written := by
    cases cursor with
    | none =>
      show path.toList = target segments (parameters ++ [])
      rw [List.append_nil]
      exact h.written
    | some cursor =>
      obtain ⟨first, parameters, rfl⟩ := List.exists_cons_of_ne_nil hparameters
      rw [pagePath, String.toList_append, String.toList_append, h.written, optionalParameter,
        Option.map_some, Option.toList_some, List.cons_append, target, target,
        if_neg (List.cons_ne_nil _ _), if_neg (List.cons_ne_nil _ _), List.map_cons, List.map_cons,
        List.map_append, intercalate_cons, intercalate_cons, List.flatMap_append]
      generalize encode cursor = text
      simp

theorem items_of_words {texts : List String} (h : texts ⊆ v3Words) : ∀ text ∈ texts, Item text :=
  fun _ htext => .inl (h htext)

theorem values_of_words {pairs : List (String × String)}
    (h : ∀ p ∈ pairs, p.1 ∈ v3Words ∧ p.2 ∈ v3Words) : ∀ p ∈ pairs, p.1 ∈ v3Words ∧ Written p.2 :=
  fun p hp => ⟨(h p hp).1, .inl (h p hp).2⟩

/-- A parameter with a value that is encoded. -/
theorem values_cons {key : String} (hkey : key ∈ v3Words) (value : String)
    {pairs : List (String × String)} (h : ∀ p ∈ pairs, p.1 ∈ v3Words ∧ Written p.2) :
    ∀ p ∈ (key, encode value) :: pairs, p.1 ∈ v3Words ∧ Written p.2 :=
  List.forall_mem_cons.mpr ⟨⟨hkey, .inr (.inl ⟨value, rfl⟩)⟩, h⟩

theorem shaped_accounts : Shaped ["connected_accounts"]
    [("limit", "200")] "/connected_accounts?limit=200" where
  rooted := List.cons_ne_nil _ _
  items := items_of_words (by simp [v3Words])
  values := values_of_words (by simp [v3Words])
  written := by simp [target]

theorem toList_types (text : String) :
    ("/triggers_types?toolkit_slugs=" ++ text ++ "&limit=50&toolkit_versions=latest").toList =
      target ["triggers_types"]
        [("toolkit_slugs", text), ("limit", "50"), ("toolkit_versions", "latest")] := by
  simp [target, intercalate_cons]

theorem shaped_types (toolkit : String) : Shaped ["triggers_types"]
    [("toolkit_slugs", encode toolkit), ("limit", "50"), ("toolkit_versions", "latest")]
    (typesPath toolkit) where
  rooted := List.cons_ne_nil _ _
  items := items_of_words (by simp [v3Words])
  values := values_cons (by simp [v3Words]) toolkit (values_of_words (by simp [v3Words]))
  written := by
    unfold typesPath
    exact toList_types (encode toolkit)

theorem toList_active (text : String) :
    ("/trigger_instances/active?user_ids=" ++ text ++ "&show_disabled=false&limit=50").toList =
      target ["trigger_instances", "active"]
        [("user_ids", text), ("show_disabled", "false"), ("limit", "50")] := by
  simp [target, intercalate_cons]

theorem shaped_active (route : Route) : Shaped ["trigger_instances", "active"]
    [("user_ids", encode route.entityId), ("show_disabled", "false"), ("limit", "50")]
    (activePath route) where
  rooted := List.cons_ne_nil _ _
  items := items_of_words (by simp [v3Words])
  values := values_cons (by simp [v3Words]) route.entityId (values_of_words (by simp [v3Words]))
  written := by
    unfold activePath
    exact toList_active (encode route.entityId)

theorem toList_lookup (text entity : String) :
    ("/trigger_instances/active?trigger_ids=" ++ text ++ "&user_ids=" ++ entity ++
        "&show_disabled=true&limit=50").toList =
      target ["trigger_instances", "active"]
        [("trigger_ids", text), ("user_ids", entity), ("show_disabled", "true"),
        ("limit", "50")] := by
  simp [target, intercalate_cons]

theorem shaped_lookup (route : Route) (triggerId : String) : Shaped ["trigger_instances", "active"]
    [("trigger_ids", encode triggerId), ("user_ids", encode route.entityId),
      ("show_disabled", "true"), ("limit", "50")]
    (lookupPath route triggerId) where
  rooted := List.cons_ne_nil _ _
  items := items_of_words (by simp [v3Words])
  values := values_cons (by simp [v3Words]) triggerId
    (values_cons (by simp [v3Words]) route.entityId (values_of_words (by simp [v3Words])))
  written := by
    unfold lookupPath
    exact toList_lookup (encode triggerId) (encode route.entityId)

/-- The parameters of a tools listing: one for each tag. -/
def toolsParameters (toolkits tags : List String) : List (String × String) :=
  [("limit", "200"), ("toolkit_versions", "latest")] ++
    ((commaJoined toolkits).map fun joined => ("toolkits", joined)).toList ++
    (sentValues tags).map fun tag => ("tags", encode tag)

theorem toList_toolsPath (toolkits tags : List String) :
    (toolsPath toolkits tags).toList = target ["tools"] (toolsParameters toolkits tags) := by
  have hquery : ["limit=200", "toolkit_versions=latest"] ++
      ((commaJoined toolkits).map ("toolkits=" ++ ·)).toList ++
      ((sentValues tags).map fun tag => "tags=" ++ encode tag) =
      (toolsParameters toolkits tags).map fun p => p.1 ++ "=" ++ p.2 := by
    unfold toolsParameters
    cases commaJoined toolkits <;> simp
  have hwritten : ∀ p : String × String,
      (p.1 ++ "=" ++ p.2).toList = p.1.toList ++ '=' :: p.2.toList := by
    simp
  calc (toolsPath toolkits tags).toList
      = ("/tools?" ++ String.intercalate "&" ((toolsParameters toolkits tags).map fun p =>
          p.1 ++ "=" ++ p.2)).toList := by
        rw [← hquery]
        rfl
    _ = target ["tools"] (toolsParameters toolkits tags) := by
        rw [String.toList_append, String.toList_intercalate, List.map_map]
        simp only [Function.comp_def, hwritten]
        simp [target, toolsParameters]

theorem shaped_tools (toolkits tags : List String) :
    Shaped ["tools"] (toolsParameters toolkits tags) (toolsPath toolkits tags) where
  rooted := List.cons_ne_nil _ _
  items := items_of_words (by simp [v3Words])
  values p hp := by
    rcases List.mem_append.mp hp with hp | hp
    · rcases List.mem_append.mp hp with hp | hp
      · exact values_of_words (by simp [v3Words]) p hp
      · obtain ⟨joined, hjoined, rfl⟩ := Option.map_eq_some_iff.mp (Option.mem_toList.mp hp)
        exact ⟨by simp [v3Words], .inr (.inr ⟨toolkits, hjoined⟩)⟩
    · obtain ⟨tag, -, rfl⟩ := List.mem_map.mp hp
      exact ⟨by simp [v3Words], .inr (.inl ⟨tag, rfl⟩)⟩
  written := toList_toolsPath toolkits tags

/-- The path of one item, below these words. -/
theorem shaped_item (above : List String) (habove : above ⊆ v3Words) {value what named : String}
    (hnamed : segment value what = .ok named) {below : List String} (hbelow : below ⊆ v3Words)
    (hpath : path.toList = target (above ++ named :: below) []) :
    Shaped (above ++ named :: below) [] path where
  rooted := List.append_ne_nil_of_right_ne_nil above (List.cons_ne_nil named below)
  items text htext := by
    rcases List.mem_append.mp htext with habovetext | htext
    · exact .inl (habove habovetext)
    · rcases List.mem_cons.mp htext with rfl | hbelowtext
      · exact .inr ⟨value, what, hnamed⟩
      · exact .inl (hbelow hbelowtext)
  values := List.forall_mem_nil _
  written := hpath

/-- The listings that are followed have parameters, for a cursor to go after. -/
theorem shaped_listings {route : Route} {member : Member} (h : path ∈ member.listings route) :
    ∃ segments parameters, parameters ≠ [] ∧ Shaped segments parameters path := by
  have hactive : path = activePath route → ∃ segments parameters, parameters ≠ [] ∧
      Shaped segments parameters path := by
    rintro rfl
    exact ⟨_, _, List.cons_ne_nil _ _, shaped_active route⟩
  cases member with
  | listAvailableTriggers toolkit =>
    obtain rfl := List.mem_singleton.mp h
    exact ⟨_, _, List.cons_ne_nil _ _, shaped_types toolkit⟩
  | listTriggers toolkit =>
    rcases List.mem_pair.mp h with hpath | rfl
    · exact hactive hpath
    · exact ⟨_, _, List.cons_ne_nil _ _, shaped_accounts⟩
  | createTrigger slug connectionId triggerConfig => exact hactive (List.mem_singleton.mp h)
  | enableTrigger connectionId slug triggerConfig => exact hactive (List.mem_singleton.mp h)
  | _ => exact absurd h List.not_mem_nil

end Paths

/-- Every call of a member is to such a path. -/
theorem Sends.shaped {route : Route} {member : Member} {request : Request}
    (h : Sends route member request) :
    ∃ segments parameters, Shaped segments parameters request.path := by
  cases h with
  | accounts => exact ⟨_, _, shaped_accounts⟩
  | link body =>
    exact ⟨["connected_accounts", "link"], [], List.cons_ne_nil _ _,
      items_of_words (by simp [v3Words]), List.forall_mem_nil _, by simp [target, Request.path]⟩
  | tools toolkits tags => exact ⟨_, _, shaped_tools toolkits tags⟩
  | @account _ id path hid hpath =>
    cases hnamed : segment id "connection_id" with
    | error error =>
      rw [accountPath, hnamed] at hpath
      cases hpath
    | ok named =>
      rw [accountPath, hnamed] at hpath
      obtain rfl := Except.ok.inj hpath
      exact ⟨_, _, shaped_item ["connected_accounts"] (by simp [v3Words]) hnamed (List.nil_subset _)
        (by simp [target, Request.path])⟩
  | run arguments connectionId entityId hnamed =>
    exact ⟨_, _, shaped_item ["tools", "execute"] (by simp [v3Words]) hnamed (List.nil_subset _)
      (by simp [target, Request.path])⟩
  | @page _ path hpath cursor =>
    obtain ⟨segments, parameters, hne, hshaped⟩ := shaped_listings hpath
    exact ⟨_, _, hshaped.page hne cursor⟩
  | upsert hupserts hnamed =>
    exact ⟨_, _, shaped_item ["trigger_instances"] (by simp [v3Words]) hnamed
      (show ["upsert"] ⊆ v3Words by simp [v3Words]) (by simp [target, Request.path])⟩
  | lookup id => exact ⟨_, _, shaped_lookup route (trim id)⟩
  | remove hnamed =>
    exact ⟨_, _, shaped_item ["trigger_instances", "manage"] (by simp [v3Words]) hnamed
      (List.nil_subset _) (by simp [target, Request.path])⟩

/-! ## Whom an execute acts as -/

/-- The owner of the account where a reply told it, and only otherwise the entity of the route. -/
def ActsAs (route : Route) (connectionId : Option String) (past : Past) (entityId : String) :
    Prop :=
  (∃ id, connectionId = some id ∧ OwnerRead id entityId past) ∨
    ((∀ id owner, connectionId = some id → ¬ OwnerRead id owner past) ∧ entityId = route.entityId)

/-- What an execute posts, after what it was told. -/
def mayExecute (route : Route) (arguments : Json) (connectionId : Option String) (past : Past) :
    Request → Prop
  | .get _ => True
  | .post _ body => ∃ entityId, ActsAs route connectionId past entityId ∧
      body = executeBody entityId arguments connectionId
  | .delete _ => False

section Execute

variable {may : Past → Request → Prop}

/-- After the one reply, the owner is what that reply told. -/
theorem ownerRead_iff {id path owner : String} (hpath : accountPath id = .ok path)
    (answer : Answer) :
    OwnerRead id owner [(.get path, answer)] ↔ answer.owner = some owner := by
  rw [Answer.owner_eq_some_iff]
  constructor
  · rintro ⟨named, value, hnamed, hmem, howner⟩
    rw [List.mem_singleton, Prod.mk.injEq] at hmem
    exact ⟨value, hmem.2.symm, howner⟩
  · rintro ⟨value, rfl, howner⟩
    exact ⟨path, value, hpath, List.mem_singleton_self _, howner⟩

theorem yields_first_accountOwner (hget : ∀ past path, may past (.get path)) (id : String) :
    Yields may (fun later owner => ∀ o, owner = some o ↔ OwnerRead id o later) []
    (accountOwner id) := by
  refine (yields_told_accountOwner hget id).mono ?_
  rintro _ _ ⟨path, answer, hpath, rfl, rfl⟩
  intro o
  exact (ownerRead_iff hpath answer).symm

theorem yields_executeEntity (hget : ∀ past path, may past (.get path)) (route : Route)
    (connectionId : Option String) :
    Yields may (fun later entityId => ActsAs route connectionId later entityId) []
      (executeEntity route connectionId) := by
  cases connectionId with
  | none =>
    refine Yields.pure (.inr ⟨?_, rfl⟩)
    intro id owner h
    cases h
  | some id =>
    rw [executeEntity]
    refine Yields.bind ?_
    refine (yields_first_accountOwner hget id).mono ?_
    intro later owner howner _
    refine Yields.pure ?_
    -- no owner told is no reply that told one, so the entity acts
    cases owner with
    | some o => exact .inl ⟨id, rfl, (howner o).mp rfl⟩
    | none =>
      refine .inr ⟨?_, rfl⟩
      intro id' o h hread
      cases h
      cases (howner o).mpr hread

theorem yields_execute_acts (route : Route) (tool : String) (arguments : Json)
    (connectionId : Option String) :
    Yields (mayExecute route arguments connectionId) (fun _ _ => True) []
      (execute route tool arguments connectionId) := by
  rw [execute]
  refine Yields.bind ?_
  refine Yields.liftExcept ?_
  intro named _ _
  refine Yields.bind ?_
  refine (yields_executeEntity (fun _ _ => trivial) route connectionId).mono ?_
  intro later entityId hacts _
  refine Yields.bind ?_
  refine yields_call ⟨entityId, hacts, rfl⟩ ?_
  intro raw _
  exact Yields.pure trivial

end Execute

/-! ## Every run -/

/-- The runs of the members, whatever the gate and the transport answer. -/
structure Confined (route : Route) : Prop where
  /-- Nothing is asked for but the calls of the member, over paths of its own words. -/
  sends : ∀ member answers, ∀ exchange ∈ (member.calls route).run.exchanges answers,
    Sends route member exchange.1 ∧
      ∃ segments parameters, Shaped segments parameters exchange.1.path ∧
        resource exchange.1.path.toList = "" :: segments
  /-- It reads so often, and changes something once at most. -/
  reads : ∀ (member : Member) answers, ((member.calls route).run.exchanges answers).countP
    (fun exchange => exchange.1.isGet) ≤ member.reads
  writes : ∀ (member : Member) answers, ((member.calls route).run.exchanges answers).countP
    (fun exchange => !exchange.1.isGet) ≤ member.writes
  /-- An execute acts as the owner of the account where that was told, else as the entity. -/
  acts : ∀ tool arguments connectionId answers before path body answer later,
    (execute route tool arguments connectionId).run.exchanges answers =
      before ++ (.post path body, answer) :: later →
    ∃ entityId, ActsAs route connectionId before entityId ∧
      body = executeBody entityId arguments connectionId

theorem spent_reads (exchanges : Past) :
    spent (price 1 0) exchanges = exchanges.countP fun exchange => exchange.1.isGet := by
  induction exchanges with
  | nil => rfl
  | cons exchange exchanges ih =>
    rw [spent, ih, List.countP_cons, price, Nat.add_comm]

theorem spent_writes (exchanges : Past) :
    spent (price 0 1) exchanges = exchanges.countP fun exchange => !exchange.1.isGet := by
  induction exchanges with
  | nil => rfl
  | cons exchange exchanges ih =>
    rw [spent, ih, List.countP_cons, price, Nat.add_comm]
    cases exchange.1.isGet <;> rfl

/-- Over every list of answers a member sends its own calls, over paths of its own words, no more of
them than it is allowed, and an execute acts as the owner it was told of, else as the entity. -/
theorem confined (route : Route) : Confined route where
  sends member answers exchange hmem := by
    have hsends := (keeps_calls route member 0 0).exchanges answers exchange hmem
    obtain ⟨segments, parameters, hshaped⟩ := hsends.shaped
    refine ⟨hsends, segments, parameters, hshaped, ?_⟩
    rw [hshaped.written, resource_target hshaped.parted]
  reads member answers := by
    have hspent := (keeps_calls route member 1 0).spent_exchanges answers
    rwa [spent_reads, Nat.mul_one, Nat.mul_zero, Nat.add_zero] at hspent
  writes member answers := by
    have hspent := (keeps_calls route member 0 1).spent_exchanges answers
    rwa [spent_writes, Nat.mul_zero, Nat.mul_one, Nat.zero_add] at hspent
  acts tool arguments connectionId answers before path body answer later hrun :=
    (yields_execute_acts route tool arguments connectionId).may_of_exchanges hrun

end Direct
