/-
# Whose triggers the direct route acts on

Whatever the v3 API answers: a subscription is made only on a connection whose
owner was read and is the route's entity, one is removed only after a reply that
lists it as the entity's, and no listing returns a row of somebody else.
-/
import TinyConnectors.Direct.Route

open RustStr Prog

namespace Direct

/-! ## Rules for the route's calls -/

/-- Requests with their answers. -/
abbrev Past := List (Request × Answer)

section Rules

variable {may : Past → Request → Prop} {past : Past}

theorem yields_call {good : Past → Json → Prop} {request : Request} (hmay : may past request)
    (hgood : ∀ value, good (past ++ [(request, .replied (.ok value))]) value) :
    Yields may good past (call request) := by
  refine Yields.ask hmay ?_
  intro answer value hvalue
  cases answer with
  | gated => cases hvalue
  | replied outcome =>
    rw [show outcome = .ok value from hvalue]
    exact hgood value

theorem yields_attempt_call {good : Past → Except Error Json → Prop} {request : Request}
    (hmay : may past request)
    (hgood : ∀ answer, good (past ++ [(request, answer)]) answer.outcome) :
    Yields (ε := Error) may good past (ExceptT.lift (call request).run) :=
  Yields.attempt ⟨hmay, hgood⟩

/-- A page of the listing at `path` among the exchanges carries the row. -/
def OnPage (path : String) (past : Past) (row : Json) : Prop :=
  ∃ cursor value, (Request.get (pagePath path cursor), Answer.replied (.ok value)) ∈ past ∧
    row ∈ rowsOf value

theorem OnPage.mono {path : String} {past later : Past} {row : Json} (h : OnPage path past row)
    (hle : past <+: later) : OnPage path later row := by
  obtain ⟨cursor, value, hmem, hrow⟩ := h
  exact ⟨cursor, value, hle.subset hmem, hrow⟩

/-- Each row a listing comes to was on one of its pages. -/
theorem yields_listPagesFrom {path : String}
    (hmay : ∀ past cursor, may past (.get (pagePath path cursor))) (pages : ℕ)
    (cursor : Option String) {rows : List Json} (hrows : ∀ row ∈ rows, OnPage path past row) :
    Yields may (fun later rows => ∀ row ∈ rows, OnPage path later row) past
      (listPagesFrom path pages cursor rows) := by
  induction pages generalizing past cursor rows with
  | zero => exact Yields.throw _
  | succ pages ih =>
    rw [listPagesFrom]
    refine Yields.bind ?_
    refine yields_call (hmay past cursor) ?_
    intro value hle
    have hmore : ∀ row ∈ rows ++ rowsOf value, OnPage path
        (past ++ [(Request.get (pagePath path cursor), .replied (.ok value))]) row := by
      intro row hrow
      rcases List.mem_append.mp hrow with hold | hnew
      · exact (hrows row hold).mono hle
      · exact ⟨cursor, value, List.mem_append_right _ (List.mem_singleton_self _), hnew⟩
    dsimp only
    split
    · exact Yields.pure hmore
    · split_ifs
      · exact Yields.throw _
      · exact ih _ hmore

theorem yields_listPages {path : String}
    (hmay : ∀ past cursor, may past (.get (pagePath path cursor))) :
    Yields may (fun later rows => ∀ row ∈ rows, OnPage path later row) past (listPages path) :=
  yields_listPagesFrom hmay MAX_PAGES none (by simp)

end Rules

/-! ## The owner of a connection -/

/-- The owner on a reply. -/
def Answer.owner : Answer → Option String
  | .replied (.ok value) => slugField value ownerKeys
  | _ => none

theorem Answer.owner_eq_some_iff {answer : Answer} {owner : String} :
    answer.owner = some owner ↔
      ∃ value, answer = .replied (.ok value) ∧ slugField value ownerKeys = some owner := by
  constructor
  · intro h
    match answer, h with
    | .replied (.ok value), h => exact ⟨value, rfl, h⟩
  · rintro ⟨value, rfl, h⟩
    exact h

theorem Answer.owner_of_ok {answer : Answer} {value : Json} (h : answer.outcome = .ok value) :
    answer.owner = slugField value ownerKeys := by
  cases answer with
  | gated => cases h
  | replied outcome =>
    obtain rfl : outcome = .ok value := h
    rfl

theorem Answer.owner_of_error {answer : Answer} {error : Error}
    (h : answer.outcome = .error error) :
    answer.owner = none := by
  cases answer with
  | gated => rfl
  | replied outcome =>
    obtain rfl : outcome = .error error := h
    rfl

/-- `GET /connected_accounts/{id}` succeeded, and `owner` was on the reply. -/
def OwnerRead (connectionId owner : String) (past : Past) : Prop :=
  ∃ path value, accountPath connectionId = .ok path ∧
    (Request.get path, Answer.replied (.ok value)) ∈ past ∧ slugField value ownerKeys = some owner

theorem OwnerRead.mono {connectionId owner : String} {past later : Past}
    (h : OwnerRead connectionId owner past) (hle : past <+: later) :
    OwnerRead connectionId owner later := by
  obtain ⟨path, value, hpath, hmem, howner⟩ := h
  exact ⟨path, value, hpath, hle.subset hmem, howner⟩

section Upsert

variable {may : Past → Request → Prop} {past : Past} {route : Route}

/-- The owner is what the one reply told, and none where it failed. -/
theorem yields_told_accountOwner (hget : ∀ past path, may past (.get path))
    (connectionId : String) :
    Yields may (fun later owner => ∃ path answer, accountPath connectionId = .ok path ∧
      later = past ++ [(.get path, answer)] ∧
        owner = answer.owner) past (accountOwner connectionId) := by
  rw [accountOwner]
  refine Yields.bind ?_
  refine Yields.liftExcept ?_
  intro path hpath _
  refine Yields.bind ?_
  refine yields_attempt_call (hget past path) ?_
  intro answer _
  rcases houtcome : answer.outcome with error | value
  · -- a failure is an error, or no owner at all
    have hnone : Yields (ε := Error) may (fun later owner => ∃ path answer,
        accountPath connectionId = .ok path ∧ later = past ++ [(.get path, answer)] ∧
          owner = answer.owner) (past ++ [(.get path, answer)]) (pure none) :=
      Yields.pure ⟨path, answer, hpath, rfl, (Answer.owner_of_error houtcome).symm⟩
    cases error with
    | directAuthGated message => exact Yields.throw _
    | _ =>
      dsimp only
      split_ifs
      all_goals first | exact Yields.throw _ | exact hnone
  · exact Yields.pure ⟨path, answer, hpath, rfl, (Answer.owner_of_ok houtcome).symm⟩

theorem yields_accountOwner (hget : ∀ past path, may past (.get path)) (connectionId : String) :
    Yields may (fun later owner => ∀ o, owner = some o → OwnerRead connectionId o later) past
      (accountOwner connectionId) := by
  refine (yields_told_accountOwner hget connectionId).mono ?_
  rintro _ _ ⟨path, answer, hpath, rfl, rfl⟩
  intro o ho
  obtain ⟨value, rfl, howner⟩ := Answer.owner_eq_some_iff.mp ho
  exact ⟨path, value, hpath, List.mem_append_right _ (List.mem_singleton_self _), howner⟩

theorem yields_ensureOwned (hget : ∀ past path, may past (.get path)) (connectionId : String) :
    Yields may (fun later _ => OwnerRead connectionId route.entityId later) past
      (ensureOwned route connectionId) := by
  rw [ensureOwned]
  refine Yields.bind ?_
  refine (yields_accountOwner hget connectionId).mono ?_
  intro later owner howner _
  split_ifs with h
  · exact Yields.pure (howner _ h)
  · exact Yields.throw _

/-! ## Rows of the entity -/

/-- The row was listed, and names no other owner. -/
def OwnRow (route : Route) (past : Past) (row : Json) : Prop :=
  OnPage (activePath route) past row ∧
    ∀ owner, slugField row ownerKeys = some owner → owner = route.entityId

theorem ownRow_of_ownedBy {row : Json} (hpage : OnPage (activePath route) past row)
    (howned : ownedBy row route.entityId = true) : OwnRow route past row := by
  refine ⟨hpage, ?_⟩
  intro owner howner
  rw [ownedBy, howner] at howned
  simpa using howned

theorem ownedBy_of_isInstance {slug : String} {connectionId : Option String} {config : Option Json}
    {row : Json} (h : isInstance route slug connectionId config row = true) :
    ownedBy row route.entityId = true := by
  rw [isInstance] at h
  simp only [Bool.and_eq_true] at h
  exact h.1.1.2

theorem yields_findActiveTrigger (hget : ∀ past path, may past (.get path)) (slug : String)
    (connectionId : Option String) (config : Option Json) :
    Yields may (fun later found => ∀ id, found = some id →
      ∃ row, OwnRow route later row ∧ slugField row triggerIdKeys = some id) past
      (findActiveTrigger route slug connectionId config) := by
  rw [findActiveTrigger]
  refine Yields.bind ?_
  refine (yields_listPages fun past cursor => hget past _).mono ?_
  intro later rows hrows _
  split
  · next only honly =>
    have hmem : only ∈ rows.filter (isInstance route slug connectionId config) := by
      rw [honly]
      exact List.mem_singleton_self only
    rw [List.mem_filter] at hmem
    refine Yields.pure ?_
    intro id hid
    exact ⟨only, ownRow_of_ownedBy (hrows only hmem.1) (ownedBy_of_isInstance hmem.2), hid⟩
  · refine Yields.pure ?_
    intro id hid
    cases hid

/-- The id was on the reply to the upsert, or on a row of the entity. -/
def IdFound (route : Route) (past : Past) (id : String) : Prop :=
  (∃ path body value, (Request.post path body, Answer.replied (.ok value)) ∈ past ∧
      slugField value ["trigger_id", "triggerId", "id"] = some id) ∨
    ∃ row, OwnRow route past row ∧ slugField row triggerIdKeys = some id

/-- Nothing is posted before the owner of the connection was read, and is the entity. -/
def mayUpsert (route : Route) (connectionId : Option String) (past : Past) : Request → Prop
  | .get _ => True
  | .post _ _ => ∀ id, connectionId = some id → OwnerRead id route.entityId past
  | .delete _ => False

theorem yields_upsert (slug : String) (connectionId : Option String) (config : Option Json) :
    Yields (mayUpsert route connectionId)
    (fun later reply => IdFound route later reply.triggerId) past
      (upsert route slug connectionId config) := by
  have hget : ∀ past path, mayUpsert route connectionId past (.get path) := fun _ _ => trivial
  have howned : Yields (mayUpsert route connectionId) (fun later _ =>
      ∀ id, connectionId = some id → OwnerRead id route.entityId later) past
      (connectionId.elim (pure ()) (ensureOwned route)) := by
    cases connectionId with
    | none =>
      refine Yields.pure ?_
      intro id hid
      cases hid
    | some id =>
      refine (yields_ensureOwned hget id).mono ?_
      intro later _ hread id' hid
      cases hid
      exact hread
  -- the owner is read before anything is posted
  rw [upsert]
  refine Yields.bind ?_
  refine howned.mono ?_
  intro later _ hread _
  refine Yields.bind ?_
  refine Yields.liftExcept ?_
  intro named _ _
  refine Yields.bind ?_
  refine yields_call hread ?_
  intro value _
  dsimp only
  split
  · next id hid =>
    refine Yields.pure ?_
    exact .inl ⟨_, _, value, List.mem_append_right _ (List.mem_singleton_self _), hid⟩
  · refine Yields.bind ?_
    refine (yields_findActiveTrigger hget slug connectionId config).mono ?_
    intro last found hfound _
    split
    · next id => exact Yields.pure (.inr (hfound id rfl))
    · exact Yields.throw _

end Upsert

/-! ## Listing and removing -/

section Listing

variable {may : Past → Request → Prop} {past : Past} {route : Route}

theorem yields_lookupAccounts (hget : ∀ past path, may past (.get path)) (wanted : Bool) :
    Yields may (fun _ _ => True) past (lookupAccounts wanted) := by
  cases wanted with
  | false => exact Yields.pure trivial
  | true =>
    rw [lookupAccounts]
    refine Yields.bind ?_
    refine Yields.attempt ?_
    refine (yields_listPages fun past cursor => hget past _).ensures.mono ?_
    intro later outcome _ _
    split
    · exact Yields.pure trivial
    · exact Yields.pure trivial

theorem yields_listTriggers (hget : ∀ past path, may past (.get path)) (toolkit : Option String) :
    Yields may (fun later triggers => ∀ trigger ∈ triggers, ∃ row connectionToolkits,
      OwnRow route later row ∧ activeTriggerFromV3 row toolkit connectionToolkits =
        some trigger) past
      (listTriggers route toolkit) := by
  rw [listTriggers]
  refine Yields.bind ?_
  refine Yields.liftExcept ?_
  intro _ _ _
  refine Yields.bind ?_
  refine (yields_listPages fun past cursor => hget past _).mono ?_
  intro later listed hlisted _
  refine Yields.bind ?_
  refine (yields_lookupAccounts hget _).mono ?_
  intro last accounts _ hle
  refine Yields.pure ?_
  intro trigger htrigger
  obtain ⟨row, hrow, htranslated⟩ := List.mem_filterMap.mp htrigger
  obtain ⟨hmem, howned⟩ := List.mem_filter.mp hrow
  exact ⟨row, _, ownRow_of_ownedBy ((hlisted row hmem).mono hle) howned, htranslated⟩

/-- Only what a reply listed as the entity's is removed. -/
def mayRemove (route : Route) (triggerId : String) (past : Past) : Request → Prop
  | .get _ => True
  | .post _ _ => False
  | .delete path => path = "/trigger_instances/manage/" ++ encode triggerId ∧
    ∃ value, (Request.get (lookupPath route triggerId), Answer.replied (.ok value)) ∈ past ∧
      ∃ row ∈ rowsOf value, slugField row triggerIdKeys = some triggerId ∧
        slugField row ownerKeys = some route.entityId

theorem isOwnTrigger_iff {triggerId : String} {row : Json} :
    isOwnTrigger route triggerId row = true ↔
      slugField row triggerIdKeys = some triggerId ∧
        slugField row ownerKeys = some route.entityId := by
  rw [isOwnTrigger, Bool.and_eq_true, decide_eq_true_iff, namesOwner]
  cases slugField row ownerKeys with
  | none => simp
  | some owner => simp

theorem yields_disableTrigger (id : String) :
    Yields (mayRemove route (trim id)) (fun _ _ => True) past (disableTrigger route id) := by
  rw [disableTrigger]
  generalize trim id = triggerId
  refine Yields.bind ?_
  refine Yields.liftExcept ?_
  intro _ _ _
  refine Yields.bind ?_
  refine yields_call trivial ?_
  intro value _
  split_ifs with hown
  · obtain ⟨row, hrow, hmine⟩ := List.any_eq_true.mp hown
    have hlisted : (Request.get (lookupPath route triggerId), Answer.replied (.ok value)) ∈
        past ++ [(Request.get (lookupPath route triggerId), Answer.replied (.ok value))] :=
      List.mem_append_right _ (List.mem_singleton_self _)
    refine Yields.bind ?_
    refine Yields.liftExcept ?_
    intro named hnamed _
    refine Yields.bind ?_
    refine yields_call ?_ ?_
    · rw [eq_encode_of_segment hnamed]
      exact ⟨rfl, value, hlisted, row, hrow, isOwnTrigger_iff.mp hmine⟩
    · intro _ _
      exact Yields.pure trivial
  · exact Yields.throw _

end Listing

/-! ## Every run -/

/-- The members act on nothing but the entity's own, in every run of theirs. -/
structure ActsForEntity (route : Route) : Prop where
  /-- Creating on a connection posts only after its owner was read. -/
  create : ∀ slug connectionId config answers before path body answer later,
    (createTrigger route slug (some connectionId) config).run.exchanges answers =
      before ++ (.post path body, answer) :: later →
    OwnerRead connectionId route.entityId before
  /-- So does enabling. -/
  enable : ∀ connectionId slug config answers before path body answer later,
    (enableTrigger route connectionId slug config).run.exchanges answers =
      before ++ (.post path body, answer) :: later →
    OwnerRead connectionId route.entityId before
  /-- Only what a reply listed as the entity's is deleted. -/
  disable : ∀ id answers before path answer later,
    (disableTrigger route id).run.exchanges answers = before ++ (.delete path, answer) :: later →
    path = "/trigger_instances/manage/" ++ encode (trim id) ∧
      ∃ value, (Request.get (lookupPath route (trim id)), Answer.replied (.ok value)) ∈ before ∧
        ∃ row ∈ rowsOf value, slugField row triggerIdKeys = some (trim id) ∧
          slugField row ownerKeys = some route.entityId
  /-- A listed trigger is the translation of a row of nobody else. -/
  list : ∀ toolkit answers triggers,
    (listTriggers route toolkit).run.result answers = some (.ok triggers) →
    ∀ trigger ∈ triggers, ∃ row connectionToolkits,
      OwnRow route ((listTriggers route toolkit).run.exchanges answers) row ∧
        activeTriggerFromV3 row toolkit connectionToolkits = some trigger
  /-- The id of a created trigger was on the reply, or on a row of nobody else. -/
  created : ∀ slug connectionId config answers reply,
    (createTrigger route slug connectionId config).run.result answers = some (.ok reply) →
    IdFound route ((createTrigger route slug connectionId config).run.exchanges answers)
      reply.triggerId
  enabled : ∀ connectionId slug config answers reply,
    (enableTrigger route connectionId slug config).run.result answers = some (.ok reply) →
    IdFound route ((enableTrigger route connectionId slug config).run.exchanges answers)
      reply.triggerId
  /-- With webhooks off nothing is sent. -/
  off : route.webhooks = false → ∀ answers,
    (∀ slug connectionId config,
      (createTrigger route slug connectionId config).run.exchanges answers = []) ∧
    (∀ connectionId slug config,
      (enableTrigger route connectionId slug config).run.exchanges answers = []) ∧
    (∀ id, (disableTrigger route id).run.exchanges answers = []) ∧
    ∀ toolkit, (listTriggers route toolkit).run.exchanges answers = []

variable {route : Route} {past : Past}

theorem yields_createTrigger (slug : String) (connectionId : Option String) (config : Option Json) :
    Yields (mayUpsert route connectionId)
    (fun later reply => IdFound route later reply.triggerId) past
      (createTrigger route slug connectionId config) := by
  rw [createTrigger]
  refine Yields.bind ?_
  refine Yields.liftExcept ?_
  intro _ _ _
  exact yields_upsert slug connectionId config

theorem yields_enableTrigger (connectionId slug : String) (config : Option Json) :
    Yields (mayUpsert route (some connectionId))
    (fun later reply => IdFound route later reply.triggerId)
      past (enableTrigger route connectionId slug config) := by
  rw [enableTrigger]
  refine Yields.bind ?_
  refine Yields.liftExcept ?_
  intro _ _ _
  refine Yields.bind ?_
  refine (yields_upsert slug (some connectionId) config).mono ?_
  intro later reply hfound _
  exact Yields.pure hfound

/-- A member that refuses makes no call. -/
theorem exchanges_requireWebhooks {α : Type} (hoff : route.webhooks = false) (member : String)
    (rest : Unit → Calls α) (answers : List Answer) :
    (liftM (requireWebhooks route member) >>= rest : Calls α).run.exchanges answers = [] := by
  rw [requireWebhooks, hoff]
  rfl

/-- Whatever the server answers, what a trigger call sends and returns belongs to the route's
entity, and with webhooks off nothing is sent at all. -/
theorem actsForEntity (route : Route) : ActsForEntity route where
  create slug connectionId config _ _ _ _ _ _ hrun :=
    (yields_createTrigger slug (some connectionId) config).may_of_exchanges hrun connectionId rfl
  enable connectionId slug config _ _ _ _ _ _ hrun :=
    (yields_enableTrigger connectionId slug config).may_of_exchanges hrun connectionId rfl
  disable id _ _ _ _ _ hrun :=
    (yields_disableTrigger id).may_of_exchanges hrun
  list toolkit _ _ hrun :=
    (yields_listTriggers (fun _ _ => trivial) toolkit :
      Yields (fun _ _ => True) _ [] _).good_of_result hrun
  created slug connectionId config _ _ hrun :=
    (yields_createTrigger slug connectionId config).good_of_result hrun
  enabled connectionId slug config _ _ hrun :=
    (yields_enableTrigger connectionId slug config).good_of_result hrun
  off hoff answers :=
    ⟨fun _ _ _ => exchanges_requireWebhooks hoff _ _ answers,
      fun _ _ _ => exchanges_requireWebhooks hoff _ _ answers,
      fun _ => exchanges_requireWebhooks hoff _ _ answers,
      fun _ => exchanges_requireWebhooks hoff _ _ answers⟩

end Direct
