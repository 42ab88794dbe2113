/-
# The handoff of an authorize

`client/composio.rs`, `oauth/status.rs`, `oauth/retry.rs`: before a Meta-hosted toolkit is
authorized its abandoned rows are deleted, as far as that goes, and a handoff that meets a
rate limit is tried again.  A run is what it has asked the route for, each request with
its answer; the listing, the deletions and the handoffs may fail in any pattern.
-/
import TinyConnectors.Client.Authorize
import TinyConnectors.Direct.Route
import TinyConnectors.Requests

namespace Client

open RustStr

/-! ## Statuses -/

/-- Toolkits whose OAuth flows are hosted by Meta and share its rate limits. -/
def META_OAUTH_TOOLKITS : List String := ["instagram", "facebook"]

def isMetaOauthToolkit (toolkit : String) : Bool :=
  META_OAUTH_TOOLKITS.contains (toAsciiLowercase (trim toolkit))

/-- A handoff that may still become active on its own. -/
def isInflightOauthStatus (status : String) : Bool :=
  ["PENDING", "INITIATED", "INITIALIZING"].contains (toAsciiUppercase (trim status))

/-- A status a row may be deleted with before a fresh handoff. -/
def isClearableOauthStatus (status : String) : Bool :=
  let upper := toAsciiUppercase (trim status)
  isInflightOauthStatus status || ["FAILED", "ERROR", "EXPIRED"].contains upper

/-- A rendered failure that looks like upstream rate limiting. -/
def isAuthorizeRateLimited (err : String) : Bool :=
  let lower := toAsciiLowercase err
  contains lower "429" || contains lower "too many requests" || contains lower "rate limit" ||
    contains lower "rate_limit" || contains lower "ratelimited"

/-! ## The calls -/

/-- `DELETE /agent-integrations/composio/connections/:id`. -/
structure ComposioDeleteResponse where
  /-- Whether the connection row was removed. -/
  deleted : Bool

/-- What a handoff asks the route for, and the sleep between two of them. -/
inductive RouteCall where
  | listConnections
  | deleteConnection (connectionId : String)
  | authorize (toolkit : String) (body : Json)
  | sleep (seconds : ℕ)

/-- What the route has for the next call, of whichever kind it is. -/
structure RouteReply where
  listing : Except Direct.Error (List ComposioConnection)
  deletion : Except Direct.Error ComposioDeleteResponse
  handoff : Except Direct.Error Direct.ComposioAuthorizeResponse

abbrev Asking := Prog RouteCall RouteReply

namespace Route

def listConnections : Asking (Except Direct.Error (List ComposioConnection)) :=
  .ask .listConnections fun reply => .done reply.listing

def deleteConnection (connectionId : String) :
    Asking (Except Direct.Error ComposioDeleteResponse) :=
  .ask (.deleteConnection connectionId) fun reply => .done reply.deletion

def authorize (toolkit : String) (body : Json) :
    Asking (Except Direct.Error Direct.ComposioAuthorizeResponse) :=
  .ask (.authorize toolkit body) fun reply => .done reply.handoff

end Route

def sleep (seconds : ℕ) : Asking Unit := .ask (.sleep seconds) fun _ => .done ()

/-- The loop over the listed rows, with so many of them cleared. -/
def clearRows (wanted : String) : List ComposioConnection → ℕ → Asking ℕ
  | [], cleared => pure cleared
  | connection :: rest, cleared =>
    if connection.normalizedToolkit ≠ wanted || connection.isActive ||
        !isClearableOauthStatus connection.status then
      clearRows wanted rest cleared
    else do
      match ← Route.deleteConnection connection.id with
      -- counted also where the response says `deleted: false`
      | .ok _ => clearRows wanted rest (cleared + 1)
      -- logged, and the loop goes on
      | .error _ => clearRows wanted rest cleared

/-- Delete this toolkit's abandoned handoff rows, and report how many went. -/
def clearStaleHandoffs (toolkit : String) : Asking ℕ :=
  if !isMetaOauthToolkit toolkit then pure 0
  else do
    match ← Route.listConnections with
    -- without a listing nothing is cleared, and the handoff still starts
    | .error _ => pure 0
    | .ok connections => clearRows (toAsciiLowercase (trim toolkit)) connections 0

/-- `ComposioClient::authorize`. -/
def authorize (toolkit : String) (extraParams : Option Json) :
    Asking (Except Error Direct.ComposioAuthorizeResponse) :=
  match authorizeBody toolkit extraParams with
  | .error e => pure (.error e)
  | .ok body => do
    let _cleared ← clearStaleHandoffs (trim toolkit)
    let response ← Route.authorize (trim toolkit) (.obj body)
    pure (response.mapError .route)

/-! ## The retry -/

def AUTHORIZE_RATE_LIMIT_MAX_ATTEMPTS : ℕ := 3

/-- In seconds. -/
def AUTHORIZE_RATE_LIMIT_INITIAL_BACKOFF : ℕ := 5

@[inherit_doc AUTHORIZE_RATE_LIMIT_INITIAL_BACKOFF]
def AUTHORIZE_RATE_LIMIT_MAX_BACKOFF : ℕ := 60

section Retry

variable {T : Type} (attempt : Asking (Except Error T))

/-- So many attempts that may be followed by another one, and the last, which reports. -/
def attempts : ℕ → ℕ → Asking (Except Error T)
  | 0, _ => attempt
  | remaining + 1, delay => do
    match ← attempt with
    | .ok value => pure (.ok value)
    | .error error =>
      if !isAuthorizeRateLimited error.text then pure (.error error)
      else do
        sleep delay
        attempts remaining (min (delay * 2) AUTHORIZE_RATE_LIMIT_MAX_BACKOFF)

/-- Run `attempt` until it succeeds, is rejected for a reason other than rate limiting, or
has been run often enough. -/
def authorizeWithRateLimitRetry : Asking (Except Error T) :=
  attempts attempt (AUTHORIZE_RATE_LIMIT_MAX_ATTEMPTS - 1) AUTHORIZE_RATE_LIMIT_INITIAL_BACKOFF

end Retry

/-- The bus member's authorize. -/
def authorizeRetried (toolkit : String) (extraParams : Option Json) :
    Asking (Except Error Direct.ComposioAuthorizeResponse) :=
  authorizeWithRateLimitRetry (authorize toolkit extraParams)

/-! ## The cleanup -/

/-- The statuses a fresh handoff supersedes. -/
def CLEARABLE_STATUSES : List String :=
  ["PENDING", "INITIATED", "INITIALIZING", "FAILED", "ERROR", "EXPIRED"]

/-- A row a fresh handoff for the toolkit supersedes. -/
def Abandoned (toolkit : String) (connection : ComposioConnection) : Prop :=
  toAsciiLowercase (trim connection.toolkit) = toAsciiLowercase (trim toolkit) ∧
    connection.isActive = false ∧ toAsciiUppercase (trim connection.status) ∈ CLEARABLE_STATUSES

instance (toolkit : String) : DecidablePred (Abandoned toolkit) := fun connection =>
  inferInstanceAs (Decidable (_ ∧ connection.isActive = false ∧ _))

/-- The deletions a listing calls for. -/
def deletions (toolkit : String) (connections : List ComposioConnection) : List RouteCall :=
  (connections.filter (Abandoned toolkit)).map fun connection => .deleteConnection connection.id

/-- All a cleanup asks for, by what its listing comes to. -/
def cleanupCalls (toolkit : String) :
    Except Direct.Error (List ComposioConnection) → List RouteCall
  | .ok connections =>
    if isMetaOauthToolkit toolkit then .listConnections :: deletions toolkit connections else []
  | .error _ => if isMetaOauthToolkit toolkit then [.listConnections] else []

/-- A deletion the route has not failed at. -/
def succeeds : RouteCall × RouteReply → Bool
  | (.deleteConnection _, reply) => reply.deletion.isOk
  | _ => false

theorem isClearableOauthStatus_iff (status : String) :
    isClearableOauthStatus status = true ↔ toAsciiUppercase (trim status) ∈ CLEARABLE_STATUSES := by
  unfold isClearableOauthStatus isInflightOauthStatus CLEARABLE_STATUSES
  rw [Bool.or_eq_true, List.contains_iff_mem, List.contains_iff_mem, ← List.mem_append]
  rfl

/-- The loop passes over a row that is not abandoned. -/
theorem skips_iff (toolkit : String) (connection : ComposioConnection) :
    (connection.normalizedToolkit ≠ toAsciiLowercase (trim toolkit) || connection.isActive ||
      !isClearableOauthStatus connection.status) = true ↔ ¬ Abandoned toolkit connection := by
  rw [Abandoned, ← isClearableOauthStatus_iff]
  unfold ComposioConnection.normalizedToolkit
  cases connection.isActive <;> cases isClearableOauthStatus connection.status <;> simp

/-! A cleanup is for the toolkit without the white space around it. -/

theorem isMetaOauthToolkit_trim (toolkit : String) :
    isMetaOauthToolkit (trim toolkit) = isMetaOauthToolkit toolkit := by
  unfold isMetaOauthToolkit
  rw [trim_trim]

theorem abandoned_trim (toolkit : String) (connection : ComposioConnection) :
    Abandoned (trim toolkit) connection ↔ Abandoned toolkit connection := by
  unfold Abandoned
  rw [trim_trim]

theorem cleanupCalls_trim (toolkit : String)
    (listing : Except Direct.Error (List ComposioConnection)) :
    cleanupCalls (trim toolkit) listing = cleanupCalls toolkit listing := by
  have hdeletions : deletions (trim toolkit) = deletions toolkit := by
    funext connections
    have hfilter : connections.filter (Abandoned (trim toolkit)) =
        connections.filter (Abandoned toolkit) :=
      List.filter_congr fun connection _ => decide_eq_decide.mpr (abandoned_trim toolkit connection)
    unfold deletions
    rw [hfilter]
  cases listing with
  | error e => rw [cleanupCalls, cleanupCalls, isMetaOauthToolkit_trim]
  | ok connections => rw [cleanupCalls, cleanupCalls, isMetaOauthToolkit_trim, hdeletions]

section Rows

variable (toolkit : String) (answers : ℕ → RouteReply)

theorem clearRows_of_abandoned {connection : ComposioConnection} (h : Abandoned toolkit connection)
    (rest : List ComposioConnection) (cleared : ℕ) :
    clearRows (toAsciiLowercase (trim toolkit)) (connection :: rest) cleared =
      .ask (.deleteConnection connection.id) fun reply =>
        clearRows (toAsciiLowercase (trim toolkit)) rest
          (cleared + if reply.deletion.isOk then 1 else 0) := by
  rw [clearRows, if_neg ((skips_iff toolkit connection).not_left.mpr h)]
  show Prog.ask _ _ = _
  apply congrArg (Prog.ask _)
  funext reply
  obtain ⟨listing, deletion, handoff⟩ := reply
  cases deletion with
  | error e => rfl
  | ok response => rfl

theorem clearRows_of_not_abandoned {connection : ComposioConnection}
    (h : ¬ Abandoned toolkit connection) (rest : List ComposioConnection) (cleared : ℕ) :
    clearRows (toAsciiLowercase (trim toolkit)) (connection :: rest) cleared =
      clearRows (toAsciiLowercase (trim toolkit)) rest cleared := by
  rw [clearRows, if_pos ((skips_iff toolkit connection).mpr h)]

theorem deletions_of_abandoned {connection : ComposioConnection} (h : Abandoned toolkit connection)
    (rest : List ComposioConnection) : deletions toolkit (connection :: rest) =
      .deleteConnection connection.id :: deletions toolkit rest := by
  unfold deletions
  rw [List.filter_cons, if_pos (decide_eq_true h), List.map_cons]

theorem deletions_of_not_abandoned {connection : ComposioConnection}
    (h : ¬ Abandoned toolkit connection) (rest : List ComposioConnection) :
    deletions toolkit (connection :: rest) = deletions toolkit rest := by
  unfold deletions
  rw [List.filter_cons, if_neg (by rwa [decide_eq_true_eq])]

/-- The loop deletes the abandoned rows, whatever the deletions come to. -/
theorem transcript_clearRows (connections : List ComposioConnection) (cleared : ℕ) :
    ((clearRows (toAsciiLowercase (trim toolkit)) connections cleared).transcript answers).map
      Prod.fst = deletions toolkit connections := by
  induction connections generalizing cleared answers with
  | nil => rfl
  | cons connection rest ih =>
    by_cases h : Abandoned toolkit connection
    · rw [clearRows_of_abandoned toolkit h, Prog.transcript, List.map_cons, ih,
        deletions_of_abandoned toolkit h]
    · rw [clearRows_of_not_abandoned toolkit h, ih, deletions_of_not_abandoned toolkit h]

theorem outcome_clearRows (connections : List ComposioConnection) (cleared : ℕ) :
    (clearRows (toAsciiLowercase (trim toolkit)) connections cleared).outcome answers = cleared +
      ((clearRows (toAsciiLowercase (trim toolkit)) connections cleared).transcript answers).countP
        succeeds := by
  induction connections generalizing cleared answers with
  | nil => rfl
  | cons connection rest ih =>
    by_cases h : Abandoned toolkit connection
    · rw [clearRows_of_abandoned toolkit h, Prog.transcript, Prog.outcome, ih, List.countP_cons]
      show _ = cleared + (_ + if (answers 0).deletion.isOk then 1 else 0)
      omega
    · rw [clearRows_of_not_abandoned toolkit h]
      exact ih answers cleared

end Rows

section Cleanup

variable (toolkit : String) (answers : ℕ → RouteReply)

/-- The answer to the listing comes first, the deletions are answered behind it. -/
theorem clearStaleHandoffs_of_meta (h : isMetaOauthToolkit toolkit = true) :
    clearStaleHandoffs toolkit = .ask .listConnections fun reply =>
      match reply.listing with
      | .error _ => .done 0
      | .ok connections => clearRows (toAsciiLowercase (trim toolkit)) connections 0 := by
  unfold clearStaleHandoffs
  rw [h]
  rfl

theorem clearStaleHandoffs_of_not_meta (h : ¬ isMetaOauthToolkit toolkit = true) :
    clearStaleHandoffs toolkit = .done 0 := by
  unfold clearStaleHandoffs
  rw [Bool.eq_false_of_not_eq_true h]
  rfl

theorem cleanupCalls_of_not_meta (h : ¬ isMetaOauthToolkit toolkit = true)
    (listing : Except Direct.Error (List ComposioConnection)) :
    cleanupCalls toolkit listing = [] := by
  cases listing with
  | error e => rw [cleanupCalls, if_neg h]
  | ok connections => rw [cleanupCalls, if_neg h]

theorem transcript_clearStaleHandoffs :
    ((clearStaleHandoffs toolkit).transcript answers).map Prod.fst =
      cleanupCalls toolkit (answers 0).listing := by
  by_cases h : isMetaOauthToolkit toolkit = true
  · rw [clearStaleHandoffs_of_meta toolkit h, Prog.transcript, List.map_cons]
    cases (answers 0).listing with
    | error e =>
      rw [cleanupCalls, if_pos h]
      rfl
    | ok connections =>
      rw [cleanupCalls, if_pos h]
      show _ :: List.map Prod.fst (Prog.transcript (clearRows _ connections 0) _) = _
      rw [transcript_clearRows]
  · rw [clearStaleHandoffs_of_not_meta toolkit h, cleanupCalls_of_not_meta toolkit h]
    rfl

theorem outcome_clearStaleHandoffs : (clearStaleHandoffs toolkit).outcome answers =
    ((clearStaleHandoffs toolkit).transcript answers).countP succeeds := by
  by_cases h : isMetaOauthToolkit toolkit = true
  · rw [clearStaleHandoffs_of_meta toolkit h, Prog.transcript, Prog.outcome]
    cases (answers 0).listing with
    | error e => rfl
    | ok connections =>
      -- the listing itself is no deletion
      show (clearRows _ connections 0).outcome _ =
        List.countP succeeds (_ :: (clearRows _ connections 0).transcript _)
      rw [outcome_clearRows, Nat.zero_add, List.countP_cons_of_neg (by exact Bool.false_ne_true)]
  · rw [clearStaleHandoffs_of_not_meta toolkit h]
    rfl

end Cleanup

/-! ## The handoff -/

def RouteCall.isAuthorize : RouteCall → Bool
  | .authorize _ _ => true
  | _ => false

theorem isAuthorize_of_mem_cleanupCalls {toolkit : String} {call : RouteCall}
    {listing : Except Direct.Error (List ComposioConnection)}
    (h : call ∈ cleanupCalls toolkit listing) : call.isAuthorize = false := by
  have hlisting : RouteCall.isAuthorize .listConnections = false := rfl
  cases listing with
  | error e =>
    rw [cleanupCalls] at h
    split_ifs at h
    · rw [List.mem_singleton.mp h, hlisting]
    · cases h
  | ok connections =>
    rw [cleanupCalls] at h
    split_ifs at h
    · rcases List.mem_cons.mp h with rfl | h
      · exact hlisting
      · obtain ⟨connection, -, rfl⟩ := List.mem_map.mp h
        rfl
    · cases h

/-- No request of a cleanup is a handoff. -/
theorem isAuthorize_of_mem_cleanup {toolkit : String} {answers : ℕ → RouteReply}
    {exchange : RouteCall × RouteReply}
    (h : exchange ∈ (clearStaleHandoffs toolkit).transcript answers) :
    exchange.1.isAuthorize = false := by
  have hcall : exchange.1 ∈ cleanupCalls toolkit (answers 0).listing := by
    rw [← transcript_clearStaleHandoffs]
    exact List.mem_map_of_mem h
  exact isAuthorize_of_mem_cleanupCalls hcall

section Calls

variable {toolkit : String} {extraParams : Option Json} (answers : ℕ → RouteReply)

theorem authorize_of_refused {e : Error} (h : authorizeBody toolkit extraParams = .error e) :
    authorize toolkit extraParams = .done (.error e) := by
  unfold authorize
  rw [h]
  rfl

/-- A run of an accepted call is a cleanup and one handoff, which it comes to. -/
theorem exists_handoff {body : List (String × Json)}
    (h : authorizeBody toolkit extraParams = .ok body) : ∃ reply,
    (authorize toolkit extraParams).transcript answers =
      (clearStaleHandoffs (trim toolkit)).transcript answers ++
        [(.authorize (trim toolkit) (.obj body), reply)] ∧
    (authorize toolkit extraParams).outcome answers = reply.handoff.mapError .route := by
  unfold authorize
  rw [h]
  show ∃ reply, Prog.transcript (_ >>= _) answers = _ ∧ Prog.outcome (_ >>= _) answers = _
  rw [Prog.transcript_bind, Prog.outcome_bind]
  exact ⟨_, rfl, rfl⟩

/-- In any run of a call at most the last request is a handoff. -/
theorem authorize_last (toolkit : String) (extraParams : Option Json) (answers : ℕ → RouteReply) :
    (authorize toolkit extraParams).transcript answers = [] ∨
      ∃ before call reply,
        (authorize toolkit extraParams).transcript answers = before ++ [(call, reply)] ∧
        (∀ exchange ∈ before, ¬ exchange.1.isAuthorize = true) ∧
        (authorize toolkit extraParams).outcome answers = reply.handoff.mapError .route := by
  cases hbody : authorizeBody toolkit extraParams with
  | error e =>
    left
    rw [authorize_of_refused hbody]
    rfl
  | ok body =>
    right
    obtain ⟨reply, hrun, hend⟩ := exists_handoff answers hbody
    exact ⟨_, _, reply, hrun, fun exchange hmem =>
      Bool.eq_false_iff.mp (isAuthorize_of_mem_cleanup hmem), hend⟩

end Calls

/-! ## The tries -/

section Tries

variable {T : Type} {attempt : Asking (Except Error T)}

/-- What a retried attempt has exchanged, in so many tries: all but the last of them have
met a rate limit and are followed by a sleep. -/
inductive Tries (attempt : Asking (Except Error T)) : ℕ → List (RouteCall × RouteReply) → Prop
  | last (answers : ℕ → RouteReply) : Tries attempt 1 (attempt.transcript answers)
  | again {tries : ℕ} {rest : List (RouteCall × RouteReply)} (answers : ℕ → RouteReply) (e : Error)
      (hend : attempt.outcome answers = .error e) (hlimited : isAuthorizeRateLimited e.text = true)
      (seconds : ℕ) (woken : RouteReply) (hrest : Tries attempt tries rest) :
      Tries attempt (tries + 1) (attempt.transcript answers ++ (.sleep seconds, woken) :: rest)

theorem exists_tries (remaining delay : ℕ) (answers : ℕ → RouteReply) :
    ∃ tries ≤ remaining + 1,
      Tries attempt tries ((attempts attempt remaining delay).transcript answers) := by
  induction remaining generalizing delay answers with
  | zero => exact ⟨1, Nat.le_refl 1, .last answers⟩
  | succ remaining ih =>
    -- what the attempt comes to decides whether there is another try
    rw [attempts, Prog.transcript_bind]
    cases hend : attempt.outcome answers with
    | ok value =>
      refine ⟨1, by omega, ?_⟩
      show Tries attempt 1 (_ ++ [])
      rw [List.append_nil]
      exact .last answers
    | error e =>
      cases hlimited : isAuthorizeRateLimited e.text with
      | false =>
        refine ⟨1, by omega, ?_⟩
        simp only [hlimited, Bool.not_false, if_true]
        show Tries attempt 1 (_ ++ [])
        rw [List.append_nil]
        exact .last answers
      | true =>
        obtain ⟨tries, hle, hrest⟩ := ih (min (delay * 2) AUTHORIZE_RATE_LIMIT_MAX_BACKOFF) fun n =>
          answers (n + 1 + (attempt.transcript answers).length)
        refine ⟨tries + 1, by omega, ?_⟩
        simp only [hlimited, Bool.not_true]
        exact .again answers e hend hlimited delay _ hrest

end Tries

section Retried

variable {toolkit : String} {extraParams : Option Json} {tries : ℕ}
  {run : List (RouteCall × RouteReply)}

theorem countP_authorize_le (toolkit : String) (extraParams : Option Json)
    (answers : ℕ → RouteReply) :
    ((authorize toolkit extraParams).transcript answers).countP (·.1.isAuthorize) ≤ 1 := by
  rcases authorize_last toolkit extraParams answers with hrun
    | ⟨before, call, reply, hrun, hbefore, -⟩
  · rw [hrun]
    exact Nat.zero_le 1
  · have hnone : before.countP (·.1.isAuthorize) = 0 := List.countP_eq_zero.mpr hbefore
    rw [hrun, List.countP_append, hnone, Nat.zero_add]
    exact List.countP_le_length

/-- There are as many handoffs as tries, at most. -/
theorem Tries.countP_le (h : Tries (authorize toolkit extraParams) tries run) :
    run.countP (·.1.isAuthorize) ≤ tries := by
  induction h with
  | last answers => exact countP_authorize_le toolkit extraParams answers
  | @again tries rest answers e _ _ seconds woken _ ih =>
    have hfirst := countP_authorize_le toolkit extraParams answers
    rw [List.countP_append, List.countP_cons_of_neg (by exact Bool.false_ne_true)]
    omega

/-- The handoff was answered by a rate limit. -/
def Limited (reply : RouteReply) : Prop :=
  ∃ error, reply.handoff = .error error ∧ isAuthorizeRateLimited error.text = true

theorem limited_of_mem {answers : ℕ → RouteReply} {e : Error}
    (hend : (authorize toolkit extraParams).outcome answers = .error e)
    (hlimited : isAuthorizeRateLimited e.text = true) {exchange : RouteCall × RouteReply}
    (hmem : exchange ∈ (authorize toolkit extraParams).transcript answers)
    (hcall : exchange.1.isAuthorize = true) : Limited exchange.2 := by
  rcases authorize_last toolkit extraParams answers with
    hrun | ⟨before, call, reply, hrun, hbefore, hreply⟩
  · rw [hrun] at hmem
    cases hmem
  · rw [hrun] at hmem
    rcases List.mem_append.mp hmem with hmem | hmem
    · exact absurd hcall (hbefore exchange hmem)
    · rw [List.mem_singleton.mp hmem]
      rw [hend] at hreply
      cases hhandoff : reply.handoff with
      | ok response =>
        rw [hhandoff] at hreply
        cases hreply
      | error error =>
        rw [hhandoff] at hreply
        cases hreply
        exact ⟨error, hhandoff, hlimited⟩

theorem pairwise_authorize (answers : ℕ → RouteReply) :
    ((authorize toolkit extraParams).transcript answers).Pairwise fun earlier later =>
      earlier.1.isAuthorize = true → later.1.isAuthorize = true → Limited earlier.2 := by
  rcases authorize_last toolkit extraParams answers with hrun
    | ⟨before, call, reply, hrun, hbefore, -⟩
  · rw [hrun]
    exact .nil
  · rw [hrun]
    apply List.pairwise_append.mpr
    refine ⟨?_, List.pairwise_singleton _ _, ?_⟩
    · apply List.Pairwise.imp_of_mem (R := fun _ _ => True)
      · exact fun hmem _ _ hcall => absurd hcall (hbefore _ hmem)
      · exact List.pairwise_of_forall fun _ _ => trivial
    · exact fun earlier hmem _ _ hcall => absurd hcall (hbefore earlier hmem)

/-- Only a rate limit is followed by another handoff. -/
theorem Tries.pairwise (h : Tries (authorize toolkit extraParams) tries run) :
    run.Pairwise fun earlier later =>
      earlier.1.isAuthorize = true → later.1.isAuthorize = true → Limited earlier.2 := by
  induction h with
  | last answers => exact pairwise_authorize answers
  | again answers e hend hlimited seconds woken _ ih =>
    apply List.pairwise_append.mpr
    refine ⟨pairwise_authorize answers, ?_, ?_⟩
    · -- the sleep is no handoff; the tries after it have their own turn
      refine List.pairwise_cons.mpr ⟨?_, ih⟩
      intro later _ hcall
      cases hcall
    · intro earlier hmem later _ hcall _
      exact limited_of_mem hend hlimited hmem hcall

/-- The deletions of a run are of abandoned rows that it has listed. -/
def DeletesListed (toolkit : String) (run : List (RouteCall × RouteReply)) : Prop :=
  ∀ exchange ∈ run, ∀ id, exchange.1 = .deleteConnection id → isMetaOauthToolkit toolkit = true ∧
    ∃ reply connections connection, (.listConnections, reply) ∈ run ∧
      reply.listing = .ok connections ∧ connection ∈ connections ∧
        Abandoned toolkit connection ∧ connection.id = id

theorem deletesListed_cleanup (toolkit : String) (answers : ℕ → RouteReply) :
    DeletesListed toolkit ((clearStaleHandoffs toolkit).transcript answers) := by
  intro exchange hmem id hcall
  have hasked : .deleteConnection id ∈ cleanupCalls toolkit (answers 0).listing := by
    rw [← transcript_clearStaleHandoffs, ← hcall]
    exact List.mem_map_of_mem hmem
  by_cases hmeta : isMetaOauthToolkit toolkit = true
  · refine ⟨hmeta, answers 0, ?_⟩
    cases hlisting : (answers 0).listing with
    | error e =>
      rw [hlisting, cleanupCalls, if_pos hmeta] at hasked
      cases List.mem_singleton.mp hasked
    | ok connections =>
      rw [hlisting, cleanupCalls, if_pos hmeta] at hasked
      rcases List.mem_cons.mp hasked with hlist | hdeleted
      · cases hlist
      · obtain ⟨connection, hfilter, hid⟩ := List.mem_map.mp hdeleted
        obtain ⟨hconnection, habandoned⟩ := List.mem_filter.mp hfilter
        refine ⟨connections, connection, ?_, rfl, hconnection, of_decide_eq_true habandoned, ?_⟩
        · rw [clearStaleHandoffs_of_meta toolkit hmeta]
          exact List.mem_cons_self
        · exact RouteCall.deleteConnection.inj hid
  · rw [clearStaleHandoffs_of_not_meta toolkit hmeta] at hmem
    cases hmem

theorem deletesListed_authorize (answers : ℕ → RouteReply) :
    DeletesListed toolkit ((authorize toolkit extraParams).transcript answers) := by
  cases hbody : authorizeBody toolkit extraParams with
  | error e =>
    rw [authorize_of_refused hbody]
    exact fun exchange hmem => absurd hmem List.not_mem_nil
  | ok body =>
    obtain ⟨reply, hrun, -⟩ := exists_handoff answers hbody
    rw [hrun]
    intro exchange hmem id hcall
    rcases List.mem_append.mp hmem with hmem | hmem
    · obtain ⟨hmeta, reply, connections, connection, hlisted, hlisting, hconnection,
          habandoned, hid⟩ :=
        deletesListed_cleanup (trim toolkit) answers exchange hmem id hcall
      rw [isMetaOauthToolkit_trim] at hmeta
      rw [abandoned_trim] at habandoned
      exact ⟨hmeta, reply, connections, connection, List.mem_append_left _ hlisted, hlisting,
        hconnection, habandoned, hid⟩
    · rw [List.mem_singleton.mp hmem] at hcall
      cases hcall

theorem Tries.deletesListed (h : Tries (authorize toolkit extraParams) tries run) :
    DeletesListed toolkit run := by
  induction h with
  | last answers => exact deletesListed_authorize answers
  | again answers e _ _ seconds woken _ ih =>
    intro exchange hmem id hcall
    rcases List.mem_append.mp hmem with hmem | hmem
    · obtain ⟨hmeta, reply, connections, connection, hlisted, hrest⟩ :=
        deletesListed_authorize answers exchange hmem id hcall
      exact ⟨hmeta, reply, connections, connection, List.mem_append_left _ hlisted, hrest⟩
    · rcases List.mem_cons.mp hmem with rfl | hmem
      · cases hcall
      · obtain ⟨hmeta, reply, connections, connection, hlisted, hrest⟩ := ih exchange hmem id hcall
        exact ⟨hmeta, reply, connections, connection,
          List.mem_append_right _ (List.mem_cons_of_mem _ hlisted), hrest⟩

end Retried

/-- What an authorize owes the user whose handoff it starts, whatever fails. -/
structure HandsOff (toolkit : String) (extraParams : Option Json) : Prop where
  /-- An accepted call deletes the abandoned rows, each once, and then asks for one handoff. -/
  asks : ∀ body answers, authorizeBody toolkit extraParams = .ok body →
    ((authorize toolkit extraParams).transcript answers).map Prod.fst =
      cleanupCalls toolkit (answers 0).listing ++ [.authorize (trim toolkit) (.obj body)]
  /-- It comes to what that handoff comes to. -/
  ends : ∀ body answers, authorizeBody toolkit extraParams = .ok body → ∃ before call reply,
    (authorize toolkit extraParams).transcript answers = before ++ [(call, reply)] ∧
      (authorize toolkit extraParams).outcome answers = reply.handoff.mapError .route
  /-- The cleanup in it reports how many of its deletions have not failed. -/
  reports : ∀ body answers, authorizeBody toolkit extraParams = .ok body →
    (clearStaleHandoffs (trim toolkit)).outcome answers =
      ((authorize toolkit extraParams).transcript answers).countP succeeds
  /-- A refused call asks for nothing. -/
  refused : ∀ e answers, authorizeBody toolkit extraParams = .error e →
    (authorize toolkit extraParams).transcript answers = [] ∧
      (authorize toolkit extraParams).outcome answers = .error e
  /-- A retried call asks for three handoffs at most, -/
  bounded : ∀ answers,
    ((authorizeRetried toolkit extraParams).transcript answers).countP (·.1.isAuthorize) ≤ 3
  /-- and for another one only behind a rate limit. -/
  repeats : ∀ answers, ((authorizeRetried toolkit extraParams).transcript answers).Pairwise
    fun earlier later =>
      earlier.1.isAuthorize = true → later.1.isAuthorize = true → Limited earlier.2
  /-- Nothing else is deleted in any of its tries. -/
  deletes : ∀ answers,
    DeletesListed toolkit ((authorizeRetried toolkit extraParams).transcript answers)

/-- The cleanup deletes only abandoned rows and never blocks the handoff. -/
theorem handsOff (toolkit : String) (extraParams : Option Json) : HandsOff toolkit extraParams := by
  have htries : ∀ answers, ∃ tries ≤ 3, Tries (authorize toolkit extraParams) tries
      ((authorizeRetried toolkit extraParams).transcript answers) := fun answers =>
    exists_tries (AUTHORIZE_RATE_LIMIT_MAX_ATTEMPTS - 1)
      AUTHORIZE_RATE_LIMIT_INITIAL_BACKOFF answers
  constructor
  · intro body answers hbody
    obtain ⟨reply, hrun, -⟩ := exists_handoff answers hbody
    rw [hrun, List.map_append, transcript_clearStaleHandoffs, cleanupCalls_trim]
    rfl
  · intro body answers hbody
    obtain ⟨reply, hrun, hend⟩ := exists_handoff answers hbody
    exact ⟨_, _, reply, hrun, hend⟩
  · intro body answers hbody
    obtain ⟨reply, hrun, -⟩ := exists_handoff answers hbody
    have hlast : succeeds (.authorize (trim toolkit) (.obj body), reply) = false := rfl
    rw [outcome_clearStaleHandoffs, hrun, List.countP_append, List.countP_singleton, hlast,
      if_neg Bool.false_ne_true, Nat.add_zero]
  · intro e answers hbody
    rw [authorize_of_refused hbody]
    exact ⟨rfl, rfl⟩
  · intro answers
    obtain ⟨tries, hle, h⟩ := htries answers
    exact h.countP_le.trans hle
  · intro answers
    obtain ⟨tries, -, h⟩ := htries answers
    exact h.pairwise
  · intro answers
    obtain ⟨tries, -, h⟩ := htries answers
    exact h.deletesListed

end Client
