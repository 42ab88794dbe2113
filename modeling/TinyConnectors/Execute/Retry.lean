/-
# When an action is called again

`execute/retry.rs`: an action is prepared once and then called, again after
eight seconds where a fresh connection is reported not ready, and with growing
delays where an allow-listed action meets a rate limit.  A reply is what the
route came to: the provider's answer, or the error of never having got one.
-/
import TinyConnectors.Execute.Classify
import TinyConnectors.Payloads
import TinyConnectors.Prepare
import TinyConnectors.Requests

namespace Execute

open RustStr

/-- `POST_OAUTH_RETRY_DELAY`, in seconds. -/
def POST_OAUTH_RETRY_DELAY : ℕ := 8

/-- Actions whose upstream rate limits are retried. -/
def RATE_LIMIT_RETRY_TOOLS : List String := ["SLACK_FETCH_CONVERSATION_HISTORY"]

/-- Attempts for an allow-listed action, the first included. -/
def RATE_LIMIT_MAX_ATTEMPTS : ℕ := 6

@[inherit_doc POST_OAUTH_RETRY_DELAY] def RATE_LIMIT_INITIAL_BACKOFF : ℕ := 2
@[inherit_doc POST_OAUTH_RETRY_DELAY] def RATE_LIMIT_MAX_BACKOFF : ℕ := 30

/-- What a gateway says while a new token propagates. -/
def POST_OAUTH_NOT_READY : String := "connection error, try to authenticate"

/-- The places `route.execute` is called from. -/
inductive CallSite where
  | first
  | notReady
  | rateLimited
  /-- Behind the loop over the attempts. -/
  | afterLoop
  deriving DecidableEq

/-- One `route.execute`, with the seconds slept right before it. -/
structure Call where
  site : CallSite
  waited : ℕ
  tool : String
  arguments : Json
  connectionId : Option String

/-- What the route came to. -/
abbrev Reply (ε : Type) := Except ε ComposioExecuteResponse

def isPostOauthNotReady (response : ComposioExecuteResponse) : Bool :=
  !response.successful &&
    response.error.any fun error => contains (toAsciiLowercase error) POST_OAUTH_NOT_READY

/-- A reported failure as the user reads it. -/
def formatFailure (tool : String) (response : ComposioExecuteResponse) : ComposioExecuteResponse :=
  if response.successful then response
  else
    { response with
      error := some (formatProviderError tool (response.error.getD "provider reported failure")) }

section Program

variable {ε : Type}

/-- `route.execute`. -/
def execute (call : Call) : Prog Call (Reply ε) (Reply ε) := .ask call .done

variable (tool : String) (arguments : Json) (connectionId : Option String)

/-- The calls of one action differ in where they are made. -/
def callAt (site : CallSite) (waited : ℕ) : Call := ⟨site, waited, tool, arguments, connectionId⟩

/-- Retry exactly once when the gateway says a fresh connection is not ready. -/
def withPostOauthRetry : Prog Call (Reply ε) (Reply ε) := do
  match ← execute (callAt tool arguments connectionId .first 0) with
  | .error e => pure (.error e)
  | .ok response =>
    if isPostOauthNotReady response then
      execute (callAt tool arguments connectionId .notReady POST_OAUTH_RETRY_DELAY)
    else pure (.ok response)

/-- One attempt: the readiness retry belongs to the first. -/
def attempt (remaining waited : ℕ) : Prog Call (Reply ε) (Reply ε) :=
  if remaining + 1 = RATE_LIMIT_MAX_ATTEMPTS then withPostOauthRetry tool arguments connectionId
  else execute (callAt tool arguments connectionId .rateLimited waited)

/-- The loop over the attempts, with so many to go, and the call behind it. -/
def attempts : ℕ → ℕ → ℕ → Prog Call (Reply ε) (Reply ε)
  | 0, waited, _ => execute (callAt tool arguments connectionId .afterLoop waited)
  | remaining + 1, waited, delay => do
    match ← attempt tool arguments connectionId remaining waited with
    | .error e => pure (.error e)
    | .ok response =>
      if response.successful || !RATE_LIMIT_RETRY_TOOLS.contains tool || remaining = 0 then
        pure (.ok response)
      else if classifyComposioError tool (response.error.getD "") ≠ .RateLimited then
        pure (.ok response)
      else attempts remaining delay (min (delay * 2) RATE_LIMIT_MAX_BACKOFF)

/-- Retry an allow-listed action while the upstream reports a rate limit. -/
def withRateLimitRetry : Prog Call (Reply ε) (Reply ε) :=
  attempts tool arguments connectionId RATE_LIMIT_MAX_ATTEMPTS 0 RATE_LIMIT_INITIAL_BACKOFF

end Program

/-- Why `execute_action` gives no response. -/
inductive Failure (ε : Type) where
  | invalid (fault : InvalidArguments)
  | route (e : ε)

/-- What is left of a connection id. -/
def namedConnection (connectionId : Option String) : Option String :=
  (connectionId.map trim).filter (!·.isEmpty)

/-- `execute_action`. -/
def executeAction {ε : Type} (tool : String) (arguments : Option Json)
    (connectionId : Option String) :
    Prog Call (Reply ε) (Except (Failure ε) ComposioExecuteResponse) :=
  match prepareExecuteArguments (trim tool) arguments with
  | .error fault => pure (.error (.invalid fault))
  | .ok prepared => do
    let reply ← withRateLimitRetry (trim tool) prepared (namedConnection connectionId)
    pure ((reply.mapError .route).map (formatFailure (trim tool)))

/-! ## The policy -/

section Policy

variable {ε : Type}

/-- A reply after which the route may be called again, where `before` calls came
before the one that was answered. -/
def MayRepeat (tool : String) (before : ℕ) (reply : Reply ε) : Prop :=
  ∃ response, reply = .ok response ∧ response.successful = false ∧
    ((before = 0 ∧ isPostOauthNotReady response = true) ∨
      (tool ∈ RATE_LIMIT_RETRY_TOOLS ∧
        classifyComposioError tool (response.error.getD "") = .RateLimited))

/-- How often an action is called at most. -/
def maxCalls (tool : String) : ℕ := if tool ∈ RATE_LIMIT_RETRY_TOOLS then 7 else 2

/-- A call that may follow these exchanges. -/
structure MayCall (tool : String) (arguments : Json) (connectionId : Option String)
    (past : List (Call × Reply ε)) (call : Call) : Prop where
  same : call.tool = tool ∧ call.arguments = arguments ∧ call.connectionId = connectionId
  reached : call.site ≠ .afterLoop
  bounded : past.length < maxCalls tool
  justified : ∀ before last, past = before ++ [last] → MayRepeat tool before.length last.2

/-- The result is the last reply. -/
def LastReply (past : List (Call × Reply ε)) (reply : Reply ε) : Prop :=
  ∃ before call, past = before ++ [(call, reply)]

variable {tool : String} {arguments : Json} {connectionId : Option String}
  {past : List (Call × Reply ε)}

theorem ensures_execute {call : Call} (h : MayCall tool arguments connectionId past call) :
    Prog.Ensures (MayCall tool arguments connectionId)
      (fun later reply => later.length = past.length + 1 ∧ LastReply later reply) past
      (execute call) := by
  refine ⟨h, fun reply => ?_⟩
  exact ⟨by simp, past, call, rfl⟩

theorem two_le_maxCalls (tool : String) : 2 ≤ maxCalls tool := by
  unfold maxCalls
  split
  · omega
  · omega

/-- The first attempt: one call, or two. -/
theorem ensures_withPostOauthRetry :
    Prog.Ensures (MayCall tool arguments connectionId)
      (fun later (reply : Reply ε) => later.length ≤ 2 ∧ LastReply later reply) []
      (withPostOauthRetry tool arguments connectionId) := by
  have htwo := two_le_maxCalls tool
  have hfirst : MayCall (ε := ε) tool arguments connectionId []
      (callAt tool arguments connectionId .first 0) := by
    refine ⟨⟨rfl, rfl, rfl⟩, by simp [callAt], ?_, by simp⟩
    rw [List.length_nil]
    omega
  apply Prog.Ensures.andThen
  refine (ensures_execute hfirst).mono ?_
  rintro later reply ⟨hlen, before, call, rfl⟩
  obtain rfl : before = [] := by simpa using hlen
  rcases reply with e | response
  · exact ⟨by simp, [], call, rfl⟩
  by_cases hready : isPostOauthNotReady response = true
  · simp only [hready, if_true]
    -- the second call has the first one, and its "not ready", before it
    have hagain : MayCall (ε := ε) tool arguments connectionId [(call, .ok response)]
        (callAt tool arguments connectionId .notReady POST_OAUTH_RETRY_DELAY) := by
      refine ⟨⟨rfl, rfl, rfl⟩, by simp [callAt], ?_, ?_⟩
      · rw [List.length_singleton]
        omega
      · intro before last hsplit
        obtain ⟨rfl, rfl⟩ : before = [] ∧ last = (call, .ok response) := by
          rcases before with _ | ⟨x, before⟩
          · simpa [eq_comm] using hsplit
          · simp at hsplit
        refine ⟨response, rfl, ?_, Or.inl ⟨rfl, hready⟩⟩
        rw [isPostOauthNotReady, Bool.and_eq_true] at hready
        simpa using hready.1
    refine (ensures_execute hagain).mono ?_
    rintro later reply ⟨hlen, hlast⟩
    exact ⟨hlen.le, hlast⟩
  · simp only [hready]
    exact ⟨by simp, [], call, rfl⟩

/-- The exchanges before an attempt with so many to follow: none before the first,
and a rate limit that is retried before the others. -/
inductive Ready (tool : String) (remaining : ℕ) (past : List (Call × Reply ε)) : Prop
  | first (hfirst : remaining + 1 = RATE_LIMIT_MAX_ATTEMPTS) (hpast : past = [])
  | again (hagain : remaining + 1 < RATE_LIMIT_MAX_ATTEMPTS) (htool : tool ∈ RATE_LIMIT_RETRY_TOOLS)
      (hlen : past.length + remaining + 1 ≤ 7) (before : List (Call × Reply ε)) (call : Call)
      (response : ComposioExecuteResponse) (hpast : past = before ++ [(call, .ok response)])
      (hfailed : response.successful = false)
      (hlimited : classifyComposioError tool (response.error.getD "") = .RateLimited)

theorem Ready.le {remaining : ℕ} (h : Ready tool remaining past) :
    remaining + 1 ≤ RATE_LIMIT_MAX_ATTEMPTS := by
  cases h with
  | first hfirst hpast => exact hfirst.le
  | again hagain _ _ _ _ _ _ _ _ => exact hagain.le

/-- One attempt leaves room for those to follow. -/
theorem ensures_attempt {remaining : ℕ} (waited : ℕ) (h : Ready tool remaining past) :
    Prog.Ensures (MayCall tool arguments connectionId)
      (fun later (reply : Reply ε) => later.length + remaining ≤ 7 ∧ LastReply later reply) past
      (attempt tool arguments connectionId remaining waited) := by
  cases h with
  | first hfirst hpast =>
    subst hpast
    rw [attempt, if_pos hfirst]
    refine ensures_withPostOauthRetry.mono ?_
    rintro later reply ⟨hlen, hlast⟩
    refine ⟨?_, hlast⟩
    rw [RATE_LIMIT_MAX_ATTEMPTS] at hfirst
    omega
  | again hagain htool hlen before call response hpast hfailed hlimited =>
    have hcall : MayCall tool arguments connectionId past
        (callAt tool arguments connectionId .rateLimited waited) := by
      refine ⟨⟨rfl, rfl, rfl⟩, by simp [callAt], ?_, ?_⟩
      · rw [maxCalls, if_pos htool]
        omega
      · intro before' last hsplit
        obtain ⟨_, hsame⟩ := List.append_inj' (hpast.symm.trans hsplit) rfl
        obtain rfl : (call, .ok response) = last := List.singleton_inj.mp hsame
        exact ⟨response, rfl, hfailed, Or.inr ⟨htool, hlimited⟩⟩
    rw [attempt, if_neg hagain.ne]
    refine (ensures_execute hcall).mono ?_
    rintro later reply ⟨hlater, hlast⟩
    exact ⟨by omega, hlast⟩

theorem ensures_attempts {remaining : ℕ} (waited delay : ℕ) (h : Ready tool remaining past) :
    Prog.Ensures (MayCall tool arguments connectionId) (LastReply (ε := ε)) past
      (attempts tool arguments connectionId (remaining + 1) waited delay) := by
  induction remaining generalizing past waited delay with
  | zero =>
    rw [attempts]
    apply Prog.Ensures.andThen
    refine (ensures_attempt waited h).mono ?_
    rintro later (e | response) ⟨_, hlast⟩
    · exact hlast
    · simp only [decide_true, Bool.or_true, if_true]
      exact hlast
  | succ remaining ih =>
    rw [attempts]
    apply Prog.Ensures.andThen
    refine (ensures_attempt waited h).mono ?_
    rintro later (e | response) ⟨hlen, hlast⟩
    · exact hlast
    show Prog.Ensures _ _ later (if _ then _ else _)
    generalize hretry : (response.successful || !RATE_LIMIT_RETRY_TOOLS.contains tool ||
      decide (remaining + 1 = 0)) = stop
    cases stop with
    | true =>
      rw [if_pos rfl]
      exact hlast
    | false =>
      rw [if_neg Bool.false_ne_true]
      generalize hclass : classifyComposioError tool (response.error.getD "") = outcome
      split_ifs with hother
      · exact hlast
      · -- the attempt met a rate limit, and the next one may be made
        simp only [Bool.or_eq_false_iff, Bool.not_eq_false'] at hretry
        obtain ⟨before, call, rfl⟩ := hlast
        refine ih delay _ (.again ?_ ?_ (by omega) before call response rfl ?_ ?_)
        · have hle := h.le
          omega
        · simpa using hretry.1.2
        · exact hretry.1.1
        · rw [hclass]
          exact not_not.mp hother

/-- The calls of a prepared action and what it comes to. -/
structure Justified (tool : String) (arguments : Json) (connectionId : Option String)
    (trace : List (Call × Reply ε)) (result : Except (Failure ε) ComposioExecuteResponse) :
    Prop where
  /-- Every call carries the same tool, arguments and connection. -/
  same : ∀ exchange ∈ trace, exchange.1.tool = tool ∧ exchange.1.arguments = arguments ∧
    exchange.1.connectionId = connectionId
  /-- The call behind the loop is never made. -/
  reached : ∀ exchange ∈ trace, exchange.1.site ≠ .afterLoop
  bounded : trace.length ≤ maxCalls tool
  /-- Only a failure is followed by another call, and only one that may be. -/
  justified : ∀ before exchange later, trace = before ++ exchange :: later → later ≠ [] →
    MayRepeat tool before.length exchange.2
  /-- The result is the last reply, of which only a failure's text is changed. -/
  result_eq : ∃ before call reply, trace = before ++ [(call, reply)] ∧
    ((∃ e, reply = .error e ∧ result = .error (.route e)) ∨
      (∃ response, reply = .ok response ∧ response.successful = true ∧ result = .ok response) ∨
      ∃ response, reply = .ok response ∧ response.successful = false ∧
        result = .ok { response with error := some (formatProviderError tool
          (response.error.getD "provider reported failure")) })

/-- What one run of `execute_action` is: refused arguments are never sent. -/
def FollowsPolicy (tool : String) (arguments : Option Json) (connectionId : Option String)
    (replies : ℕ → Reply ε) : Prop :=
  match prepareExecuteArguments (trim tool) arguments with
  | .error fault =>
    (executeAction tool arguments connectionId).transcript replies = [] ∧
      (executeAction tool arguments connectionId).outcome replies = .error (.invalid fault)
  | .ok prepared =>
    Justified (trim tool) prepared (namedConnection connectionId)
      ((executeAction tool arguments connectionId).transcript replies)
      ((executeAction tool arguments connectionId).outcome replies)

/-- The exchanges and the result of an action whose arguments were accepted. -/
theorem ensures_executeAction {tool : String} {arguments : Option Json}
    (connectionId : Option String) {prepared : Json}
    (hprepared : prepareExecuteArguments (trim tool) arguments = .ok prepared) :
    Prog.Ensures (MayCall (trim tool) prepared (namedConnection connectionId))
      (fun past result => ∃ reply, LastReply past reply ∧
        result = (reply.mapError Failure.route).map (formatFailure (trim tool)))
      [] (executeAction (ε := ε) tool arguments connectionId) := by
  simp only [executeAction, hprepared]
  apply Prog.Ensures.andThen
  refine (ensures_attempts 0 RATE_LIMIT_INITIAL_BACKOFF (.first rfl rfl)).mono ?_
  intro past reply hlast
  exact ⟨reply, hlast, rfl⟩

/-- An action that succeeds at once is called once. -/
theorem executeAction_of_successful {tool : String} {arguments : Option Json}
    (connectionId : Option String) {prepared : Json}
    (hprepared : prepareExecuteArguments (trim tool) arguments = .ok prepared)
    {response : ComposioExecuteResponse} (hsuccess : response.successful = true) :
    ∃ next, executeAction (ε := ε) tool arguments connectionId =
      .ask (callAt (trim tool) prepared (namedConnection connectionId) .first 0) next ∧
        next (.ok response) = .done (.ok response) := by
  have hready : isPostOauthNotReady response = false := by
    rw [isPostOauthNotReady, hsuccess]
    rfl
  have hformat : formatFailure (trim tool) response = response := by
    rw [formatFailure, if_pos hsuccess]
  rw [executeAction, hprepared]
  refine ⟨_, rfl, ?_⟩
  show Prog.bind (Prog.bind (if isPostOauthNotReady response then _ else _) _) _ = _
  rw [hready]
  show Prog.bind (if response.successful || _ || _ then _ else _) _ = _
  rw [hsuccess]
  show Prog.done (Except.ok (formatFailure (trim tool) response)) = _
  rw [hformat]

/-- Whatever the route replies, an action is called again only where the policy
says so, and the last reply is the result. -/
theorem followsPolicy (tool : String) (arguments : Option Json) (connectionId : Option String)
    (replies : ℕ → Reply ε) : FollowsPolicy tool arguments connectionId replies := by
  unfold FollowsPolicy
  rcases hprepared : prepareExecuteArguments (trim tool) arguments with fault | prepared
  · simp only [executeAction, hprepared]
    exact ⟨rfl, rfl⟩
  obtain ⟨hmay, reply, ⟨before, call, htrace⟩, hresult⟩ :=
    (ensures_executeAction connectionId hprepared).transcript replies
  rw [List.nil_append] at htrace
  simp only [List.nil_append] at hmay
  refine ⟨?_, ?_, ?_, ?_, before, call, reply, htrace, ?_⟩
  · intro exchange hmem
    obtain ⟨earlier, later, hsplit⟩ := List.append_of_mem hmem
    exact (hmay earlier exchange later hsplit).same
  · intro exchange hmem
    obtain ⟨earlier, later, hsplit⟩ := List.append_of_mem hmem
    exact (hmay earlier exchange later hsplit).reached
  · have hbound := (hmay before (call, reply) [] htrace).bounded
    rw [htrace, List.length_append, List.length_singleton]
    exact hbound
  · intro earlier exchange later hsplit hne
    obtain ⟨next, rest, rfl⟩ := List.exists_cons_of_ne_nil hne
    -- the exchange is the last one before the call that follows it
    refine (hmay (earlier ++ [exchange]) next rest ?_).justified earlier exchange rfl
    rw [hsplit, List.append_assoc, List.singleton_append]
  · rw [hresult]
    rcases reply with e | response
    · exact Or.inl ⟨e, rfl, rfl⟩
    · right
      rcases hsuccess : response.successful with _ | _
      · refine Or.inr ⟨response, rfl, hsuccess, ?_⟩
        show Except.ok (formatFailure (trim tool) response) = _
        rw [formatFailure, if_neg (by simp [hsuccess])]
      · refine Or.inl ⟨response, rfl, hsuccess, ?_⟩
        show Except.ok (formatFailure (trim tool) response) = _
        rw [formatFailure, if_pos hsuccess]

end Policy

end Execute
