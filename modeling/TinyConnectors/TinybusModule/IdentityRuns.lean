/-
# What an identity read does

`get_user_profile` and `refresh_all_identities`: whatever the route answers and whichever
route that is by then, a refresh asks for nothing but the listing and, for each active
connection of it, the profile action of its toolkit on that very connection; and it answers
with each active connection once, in the order of the listing, as the profile in an answer
of its provider or as the failure that kept it from being read.
-/
import TinyConnectors.TinybusModule.MemberRuns

open RustStr Client Session Await

namespace Members

variable {R : Type}

/-! ## One identity -/

/-- The request that reads the identity of a connection. -/
def identityRequest (reader : Identity.Reader) (connectionId : String) : RouteRequest :=
  .execute reader.profileAction (.obj []) (Execute.namedConnection (some connectionId))

/-- What an identity read asks for besides the client: the profile action of one connection. -/
def MayRead (toolkit connectionId : String) (past : List (Exchange R)) : ServiceCall R → Prop
  | .client => True
  | .route client request => Has past client ∧ ∃ reader, Identity.readerOf toolkit = some reader ∧
    request = identityRequest reader connectionId
  | _ => False

/-- Over `client` the provider of the connection answered `reply`. -/
def AnsweredBy (past : List (Exchange R)) (reader : Identity.Reader) (connectionId : String)
    (client : R) (reply : ServiceReply R) : Prop :=
  Has past client ∧ (.route client (identityRequest reader connectionId), reply) ∈ past

/-- What was found out about a connection, and from which answer. -/
inductive Found (past : List (Exchange R)) (toolkit connectionId : String) :
    Except MemberError Identity.UserProfile → Prop where
  /-- No provider reads this toolkit, and nothing is asked for. -/
  | noProvider (h : Identity.readerOf toolkit = none) :
      Found past toolkit connectionId (.error (noProvider toolkit))
  | noRoute {reader : Identity.Reader} {reply : ServiceReply R}
      (hreader : Identity.readerOf toolkit = some reader) (hmem : (.client, reply) ∈ past)
      (hnone : reply.client = none) :
      Found past toolkit connectionId (.error (.action reader.profileAction .noRoute))
  | failed {reader : Identity.Reader} {client : R} {reply : ServiceReply R} {error : Direct.Error}
      (hreader : Identity.readerOf toolkit = some reader)
      (hanswered : AnsweredBy past reader connectionId client reply)
      (herror : reply.executed = .error error) :
      Found past toolkit connectionId (.error (.action reader.profileAction (.call (.route error))))
  | refused {reader : Identity.Reader} {client : R} {reply : ServiceReply R}
      {response : ComposioExecuteResponse} (hreader : Identity.readerOf toolkit = some reader)
      (hanswered : AnsweredBy past reader connectionId client reply)
      (hok : reply.executed = .ok response) (hrefused : response.successful = false) :
      Found past toolkit connectionId (.error (.action reader.profileAction
        (.refused (Execute.formatFailure reader.profileAction response).error)))
  | read {reader : Identity.Reader} {client : R} {reply : ServiceReply R}
      {response : ComposioExecuteResponse} (hreader : Identity.readerOf toolkit = some reader)
      (hanswered : AnsweredBy past reader connectionId client reply)
      (hok : reply.executed = .ok response) (hsuccessful : response.successful = true) :
      Found past toolkit connectionId (.ok (reader.profile connectionId response.data))

section Action

variable {past : List (Exchange R)} {toolkit connectionId : String} {reader : Identity.Reader}

/-- An execute that reads an identity comes to what the last answer of its provider is. -/
theorem ensures_over (hreader : Identity.readerOf toolkit = some reader)
    {client : R} (hhas : Has past client)
    {p : Prog Execute.Call (Execute.Reply Direct.Error)
      (Except (Execute.Failure Direct.Error) ComposioExecuteResponse)}
    (h : Prog.Ensures (Execute.MayCall reader.profileAction (.obj [])
        (Execute.namedConnection (some connectionId)))
      (fun past result => ∃ reply, Execute.LastReply past reply ∧
        result = (reply.mapError Execute.Failure.route).map
          (Execute.formatFailure reader.profileAction)) [] p) :
    Prog.Ensures (MayRead toolkit connectionId)
      (fun later outcome => ∃ reply, AnsweredBy later reader connectionId client reply ∧
        outcome = (reply.executed.mapError Execute.Failure.route).map
          (Execute.formatFailure reader.profileAction)) past
      (within (executeCall client) ServiceReply.executed p) := by
  have hsame : ∀ call past, Execute.MayCall (ε := Direct.Error) reader.profileAction (.obj [])
      (Execute.namedConnection (some connectionId)) past call →
      executeCall client call = .route client (identityRequest reader connectionId) := by
    intro call past hcall
    obtain ⟨htool, harguments, hconnection⟩ := hcall.same
    rw [executeCall, htool, harguments, hconnection]
    rfl
  have hwithin : Prog.Ensures (MayRead toolkit connectionId)
      (fun later outcome => ∃ reply, AnsweredBy later reader connectionId client reply ∧
        outcome = (reply.executed.mapError Execute.Failure.route).map
          (Execute.formatFailure reader.profileAction)) (past ++ [])
      (within (executeCall client) ServiceReply.executed p) := by
    refine ensures_within ?_ ?_ .nil (ensures_allowed h (Allowed.nil _))
    · intro outer inner call _ hcall
      rw [hsame call inner hcall]
      exact ⟨hhas.mono (List.prefix_append past outer), reader, hreader, rfl⟩
    · rintro outer inner outcome hmirrors ⟨hallowed, reply, ⟨before, last, rfl⟩, rfl⟩
      -- the last of the calls, and the reply it had outside
      have hlast := hsame last before (hallowed before (last, reply) [] rfl)
      obtain ⟨given, hgiven, hreply⟩ :=
        hmirrors.exists_of_mem (List.mem_append_right before (List.mem_singleton_self _))
      rw [hlast] at hgiven
      refine ⟨given, ⟨hhas.mono (List.prefix_append past outer), ?_⟩, ?_⟩
      · exact List.mem_append_right past hgiven
      · rw [hreply]
  rwa [List.append_nil] at hwithin

/-- What is made of the last answer. -/
theorem settles_reply (hreader : Identity.readerOf toolkit = some reader) {client : R}
    {reply : ServiceReply R} (hanswered : AnsweredBy past reader connectionId client reply) :
    Settles (MayRead toolkit connectionId)
      (fun later outcome => Found later toolkit connectionId
        (outcome.map (reader.profile connectionId))) past
      (payloadOf reader.profileAction ((reply.executed.mapError Execute.Failure.route).map
        (Execute.formatFailure reader.profileAction))) := by
  cases hexecuted : reply.executed with
  | error error => exact Settles.throw (.failed hreader hanswered hexecuted)
  | ok response =>
    show Session.Settles _ _ _ (if (Execute.formatFailure reader.profileAction response).successful
      then pure _ else throw _)
    by_cases hsuccessful : response.successful = true
    · rw [Execute.formatFailure, if_pos hsuccessful, if_pos hsuccessful]
      exact Settles.pure (.read hreader hanswered hexecuted hsuccessful)
    · have hfalse := Bool.eq_false_of_not_eq_true hsuccessful
      rw [if_neg]
      · exact Settles.throw (.refused hreader hanswered hexecuted hfalse)
      · rw [Execute.formatFailure, if_neg hsuccessful]
        exact hsuccessful

/-- A provider's action whose arguments are accepted as none. -/
theorem settles_runAction (hreader : Identity.readerOf toolkit = some reader) {arguments : Json}
    (hprepared : prepareExecuteArguments (trim reader.profileAction) (some arguments) =
      .ok (.obj []))
    (htrim : trim reader.profileAction = reader.profileAction) :
    Settles (MayRead toolkit connectionId)
      (fun later outcome => Found later toolkit connectionId
        (outcome.map (reader.profile connectionId)))
      past (runAction reader.profileAction arguments connectionId : Member R Json) := by
  have hexecute := Execute.ensures_executeAction (ε := Direct.Error) (some connectionId) hprepared
  rw [htrim] at hexecute
  have hclient := settles_readClient (show MayRead toolkit connectionId past .client from trivial)
    (.action reader.profileAction .noRoute)
  unfold runAction
  unfold runExecute
  apply Settles.bind hclient
  · intro later client _ hread
    cases hread with
    | given hgiven =>
      have hanswered :=
        Settles.attempt (ε := MemberError) (ensures_over hreader hgiven.has hexecute)
      generalize within (executeCall client) ServiceReply.executed _ = p at hanswered ⊢
      apply Settles.bind hanswered
      · rintro later' outcome _ ⟨executed, hexecuted, reply, hreply, rfl⟩
        cases hexecuted
        exact settles_reply hreader hreply
      · rintro later' error _ ⟨executed, herror, _⟩
        cases herror
  · intro later error _ hread
    cases hread with
    | @empty reply hlater hnone =>
      have hmem : (.client, reply) ∈ later := by
        rw [hlater]
        exact List.mem_append_right past (List.mem_singleton_self _)
      exact .noRoute hreader hmem hnone

/-- An identity is read with the profile action of its connection alone, and whatever comes
of it is accounted for. -/
theorem settles_profileOf (toolkit connectionId : String) (past : List (Exchange R)) :
    Settles (MayRead toolkit connectionId)
      (fun later outcome => Found later toolkit connectionId outcome) past
      (profileOf toolkit connectionId) := by
  unfold profileOf
  cases hreader : Identity.readerOf toolkit with
  | none => exact Settles.throw (.noProvider hreader)
  | some reader =>
    obtain ⟨htrim, hprepared⟩ :=
      Identity.prepare_profileAction reader (Identity.slug_of_readerOf hreader).1
    rw [← htrim] at hprepared
    apply Settles.bind (settles_runAction hreader hprepared htrim)
    · intro later payload _ hfound
      exact Settles.pure hfound
    · intro later error _ hfound
      exact hfound

end Action

/-! ## All of them -/

section Refresh

variable {past later : List (Exchange R)}

/-- A listing was answered with these connections. -/
def Listed (past : List (Exchange R)) (connections : List ComposioConnection) : Prop :=
  ∃ client reply, (.route client .listConnections, reply) ∈ past ∧
    reply.connections = .ok connections

/-- What a refresh asks for: the client, the listing before anything else, and the
identity of an active connection of it. -/
def MayRefresh (past : List (Exchange R)) : ServiceCall R → Prop
  | .client => True
  | .route client request => Has past client ∧
    (request = .listConnections ∧ (∀ exchange ∈ past, exchange.1 = .client) ∨
      ∃ connections connection reader, Listed past connections ∧ connection ∈ connections ∧
        connection.isActive = true ∧ Identity.readerOf connection.normalizedToolkit = some reader ∧
        request = identityRequest reader connection.id)
  | _ => False

/-- How connections come out: each as a profile or as a failure, in their order. -/
inductive Refreshed (past : List (Exchange R)) :
    List ComposioConnection → List Identity.UserProfile → List ComposioIdentityFailure → Prop where
  | nil : Refreshed past [] [] []
  | read {connections : List ComposioConnection} {profiles : List Identity.UserProfile}
      {failures : List ComposioIdentityFailure} {connection : ComposioConnection}
      {profile : Identity.UserProfile} (h : Refreshed past connections profiles failures)
      (hfound : Found past connection.normalizedToolkit connection.id (.ok profile)) :
      Refreshed past (connections ++ [connection]) (profiles ++ [profile]) failures
  | failed {connections : List ComposioConnection} {profiles : List Identity.UserProfile}
      {failures : List ComposioIdentityFailure} {connection : ComposioConnection}
      {error : MemberError} (h : Refreshed past connections profiles failures)
      (hfound : Found past connection.normalizedToolkit connection.id (.error error)) :
      Refreshed past (connections ++ [connection]) profiles
        (failures ++ [⟨connection.id, connection.normalizedToolkit, error⟩])

theorem Listed.mono {connections : List ComposioConnection} (h : Listed past connections)
    (hle : past <+: later) : Listed later connections := by
  obtain ⟨client, reply, hmem, hconnections⟩ := h
  exact ⟨client, reply, hle.subset hmem, hconnections⟩

theorem AnsweredBy.mono {reader : Identity.Reader} {connectionId : String} {client : R}
    {reply : ServiceReply R} (h : AnsweredBy past reader connectionId client reply)
    (hle : past <+: later) : AnsweredBy later reader connectionId client reply :=
  ⟨h.1.mono hle, hle.subset h.2⟩

theorem Found.mono {toolkit connectionId : String}
    {outcome : Except MemberError Identity.UserProfile}
    (h : Found past toolkit connectionId outcome) (hle : past <+: later) :
    Found later toolkit connectionId outcome := by
  cases h with
  | noProvider h => exact .noProvider h
  | noRoute hreader hmem hnone => exact .noRoute hreader (hle.subset hmem) hnone
  | failed hreader hanswered herror => exact .failed hreader (hanswered.mono hle) herror
  | refused hreader hanswered hok hrefused =>
      exact .refused hreader (hanswered.mono hle) hok hrefused
  | read hreader hanswered hok hsuccessful =>
    exact .read hreader (hanswered.mono hle) hok hsuccessful

theorem Refreshed.mono {connections : List ComposioConnection}
    {profiles : List Identity.UserProfile} {failures : List ComposioIdentityFailure}
    (h : Refreshed past connections profiles failures) (hle : past <+: later) :
    Refreshed later connections profiles failures := by
  induction h with
  | nil => exact .nil
  | read _ hfound ih => exact .read ih (hfound.mono hle)
  | failed _ hfound ih => exact .failed ih (hfound.mono hle)

/-- Every connection is in one of the two lists. -/
theorem Refreshed.length {connections : List ComposioConnection}
    {profiles : List Identity.UserProfile} {failures : List ComposioIdentityFailure}
    (h : Refreshed past connections profiles failures) :
    profiles.length + failures.length = connections.length := by
  induction h with
  | nil => rfl
  | read _ _ ih =>
    rw [List.length_append, List.length_append, List.length_singleton, List.length_singleton]
    omega
  | failed _ _ ih =>
    rw [List.length_append, List.length_append, List.length_singleton, List.length_singleton]
    omega

/-- An identity read of a listed connection is part of a refresh. -/
theorem mayRefresh_of_mayRead {connections : List ComposioConnection}
    {connection : ComposioConnection} (hlisted : Listed past connections)
    (hmem : connection ∈ connections) (hactive : connection.isActive = true) (hle : past <+: later)
    {request : ServiceCall R}
    (h : MayRead connection.normalizedToolkit connection.id later request) :
    MayRefresh later request := by
  cases request with
  | client => exact trivial
  | route client request =>
    obtain ⟨hhas, reader, hreader, rfl⟩ := h
    exact ⟨hhas, Or.inr ⟨connections, connection, reader, hlisted.mono hle, hmem, hactive,
      hreader, rfl⟩⟩
  | prefs key => exact h.elim
  | sleep seconds => exact h.elim

/-- The loop, with what it has read so far: the connections before it are accounted for. -/
theorem settles_readIdentities {connections done rest : List ComposioConnection}
    {read : ComposioRefreshIdentitiesResponse} (hlisted : Listed past connections)
    (hrest : ∀ connection ∈ rest, connection ∈ connections ∧ connection.isActive = true)
    (hdone : Refreshed past done read.profiles read.failures) :
    Settles MayRefresh (fun later outcome => ∃ response, outcome = .ok response ∧
      Listed later connections ∧
        Refreshed later (done ++ rest) response.profiles response.failures) past
      (readIdentities rest read) := by
  induction rest generalizing done read past with
  | nil =>
    refine Settles.pure ⟨read, rfl, hlisted, ?_⟩
    rwa [List.append_nil]
  | cons connection rest ih =>
    obtain ⟨hmem, hactive⟩ := hrest connection List.mem_cons_self
    have hafter : ∀ other ∈ rest, other ∈ connections ∧ other.isActive = true :=
      fun other hother => hrest other (List.mem_cons_of_mem connection hother)
    have hprofile :=
      (settles_profileOf (R := R) connection.normalizedToolkit connection.id past).imp
      fun later request hle => mayRefresh_of_mayRead hlisted hmem hactive hle
    rw [readIdentities]
    generalize (profileOf connection.normalizedToolkit connection.id :
      Member R Identity.UserProfile) = p at hprofile ⊢
    apply Settles.bind (Settles.attempt hprofile.ensures)
    -- whatever the provider came to, the connection is accounted for once
    · rintro later outcome hle ⟨_, houtcome, hfound⟩
      cases houtcome
      have hlater := hlisted.mono hle
      have happend : done ++ connection :: rest = (done ++ [connection]) ++ rest := by simp
      cases outcome with
      | ok profile =>
        rw [happend]
        apply ih hlater hafter
        exact (hdone.mono hle).read hfound
      | error error =>
        rw [happend]
        apply ih hlater hafter
        exact (hdone.mono hle).failed hfound
    · rintro later error _ ⟨outcome, herror, _⟩
      cases herror

/-- So far only the client and a listing were asked for. -/
def OnlyListed (past : List (Exchange R)) : Prop :=
  ∀ exchange ∈ past, exchange.1 = .client ∨ ∃ client, exchange.1 = .route client .listConnections

/-- What a refresh comes to. -/
inductive RefreshedAll (past : List (Exchange R)) :
    Except MemberError ComposioRefreshIdentitiesResponse → Prop where
  | done {connections : List ComposioConnection} {response : ComposioRefreshIdentitiesResponse}
      (hlisted : Listed past connections)
      (h : Refreshed past (connections.filter ComposioConnection.isActive) response.profiles
        response.failures) : RefreshedAll past (.ok response)
  /-- Only the listing can fail it, or that there is no client for it. -/
  | failed {error : MemberError} (honly : OnlyListed past) : RefreshedAll past (.error error)

/-- Before the listing only the client is asked for. -/
theorem settles_listing {may : List (Exchange R) → ServiceCall R → Prop} {client : R}
    (hmay : may past (.route client .listConnections))
    (hfirst : ∀ exchange ∈ past, exchange.1 = .client) :
    Settles may (fun later outcome =>
        (∀ connections, outcome = .ok connections → Listed later connections) ∧ OnlyListed later)
      past (call client .listConnections ServiceReply.connections) := by
  apply Settles.ask hmay
  intro reply
  refine ⟨?_, ?_⟩
  · intro connections hconnections
    refine ⟨client, reply, List.mem_append_right past (List.mem_singleton_self _), ?_⟩
    cases hreply : reply.connections with
    | ok found =>
      rw [hreply] at hconnections
      rw [← Except.ok.inj hconnections]
    | error error =>
      rw [hreply] at hconnections
      cases hconnections
  · intro exchange hmem
    rcases List.mem_append.mp hmem with hbefore | hnow
    · exact Or.inl (hfirst exchange hbefore)
    · rw [List.mem_singleton.mp hnow]
      exact Or.inr ⟨client, rfl⟩

/-- A member that lists first: the client, the listing, and what is made of it. -/
theorem settles_listed {α : Type} {may : List (Exchange R) → ServiceCall R → Prop}
    {good : List (Exchange R) → Except MemberError α → Prop}
    {f : List ComposioConnection → Member R α} (hclient : may [] .client)
    (hlisting : ∀ past client, Has past client → (∀ exchange ∈ past, exchange.1 = .client) →
      may past (.route client .listConnections))
    (hf : ∀ past connections, Listed past connections → OnlyListed past →
      Settles may good past (f connections))
    (herror : ∀ past error, OnlyListed past → good past (.error error)) :
    Settles may good []
      (do let client ← client
          let connections ← call client .listConnections ServiceReply.connections
          f connections) := by
  unfold Members.client
  apply Settles.bind (settles_readClient hclient _)
  · intro past client _ hread
    cases hread with
    | given hgiven =>
      -- the client is all that has been asked for so far
      have hfirst : ∀ exchange ∈ past, exchange.1 = .client := by
        obtain ⟨reply, rfl, _⟩ := hgiven
        intro exchange hmem
        rw [List.nil_append, List.mem_singleton] at hmem
        rw [hmem]
      apply Settles.bind (settles_listing (hlisting past client hgiven.has hfirst) hfirst)
      · rintro later connections _ ⟨hlisted, honly⟩
        exact hf later connections (hlisted connections rfl) honly
      · rintro later error _ ⟨_, honly⟩
        exact herror later error honly
  · intro past error _ hread
    cases hread with
    | empty hpast _ =>
      apply herror
      intro exchange hmem
      rw [hpast, List.nil_append, List.mem_singleton] at hmem
      rw [hmem]
      exact Or.inl rfl

theorem settles_refreshAllIdentities :
    Settles MayRefresh (fun later outcome => RefreshedAll later outcome) ([] : List (Exchange R))
      refreshAllIdentities := by
  apply settles_listed
  · exact trivial
  · intro past client hhas hfirst
    exact ⟨hhas, Or.inl ⟨rfl, hfirst⟩⟩
  · intro past connections hlisted _
    have hactive : ∀ connection ∈ connections.filter ComposioConnection.isActive,
        connection ∈ connections ∧ connection.isActive = true := by
      intro connection hmem
      exact List.mem_filter.mp hmem
    have hloop : Settles MayRefresh (fun later outcome => ∃ response, outcome = .ok response ∧
        Listed later connections ∧ Refreshed later
          ([] ++ connections.filter ComposioConnection.isActive) response.profiles
            response.failures)
        past (readIdentities (connections.filter ComposioConnection.isActive) ⟨[], []⟩) :=
      settles_readIdentities hlisted hactive .nil
    refine hloop.mono ?_
    rintro later outcome ⟨response, rfl, hlater, hrefreshed⟩
    exact .done hlater hrefreshed
  · intro past error honly
    exact .failed honly

end Refresh

/-! ## The account asked for -/

section LookUp

variable {past later : List (Exchange R)}

/-- The connection that a request names. -/
def namedIn (connectionId : Option String) : Option String :=
  connectionId.filter fun id => trim id ≠ ""

/-- The connection whose profile is read. -/
inductive Chosen (past : List (Exchange R)) (toolkit : String) (connectionId : Option String) :
    String → Prop where
  | named {id : String} (h : namedIn connectionId = some id) : Chosen past toolkit connectionId id
  /-- The toolkit's first active one. -/
  | first {connections : List ComposioConnection} {connection : ComposioConnection}
      (hnone : namedIn connectionId = none) (hlisted : Listed past connections)
      (hfirst : connections.find? (fun connection => connection.isActive &&
        decide (connection.normalizedToolkit = toAsciiLowercase (trim toolkit))) =
          some connection) :
      Chosen past toolkit connectionId connection.id

/-- The listing only where no connection is named, then the identity of the one chosen. -/
def MayLookUp (toolkit : String) (connectionId : Option String) (past : List (Exchange R)) :
    ServiceCall R → Prop
  | .client => True
  | .route client request => Has past client ∧
    (request = .listConnections ∧ namedIn connectionId = none ∧
        (∀ exchange ∈ past, exchange.1 = .client) ∨
      ∃ id reader, Chosen past toolkit connectionId id ∧ Identity.readerOf toolkit = some reader ∧
        request = identityRequest reader id)
  | _ => False

/-- What a profile lookup comes to. -/
inductive LookedUp (past : List (Exchange R)) (toolkit : String) (connectionId : Option String) :
    Except MemberError Identity.UserProfile → Prop where
  | found {id : String} {outcome : Except MemberError Identity.UserProfile}
      (hchosen : Chosen past toolkit connectionId id) (h : Found past toolkit id outcome) :
      LookedUp past toolkit connectionId outcome
  /-- There was no connection to choose. -/
  | failed {error : MemberError} (hnone : namedIn connectionId = none) (honly : OnlyListed past) :
      LookedUp past toolkit connectionId (.error error)

theorem Chosen.mono {toolkit id : String} {connectionId : Option String}
    (h : Chosen past toolkit connectionId id) (hle : past <+: later) :
    Chosen later toolkit connectionId id := by
  cases h with
  | named h => exact .named h
  | first hnone hlisted hfirst => exact .first hnone (hlisted.mono hle) hfirst

/-- The identity of a connection that has been chosen. -/
theorem settles_chosen {toolkit id : String} {connectionId : Option String}
    (hchosen : Chosen past toolkit connectionId id) :
    Settles (MayLookUp toolkit connectionId)
      (fun later outcome => LookedUp later toolkit connectionId outcome) past
      (profileOf toolkit id) := by
  have hprofile := settles_profileOf (R := R) toolkit id past
  generalize (profileOf toolkit id : Member R Identity.UserProfile) = p at hprofile ⊢
  constructor
  refine (ensures_imp hprofile.ensures.grows ?_).mono ?_
  · intro later request hle hread
    cases request with
    | client => exact trivial
    | route client request =>
      obtain ⟨hhas, reader, hreader, rfl⟩ := hread
      exact ⟨hhas, Or.inr ⟨id, reader, hchosen.mono hle, hreader, rfl⟩⟩
    | prefs key => exact hread.elim
    | sleep seconds => exact hread.elim
  · rintro later outcome ⟨hle, hfound⟩
    exact .found (hchosen.mono hle) hfound

/-- The toolkit's first active connection, of whatever is listed. -/
theorem settles_firstActiveConnection {toolkit : String} {connectionId : Option String}
    (hnone : namedIn connectionId = none) :
    Settles (MayLookUp toolkit connectionId) (fun later outcome =>
        (∃ id, outcome = .ok id ∧ Chosen later toolkit connectionId id) ∨
        ∃ error, outcome = .error error ∧ OnlyListed later) ([] : List (Exchange R))
      (firstActiveConnection toolkit) := by
  unfold firstActiveConnection
  apply settles_listed
  · exact trivial
  · intro past client hhas hfirst
    exact ⟨hhas, Or.inl ⟨rfl, hnone, hfirst⟩⟩
  · intro past connections hlisted honly
    split
    · rename_i connection hfirst
      exact Settles.pure (Or.inl ⟨connection.id, rfl, .first hnone hlisted hfirst⟩)
    · exact Settles.throw (Or.inr ⟨_, rfl, honly⟩)
  · intro past error honly
    exact Or.inr ⟨error, rfl, honly⟩

theorem settles_getUserProfile (toolkit : String) (connectionId : Option String) :
    Settles (MayLookUp toolkit connectionId)
      (fun later outcome => LookedUp later toolkit connectionId outcome) ([] : List (Exchange R))
      (getUserProfile toolkit connectionId) := by
  unfold getUserProfile
  split
  · rename_i id hnamed
    exact settles_chosen (.named hnamed)
  · rename_i hnone
    apply Settles.bind (settles_firstActiveConnection hnone)
    · rintro later id _ (⟨_, hid, hchosen⟩ | ⟨_, herror, _⟩)
      · cases hid
        exact settles_chosen hchosen
      · cases herror
    · rintro later error _ (⟨_, hid, _⟩ | ⟨_, herror, honly⟩)
      · cases hid
      · exact .failed hnone honly

end LookUp

/-! ## Every interleaving -/

section Runs

/-- What the members that read identities may ask for. -/
def MayIdentify : BusCall → List (Exchange R) → ServiceCall R → Prop
  | .refreshAllIdentities, past, request => MayRefresh past request
  | .getUserProfile toolkit connectionId, past, request =>
      MayLookUp toolkit connectionId past request
  | _, _, _ => True

/-- What they return. -/
def Identified : BusCall → List (Exchange R) → Except MemberError BusReply → Prop
  | .refreshAllIdentities, past, outcome =>
    ∃ read, outcome = read.map BusReply.identities ∧ RefreshedAll past read
  | .getUserProfile toolkit connectionId, past, outcome =>
    ∃ read, outcome = read.map BusReply.profile ∧ LookedUp past toolkit connectionId read
  | _, _, _ => True

/-- What a member settles, of its reply. -/
theorem Settles.reply {α : Type} {may : List (Exchange R) → ServiceCall R → Prop}
    {good : List (Exchange R) → Except MemberError α → Prop} {p : Member R α}
    (h : Settles may good [] p) (wrap : α → BusReply) :
    Settles may (fun later outcome => ∃ read, outcome = read.map wrap ∧ good later read) []
      (wrap <$> p) := by
  show Session.Settles _ _ _ (p >>= fun a => pure (wrap a))
  apply Settles.bind h
  · intro later a _ ha
    exact Settles.pure ⟨.ok a, rfl, ha⟩
  · intro later error _ herror
    exact ⟨.error error, rfl, herror⟩

theorem ensures_anything {p : Prog (ServiceCall R) (ServiceReply R) (Except MemberError BusReply)}
    (past : List (Exchange R)) : Prog.Ensures (fun _ _ => True) (fun _ _ => True) past p := by
  induction p generalizing past with
  | done outcome => exact trivial
  | ask request next ih => exact ⟨trivial, fun reply => ih reply _⟩

theorem ensures_member (setting : Setting R) (call : BusCall) :
    Prog.Ensures (MayIdentify call) (Identified call) [] (member setting call).run := by
  cases call with
  | refreshAllIdentities =>
      exact (Settles.reply settles_refreshAllIdentities BusReply.identities).ensures
  | getUserProfile toolkit connectionId =>
    exact (Settles.reply (settles_getUserProfile toolkit connectionId) BusReply.profile).ensures
  | _ => exact ensures_anything []

/-- The profiles a reply shows. -/
def BusReply.profiles : BusReply → List Identity.UserProfile
  | .profile shown => [shown]
  | .identities response => response.profiles
  | _ => []

/-- A read that the provider of the toolkit curates. -/
def CuratedRead (toolkit tool : String) : Prop :=
  ∃ provider catalog, defaultRegistry.get toolkit = some provider ∧
    provider.curatedTools = some catalog ∧ ⟨tool, .read⟩ ∈ catalog

/-- The connections whose identity a call may read, each with its toolkit. -/
inductive About (past : List (Exchange R)) : BusCall → String → String → Prop where
  | chosen {toolkit id : String} {connectionId : Option String}
      (h : Chosen past toolkit connectionId id) :
      About past (.getUserProfile toolkit connectionId) toolkit id
  | active {connections : List ComposioConnection} {connection : ComposioConnection}
      (hlisted : Listed past connections) (hmem : connection ∈ connections)
      (hactive : connection.isActive = true) :
      About past .refreshAllIdentities connection.normalizedToolkit connection.id

/-- A profile of this connection. -/
structure ProfileOf (toolkit connectionId : String) (profile : Identity.UserProfile) : Prop where
  toolkit_eq : profile.toolkit = toAsciiLowercase (trim toolkit)
  /-- The id is handed back as it was given. -/
  connectionId_eq : profile.connectionId = some connectionId
  /-- What is picked from the payload is neither blank nor padded. -/
  filled : ∀ text ∈ profile.picked, trim text = text ∧ text ≠ ""

/-- What an identity read asks for, and what it returns. -/
structure KeepsIdentities (call : BusCall) (past : List (Exchange R))
    (program : Prog (ServiceCall R) (ServiceReply R) (Except MemberError BusReply)) : Prop where
  asked : Allowed (MayIdentify call) past
  answered : ∀ outcome, program = .done outcome → Identified call past outcome
  /-- Nothing is run but a read that the provider of such a connection curates, on it. -/
  reads : ∀ exchange ∈ past, ∀ client tool arguments connectionId,
    exchange.1 = .route client (.execute tool arguments connectionId) →
      ∃ toolkit id, About past call toolkit id ∧ CuratedRead toolkit tool ∧
        connectionId = Execute.namedConnection (some id)
  /-- Every profile is of such a connection. -/
  shown : ∀ reply, program = .done (.ok reply) → ∀ profile ∈ reply.profiles,
    ∃ toolkit id, About past call toolkit id ∧ ProfileOf toolkit id profile

variable {past later : List (Exchange R)} {call : BusCall} {toolkit id : String}

theorem About.mono (h : About past call toolkit id) (hle : past <+: later) :
    About later call toolkit id := by
  cases h with
  | chosen h => exact .chosen (h.mono hle)
  | active hlisted hmem hactive => exact .active (hlisted.mono hle) hmem hactive

/-- What is run to identify is the profile action of a connection's provider. -/
theorem about_of_mayIdentify (hreads : call.takesOnce = false) {client : R} {tool : String}
    {arguments : Json} {connectionId : Option String}
    (h : MayIdentify call past (.route client (.execute tool arguments connectionId))) :
    ∃ toolkit id, About past call toolkit id ∧ CuratedRead toolkit tool ∧
      connectionId = Execute.namedConnection (some id) := by
  cases call with
  | refreshAllIdentities =>
    obtain ⟨-, ⟨hlisting, -⟩
      | ⟨_, connection, reader, hlisted, hmem, hactive, hreader, hrequest⟩⟩ := h
    · cases hlisting
    · cases hrequest
      exact ⟨_, _, .active hlisted hmem hactive, Identity.profileAction_read hreader, rfl⟩
  | getUserProfile toolkit named =>
    obtain ⟨-, ⟨hlisting, -⟩ | ⟨id, reader, hchosen, hreader, hrequest⟩⟩ := h
    · cases hlisting
    · cases hrequest
      exact ⟨toolkit, id, .chosen hchosen, Identity.profileAction_read hreader, rfl⟩
  | _ => cases hreads

/-- A profile that was found is one of the connection. -/
theorem Found.profileOf {profile : Identity.UserProfile} (h : Found past toolkit id (.ok profile)) :
    ProfileOf toolkit id profile := by
  cases h with
  | read hreader hanswered hok hsuccessful =>
    refine ⟨(Identity.slug_of_readerOf hreader).2, rfl, ?_⟩
    intro text htext
    exact Identity.trim_of_mem_picked htext

theorem Refreshed.found {connections : List ComposioConnection}
    {profiles : List Identity.UserProfile} {failures : List ComposioIdentityFailure}
    (h : Refreshed past connections profiles failures) {profile : Identity.UserProfile}
    (hmem : profile ∈ profiles) :
    ∃ connection ∈ connections,
      Found past connection.normalizedToolkit connection.id (.ok profile) := by
  induction h with
  | nil => cases hmem
  | @read connections profiles failures connection last _ hfound ih =>
    rcases List.mem_append.mp hmem with hbefore | hlast
    · obtain ⟨earlier, hearlier, hread⟩ := ih hbefore
      exact ⟨earlier, List.mem_append_left _ hearlier, hread⟩
    · rw [List.mem_singleton.mp hlast]
      exact ⟨connection, List.mem_append_right _ (List.mem_singleton_self _), hfound⟩
  | failed _ _ ih =>
    obtain ⟨earlier, hearlier, hread⟩ := ih hmem
    exact ⟨earlier, List.mem_append_left _ hearlier, hread⟩

/-- A profile that is shown is one of a connection that the call is about. -/
theorem profileOf_of_identified (hreads : call.takesOnce = false) {reply : BusReply}
    (h : Identified call past (.ok reply)) {profile : Identity.UserProfile}
    (hmem : profile ∈ reply.profiles) :
    ∃ toolkit id, About past call toolkit id ∧ ProfileOf toolkit id profile := by
  cases call with
  | refreshAllIdentities =>
    obtain ⟨read, hread, hall⟩ := h
    cases hall with
    | done hlisted hrefreshed =>
      cases hread
      obtain ⟨connection, hconnection, hfound⟩ := hrefreshed.found (show profile ∈ _ from hmem)
      obtain ⟨hin, hactive⟩ := List.mem_filter.mp hconnection
      exact ⟨_, _, .active hlisted hin hactive, hfound.profileOf⟩
    | failed honly => cases hread
  | getUserProfile toolkit named =>
    obtain ⟨read, hread, hlooked⟩ := h
    cases hlooked with
    | @found id _ hchosen hfound =>
      cases read with
      | ok found =>
        cases hread
        rw [List.mem_singleton.mp hmem]
        exact ⟨toolkit, id, .chosen hchosen, hfound.profileOf⟩
      | error error => cases hread
    | failed hnone honly => cases hread
  | _ => cases hreads

/-- In every order of steps of the calls and of `Configure`. -/
theorem keepsIdentities {ι : Type} [DecidableEq ι] (setting : Setting R)
    {c c' : Config ι (Task BusCall (ServiceCall R) (ServiceReply R) (Except MemberError BusReply))
      (Place (Option R))}
    (hcalled : ∀ i, ∃ call, c.tasks i = .called call)
    (hrun : (sessions (fun call => (member setting call).run) Serves).Run c c') {i : ι}
    (hreads : call.takesOnce = false) {began : ℕ}
    {program : Prog (ServiceCall R) (ServiceReply R) (Except MemberError BusReply)}
    (hi : c'.tasks i = .running call began past program) : KeepsIdentities call past program := by
  have hstands := stands_of_run (ensures_member setting) hcalled hrun hi
  have hanswered : ∀ outcome, program = .done outcome → Identified call past outcome := by
    rintro outcome rfl
    exact hstands.rest
  refine ⟨hstands.allowed, hanswered, ?_, ?_⟩
  · intro exchange hmem client tool arguments connectionId hrequest
    obtain ⟨before, later, hsplit⟩ := List.append_of_mem hmem
    have hmay := hstands.allowed before exchange later hsplit
    rw [hrequest] at hmay
    obtain ⟨toolkit, id, habout, hrest⟩ := about_of_mayIdentify hreads hmay
    have hprefix : before <+: past := by
      rw [hsplit]
      exact List.prefix_append before _
    exact ⟨toolkit, id, habout.mono hprefix, hrest⟩
  · intro reply hdone profile hmem
    exact profileOf_of_identified hreads (hanswered _ hdone) hmem

end Runs

/-! ## Reads that succeed -/

section Reads

variable {client : R} {reply last : ServiceReply R}

theorem leads_readClient (missing : MemberError) (hclient : reply.client = some client) :
    Leads [(.client, reply)] (readClient missing).run (.done (.ok client)) := by
  apply Leads.ask
  dsimp only
  rw [hclient]
  exact .refl _

theorem leads_call {α : Type} {request : RouteRequest}
    {field : ServiceReply R → Except Direct.Error α} {a : α} (hfield : field reply = .ok a) :
    Leads [(.route client request, reply)] (call client request field).run (.done (.ok a)) := by
  apply Leads.ask
  dsimp only
  rw [hfield]
  exact .refl _

/-- What the provider of a connection answers is its profile. -/
theorem leads_profileOf {toolkit id : String} {reader : Identity.Reader}
    (hreader : Identity.readerOf toolkit = some reader) (hclient : reply.client = some client)
    {response : ComposioExecuteResponse} (hok : last.executed = .ok response)
    (hsuccess : response.successful = true) :
    Leads [(.client, reply), (.route client (identityRequest reader id), last)]
      (profileOf toolkit id).run (.done (.ok (reader.profile id response.data))) := by
  obtain ⟨htrim, hprepared⟩ :=
    Identity.prepare_profileAction reader (Identity.slug_of_readerOf hreader).1
  rw [← htrim] at hprepared
  obtain ⟨next, hasks, hnext⟩ :=
    Execute.executeAction_of_successful (ε := Direct.Error) (some id) hprepared hsuccess
  have hexecute : Leads [(.route client (identityRequest reader id), last)]
      (runExecute client reader.profileAction (some (.obj [])) (some id))
      (.done (.ok response)) := by
    -- `execute_action` is answered at its first call
    have hinner : Leads [(Execute.callAt reader.profileAction (.obj [])
        (Execute.namedConnection (some id)) .first 0, .ok response)]
        (Execute.executeAction (ε := Direct.Error) reader.profileAction (some (.obj [])) (some id))
        (.done (.ok response)) := by
      rw [hasks, htrim, ← hnext]
      exact .ask (.refl _)
    exact hinner.within (.cons ⟨rfl, hok⟩ .nil)
  have hpayload : (payloadOf reader.profileAction (.ok response) : Member R Json) =
      pure response.data := by
    rw [payloadOf, if_pos hsuccess]
  have hrun : Leads [(.client, reply), (.route client (identityRequest reader id), last)]
      (runAction reader.profileAction (.obj []) id).run
      (payloadOf reader.profileAction (.ok response) : Member R Json).run :=
    ((leads_readClient _ hclient).andThen _).trans (hexecute.attempt _)
  rw [hpayload] at hrun
  rw [profileOf, hreader]
  exact hrun.andThen _

/-- A refresh reads the active connections of the listing. -/
theorem leads_refreshAllIdentities (hclient : reply.client = some client)
    {connections : List ComposioConnection} (hlisted : last.connections = .ok connections) :
    Leads [(.client, reply), (.route client .listConnections, last)] refreshAllIdentities.run
      (readIdentities (connections.filter ComposioConnection.isActive) ⟨[], []⟩).run :=
  ((leads_readClient _ hclient).andThen _).trans ((leads_call hlisted).andThen _)

/-- A connection that no provider reads takes no request. -/
theorem readIdentities_unread {connection : ComposioConnection} (rest : List ComposioConnection)
    (read : ComposioRefreshIdentitiesResponse)
    (hreader : Identity.readerOf connection.normalizedToolkit = none) :
    (readIdentities (connection :: rest) read : Member R ComposioRefreshIdentitiesResponse) =
      readIdentities rest { read with
        failures := read.failures ++ [⟨connection.id, connection.normalizedToolkit,
          noProvider connection.normalizedToolkit⟩] } := by
  rw [readIdentities, profileOf, hreader]
  rfl

theorem leads_readIdentities {exchanges : List (Exchange R)} {connection : ComposioConnection}
    {profile : Identity.UserProfile} (rest : List ComposioConnection)
    (read : ComposioRefreshIdentitiesResponse)
    (h : Leads exchanges (profileOf connection.normalizedToolkit connection.id).run
      (.done (.ok profile))) :
    Leads exchanges (readIdentities (connection :: rest) read).run
      (readIdentities rest { read with profiles := read.profiles ++ [profile] }).run :=
  h.attempt _

end Reads

/-! A refresh that lists three connections: of a toolkit that no provider reads, one that is not
active, and one whose provider answers, over the route that has been configured by then. -/

section Example

def zoomConnection : ComposioConnection := ⟨"ca_1", "zoom", "ACTIVE", none, none, none, none⟩

def githubConnection : ComposioConnection := ⟨"ca_2", "github", "INITIATED", none, none, none, none⟩

def gmailConnection : ComposioConnection := ⟨"ca_3", "Gmail", "ACTIVE", none, none, none, none⟩

/-- What the provider of the last one answers. -/
def gmailPayload : Json := .obj [("emailAddress", .str " ada@example.com "), ("name", .str "Ada")]

def listedReply : ServiceReply String :=
  { emptyReply none with connections := .ok [zoomConnection, githubConnection, gmailConnection] }

def gmailReply : ServiceReply String :=
  { emptyReply none with executed := .ok ⟨gmailPayload, true, none, 0, none⟩ }

def listedExchanges : List (Exchange String) :=
  [(.client, emptyReply (some "proxy")), (.route "proxy" .listConnections, listedReply)]

def gmailExchanges : List (Exchange String) :=
  [(.client, emptyReply (some "direct")),
    (.route "direct" (identityRequest Identity.GMAIL "ca_3"), gmailReply)]

/-- What is left to do after the listing. -/
def afterListing : Member String BusReply :=
  BusReply.identities <$> readIdentities [zoomConnection, gmailConnection] ⟨[], []⟩

def gmailProfile : Identity.UserProfile := Identity.GMAIL.profile "ca_3" gmailPayload

/-- The one connection with its profile, the other with why it could not be read. -/
def refreshedTwo : ComposioRefreshIdentitiesResponse :=
  ⟨[gmailProfile], [⟨"ca_1", "zoom", noProvider "zoom"⟩]⟩

theorem leads_listing :
    Leads listedExchanges (member plainSetting .refreshAllIdentities).run afterListing.run := by
  have hactive : [zoomConnection, githubConnection, gmailConnection].filter
      ComposioConnection.isActive = [zoomConnection, gmailConnection] := by
    have hzoom : zoomConnection.isActive = true := by decide +kernel
    have hgithub : ¬ githubConnection.isActive = true := by decide +kernel
    have hgmail : gmailConnection.isActive = true := by decide +kernel
    rw [List.filter_cons_of_pos hzoom, List.filter_cons_of_neg hgithub,
      List.filter_cons_of_pos hgmail, List.filter_nil]
  have hlisting : Leads listedExchanges refreshAllIdentities.run
      (readIdentities _ ⟨[], []⟩).run := leads_refreshAllIdentities rfl rfl
  rw [hactive] at hlisting
  exact hlisting.map BusReply.identities

theorem leads_identities :
    Leads gmailExchanges afterListing.run (.done (.ok (.identities refreshedTwo))) := by
  have hzoom : zoomConnection.normalizedToolkit = "zoom" := by decide +kernel
  have hgmail : gmailConnection.normalizedToolkit = "gmail" := by decide +kernel
  have hnone : (Identity.readerOf "zoom").isNone = true := by decide +kernel
  have hreader : Identity.readerOf "gmail" = some Identity.GMAIL := by
    rw [Identity.readerOf, show toAsciiLowercase (trim "gmail") = "gmail" by decide +kernel]
    rfl
  have hprofile : Leads gmailExchanges
      (profileOf gmailConnection.normalizedToolkit gmailConnection.id).run
      (.done (.ok gmailProfile)) := by
    have hanswer : gmailReply.executed = .ok ⟨gmailPayload, true, none, 0, none⟩ := rfl
    rw [hgmail]
    exact leads_profileOf hreader rfl hanswer rfl
  rw [afterListing, readIdentities_unread, hzoom]
  · exact (leads_readIdentities [] _ hprofile).map BusReply.identities
  · rw [hzoom]
    exact Option.isNone_iff_eq_none.mp hnone

/-- Between the listing and the read another route is configured. -/
theorem refresh_run : (sessions (fun call => (member plainSetting call).run) Serves).Run
    (calledWith .refreshAllIdentities)
    ⟨fun _ => .running .refreshAllIdentities 0 (listedExchanges ++ gmailExchanges)
      (.done (.ok (.identities refreshedTwo))), ⟨some "direct", [some "proxy"]⟩⟩ := by
  have hlisting : (sessions (fun call => (member plainSetting call).run) Serves).Alone
      (.called .refreshAllIdentities, ⟨some "proxy", []⟩)
      (.running .refreshAllIdentities 0 listedExchanges afterListing.run, ⟨some "proxy", []⟩) :=
    alone_called leads_listing
      (List.forall_mem_cons.mpr ⟨rfl, List.forall_mem_singleton.mpr trivial⟩)
  have hreading : (sessions (fun call => (member plainSetting call).run) Serves).Alone
      (.running .refreshAllIdentities 0 listedExchanges afterListing.run,
        ⟨some "direct", [some "proxy"]⟩)
      (.running .refreshAllIdentities 0 (listedExchanges ++ gmailExchanges)
        (.done (.ok (.identities refreshedTwo))), ⟨some "direct", [some "proxy"]⟩) :=
    leads_identities.alone
      (List.forall_mem_cons.mpr ⟨rfl, List.forall_mem_singleton.mpr trivial⟩) _ _ _
  exact (hlisting.run.tail (System.Step.env ⟨some "direct", rfl⟩)).trans hreading.run

/-- The refresh reads the account of the one, over the route it asks for again. -/
theorem keepsIdentities_gmail : gmailProfile.email = some "ada@example.com" ∧
    KeepsIdentities .refreshAllIdentities (listedExchanges ++ gmailExchanges)
      (.done (.ok (.identities refreshedTwo))) :=
  ⟨by decide +kernel, keepsIdentities plainSetting (fun _ => ⟨_, rfl⟩) refresh_run
    (i := ()) rfl rfl⟩

end Example

end Members
