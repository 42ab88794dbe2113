/-
# Over which route a member calls

However calls of the members and replacements of the route follow one another: a member
calls the route only over a client that was in the slot at some time since it was called,
so none that was replaced before; all but the two that read identities do so over one; and
a member that returns a value has had one.
-/
import TinyConnectors.Listing.WellFormed
import TinyConnectors.TinybusModule.Members

open RustStr Client Session Await

namespace Members

variable {R : Type}

/-- An exchange of a member. -/
abbrev Exchange (R : Type) := ServiceCall R × ServiceReply R

/-- The slot answers for the client; for everything else there may be any reply. -/
def Serves : ServiceCall R → Option R → ServiceReply R → Prop
  | .client, found, reply => reply.client = found
  | _, _, _ => True

/-- The member has been given `client`. -/
def Has (past : List (Exchange R)) (client : R) : Prop :=
  ∃ reply, (.client, reply) ∈ past ∧ reply.client = some client

/-- The identity reads ask for the client again for every action. -/
def BusCall.takesOnce : BusCall → Bool
  | .getUserProfile _ _ | .refreshAllIdentities => false
  | _ => true

/-- What a member may ask for after these exchanges. -/
def MayAsk (once : Bool) (past : List (Exchange R)) : ServiceCall R → Prop
  | .client => once = true → ∀ exchange ∈ past, exchange.1 ≠ .client
  | .route client _ => Has past client
  | _ => True

/-- A request that needs no client, or this one. -/
def Over (client : R) : ServiceCall R → Prop
  | .client => False
  | .route held _ => held = client
  | _ => True

/-- A read of a preference, or a wait. -/
def Local : ServiceCall R → Prop
  | .client | .route _ _ => False
  | _ => True

theorem Has.mono {past later : List (Exchange R)} {client : R} (h : Has past client)
    (hle : past <+: later) : Has later client := by
  obtain ⟨reply, hmem, hclient⟩ := h
  exact ⟨reply, hle.subset hmem, hclient⟩

theorem over_of_local {client : R} {request : ServiceCall R} (h : Local request) :
    Over client request := by
  cases request with
  | client => exact h.elim
  | route held request => exact h.elim
  | prefs key => exact trivial
  | sleep seconds => exact trivial

/-! ## What each part asks for -/

section Parts

variable {q : ServiceCall R → Prop} {α : Type}

theorem only_ask {request : ServiceCall R} (h : q request)
    (reading : ServiceReply R → Except MemberError α) : Only q (ask request reading).run :=
  .ask h fun reply => .done (reading reply)

/-- Whichever way is gone. -/
theorem only_ite {c : Prop} [Decidable c] {p p' : Member R α} (h : Only q p.run)
    (h' : Only q p'.run) :
    Only q (if c then p else p').run := by
  split_ifs
  · exact h
  · exact h'

theorem only_pure (a : α) : Only q (pure a : Member R α).run := Only.done (Except.ok a)

theorem only_throw (e : MemberError) : Only q (throw e : Member R α).run :=
  Only.done (Except.error e)

theorem only_liftExcept (x : Except MemberError α) : Only q (liftM x : Member R α).run := .done x

theorem only_call (client : R) (request : RouteRequest)
    (field : ServiceReply R → Except Direct.Error α) :
    Only (Over client) (call client request field).run :=
  only_ask (show Over client (.route client request) from rfl) _

theorem only_runExecute (client : R) (tool : String) (arguments : Option Json)
    (connectionId : Option String) :
    Only (Over client) (runExecute client tool arguments connectionId) :=
  Only.within (fun call => show Over client (executeCall client call) from rfl) _

theorem only_prefsGet (key : String) : Only (Local (R := R)) (prefsGet key).run :=
  only_ask trivial _

theorem only_loadPref (toolkit : String) : Only (Local (R := R)) (loadPref toolkit).run := by
  apply Only.andThen (only_prefsGet _)
  intro found
  cases found with
  | none => exact only_pure _
  | some value =>
    dsimp only
    cases UserScopePref.fromValue value with
    | ok pref => exact only_pure pref
    | error fault => exact only_throw _

theorem only_prefForToolkits (toolkits : List String) :
    Only (Local (R := R)) (prefForToolkits toolkits).run := by
  induction toolkits with
  | nil => exact only_pure _
  | cons toolkit rest ih =>
    apply Only.andThen (only_prefsGet _)
    intro found
    cases found with
    | none => exact ih
    | some value => exact only_loadPref toolkit

theorem only_prefFor (action : String) : Only (Local (R := R)) (prefFor action).run := by
  rw [prefFor]
  exact only_prefForToolkits _

theorem only_permits (action : String) : Only (Local (R := R)) (permits action).run := by
  unfold permits
  cases Sync.toolkitFromSlug action with
  | none => exact only_pure true
  | some toolkit => exact Only.andThen (only_prefFor action) fun pref => only_pure _

theorem only_listed (action : String) : Only (Local (R := R)) (listed action).run := by
  unfold listed
  cases Sync.toolkitFromSlug action with
  | none => exact only_pure true
  | some toolkit => exact Only.andThen (only_prefFor action) fun pref => only_pure _

theorem only_retainListed (tools : List ComposioToolSchema) :
    Only (Local (R := R)) (retainListed tools).run := by
  induction tools with
  | nil => exact only_pure []
  | cons tool rest ih =>
    apply Only.andThen (only_listed _)
    intro keep
    exact Only.andThen ih fun allowed => only_pure _

theorem only_loadPreferences (toolkits : List String) :
    Only (Local (R := R)) (loadPreferences toolkits).run := by
  induction toolkits with
  | nil => exact only_pure []
  | cons toolkit rest ih =>
    apply Only.andThen (only_loadPref toolkit)
    intro preference
    exact Only.andThen ih fun preferences => only_pure _

theorem only_fetchListings (client : R) (mode : ComposioConnectedIntegrationsMode) :
    Only (Over client) (fetchListings client mode).run := by
  cases mode with
  | backend =>
    apply Only.andThen (only_call client _ _)
    intro toolkits
    apply only_ite (only_pure none)
    apply Only.andThen (only_call client _ _)
    intro connections
    apply only_ite (only_pure _)
    exact Only.andThen (only_call client _ _) fun listing => only_pure _
  | direct =>
    apply Only.andThen (only_call client _ _)
    intro connections
    apply only_ite (only_pure none)
    apply Only.andThen (Only.attempt (only_call client _ _))
    intro listing
    cases listing with
    | ok listing => exact only_pure _
    | error e => exact only_pure _

end Parts

/-! ## Members that take the client once -/

section Once

variable {α β : Type} {past : List (Exchange R)}

/-- The value of a member is worth having only over a client. -/
def Had (past : List (Exchange R)) (_ : α) : Prop := ∃ client, Has past client

/-- What is done over a client that has been given. -/
theorem yields_over {once : Bool} {client : R} {p : Member R α} (hhas : Has past client)
    (h : Only (Over client) p.run) : Prog.Yields (MayAsk once) Had past p := by
  constructor
  apply h.ensures
  · intro tail request _ hover
    have hlater := hhas.mono (List.prefix_append past tail)
    cases request with
    | client => exact hover.elim
    | route held request =>
      obtain rfl : held = client := hover
      exact hlater
    | prefs key => exact trivial
    | sleep seconds => exact trivial
  · intro tail outcome _ a ha
    exact ⟨client, hhas.mono (List.prefix_append past tail)⟩

/-- What is done before there is a client. -/
theorem yields_local {once : Bool} {p : Member R α} (h : Only Local p.run) :
    Prog.Yields (MayAsk once) (fun later _ => ∀ exchange ∈ later, exchange.1 ≠ .client) [] p := by
  constructor
  apply h.ensures
  · intro tail request _ hlocal
    cases request with
    | client => exact hlocal.elim
    | route held request => exact hlocal.elim
    | prefs key => exact trivial
    | sleep seconds => exact trivial
  · intro tail outcome hlocal a ha exchange hmem hclient
    have hnone := hlocal exchange hmem
    rw [hclient] at hnone
    exact hnone

/-- A client that has just been given. -/
def Given (past later : List (Exchange R)) (client : R) : Prop :=
  ∃ reply, later = past ++ [(.client, reply)] ∧ reply.client = some client

theorem Given.has {later : List (Exchange R)} {client : R} (h : Given past later client) :
    Has later client := by
  obtain ⟨reply, rfl, hclient⟩ := h
  exact ⟨reply, List.mem_append_right past (List.mem_singleton_self _), hclient⟩

/-- What reading the slot comes to. -/
inductive SlotRead (past later : List (Exchange R)) (missing : MemberError) :
    Except MemberError R → Prop where
  | given {client : R} (h : Given past later client) : SlotRead past later missing (.ok client)
  | empty {reply : ServiceReply R} (h : later = past ++ [(.client, reply)])
      (hnone : reply.client = none) : SlotRead past later missing (.error missing)

theorem settles_readClient {may : List (Exchange R) → ServiceCall R → Prop}
    (hmay : may past .client) (missing : MemberError) :
    Settles may (fun later outcome => SlotRead past later missing outcome) past
      (readClient missing) := by
  apply Settles.ask hmay
  intro reply
  cases hfound : reply.client with
  | none => exact .empty rfl hfound
  | some client => exact .given ⟨reply, rfl, hfound⟩

theorem yields_readClient {once : Bool} (missing : MemberError)
    (hfirst : once = true → ∀ exchange ∈ past, exchange.1 ≠ .client) :
    Prog.Yields (MayAsk once) (fun later client => Has later client) past (readClient missing) := by
  constructor
  refine (settles_readClient (show MayAsk once past .client from hfirst) missing).ensures.mono ?_
  rintro later outcome hread client rfl
  cases hread with
  | given h => exact h.has

/-- The client, and what is done over it. -/
theorem yields_client_andThen {once : Bool} (missing : MemberError)
    (hfirst : once = true → ∀ exchange ∈ past, exchange.1 ≠ .client) {f : R → Member R β}
    (hf : ∀ client, Only (Over client) (f client).run) :
    Prog.Yields (MayAsk once) Had past (readClient missing >>= f) := by
  apply Prog.Yields.bind
  refine (yields_readClient missing hfirst).mono ?_
  intro later client hhas hle
  exact yields_over hhas (hf client)

/-- A value of a value. -/
theorem Had.map {once : Bool} {p : Member R α} (h : Prog.Yields (MayAsk once) Had past p)
    (f : α → β) :
    Prog.Yields (MayAsk once) Had past (f <$> p) := by
  show Prog.Yields _ _ _ (p >>= fun a => pure (f a))
  apply Prog.Yields.bind
  refine h.mono ?_
  intro later a hhad hle
  exact Prog.Yields.pure hhad

end Once

section Calls

variable {α : Type}

/-- A member that begins with the client. -/
theorem yields_client {f : R → Member R α} (hf : ∀ client, Only (Over client) (f client).run) :
    Prog.Yields (MayAsk true) Had [] (client >>= f) :=
  yields_client_andThen _ (fun _ => List.forall_mem_nil _) hf

theorem yields_handOn (op : Operation) (wrap : Client.Error → MemberError) :
    Prog.Yields (MayAsk true) Had [] (handOn op wrap : Member R Json) := by
  apply yields_client
  intro client
  apply Only.andThen (only_liftExcept _)
  intro request
  exact only_ask (show Over client (.route client request) from rfl) _

theorem yields_listToolkits (offered : OfferedToolkits) :
    Prog.Yields (MayAsk true) Had []
    (listToolkits offered : Member R ComposioToolkitsResponse) := by
  apply yields_client
  intro client
  exact Only.andThen (only_call client _ _) fun response => only_pure _

theorem yields_authorize (toolkit : String) (extraParams : Option Json) :
    Prog.Yields (MayAsk true) Had []
      (authorize toolkit extraParams : Member R Direct.ComposioAuthorizeResponse) := by
  apply yields_client
  intro client
  apply Only.andThen (Only.attempt (Only.within _ _))
  · intro outcome
    exact only_liftExcept _
  · -- the cleanup, the handoffs and the waits between them
    intro request
    cases request <;> first | rfl | trivial

theorem yields_listTools (offered : OfferedToolkits) (toolkits tags : List String)
    (applyUserScopes : Bool) : Prog.Yields (MayAsk true) Had []
      (listTools offered toolkits tags applyUserScopes : Member R ComposioToolsResponse) := by
  apply yields_client
  intro client
  apply Only.andThen (only_call client _ _)
  intro response
  apply only_ite
  · apply Only.andThen ((only_retainListed _).mono fun request => over_of_local)
    intro allowed
    exact only_pure _
  · exact only_pure _

theorem yields_execute (tool : String) (arguments : Option Json) (connectionId : Option String) :
    Prog.Yields (MayAsk true) Had []
      (execute tool arguments connectionId : Member R ComposioExecuteResponse) := by
  apply Prog.Yields.bind
  refine (yields_local (only_permits tool)).mono ?_
  intro later permitted hlocal _
  cases permitted with
  | false => exact Prog.Yields.throw _
  | true =>
    apply yields_client_andThen _ fun _ => hlocal
    intro client
    apply Only.andThen (Only.attempt (only_runExecute client _ _ _))
    intro outcome
    exact only_liftExcept _

theorem yields_connectedIntegrations (routeName : R → String) (upper : Uppercase)
    (mode : ComposioConnectedIntegrationsMode) :
    Prog.Yields (MayAsk true) Had [] (connectedIntegrations routeName upper mode) := by
  apply yields_client
  intro client
  apply only_ite (only_throw _)
  apply Only.andThen (only_fetchListings client mode)
  intro listings
  cases listings with
  | none => exact only_pure []
  | some listings =>
    apply Only.andThen ((only_loadPreferences _).mono fun request => over_of_local)
    intro preferences
    exact only_pure _

/-! ### Identity reads -/

variable {past : List (Exchange R)}

theorem yields_runAction (action : String) (arguments : Json) (connectionId : String) :
    Prog.Yields (MayAsk false) Had past (runAction action arguments connectionId) := by
  apply yields_client_andThen _ fun hfalse => absurd hfalse Bool.false_ne_true
  intro client
  apply Only.andThen (Only.attempt (only_runExecute client _ _ _))
  intro outcome
  cases outcome with
  | error failure => exact only_throw _
  | ok response => exact only_ite (only_pure _) (only_throw _)

theorem yields_profileOf (toolkit connectionId : String) :
    Prog.Yields (MayAsk false) Had past (profileOf toolkit connectionId) := by
  unfold profileOf
  cases Identity.readerOf toolkit with
  | none => exact Prog.Yields.throw _
  | some reader =>
    apply Prog.Yields.bind
    refine (yields_runAction _ _ _).mono ?_
    intro later payload hhad _
    exact Prog.Yields.pure hhad

theorem yields_firstActiveConnection (toolkit : String) :
    Prog.Yields (MayAsk false) Had past (firstActiveConnection toolkit) := by
  apply yields_client_andThen _ fun hfalse => absurd hfalse Bool.false_ne_true
  intro client
  apply Only.andThen (only_call client _ _)
  intro connections
  split
  · exact only_pure _
  · exact only_throw _

theorem yields_getUserProfile (toolkit : String) (connectionId : Option String) :
    Prog.Yields (MayAsk false) Had past (getUserProfile toolkit connectionId) := by
  unfold getUserProfile
  split
  · exact yields_profileOf toolkit _
  · apply Prog.Yields.bind
    refine (yields_firstActiveConnection toolkit).mono ?_
    intro later id hhad _
    exact yields_profileOf toolkit id

theorem yields_readIdentities (connections : List ComposioConnection)
    (read : ComposioRefreshIdentitiesResponse) (hhas : ∃ client, Has past client) :
    Prog.Yields (MayAsk false) Had past (readIdentities connections read) := by
  induction connections generalizing read past with
  | nil => exact Prog.Yields.pure hhas
  | cons connection rest ih =>
    obtain ⟨client, hhas⟩ := hhas
    have hprofile : Prog.Yields (MayAsk false) Had past
        (profileOf connection.normalizedToolkit connection.id : Member R Identity.UserProfile) :=
      yields_profileOf _ _
    rw [readIdentities]
    generalize (profileOf connection.normalizedToolkit connection.id :
      Member R Identity.UserProfile) = p at hprofile ⊢
    apply Prog.Yields.bind
    refine (Prog.Yields.attempt hprofile.ensures.grows).mono ?_
    rintro later outcome ⟨hle, -⟩ -
    cases outcome with
    | ok profile => exact ih _ ⟨client, hhas.mono hle⟩
    | error error => exact ih _ ⟨client, hhas.mono hle⟩

theorem yields_refreshAllIdentities :
    Prog.Yields (MayAsk false) Had past
      (refreshAllIdentities : Member R ComposioRefreshIdentitiesResponse) := by
  apply Prog.Yields.bind
  refine (yields_readClient _ fun hfalse => absurd hfalse Bool.false_ne_true).mono ?_
  intro later client hhas _
  apply Prog.Yields.bind
  have hlisted : Prog.Yields (MayAsk false) Had later
      (call client .listConnections ServiceReply.connections) :=
        yields_over hhas (only_call client _ _)
  refine hlisted.mono ?_
  intro later' connections hhad _
  exact yields_readIdentities _ _ hhad

/-- Every member asks only for what it may, and returns nothing without a client. -/
theorem yields_member (setting : Setting R) (call : BusCall) :
    Prog.Yields (MayAsk call.takesOnce) Had [] (member setting call) := by
  cases call with
  | listToolkits => exact Had.map (yields_listToolkits _) _
  | authorize toolkit extraParams => exact Had.map (yields_authorize _ _) _
  | listTools toolkits tags applyUserScopes => exact Had.map (yields_listTools _ _ _ _) _
  | execute tool arguments connectionId => exact Had.map (yields_execute _ _ _) _
  | getUserProfile toolkit connectionId => exact Had.map (yields_getUserProfile _ _) _
  | refreshAllIdentities => exact Had.map yields_refreshAllIdentities _
  | listConnectedIntegrations mode => exact Had.map (yields_connectedIntegrations _ _ _) _
  | _ => exact Had.map (yields_handOn _ _) _

end Calls

/-! ## Every interleaving -/

/-- What a call has done over which client. -/
structure KeepsRoute (place : Place (Option R)) (call : BusCall) (began : ℕ)
    (past : List (Exchange R))
      (program : Prog (ServiceCall R) (ServiceReply R) (Except MemberError BusReply)) :
    Prop where
  /-- No client that was replaced before the call is used. -/
  held : ∀ exchange ∈ past, ∀ client request, exchange.1 = .route client request →
    place.HeldSince began (· = some client)
  /-- But for the identity reads, a call uses one client, whatever is configured meanwhile. -/
  one : call.takesOnce = true → ∀ x ∈ past, ∀ y ∈ past, ∀ client client' request request',
    x.1 = .route client request → y.1 = .route client' request' → client = client'
  /-- A value is returned only where there was a client since the call. -/
  answered : ∀ reply, program = .done (.ok reply) →
    ∃ client, place.HeldSince began (· = some client)

section Allowed

variable {once : Bool} {past : List (Exchange R)} {place : Place (Option R)} {began : ℕ}

theorem heldSince_of_has {client : R}
    (hserved : ∀ exchange ∈ past,
    place.HeldSince began fun found => Serves exchange.1 found exchange.2)
    (h : Has past client) : place.HeldSince began (· = some client) := by
  obtain ⟨reply, hmem, hclient⟩ := h
  refine (hserved _ hmem).imp ?_
  intro found hfound
  exact hfound.symm.trans hclient

/-- A request of the route is over a client that was given before it. -/
theorem has_of_allowed (h : Allowed (MayAsk once) past) {exchange : Exchange R}
    (hmem : exchange ∈ past) {client : R} {request : RouteRequest}
    (hroute : exchange.1 = .route client request) : Has past client := by
  obtain ⟨before, later, rfl⟩ := List.append_of_mem hmem
  have hmay := h before exchange later rfl
  rw [hroute] at hmay
  exact Has.mono hmay (List.prefix_append before _)

/-- A client asked for once is one. -/
theorem eq_of_client (h : Allowed (MayAsk true) past) {x y : Exchange R} (hx : x ∈ past)
    (hy : y ∈ past) (hxc : x.1 = .client) (hyc : y.1 = .client) : x = y := by
  obtain ⟨before, later, rfl⟩ := List.append_of_mem hx
  have hfirst := h before x later rfl
  rw [hxc] at hfirst
  rcases List.mem_append.mp hy with hy | hy
  · exact absurd hyc (hfirst rfl y hy)
  rcases List.mem_cons.mp hy with rfl | hy
  · rfl
  -- the later of the two would be asked for after the earlier
  obtain ⟨middle, rest, rfl⟩ := List.append_of_mem hy
  have hsecond := h (before ++ x :: middle) y rest (by simp)
  rw [hyc] at hsecond
  exact absurd hxc (hsecond rfl x (List.mem_append_right before List.mem_cons_self))

theorem eq_of_has (h : Allowed (MayAsk true) past) {client client' : R} (hhas : Has past client)
    (hhas' : Has past client') : client = client' := by
  obtain ⟨reply, hmem, hclient⟩ := hhas
  obtain ⟨reply', hmem', hclient'⟩ := hhas'
  have hsame := eq_of_client h hmem hmem' rfl rfl
  rw [Prod.mk.injEq] at hsame
  rw [← hsame.2, hclient, Option.some_inj] at hclient'
  exact hclient'

end Allowed

/-- In every order of steps of the calls and of `Configure`. -/
theorem keepsRoute {ι : Type} [DecidableEq ι] (setting : Setting R)
    {c c' : Config ι (Task BusCall (ServiceCall R) (ServiceReply R) (Except MemberError BusReply))
      (Place (Option R))}
    (hcalled : ∀ i, ∃ call, c.tasks i = .called call)
    (hrun : (sessions (fun call => (member setting call).run) Serves).Run c c') {i : ι}
    {call : BusCall} {began : ℕ} {past : List (Exchange R)}
    {program : Prog (ServiceCall R) (ServiceReply R) (Except MemberError BusReply)}
    (hi : c'.tasks i = .running call began past program) :
    KeepsRoute c'.store call began past program := by
  have hstands := stands_of_run (fun call => (yields_member setting call).ensures) hcalled hrun hi
  constructor
  · intro exchange hmem client request hroute
    exact heldSince_of_has hstands.served (has_of_allowed hstands.allowed hmem hroute)
  · intro honce x hx y hy client client' request request' hxr hyr
    have hallowed := hstands.allowed
    rw [honce] at hallowed
    exact eq_of_has hallowed (has_of_allowed hallowed hx hxr) (has_of_allowed hallowed hy hyr)
  · rintro reply rfl
    obtain ⟨client, hhas⟩ := hstands.rest reply rfl
    exact ⟨client, heldSince_of_has hstands.served hhas⟩

/-! A listing whose route is taken away after it has been given the client. -/

section Example

/-- A module that offers everything. -/
def plainSetting : Setting String where
  routeName := id
  upper := asciiUppercase
  offered := .default

/-- Surroundings with this client, which answer everything with nothing. -/
def emptyReply (client : Option String) : ServiceReply String where
  client := client
  toolkits := .ok ⟨[], []⟩
  connections := .ok []
  tools := .ok ⟨[]⟩
  executed := .ok ⟨.null, true, none, 0, none⟩
  handoff := .ok ⟨"", ""⟩
  deletion := .ok ⟨false⟩
  payload := .ok .null
  pref := .ok none

/-- The exchanges of a listing. -/
def listingExchanges : List (Exchange String) :=
  [(.client, emptyReply (some "proxy")), (.route "proxy" .listConnections, emptyReply none)]

/-- Called, with a client in the slot. -/
def calledWith (call : BusCall) :
    Config Unit (Task BusCall (ServiceCall String) (ServiceReply String)
    (Except MemberError BusReply)) (Place (Option String)) :=
  ⟨fun _ => .called call, ⟨some "proxy", []⟩⟩

/-- Returned, with the slot empty. -/
def returnedWithout (call : BusCall) (past : List (Exchange String))
    (outcome : Except MemberError BusReply) :
    Config Unit (Task BusCall (ServiceCall String) (ServiceReply String)
      (Except MemberError BusReply)) (Place (Option String)) :=
  ⟨fun _ => .running call 0 past (.done outcome), ⟨none, [some "proxy"]⟩⟩

theorem listing_run : (sessions (fun call => (member plainSetting call).run) Serves).Run
    (calledWith .listConnections)
    (returnedWithout .listConnections listingExchanges (.ok (.handedOn .null))) := by
  obtain ⟨rest, hclient, hroute⟩ : ∃ rest,
      Leads [(.client, emptyReply (some "proxy"))] (member plainSetting .listConnections).run rest ∧
        Leads [(.route "proxy" .listConnections, emptyReply none)] rest
          (.done (.ok (.handedOn .null))) :=
    ⟨_, .ask (.refl _), .ask (.refl _)⟩
  have hbefore : (sessions (fun call => (member plainSetting call).run) Serves).Alone
      (.called .listConnections, ⟨some "proxy", []⟩)
      (.running .listConnections 0 [(.client, emptyReply (some "proxy"))] rest,
        ⟨some "proxy", []⟩) :=
    alone_called hclient (List.forall_mem_singleton.mpr rfl)
  have hafter : (sessions (fun call => (member plainSetting call).run) Serves).Alone
      (.running .listConnections 0 [(.client, emptyReply (some "proxy"))] rest,
        ⟨none, [some "proxy"]⟩)
      (.running .listConnections 0 listingExchanges (.done (.ok (.handedOn .null))),
        ⟨none, [some "proxy"]⟩) :=
    hroute.alone (List.forall_mem_singleton.mpr trivial) _ _ _
  exact (hbefore.run.tail (System.Step.env ⟨none, rfl⟩)).trans hafter.run

/-- The listing goes on over the client it was given. -/
theorem keepsRoute_replaced :
    KeepsRoute (returnedWithout .listConnections listingExchanges (.ok (.handedOn .null))).store
      .listConnections 0 listingExchanges (.done (.ok (.handedOn .null))) :=
  keepsRoute plainSetting (fun _ => ⟨_, rfl⟩) listing_run
    (show (returnedWithout .listConnections listingExchanges _).tasks () = _ from rfl)

end Example

end Members
