/-
# Members that are answered at once

Where the slot, the route and the store answer alike throughout a call, the members are the
functions of `ScopeCheck` and `Listing/Members`: what is proved of those holds of a member
that nothing comes between.
-/
import TinyConnectors.TinybusModule.Members

open RustStr
open Client (RouteRequest)
open Members (Member MemberError ServiceCall ServiceReply call loadPref prefsGet)

namespace Agreement

variable {R : Type} {answer : ServiceCall R → ServiceReply R}

/-- The store answers for the preferences. -/
def Stored (prefs : PrefsStore) (answer : ServiceCall R → ServiceReply R) : Prop :=
  ∀ key, (answer (.prefs key)).pref = prefs.get key

/-- What a member comes to under these surroundings. -/
def comesTo {α : Type} (answer : ServiceCall R → ServiceReply R) (p : Member R α) :
    Except MemberError α :=
  p.run.under answer

section Comes

variable {α β : Type}

theorem comesTo_bind (p : Member R α) (f : α → Member R β) :
    comesTo answer (p >>= f) = (comesTo answer p).bind fun a => comesTo answer (f a) :=
  Prog.under_andThen answer p f

theorem comesTo_ite {c : Prop} [Decidable c] (p p' : Member R α) :
    comesTo answer (if c then p else p') = if c then comesTo answer p else comesTo answer p' := by
  split_ifs
  · rfl
  · rfl

theorem comesTo_attempt {ε : Type} (p : ExceptT ε (Prog (ServiceCall R) (ServiceReply R)) α) :
    comesTo answer (ExceptT.lift p.run) = .ok (p.run.under answer) :=
  Prog.under_attempt answer p.run

theorem comesTo_call (client : R) (request : RouteRequest)
    (field : ServiceReply R → Except Direct.Error α) :
    comesTo answer (call client request field) =
      (field (answer (.route client request))).mapError fun error => .client (.route error) := rfl

theorem mapError_bind {ε ε' : Type} (told : ε → ε') (x : Except ε α) (f : α → Except ε β) :
    (x.bind f).mapError told = (x.mapError told).bind fun a => (f a).mapError told := by
  cases x with
  | ok a => rfl
  | error e => rfl

end Comes

/-! ## Preferences -/

section Preferences

variable {prefs : PrefsStore} (hstored : Stored prefs answer)

include hstored

theorem prefsGet_eq (key : String) :
    comesTo answer (prefsGet key) = (prefs.get key).mapError fun error => .bus (.prefs error) := by
  rw [← hstored key]
  rfl

theorem loadPref_eq (toolkit : String) : comesTo answer (loadPref toolkit) =
    ((UserScopePref.load prefs toolkit).mapError BusError.prefs).mapError .bus := by
  rw [loadPref, comesTo_bind, prefsGet_eq hstored, UserScopePref.load]
  cases prefs.get (UserScopePref.key toolkit) with
  | error error => rfl
  | ok found =>
    cases found with
    | none => rfl
    | some value =>
      cases hpref : UserScopePref.fromValue value with
      | ok pref =>
        simp only [Except.mapError, Except.bind, hpref]
        rfl
      | error fault =>
        simp only [Except.mapError, Except.bind, hpref]
        rfl

theorem prefForToolkits_eq (toolkits : List String) :
    comesTo answer (Members.prefForToolkits toolkits) =
      (prefForToolkits prefs toolkits).mapError .bus := by
  induction toolkits with
  | nil => rfl
  | cons toolkit rest ih =>
    rw [Members.prefForToolkits, comesTo_bind, prefsGet_eq hstored, prefForToolkits]
    cases prefs.get (UserScopePref.key toolkit) with
    | error error => rfl
    | ok found =>
      cases found with
      | none => exact ih
      | some value => exact loadPref_eq hstored toolkit

theorem prefFor_eq (action : String) :
    comesTo answer (Members.prefFor action) = (prefFor prefs action).mapError .bus :=
  prefForToolkits_eq hstored _

theorem permits_eq (route : Option String) (action : String) :
    comesTo answer (Members.permits action) =
    ((ConnectorService.load route prefs).permits action).mapError .bus := by
  unfold Members.permits ConnectorService.permits
  cases Sync.toolkitFromSlug action with
  | none => rfl
  | some toolkit =>
    dsimp only
    rw [comesTo_bind, prefFor_eq hstored]
    show _ = ((prefFor prefs action).map _).mapError _
    cases prefFor prefs action with
    | ok pref => rfl
    | error error => rfl

theorem listed_eq (route : Option String) (action : String) :
    comesTo answer (Members.listed action) =
    ((ConnectorService.load route prefs).listed action).mapError .bus := by
  unfold Members.listed ConnectorService.listed
  cases Sync.toolkitFromSlug action with
  | none => rfl
  | some toolkit =>
    dsimp only
    rw [comesTo_bind, prefFor_eq hstored]
    show _ = ((prefFor prefs action).map _).mapError _
    cases prefFor prefs action with
    | ok pref => rfl
    | error error => rfl

theorem retainListed_eq (route : Option String) (offered : OfferedToolkits)
    (tools : List ComposioToolSchema) : comesTo answer (Members.retainListed tools) =
      ((ListingService.load route prefs offered).retainListed tools).mapError .bus := by
  induction tools with
  | nil => rfl
  | cons tool rest ih =>
    rw [Members.retainListed, ListingService.retainListed, comesTo_bind, listed_eq hstored route]
    show Except.bind _ _ = Except.mapError _ (Except.bind _ _)
    rw [mapError_bind]
    show Except.bind (((ConnectorService.load route prefs).listed _).mapError _) _ = _
    congr 1
    funext keep
    rw [comesTo_bind, ih]
    show _ = Except.mapError _ (Except.bind _ _)
    rw [mapError_bind]
    rfl

theorem loadPreferences_eq (route : Option String) (offered : OfferedToolkits)
    (toolkits : List String) :
    comesTo answer (Members.loadPreferences toolkits) =
      ((ListingService.load route prefs offered).loadPreferences toolkits).mapError .bus := by
  induction toolkits with
  | nil => rfl
  | cons toolkit rest ih =>
    rw [Members.loadPreferences, ListingService.loadPreferences, comesTo_bind, loadPref_eq hstored]
    show _ = Except.mapError _ (Except.bind _ _)
    rw [mapError_bind]
    congr 1
    funext preference
    rw [comesTo_bind, ih]
    show _ = Except.mapError _ (Except.bind _ _)
    rw [mapError_bind]
    rfl

end Preferences

/-! ## Listings -/

section Listings

variable (shown : InvalidArguments → String)

/-- What the route answers, with each failure as it is put on the bus. -/
def repliesOf (answer : ServiceCall R → ServiceReply R) (client : R) : RouteListings where
  toolkits := (answer (.route client .listToolkits)).toolkits.mapError fun error =>
    .failed error.text
  connections :=
    (answer (.route client .listConnections)).connections.mapError fun error => .failed error.text
  tools toolkits :=
    (answer (.route client (.listTools toolkits []))).tools.mapError fun error => .failed error.text

theorem told_mapError {α : Type} (x : Except Direct.Error α) :
    (x.mapError fun error => MemberError.client (.route error)).mapError (MemberError.told shown) =
      x.mapError fun error => .failed error.text := by
  cases x with
  | ok a => rfl
  | error error => rfl

theorem backendListings_eq (client : R) :
    (comesTo answer (Members.backendListings client)).mapError (MemberError.told shown) =
      ListingService.backendListings (repliesOf answer client) := by
  rw [Members.backendListings, comesTo_bind, comesTo_call, mapError_bind, told_mapError]
  show _ = Except.bind (repliesOf answer client).toolkits _
  congr 1
  funext toolkits
  rw [comesTo_ite, apply_ite (Except.mapError _)]
  congr 1
  rw [comesTo_bind, comesTo_call, mapError_bind, told_mapError]
  show _ = Except.bind (repliesOf answer client).connections _
  congr 1
  funext connections
  dsimp only
  rw [comesTo_ite, apply_ite (Except.mapError _)]
  congr 1
  rw [comesTo_bind, comesTo_call, mapError_bind, told_mapError]
  rfl

theorem directListings_eq (client : R) :
    (comesTo answer (Members.directListings client)).mapError (MemberError.told shown) =
      ListingService.directListings (repliesOf answer client) := by
  rw [Members.directListings, comesTo_bind, comesTo_call, mapError_bind, told_mapError]
  show _ = Except.bind (repliesOf answer client).connections _
  congr 1
  funext connections
  dsimp only
  rw [comesTo_ite, apply_ite (Except.mapError _)]
  congr 1
  rw [comesTo_bind, comesTo_attempt]
  show Except.mapError _ (Except.bind (.ok (comesTo answer (call _ _ _))) _) = _
  rw [comesTo_call]
  simp only [repliesOf]
  cases (answer (.route client (.listTools (activeToolkits connections) []))).tools with
  | ok listing => rfl
  | error error => rfl

theorem fetchListings_eq (client : R) (mode : ComposioConnectedIntegrationsMode) :
    (comesTo answer (Members.fetchListings client mode)).mapError (MemberError.told shown) =
      ListingService.fetchListings (repliesOf answer client) mode := by
  cases mode with
  | backend => exact backendListings_eq shown client
  | direct => exact directListings_eq shown client

end Listings

/-! ## The members -/

section Whole

variable (shown : InvalidArguments → String) {prefs : PrefsStore} (hstored : Stored prefs answer)

theorem told_bus {α : Type} (x : Except BusError α) :
    (x.mapError MemberError.bus).mapError (MemberError.told shown) = x := by
  cases x with
  | ok a => rfl
  | error error => rfl

theorem client_eq {client : R} (hclient : (answer .client).client = some client) :
    comesTo answer Members.client = .ok client := by
  show (answer .client).client.elim _ _ = _
  rw [hclient]
  rfl

/-- `ListTools` over the client in the slot. -/
theorem listTools_eq {client : R} (hclient : (answer .client).client = some client)
    (hstored : Stored prefs answer) (route : String) (offered : OfferedToolkits)
    (toolkits tags : List String) (applyUserScopes : Bool) :
    (comesTo answer (Members.listTools offered toolkits tags applyUserScopes)).mapError
        (MemberError.told shown) =
      (ListingService.load (some route) prefs offered).listTools applyUserScopes
        ((answer (.route client (.listTools toolkits tags))).tools.mapError fun error =>
          .failed error.text) := by
  rw [Members.listTools, comesTo_bind, client_eq hclient]
  show Except.mapError _ (comesTo answer _) = Except.bind _ _
  rw [comesTo_bind, comesTo_call, mapError_bind, told_mapError]
  congr 1
  funext response
  rw [comesTo_ite, apply_ite (Except.mapError _)]
  congr 1
  rw [comesTo_bind, retainListed_eq hstored (some route) offered, mapError_bind, told_bus]
  rfl

/-- The overview over the client in the slot. -/
theorem connectedIntegrations_eq {client : R} (hclient : (answer .client).client = some client)
    (hstored : Stored prefs answer) (routeName : R → String) (upper : Uppercase)
    (offered : OfferedToolkits) (mode : ComposioConnectedIntegrationsMode) :
    (comesTo answer (Members.connectedIntegrations routeName upper mode)).mapError
        (MemberError.told shown) =
      ListingService.connectedIntegrations upper
        (ListingService.load (some (routeName client)) prefs offered) mode
        (repliesOf answer client) := by
  rw [Members.connectedIntegrations, comesTo_bind, client_eq hclient]
  show Except.mapError _ (comesTo answer _) = (if _ then _ else _)
  rw [comesTo_ite, apply_ite (Except.mapError _)]
  congr 1
  -- over the route that the mode is served by
  rw [comesTo_bind, mapError_bind, fetchListings_eq]
  show _ = Except.bind _ _
  congr 1
  funext listings
  cases listings with
  | none => rfl
  | some listings =>
    dsimp only
    rw [comesTo_bind, loadPreferences_eq hstored (some (routeName client)) offered, mapError_bind,
      told_bus]
    rfl

/-- What is left of a connection id is the same for both. -/
theorem namedConnection_eq (connectionId : Option String) : Execute.namedConnection connectionId =
    (connectionId.map trim).filter fun id => id ≠ "" := by
  rw [Execute.namedConnection]
  congr 1
  funext id
  rw [Bool.eq_iff_iff]
  simp

/-- A permitted action goes to the client in the slot. -/
theorem execute_eq {client : R} (hclient : (answer .client).client = some client)
    (hstored : Stored prefs answer) {route tool : String} (arguments : Option Json)
    (connectionId : Option String)
    (hpermits : (ConnectorService.load (some route) prefs).permits tool = .ok true) :
    comesTo answer (Members.execute tool arguments connectionId) =
      ((Members.runExecute client tool arguments connectionId).under answer).mapError
        (MemberError.execute tool) := by
  rw [Members.execute, comesTo_bind, permits_eq hstored (some route), hpermits]
  show comesTo answer (Members.client >>= _) = _
  rw [comesTo_bind, client_eq hclient]
  show comesTo answer
    (ExceptT.lift (Members.runExecute client tool arguments connectionId) >>= _) = _
  rw [comesTo_bind, comesTo, Prog.under_attempt]
  rfl

/-- The call that `executeChecked` hands to the route is the first that `Execute` makes. -/
theorem runExecute_of_executeChecked {route tool : String} {arguments : Option Json}
    {connectionId : Option String} {sent : RouteCall}
    (h : (ConnectorService.load (some route) prefs).executeChecked tool arguments connectionId =
      .ok sent) (client : R) :
    ∃ next, Members.runExecute client tool arguments connectionId =
      .ask (.route client (.execute sent.tool sent.arguments sent.connectionId)) next := by
  rw [ConnectorService.executeChecked, permits_of_executeChecked h] at h
  cases hprepared : prepareExecuteArguments (trim tool) arguments with
  | error fault =>
    simp [ConnectorService.load, executeAction, hprepared, bind, Except.bind, Except.mapError] at h
  | ok prepared =>
    have hsent : sent = ⟨route, trim tool, prepared, Execute.namedConnection connectionId⟩ := by
      rw [namedConnection_eq]
      simp only [ConnectorService.load, executeAction, hprepared, bind, Except.bind, pure,
        Except.pure, Except.mapError, Except.ok.injEq] at h
      exact h.symm
    subst hsent
    rw [Members.runExecute, Execute.executeAction, hprepared]
    exact ⟨_, rfl⟩

/-- Before it reaches the route it fails as `executeChecked` does. -/
theorem execute_error {client : R} (hclient : (answer .client).client = some client)
    (hstored : Stored prefs answer) {route tool : String} {arguments : Option Json}
    {connectionId : Option String} {error : BusError}
    (h : (ConnectorService.load (some route) prefs).executeChecked tool arguments connectionId =
      .error error) :
    (comesTo answer (Members.execute tool arguments connectionId)).mapError
      (MemberError.told shown) =
      .error error := by
  rw [ConnectorService.executeChecked] at h
  cases hpermits : (ConnectorService.load (some route) prefs).permits tool with
  | error denied =>
    rw [hpermits] at h
    cases h
    rw [Members.execute, comesTo_bind, permits_eq hstored (some route), hpermits]
    rfl
  -- `false` is a refusal by the scope; past it only the arguments can refuse
  | ok permitted =>
    rw [hpermits] at h
    cases permitted with
    | false =>
      cases h
      rw [Members.execute, comesTo_bind, permits_eq hstored (some route), hpermits]
      rfl
    | true =>
      rw [execute_eq hclient hstored arguments connectionId hpermits]
      cases hprepared : prepareExecuteArguments (trim tool) arguments with
      | error fault =>
        simp only [ConnectorService.load, executeAction, hprepared, bind, Except.bind,
          Except.mapError, Except.error.injEq] at h
        subst h
        rw [Members.runExecute, Execute.executeAction, hprepared]
        rfl
      | ok prepared =>
        simp [ConnectorService.load, executeAction, hprepared, bind, Except.bind, pure, Except.pure,
          Except.mapError] at h

/-- Without a client in the slot, both are refused with the same text. -/
theorem refused_eq (hclient : (answer .client).client = none) (offered : OfferedToolkits)
    (toolkits tags : List String) (applyUserScopes : Bool)
    (reply : Except BusError ComposioToolsResponse) :
    (comesTo answer (Members.listTools offered toolkits tags applyUserScopes)).mapError
        (MemberError.told shown) =
      (ListingService.load none prefs offered).listTools applyUserScopes reply := by
  rw [Members.listTools, comesTo_bind]
  have hnone : ∃ error, comesTo answer Members.client = .error (.bus error) ∧
      (ListingService.load none prefs offered).route = .error error := by
    refine ⟨_, ?_, rfl⟩
    show (answer .client).client.elim _ _ = _
    rw [hclient]
    rfl
  obtain ⟨error, hmember, hroute⟩ := hnone
  rw [hmember, ListingService.listTools]
  show _ = Except.bind (ListingService.load none prefs offered).route _
  rw [hroute]
  rfl

end Whole

end Agreement
