/-
# The scope check

`tinybus_module/mod.rs`: what execution permits (`permits`), what a listing
offers (`listed`), and the call that is handed to the route
(`executeChecked`).  Everything rests on one equation, `requiredScope_eq`: the
curated scope of an action is consulted exactly when its toolkit has a
registered provider and the slug is unpadded; otherwise the verb heuristic
decides.
-/
import TinyConnectors.Catalog.Lookup
import TinyConnectors.Prefs
import TinyConnectors.Prepare

open RustStr

/-- What a member answers a caller with when it fails. -/
inductive BusError where
  /-- A text of the module's own. -/
  | failed (message : String)
  /-- A preference error, with its own text. -/
  | prefs (error : SyncError)
  /-- The formatted provider error of a call that never reached the route. -/
  | provider (tool : String) (error : InvalidArguments)
  deriving DecidableEq

/-- The call a route receives.  The retries of one execution repeat this call. -/
structure RouteCall where
  route : String
  tool : String
  arguments : Json
  connectionId : Option String
  deriving DecidableEq

/-- The parts of the bus service the scope check reads. -/
structure ConnectorService where
  /-- The name of the configured route, if there is one. -/
  client : Option String
  registry : ProviderRegistry
  prefs : PrefsStore

/-- The service as the module assembles it. -/
def ConnectorService.load (client : Option String) (prefs : PrefsStore) : ConnectorService where
  client := client
  registry := defaultRegistry
  prefs := prefs

/-! ## Resolving the preference -/

/-- The preference saved under the first of `toolkits` that has a row. -/
def prefForToolkits (prefs : PrefsStore) : List String → Except BusError UserScopePref
  | [] => .ok UserScopePref.default
  | toolkit :: rest =>
    match prefs.get (UserScopePref.key toolkit) with
    | .error error => .error (.prefs error)
    | .ok none => prefForToolkits prefs rest
    | .ok (some _) => (UserScopePref.load prefs toolkit).mapError .prefs

/-- The preference governing `action`: the one saved under the longest toolkit
name its slug starts with, or the default if none is. -/
def prefFor (prefs : PrefsStore) (action : String) : Except BusError UserScopePref :=
  prefForToolkits prefs (rmatchPrefixes (toAsciiLowercase (trim action)) '_')

@[simp] theorem prefFor_trim (prefs : PrefsStore) (action : String) :
    prefFor prefs (trim action) = prefFor prefs action := by
  simp [prefFor]

/-! ## The two predicates -/

/-- The scope `permits` charges `action` with: its provider's curated scope, or
the verb heuristic's. -/
def requiredScope (registry : ProviderRegistry) (toolkit action : String) : ToolScope :=
  let curated := (registry.get toolkit).bind fun provider =>
    provider.curatedTools.bind fun catalog => (findCurated catalog action).map CuratedTool.scope
  curated.getD (Sync.classifyUnknown action)

namespace ConnectorService

/-- Whether the user's preference permits `action`. -/
def permits (service : ConnectorService) (action : String) : Except BusError Bool :=
  match Sync.toolkitFromSlug action with
  | none => .ok true
  | some toolkit =>
    (prefFor service.prefs action).map fun pref =>
      pref.allows (requiredScope service.registry toolkit action)

/-- Whether a listing offers `action` under the stored scope preference. -/
def listed (service : ConnectorService) (action : String) : Except BusError Bool :=
  match Sync.toolkitFromSlug action with
  | none => .ok true
  | some _ =>
    (prefFor service.prefs action).map fun pref => isActionVisibleWithPref action pref

end ConnectorService

/-! ## Execution -/

/-- The call `execute_action` dispatches over `route`. -/
def executeAction (route tool : String) (arguments : Option Json) (connectionId : Option String) :
    Except InvalidArguments RouteCall := do
  let tool := trim tool
  let prepared ← prepareExecuteArguments tool arguments
  let connectionId := (connectionId.map trim).filter fun id => id ≠ ""
  return { route, tool, arguments := prepared, connectionId }

/-- Runs one action after enforcing the stored scope preference; the result is
the call the route receives. -/
def ConnectorService.executeChecked (service : ConnectorService) (tool : String)
    (arguments : Option Json) (connectionId : Option String) : Except BusError RouteCall :=
  match service.permits tool with
  | .error error => .error error
  | .ok false => .error (.failed (s!"`{tool}` is not permitted: " ++
      "the scope preference for this toolkit does not allow it"))
  | .ok true =>
    match service.client with
    | none =>
        .error (.failed ("this module was loaded without a connector route: pass a `route` " ++
        "of \"proxy\" or \"direct\" in its configuration, or call Configure, to reach Composio"))
    | some route =>
      (executeAction route tool arguments connectionId).mapError (.provider tool)

/-- Only a permitted action reaches the route. -/
theorem permits_of_executeChecked {service : ConnectorService} {tool : String}
    {arguments : Option Json} {connectionId : Option String} {call : RouteCall}
    (h : service.executeChecked tool arguments connectionId = .ok call) :
    service.permits tool = .ok true := by
  unfold ConnectorService.executeChecked at h
  split at h
  · cases h
  · cases h
  · assumption

/-- A permitted action reaches a configured route with some arguments. -/
theorem exists_executeChecked {service : ConnectorService} {tool route : String}
    (hroute : service.client = some route) (hpermits : service.permits tool = .ok true) :
    ∃ arguments call, service.executeChecked tool arguments none = .ok call := by
  obtain ⟨prepared, hprepared⟩ := exists_prepareExecuteArguments_ok (trim tool)
  have haction : executeAction route tool (some (.obj acceptedArguments)) none =
      .ok ⟨route, trim tool, prepared, none⟩ := by
    simp only [executeAction, hprepared, bind, Except.bind, pure, Except.pure, Option.map_none,
      Option.filter_none]
  refine ⟨some (.obj acceptedArguments), ⟨route, trim tool, prepared, none⟩, ?_⟩
  rw [ConnectorService.executeChecked, hpermits, hroute]
  simp only [haction, Except.mapError]

/-! ## What scope an action is charged with -/

/-- The curated scope counts exactly for the unpadded actions of registered
toolkits; every other action is judged by its verb. -/
theorem requiredScope_eq {action toolkit : String}
    (htoolkit : Sync.toolkitFromSlug action = some toolkit) :
    requiredScope defaultRegistry toolkit action =
      if hasProvider action = true ∧ trim action = action then
        (curatedScopeFor action).getD (Sync.classifyUnknown action)
      else Sync.classifyUnknown action := by
  unfold requiredScope
  cases hprovider : defaultRegistry.get toolkit with
  | none =>
    have hno : hasProvider action = false := by simp [hasProvider, htoolkit, hprovider]
    simp [hno]
  | some provider =>
    have hyes : hasProvider action = true := by simp [hasProvider, htoolkit, hprovider]
    by_cases hpad : trim action = action
    · rw [if_pos ⟨hyes, hpad⟩, curatedScopeFor_of_provider htoolkit hprovider,
        Option.bind_some]
    · rw [if_neg (fun h => hpad h.2), Option.bind_some, findCurated_provider_padded hprovider hpad,
        Option.getD_none]

/-- `permits`, for the module's own service and a slug that names a toolkit. -/
theorem permits_load {client : Option String} {prefs : PrefsStore} {action toolkit : String}
    (htoolkit : Sync.toolkitFromSlug action = some toolkit) :
    (ConnectorService.load client prefs).permits action =
      (prefFor prefs action).map fun pref => pref.allows
        (requiredScope defaultRegistry toolkit action) := by
  simp only [ConnectorService.permits, ConnectorService.load, htoolkit]

theorem permits_load_iff {client : Option String} {prefs : PrefsStore} {action toolkit : String}
    (htoolkit : Sync.toolkitFromSlug action = some toolkit) :
    (ConnectorService.load client prefs).permits action = .ok true ↔
      ∃ pref, prefFor prefs action = .ok pref ∧
        pref.allows (requiredScope defaultRegistry toolkit action) = true := by
  rw [permits_load htoolkit]
  cases prefFor prefs action with
  | error error => simp [Except.map]
  | ok pref => simp [Except.map]

/-! ## Execution against the curated scope -/

/-- `tool`, if curated, reaches the route only under a preference that allows
its curated scope. -/
def EnforcesCuratedScope (prefs : PrefsStore) (tool : String) : Prop :=
  ∀ client arguments connectionId call scope,
    curatedScopeFor (trim tool) = some scope →
    (ConnectorService.load client prefs).executeChecked tool arguments connectionId = .ok call →
    ∃ pref, prefFor prefs tool = .ok pref ∧ pref.allows scope = true

/-- A curated action names a toolkit for both parsers. -/
theorem exists_toolkit_of_curated {tool : String} {scope : ToolScope}
    (h : curatedScopeFor (trim tool) = some scope) :
    ∃ toolkit, Sync.toolkitFromSlug tool = some toolkit := by
  obtain ⟨toolkit, htoolkit, -⟩ := Option.bind_eq_some_iff.mp h
  rw [Bus.toolkitFromSlug_trim] at htoolkit
  have hbus : (Bus.toolkitFromSlug tool).isSome = true := by simp [htoolkit]
  rw [← isSome_toolkitFromSlug] at hbus
  exact Option.isSome_iff_exists.mp hbus

/-- Exactly when the curated scope is enforced: the curated scope is allowed
anyway, or the action is the unpadded action of a registered toolkit, or the
verb heuristic refuses it too. -/
theorem enforcesCuratedScope_iff (prefs : PrefsStore) (tool : String) :
    EnforcesCuratedScope prefs tool ↔
      ∀ scope pref, curatedScopeFor (trim tool) = some scope → prefFor prefs tool = .ok pref →
        pref.allows scope = true ∨ (hasProvider tool = true ∧ trim tool = tool) ∨
          pref.allows (Sync.classifyUnknown tool) = false := by
  constructor
  · intro henforces scope pref hcurated hpref
    obtain ⟨toolkit, htoolkit⟩ := exists_toolkit_of_curated hcurated
    by_cases hlooked : hasProvider tool = true ∧ trim tool = tool
    · exact .inr (.inl hlooked)
    · cases hverb : pref.allows (Sync.classifyUnknown tool) with
      | false => exact .inr (.inr rfl)
      | true =>
        -- the verb heuristic lets the call through, so the enforced scope is allowed
        have hpermits : (ConnectorService.load (some "proxy") prefs).permits tool = .ok true := by
          refine (permits_load_iff htoolkit).mpr ⟨pref, hpref, ?_⟩
          rw [requiredScope_eq htoolkit, if_neg hlooked]
          exact hverb
        obtain ⟨arguments, call, hcall⟩ := exists_executeChecked rfl hpermits
        obtain ⟨pref', hpref', hallows⟩ := henforces _ _ _ _ _ hcurated hcall
        rw [hpref, Except.ok.injEq] at hpref'
        exact .inl (hpref' ▸ hallows)
  · intro hcond client arguments connectionId call scope hcurated hcall
    obtain ⟨toolkit, htoolkit⟩ := exists_toolkit_of_curated hcurated
    obtain ⟨pref, hpref, hallows⟩ :=
      (permits_load_iff htoolkit).mp (permits_of_executeChecked hcall)
    refine ⟨pref, hpref, ?_⟩
    rw [requiredScope_eq htoolkit] at hallows
    rcases hcond scope pref hcurated hpref with hscope | ⟨hprovider, hpad⟩ | hverb
    · exact hscope
    · rw [if_pos ⟨hprovider, hpad⟩, ← hpad, hcurated] at hallows
      exact hallows
    · by_cases hlooked : hasProvider tool = true ∧ trim tool = tool
      · rw [if_pos hlooked, ← hlooked.2, hcurated] at hallows
        exact hallows
      · rw [if_neg hlooked, hverb] at hallows
        exact absurd hallows Bool.false_ne_true

/-- A read-only preference lets a curated write of Dropbox through. -/
theorem not_enforcesCuratedScope_dropbox :
    ¬ EnforcesCuratedScope
      (PrefsStore.ofRows [("dropbox", (UserScopePref.mk true false false).toValue)])
      "DROPBOX_ALPHA_UPLOAD_FILE" := by
  intro henforces
  obtain ⟨pref, hpref, hallows⟩ :=
    henforces (some "proxy") none none
      ⟨"proxy", "DROPBOX_ALPHA_UPLOAD_FILE", .obj [], none⟩ .write (by decide +kernel)
      (by decide +kernel)
  have hread : prefFor (PrefsStore.ofRows [("dropbox",
      (UserScopePref.mk true false false).toValue)]) "DROPBOX_ALPHA_UPLOAD_FILE" =
        .ok (UserScopePref.mk true false false) := by
    decide +kernel
  rw [hread, Except.ok.injEq] at hpref
  subst hpref
  exact absurd hallows (by decide)

/-! ## Listings against execution -/

/-- What a listing offers under `prefs`, execution permits. -/
def ListedIsPermitted (prefs : PrefsStore) (action : String) : Prop :=
  ∀ client, (ConnectorService.load client prefs).listed action = .ok true →
    (ConnectorService.load client prefs).permits action = .ok true

theorem listed_load_iff {client : Option String} {prefs : PrefsStore} {action toolkit : String}
    (htoolkit : Sync.toolkitFromSlug action = some toolkit) :
    (ConnectorService.load client prefs).listed action = .ok true ↔
      ∃ pref, prefFor prefs action = .ok pref ∧ isActionVisibleWithPref action pref = true := by
  simp only [ConnectorService.listed, ConnectorService.load, htoolkit]
  cases prefFor prefs action with
  | error error => simp [Except.map]
  | ok pref => simp [Except.map]

/-- The scope a listing charges `action` with: the curated one where the toolkit
has a catalog (and none for an action outside it), the vocabulary's verb
heuristic elsewhere. -/
def listedScope (toolkit action : String) : Option ToolScope :=
  match catalogForToolkit toolkit with
  | some catalog => (findCurated catalog action).map CuratedTool.scope
  | none => some (Bus.classifyUnknown action)

theorem isActionVisibleWithPref_iff {action toolkit : String} {pref : UserScopePref}
    (htoolkit : Bus.toolkitFromSlug action = some toolkit) :
    isActionVisibleWithPref action pref = true ↔
      ∃ scope, listedScope toolkit action = some scope ∧ pref.allows scope = true := by
  simp only [isActionVisibleWithPref, htoolkit, listedScope]
  cases catalogForToolkit toolkit with
  | none => simp
  | some catalog =>
    cases hfound : findCurated catalog action with
    | none => simp [hfound]
    | some tool => simp [hfound]

/-- A registered toolkit charges a listed action the same scope both times. -/
theorem requiredScope_of_listed {action toolkit toolkit' : String} {scope : ToolScope}
    (hsync : Sync.toolkitFromSlug action = some toolkit)
    (hbus : Bus.toolkitFromSlug action = some toolkit')
    (hprovider : hasProvider action = true) (hlisted : listedScope toolkit' action = some scope) :
    requiredScope defaultRegistry toolkit action = scope := by
  have hreg : (defaultRegistry.get toolkit).isSome = true := by
    simpa [hasProvider, hsync] using hprovider
  have hsame := (toolkitFromSlug_provider hreg action).mp hsync
  rw [hbus, Option.some_inj] at hsame
  obtain ⟨provider, hget⟩ := Option.isSome_iff_exists.mp hreg
  obtain ⟨catalog, -, htools, hcatalog⟩ := provider_catalog hget
  rw [listedScope, hsame, hcatalog] at hlisted
  have hfound : (findCurated catalog action).map CuratedTool.scope = some scope := hlisted
  simp only [requiredScope, hget, htools, Option.bind_some, hfound, Option.getD_some]

/-- Exactly when a listing offers nothing that execution refuses: the toolkit
is registered, or what the preference allows of the listed scope it also allows
of the verb heuristic's. -/
theorem listedIsPermitted_iff (prefs : PrefsStore) (action : String) :
    ListedIsPermitted prefs action ↔
      ∀ toolkit pref scope, Bus.toolkitFromSlug action = some toolkit →
        prefFor prefs action = .ok pref → listedScope toolkit action = some scope →
        pref.allows scope = true →
          hasProvider action = true ∨ pref.allows (Sync.classifyUnknown action) = true := by
  constructor
  · intro hlisted toolkit pref scope hbus hpref hscope hallows
    have hsome : (Sync.toolkitFromSlug action).isSome = true := by
      rw [isSome_toolkitFromSlug, hbus, Option.isSome_some]
    obtain ⟨toolkit', hsync⟩ := Option.isSome_iff_exists.mp hsome
    have hvisible := (isActionVisibleWithPref_iff hbus).mpr ⟨scope, hscope, hallows⟩
    have hpermits := hlisted none ((listed_load_iff hsync).mpr ⟨pref, hpref, hvisible⟩)
    obtain ⟨pref', hpref', hcharged⟩ := (permits_load_iff hsync).mp hpermits
    rw [hpref, Except.ok.injEq] at hpref'
    subst hpref'
    -- without a provider `permits` charges the scope of the verb
    by_cases hprovider : hasProvider action = true
    · exact .inl hprovider
    · rw [requiredScope_eq hsync, if_neg (fun h => hprovider h.1)] at hcharged
      exact .inr hcharged
  · intro hcond client hlisted
    cases hsync : Sync.toolkitFromSlug action with
    | none => simp only [ConnectorService.permits, hsync]
    | some toolkit =>
      have hsome : (Bus.toolkitFromSlug action).isSome = true := by
        rw [← isSome_toolkitFromSlug, hsync, Option.isSome_some]
      obtain ⟨toolkit', hbus⟩ := Option.isSome_iff_exists.mp hsome
      obtain ⟨pref, hpref, hvisible⟩ := (listed_load_iff hsync).mp hlisted
      obtain ⟨scope, hscope, hallows⟩ := (isActionVisibleWithPref_iff hbus).mp hvisible
      refine (permits_load_iff hsync).mpr ⟨pref, hpref, ?_⟩
      by_cases hprovider : hasProvider action = true
      · rw [requiredScope_of_listed hsync hbus hprovider hscope]
        exact hallows
      · rw [requiredScope_eq hsync, if_neg (fun h => hprovider h.1)]
        exact (hcond toolkit' pref scope hbus hpref hscope hallows).resolve_left hprovider

/-- With nothing stored, a curated read of Dropbox is listed and then refused. -/
theorem not_listedIsPermitted_dropbox :
    ¬ ListedIsPermitted (PrefsStore.ofRows []) "DROPBOX_GET_SHARED_LINK_METADATA" := by
  intro hlisted
  have hrefused : (ConnectorService.load none (PrefsStore.ofRows [])).permits
      "DROPBOX_GET_SHARED_LINK_METADATA" = .ok false := by
    decide +kernel
  have hpermits := hlisted none (by decide +kernel)
  rw [hrefused] at hpermits
  exact absurd hpermits (by decide)

/-! ## Padding -/

/-- The check judges `tool` as it judges the trimmed slug that is sent. -/
def JudgesSentAction (prefs : PrefsStore) (tool : String) : Prop :=
  ∀ client, (ConnectorService.load client prefs).permits tool =
    (ConnectorService.load client prefs).permits (trim tool)

/-- Exactly when padding changes nothing: there is none, or the trimmed slug is
not curated by a registered provider, or its curated scope and the heuristic's
are allowed alike. -/
theorem judgesSentAction_iff (prefs : PrefsStore) (tool : String) :
    JudgesSentAction prefs tool ↔
      trim tool = tool ∨ ∀ scope pref, hasProvider tool = true →
        curatedScopeFor (trim tool) = some scope → prefFor prefs tool = .ok pref →
          pref.allows scope = pref.allows (Sync.classifyUnknown tool) := by
  by_cases hpad : trim tool = tool
  · refine iff_of_true (fun client => ?_) (.inl hpad)
    rw [hpad]
  cases hsync : Sync.toolkitFromSlug tool with
  | none =>
    refine iff_of_true (fun client => ?_) (.inr fun scope pref hprovider => ?_)
    · simp only [ConnectorService.permits, hsync, Sync.toolkitFromSlug_trim]
    · simp [hasProvider, hsync] at hprovider
  | some toolkit =>
    have hsync' : Sync.toolkitFromSlug (trim tool) = some toolkit := by
      rw [Sync.toolkitFromSlug_trim, hsync]
    -- the padded slug is always judged by its verb, the trimmed one may be curated
    have hraw : requiredScope defaultRegistry toolkit tool = Sync.classifyUnknown tool := by
      rw [requiredScope_eq hsync, if_neg (fun h => hpad h.2)]
    have hsent : requiredScope defaultRegistry toolkit (trim tool) =
        if hasProvider tool = true then
          (curatedScopeFor (trim tool)).getD (Sync.classifyUnknown tool)
        else Sync.classifyUnknown tool := by
      rw [requiredScope_eq hsync']
      simp
    have hjudges : JudgesSentAction prefs tool ↔ ∀ pref, prefFor prefs tool = .ok pref →
        pref.allows (requiredScope defaultRegistry toolkit tool) =
          pref.allows (requiredScope defaultRegistry toolkit (trim tool)) := by
      simp only [JudgesSentAction, permits_load hsync, permits_load hsync', prefFor_trim]
      cases prefFor prefs tool with
      | error error => simp [Except.map]
      | ok pref => simp [Except.map]
    rw [hjudges, hraw, hsent]
    constructor
    · intro hall
      refine .inr fun scope pref hprovider hcurated hpref => ?_
      have hpref := hall pref hpref
      rw [if_pos hprovider, hcurated, Option.getD_some] at hpref
      exact hpref.symm
    · intro hcond pref hpref
      have hcond := hcond.resolve_left hpad
      by_cases hprovider : hasProvider tool = true
      · rw [if_pos hprovider]
        cases hcurated : curatedScopeFor (trim tool) with
        | none => rw [Option.getD_none]
        | some scope => rw [Option.getD_some, hcond scope pref hprovider hcurated hpref]
      · rw [if_neg hprovider]

/-- One trailing space turns a refused curated write of Slack into a permitted one. -/
theorem not_judgesSentAction_slack :
    ¬ JudgesSentAction
      (PrefsStore.ofRows [("slack", (UserScopePref.mk true false false).toValue)])
      "SLACK_UPLOAD_FILE " := by
  intro hjudges
  have hpadded : (ConnectorService.load none (PrefsStore.ofRows
      [("slack", (UserScopePref.mk true false false).toValue)])).permits
        "SLACK_UPLOAD_FILE " = .ok true := by
    decide +kernel
  have hsent : (ConnectorService.load none (PrefsStore.ofRows
      [("slack", (UserScopePref.mk true false false).toValue)])).permits
        (trim "SLACK_UPLOAD_FILE ") = .ok false := by
    decide +kernel
  rw [hjudges none, hsent] at hpadded
  exact absurd hpadded (by decide)
