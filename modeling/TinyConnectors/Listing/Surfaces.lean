/-
# One preference for three tool surfaces

`ListVisibleTools` and the overview read the preference saved under the toolkit's
exact name; `ListTools` reads the one under the longest saved name the action's
slug begins with (`pref_for`).  The surfaces agree on an action exactly when the
row that governs its slug is the toolkit's own, or treats the action's scope the
same (`surfacesAgree_iff`).
-/
import TinyConnectors.Catalog.Slugs
import TinyConnectors.Listing.Members

open RustStr ListingService

/-! ## The row that governs a slug -/

/-- `name` is the longest name before an underscore of `action` under which a row
is saved. -/
structure Governs (prefs : PrefsStore) (action name : String) : Prop where
  carried : startsWith (toAsciiLowercase (trim action)) (name ++ "_") = true
  saved : ∃ row, prefs.get (UserScopePref.key name) = .ok (some row)
  longest : ∀ other, startsWith (toAsciiLowercase (trim action)) (other ++ "_") = true →
    name.toList.length < other.toList.length → prefs.get (UserScopePref.key other) = .ok none

theorem mem_rmatchPrefixes_underscore {slug name : String} :
    name ∈ rmatchPrefixes slug '_' ↔ startsWith slug (name ++ "_") = true := by
  have hliteral : "_" = String.singleton '_' := by decide
  rw [hliteral]
  exact mem_rmatchPrefixes

/-- The loop of `pref_for` passes over the names without a row. -/
theorem prefForToolkits_append {prefs : PrefsStore} {before : List String}
    (hbefore : ∀ name ∈ before, prefs.get (UserScopePref.key name) = .ok none)
    (after : List String) :
    prefForToolkits prefs (before ++ after) = prefForToolkits prefs after := by
  induction before with
  | nil => rfl
  | cons name before ih =>
    rw [List.cons_append, prefForToolkits, hbefore name List.mem_cons_self]
    exact ih fun other hother => hbefore other (List.mem_cons_of_mem name hother)

/-- Under a governing row, `pref_for` answers with that row's preference. -/
theorem prefFor_of_governs {prefs : PrefsStore} {action name : String}
    (h : Governs prefs action name) :
    prefFor prefs action = (UserScopePref.load prefs name).mapError .prefs := by
  obtain ⟨before, after, hsplit⟩ := List.append_of_mem (mem_rmatchPrefixes_underscore.mpr h.carried)
  have hlonger : ∀ other ∈ before, prefs.get (UserScopePref.key other) = .ok none := by
    intro other hother
    have horder := pairwise_rmatchPrefixes (toAsciiLowercase (trim action)) '_'
    rw [hsplit] at horder
    have hmem : other ∈ rmatchPrefixes (toAsciiLowercase (trim action)) '_' := by
      rw [hsplit]
      exact List.mem_append_left _ hother
    exact h.longest other (mem_rmatchPrefixes_underscore.mp hmem)
      ((List.pairwise_append.mp horder).2.2 other hother name List.mem_cons_self)
  obtain ⟨row, hrow⟩ := h.saved
  rw [prefFor, hsplit, prefForToolkits_append hlonger, prefForToolkits, hrow]

/-- Unless a read fails, the loop of `pref_for` stops at a row or answers with the default. -/
theorem exists_saved_or_default {prefs : PrefsStore} {names : List String} {pref : UserScopePref}
    (h : prefForToolkits prefs names = .ok pref) :
    (∃ before name after row, names = before ++ name :: after ∧
        (∀ other ∈ before, prefs.get (UserScopePref.key other) = .ok none) ∧
        prefs.get (UserScopePref.key name) = .ok (some row)) ∨
      (pref = UserScopePref.default ∧
        ∀ name ∈ names, prefs.get (UserScopePref.key name) = .ok none) := by
  induction names with
  | nil =>
    rw [prefForToolkits, Except.ok.injEq] at h
    exact .inr ⟨h.symm, by simp⟩
  | cons name names ih =>
    rw [prefForToolkits] at h
    cases hrow : prefs.get (UserScopePref.key name) with
    | error error =>
      rw [hrow] at h
      cases h
    | ok saved =>
      cases saved with
      | some row => exact .inl ⟨[], name, names, row, rfl, by simp, hrow⟩
      | none =>
        rw [hrow] at h
        rcases ih h with ⟨before, stop, after, row, rfl, hbefore, hstop⟩ | ⟨hdefault, hnone⟩
        · exact .inl ⟨name :: before, stop, after, row, rfl,
            List.forall_mem_cons.mpr ⟨hrow, hbefore⟩, hstop⟩
        · exact .inr ⟨hdefault, List.forall_mem_cons.mpr ⟨hrow, hnone⟩⟩

/-- Unless a read fails, some row governs a slug or it has the default preference. -/
theorem governs_or_default {prefs : PrefsStore} {action : String} {pref : UserScopePref}
    (h : prefFor prefs action = .ok pref) :
    (∃ name, Governs prefs action name) ∨
      (pref = UserScopePref.default ∧ ∀ name,
        startsWith (toAsciiLowercase (trim action)) (name ++ "_") = true →
          prefs.get (UserScopePref.key name) = .ok none) := by
  rw [prefFor] at h
  rcases exists_saved_or_default h with
    ⟨before, name, after, row, hsplit, hbefore, hrow⟩ | ⟨hdefault, hnone⟩
  · refine .inl ⟨name, ⟨mem_rmatchPrefixes_underscore.mp ?_, ⟨row, hrow⟩, ?_⟩⟩
    · rw [hsplit]
      exact List.mem_append_right _ List.mem_cons_self
    · intro other hother hlonger
      have hmem := mem_rmatchPrefixes_underscore.mpr hother
      have horder := pairwise_rmatchPrefixes (toAsciiLowercase (trim action)) '_'
      rw [hsplit] at hmem horder
      -- what comes after the row is shorter than its name
      rcases List.mem_append.mp hmem with hmem | hmem
      · exact hbefore other hmem
      · rcases List.mem_cons.mp hmem with rfl | hmem
        · omega
        · have hshorter := List.rel_of_pairwise_cons (List.pairwise_append.mp horder).2.1 hmem
          omega
  · exact .inr ⟨hdefault, fun name hname => hnone name (mem_rmatchPrefixes_underscore.mpr hname)⟩

/-! ## What each surface answers -/

@[simp] theorem catalogForToolkit_normalizeSlug (toolkit : String) :
    catalogForToolkit (normalizeSlug toolkit) = catalogForToolkit toolkit := by
  rw [catalogForToolkit, catalogForToolkit, normalizeSlug, ← toAsciiLowercase_trim, trim_trim,
    toAsciiLowercase_toAsciiLowercase]

@[simp] theorem load_normalizeSlug (prefs : PrefsStore) (toolkit : String) :
    UserScopePref.load prefs (normalizeSlug toolkit) = UserScopePref.load prefs toolkit := by
  have hkey : UserScopePref.key (normalizeSlug toolkit) = UserScopePref.key toolkit := by
    rw [UserScopePref.key, UserScopePref.key, normalizeSlug, ← toAsciiLowercase_trim, trim_trim,
      toAsciiLowercase_toAsciiLowercase]
  rw [UserScopePref.load, UserScopePref.load, hkey]

/-- Without a preference in the request, `ListVisibleTools` answers under the toolkit's own row. -/
theorem listVisibleTools_spec {service : ListingService} {toolkit : String}
    {visible : VisibleToolsResponse} (h : service.listVisibleTools toolkit none = .ok visible) :
    ∃ own, UserScopePref.load service.prefs toolkit = .ok own ∧
      visible = visibleTools (normalizeSlug toolkit) own := by
  rw [ListingService.listVisibleTools, ← normalizeSlug, load_normalizeSlug] at h
  cases hload : UserScopePref.load service.prefs toolkit with
  | error error =>
    rw [hload] at h
    cases h
  | ok own =>
    rw [hload] at h
    exact ⟨own, rfl, (Except.ok.inj h).symm⟩

/-- The preferences of an overview are those saved under the toolkits' own names. -/
theorem lookup_loadPreferences {service : ListingService} {toolkits : List String}
    {preferences : List (String × UserScopePref)}
    (h : service.loadPreferences toolkits = .ok preferences) {toolkit : String}
    (hmem : toolkit ∈ toolkits) :
    ∃ own, UserScopePref.load service.prefs toolkit = .ok own ∧
      preferences.lookup toolkit = some own := by
  induction toolkits generalizing preferences with
  | nil => cases hmem
  | cons head toolkits ih =>
    rw [ListingService.loadPreferences] at h
    cases hload : UserScopePref.load service.prefs head with
    | error error =>
      rw [hload] at h
      cases h
    | ok preference =>
      cases hrest : service.loadPreferences toolkits with
      | error error =>
        rw [hload, hrest] at h
        cases h
      | ok rest =>
        rw [hload, hrest] at h
        obtain rfl : (head, preference) :: rest = preferences := Except.ok.inj h
        by_cases hhead : toolkit = head
        · subst hhead
          exact ⟨preference, hload, by simp⟩
        · obtain ⟨own, hown, hlookup⟩ := ih hrest ((List.mem_cons.mp hmem).resolve_left hhead)
          refine ⟨own, hown, ?_⟩
          rw [List.lookup_cons, beq_false_of_ne hhead]
          exact hlookup

/-- The route reports `toolkit` as connected and connectable and lists the action
`slug` when asked for the connected toolkits. -/
structure RouteListings.Lists (replies : RouteListings) (mode : ComposioConnectedIntegrationsMode)
    (toolkit slug : String) : Prop where
  connected : ∃ connections, replies.connections = .ok connections ∧
    toolkit ∈ activeToolkits connections ∧ ∃ listing,
      replies.tools (activeToolkits connections) = .ok listing ∧
        ∃ tool ∈ listing.tools, tool.function.name = slug
  allowlisted : mode = .backend → ∃ toolkits, replies.toolkits = .ok toolkits ∧
    toolkit ∈ connectableToolkitSlugs toolkits.toolkits toolkits.catalog

/-- An overview lists `slug` as a callable tool of `toolkit`. -/
def Callable (overview : List ComposioConnectedIntegration) (toolkit slug : String) : Prop :=
  ∃ integration ∈ overview, integration.toolkit = toolkit ∧
    ∃ tool ∈ integration.tools, tool.name = slug

/-- What an overview is assembled from when the route lists an action. -/
theorem exists_fetched {replies : RouteListings} {mode : ComposioConnectedIntegrationsMode}
    {toolkit slug : String} (h : replies.Lists mode toolkit slug) :
    ∃ fetched : FetchedListings,
      ListingService.fetchListings replies mode = .ok (some fetched) ∧
      toolkit ∈ fetched.allowlist ∧ toolkit ∈ activeToolkits fetched.connections ∧
      ∃ tool ∈ fetched.tools, tool.function.name = slug := by
  obtain ⟨connections, hconnections, hconnected, listing, htools, hlisted⟩ := h.connected
  have hsome : (activeToolkits connections).isEmpty = false := by
    rw [List.isEmpty_eq_false_iff]
    exact List.ne_nil_of_mem hconnected
  cases mode with
  | backend =>
    obtain ⟨toolkits, htoolkits, hallowed⟩ := h.allowlisted rfl
    have hallowlist : (connectableToolkitSlugs toolkits.toolkits toolkits.catalog).isEmpty =
        false := by
      rw [List.isEmpty_eq_false_iff]
      exact List.ne_nil_of_mem hallowed
    refine ⟨⟨connectableToolkitSlugs toolkits.toolkits toolkits.catalog, connections, listing.tools,
      catalogDescriptions toolkits.catalog⟩, ?_, hallowed, hconnected, hlisted⟩
    simp only [ListingService.fetchListings, ListingService.backendListings, htoolkits,
      hconnections, htools, hallowlist, hsome, bind, Except.bind, pure, Except.pure,
      Bool.false_eq_true, if_false]
  | direct =>
    refine ⟨⟨activeToolkits connections, connections, listing.tools, ∅⟩, ?_, hconnected, hconnected,
      hlisted⟩
    simp only [ListingService.fetchListings, ListingService.directListings, hconnections, htools,
      hsome, bind, Except.bind, pure, Except.pure, Bool.false_eq_true, if_false]

/-- The overview shows an action that the route lists when the toolkit's own row shows it. -/
theorem connectedIntegrations_spec {upper : Uppercase} {service : ListingService}
    {mode : ComposioConnectedIntegrationsMode} {replies : RouteListings} {toolkit slug : String}
    {overview : List ComposioConnectedIntegration} (hlists : replies.Lists mode toolkit slug)
    (hnamed : startsWith slug (upper.toUppercase toolkit ++ "_") = true)
    (h : service.connectedIntegrations upper mode replies = .ok overview) :
    ∃ own, UserScopePref.load service.prefs toolkit = .ok own ∧
      (Callable overview toolkit slug ↔ isActionVisibleWithPref slug own = true) := by
  obtain ⟨⟨allowlist, connections, tools, descriptions⟩, hfetched, hallowed, hconnected, hlisted⟩ :=
    exists_fetched hlists
  rw [ListingService.connectedIntegrations] at h
  cases hroute : service.route with
  | error error =>
    rw [hroute] at h
    cases h
  | ok route =>
    simp only [hroute, bind, Except.bind] at h
    split_ifs at h with hmode
    simp only [hfetched] at h
    cases hprefs : service.loadPreferences (activeToolkits connections) with
    | error error =>
      rw [hprefs] at h
      cases h
    | ok preferences =>
      rw [hprefs] at h
      -- the overview judges the toolkit's tools by the row of its own name
      obtain ⟨own, hown, hlookup⟩ := lookup_loadPreferences hprefs hconnected
      refine ⟨own, hown, ?_⟩
      obtain rfl : assemble upper ⟨allowlist, connections, tools, descriptions, preferences⟩ =
        overview := Except.ok.inj h
      have hown : ∃ tool ∈ ownTools upper toolkit tools, tool.function.name = slug := by
        obtain ⟨tool, hmem, rfl⟩ := hlisted
        exact ⟨tool, List.mem_filter.mpr ⟨hmem, hnamed⟩, rfl⟩
      have hconnected' : toolkit ∈ activeToolkits (Listings.mk allowlist connections tools
          descriptions preferences).connections := hconnected
      have hentry := exists_tool_integrationOf upper hconnected' slug
      rw [hlookup, Option.getD_some] at hentry
      constructor
      · rintro ⟨integration, hmem, hslug, hcallable⟩
        obtain ⟨name, -, rfl⟩ := mem_assemble.mp hmem
        obtain rfl : name = toolkit := hslug
        exact (hentry.mp hcallable).2
      · intro hvisible
        exact ⟨_, mem_assemble.mpr ⟨toolkit, hallowed, rfl⟩, rfl, hentry.mpr ⟨hown, hvisible⟩⟩

/-! ## Agreement -/

/-- The three surfaces answer alike about `action` of `toolkit`, whenever they answer. -/
structure SurfacesAgree (prefs : PrefsStore) (toolkit : String) (action : CuratedTool) : Prop where
  /-- `ListVisibleTools` shows it exactly when `ListTools` keeps it under the user's scopes. -/
  listed : ∀ client offered reply visible listing kept,
    (ListingService.load client prefs offered).listVisibleTools toolkit none = .ok visible →
    (ListingService.load client prefs offered).listTools false reply = .ok listing →
    (ListingService.load client prefs offered).listTools true reply = .ok kept →
    (∃ tool ∈ listing.tools, tool.function.name = action.slug) →
      ((∃ tool ∈ visible.tools, tool.slug = action.slug) ↔
        ∃ tool ∈ kept.tools, tool.function.name = action.slug)
  /-- It shows it exactly when the overview lists it as callable. -/
  overview : ∀ upper client offered mode replies visible overview,
    (ListingService.load client prefs offered).listVisibleTools toolkit none = .ok visible →
    (ListingService.load client prefs offered).connectedIntegrations upper mode replies =
      .ok overview →
    replies.Lists mode (normalizeSlug toolkit) action.slug →
      ((∃ tool ∈ visible.tools, tool.slug = action.slug) ↔
        Callable overview (normalizeSlug toolkit) action.slug)

/-- The row that governs the action's slug treats its scope as the toolkit's own
preference does. -/
def GovernedAlike (prefs : PrefsStore) (toolkit : String) (action : CuratedTool) : Prop :=
  ∀ name own other, Governs prefs action.slug name →
    UserScopePref.load prefs toolkit = .ok own → UserScopePref.load prefs name = .ok other →
      own.allows action.scope = other.allows action.scope

theorem exists_entry_of_catalog {toolkit : String} {catalog : List CuratedTool}
    (h : catalogForToolkit toolkit = some catalog) :
    (normalizeSlug toolkit, catalog) ∈ CATALOGS := by
  obtain ⟨before, after, hsplit, -⟩ := List.lookup_eq_some_iff.mp h
  rw [hsplit]
  exact List.mem_append_right _ List.mem_cons_self

/-- What `ListVisibleTools` shows of a catalog is what the preference allows. -/
theorem exists_visibleTools_iff {toolkit : String} {catalog : List CuratedTool}
    (hcatalog : catalogForToolkit toolkit = some catalog) {action : CuratedTool}
    (hmem : action ∈ catalog) (own : UserScopePref) :
    (∃ tool ∈ (visibleTools (normalizeSlug toolkit) own).tools, tool.slug = action.slug) ↔
      own.allows action.scope = true := by
  have hdistinct := distinctSlugs_of_mem (exists_entry_of_catalog hcatalog)
  simp only [visibleTools, catalogForToolkit_normalizeSlug, hcatalog, Option.getD_some,
    List.mem_map, List.mem_filter]
  constructor
  · rintro ⟨tool, ⟨entry, ⟨hentry, hallows⟩, rfl⟩, hslug⟩
    have hself := findCurated_self hdistinct hentry
    rw [show entry.slug = action.slug from hslug, findCurated_self hdistinct hmem,
      Option.some_inj] at hself
    rw [hself]
    exact hallows
  · intro hallows
    exact ⟨_, ⟨action, ⟨hmem, hallows⟩, rfl⟩, rfl⟩

/-- A slug that carries a normalized toolkit is read under that toolkit's row, too. -/
theorem carried_of_carries {slug toolkit : String} (hclean : CleanName (normalizeSlug toolkit))
    (h : Carries slug (normalizeSlug toolkit)) :
    startsWith (toAsciiLowercase (trim slug)) (normalizeSlug toolkit ++ "_") = true := by
  have hlower := startsWith_toAsciiLowercase (h.trim hclean).1
  have hname : toAsciiLowercase (toAsciiUppercase (normalizeSlug toolkit) ++ "_") =
      normalizeSlug toolkit ++ "_" := by
    have hself : (normalizeSlug toolkit).toList.map Char.toLower =
        (normalizeSlug toolkit).toList := by
      rw [← toList_toAsciiLowercase, normalizeSlug, toAsciiLowercase_toAsciiLowercase]
    apply String.toList_injective
    simp only [toList_toAsciiLowercase, String.toList_append, List.map_append,
      toList_toAsciiUppercase, List.map_map]
    rw [← hself]
    simp [Function.comp_def]
  rw [hname] at hlower
  exact hlower

/-- Whether `ListTools` lists a curated action is a matter of its scope and of the
preference that governs its slug. -/
theorem listed_of_carries (client : Option String) (prefs : PrefsStore) (offered : OfferedToolkits)
    {name : String} {catalog : List CuratedTool} (hcatalog : (name, catalog) ∈ CATALOGS)
    {action : CuratedTool} (hmem : action ∈ catalog) (hcarries : Carries action.slug name) :
    (ListingService.load client prefs offered).listed action.slug =
      (prefFor prefs action.slug).map fun pref => pref.allows action.scope := by
  obtain ⟨toolkit, hbus, -⟩ := exists_toolkit_of_carries hcatalog hmem hcarries
  have hsome : (Sync.toolkitFromSlug action.slug).isSome = true := by
    rw [isSome_toolkitFromSlug, hbus, Option.isSome_some]
  obtain ⟨toolkit', hsync⟩ := Option.isSome_iff_exists.mp hsome
  have hvisible : (fun pref => isActionVisibleWithPref action.slug pref) =
      fun pref => pref.allows action.scope := by
    funext pref
    exact visible_of_carries hcatalog hmem hcarries pref
  have hservice : (ListingService.load client prefs offered).toConnectorService =
      ConnectorService.load client prefs := rfl
  rw [hservice]
  simp only [ConnectorService.listed, ConnectorService.load, hsync, hvisible]

/-! ### A listing of one action -/

/-- The service over the proxy route, with no policy. -/
def proxyListing (prefs : PrefsStore) : ListingService :=
  .load (some "proxy") prefs OfferedToolkits.default

theorem offers_single (prefs : PrefsStore) (slug : String) :
    [bareTool slug].filter (proxyListing prefs).offers = [bareTool slug] := by
  have hoffers : (proxyListing prefs).offers (bareTool slug) = true := by
    rw [ListingService.offers]
    cases Sync.toolkitFromSlug (bareTool slug).function.name <;> rfl
  rw [List.filter_cons_of_pos hoffers, List.filter_nil]

theorem route_proxyListing (prefs : PrefsStore) : (proxyListing prefs).route = .ok "proxy" := rfl

theorem listTools_single (prefs : PrefsStore) (slug : String) :
    (proxyListing prefs).listTools false (.ok ⟨[bareTool slug]⟩) = .ok ⟨[bareTool slug]⟩ := by
  rw [ListingService.listTools, route_proxyListing]
  simp only [bind, Except.bind, offers_single, Bool.false_eq_true, if_false]
  rfl

theorem listTools_single_listed {prefs : PrefsStore} {slug : String} {keep : Bool}
    (h : (proxyListing prefs).listed slug = .ok keep) :
    (proxyListing prefs).listTools true (.ok ⟨[bareTool slug]⟩) =
      .ok ⟨if keep then [bareTool slug] else []⟩ := by
  have hretain : (proxyListing prefs).retainListed [bareTool slug] =
      .ok (if keep then [bareTool slug] else []) := by
    rw [ListingService.retainListed, show (bareTool slug).function.name = slug from rfl, h]
    rfl
  rw [ListingService.listTools, route_proxyListing]
  simp only [bind, Except.bind, offers_single, if_true, hretain]
  rfl

theorem listVisibleTools_of_load {prefs : PrefsStore} {toolkit : String} {own : UserScopePref}
    (hown : UserScopePref.load prefs toolkit = .ok own) :
    (proxyListing prefs).listVisibleTools toolkit none =
      .ok (visibleTools (normalizeSlug toolkit) own) := by
  have hload : UserScopePref.load (proxyListing prefs).prefs (normalizeSlug toolkit) = .ok own := by
    rw [load_normalizeSlug]
    exact hown
  rw [ListingService.listVisibleTools, ← normalizeSlug, hload]
  rfl

section

variable {prefs : PrefsStore} {toolkit : String} {catalog : List CuratedTool} {action : CuratedTool}

/-- A governing row that treats the scope alike, and the answers of the two lists agree. -/
theorem GovernedAlike.allows_eq (halike : GovernedAlike prefs toolkit action)
    (hcarried :
      startsWith (toAsciiLowercase (trim action.slug)) (normalizeSlug toolkit ++ "_") = true)
    {own pref : UserScopePref} (hown : UserScopePref.load prefs toolkit = .ok own)
    (hpref : prefFor prefs action.slug = .ok pref) :
    own.allows action.scope = pref.allows action.scope := by
  rcases governs_or_default hpref with ⟨name, hgoverns⟩ | ⟨rfl, hnone⟩
  · rw [prefFor_of_governs hgoverns] at hpref
    cases hload : UserScopePref.load prefs name with
    | error error =>
      rw [hload] at hpref
      cases hpref
    | ok other =>
      rw [hload] at hpref
      obtain rfl : other = pref := Except.ok.inj hpref
      exact halike name own other hgoverns hown hload
  · -- no row is saved under the toolkit's own name either
    have hrow := hnone (normalizeSlug toolkit) hcarried
    rw [← load_normalizeSlug, UserScopePref.load, hrow] at hown
    rw [← Except.ok.inj hown]

/-- One preference governs the three surfaces exactly when the row that governs the
action's slug treats its scope as the toolkit's own preference does. -/
theorem surfacesAgree_iff (hcatalog : catalogForToolkit toolkit = some catalog)
    (hmem : action ∈ catalog) (hcarries : Carries action.slug (normalizeSlug toolkit)) :
    SurfacesAgree prefs toolkit action ↔ GovernedAlike prefs toolkit action := by
  have hentry := exists_entry_of_catalog hcatalog
  have hclean := clean_catalogs _ (List.mem_map_of_mem hentry)
  have hascii := ascii_catalogs _ (List.mem_map_of_mem hentry)
  have hcarried := carried_of_carries hclean hcarries
  have hvisible := exists_visibleTools_iff hcatalog hmem
  constructor
  · intro hagree name own other hgoverns hown hother
    -- ask for a listing of the one action
    have hpref : prefFor prefs action.slug = .ok other := by
      rw [prefFor_of_governs hgoverns, hother]
      rfl
    have hlisted :=
      listed_of_carries (some "proxy") prefs OfferedToolkits.default hentry hmem hcarries
    rw [hpref] at hlisted
    have hlisted : (proxyListing prefs).listed action.slug = .ok (other.allows action.scope) :=
      hlisted
    have hsingle := hagree.listed (some "proxy") OfferedToolkits.default _ _ _ _
      (listVisibleTools_of_load hown) (listTools_single prefs action.slug)
      (listTools_single_listed hlisted) ⟨_, List.mem_singleton_self _, rfl⟩
    rw [hvisible] at hsingle
    rw [Bool.eq_iff_iff, hsingle]
    cases other.allows action.scope with
    | true => simp [bareTool]
    | false => simp
  · intro halike
    constructor
    · intro client offered reply visible listing kept hanswer hlisting hkept hlists
      obtain ⟨own, hown, rfl⟩ := listVisibleTools_spec hanswer
      obtain ⟨tool, htool, hname⟩ := hlists
      have hretain := listTools_spec hlisting hkept
      have hlisted := listed_of_carries client prefs offered hentry hmem hcarries
      obtain ⟨keep, hkeep⟩ := exists_listed_of_retainListed hretain htool
      rw [hname, hlisted] at hkeep
      cases hpref : prefFor prefs action.slug with
      | error error =>
        rw [hpref] at hkeep
        cases hkeep
      | ok pref =>
        rw [hvisible, halike.allows_eq hcarried hown hpref]
        rw [hpref] at hlisted
        constructor
        · intro hallows
          refine ⟨tool, (mem_retainListed hretain tool).mpr ⟨htool, ?_⟩, hname⟩
          rw [hname, hlisted, ← hallows]
          rfl
        · rintro ⟨other, hother, hotherName⟩
          have htrue := ((mem_retainListed hretain other).mp hother).2
          rw [hotherName, hlisted] at htrue
          exact Except.ok.inj htrue
    · intro upper client offered mode replies visible overview hanswer hoverview hlists
      obtain ⟨own, hown, rfl⟩ := listVisibleTools_spec hanswer
      have hnamed : startsWith action.slug (upper.toUppercase (normalizeSlug toolkit) ++ "_") =
          true := by
        rw [upper.ascii _ fun c hc => Nat.le_of_ble_eq_true (List.all_eq_true.mp hascii c hc)]
        exact hcarries
      obtain ⟨own', hown', hcallable⟩ := connectedIntegrations_spec hlists hnamed hoverview
      rw [load_normalizeSlug] at hown'
      obtain rfl : own' = own := Except.ok.inj (hown'.symm.trans hown)
      rw [hvisible, hcallable, visible_of_carries hentry hmem hcarries]

end

/-- A preference saved for `microsoft` governs the Teams actions in `ListTools` alone. -/
theorem not_surfacesAgree_teams :
    ¬ ∀ prefs toolkit catalog action, catalogForToolkit toolkit = some catalog → action ∈ catalog →
      Carries action.slug (normalizeSlug toolkit) → SurfacesAgree prefs toolkit action := by
  intro h
  let prefs := PrefsStore.ofRows [("microsoft", (UserScopePref.mk true false false).toValue)]
  let action : CuratedTool := ⟨"MICROSOFT_TEAMS_CREATE_MEETING", .write⟩
  have hmem : action ∈ MICROSOFT_TEAMS_CURATED := by simp [action, MICROSOFT_TEAMS_CURATED]
  have hcatalog : catalogForToolkit "microsoft_teams" = some MICROSOFT_TEAMS_CURATED :=
    catalogForToolkit_of_mem (by simp [CATALOGS])
  have hagree := h prefs "microsoft_teams" _ action hcatalog hmem (by decide +kernel)
  have hown : UserScopePref.load prefs "microsoft_teams" = .ok UserScopePref.default := by
    decide +kernel
  have hlisted : (proxyListing prefs).listed action.slug = .ok false := by decide +kernel
  have hsingle := hagree.listed (some "proxy") OfferedToolkits.default _ _ _ _
    (listVisibleTools_of_load hown) (listTools_single prefs action.slug)
    (listTools_single_listed hlisted) ⟨_, List.mem_singleton_self _, rfl⟩
  rw [exists_visibleTools_iff hcatalog hmem] at hsingle
  obtain ⟨tool, htool, -⟩ := hsingle.mp rfl
  cases htool

/-- A preference saved for Slack itself, in any spelling, governs Slack alone. -/
theorem surfacesAgree_iff_slack :
    SurfacesAgree (.ofRows [("slack", (UserScopePref.mk true false false).toValue)]) "Slack"
      ⟨"SLACK_SEND_MESSAGE", .write⟩ := by
  have hcatalog : catalogForToolkit "Slack" = some SLACK_CURATED := by decide +kernel
  refine (surfacesAgree_iff hcatalog (by simp [SLACK_CURATED]) (by decide +kernel)).mpr ?_
  intro name own other hgoverns hown hother
  obtain ⟨row, hrow⟩ := hgoverns.saved
  have hkey : UserScopePref.key name = UserScopePref.key "Slack" := by
    have hlookup := Except.ok.inj hrow
    rw [List.lookup_cons] at hlookup
    cases heq : UserScopePref.key name == "slack" with
    | true =>
      rw [beq_iff_eq.mp heq]
      decide
    | false =>
      rw [heq] at hlookup
      cases hlookup
  rw [UserScopePref.load, hkey, ← UserScopePref.load, hown] at hother
  rw [Except.ok.inj hother]
