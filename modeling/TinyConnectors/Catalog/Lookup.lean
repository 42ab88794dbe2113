/-
# Catalog lookup and the provider registry

`catalog_for_toolkit` (`toolkits/catalog/mod.rs`) is the map the vocabulary
members consult; `default_registry` (`toolkits/mod.rs`) is the map execution
consults.  Both normalise their key the same way.  The bridge between them is
`provider_catalog`: whatever the registry knows, the catalog map knows under
the same key and with the same table, and the six registered toolkits are
exactly the ones on which the two slug parsers cannot disagree
(`toolkitFromSlug_provider`).
-/
import TinyConnectors.Catalog.Providers
import TinyConnectors.Catalog.Social
import TinyConnectors.Catalog.Workplace

open RustStr

/-! ## The static toolkit → catalog map -/

/-- The arms of `catalog_for_toolkit`, aliases included. -/
def CATALOGS : List (String × List CuratedTool) :=
  [("gmail", GMAIL_CURATED), ("notion", NOTION_CURATED), ("github", GITHUB_CURATED),
    ("linear", LINEAR_CURATED), ("clickup", CLICKUP_CURATED), ("slack", SLACK_CURATED),
    ("discord", DISCORD_CURATED), ("googlecalendar", GOOGLECALENDAR_CURATED),
    ("google_calendar", GOOGLECALENDAR_CURATED), ("googledrive", GOOGLEDRIVE_CURATED),
    ("google_drive", GOOGLEDRIVE_CURATED), ("googledocs", GOOGLEDOCS_CURATED),
    ("google_docs", GOOGLEDOCS_CURATED), ("googlesheets", GOOGLESHEETS_CURATED),
    ("google_sheets", GOOGLESHEETS_CURATED), ("outlook", OUTLOOK_CURATED),
    ("microsoft", MICROSOFT_TEAMS_CURATED), ("microsoft_teams", MICROSOFT_TEAMS_CURATED),
    ("jira", JIRA_CURATED), ("trello", TRELLO_CURATED), ("asana", ASANA_CURATED),
    ("dropbox", DROPBOX_CURATED), ("twitter", TWITTER_CURATED), ("spotify", SPOTIFY_CURATED),
    ("telegram", TELEGRAM_CURATED), ("whatsapp", WHATSAPP_CURATED),
    ("shopify", SHOPIFY_CURATED), ("stripe", STRIPE_CURATED), ("hubspot", HUBSPOT_CURATED),
    ("salesforce", SALESFORCE_CURATED), ("airtable", AIRTABLE_CURATED),
    ("figma", FIGMA_CURATED), ("youtube", YOUTUBE_CURATED), ("one", ONE_DRIVE_CURATED),
    ("one_drive", ONE_DRIVE_CURATED), ("onedrive", ONE_DRIVE_CURATED),
    ("excel", EXCEL_CURATED), ("todoist", TODOIST_CURATED)]

/-- Static toolkit → curated catalog map, keyed by the trimmed, lowercased slug. -/
def catalogForToolkit (toolkit : String) : Option (List CuratedTool) :=
  CATALOGS.lookup (toAsciiLowercase (trim toolkit))

/-- The curated scope `slug` requires, if its toolkit's catalog lists it. -/
def curatedScopeFor (slug : String) : Option ToolScope :=
  (Bus.toolkitFromSlug slug).bind fun toolkit =>
    (catalogForToolkit toolkit).bind fun catalog =>
      (findCurated catalog slug).map CuratedTool.scope

/-- Should this action slug appear in the agent's tool surface under `pref`? -/
def isActionVisibleWithPref (slug : String) (pref : UserScopePref) : Bool :=
  match Bus.toolkitFromSlug slug with
  | none => true
  | some toolkit =>
    match catalogForToolkit toolkit with
    | some catalog =>
      match findCurated catalog slug with
      | some curated => pref.allows curated.scope
      | none => false
    | none => pref.allows (Bus.classifyUnknown slug)

/-! ## The provider registry -/

/-- What the scope check reads of a registered provider. -/
structure ConnectorProvider where
  toolkitSlug : String
  curatedTools : Option (List CuratedTool)

/-- The providers a build knows about, keyed by toolkit slug. -/
abbrev ProviderRegistry := List (String × ConnectorProvider)

namespace ProviderRegistry

/-- Add a provider, replacing any previous one for its toolkit. -/
def register (registry : ProviderRegistry) (provider : ConnectorProvider) : ProviderRegistry :=
  (provider.toolkitSlug, provider) :: registry.filter (fun entry => entry.1 ≠ provider.toolkitSlug)

/-- The provider for `toolkit`, matched on the trimmed, lowercased slug. -/
def get (registry : ProviderRegistry) (toolkit : String) : Option ConnectorProvider :=
  registry.lookup (toAsciiLowercase (trim toolkit))

end ProviderRegistry

/-- Every toolkit this build ships. -/
def defaultRegistry : ProviderRegistry :=
  [⟨"clickup", some CLICKUP_CURATED⟩, ⟨"github", some GITHUB_CURATED⟩,
    ⟨"gmail", some GMAIL_CURATED⟩, ⟨"linear", some LINEAR_CURATED⟩,
    ⟨"notion", some NOTION_CURATED⟩, ⟨"slack", some SLACK_CURATED⟩].foldl
      ProviderRegistry.register []

/-- Toolkits with a native identity provider. -/
def NATIVE_PROVIDERS : List String :=
  ["gmail", "notion", "slack", "clickup", "github", "linear"]

/-- Does `toolkit` have a native identity provider? -/
def hasNativeProvider (toolkit : String) : Bool := NATIVE_PROVIDERS.contains toolkit

/-- `defaultRegistry` with its six registrations worked out. -/
theorem defaultRegistry_eq : defaultRegistry =
    [("slack", ⟨"slack", some SLACK_CURATED⟩), ("notion", ⟨"notion", some NOTION_CURATED⟩),
      ("linear", ⟨"linear", some LINEAR_CURATED⟩), ("gmail", ⟨"gmail", some GMAIL_CURATED⟩),
      ("github", ⟨"github", some GITHUB_CURATED⟩),
      ("clickup", ⟨"clickup", some CLICKUP_CURATED⟩)] := by
  simp [defaultRegistry, ProviderRegistry.register]

/-- The registry and the catalog map agree on every registered toolkit. -/
theorem provider_catalog {toolkit : String} {provider : ConnectorProvider}
    (h : defaultRegistry.get toolkit = some provider) :
    ∃ catalog ∈ PROVIDER_TABLES, provider.curatedTools = some catalog ∧
      catalogForToolkit toolkit = some catalog := by
  obtain ⟨before, after, hsplit, -⟩ := List.lookup_eq_some_iff.mp h
  have hmem : (toAsciiLowercase (trim toolkit), provider) ∈ defaultRegistry := by
    rw [hsplit]
    simp
  unfold catalogForToolkit
  rw [defaultRegistry_eq] at hmem
  simp only [List.mem_cons, List.not_mem_nil, Prod.mk.injEq, or_false] at hmem
  rcases hmem with ⟨hkey, rfl⟩ | ⟨hkey, rfl⟩ | ⟨hkey, rfl⟩ | ⟨hkey, rfl⟩ | ⟨hkey, rfl⟩ | ⟨hkey, rfl⟩
  all_goals exact ⟨_, by simp [PROVIDER_TABLES], rfl, by rw [hkey]; rfl⟩

/-- The registry knows exactly the native providers. -/
theorem isSome_get_iff (toolkit : String) :
    (defaultRegistry.get toolkit).isSome = true ↔
      hasNativeProvider (toAsciiLowercase (trim toolkit)) = true := by
  rw [ProviderRegistry.get, defaultRegistry_eq, List.lookup_isSome_iff, hasNativeProvider,
    NATIVE_PROVIDERS]
  generalize toAsciiLowercase (trim toolkit) = key
  simp
  tauto

/-! ## The two slug parsers on registered toolkits -/

/-- The shape both parsers share: a table of prefixes, then the first segment. -/
def tableToolkit (table : List (String × String)) (slug : String) : Option String :=
  if trim slug = "" then none
  else
    match findPrefix table (toAsciiUppercase (trim slug)) with
    | some toolkit => some toolkit
    | none => firstSegmentToolkit (trim slug)

/-- The table of the vocabulary's parser: its names, then its aliases. -/
def busTable : List (String × String) :=
  Bus.MULTI_SEGMENT_TOOLKIT_PREFIXES ++ Bus.ALIASED_TOOLKIT_PREFIXES.map fun e => (e.1, e.2.1)

theorem Sync.toolkitFromSlug_eq (slug : String) :
    Sync.toolkitFromSlug slug = tableToolkit Sync.MULTI_SEGMENT_TOOLKITS slug := by
  by_cases hempty : trim slug = ""
  · simp only [Sync.toolkitFromSlug, tableToolkit, if_pos hempty]
  · cases hprefix : findPrefix Sync.MULTI_SEGMENT_TOOLKITS (toAsciiUppercase (trim slug)) with
    | none => simp only [Sync.toolkitFromSlug, tableToolkit, if_neg hempty, hprefix]
    | some toolkit => simp only [Sync.toolkitFromSlug, tableToolkit, if_neg hempty, hprefix]

theorem Bus.toolkitFromSlug_eq (slug : String) :
    Bus.toolkitFromSlug slug = tableToolkit busTable slug := by
  have happend : findPrefix busTable (toAsciiUppercase (trim slug)) =
      (findPrefix Bus.MULTI_SEGMENT_TOOLKIT_PREFIXES (toAsciiUppercase (trim slug))).or
        (findPrefix (Bus.ALIASED_TOOLKIT_PREFIXES.map fun e => (e.1, e.2.1))
          (toAsciiUppercase (trim slug))) := by
    simp only [findPrefix, busTable, List.find?_append, Option.map_or]
  simp only [Bus.toolkitFromSlug, tableToolkit, happend]
  by_cases hempty : trim slug = ""
  · rw [if_pos hempty, if_pos hempty]
  · rw [if_neg hempty, if_neg hempty]
    cases findPrefix Bus.MULTI_SEGMENT_TOOLKIT_PREFIXES (toAsciiUppercase (trim slug)) with
    | some toolkit => rfl
    | none =>
      cases findPrefix (Bus.ALIASED_TOOLKIT_PREFIXES.map fun e => (e.1, e.2.1))
        (toAsciiUppercase (trim slug)) <;> rfl

/-- A table hit fixes the first segment, up to case, when the prefix reaches past its `_`. -/
theorem findPrefix_eq_some {table : List (String × String)} {slug toolkit : String}
    (hunder : ∀ entry ∈ table, '_' ∈ entry.1.toList)
    (h : findPrefix table (toAsciiUppercase slug) = some toolkit) :
    ∃ entry ∈ table, entry.2 = toolkit ∧
      toAsciiUppercase (splitFirst slug '_') = splitFirst entry.1 '_' := by
  obtain ⟨entry, hentry, htoolkit⟩ := Option.map_eq_some_iff.mp h
  have hmem := List.mem_of_find?_eq_some hentry
  have hstarts := List.find?_some hentry
  exact ⟨entry, hmem, htoolkit, splitFirst_of_startsWith hstarts (hunder entry hmem)⟩

/-- The entries of a prefix table that cannot stand for a registered toolkit:
neither the toolkit the entry names nor the first segment of its prefix is one. -/
def Unregistered (table : List (String × String)) : Prop :=
  ∀ entry ∈ table, '_' ∈ entry.1.toList ∧
    hasNativeProvider (toAsciiLowercase (trim entry.2)) = false ∧
    hasNativeProvider (toAsciiLowercase (trim (toAsciiLowercase (splitFirst entry.1 '_')))) = false

theorem unregistered_sync : Unregistered Sync.MULTI_SEGMENT_TOOLKITS := by
  unfold Unregistered
  decide

theorem unregistered_bus : Unregistered busTable := by
  unfold Unregistered
  decide

/-- A registered toolkit is only ever read off the first segment. -/
theorem tableToolkit_registered {table : List (String × String)} (htable : Unregistered table)
    {slug toolkit : String} (hreg : (defaultRegistry.get toolkit).isSome = true) :
    tableToolkit table slug = some toolkit ↔
      trim slug ≠ "" ∧ firstSegmentToolkit (trim slug) = some toolkit := by
  rw [isSome_get_iff] at hreg
  unfold tableToolkit
  split_ifs with hempty
  · simp [hempty]
  · cases hfind : findPrefix table (toAsciiUppercase (trim slug)) with
    | none => simp [hempty]
    | some named =>
      obtain ⟨entry, hmem, rfl, hseg⟩ :=
        findPrefix_eq_some (fun entry hmem => (htable entry hmem).1) hfind
      obtain ⟨-, hnamed, hsegment⟩ := htable entry hmem
      constructor
      · -- the entry's own toolkit is not registered
        intro heq
        rw [Option.some_inj] at heq
        rw [← heq, hnamed] at hreg
        exact absurd hreg Bool.false_ne_true
      · -- nor is the first segment its prefix forces
        rintro ⟨-, heq⟩
        unfold firstSegmentToolkit at heq
        simp only [Option.ite_none_left_eq_some, Option.some_inj] at heq
        rw [← heq.2, ← toAsciiLowercase_toAsciiUppercase (splitFirst _ _), hseg, hsegment] at hreg
        exact absurd hreg Bool.false_ne_true

/-- On a registered toolkit the two slug parsers agree. -/
theorem toolkitFromSlug_provider {toolkit : String}
    (hreg : (defaultRegistry.get toolkit).isSome = true) (slug : String) :
    Sync.toolkitFromSlug slug = some toolkit ↔ Bus.toolkitFromSlug slug = some toolkit := by
  rw [Sync.toolkitFromSlug_eq, Bus.toolkitFromSlug_eq,
    tableToolkit_registered unregistered_sync hreg, tableToolkit_registered unregistered_bus hreg]

/-- A prefix that reaches past the first `_` makes the first segment nonempty, so
the tables never name a toolkit the first segment would not. -/
theorem isSome_tableToolkit {table : List (String × String)}
    (htable : ∀ entry ∈ table, '_' ∈ entry.1.toList ∧ splitFirst entry.1 '_' ≠ "")
    (slug : String) :
    (tableToolkit table slug).isSome =
      (trim slug ≠ "" && (firstSegmentToolkit (trim slug)).isSome) := by
  unfold tableToolkit
  by_cases hempty : trim slug = ""
  · simp [hempty]
  · rw [if_neg hempty]
    cases hfind : findPrefix table (toAsciiUppercase (trim slug)) with
    | none => simp [hempty]
    | some named =>
      obtain ⟨entry, hmem, -, hseg⟩ :=
        findPrefix_eq_some (fun entry hmem => (htable entry hmem).1) hfind
      have hne : splitFirst (trim slug) '_' ≠ "" := by
        intro heq
        rw [heq] at hseg
        exact (htable entry hmem).2 hseg.symm
      simp [hempty, firstSegmentToolkit, hne]

/-- The two parsers fail on the same slugs. -/
theorem isSome_toolkitFromSlug (slug : String) :
    (Sync.toolkitFromSlug slug).isSome = (Bus.toolkitFromSlug slug).isSome := by
  rw [Sync.toolkitFromSlug_eq, Bus.toolkitFromSlug_eq, isSome_tableToolkit (by decide),
    isSome_tableToolkit (by decide)]

/-! ## Which actions have a provider -/

/-- Whether execution finds a registered provider for `slug`. -/
def hasProvider (slug : String) : Bool :=
  (Sync.toolkitFromSlug slug).any fun toolkit => (defaultRegistry.get toolkit).isSome

@[simp] theorem hasProvider_trim (slug : String) : hasProvider (trim slug) = hasProvider slug := by
  simp [hasProvider]

/-- An action with a provider is looked up in that provider's own table by both sides. -/
theorem curatedScopeFor_of_provider {slug toolkit : String} {provider : ConnectorProvider}
    (htoolkit : Sync.toolkitFromSlug slug = some toolkit)
    (hprovider : defaultRegistry.get toolkit = some provider) :
    curatedScopeFor slug =
      provider.curatedTools.bind fun catalog =>
        (findCurated catalog slug).map CuratedTool.scope := by
  have hreg : (defaultRegistry.get toolkit).isSome = true := by simp [hprovider]
  obtain ⟨catalog, -, htools, hcatalog⟩ := provider_catalog hprovider
  rw [curatedScopeFor, (toolkitFromSlug_provider hreg slug).mp htoolkit, htools]
  simp [hcatalog]

/-- A provider's table does not list a padded slug. -/
theorem findCurated_provider_padded {slug toolkit : String} {provider : ConnectorProvider}
    (hprovider : defaultRegistry.get toolkit = some provider) (hpad : trim slug ≠ slug) :
    (provider.curatedTools.bind fun catalog =>
      (findCurated catalog slug).map CuratedTool.scope) = none := by
  obtain ⟨catalog, hmem, htools, -⟩ := provider_catalog hprovider
  rw [htools, Option.bind_some, findCurated_padded (trim_provider_slug hmem) hpad, Option.map_none]
