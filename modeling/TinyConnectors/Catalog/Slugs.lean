/-
# What the curated slugs are

Facts about the catalog tables that need every entry: no catalog lists a slug
twice, and an action whose slug begins with a toolkit's name is looked up in that
toolkit's catalog (`visible_of_curated`).  Each table is checked entry by entry,
so that no literal has to be compared with another.
-/
import TinyConnectors.Catalog.Lookup

open RustStr

/-! ## Distinct slugs -/

/-- A number for a list of characters that does not see ASCII case. -/
def slugCode (l : List Char) : ℕ :=
  (l.map Char.toLower).foldl (fun n c => n * 1024 + c.toNat) 0

theorem slugCode_congr {s t : String} (h : eqIgnoreAsciiCase s t = true) :
    slugCode s.toList = slugCode t.toList := by
  rw [eqIgnoreAsciiCase_iff] at h
  have hlower := congrArg String.toList h
  rw [toList_toAsciiLowercase, toList_toAsciiLowercase] at hlower
  rw [slugCode, slugCode, hlower]

/-- The codes of a catalog's slugs. -/
def HasCodes (catalog : List CuratedTool) (codes : List ℕ) : Prop :=
  catalog.map (fun tool => slugCode tool.slug.toList) = codes

theorem hasCodes_nil : HasCodes [] [] := rfl

theorem hasCodes_cons {l : List Char} {scope : ToolScope} {catalog : List CuratedTool}
    {codes : List ℕ} (h : HasCodes catalog codes) :
    HasCodes (⟨String.ofList l, scope⟩ :: catalog) (slugCode l :: codes) := by
  rw [HasCodes, List.map_cons, String.toList_ofList]
  exact congrArg _ h

/-- No two entries carry the same slug, whatever its case. -/
def DistinctSlugs (catalog : List CuratedTool) : Prop :=
  (catalog.map fun tool => slugCode tool.slug.toList).Nodup

theorem HasCodes.distinctSlugs {catalog : List CuratedTool} {codes : List ℕ}
    (h : HasCodes catalog codes) (hnodup : codes.Nodup) : DistinctSlugs catalog := by
  rw [DistinctSlugs, show catalog.map _ = codes from h]
  exact hnodup

/-- An entry of such a catalog is found under its own slug. -/
theorem findCurated_self {catalog : List CuratedTool} (hdistinct : DistinctSlugs catalog)
    {tool : CuratedTool} (hmem : tool ∈ catalog) : findCurated catalog tool.slug = some tool := by
  cases hfound : findCurated catalog tool.slug with
  | none =>
    have hnone := List.find?_eq_none.mp hfound tool hmem
    simp [eqIgnoreAsciiCase] at hnone
  | some found =>
    obtain ⟨hfoundMem, heq⟩ := findCurated_eq_some hfound
    have hsame := List.inj_on_of_nodup_map hdistinct hfoundMem hmem (slugCode_congr heq)
    rw [hsame]

/-- The tables of the static map. -/
theorem distinctSlugs_of_mem {entry : String × List CuratedTool} (h : entry ∈ CATALOGS) :
    DistinctSlugs entry.2 := by
  simp only [CATALOGS, List.mem_cons, List.not_mem_nil, or_false] at h
  rcases h with rfl | rfl | rfl | rfl | rfl | rfl | rfl | rfl | rfl | rfl | rfl | rfl | rfl | rfl |
    rfl | rfl | rfl | rfl | rfl | rfl | rfl | rfl | rfl | rfl | rfl | rfl | rfl | rfl | rfl | rfl |
    rfl | rfl | rfl | rfl | rfl | rfl | rfl | rfl
  all_goals
    apply HasCodes.distinctSlugs
    · repeat (first | exact hasCodes_nil | apply hasCodes_cons)
    · decide +kernel

/-! ## The toolkit of a curated slug -/

/-- A text that is not blank at either end, nor empty. -/
def CleanName (name : String) : Prop := padFree name.toList = true ∧ name.toList ≠ []

/-- A slug that begins with a toolkit's own name, in upper case, and an underscore. -/
def Carries (slug toolkit : String) : Prop :=
  startsWith slug (toAsciiUppercase toolkit ++ "_") = true

instance (slug toolkit : String) : Decidable (Carries slug toolkit) :=
  inferInstanceAs (Decidable (_ = true))

/-- A table hit: the prefix matches, and no earlier entry of the table can. -/
theorem findPrefix_of_startsWith {before after : List (String × String)} {entry : String × String}
    {upper : String} (hentry : startsWith upper entry.1 = true)
    (hbefore : ∀ other ∈ before, startsWith other.1 entry.1 = false ∧
      startsWith entry.1 other.1 = false) :
    findPrefix (before ++ entry :: after) upper = some entry.2 := by
  have hnone : before.find? (fun other => startsWith upper other.1) = none := by
    rw [List.find?_eq_none]
    intro other hother hstarts
    obtain ⟨hleft, hright⟩ := hbefore other hother
    rcases startsWith_or_startsWith hstarts hentry with h | h
    · rw [hleft] at h
      cases h
    · rw [hright] at h
      cases h
  rw [findPrefix, List.find?_append, hnone, Option.none_or, List.find?_cons, hentry]
  rfl

/-- A table of upper-case prefixes none of which begins with another. -/
def PrefixFree (table : List (String × String)) : Prop :=
  (table.Pairwise fun entry other => startsWith entry.1 other.1 = false ∧
      startsWith other.1 entry.1 = false) ∧
    ∀ entry ∈ table, CleanName entry.1 ∧ toAsciiUppercase entry.1 = entry.1

theorem prefixFree_sync : PrefixFree Sync.MULTI_SEGMENT_TOOLKITS := by
  unfold PrefixFree CleanName
  decide

theorem prefixFree_bus : PrefixFree busTable := by
  unfold PrefixFree CleanName
  decide +kernel

/-- The entry under whose prefix a text falls is the one that is found. -/
theorem findPrefix_of_mem {table : List (String × String)} (htable : PrefixFree table)
    {entry : String × String} (hmem : entry ∈ table) {upper : String}
    (hstarts : startsWith upper entry.1 = true) : findPrefix table upper = some entry.2 := by
  obtain ⟨before, after, rfl⟩ := List.append_of_mem hmem
  refine findPrefix_of_startsWith hstarts fun other hother => ?_
  exact (List.pairwise_append.mp htable.1).2.2 other hother entry List.mem_cons_self

/-- A slug under a tabled prefix belongs to the toolkit the table names. -/
theorem tableToolkit_of_mem {table : List (String × String)} (htable : PrefixFree table)
    {entry : String × String} (hmem : entry ∈ table) {slug : String}
    (hslug : startsWith slug entry.1 = true) : tableToolkit table slug = some entry.2 := by
  obtain ⟨hclean, hupper⟩ := htable.2 entry hmem
  have htrim := startsWith_trim hclean.1 hclean.2 hslug
  have hne : trim slug ≠ "" := by
    intro hempty
    obtain ⟨rest, hrest⟩ := startsWith_iff.mp htrim
    rw [hempty] at hrest
    exact hclean.2 (List.append_eq_nil_iff.mp hrest.symm).1
  have hstarts := startsWith_toAsciiUppercase htrim
  rw [hupper] at hstarts
  rw [tableToolkit, if_neg hne, findPrefix_of_mem htable hmem hstarts]

/-- A toolkit name no prefix of `table` can be mistaken for: one word, which is not
the first word of a tabled prefix. -/
def PlainName (table : List (String × String)) (name : String) : Prop :=
  CleanName name ∧ '_' ∉ name.toList ∧
    ∀ entry ∈ table, '_' ∈ entry.1.toList ∧ splitFirst entry.1 '_' ≠ toAsciiUppercase name

/-- The first word of a slug that carries a one-word name. -/
theorem splitFirst_of_carries {slug name : String} (hname : '_' ∉ name.toList)
    (hslug : startsWith slug (toAsciiUppercase name ++ "_") = true) :
    splitFirst slug '_' = toAsciiUppercase name := by
  obtain ⟨rest, hrest⟩ := startsWith_iff.mp hslug
  have hnone : ∀ c ∈ name.toList.map Char.toUpper, (c != '_') = true := by
    intro c hc
    obtain ⟨d, hd, rfl⟩ := List.mem_map.mp hc
    rw [bne_iff_ne, ne_eq, toUpper_eq_underscore]
    rintro rfl
    exact hname hd
  apply String.toList_injective
  rw [splitFirst, String.toList_ofList, hrest, String.toList_append, toList_toAsciiUppercase,
    List.append_assoc, List.takeWhile_append_of_pos hnone]
  simp

/-- The prefix of a clean name has clean ends. -/
theorem padFree_carried {name : String} (hclean : CleanName name) :
    padFree (toAsciiUppercase name ++ "_").toList = true := by
  obtain ⟨hpad, hne⟩ := hclean
  rw [String.toList_append, toList_toAsciiUppercase]
  obtain ⟨c, l, hl⟩ := List.exists_cons_of_ne_nil hne
  rw [hl] at hpad ⊢
  simp only [padFree, List.head?_cons, Option.all_some, Bool.and_eq_true] at hpad
  have hhead : isWhitespace c.toUpper = false := by
    rw [isWhitespace_toUpper]
    simpa using hpad.1
  have hlast : ((c :: l).map Char.toUpper ++ "_".toList).getLast? = some '_' := by
    rw [show "_".toList = ['_'] from rfl, List.getLast?_concat]
  rw [padFree, hlast]
  simp [hhead]
  decide

/-- A slug that carries a clean name is not blank, and still carries it when trimmed. -/
theorem Carries.trim {slug name : String} (hclean : CleanName name) (hslug : Carries slug name) :
    Carries (trim slug) name ∧ RustStr.trim slug ≠ "" := by
  have hne : (toAsciiUppercase name ++ "_").toList ≠ [] := by simp
  have htrim := startsWith_trim (padFree_carried hclean) hne hslug
  refine ⟨htrim, ?_⟩
  intro hempty
  obtain ⟨rest, hrest⟩ := startsWith_iff.mp htrim
  rw [hempty] at hrest
  exact hne (List.append_eq_nil_iff.mp hrest.symm).1

/-- A slug that carries such a name belongs to that toolkit. -/
theorem tableToolkit_of_carries {table : List (String × String)} {slug name : String}
    (hplain : PlainName table name) (hslug : Carries slug name) :
    tableToolkit table slug = some (toAsciiLowercase name) := by
  obtain ⟨hclean, hname, htable⟩ := hplain
  obtain ⟨htrim, hne⟩ := hslug.trim hclean
  have hsegment := splitFirst_of_carries hname htrim
  have hmiss : findPrefix table (toAsciiUppercase (RustStr.trim slug)) = none := by
    cases hfind : findPrefix table (toAsciiUppercase (RustStr.trim slug)) with
    | none => rfl
    | some toolkit =>
      obtain ⟨entry, hmem, -, hseg⟩ :=
        findPrefix_eq_some (fun entry hmem => (htable entry hmem).1) hfind
      rw [hsegment, toAsciiUppercase_toAsciiUppercase] at hseg
      exact absurd hseg.symm (htable entry hmem).2
  have hsegmentNe : toAsciiUppercase name ≠ "" := by
    intro hempty
    have hlist := congrArg String.toList hempty
    rw [toList_toAsciiUppercase] at hlist
    exact hclean.2 (List.map_eq_nil_iff.mp hlist)
  rw [tableToolkit, if_neg hne, hmiss]
  simp only [firstSegmentToolkit, hsegment, if_neg hsegmentNe, toAsciiLowercase_toAsciiUppercase]

/-! ## The catalog of a curated slug -/

theorem nodup_catalogs : (CATALOGS.map Prod.fst).Nodup := by decide +kernel

/-- An arm of the static map is reached under its own key. -/
theorem lookup_of_mem {name : String} {catalog : List CuratedTool}
    (h : (name, catalog) ∈ CATALOGS) : CATALOGS.lookup name = some catalog := by
  obtain ⟨before, after, hsplit⟩ := List.append_of_mem h
  refine List.lookup_eq_some_iff.mpr ⟨before, after, hsplit, ?_⟩
  intro entry hentry
  have hnodup := nodup_catalogs
  rw [hsplit, List.map_append, List.nodup_append] at hnodup
  have hne := hnodup.2.2 entry.1 (List.mem_map_of_mem hentry) name (by simp)
  simpa using fun heq => hne heq.symm

theorem normal_catalogs : ∀ name ∈ CATALOGS.map Prod.fst, toAsciiLowercase (trim name) = name := by
  decide +kernel

theorem clean_catalogs : ∀ name ∈ CATALOGS.map Prod.fst, CleanName name := by
  unfold CleanName
  decide +kernel

theorem ascii_catalogs : ∀ name ∈ CATALOGS.map Prod.fst,
    (name.toList.all fun c => Nat.ble (c.toNat + 1) 128) = true := by
  decide +kernel

theorem catalogForToolkit_of_mem {name : String} {catalog : List CuratedTool}
    (h : (name, catalog) ∈ CATALOGS) : catalogForToolkit name = some catalog := by
  rw [catalogForToolkit, normal_catalogs name (List.mem_map_of_mem h)]
  exact lookup_of_mem h

/-- The names in the map that the first word of a slug does not give, each with
the prefix that stands in the parser's table for its catalog. -/
def TABLED : List (String × String × String) :=
  [("microsoft", "MICROSOFT_TEAMS_", "microsoft_teams"),
    ("microsoft_teams", "MICROSOFT_TEAMS_", "microsoft_teams"),
    ("one", "ONE_DRIVE_", "one_drive"), ("one_drive", "ONE_DRIVE_", "one_drive"),
    ("google_calendar", "GOOGLE_CALENDAR_", "googlecalendar"),
    ("google_drive", "GOOGLE_DRIVE_", "googledrive"),
    ("google_docs", "GOOGLE_DOCS_", "googledocs"),
    ("google_sheets", "GOOGLE_SHEETS_", "googlesheets")]

theorem tabled_or_plain : ∀ name ∈ CATALOGS.map Prod.fst,
    name ∈ TABLED.map Prod.fst ∨ PlainName busTable name := by
  unfold PlainName CleanName
  decide +kernel

theorem forall_startsWith_nil (p : String) :
    ∀ action ∈ ([] : List CuratedTool), startsWith action.slug p = true := by simp

theorem forall_startsWith_cons {l : List Char} {scope : ToolScope} {catalog : List CuratedTool}
    {p : List Char} (h : p.isPrefixOf l = true)
    (hrest : ∀ action ∈ catalog, startsWith action.slug (String.ofList p) = true) :
    ∀ action ∈ (⟨String.ofList l, scope⟩ : CuratedTool) :: catalog,
      startsWith action.slug (String.ofList p) = true := by
  intro action hmem
  rcases List.mem_cons.mp hmem with rfl | hmem
  · rw [startsWith, String.toList_ofList, String.toList_ofList]
    exact h
  · exact hrest action hmem

theorem teams_slugs :
    ∀ action ∈ MICROSOFT_TEAMS_CURATED, startsWith action.slug "MICROSOFT_TEAMS_" = true := by
  repeat (first | exact forall_startsWith_nil _ | apply forall_startsWith_cons (by rfl))

theorem one_drive_slugs :
    ∀ action ∈ ONE_DRIVE_CURATED, startsWith action.slug "ONE_DRIVE_" = true := by
  repeat (first | exact forall_startsWith_nil _ | apply forall_startsWith_cons (by rfl))

/-- An arm is the only one of its key. -/
theorem catalog_unique {name : String} {catalog : List CuratedTool} (h : (name, catalog) ∈ CATALOGS)
    (catalog' : List CuratedTool) (h' : (name, catalog') ∈ CATALOGS) : catalog = catalog' := by
  have hlookup := lookup_of_mem h
  rw [lookup_of_mem h', Option.some_inj] at hlookup
  exact hlookup.symm

/-- The tabled names share their catalog with the toolkit the parser's table names. -/
theorem tabled_catalog {name pfx toolkit : String} (hrow : (name, pfx, toolkit) ∈ TABLED)
    {catalog : List CuratedTool} (hcatalog : (name, catalog) ∈ CATALOGS) :
    (pfx, toolkit) ∈ busTable ∧ (toolkit, catalog) ∈ CATALOGS ∧
      ∀ action ∈ catalog, Carries action.slug name → startsWith action.slug pfx = true := by
  simp only [TABLED, List.mem_cons, List.not_mem_nil, or_false, Prod.mk.injEq] at hrow
  rcases hrow with ⟨rfl, rfl, rfl⟩ | ⟨rfl, rfl, rfl⟩ | ⟨rfl, rfl, rfl⟩ | ⟨rfl, rfl, rfl⟩ |
    ⟨rfl, rfl, rfl⟩ | ⟨rfl, rfl, rfl⟩ | ⟨rfl, rfl, rfl⟩ | ⟨rfl, rfl, rfl⟩
  · obtain rfl := catalog_unique hcatalog MICROSOFT_TEAMS_CURATED (by simp [CATALOGS])
    exact ⟨by decide, by simp [CATALOGS], fun action hmem _ => teams_slugs action hmem⟩
  · obtain rfl := catalog_unique hcatalog MICROSOFT_TEAMS_CURATED (by simp [CATALOGS])
    exact ⟨by decide, by simp [CATALOGS], fun action hmem _ => teams_slugs action hmem⟩
  · obtain rfl := catalog_unique hcatalog ONE_DRIVE_CURATED (by simp [CATALOGS])
    exact ⟨by decide, by simp [CATALOGS], fun action hmem _ => one_drive_slugs action hmem⟩
  · obtain rfl := catalog_unique hcatalog ONE_DRIVE_CURATED (by simp [CATALOGS])
    exact ⟨by decide, by simp [CATALOGS], fun action hmem _ => one_drive_slugs action hmem⟩
  · obtain rfl := catalog_unique hcatalog GOOGLECALENDAR_CURATED (by simp [CATALOGS])
    refine ⟨by decide, by simp [CATALOGS], fun action _ hcarries => ?_⟩
    rwa [Carries, show toAsciiUppercase "google_calendar" ++ "_" = "GOOGLE_CALENDAR_" by
      decide] at hcarries
  · obtain rfl := catalog_unique hcatalog GOOGLEDRIVE_CURATED (by simp [CATALOGS])
    refine ⟨by decide, by simp [CATALOGS], fun action _ hcarries => ?_⟩
    rwa [Carries, show toAsciiUppercase "google_drive" ++ "_" = "GOOGLE_DRIVE_" by
      decide] at hcarries
  · obtain rfl := catalog_unique hcatalog GOOGLEDOCS_CURATED (by simp [CATALOGS])
    refine ⟨by decide, by simp [CATALOGS], fun action _ hcarries => ?_⟩
    rwa [Carries, show toAsciiUppercase "google_docs" ++ "_" = "GOOGLE_DOCS_" by
      decide] at hcarries
  · obtain rfl := catalog_unique hcatalog GOOGLESHEETS_CURATED (by simp [CATALOGS])
    refine ⟨by decide, by simp [CATALOGS], fun action _ hcarries => ?_⟩
    rwa [Carries, show toAsciiUppercase "google_sheets" ++ "_" = "GOOGLE_SHEETS_" by
      decide] at hcarries

/-- An action that carries its toolkit's name is looked up in that toolkit's catalog. -/
theorem exists_toolkit_of_carries {name : String} {catalog : List CuratedTool}
    (hcatalog : (name, catalog) ∈ CATALOGS) {action : CuratedTool} (hmem : action ∈ catalog)
    (hcarries : Carries action.slug name) :
    ∃ toolkit, Bus.toolkitFromSlug action.slug = some toolkit ∧
      catalogForToolkit toolkit = some catalog := by
  have hname := List.mem_map_of_mem (f := Prod.fst) hcatalog
  rw [Bus.toolkitFromSlug_eq]
  rcases tabled_or_plain name hname with htabled | hplain
  · obtain ⟨⟨_, pfx, toolkit⟩, hrow, rfl⟩ := List.mem_map.mp htabled
    obtain ⟨hentry, htoolkit, hslugs⟩ := tabled_catalog hrow hcatalog
    exact ⟨toolkit, tableToolkit_of_mem prefixFree_bus hentry (hslugs action hmem hcarries),
      catalogForToolkit_of_mem htoolkit⟩
  · refine ⟨toAsciiLowercase name, tableToolkit_of_carries hplain hcarries, ?_⟩
    have hnormal := normal_catalogs name hname
    rw [catalogForToolkit, ← toAsciiLowercase_trim, toAsciiLowercase_toAsciiLowercase, hnormal]
    exact lookup_of_mem hcatalog

/-- Whether such an action is visible is a matter of its own scope. -/
theorem visible_of_carries {name : String} {catalog : List CuratedTool}
    (hcatalog : (name, catalog) ∈ CATALOGS) {action : CuratedTool} (hmem : action ∈ catalog)
    (hcarries : Carries action.slug name) (pref : UserScopePref) :
    isActionVisibleWithPref action.slug pref = pref.allows action.scope := by
  obtain ⟨toolkit, htoolkit, hlookup⟩ := exists_toolkit_of_carries hcatalog hmem hcarries
  simp only [isActionVisibleWithPref, htoolkit, hlookup,
    findCurated_self (distinctSlugs_of_mem hcatalog) hmem]

/-! ## Published actions -/

/-- The slug of an action that is published under `toolkit`. -/
def publishedSlug (toolkit rest : String) : String := toAsciiUppercase toolkit ++ "_" ++ rest

theorem carries_publishedSlug (toolkit rest : String) :
    Carries (publishedSlug toolkit rest) toolkit := by
  rw [Carries, startsWith_iff]
  exact ⟨rest.toList, by rw [publishedSlug, String.toList_append]⟩

/-- The slug of an action: the first word of its toolkit, and what follows the underscore. -/
theorem toList_publishedSlug (toolkit rest : String) :
    ∃ tail, (publishedSlug toolkit rest).toList =
      (splitFirst toolkit '_').toList.map Char.toUpper ++ '_' :: tail := by
  have hsplit : toolkit.toList = toolkit.toList.takeWhile (· != '_') ++
      toolkit.toList.dropWhile (· != '_') := List.takeWhile_append_dropWhile.symm
  have hslug : (publishedSlug toolkit rest).toList =
      toolkit.toList.map Char.toUpper ++ '_' :: rest.toList := by
    simp [publishedSlug]
  rw [hslug, splitFirst, String.toList_ofList]
  cases htail : toolkit.toList.dropWhile (· != '_') with
  | nil =>
    rw [htail, List.append_nil] at hsplit
    exact ⟨rest.toList, by rw [← hsplit]⟩
  | cons c tail =>
    have hc : c = '_' := by
      have hhead := List.head_dropWhile_not (· != '_') (l := toolkit.toList) (by simp [htail])
      simpa [htail] using hhead
    rw [htail, hc] at hsplit
    refine ⟨tail.map Char.toUpper ++ '_' :: rest.toList, ?_⟩
    conv_lhs => rw [hsplit]
    have hsep : Char.toUpper '_' = '_' := by decide
    rw [List.map_append, List.map_cons, hsep, List.append_assoc]
    rfl

/-- The first word of a published action, trimmed. -/
theorem splitFirst_publishedSlug (toolkit rest : String) :
    (splitFirst (trim (publishedSlug toolkit rest)) '_').toList =
      ((splitFirst toolkit '_').toList.map Char.toUpper).dropWhile isWhitespace := by
  obtain ⟨tail, htail⟩ := toList_publishedSlug toolkit rest
  refine splitFirst_trim ?_ htail
  intro hmem
  obtain ⟨c, hc, hupper⟩ := List.mem_map.mp hmem
  rw [toUpper_eq_underscore] at hupper
  rw [splitFirst, String.toList_ofList, hupper] at hc
  simpa using List.mem_takeWhile_imp hc

theorem trim_publishedSlug_ne (toolkit rest : String) : trim (publishedSlug toolkit rest) ≠ "" := by
  intro hempty
  have hblank := congrArg String.toList hempty
  rw [toList_trim] at hblank
  obtain ⟨tail, htail⟩ := toList_publishedSlug toolkit rest
  have hsep := trimChars_eq_nil_iff.mp hblank '_' (by rw [htail]; simp)
  cases hsep
