/-
# Scope classification

The two slug parsers of the connector code and the two verb heuristics, side by
side: `Sync` is `tinyconnectors-sync/src/scope/types.rs`, which execution
consults, and `Bus` is `tinyconnectors-bus/src/vocabulary/slug.rs`, which the
vocabulary members consult.  They differ in their prefix tables (the second
knows `GOOGLE_MAPS_` and the separated spellings) and in the read-verb rule
(only the first has one).
-/
import TinyConnectors.RustStr

open RustStr

/-! ## Scopes, preferences and catalog entries -/

/-- How invasive an action is. -/
inductive ToolScope where
  | read
  | write
  | admin
  deriving DecidableEq, Repr

/-- Per-toolkit preference: three independent flags. -/
structure UserScopePref where
  read : Bool
  write : Bool
  admin : Bool
  deriving DecidableEq, Repr

namespace UserScopePref

/-- `Default for UserScopePref`: reads and writes on, admin off. -/
def default : UserScopePref := { read := true, write := true, admin := false }

/-- Whether the supplied scope is permitted by these independent flags. -/
def allows (pref : UserScopePref) : ToolScope → Bool
  | .read => pref.read
  | .write => pref.write
  | .admin => pref.admin

/-- Durable preference row key: toolkit trimmed and lowercased. -/
def key (toolkit : String) : String := toAsciiLowercase (trim toolkit)

end UserScopePref

/-- One entry in a provider's curated catalog. -/
structure CuratedTool where
  slug : String
  scope : ToolScope
  deriving DecidableEq, Repr

/-- Find `slug` in a curated catalog, case-insensitively.  Both crates and the
module's vocabulary carry this same function; none of them trims `slug`. -/
def findCurated (catalog : List CuratedTool) (slug : String) : Option CuratedTool :=
  catalog.find? (fun tool => eqIgnoreAsciiCase tool.slug slug)

/-- What `findCurated` finds is an entry of the catalog, spelled up to case. -/
theorem findCurated_eq_some {catalog : List CuratedTool} {slug : String} {tool : CuratedTool}
    (h : findCurated catalog slug = some tool) :
    tool ∈ catalog ∧ eqIgnoreAsciiCase tool.slug slug = true :=
  ⟨List.mem_of_find?_eq_some h, by simpa using List.find?_some h⟩

/-- A catalog of unpadded slugs lists no padded action. -/
theorem findCurated_padded {catalog : List CuratedTool} {slug : String}
    (hcat : ∀ tool ∈ catalog, trim tool.slug = tool.slug) (hpad : trim slug ≠ slug) :
    findCurated catalog slug = none := by
  cases h : findCurated catalog slug with
  | none => rfl
  | some tool =>
    obtain ⟨hmem, heq⟩ := findCurated_eq_some h
    exact absurd (trim_eq_of_eqIgnoreAsciiCase heq (hcat tool hmem)) hpad

/-- Unpadded slugs, entry by entry: how the tables are checked. -/
theorem forall_trim_slug_cons {l : List Char} {scope : ToolScope} {catalog : List CuratedTool}
    (hslug : padFree l = true) (hcat : ∀ tool ∈ catalog, trim tool.slug = tool.slug) :
    ∀ tool ∈ (⟨String.ofList l, scope⟩ : CuratedTool) :: catalog, trim tool.slug = tool.slug := by
  intro tool hmem
  rcases List.mem_cons.mp hmem with rfl | hmem
  · exact trim_ofList hslug
  · exact hcat tool hmem

/-! ## The word lists -/

/-- Words that make an action destructive wherever they appear. -/
def ADMIN : List String :=
  ["DELETE", "TRASH", "REMOVE", "MODIFY_LABELS", "SHARE", "REVOKE", "DESTROY"]

/-- Verbs that only ever read, when they lead the action. -/
def READ_VERBS : List String :=
  ["GET", "LIST", "FETCH", "SEARCH", "READ", "FIND", "QUERY", "RETRIEVE", "DOWNLOAD",
    "EXPORT", "COUNT", "CHECK"]

/-- Words that make an action mutating. -/
def WRITE : List String :=
  ["SEND", "CREATE", "UPDATE", "REPLY", "APPEND", "INSERT", "ADD", "POST", "PATCH", "WRITE",
    "DRAFT"]

/-- The first entry of a `(prefix, toolkit)` table whose prefix starts `upper`. -/
def findPrefix (table : List (String × String)) (upper : String) : Option String :=
  (table.find? (fun entry => startsWith upper entry.1)).map Prod.snd

/-- The toolkit a slug's first segment names: lowercased, absent when empty. -/
def firstSegmentToolkit (trimmed : String) : Option String :=
  let segment := splitFirst trimmed '_'
  if segment = "" then none else some (toAsciiLowercase segment)

namespace Sync

/-- Toolkits whose own name contains `_`, as the sync crate lists them. -/
def MULTI_SEGMENT_TOOLKITS : List (String × String) :=
  [("MICROSOFT_TEAMS_", "microsoft_teams"), ("ONE_DRIVE_", "one_drive"),
    ("ZOHO_MAIL_", "zoho_mail")]

/-- The toolkit an action slug belongs to. -/
def toolkitFromSlug (slug : String) : Option String :=
  let trimmed := trim slug
  if trimmed = "" then none
  else
    match findPrefix MULTI_SEGMENT_TOOLKITS (toAsciiUppercase trimmed) with
    | some toolkit => some toolkit
    | none => firstSegmentToolkit trimmed

/-- The verb of an upper-cased action slug: the segment after the toolkit. -/
def leadingVerb (upper : String) : Option String :=
  match toolkitFromSlug upper with
  | none => none
  | some toolkit =>
    match getFrom upper (len toolkit) with
    | none => none
    | some rest =>
      let verb := splitFirst (trimStartMatches rest '_') '_'
      if verb = "" then none else some verb

/-- Classify an action that no curated catalog covers: any destructive word, then
a leading read verb, then any write word, otherwise a read. -/
def classifyUnknown (slug : String) : ToolScope :=
  let upper := toAsciiUppercase (trim slug)
  if ADMIN.any (contains upper) then .admin
  else if (leadingVerb upper).any (READ_VERBS.contains ·) then .read
  else if WRITE.any (contains upper) then .write
  else .read

@[simp] theorem toolkitFromSlug_trim (slug : String) :
    toolkitFromSlug (trim slug) = toolkitFromSlug slug := by
  simp [toolkitFromSlug]

@[simp] theorem classifyUnknown_trim (slug : String) :
    classifyUnknown (trim slug) = classifyUnknown slug := by
  simp [classifyUnknown]

end Sync

namespace Bus

/-- Toolkits whose identifier contains an underscore: `(action prefix, toolkit)`. -/
def MULTI_SEGMENT_TOOLKIT_PREFIXES : List (String × String) :=
  [("MICROSOFT_TEAMS_", "microsoft_teams"), ("ONE_DRIVE_", "one_drive"),
    ("ZOHO_MAIL_", "zoho_mail"), ("GOOGLE_MAPS_", "google_maps")]

/-- Spellings used for toolkits whose real slugs have no separator:
`(alias prefix, toolkit, canonical action prefix)`. -/
def ALIASED_TOOLKIT_PREFIXES : List (String × String × String) :=
  [("GOOGLE_DRIVE_", "googledrive", "GOOGLEDRIVE_"),
    ("GOOGLE_CALENDAR_", "googlecalendar", "GOOGLECALENDAR_"),
    ("GOOGLE_SHEETS_", "googlesheets", "GOOGLESHEETS_"),
    ("GOOGLE_DOCS_", "googledocs", "GOOGLEDOCS_"),
    ("GOOGLE_MEET_", "googlemeet", "GOOGLEMEET_"),
    ("GOOGLE_TASKS_", "googletasks", "GOOGLETASKS_"),
    ("GOOGLE_SLIDES_", "googleslides", "GOOGLESLIDES_"),
    ("GOOGLE_PHOTOS_", "googlephotos", "GOOGLEPHOTOS_"),
    ("MICROSOFT_OUTLOOK_", "outlook", "OUTLOOK_")]

/-- Extract the toolkit slug from an action slug. -/
def toolkitFromSlug (slug : String) : Option String :=
  let trimmed := trim slug
  if trimmed = "" then none
  else
    let upper := toAsciiUppercase trimmed
    match findPrefix MULTI_SEGMENT_TOOLKIT_PREFIXES upper with
    | some toolkit => some toolkit
    | none =>
      match findPrefix (ALIASED_TOOLKIT_PREFIXES.map fun e => (e.1, e.2.1)) upper with
      | some toolkit => some toolkit
      | none => firstSegmentToolkit trimmed

/-- Heuristic fallback for a tool that is in no curated list: destructive words
first, then write words, otherwise a read.  The slug is not trimmed. -/
def classifyUnknown (slug : String) : ToolScope :=
  let upper := toAsciiUppercase slug
  if ADMIN.any (contains upper) then .admin
  else if WRITE.any (contains upper) then .write
  else .read

@[simp] theorem toolkitFromSlug_trim (slug : String) :
    toolkitFromSlug (trim slug) = toolkitFromSlug slug := by
  simp [toolkitFromSlug]

end Bus

example : Sync.classifyUnknown "GMAIL_LIST_DRAFTS" = .read
    ∧ Bus.classifyUnknown "GMAIL_LIST_DRAFTS" = .write := by decide
