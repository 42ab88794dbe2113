/-
# Reading an account's identity

`toolkits/identity.rs` and the providers beside it: a provider runs one action and picks
the fields of a profile out of what it answers, each at the first of its paths that holds
a text.  The action is one of the toolkit's own reads, and a field that is there is not
blank.
-/
import TinyConnectors.Catalog.Lookup
import TinyConnectors.Contracts.SchemaWalk
import TinyConnectors.Payloads
import TinyConnectors.Prepare

open RustStr

namespace Identity

/-! ## Picking a field -/

/-- Down one path, a key at a time. -/
def walk : List String → Json → Option Json
  | [], current => some current
  | key :: rest, current => (SchemaWalk.get key current).bind (walk rest)

/-- The text at a path, if there is one. -/
def textAt (payload : Json) (path : String) : Option String :=
  (walk (split path '.') payload).bind fun current =>
    (current.asStr.map trim).filter fun value => value ≠ ""

/-- The first non-empty string at any of `paths`. -/
def pick (payload : Json) (paths : List String) : Option String := paths.findSome? (textAt payload)

/-- What is picked is the trimmed string at one of the paths, and none before it has one. -/
theorem pick_eq_some {payload : Json} {paths : List String} {value : String}
    (h : pick payload paths = some value) : ∃ before path later given,
      paths = before ++ path :: later ∧ (∀ earlier ∈ before, textAt payload earlier = none) ∧
        walk (split path '.') payload = some (.str given) ∧ value = trim given ∧ value ≠ "" := by
  obtain ⟨before, path, later, hpaths, hfound, hearlier⟩ := List.findSome?_eq_some_iff.mp h
  obtain ⟨current, hwalk, htext⟩ := Option.bind_eq_some_iff.mp hfound
  rw [Option.filter_eq_some_iff, Option.map_eq_some_iff, decide_eq_true_iff] at htext
  obtain ⟨⟨given, hgiven, rfl⟩, hne⟩ := htext
  have hstr : current = .str given := by
    cases current with
    | str s => exact congrArg Json.str (Option.some_inj.mp hgiven)
    | _ => cases hgiven
  exact ⟨before, path, later, given, hpaths, hearlier, hstr ▸ hwalk, rfl, hne⟩

/-! ## Profiles -/

/-- What can be said of an account; `ComposioUserProfile` and `ProviderUserProfile`. -/
structure UserProfile where
  toolkit : String
  connectionId : Option String
  displayName : Option String
  email : Option String
  username : Option String
  avatarUrl : Option String
  profileUrl : Option String
  /-- The whole payload. -/
  extras : Json

/-- The texts of a profile that are picked from the payload. -/
def UserProfile.picked (profile : UserProfile) : List String :=
  [profile.displayName, profile.email, profile.username, profile.avatarUrl,
    profile.profileUrl].filterMap id

/-- How a provider reads an identity: the action it runs, and where each field may be.
Without a path a field is left out. -/
structure Reader where
  toolkitSlug : String
  profileAction : String
  displayName : List String
  email : List String
  username : List String
  avatarUrl : List String
  profileUrl : List String

/-- The profile in a payload. -/
def Reader.profile (reader : Reader) (connectionId : String) (payload : Json) : UserProfile where
  toolkit := reader.toolkitSlug
  connectionId := some connectionId
  displayName := pick payload reader.displayName
  email := pick payload reader.email
  username := pick payload reader.username
  avatarUrl := pick payload reader.avatarUrl
  profileUrl := pick payload reader.profileUrl
  extras := payload

/-- `ClickupProvider`. -/
def CLICKUP : Reader where
  toolkitSlug := "clickup"
  profileAction := "CLICKUP_GET_AUTHORIZED_USER"
  displayName := ["username"]
  email := ["email"]
  username := ["username"]
  avatarUrl := ["profilePicture"]
  profileUrl := []

/-- `GithubProvider`. -/
def GITHUB : Reader where
  toolkitSlug := "github"
  profileAction := "GITHUB_GET_THE_AUTHENTICATED_USER"
  displayName := ["name"]
  email := ["email"]
  username := ["login"]
  avatarUrl := ["avatar_url"]
  profileUrl := ["html_url"]

/-- `GmailProvider`. -/
def GMAIL : Reader where
  toolkitSlug := "gmail"
  profileAction := "GMAIL_GET_PROFILE"
  displayName := ["name", "displayName"]
  email := ["emailAddress", "email"]
  username := []
  avatarUrl := []
  profileUrl := []

/-- `LinearProvider`. -/
def LINEAR : Reader where
  toolkitSlug := "linear"
  profileAction := "LINEAR_LIST_LINEAR_USERS"
  displayName := ["name", "displayName"]
  email := ["email"]
  username := []
  avatarUrl := []
  profileUrl := []

/-- `NotionProvider`. -/
def NOTION : Reader where
  toolkitSlug := "notion"
  profileAction := "NOTION_GET_ABOUT_ME"
  displayName := ["name"]
  email := ["person.email", "email"]
  username := ["id"]
  avatarUrl := ["avatar_url"]
  profileUrl := []

/-- `SlackProvider`: the account of a Slack connection is the workspace. -/
def SLACK : Reader where
  toolkitSlug := "slack"
  profileAction := "SLACK_FETCH_TEAM_INFO"
  displayName := ["team.name", "name", "data.team.name"]
  email := []
  username := ["team.domain", "domain", "data.team.domain"]
  avatarUrl := ["team.icon.image_132", "icon.image_132"]
  profileUrl := []

/-- The providers that ship. -/
def READERS : List Reader := [CLICKUP, GITHUB, GMAIL, LINEAR, NOTION, SLACK]

/-- The provider of `toolkit`, matched on the trimmed, lowercased slug. -/
def readerOf (toolkit : String) : Option Reader :=
  READERS.find? fun reader => reader.toolkitSlug = toAsciiLowercase (trim toolkit)

/-- A reader is found under its own slug. -/
theorem slug_of_readerOf {toolkit : String} {reader : Reader} (h : readerOf toolkit = some reader) :
    reader ∈ READERS ∧ reader.toolkitSlug = toAsciiLowercase (trim toolkit) := by
  have hslug := List.find?_some h
  rw [decide_eq_true_iff] at hslug
  exact ⟨List.mem_of_find?_eq_some h, hslug⟩

/-- No text that is picked is blank or padded. -/
theorem trim_of_mem_picked {reader : Reader} {connectionId text : String} {payload : Json}
    (h : text ∈ (reader.profile connectionId payload).picked) : trim text = text ∧ text ≠ "" := by
  obtain ⟨field, hfield, hid⟩ := List.mem_filterMap.mp h
  have hpick : ∀ paths, some text = pick payload paths → trim text = text ∧ text ≠ "" := by
    intro paths hpaths
    obtain ⟨-, -, -, given, -, -, -, rfl, hne⟩ := pick_eq_some hpaths.symm
    exact ⟨trim_trim given, hne⟩
  obtain rfl : field = some text := hid
  simp only [Reader.profile, List.mem_cons, List.not_mem_nil, or_false] at hfield
  rcases hfield with hpaths | hpaths | hpaths | hpaths | hpaths <;> exact hpick _ hpaths

/-- An identity is read by one of the toolkit's curated reads. -/
theorem profileAction_read {toolkit : String} {reader : Reader}
    (h : readerOf toolkit = some reader) :
    ∃ provider catalog, defaultRegistry.get toolkit = some provider ∧
      provider.curatedTools = some catalog ∧ ⟨reader.profileAction, .read⟩ ∈ catalog := by
  obtain ⟨hmem, hslug⟩ := slug_of_readerOf h
  rw [ProviderRegistry.get, ← hslug, defaultRegistry_eq]
  simp only [READERS, List.mem_cons, List.not_mem_nil, or_false] at hmem
  rcases hmem with rfl | rfl | rfl | rfl | rfl | rfl
  · exact ⟨_, _, rfl, rfl, by simp [CLICKUP_CURATED, CLICKUP]⟩
  · exact ⟨_, _, rfl, rfl, by simp [GITHUB_CURATED, GITHUB]⟩
  · exact ⟨_, _, rfl, rfl, by simp [GMAIL_CURATED, GMAIL]⟩
  · exact ⟨_, _, rfl, rfl, by simp [LINEAR_CURATED, LINEAR]⟩
  · exact ⟨_, _, rfl, rfl, by simp [NOTION_CURATED, NOTION]⟩
  · exact ⟨_, _, rfl, rfl, by simp [SLACK_CURATED, SLACK]⟩

/-- Nothing in an identity read is refused before it is sent. -/
theorem prepare_profileAction :
    ∀ reader ∈ READERS, trim reader.profileAction = reader.profileAction ∧
    prepareExecuteArguments reader.profileAction (some (.obj [])) = .ok (.obj []) := by
  intro reader hmem
  simp only [READERS, List.mem_cons, List.not_mem_nil, or_false] at hmem
  rcases hmem with rfl | rfl | rfl | rfl | rfl | rfl
  all_goals exact ⟨by decide +kernel, by decide +kernel⟩

end Identity
