/-
# Aliased spellings

`canonical_action_slug` and `action_slug_matches` in `vocabulary/slug.rs`, and
`evaluate_actions` in `vocabulary/mod.rs`.  An aliased spelling is replaced before anything
is looked up, so it is classified as the action it stands for.  The comparison is the
exception: it takes the first slug for a catalog's and canonicalises the second only.
-/
import TinyConnectors.Catalog.Slugs

open RustStr

namespace Bus

/-- The real action slug for an aliased spelling, or `none` when `slug` uses no alias. -/
def canonicalActionSlug (slug : String) : Option String :=
  let upper := toAsciiUppercase (trim slug)
  ALIASED_TOOLKIT_PREFIXES.findSome? fun entry =>
    (stripPrefix upper entry.1).map fun rest => entry.2.2 ++ rest

/-- Whether catalog slug `candidate` is the action `requested` names. -/
def actionSlugMatches (candidate requested : String) : Bool :=
  let requested := trim requested
  eqIgnoreAsciiCase candidate requested ||
    (canonicalActionSlug requested).any fun canonical => eqIgnoreAsciiCase candidate canonical

end Bus

/-! ## The member -/

/-- Explicit fallback for an action absent from the curated catalog. -/
inductive UnknownScopeProfile where
  | substringCompatibility
  | leadingVerb
  deriving DecidableEq, Repr

/-- One action metadata query. -/
structure ActionVocabularyRequest where
  slug : String
  preference : UserScopePref
  unknownScopeProfile : UnknownScopeProfile
  compareWith : Option String

/-- Classification and naming metadata for one requested action. -/
structure ActionVocabularyResponse where
  toolkit : Option String
  canonicalSlug : Option String
  curatedScope : Option ToolScope
  scope : ToolScope
  visible : Bool
  isMatch : Option Bool
  deriving DecidableEq

/-- The answer to one request. -/
def evaluateAction (request : ActionVocabularyRequest) : ActionVocabularyResponse :=
  let canonicalSlug := Bus.canonicalActionSlug request.slug
  let slug := canonicalSlug.getD request.slug
  let toolkit := Bus.toolkitFromSlug slug
  let curatedScope := curatedScopeFor slug
  let scope := curatedScope.getD (match request.unknownScopeProfile with
    | .substringCompatibility => Bus.classifyUnknown slug
    | .leadingVerb => Sync.classifyUnknown slug)
  let visible :=
    if request.unknownScopeProfile = .substringCompatibility then
      isActionVisibleWithPref slug request.preference
    else
      toolkit.all fun toolkit =>
        ((catalogForToolkit toolkit).isNone || curatedScope.isSome) &&
          request.preference.allows scope
  { toolkit, canonicalSlug, curatedScope, scope, visible
    isMatch := request.compareWith.map fun other => Bus.actionSlugMatches request.slug other }

def evaluateActions (requests : List ActionVocabularyRequest) : List ActionVocabularyResponse :=
  requests.map evaluateAction

/-! ## The rows of the alias table -/

namespace Bus

/-- What holds of a row: its canonical prefix is that of its toolkit, a word no other
prefix begins with, and no alias begins with it or starts it. -/
def AliasRow (entry : String × String × String) : Prop :=
  (entry.1, entry.2.1) ∈ busTable ∧ entry.2.2 = toAsciiUppercase entry.2.1 ++ "_" ∧
    toAsciiLowercase entry.2.1 = entry.2.1 ∧ PlainName busTable entry.2.1 ∧
    ∀ other ∈ ALIASED_TOOLKIT_PREFIXES,
      startsWith entry.2.2 other.1 = false ∧ startsWith other.1 entry.2.2 = false

theorem aliasRow_of_mem : ∀ entry ∈ ALIASED_TOOLKIT_PREFIXES, AliasRow entry := by
  unfold AliasRow PlainName CleanName
  decide +kernel

/-- An aliased spelling, taken apart. -/
theorem canonicalActionSlug_eq_some {slug canonical : String}
    (h : canonicalActionSlug slug = some canonical) :
    ∃ entry ∈ ALIASED_TOOLKIT_PREFIXES, ∃ rest,
      toAsciiUppercase (trim slug) = entry.1 ++ rest ∧ canonical = entry.2.2 ++ rest := by
  unfold canonicalActionSlug at h
  dsimp only at h
  obtain ⟨entry, hentry, hfound⟩ := List.exists_of_findSome?_eq_some h
  obtain ⟨rest, hrest, hcanonical⟩ := Option.map_eq_some_iff.mp hfound
  exact ⟨entry, hentry, rest, stripPrefix_eq_some_iff.mp hrest, hcanonical.symm⟩

theorem canonicalActionSlug_eq_none_iff {slug : String} : canonicalActionSlug slug = none ↔
    ∀ entry ∈ ALIASED_TOOLKIT_PREFIXES,
    startsWith (toAsciiUppercase (trim slug)) entry.1 = false := by
  unfold canonicalActionSlug
  dsimp only
  rw [List.findSome?_eq_none_iff]
  apply forall₂_congr
  intro entry _
  rw [Option.map_eq_none_iff, stripPrefix, ite_eq_right_iff, Bool.eq_false_iff]
  exact ⟨fun h hstarts => Option.some_ne_none _ (h hstarts), fun h hstarts => absurd hstarts h⟩

@[simp] theorem canonicalActionSlug_trim (slug : String) :
    canonicalActionSlug (trim slug) = canonicalActionSlug slug := by
  unfold canonicalActionSlug
  rw [trim_trim]

variable {slug canonical : String}

theorem toAsciiUppercase_append (s t : String) :
    toAsciiUppercase (s ++ t) = toAsciiUppercase s ++ toAsciiUppercase t := by
  apply String.toList_injective
  simp only [toList_toAsciiUppercase, String.toList_append, List.map_append]

/-- What stands for an aliased spelling is in upper case. -/
theorem toAsciiUppercase_canonical (h : canonicalActionSlug slug = some canonical) :
    toAsciiUppercase canonical = canonical := by
  obtain ⟨entry, hentry, rest, hslug, rfl⟩ := canonicalActionSlug_eq_some h
  obtain ⟨-, hword, -⟩ := aliasRow_of_mem entry hentry
  have hrest : toAsciiUppercase rest = rest := by
    have htwice := congrArg toAsciiUppercase hslug
    rw [toAsciiUppercase_toAsciiUppercase, hslug, toAsciiUppercase_append] at htwice
    have hlist := congrArg String.toList htwice
    rw [String.toList_append, String.toList_append] at hlist
    apply String.toList_injective
    refine (List.append_inj_right hlist ?_).symm
    rw [toList_toAsciiUppercase, List.length_map]
  have hunderscore : toAsciiUppercase "_" = "_" := by decide
  rw [hword, toAsciiUppercase_append, toAsciiUppercase_append, toAsciiUppercase_toAsciiUppercase,
    hunderscore, hrest]

/-- Its ends are clean: the front is that of a clean name, the back that of a trimmed slug. -/
theorem trim_canonical (h : canonicalActionSlug slug = some canonical) :
    trim canonical = canonical := by
  obtain ⟨entry, hentry, rest, hslug, rfl⟩ := canonicalActionSlug_eq_some h
  obtain ⟨-, hword, -, hplain, -⟩ := aliasRow_of_mem entry hentry
  have hpad := padFree_carried hplain.1
  rw [← hword] at hpad
  have hfront := unpadded_of_padFree hpad
  have hne : entry.2.2.toList ≠ [] := by
    rw [hword, String.toList_append]
    exact List.append_ne_nil_of_right_ne_nil _ (List.cons_ne_nil _ _)
  have hback : Unpadded (entry.1.toList ++ rest.toList) := by
    rw [← String.toList_append, ← hslug, toList_toAsciiUppercase, toList_trim,
      ← trimChars_map isWhitespace_toUpper]
    exact unpadded_trimChars _
  apply String.toList_injective
  rw [toList_trim, String.toList_append]
  apply trimChars_eq_self
  constructor
  · intro hall
    rw [List.head_append_of_ne_nil hne]
    exact hfront.1 hne
  · intro hall
    by_cases hrest : rest.toList = []
    · have hlast := hfront.2 hne
      simp only [hrest, List.append_nil]
      exact hlast
    · have hlast := hback.2 (List.append_ne_nil_of_right_ne_nil _ hrest)
      rw [List.getLast_append_of_ne_nil _ hrest] at hlast ⊢
      exact hlast

/-- What stands for an aliased spelling is no aliased spelling. -/
theorem canonicalActionSlug_canonical (h : canonicalActionSlug slug = some canonical) :
    canonicalActionSlug canonical = none := by
  have hupper := toAsciiUppercase_canonical h
  have htrim := trim_canonical h
  obtain ⟨entry, hentry, rest, -, rfl⟩ := canonicalActionSlug_eq_some h
  rw [canonicalActionSlug_eq_none_iff, htrim, hupper]
  intro other hother
  obtain ⟨-, -, -, -, hapart⟩ := aliasRow_of_mem entry hentry
  rw [← Bool.not_eq_true]
  intro hstarts
  have hword : startsWith (entry.2.2 ++ rest) entry.2.2 = true :=
    startsWith_iff.mpr ⟨rest.toList, String.toList_append⟩
  rcases startsWith_or_startsWith hstarts hword with hmeet | hmeet
  · rw [(hapart other hother).2] at hmeet
    cases hmeet
  · rw [(hapart other hother).1] at hmeet
    cases hmeet

/-- Both spellings name the toolkit of the row. -/
theorem toolkitFromSlug_canonical (h : canonicalActionSlug slug = some canonical) :
    toolkitFromSlug canonical = toolkitFromSlug slug := by
  obtain ⟨entry, hentry, rest, hslug, rfl⟩ := canonicalActionSlug_eq_some h
  obtain ⟨hmem, hword, hlower, hplain, -⟩ := aliasRow_of_mem entry hentry
  have hcarries : Carries (entry.2.2 ++ rest) entry.2.1 := by
    rw [hword]
    exact startsWith_iff.mpr ⟨rest.toList, String.toList_append⟩
  have hne : trim slug ≠ "" := by
    intro hempty
    rw [hempty] at hslug
    have hlist := congrArg String.toList hslug
    rw [String.toList_append] at hlist
    obtain ⟨hclean, -⟩ := prefixFree_bus.2 _ hmem
    exact hclean.2 (List.append_eq_nil_iff.mp hlist.symm).1
  have hfound : findPrefix busTable (toAsciiUppercase (trim slug)) = some entry.2.1 := by
    rw [hslug]
    exact findPrefix_of_mem prefixFree_bus hmem
      (startsWith_iff.mpr ⟨rest.toList, String.toList_append⟩)
  rw [toolkitFromSlug_eq, toolkitFromSlug_eq, tableToolkit_of_carries hplain hcarries, hlower,
    tableToolkit, if_neg hne, hfound]

/-! ## The comparison -/

/-- A slug as it is compared: trimmed, and its alias replaced. -/
def canonicalForm (slug : String) : String := (canonicalActionSlug slug).getD (trim slug)

theorem canonicalActionSlug_congr {s t : String} (h : eqIgnoreAsciiCase s t = true)
    (hs : trim s = s) (ht : trim t = t) : canonicalActionSlug s = canonicalActionSlug t := by
  rw [eqIgnoreAsciiCase_iff] at h
  have hupper : toAsciiUppercase s = toAsciiUppercase t := by
    rw [← toAsciiUppercase_toAsciiLowercase s, h, toAsciiUppercase_toAsciiLowercase]
  unfold canonicalActionSlug
  rw [hs, ht, hupper]

/-- A candidate that uses no alias is compared with the canonical form of what is requested. -/
theorem actionSlugMatches_of_none {candidate : String}
    (hnone : canonicalActionSlug candidate = none) (htrim : trim candidate = candidate)
    (requested : String) :
    actionSlugMatches candidate requested =
      eqIgnoreAsciiCase (canonicalForm candidate) (canonicalForm requested) := by
  unfold actionSlugMatches canonicalForm
  dsimp only
  rw [canonicalActionSlug_trim, hnone, Option.getD_none, htrim]
  cases hrequested : canonicalActionSlug requested with
  | none => rw [Option.any_none, Option.getD_none, Bool.or_false]
  | some canonical =>
    have hother : eqIgnoreAsciiCase candidate (trim requested) = false := by
      rw [← Bool.not_eq_true]
      intro hsame
      have hboth := canonicalActionSlug_congr hsame htrim (trim_trim requested)
      rw [hnone, canonicalActionSlug_trim, hrequested] at hboth
      cases hboth
    rw [hother, Option.any_some, Option.getD_some, Bool.false_or]

/-- A candidate that uses an alias is compared as it is spelled. -/
theorem actionSlugMatches_of_some (h : canonicalActionSlug slug = some canonical)
    (requested : String) :
    actionSlugMatches slug requested = eqIgnoreAsciiCase slug (trim requested) := by
  unfold actionSlugMatches
  dsimp only
  rw [canonicalActionSlug_trim]
  cases hrequested : canonicalActionSlug requested with
  | none => rw [Option.any_none, Bool.or_false]
  | some other =>
    have hother : eqIgnoreAsciiCase slug other = false := by
      rw [← Bool.not_eq_true]
      intro hsame
      have hcanonical := trim_canonical hrequested
      have hslug : trim slug = slug := by
        apply trim_eq_of_eqIgnoreAsciiCase _ hcanonical
        rw [eqIgnoreAsciiCase_iff] at hsame ⊢
        exact hsame.symm
      have hboth := canonicalActionSlug_congr hsame hslug hcanonical
      rw [h, canonicalActionSlug_canonical hrequested] at hboth
      cases hboth
    rw [Option.any_some, hother, Bool.or_false]

end Bus

/-! ## Two spellings of one action -/

/-- Two answers classify the action alike. -/
structure SameAction (answer other : ActionVocabularyResponse) : Prop where
  toolkit : answer.toolkit = other.toolkit
  curatedScope : answer.curatedScope = other.curatedScope
  scope : answer.scope = other.scope
  visible : answer.visible = other.visible

/-- A request that spells its action without an alias. -/
def respelled (request : ActionVocabularyRequest) : ActionVocabularyRequest :=
  { request with slug := (Bus.canonicalActionSlug request.slug).getD request.slug }

/-- An aliased spelling and what it stands for. -/
structure CoherentSpelling (slug canonical : String) : Prop where
  toolkit : Bus.toolkitFromSlug canonical = Bus.toolkitFromSlug slug
  noFurther : Bus.canonicalActionSlug canonical = none
  sameAction : ∀ request : ActionVocabularyRequest,
    SameAction (evaluateAction { request with slug := slug })
      (evaluateAction { request with slug := canonical })
  batch : ∀ requests : List ActionVocabularyRequest,
    List.Forall₂ SameAction (evaluateActions requests) (evaluateActions (requests.map respelled))
  aliasCandidate : ∀ requested,
    Bus.actionSlugMatches slug requested = eqIgnoreAsciiCase slug (trim requested)
  canonicalCandidate : ∀ requested, Bus.actionSlugMatches canonical requested =
    eqIgnoreAsciiCase (Bus.canonicalForm canonical) (Bus.canonicalForm requested)
  plainCandidate : ∀ candidate requested, Bus.canonicalActionSlug candidate = none →
    trim candidate = candidate → Bus.actionSlugMatches candidate requested =
      eqIgnoreAsciiCase (Bus.canonicalForm candidate) (Bus.canonicalForm requested)

theorem sameAction_of_canonical {slug canonical : String}
    (h : Bus.canonicalActionSlug slug = some canonical) (request : ActionVocabularyRequest) :
    SameAction (evaluateAction { request with slug := slug })
      (evaluateAction { request with slug := canonical }) := by
  have hnone := Bus.canonicalActionSlug_canonical h
  constructor
  · simp only [evaluateAction, h, hnone, Option.getD_some, Option.getD_none]
  · simp only [evaluateAction, h, hnone, Option.getD_some, Option.getD_none]
  · simp only [evaluateAction, h, hnone, Option.getD_some, Option.getD_none]
  · simp only [evaluateAction, h, hnone, Option.getD_some, Option.getD_none]

theorem sameAction_respelled (request : ActionVocabularyRequest) :
    SameAction (evaluateAction request) (evaluateAction (respelled request)) := by
  unfold respelled
  cases h : Bus.canonicalActionSlug request.slug with
  | none => exact ⟨rfl, rfl, rfl, rfl⟩
  | some canonical => exact sameAction_of_canonical h request

theorem sameAction_batch (requests : List ActionVocabularyRequest) :
    List.Forall₂ SameAction (evaluateActions requests)
    (evaluateActions (requests.map respelled)) := by
  unfold evaluateActions
  induction requests with
  | nil => exact .nil
  | cons request requests ih => exact .cons (sameAction_respelled request) ih

/-- An aliased slug and its canonical form are one action to `EvaluateActions`, alone and in a
batch. -/
theorem coherentSpelling {slug canonical : String}
    (h : Bus.canonicalActionSlug slug = some canonical) : CoherentSpelling slug canonical := by
  have hnone := Bus.canonicalActionSlug_canonical h
  constructor
  · exact Bus.toolkitFromSlug_canonical h
  · exact hnone
  · exact sameAction_of_canonical h
  · exact sameAction_batch
  · exact Bus.actionSlugMatches_of_some h
  · exact Bus.actionSlugMatches_of_none hnone (Bus.trim_canonical h)
  · intro candidate requested hplain htrim
    exact Bus.actionSlugMatches_of_none hplain htrim requested

theorem canonicalActionSlug_calendar : Bus.canonicalActionSlug " google_calendar_create_event" =
    some "GOOGLECALENDAR_CREATE_EVENT" := by decide +kernel

/-- The two-word spelling of the calendar, padded and in lower case. -/
theorem coherentSpelling_calendar :
    CoherentSpelling " google_calendar_create_event" "GOOGLECALENDAR_CREATE_EVENT" :=
  coherentSpelling canonicalActionSlug_calendar

/-- The comparison tells the two spellings apart. -/
theorem not_same_match_calendar :
    ¬ ∀ slug canonical, Bus.canonicalActionSlug slug = some canonical →
      ∀ request : ActionVocabularyRequest,
        (evaluateAction { request with slug := slug }).isMatch =
          (evaluateAction { request with slug := canonical }).isMatch := by
  intro h
  have hcanonical : Bus.canonicalActionSlug "GOOGLE_CALENDAR_CREATE_EVENT" =
      some "GOOGLECALENDAR_CREATE_EVENT" := by decide +kernel
  have hsame := h _ _ hcanonical {
    slug := "", preference := .default, unknownScopeProfile := .substringCompatibility
    compareWith := some "googlecalendar_create_event" }
  exact absurd hsame (by decide +kernel)
