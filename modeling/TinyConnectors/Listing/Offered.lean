/-
# The toolkit policy against a listing

`ListTools` asks the policy about the toolkit it reads off a tool's slug.  A tool
published under a one-word toolkit, or under a tabled one, is judged by its own
toolkit; any other name with an underscore is judged by its first word
(`respectsPolicy_iff`, `policyFits_first_word`).
-/
import TinyConnectors.Catalog.Slugs
import TinyConnectors.Listing.Members

open RustStr ListingService

/-- What the policy says about `toolkit` is what `ListTools` does with the tools
that carry `slug`. -/
structure RespectsPolicy (offered : OfferedToolkits) (toolkit slug : String) : Prop where
  /-- Without the user's scopes, they are returned exactly when it is offered. -/
  returned : ∀ client prefs response answer tool,
    (ListingService.load client prefs offered).listTools false (.ok response) = .ok answer →
    tool ∈ response.tools → tool.function.name = slug →
      (tool ∈ answer.tools ↔ offered.permits toolkit = true)
  /-- With them, they are returned only if it is. -/
  denied : ∀ client prefs response answer tool,
    (ListingService.load client prefs offered).listTools true (.ok response) = .ok answer →
    tool ∈ answer.tools → tool.function.name = slug → offered.permits toolkit = true

/-- A slug falls under none of the tabled prefixes. -/
def Untabled (slug : String) : Prop :=
  ∀ entry ∈ Sync.MULTI_SEGMENT_TOOLKITS,
    startsWith (toAsciiUppercase (trim slug)) entry.1 = false

/-- The name `ListTools` judges an action of `toolkit` by gets the verdict of
`toolkit`: the tabled name, or the first word of `toolkit`.  An action without a
first word is judged by nothing and passes. -/
structure PolicyFits (offered : OfferedToolkits) (toolkit rest : String) : Prop where
  tabled : ∀ entry ∈ Sync.MULTI_SEGMENT_TOOLKITS,
    startsWith (toAsciiUppercase (trim (publishedSlug toolkit rest))) entry.1 = true →
      offered.permits entry.2 = offered.permits toolkit
  firstWord : Untabled (publishedSlug toolkit rest) → trim (splitFirst toolkit '_') ≠ "" →
    offered.permits (splitFirst toolkit '_') = offered.permits toolkit
  blank : Untabled (publishedSlug toolkit rest) → trim (splitFirst toolkit '_') = "" →
    offered.permits toolkit = true

/-! ## The verdict on a published action -/

/-- Names with one key get one verdict. -/
theorem permits_congr {offered : OfferedToolkits} {a b : String}
    (h : OfferedToolkits.key a = OfferedToolkits.key b) :
    offered.permits a = offered.permits b := by
  rw [OfferedToolkits.permits, OfferedToolkits.permits, h]

theorem offers_load {client : Option String} {prefs : PrefsStore} {offered : OfferedToolkits}
    {tool : ComposioToolSchema} {slug : String} (hslug : tool.function.name = slug) :
    (ListingService.load client prefs offered).offers tool =
      (Sync.toolkitFromSlug slug).all offered.permits := by
  rw [ListingService.offers, hslug]
  rfl


/-- The characters that count when names are compared. -/
def keyChar (c : Char) : Bool := c ≠ '_' && c ≠ '-' && !isWhitespace c

theorem toList_key (name : String) :
    (OfferedToolkits.key name).toList = (name.toList.filter keyChar).map Char.toLower := by
  rw [OfferedToolkits.key, String.toList_ofList]
  rfl

theorem filter_keyChar_map {f : Char → Char} (hf : ∀ c, keyChar (f c) = keyChar c) (l : List Char) :
    (l.map f).filter keyChar = (l.filter keyChar).map f := by
  have hcomp : keyChar ∘ f = keyChar := funext hf
  rw [List.filter_map, hcomp]

theorem keyChar_toUpper (c : Char) : keyChar c.toUpper = keyChar c := by
  have hdash : c.toUpper = '-' ↔ c = '-' := toUpper_eq_iff (by decide)
  simp only [keyChar, isWhitespace_toUpper, ne_eq, toUpper_eq_underscore, hdash]

theorem keyChar_toLower (c : Char) : keyChar c.toLower = keyChar c := by
  have hdash : c.toLower = '-' ↔ c = '-' := toLower_eq_iff (by decide)
  have hunder : c.toLower = '_' ↔ c = '_' := toLower_eq_iff (by decide)
  simp only [keyChar, isWhitespace_toLower, ne_eq, hunder, hdash]

/-- White space does not count. -/
theorem filter_keyChar_dropWhile (l : List Char) :
    (l.dropWhile isWhitespace).filter keyChar = l.filter keyChar := by
  induction l with
  | nil => rfl
  | cons c l ih =>
    cases hc : isWhitespace c with
    | true =>
      have hdrop : keyChar c = false := by simp [keyChar, hc]
      rw [List.dropWhile_cons_of_pos hc, ih, List.filter_cons_of_neg (by simp [hdrop])]
    | false => rw [List.dropWhile_cons_of_neg (by simp [hc])]

/-- It is judged as the first word of the toolkit is. -/
theorem key_firstWord (toolkit rest : String) :
    OfferedToolkits.key (toAsciiLowercase (splitFirst (trim (publishedSlug toolkit rest)) '_')) =
      OfferedToolkits.key (splitFirst toolkit '_') := by
  apply String.toList_injective
  rw [toList_key, toList_key, toList_toAsciiLowercase, splitFirst_publishedSlug,
    filter_keyChar_map keyChar_toLower, filter_keyChar_dropWhile,
    filter_keyChar_map keyChar_toUpper]
  simp [Function.comp_def]

/-- A published action has no first word exactly when its toolkit has none. -/
theorem splitFirst_eq_empty_iff (toolkit rest : String) :
    splitFirst (trim (publishedSlug toolkit rest)) '_' = "" ↔
    trim (splitFirst toolkit '_') = "" := by
  rw [← String.toList_inj, ← String.toList_inj, splitFirst_publishedSlug, toList_trim]
  show _ = [] ↔ _ = []
  rw [List.dropWhile_eq_nil_iff, trimChars_eq_nil_iff]
  simp

/-- What `ListTools` reads off the slug of a published action, if its toolkit fits the policy. -/
theorem all_permits_iff (offered : OfferedToolkits) (toolkit rest : String) :
    (Sync.toolkitFromSlug (publishedSlug toolkit rest)).all offered.permits =
      offered.permits toolkit ↔ PolicyFits offered toolkit rest := by
  rw [Sync.toolkitFromSlug_eq, tableToolkit, if_neg (trim_publishedSlug_ne toolkit rest)]
  by_cases htabled : Untabled (publishedSlug toolkit rest)
  · -- the first word decides
    have hmiss : findPrefix Sync.MULTI_SEGMENT_TOOLKITS
        (toAsciiUppercase (trim (publishedSlug toolkit rest))) = none := by
      rw [findPrefix, Option.map_eq_none_iff, List.find?_eq_none]
      intro entry hmem
      rw [htabled entry hmem]
      exact Bool.false_ne_true
    rw [hmiss]
    have hnone : ∀ entry ∈ Sync.MULTI_SEGMENT_TOOLKITS,
        startsWith (toAsciiUppercase (trim (publishedSlug toolkit rest))) entry.1 = true →
          offered.permits entry.2 = offered.permits toolkit := by
      intro entry hmem hstarts
      rw [htabled entry hmem] at hstarts
      cases hstarts
    by_cases hblank : trim (splitFirst toolkit '_') = ""
    · have hempty := (splitFirst_eq_empty_iff toolkit rest).mpr hblank
      simp only [firstSegmentToolkit, hempty, if_true]
      constructor
      · intro hverdict
        exact ⟨hnone, fun _ hne => absurd hblank hne, fun _ _ => hverdict.symm⟩
      · intro hfits
        exact (hfits.blank htabled hblank).symm
    · have hword := mt (splitFirst_eq_empty_iff toolkit rest).mp hblank
      simp only [firstSegmentToolkit, if_neg hword, Option.all_some]
      rw [permits_congr (key_firstWord toolkit rest)]
      constructor
      · intro hverdict
        exact ⟨hnone, fun _ _ => hverdict, fun _ hempty => absurd hempty hblank⟩
      · intro hfits
        exact hfits.firstWord htabled hblank
  · -- the table decides, and no two of its prefixes can
    simp only [Untabled, not_forall, Bool.not_eq_false] at htabled
    obtain ⟨entry, hmem, hstarts⟩ := htabled
    rw [findPrefix_of_mem prefixFree_sync hmem hstarts, Option.all_some]
    have huntabled : ¬ Untabled (publishedSlug toolkit rest) := by
      intro huntabled
      rw [huntabled entry hmem] at hstarts
      cases hstarts
    constructor
    · intro hverdict
      refine ⟨?_, fun h => absurd h huntabled, fun h => absurd h huntabled⟩
      intro other hother hotherStarts
      have hsame := findPrefix_of_mem prefixFree_sync hother hotherStarts
      rw [findPrefix_of_mem prefixFree_sync hmem hstarts, Option.some_inj] at hsame
      rw [← hsame, hverdict]
    · intro hfits
      exact hfits.tabled entry hmem hstarts

/-- A one-word name that begins no tabled prefix always fits. -/
theorem policyFits_of_plain (offered : OfferedToolkits) {toolkit : String}
    (hplain : PlainName Sync.MULTI_SEGMENT_TOOLKITS toolkit) (rest : String) :
    PolicyFits offered toolkit rest := by
  have hkey : OfferedToolkits.key (toAsciiLowercase toolkit) = OfferedToolkits.key toolkit := by
    apply String.toList_injective
    rw [toList_key, toList_key, toList_toAsciiLowercase, filter_keyChar_map keyChar_toLower]
    simp [Function.comp_def]
  rw [← all_permits_iff, Sync.toolkitFromSlug_eq,
    tableToolkit_of_carries hplain (carries_publishedSlug toolkit rest), Option.all_some]
  exact permits_congr hkey

/-- So does a tabled name. -/
theorem policyFits_of_tabled (offered : OfferedToolkits) {entry : String × String}
    (hmem : entry ∈ Sync.MULTI_SEGMENT_TOOLKITS) (rest : String) :
    PolicyFits offered entry.2 rest := by
  have hnames : ∀ entry ∈ Sync.MULTI_SEGMENT_TOOLKITS,
      toAsciiUppercase entry.2 ++ "_" = entry.1 := by decide
  have hstarts := carries_publishedSlug entry.2 rest
  rw [Carries, hnames entry hmem] at hstarts
  rw [← all_permits_iff, Sync.toolkitFromSlug_eq, tableToolkit_of_mem prefixFree_sync hmem hstarts]
  rfl

/-! ## The policy and the listing -/

/-- Exactly when the policy is respected: the tabled name, or the first word, that
`ListTools` judges the action by gets the verdict of the toolkit itself, as it does for plain
names (`policyFits_of_plain`) and tabled ones (`policyFits_of_tabled`). -/
theorem respectsPolicy_iff (offered : OfferedToolkits) (toolkit rest : String) :
    RespectsPolicy offered toolkit (publishedSlug toolkit rest) ↔
      PolicyFits offered toolkit rest := by
  rw [← all_permits_iff]
  generalize publishedSlug toolkit rest = slug
  constructor
  · intro hrespects
    -- ask for a listing of the one action
    have hanswer : (ListingService.load (some "proxy") (.ofRows []) offered).listTools false
        (.ok ⟨[bareTool slug]⟩) = .ok ⟨[bareTool slug].filter
          (ListingService.load (some "proxy") (.ofRows []) offered).offers⟩ := rfl
    have hiff := hrespects.returned _ _ _ _ (bareTool slug) hanswer (List.mem_singleton_self _) rfl
    rw [List.mem_filter, offers_load rfl] at hiff
    rw [Bool.eq_iff_iff]
    constructor
    · intro hoffers
      exact hiff.mp ⟨List.mem_singleton_self _, hoffers⟩
    · intro hpermits
      exact (hiff.mpr hpermits).2
  · intro hfits
    constructor
    · intro client prefs response answer tool hanswer hmem hslug
      rw [mem_listTools hanswer, offers_load hslug, hfits]
      exact and_iff_right hmem
    · intro client prefs response answer tool hanswer hmem hslug
      obtain ⟨listing, hlisting⟩ := exists_listTools_false hanswer
      have hkept := (mem_retainListed (listTools_spec hlisting hanswer) tool).mp hmem
      have hoffers := ((mem_listTools hlisting tool).mp hkept.1).2
      rw [offers_load hslug, hfits] at hoffers
      exact hoffers

/-- A denied toolkit whose name the table does not know is listed all the same. -/
theorem not_respectsPolicy_zoho :
    ¬ RespectsPolicy ⟨[], ["zoho_books"]⟩ "zoho_books"
      (publishedSlug "zoho_books" "LIST_INVOICES") := by
  intro hrespects
  have hanswer : (ListingService.load (some "proxy") (.ofRows [])
      ⟨[], ["zoho_books"]⟩).listTools false
        (.ok ⟨[bareTool (publishedSlug "zoho_books" "LIST_INVOICES")]⟩) =
          .ok ⟨[bareTool (publishedSlug "zoho_books" "LIST_INVOICES")].filter
            (ListingService.load (some "proxy") (.ofRows []) ⟨[], ["zoho_books"]⟩).offers⟩ := rfl
  have hiff := hrespects.returned _ _ _ _ _ hanswer (List.mem_singleton_self _) rfl
  have hdenied : OfferedToolkits.permits ⟨[], ["zoho_books"]⟩ "zoho_books" = false := by
    decide +kernel
  have hjudged : (Sync.toolkitFromSlug (publishedSlug "zoho_books" "LIST_INVOICES")).all
      (OfferedToolkits.permits ⟨[], ["zoho_books"]⟩) = true := by decide +kernel
  rw [hdenied] at hiff
  exact absurd (hiff.mp (List.mem_filter.mpr ⟨List.mem_singleton_self _, by
    rw [offers_load rfl]
    exact hjudged⟩)) Bool.false_ne_true
