/-
# The identities of a prompt

`render_connected_identities_section` in `vocabulary/profile.rs`.  Every text a provider
sends is put on one line and loses its `|`, so the lines of the section and the
separators of a line are those the renderer writes itself.
-/
import TinyConnectors.Words
import TinyConnectors.Substrings

open RustStr Words

/-! ## The renderer -/

/-- Identifiers for one source and connection; those that are not rendered are left out. -/
structure ConnectedIdentity where
  source : String
  identifier : String
  displayName : Option String
  email : Option String
  handle : Option String
  profileUrl : Option String

def sanitizePromptValue (raw : String) : String :=
  let replaced := raw.toList.map fun c => if c = '\n' ∨ c = '\r' ∨ c = '\t' then ' ' else c
  let replaced := replaced.map fun c => if c = '|' then '/' else c
  joinWords (String.ofList replaced)

def titleCase (raw : String) : String :=
  match raw.toList with
  | [] => ""
  | first :: rest => String.ofList (first.toUpper :: rest)

/-- What a field is shown as, if anything is left of it. -/
def shownField (value : Option String) : List String :=
  match value with
  | some v =>
    let v := sanitizePromptValue v
    if v = "" then [] else [v]
  | none => []

/-- The fields of one identity's line; a handle is marked with an `@`. -/
def renderedFields (id : ConnectedIdentity) : List String :=
  shownField id.displayName ++ shownField id.email ++
    (shownField id.handle).map (fun v => "@" ++ v) ++ shownField id.profileUrl

/-- One identity's line, without the line feed that ends it. -/
def identityLine (id : ConnectedIdentity) : String :=
  "- " ++ titleCase (sanitizePromptValue id.source) ++ " (" ++ sanitizePromptValue id.identifier ++
    "): " ++ String.intercalate " | " (renderedFields id)

def SECTION_HEADING : String := "## Connected Identities"

/-- Render a compact prompt section for a set of identities. -/
def renderConnectedIdentitiesSection (identities : List ConnectedIdentity) : String :=
  if identities = [] then ""
  else
    let out := identities.foldl (fun out id =>
      if renderedFields id = [] then out else out ++ (identityLine id ++ "\n"))
      (SECTION_HEADING ++ "\n\n")
    if trim out = SECTION_HEADING then "" else out

/-! ## What a value can hold -/

/-- A text that cannot break out of its place on a line. -/
def Contained (l : List Char) : Prop :=
  '|' ∉ l ∧ ∀ c ∈ l, isWhitespace c = true → c = ' '

theorem Contained.append {l r : List Char} (hl : Contained l) (hr : Contained r) :
    Contained (l ++ r) := by
  constructor
  · rw [List.mem_append, not_or]
    exact ⟨hl.1, hr.1⟩
  · intro c hc
    rcases List.mem_append.mp hc with hc | hc
    · exact hl.2 c hc
    · exact hr.2 c hc

/-- What the renderer writes itself is checked character by character. -/
theorem contained_of_all {l : List Char}
    (h : (l.all fun c => c != '|' && (!isWhitespace c || c == ' ')) = true) : Contained l := by
  rw [List.all_eq_true] at h
  constructor
  · intro hbar
    exact absurd (h '|' hbar) (by decide)
  · intro c hc hwhite
    have hall := h c hc
    rw [hwhite, Bool.and_eq_true] at hall
    exact beq_iff_eq.mp hall.2

theorem contained_sanitizePromptValue (raw : String) :
    Contained (sanitizePromptValue raw).toList := by
  unfold sanitizePromptValue
  dsimp only
  constructor
  · intro hmem
    rcases of_mem_joinWords hmem with h | ⟨hbar, -⟩
    · exact absurd h (by decide)
    · rw [String.toList_ofList] at hbar
      obtain ⟨c, -, hc⟩ := List.mem_map.mp hbar
      split_ifs at hc with hc'
      · exact absurd hc (by decide)
      · exact hc' hc
  · intro c hc hwhite
    rcases of_mem_joinWords hc with h | ⟨-, h⟩
    · exact h
    · rw [h] at hwhite
      cases hwhite

theorem contained_titleCase {raw : String} (h : Contained raw.toList) :
    Contained (titleCase raw).toList := by
  unfold titleCase
  cases hraw : raw.toList with
  | nil => exact ⟨List.not_mem_nil, nofun⟩
  | cons first rest =>
    rw [hraw] at h
    dsimp only
    rw [String.toList_ofList]
    constructor
    · rw [List.mem_cons, not_or]
      refine ⟨?_, fun hmem => h.1 (List.mem_cons_of_mem first hmem)⟩
      intro hfirst
      -- upper-casing makes no `|`
      rw [eq_comm, toUpper_eq_iff (by decide)] at hfirst
      rw [hfirst] at h
      exact h.1 List.mem_cons_self
    · intro c hc hwhite
      rcases List.mem_cons.mp hc with rfl | hc
      · rw [isWhitespace_toUpper] at hwhite
        rw [h.2 first List.mem_cons_self hwhite]
        decide
      · exact h.2 c (List.mem_cons_of_mem first hc) hwhite

theorem mem_shownField {value : Option String} {field : String} (h : field ∈ shownField value) :
    ∃ v, value = some v ∧ sanitizePromptValue v = field ∧ field ≠ "" := by
  unfold shownField at h
  cases value with
  | none => cases h
  | some v =>
    dsimp only at h
    split_ifs at h with hempty
    · cases h
    · rw [List.mem_singleton] at h
      rw [h]
      exact ⟨v, rfl, rfl, hempty⟩

/-- What a field is rendered as: something on one line, without a separator. -/
theorem of_mem_renderedFields {id : ConnectedIdentity} {field : String}
    (h : field ∈ renderedFields id) : Contained field.toList ∧ field.toList ≠ [] := by
  have hshown : ∀ value, field ∈ shownField value → Contained field.toList ∧ field.toList ≠ [] := by
    intro value hfield
    obtain ⟨v, -, rfl, hne⟩ := mem_shownField hfield
    refine ⟨contained_sanitizePromptValue v, ?_⟩
    intro hnil
    apply hne
    exact String.toList_injective hnil
  unfold renderedFields at h
  rw [List.mem_append, List.mem_append, List.mem_append] at h
  rcases h with ((h | h) | h) | h
  · exact hshown _ h
  · exact hshown _ h
  · obtain ⟨v, hv, rfl⟩ := List.mem_map.mp h
    obtain ⟨raw, -, rfl, -⟩ := mem_shownField hv
    have hat : ("@" : String).toList = ['@'] := rfl
    rw [String.toList_append, hat]
    refine ⟨?_, List.cons_ne_nil _ _⟩
    exact Contained.append (l := ['@']) (contained_of_all (by decide))
      (contained_sanitizePromptValue raw)
  · exact hshown _ h

/-! ## Counting separators -/

/-- How often a pattern occurs in a text, overlaps included. -/
def occurrences {α : Type} [DecidableEq α] (w : List α) : List α → ℕ
  | [] => 0
  | c :: l => (if w <+: c :: l then 1 else 0) + occurrences w l

theorem occurrences_cons_of_not {α : Type} [DecidableEq α] {w : List α} {c : α} {l : List α}
    (h : ¬ w <+: c :: l) : occurrences w (c :: l) = occurrences w l := by
  rw [occurrences, if_neg h, Nat.zero_add]

/-- The text between two fields. -/
def SEPARATOR : List Char := [' ', '|', ' ']

theorem not_separator_prefix {l : List Char} (h : l[1]? ≠ some '|') : ¬ SEPARATOR <+: l := by
  rintro ⟨rest, rfl⟩
  exact h rfl

theorem occurrences_eq_zero {l : List Char} (h : '|' ∉ l) : occurrences SEPARATOR l = 0 := by
  induction l with
  | nil => rfl
  | cons c l ih =>
    rw [occurrences_cons_of_not, ih fun hmem => h (List.mem_cons_of_mem c hmem)]
    apply not_separator_prefix
    intro hbar
    exact h (List.mem_of_getElem? hbar)

/-- A separator counts once, wherever the text before it has none of its own. -/
theorem occurrences_append_separator {l rest : List Char} (h : '|' ∉ l)
    (hrest : rest.head? ≠ some '|') :
    occurrences SEPARATOR (l ++ SEPARATOR ++ rest) = occurrences SEPARATOR rest + 1 := by
  induction l with
  | nil =>
    -- neither the bar nor the second space of the separator begins another one
    show (if SEPARATOR <+: ' ' :: '|' :: ' ' :: rest then 1 else 0) +
      occurrences SEPARATOR ('|' :: ' ' :: rest) = _
    rw [if_pos ⟨rest, rfl⟩, occurrences_cons_of_not, occurrences_cons_of_not, Nat.add_comm]
    · apply not_separator_prefix
      rw [List.getElem?_cons_succ, ← List.head?_eq_getElem?]
      exact hrest
    · apply not_separator_prefix
      show some ' ' ≠ some '|'
      decide
  | cons c l ih =>
    rw [List.cons_append, List.cons_append, occurrences_cons_of_not,
      ih fun hmem => h (List.mem_cons_of_mem c hmem)]
    apply not_separator_prefix
    rw [List.getElem?_cons_succ]
    cases l with
    | nil =>
      show some ' ' ≠ some '|'
      decide
    | cons d l =>
      intro hd
      have hbar : d = '|' := Option.some_inj.mp hd
      rw [hbar] at h
      exact h (List.mem_cons_of_mem c List.mem_cons_self)

/-- Between fields without a `|` there is one separator less than there are fields. -/
theorem occurrences_intercalate {start : List Char} (hstart : '|' ∉ start)
    {fields : List (List Char)} (hfields : ∀ field ∈ fields, '|' ∉ field ∧ field ≠ []) :
    occurrences SEPARATOR (start ++ SEPARATOR.intercalate fields) = fields.length - 1 ∧
      (start ++ SEPARATOR.intercalate fields).count '|' = fields.length - 1 := by
  induction fields generalizing start with
  | nil =>
    rw [List.intercalate_nil, List.append_nil]
    exact ⟨occurrences_eq_zero hstart, List.count_eq_zero.mpr hstart⟩
  | cons field fields ih =>
    have hfield := hfields field List.mem_cons_self
    have hboth : '|' ∉ start ++ field := by
      rw [List.mem_append, not_or]
      exact ⟨hstart, hfield.1⟩
    cases fields with
    | nil =>
      rw [List.intercalate_singleton]
      exact ⟨occurrences_eq_zero hboth, List.count_eq_zero.mpr hboth⟩
    | cons next fields =>
      obtain ⟨hocc, hcount⟩ := ih (List.not_mem_nil : '|' ∉ ([] : List Char)) fun other hother =>
        hfields other (List.mem_cons_of_mem field hother)
      rw [List.nil_append] at hocc hcount
      have hnext := hfields next (List.mem_cons_of_mem field List.mem_cons_self)
      -- the next field does not begin with a bar, so no separator runs into it
      have hhead : (SEPARATOR.intercalate (next :: fields)).head? ≠ some '|' := by
        rw [head?_intercalate SEPARATOR fields hnext.2]
        intro hbar
        exact hnext.1 (List.mem_of_head? hbar)
      rw [List.intercalate_cons_cons, ← List.append_assoc, ← List.append_assoc,
        occurrences_append_separator hboth hhead, hocc, List.count_append, hcount,
        List.count_append, List.count_eq_zero.mpr hboth]
      simp only [List.length_cons]
      refine ⟨by omega, ?_⟩
      have hone : List.count '|' SEPARATOR = 1 := by decide
      omega

/-! ## The lines of a section -/

/-- Something is left of a field. -/
def isShown (value : Option String) : Bool :=
  value.any fun v => decide (trim (sanitizePromptValue v) ≠ "")

/-- The fields that a line may show. -/
def showableFields (id : ConnectedIdentity) : List (Option String) :=
  [id.displayName, id.email, id.handle, id.profileUrl]

/-- Something of the identity can be shown. -/
def HasField (id : ConnectedIdentity) : Prop := ∃ value ∈ showableFields id, isShown value = true

instance (id : ConnectedIdentity) : Decidable (HasField id) :=
  inferInstanceAs (Decidable (∃ _ ∈ _, _))

theorem trim_sanitizePromptValue (raw : String) :
    trim (sanitizePromptValue raw) = sanitizePromptValue raw := trim_joinWords _

theorem length_shownField (value : Option String) :
    (shownField value).length = if isShown value then 1 else 0 := by
  cases value with
  | none => rfl
  | some v =>
    unfold shownField isShown
    dsimp only
    rw [Option.any_some, trim_sanitizePromptValue]
    by_cases hempty : sanitizePromptValue v = ""
    · rw [if_pos hempty, if_neg]
      · rfl
      · rw [decide_eq_true_eq]
        exact fun h => h hempty
    · rw [if_neg hempty, if_pos (decide_eq_true hempty)]
      rfl

/-- A line shows the fields of which something is left. -/
theorem length_renderedFields (id : ConnectedIdentity) :
    (renderedFields id).length = (showableFields id).countP isShown := by
  unfold renderedFields showableFields
  simp only [List.length_append, List.length_map, length_shownField, List.countP_cons,
    List.countP_nil, Nat.zero_add]
  omega

theorem renderedFields_ne_nil_iff {id : ConnectedIdentity} :
    renderedFields id ≠ [] ↔ HasField id := by
  unfold HasField
  rw [← List.length_pos_iff, length_renderedFields, List.countP_pos_iff]

/-- The text before the first field of a line. -/
def lineStart (id : ConnectedIdentity) : List Char :=
  "- ".toList ++ (titleCase (sanitizePromptValue id.source)).toList ++ " (".toList ++
    (sanitizePromptValue id.identifier).toList ++ "): ".toList

theorem toList_identityLine (id : ConnectedIdentity) : (identityLine id).toList =
    lineStart id ++ SEPARATOR.intercalate ((renderedFields id).map String.toList) := by
  unfold identityLine lineStart
  simp only [String.toList_append, String.toList_intercalate]
  rfl

theorem contained_lineStart (id : ConnectedIdentity) : Contained (lineStart id) := by
  unfold lineStart
  apply Contained.append _ (contained_of_all (by decide))
  apply Contained.append _ (contained_sanitizePromptValue id.identifier)
  apply Contained.append _ (contained_of_all (by decide))
  apply Contained.append _ (contained_titleCase (contained_sanitizePromptValue id.source))
  exact contained_of_all (by decide)

/-- The only white space of a line is the space. -/
theorem eq_space_of_mem_identityLine {id : ConnectedIdentity} {c : Char}
    (hc : c ∈ (identityLine id).toList) (hwhite : isWhitespace c = true) : c = ' ' := by
  rw [toList_identityLine] at hc
  rcases List.mem_append.mp hc with hc | hc
  · exact (contained_lineStart id).2 c hc hwhite
  · -- the character is one of a field or of a separator
    rcases mem_intercalate hc with hsep | ⟨field, hfield, hc⟩
    · rcases List.mem_cons.mp hsep with rfl | hsep
      · rfl
      · rcases List.mem_cons.mp hsep with rfl | hsep
        · exact absurd hwhite (by decide)
        · exact List.mem_singleton.mp hsep
    · obtain ⟨shown, hshown, rfl⟩ := List.mem_map.mp hfield
      exact (of_mem_renderedFields hshown).1.2 c hc hwhite

theorem separators_identityLine (id : ConnectedIdentity) :
    occurrences SEPARATOR (identityLine id).toList = (renderedFields id).length - 1 ∧
      (identityLine id).toList.count '|' = (renderedFields id).length - 1 := by
  rw [toList_identityLine, ← List.length_map (f := String.toList)]
  apply occurrences_intercalate (contained_lineStart id).1
  intro field hfield
  obtain ⟨shown, hshown, rfl⟩ := List.mem_map.mp hfield
  obtain ⟨hcontained, hne⟩ := of_mem_renderedFields hshown
  exact ⟨hcontained.1, hne⟩

/-- The identities that get a line, in order. -/
def shownIdentities (identities : List ConnectedIdentity) : List ConnectedIdentity :=
  identities.filter fun id => decide (HasField id)

/-- The lines of some identities, each with the line feed that ends it. -/
def sectionBody (identities : List ConnectedIdentity) : String :=
  String.join (identities.map fun id => identityLine id ++ "\n")

theorem sectionBody_cons (id : ConnectedIdentity) (identities : List ConnectedIdentity) :
    sectionBody (id :: identities) = identityLine id ++ "\n" ++ sectionBody identities := by
  unfold sectionBody
  rw [List.map_cons, String.join_cons]

theorem foldl_identityLine (identities : List ConnectedIdentity) (out : String) :
    identities.foldl (fun out id =>
        if renderedFields id = [] then out else out ++ (identityLine id ++ "\n")) out =
      out ++ sectionBody (shownIdentities identities) := by
  induction identities generalizing out with
  | nil => exact (String.append_empty).symm
  | cons id identities ih =>
    rw [List.foldl_cons, ih]
    unfold shownIdentities
    rw [List.filter_cons]
    by_cases hfields : HasField id
    · rw [if_neg (renderedFields_ne_nil_iff.mpr hfields), if_pos (decide_eq_true hfields),
        sectionBody_cons, String.append_assoc]
    · have hnil : renderedFields id = [] := by
        by_contra hne
        exact hfields (renderedFields_ne_nil_iff.mp hne)
      rw [if_pos hnil, if_neg]
      rw [decide_eq_true_eq]
      exact hfields

/-- The bare heading is what is left when there is no line. -/
theorem trim_section_eq_heading_iff {identities : List ConnectedIdentity} :
    trim (SECTION_HEADING ++ "\n\n" ++ sectionBody identities) = SECTION_HEADING ↔
      identities = [] := by
  constructor
  · intro h
    by_contra hne
    obtain ⟨id, identities, rfl⟩ := List.exists_cons_of_ne_nil hne
    -- the dash of a line is no white space, and the heading has none
    have hline : '-' ∈ (identityLine id).toList := by
      rw [toList_identityLine]
      exact List.mem_cons_self
    have hdash :
        '-' ∈ (trim (SECTION_HEADING ++ "\n\n" ++ sectionBody (id :: identities))).toList := by
      rw [toList_trim, mem_trimChars (show isWhitespace '-' = false by decide), sectionBody_cons]
      simp only [String.toList_append, List.mem_append]
      exact .inr (.inl (.inl hline))
    rw [h] at hdash
    exact absurd hdash (by decide)
  · rintro rfl
    decide

/-- The section is empty, or the heading and the lines. -/
theorem renderConnectedIdentitiesSection_eq (identities : List ConnectedIdentity) :
    renderConnectedIdentitiesSection identities =
      if shownIdentities identities = [] then ""
      else SECTION_HEADING ++ "\n\n" ++ sectionBody (shownIdentities identities) := by
  unfold renderConnectedIdentitiesSection
  by_cases hnone : identities = []
  · rw [if_pos hnone, hnone]
    rfl
  · rw [if_neg hnone]
    dsimp only
    rw [foldl_identityLine]
    by_cases hshown : shownIdentities identities = []
    · rw [if_pos (trim_section_eq_heading_iff.mpr hshown), if_pos hshown]
    · rw [if_neg (fun h => hshown (trim_section_eq_heading_iff.mp h)), if_neg hshown]

/-! ## Reading the section back -/

/-- Line feed, line tabulation, form feed, carriage return, next line, and the line and
paragraph separators. -/
def LINE_BREAKS : List Char := ['\n', '\x0b', '\x0c', '\r', '\u0085', '\u2028', '\u2029']

/-- The lines a reader sees, whatever it takes for the end of a line. -/
def textLines (text : String) : List (List Char) :=
  text.toList.splitOnP fun c => LINE_BREAKS.contains c

theorem not_lineBreak_of_mem_identityLine {id : ConnectedIdentity} {c : Char}
    (hc : c ∈ (identityLine id).toList) : LINE_BREAKS.contains c = false := by
  rw [← Bool.not_eq_true, List.contains_iff_mem]
  intro hbreak
  have hwhite : LINE_BREAKS.all isWhitespace = true := by decide
  have hspace := eq_space_of_mem_identityLine hc (List.all_eq_true.mp hwhite c hbreak)
  rw [hspace] at hbreak
  exact absurd hbreak (by decide)

theorem textLines_sectionBody (identities : List ConnectedIdentity) :
    textLines (sectionBody identities) =
      identities.map (fun id => (identityLine id).toList) ++ [[]] := by
  induction identities with
  | nil => rfl
  | cons id identities ih =>
    have hfeed : LINE_BREAKS.contains '\n' = true := by decide
    have hline : (identityLine id ++ "\n" ++ sectionBody identities).toList =
        (identityLine id).toList ++ '\n' :: (sectionBody identities).toList := by
      rw [String.toList_append, String.toList_append, List.append_assoc]
      rfl
    unfold textLines at ih ⊢
    rw [sectionBody_cons, hline,
      List.splitOnP_append_cons_of_forall_mem (fun c hc => not_lineBreak_of_mem_identityLine hc)
        '\n' hfeed, ih]
    rfl

theorem textLines_section (body : String) :
    textLines (SECTION_HEADING ++ "\n\n" ++ body) =
      SECTION_HEADING.toList :: [] :: textLines body := by
  have hfeed : LINE_BREAKS.contains '\n' = true := by decide
  have hheading : ∀ c ∈ SECTION_HEADING.toList, LINE_BREAKS.contains c = false := by
    have hall : (SECTION_HEADING.toList.all fun c => !LINE_BREAKS.contains c) = true := by decide
    intro c hc
    rw [← Bool.not_eq_true']
    exact List.all_eq_true.mp hall c hc
  have hsection : (SECTION_HEADING ++ "\n\n" ++ body).toList =
      SECTION_HEADING.toList ++ '\n' :: ([] ++ '\n' :: body.toList) := by
    rw [String.toList_append, String.toList_append, List.append_assoc]
    rfl
  unfold textLines
  rw [hsection, List.splitOnP_append_cons_of_forall_mem hheading '\n' hfeed,
    List.splitOnP_append_cons_of_forall_mem (fun c hc => absurd hc List.not_mem_nil) '\n' hfeed]

/-- What the provider sends makes no line, no field and no heading. -/
structure NoForgery (identities : List ConnectedIdentity) : Prop where
  empty : renderConnectedIdentitiesSection identities = "" ↔ ∀ id ∈ identities, ¬ HasField id
  body : (∃ id ∈ identities, HasField id) → renderConnectedIdentitiesSection identities =
    "## Connected Identities\n\n" ++ sectionBody (identities.filter fun id => decide (HasField id))
  lines : (∃ id ∈ identities, HasField id) →
    textLines (renderConnectedIdentitiesSection identities) =
      "## Connected Identities".toList :: [] ::
        ((identities.filter fun id => decide (HasField id)).map
          fun id => (identityLine id).toList) ++ [[]]
  separators : ∀ id, occurrences " | ".toList (identityLine id).toList =
    (renderedFields id).length - 1
  bars : ∀ id, (identityLine id).toList.count '|' = (renderedFields id).length - 1
  fields : ∀ id, (renderedFields id).length = (showableFields id).countP isShown
  unbroken : ∀ id, ∀ c ∈ (identityLine id).toList,
    c ∉ LINE_BREAKS ∧ (isWhitespace c = true → c = ' ')
  dashed : ∀ id, "- ".toList <+: (identityLine id).toList

/-- No field of an identity adds a line, a separator or a heading to the section. -/
theorem noForgery (identities : List ConnectedIdentity) : NoForgery identities := by
  have hshown : shownIdentities identities = [] ↔ ∀ id ∈ identities, ¬ HasField id := by
    unfold shownIdentities
    rw [List.filter_eq_nil_iff]
    apply forall₂_congr
    intro id _
    rw [decide_eq_true_eq]
  have hsome : (∃ id ∈ identities, HasField id) → ¬ shownIdentities identities = [] := by
    rintro ⟨id, hmem, hfield⟩ hnone
    exact hshown.mp hnone id hmem hfield
  constructor
  · rw [renderConnectedIdentitiesSection_eq, ← hshown]
    constructor
    · intro h
      -- a section that is not empty begins with its heading
      by_contra hne
      rw [if_neg hne, String.append_assoc] at h
      have hlist := congrArg String.toList h
      rw [String.toList_append] at hlist
      cases hlist
    · intro h
      rw [if_pos h]
  · intro h
    rw [renderConnectedIdentitiesSection_eq, if_neg (hsome h)]
    rfl
  · intro h
    rw [renderConnectedIdentitiesSection_eq, if_neg (hsome h), textLines_section,
      textLines_sectionBody]
    rfl
  · intro id
    exact (separators_identityLine id).1
  · intro id
    exact (separators_identityLine id).2
  · exact length_renderedFields
  · intro id c hc
    refine ⟨?_, eq_space_of_mem_identityLine hc⟩
    rw [← List.contains_iff_mem, not_lineBreak_of_mem_identityLine hc]
    exact Bool.false_ne_true
  · intro id
    rw [toList_identityLine]
    unfold lineStart
    simp only [List.append_assoc]
    exact List.prefix_append _ _

example : renderConnectedIdentitiesSection
    [{ source := "gmail\n- forged | source", identifier := "connection", displayName := none,
       email := some "alice@example.com", handle := none, profileUrl := none }] =
    "## Connected Identities\n\n- Gmail - forged / source (connection): alice@example.com\n" := by
  decide +kernel
