/-
# The two verb heuristics are ordered

`classify_unknown` of the sync crate and of the contract crate.  Both look for the same
words; the first trims the slug, which no word can tell, and lets a leading read verb
answer before the write words.  So it never calls an action more invasive than the second
does, and the rule about the verb is all they differ in.
-/
import TinyConnectors.Scope
import TinyConnectors.StrSlices
import TinyConnectors.Substrings

open RustStr

/-! ## Words and padding -/

section Padding

variable {w : List Char} (hclean : ∀ c ∈ w, isWhitespace c = false)
include hclean

/-- White space before a text is a wall to a word without any. -/
theorem infix_dropWhile_iff (hw : w ≠ []) (l : List Char) :
    w <:+: l.dropWhile isWhitespace ↔ w <:+: l := by
  induction l with
  | nil => rfl
  | cons c l ih =>
    rw [List.dropWhile_cons]
    split_ifs with hc
    · have hfree : c ∉ w := by
        intro hmem
        rw [hclean c hmem] at hc
        cases hc
      rw [ih, ← List.nil_append (c :: l), infix_wall hfree, List.infix_nil]
      exact ⟨.inr, fun h => h.resolve_left hw⟩
    · rfl

theorem infix_rdropWhile_iff (hw : w ≠ []) (l : List Char) :
    w <:+: l.rdropWhile isWhitespace ↔ w <:+: l := by
  rw [List.rdropWhile, ← List.reverse_infix, List.reverse_reverse,
    infix_dropWhile_iff _ (List.reverse_ne_nil_iff.mpr hw), List.reverse_infix]
  intro c hc
  exact hclean c (List.mem_reverse.mp hc)

end Padding

/-- Trimming hides no word. -/
theorem contains_toAsciiUppercase_trim {word : String} (hne : word.toList ≠ [])
    (hclean : ∀ c ∈ word.toList, isWhitespace c = false) (s : String) :
    contains (toAsciiUppercase (trim s)) word = contains (toAsciiUppercase s) word := by
  rw [Bool.eq_iff_iff, contains_iff, contains_iff, toAsciiUppercase_trim, toList_trim, trimChars,
    infix_rdropWhile_iff hclean hne, infix_dropWhile_iff hclean hne]

/-- A word that trimming cannot hide: there is something in it, and no white space. -/
def solidWord (word : String) : Bool :=
  !word.toList.isEmpty && word.toList.all fun c => !isWhitespace c

theorem solidWord_iff {word : String} : solidWord word = true ↔
    word.toList ≠ [] ∧ ∀ c ∈ word.toList, isWhitespace c = false := by
  simp [solidWord]

theorem any_contains_trim {words : List String} (hwords : words.all solidWord = true)
    (s : String) :
    words.any (contains (toAsciiUppercase (trim s))) =
      words.any (contains (toAsciiUppercase s)) := by
  rw [Bool.eq_iff_iff, List.any_eq_true, List.any_eq_true]
  apply exists_congr
  intro word
  apply and_congr_right
  intro hmem
  obtain ⟨hne, hclean⟩ := solidWord_iff.mp (List.all_eq_true.mp hwords word hmem)
  rw [contains_toAsciiUppercase_trim hne hclean s]

theorem solidWord_ADMIN : ADMIN.all solidWord = true := by decide

theorem solidWord_WRITE : WRITE.all solidWord = true := by decide

/-! ## Cutting the toolkit off -/

/-- A slug can be cut after anything that starts it, in any letter case. -/
theorem getFrom_len_of_startsWith {s p word : String} (h : startsWith s p = true)
    (hlen : len word = len p) : ∃ rest, getFrom s (len word) = some rest := by
  obtain ⟨rest, hrest⟩ := startsWith_iff.mp h
  refine ⟨String.ofList rest, ?_⟩
  have hbytes : len p = bytesOf p.toList := rfl
  rw [getFrom, hrest, hlen, hbytes, getFromChars_bytesOf]
  rfl

namespace Sync

/-- A toolkit of the table is as long as its prefix without the last `_`. -/
theorem multiSegment_prefix : ∀ entry ∈ MULTI_SEGMENT_TOOLKITS,
    ∃ word, entry.1 = word ++ "_" ∧ len entry.2 = len word := by
  intro entry hentry
  simp only [MULTI_SEGMENT_TOOLKITS, List.mem_cons, List.not_mem_nil, or_false] at hentry
  rcases hentry with rfl | rfl | rfl
  · exact ⟨"MICROSOFT_TEAMS", by decide, by decide⟩
  · exact ⟨"ONE_DRIVE", by decide, by decide⟩
  · exact ⟨"ZOHO_MAIL", by decide, by decide⟩

/-- The toolkit of a trimmed slug in upper case is as long as what starts the slug. -/
theorem startsWith_of_toolkitFromSlug {upper toolkit : String} (htrim : trim upper = upper)
    (hupper : toAsciiUppercase upper = upper) (h : toolkitFromSlug upper = some toolkit) :
    ∃ word, startsWith upper word = true ∧ len toolkit = len word := by
  unfold toolkitFromSlug at h
  rw [htrim] at h
  dsimp only at h
  rw [hupper] at h
  split_ifs at h with hempty
  cases htable : findPrefix MULTI_SEGMENT_TOOLKITS upper with
  | some found =>
    -- a tabled prefix is a word and the underscore behind it
    rw [htable] at h
    obtain rfl := Option.some_inj.mp h
    obtain ⟨entry, hentry, rfl⟩ := Option.map_eq_some_iff.mp htable
    obtain ⟨word, hword, hlen⟩ := multiSegment_prefix entry (List.mem_of_find?_eq_some hentry)
    refine ⟨word, ?_, hlen⟩
    have hstarts := List.find?_some hentry
    obtain ⟨rest, hrest⟩ := startsWith_iff.mp hstarts
    apply startsWith_iff.mpr
    refine ⟨'_' :: rest, ?_⟩
    rw [hrest, hword, String.toList_append, List.append_assoc]
    rfl
  | none =>
    rw [htable] at h
    unfold firstSegmentToolkit at h
    dsimp only at h
    split_ifs at h with hsegment
    obtain rfl := Option.some_inj.mp h
    refine ⟨splitFirst upper '_', ?_, len_toAsciiLowercase _⟩
    apply startsWith_iff.mpr
    refine ⟨upper.toList.dropWhile (· != '_'), ?_⟩
    rw [splitFirst, String.toList_ofList, List.takeWhile_append_dropWhile]

end Sync

/-! ## The order -/

/-- Reads before writes, writes before admin. -/
def ToolScope.invasiveness : ToolScope → ℕ
  | .read => 0
  | .write => 1
  | .admin => 2

/-- The slug as the sync crate reads it. -/
def Sync.upperSlug (slug : String) : String := toAsciiUppercase (trim slug)

/-- The verb that leads the action is one that only reads. -/
def LeadsWithRead (slug : String) : Prop :=
  ∃ verb ∈ READ_VERBS, Sync.leadingVerb (Sync.upperSlug slug) = some verb

/-- One of the words occurs in the slug, in any letter case. -/
def HasWord (words : List String) (slug : String) : Prop :=
  ∃ word ∈ words, contains (toAsciiUppercase slug) word = true

theorem any_contains_iff {words : List String} {slug : String} :
    words.any (contains (toAsciiUppercase slug)) = true ↔ HasWord words slug := List.any_eq_true

theorem any_leadingVerb_iff {slug : String} :
    (Sync.leadingVerb (toAsciiUppercase (trim slug))).any (READ_VERBS.contains ·) = true ↔
      LeadsWithRead slug := by
  rw [Option.any_eq_true]
  constructor
  · rintro ⟨verb, hverb, hmem⟩
    rw [List.contains_iff_mem] at hmem
    exact ⟨verb, hmem, hverb⟩
  · rintro ⟨verb, hmem, hverb⟩
    refine ⟨verb, hverb, ?_⟩
    rw [List.contains_iff_mem]
    exact hmem

open Classical in
theorem Bus.classifyUnknown_eq (slug : String) : Bus.classifyUnknown slug =
    if HasWord ADMIN slug then .admin else if HasWord WRITE slug then .write else .read := by
  unfold Bus.classifyUnknown
  simp only [any_contains_iff]

open Classical in
theorem Sync.classifyUnknown_eq (slug : String) : Sync.classifyUnknown slug =
    if HasWord ADMIN slug then .admin else if LeadsWithRead slug then .read
      else if HasWord WRITE slug then .write else .read := by
  unfold Sync.classifyUnknown
  dsimp only
  rw [any_contains_trim solidWord_ADMIN, any_contains_trim solidWord_WRITE]
  simp only [any_contains_iff, any_leadingVerb_iff]

/-- How the two heuristics answer about one slug. -/
structure HeuristicsOrdered (slug : String) : Prop where
  never_above : (Sync.classifyUnknown slug).invasiveness ≤ (Bus.classifyUnknown slug).invasiveness
  admin : Sync.classifyUnknown slug = .admin ↔ Bus.classifyUnknown slug = .admin
  differ : Sync.classifyUnknown slug ≠ Bus.classifyUnknown slug ↔
    LeadsWithRead slug ∧ HasWord WRITE slug ∧ ¬ HasWord ADMIN slug
  aligned : ∀ toolkit, Sync.toolkitFromSlug (Sync.upperSlug slug) = some toolkit →
    ∃ rest, getFrom (Sync.upperSlug slug) (len toolkit) = some rest

/-- For every slug the sync heuristic is at most as invasive as the bus one; only a leading read
verb in front of a write word tells them apart. -/
theorem heuristicsOrdered (slug : String) : HeuristicsOrdered slug := by
  constructor
  · rw [Sync.classifyUnknown_eq, Bus.classifyUnknown_eq]
    split_ifs <;> decide
  · rw [Sync.classifyUnknown_eq, Bus.classifyUnknown_eq]
    split_ifs <;> decide
  · rw [Sync.classifyUnknown_eq, Bus.classifyUnknown_eq]
    split_ifs <;> simp [*]
  · intro toolkit htoolkit
    have htrim : trim (Sync.upperSlug slug) = Sync.upperSlug slug := by
      unfold Sync.upperSlug
      rw [toAsciiUppercase_trim, trim_trim]
    have hupper : toAsciiUppercase (Sync.upperSlug slug) = Sync.upperSlug slug :=
      toAsciiUppercase_toAsciiUppercase _
    obtain ⟨word, hword, hlen⟩ := Sync.startsWith_of_toolkitFromSlug htrim hupper htoolkit
    exact getFrom_len_of_startsWith hword hlen
