/-
# A value stays one value in a URL

What `client/route/url.rs` promises of `encode`, `segment` and `comma_joined`: a
value that came over the bus is read back from the URL it was put in, and the URL
has the segments and parameters it would have with nothing in the value's place.
-/
import TinyConnectors.Direct.Route
import TinyConnectors.PercentEncoding

open RustStr

namespace Direct

/-! ## The parts of a URL -/

/-- The segments of the path of a URL. -/
def pathSegments (url : List Char) : List (List Char) :=
  (url.takeWhile fun c => c ≠ '?' && c ≠ '#').splitOn '/'

/-- The parameters of the query of a URL. -/
def queryParameters (url : List Char) : List (List Char) :=
  match (url.takeWhile (· ≠ '#')).dropWhile (· ≠ '?') with
  | [] => []
  | _ :: query => query.splitOn '&'

/-- An unreserved character. -/
def isUnreserved (c : Char) : Bool := c.isAlphanum || c = '-' || c = '.' || c = '_' || c = '~'

/-- The characters that part a URL. -/
def SEPARATORS : List Char := ['/', '?', '&', '=', '#']

/-- Put in a URL, the text adds no segment and no parameter. -/
def KeepsShape (text : List Char) : Prop :=
  ∀ before after : List Char,
    (pathSegments (before ++ text ++ after)).length = (pathSegments (before ++ after)).length ∧
      (queryParameters (before ++ text ++ after)).length =
        (queryParameters (before ++ after)).length

theorem length_splitOn (sep : Char) (l : List Char) :
    (l.splitOn sep).length = l.count sep + 1 := by
  induction l with
  | nil => rfl
  | cons c l ih =>
    rw [List.splitOn_cons_eq_if_modifyHead, List.count_cons]
    split_ifs with hc
    · rw [List.length_cons, ih]
    · rw [List.length_modifyHead, ih]

section Parts

variable {word : List Char}

/-- A run that a word does not end goes on behind the word. -/
theorem takeWhile_word {p : Char → Bool} (hrun : ∀ c ∈ word, p c = true)
    (before after : List Char) :
    (∃ run, (before ++ word ++ after).takeWhile p = run ∧ (before ++ after).takeWhile p = run) ∨
      ∃ run, (before ++ word ++ after).takeWhile p = before ++ word ++ run ∧
        (before ++ after).takeWhile p = before ++ run := by
  have hstep : ∀ rest, (before ++ rest).takeWhile p =
      if (before.takeWhile p).length = before.length then before ++ rest.takeWhile p
      else before.takeWhile p := fun rest => List.takeWhile_append
  rw [List.append_assoc, hstep, hstep, List.takeWhile_append_of_pos hrun]
  split_ifs with hall
  · exact .inr ⟨after.takeWhile p, (List.append_assoc _ _ _).symm, rfl⟩
  · exact .inl ⟨_, rfl, rfl⟩

theorem length_pathSegments (hfree : ∀ c ∈ word, c ∉ SEPARATORS) (before after : List Char) :
    (pathSegments (before ++ word ++ after)).length = (pathSegments (before ++ after)).length := by
  have hrun : ∀ c ∈ word, (c ≠ '?' && c ≠ '#') = true := by
    intro c hc
    have hne := hfree c hc
    simp only [SEPARATORS, List.mem_cons, not_or] at hne
    simp [hne.2.1, hne.2.2.2.2.1]
  have hcount : word.count '/' = 0 := List.count_eq_zero.mpr fun hc => hfree '/' hc (by decide)
  rw [pathSegments, pathSegments, length_splitOn, length_splitOn]
  rcases takeWhile_word hrun before after with ⟨run, hword, hplain⟩ | ⟨run, hword, hplain⟩
  · rw [hword, hplain]
  · rw [hword, hplain, List.count_append, List.count_append, List.count_append, hcount, add_zero]

/-- The parameters of a URL, once a fragment is cut off. -/
theorem length_queryParameters (hfree : ∀ c ∈ word, c ∉ SEPARATORS) (before after : List Char) :
    (queryParameters (before ++ word ++ after)).length =
      (queryParameters (before ++ after)).length := by
  have hrun : ∀ c ∈ word, decide (c ≠ '#') = true := fun c hc =>
    decide_eq_true fun hsame => hfree c hc (hsame ▸ by decide)
  have hquery : ∀ c ∈ word, decide (c ≠ '?') = true := fun c hc =>
    decide_eq_true fun hsame => hfree c hc (hsame ▸ by decide)
  have hcount : word.count '&' = 0 := List.count_eq_zero.mpr fun hc => hfree '&' hc (by decide)
  rw [queryParameters, queryParameters]
  rcases takeWhile_word hrun before after with ⟨run, hword, hplain⟩ | ⟨run, hword, hplain⟩
  · rw [hword, hplain]
  · have hstep : ∀ rest, (before ++ rest).dropWhile (· ≠ '?') =
        if (before.dropWhile (· ≠ '?')).isEmpty then rest.dropWhile (· ≠ '?')
        else before.dropWhile (· ≠ '?') ++ rest := fun rest => List.dropWhile_append
    rw [hword, hplain, List.append_assoc, hstep, hstep, List.dropWhile_append_of_pos hquery]
    split_ifs with hnone
    · rfl
    · -- the query starts in front of the word
      rw [List.isEmpty_iff] at hnone
      obtain ⟨mark, rest, hrest⟩ := List.exists_cons_of_ne_nil hnone
      simp only [hrest, List.cons_append, length_splitOn, List.count_append, hcount, zero_add]

end Parts

theorem keepsShape_of_free {text : List Char} (hfree : ∀ c ∈ text, c ∉ SEPARATORS) :
    KeepsShape text := fun before after =>
  ⟨length_pathSegments hfree before after, length_queryParameters hfree before after⟩

/-! ## Values -/

/-- The bytes a text is read as. -/
def percentDecode (text : List Char) : List UInt8 :=
  PercentEncoding.decode (PercentEncoding.utf8 text)

/-- The text is `value` written so that no reader of the URL takes it for anything else. -/
structure StandsFor (text : List Char) (value : String) : Prop where
  /-- Unreserved characters and escapes are all there is. -/
  escaped : PercentEncoding.Escaped isUnreserved text
  decodes : percentDecode text = asBytes value
  /-- No separator is left, of a URL or of a list. -/
  free : ∀ c ∈ text, c ∉ SEPARATORS ∧ c ≠ ','
  shape : KeepsShape text

theorem keepsPlain_isKept : PercentEncoding.KeepsPlain isKept := by
  constructor
  · intro b hb
    rw [isKept, Bool.and_eq_true, decide_eq_true_iff] at hb
    exact hb.1
  · decide

theorem isUnreserved_of_isKept (b : UInt8) (h : isKept b = true) :
    isUnreserved (Char.ofNat b.toNat) = true := by
  rw [isKept, Bool.and_eq_true] at h
  exact h.2

/-- Neither an unreserved character nor a part of an escape parts anything. -/
theorem free_of_escaped {text : List Char} (h : PercentEncoding.Escaped isUnreserved text) :
    ∀ c ∈ text, c ∉ SEPARATORS ∧ c ≠ ',' := by
  have hclear : (',' :: SEPARATORS).all fun c =>
      !isUnreserved c && c != '%' && !PercentEncoding.isHexDigit c := by decide
  rw [List.all_eq_true] at hclear
  intro c hc
  rw [← not_or, or_comm, ← List.mem_cons]
  intro hsep
  have hother := hclear c hsep
  rcases h.mem hc with hplain | rfl | hplain
  · simp [hplain] at hother
  · simp at hother
  · simp [hplain] at hother

theorem toList_encode (value : String) :
    (encode value).toList = PercentEncoding.encode isKept (asBytes (trim value)) :=
  String.toList_ofList

/-- An encoded value stands for the trimmed one. -/
theorem standsFor_encode (value : String) : StandsFor (encode value).toList (trim value) := by
  have hescaped : PercentEncoding.Escaped isUnreserved (encode value).toList := by
    rw [toList_encode]
    exact PercentEncoding.escaped_encode isUnreserved_of_isKept _
  have hfree := free_of_escaped hescaped
  refine ⟨hescaped, ?_, hfree, keepsShape_of_free fun c hc => (hfree c hc).1⟩
  rw [toList_encode, percentDecode, PercentEncoding.decode_encode keepsPlain_isKept]

/-! ## Lists of values -/

/-- The values a list is sent with. -/
def sentValues (values : List String) : List String :=
  (values.map trim).filter fun value => value ≠ ""

theorem asBytes_eq_nil {s : String} : asBytes s = [] ↔ s = "" := by
  constructor
  · intro h
    exact asBytes_inj (h.trans rfl)
  · rintro rfl
    rfl

theorem encode_eq_empty {value : String} : encode value = "" ↔ trim value = "" := by
  rw [← String.toList_eq_nil_iff, toList_encode, PercentEncoding.encode_eq_nil, asBytes_eq_nil]

/-- The joined text of a list that is not empty is split into the encoded values. -/
theorem splitOn_joined {values : List String} (hne : values ≠ []) :
    (String.intercalate "," (values.map encode)).toList.splitOn ',' =
      values.map fun value => (encode value).toList := by
  rw [String.toList_intercalate, List.map_map]
  show List.splitOn ',' ([','].intercalate _) = _
  apply List.splitOn_intercalate
  · intro text htext
    obtain ⟨value, -, rfl⟩ := List.mem_map.mp htext
    exact fun hmem => ((standsFor_encode value).free ',' hmem).2 rfl
  · simpa using hne

/-- Joining what is sent gives the empty text only where nothing is. -/
theorem joined_eq_empty {values : List String} (hsent : ∀ value ∈ values, trim value ≠ "") :
    String.intercalate "," (values.map encode) = "" ↔ values = [] := by
  constructor
  · intro hempty
    by_contra hne
    have hsplit := splitOn_joined hne
    rw [hempty] at hsplit
    obtain ⟨value, rest, rfl⟩ := List.exists_cons_of_ne_nil hne
    have hhead : (encode value).toList = [] := (List.cons.inj hsplit).1.symm
    rw [String.toList_eq_nil_iff, encode_eq_empty] at hhead
    exact hsent value List.mem_cons_self hhead
  · rintro rfl
    rfl

/-- Every value that is sent is trimmed and not blank. -/
theorem clean_of_mem_sentValues {values : List String} {value : String}
    (h : value ∈ sentValues values) : trim value = value ∧ value ≠ "" := by
  rw [sentValues, List.mem_filter, List.mem_map, decide_eq_true_iff] at h
  obtain ⟨⟨given, -, rfl⟩, hne⟩ := h
  exact ⟨trim_trim given, hne⟩

theorem commaJoined_eq (values : List String) :
    commaJoined values =
      if sentValues values = [] then none
      else some (String.intercalate "," ((sentValues values).map encode)) := by
  have hsent : ∀ value ∈ sentValues values, trim value ≠ "" := by
    intro value hvalue
    obtain ⟨htrim, hne⟩ := clean_of_mem_sentValues hvalue
    rwa [htrim]
  have hempty := joined_eq_empty hsent
  show (if String.intercalate "," ((sentValues values).map encode) = "" then none
    else some (String.intercalate "," ((sentValues values).map encode))) = _
  simp only [hempty]

/-! ## No value reshapes a URL -/

/-- What `encode`, `segment`, `comma_joined` and the cursor of a listing owe every value. -/
structure KeepsValues : Prop where
  encode : ∀ value, StandsFor (encode value).toList (trim value)
  refused : ∀ value what, (∃ e, segment value what = .error e) ↔
    trim value = "" ∨ ∀ c ∈ (trim value).toList, c = '.'
  segment : ∀ value what named, segment value what = .ok named →
    StandsFor named.toList (trim value) ∧ trim value ∉ ["", ".", ".."]
  omitted : ∀ values, commaJoined values = none ↔ sentValues values = []
  joined : ∀ values text, commaJoined values = some text →
    (text.toList.splitOn ',').map percentDecode = (sentValues values).map asBytes ∧
      KeepsShape text.toList
  /-- A page has the parameters of the listing and its cursor. -/
  cursor : ∀ path cursor, (queryParameters (pagePath path (some cursor)).toList).length =
    (queryParameters (path ++ "&cursor=").toList).length

theorem segment_eq_error_iff {value what : String} :
    (∃ e, segment value what = .error e) ↔
      trim value = "" ∨ ∀ c ∈ (trim value).toList, c = '.' := by
  simp only [segment]
  split_ifs with hdots
  · rw [List.all_eq_true] at hdots
    exact iff_of_true ⟨_, rfl⟩ (.inr fun c hc => decide_eq_true_iff.mp (hdots c hc))
  · apply iff_of_false
    · rintro ⟨e, he⟩
      cases he
    · rintro (hblank | hall)
      · rw [hblank] at hdots
        exact hdots rfl
      · exact hdots (List.all_eq_true.mpr fun c hc => decide_eq_true_iff.mpr (hall c hc))

/-- Values that came over the bus are read back from the URLs they are put in, and
add no segment and no parameter to them. -/
theorem keepsValues : KeepsValues where
  encode := standsFor_encode
  refused value what := segment_eq_error_iff
  segment value what named h := by
    rw [eq_encode_of_segment h]
    refine ⟨standsFor_encode value, fun hdots => ?_⟩
    -- a dot segment is refused
    obtain ⟨e, he⟩ : ∃ e, Direct.segment value what = .error e := by
      rw [segment_eq_error_iff]
      simp only [List.mem_cons, List.not_mem_nil, or_false] at hdots
      rcases hdots with hempty | hdot | hdots
      · exact .inl hempty
      · rw [hdot]
        exact .inr (by simp)
      · rw [hdots]
        exact .inr (by simp)
    cases h.symm.trans he
  omitted values := by
    rw [commaJoined_eq]
    by_cases hnone : sentValues values = []
    · exact iff_of_true (if_pos hnone) hnone
    · rw [if_neg hnone]
      exact iff_of_false (Option.some_ne_none _) hnone
  joined values text h := by
    rw [commaJoined_eq] at h
    split_ifs at h with hnone
    obtain rfl := Option.some_inj.mp h
    constructor
    · rw [splitOn_joined hnone, List.map_map]
      apply List.map_congr_left
      intro value hvalue
      rw [Function.comp_apply, (standsFor_encode value).decodes, (clean_of_mem_sentValues hvalue).1]
    · apply keepsShape_of_free
      intro c hc
      rw [String.toList_intercalate] at hc
      rcases mem_intercalate hc with hsep | ⟨text, htext, hc⟩
      · obtain rfl : c = ',' := List.mem_singleton.mp hsep
        decide
      · rw [List.map_map] at htext
        obtain ⟨value, -, rfl⟩ := List.mem_map.mp htext
        exact ((standsFor_encode value).free c hc).1
  cursor path cursor := by
    have hshape := ((standsFor_encode cursor).shape (path ++ "&cursor=").toList []).2
    rw [List.append_nil, List.append_nil] at hshape
    rw [pagePath, ← hshape, ← String.toList_append]

end Direct
