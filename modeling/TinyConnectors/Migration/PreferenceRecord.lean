/-
# Preference records

The durable names (`tinyconnectors-bus/src/storage/`), the body a preference is
stored under, and the document id of a key (`legacy_key` in
`state/migration.rs`, which the reader `DocumentPrefsStore` shares).  The id
encoder is not idempotent: it fixes exactly the plain keys
(`legacyId_eq_self_iff`), and its value is plain only when its argument was
(`plainKey_legacyId`).
-/
import TinyConnectors.Storage

open RustStr

/-! ## Names -/

def PREFS_NAMESPACE : String := "connectors.user_scopes"
def MIGRATIONS_NAMESPACE : String := "connectors.migrations"
def LEGACY_PREFS_NAMESPACE : String := "composio-user-scopes"
def PREFS_SCHEMA_VERSION : ℕ := 2
def NON_OBJECT_FIELD : String := "non_object_value"
def STREAM_PREFIX : String := "connectors.triggers/"
def LEGACY_STREAM_PREFIX : String := "triggers/"

/-- Rows listed, or entries copied, at a time. -/
def PAGE_SIZE : ℕ := 128

/-! ## The body of a preference -/

/-- The v2 body for a preference value. -/
def encodePreference : Json → Json
  | .obj fields =>
    if Json.containsKey NON_OBJECT_FIELD fields then .obj [(NON_OBJECT_FIELD, .obj fields)]
    else .obj fields
  | other => .obj [(NON_OBJECT_FIELD, other)]

/-- The preference value a v2 body holds. -/
def decodePreference : Json → Json
  | .obj fields =>
    if fields.length = 1 ∧ Json.containsKey NON_OBJECT_FIELD fields = true then
      (Json.field NON_OBJECT_FIELD fields).getD .null
    else .obj fields
  | other => other

/-- The encoding loses nothing. -/
theorem decodePreference_encodePreference (value : Json) :
    decodePreference (encodePreference value) = value := by
  cases value with
  | obj fields =>
    by_cases hfield : Json.containsKey NON_OBJECT_FIELD fields = true
    · rw [encodePreference, if_pos hfield, decodePreference, if_pos ⟨rfl, rfl⟩]
      rfl
    · rw [encodePreference, if_neg hfield, decodePreference, if_neg (fun h => hfield h.2)]
  | _ => rfl

/-- The body migration derives from a legacy row: the value under `"value"`. -/
def preferenceBody (doc : Json) : Json :=
  match doc with
  | .obj fields => encodePreference ((Json.field "value" fields).getD .null)
  | _ => encodePreference .null

/-! ## The document id of a key -/

/-- The parts of `legacy_key` that are not in this repository. -/
structure KeyPort where
  /-- The SHA-256 of a text, in lower-cased unpadded base32. -/
  digest : String → String
  /-- Why `Key::new` refuses an id, if it does. -/
  refusal : String → Option StorageError

/-- A character the encoder copies. -/
def PlainChar (c : Char) : Prop := c ≠ '%' ∧ c ≠ '/' ∧ c ≠ '\x00'

instance (c : Char) : Decidable (PlainChar c) := inferInstanceAs (Decidable (_ ∧ _ ∧ _))

/-- The escape of one character. -/
def escapeChar (c : Char) : List Char :=
  if c = '%' then ['%', '2', '5']
  else if c = '/' then ['%', '2', 'F']
  else if c = '\x00' then ['%', '0', '0']
  else [c]

/-- The escape of the first part: a `~` at its very start is escaped too. -/
def escapeFirst : List Char → List Char
  | [] => []
  | c :: l => (if c = '~' then ['%', '7', 'E'] else escapeChar c) ++ l.flatMap escapeChar

/-- The parts, escaped and joined. -/
def escapeParts : List String → List Char
  | [] => []
  | part :: parts =>
    escapeFirst part.toList ++ parts.flatMap fun part => '/' :: part.toList.flatMap escapeChar

/-- Bytes of UTF-8. -/
def byteLen (l : List Char) : ℕ := (l.map Char.utf8Size).sum

/-- The longest id that is kept as it is. -/
def MAX_ID_LEN : ℕ := 512

/-- An id over the limit is replaced by a hash of it. -/
def boundedId (port : KeyPort) (escaped : List Char) : String :=
  if MAX_ID_LEN < byteLen escaped then "~" ++ port.digest (String.ofList escaped)
  else String.ofList escaped

/-- The id that stands for a key, before `Key::new` looks at it. -/
def legacyId (port : KeyPort) (key : String) : String :=
  boundedId port (escapeFirst key.toList)

/-- Preserve the retired core `Key::of` encoding for on-disk ids. -/
def legacyKey (port : KeyPort) (parts : List String) : StorageResult String :=
  if parts = [] then .error (.invalidInput "a key needs at least one part")
  else
    let id := boundedId port (escapeParts parts)
    match port.refusal id with
    | some error => .error error
    | none => .ok id

/-- The key of a single part is its id, unless `Key::new` refuses it. -/
theorem legacyKey_single (port : KeyPort) (key : String) :
    legacyKey port [key] =
      match port.refusal (legacyId port key) with
      | some error => .error error
      | none => .ok (legacyId port key) := by
  simp only [legacyKey, legacyId, escapeParts, List.flatMap_nil, List.append_nil]
  rfl

/-! ## Plain keys -/

/-- A key the encoder returns unchanged. -/
def PlainKey (key : String) : Prop :=
  (∀ c ∈ key.toList, PlainChar c) ∧ key.toList.head? ≠ some '~' ∧ byteLen key.toList ≤ MAX_ID_LEN

instance (key : String) : Decidable (PlainKey key) := inferInstanceAs (Decidable (_ ∧ _ ∧ _))

theorem plainKey_empty : PlainKey "" := ⟨by simp, by simp, Nat.zero_le _⟩

theorem escapeChar_of_plain {c : Char} (hc : PlainChar c) : escapeChar c = [c] := by
  obtain ⟨h1, h2, h3⟩ := hc
  rw [escapeChar, if_neg h1, if_neg h2, if_neg h3]

/-- Escaping leaves a mark. -/
theorem percent_mem_escapeChar {c : Char} (hc : ¬ PlainChar c) : '%' ∈ escapeChar c := by
  unfold escapeChar
  split_ifs with h1 h2 h3
  · simp
  · simp
  · simp
  · exact absurd ⟨h1, h2, h3⟩ hc

theorem one_lt_length_escapeChar {c : Char} (hc : ¬ PlainChar c) : 1 < (escapeChar c).length := by
  unfold escapeChar
  split_ifs with h1 h2 h3
  · simp
  · simp
  · simp
  · exact absurd ⟨h1, h2, h3⟩ hc

theorem length_pos_escapeChar (c : Char) : 1 ≤ (escapeChar c).length := by
  by_cases hc : PlainChar c
  · rw [escapeChar_of_plain hc, List.length_singleton]
  · have := one_lt_length_escapeChar hc
    omega

theorem byteLen_escapeChar (c : Char) : byteLen (escapeChar c) ≤ 3 * c.utf8Size := by
  have hpos := Char.utf8Size_pos c
  by_cases hc : PlainChar c
  · rw [escapeChar_of_plain hc]
    simp only [byteLen, List.map_cons, List.map_nil, List.sum_cons, List.sum_nil]
    omega
  · have hthree : byteLen (escapeChar c) = 3 := by
      unfold escapeChar
      split_ifs with h1 h2 h3
      · decide
      · decide
      · decide
      · exact absurd ⟨h1, h2, h3⟩ hc
    omega

theorem length_le_flatMap_escapeChar (l : List Char) :
    l.length ≤ (l.flatMap escapeChar).length := by
  induction l with
  | nil => simp
  | cons c l ih =>
    have hc := length_pos_escapeChar c
    rw [List.flatMap_cons, List.length_append, List.length_cons]
    omega

/-- A text that does not grow is plain. -/
theorem plain_of_length_flatMap {l : List Char} (h : (l.flatMap escapeChar).length ≤ l.length) :
    ∀ c ∈ l, PlainChar c := by
  induction l with
  | nil => simp
  | cons c l ih =>
    rw [List.flatMap_cons, List.length_append, List.length_cons] at h
    have hl := length_le_flatMap_escapeChar l
    have hc : PlainChar c := by
      by_contra hc
      have := one_lt_length_escapeChar hc
      omega
    have hone := length_pos_escapeChar c
    exact List.forall_mem_cons.mpr ⟨hc, ih (by omega)⟩

theorem flatMap_escapeChar_of_plain {l : List Char} (h : ∀ c ∈ l, PlainChar c) :
    l.flatMap escapeChar = l := by
  induction l with
  | nil => rfl
  | cons c l ih =>
    obtain ⟨hc, hl⟩ := List.forall_mem_cons.mp h
    rw [List.flatMap_cons, escapeChar_of_plain hc, ih hl, List.singleton_append]

theorem byteLen_append (l m : List Char) : byteLen (l ++ m) = byteLen l + byteLen m := by
  simp [byteLen]

theorem byteLen_flatMap_escapeChar (l : List Char) :
    byteLen (l.flatMap escapeChar) ≤ 3 * byteLen l := by
  induction l with
  | nil => simp [byteLen]
  | cons c l ih =>
    have hc := byteLen_escapeChar c
    rw [List.flatMap_cons, byteLen_append]
    simp only [byteLen, List.map_cons, List.sum_cons] at ih hc ⊢
    omega

/-- The escape of a whole key, when nothing in it is escaped. -/
theorem escapeFirst_of_plain {l : List Char} (h : ∀ c ∈ l, PlainChar c)
    (hhead : l.head? ≠ some '~') :
    escapeFirst l = l := by
  cases l with
  | nil => rfl
  | cons c l =>
    have hc : c ≠ '~' := by
      simpa using hhead
    rw [escapeFirst, if_neg hc, ← List.flatMap_cons, flatMap_escapeChar_of_plain h]

/-- The escape of a key grows, or nothing in it was escaped. -/
theorem plain_of_escapeFirst {l : List Char} (h : (escapeFirst l).length ≤ l.length) :
    (∀ c ∈ l, PlainChar c) ∧ l.head? ≠ some '~' := by
  cases l with
  | nil => simp
  | cons c l =>
    rw [escapeFirst] at h
    by_cases hc : c = '~'
    · have hl := length_le_flatMap_escapeChar l
      rw [if_pos hc, List.length_append, List.length_cons] at h
      simp only [List.length_cons, List.length_nil] at h
      omega
    · rw [if_neg hc, ← List.flatMap_cons] at h
      exact ⟨plain_of_length_flatMap h, by simpa using hc⟩

/-- An escaped key has a `%` in it, or is the key itself. -/
theorem percent_mem_escapeFirst {l : List Char}
    (h : ¬ ((∀ c ∈ l, PlainChar c) ∧ l.head? ≠ some '~')) : '%' ∈ escapeFirst l := by
  cases l with
  | nil => simp at h
  | cons c l =>
    by_cases hc : c = '~'
    · simp [escapeFirst, hc]
    · have hbad : ∃ d ∈ c :: l, ¬ PlainChar d := by
        by_contra hall
        push Not at hall
        exact h ⟨hall, by simpa using hc⟩
      obtain ⟨d, hd, hd'⟩ := hbad
      rw [escapeFirst, if_neg hc, ← List.flatMap_cons, List.mem_flatMap]
      exact ⟨d, hd, percent_mem_escapeChar hd'⟩

section
variable {port : KeyPort}

theorem legacyId_of_plainKey {key : String} (h : PlainKey key) : legacyId port key = key := by
  obtain ⟨hplain, hhead, hlen⟩ := h
  rw [legacyId, escapeFirst_of_plain hplain hhead, boundedId, if_neg (by omega),
    String.ofList_toList]

/-- The encoder produces a plain id from plain keys only. -/
theorem plainKey_legacyId {key : String} (h : PlainKey (legacyId port key)) : PlainKey key := by
  obtain ⟨hplain, hhead, hlen⟩ := h
  unfold legacyId boundedId at hplain hhead hlen
  by_cases hlong : MAX_ID_LEN < byteLen (escapeFirst key.toList)
  · rw [if_pos hlong] at hhead
    simp at hhead
  · rw [if_neg hlong, String.toList_ofList] at hplain hlen
    by_cases hkey : (∀ c ∈ key.toList, PlainChar c) ∧ key.toList.head? ≠ some '~'
    · rw [escapeFirst_of_plain hkey.1 hkey.2] at hlen
      exact ⟨hkey.1, hkey.2, hlen⟩
    · exact absurd rfl (hplain '%' (percent_mem_escapeFirst hkey)).1

/-- The digest is short, as base32 of 32 bytes is. -/
def KeyPort.DigestBounded (port : KeyPort) : Prop :=
  ∀ text, byteLen (port.digest text).toList = 52

/-- The encoder fixes the plain keys and no others. -/
theorem legacyId_eq_self_iff (hdigest : port.DigestBounded) {key : String} :
    legacyId port key = key ↔ PlainKey key := by
  refine ⟨fun h => ?_, legacyId_of_plainKey⟩
  unfold legacyId boundedId at h
  by_cases hlong : MAX_ID_LEN < byteLen (escapeFirst key.toList)
  · -- a hash starts with `~`, and its own escape is far below the limit
    rw [if_pos hlong] at h
    have hkey : key.toList =
        '~' :: (port.digest (String.ofList (escapeFirst key.toList))).toList := by
      conv_lhs => rw [← h]
      simp
    have htail := byteLen_flatMap_escapeChar
      (port.digest (String.ofList (escapeFirst key.toList))).toList
    have hbound := hdigest (String.ofList (escapeFirst key.toList))
    have hthree : byteLen ['%', '7', 'E'] = 3 := by decide
    have hlen : byteLen (escapeFirst key.toList) ≤ 159 := by
      conv_lhs => rw [hkey]
      rw [escapeFirst, if_pos rfl, byteLen_append]
      omega
    rw [MAX_ID_LEN] at hlong
    omega
  · rw [if_neg hlong] at h
    have hkey : escapeFirst key.toList = key.toList := by
      simpa using congrArg String.toList h
    obtain ⟨hplain, hhead⟩ := plain_of_escapeFirst (le_of_eq (congrArg List.length hkey))
    rw [hkey] at hlong
    exact ⟨hplain, hhead, by omega⟩

end

/-! ## Distinct keys have distinct ids -/

/-- Undo the escapes. -/
def unescape : List Char → List Char
  | '%' :: '2' :: '5' :: rest => '%' :: unescape rest
  | '%' :: '2' :: 'F' :: rest => '/' :: unescape rest
  | '%' :: '0' :: '0' :: rest => '\x00' :: unescape rest
  | '%' :: '7' :: 'E' :: rest => '~' :: unescape rest
  | c :: rest => c :: unescape rest
  | [] => []

theorem unescape_cons {c : Char} (hc : c ≠ '%') (rest : List Char) :
    unescape (c :: rest) = c :: unescape rest := by
  conv_lhs => unfold unescape
  split <;> simp_all

theorem unescape_escapeChar (c : Char) (rest : List Char) :
    unescape (escapeChar c ++ rest) = c :: unescape rest := by
  by_cases hpercent : c = '%'
  · subst hpercent
    rfl
  by_cases hslash : c = '/'
  · subst hslash
    rfl
  by_cases hnul : c = '\x00'
  · subst hnul
    rfl
  rw [escapeChar_of_plain ⟨hpercent, hslash, hnul⟩, List.singleton_append, unescape_cons hpercent]

theorem unescape_flatMap_escapeChar (l : List Char) : unescape (l.flatMap escapeChar) = l := by
  induction l with
  | nil => rfl
  | cons c l ih => rw [List.flatMap_cons, unescape_escapeChar, ih]

/-- The escape of a key can be undone. -/
theorem unescape_escapeFirst (l : List Char) : unescape (escapeFirst l) = l := by
  rcases l with _ | ⟨c, l⟩
  · rfl
  · by_cases htilde : c = '~'
    · subst htilde
      show '~' :: unescape (l.flatMap escapeChar) = '~' :: l
      rw [unescape_flatMap_escapeChar]
    · rw [escapeFirst, if_neg htilde, unescape_escapeChar, unescape_flatMap_escapeChar]

theorem escapeChar_cases (c : Char) : escapeChar c = [c] ∨ ∃ tail, escapeChar c = '%' :: tail := by
  unfold escapeChar
  split_ifs
  · exact Or.inr ⟨_, rfl⟩
  · exact Or.inr ⟨_, rfl⟩
  · exact Or.inr ⟨_, rfl⟩
  · exact Or.inl rfl

/-- The escape of a key does not begin as a hash does. -/
theorem head_escapeFirst (l : List Char) : (escapeFirst l).head? ≠ some '~' := by
  intro hhead
  rcases l with _ | ⟨c, l⟩
  · cases hhead
  · by_cases htilde : c = '~'
    · rw [escapeFirst, if_pos htilde] at hhead
      cases hhead
    · rw [escapeFirst, if_neg htilde] at hhead
      rcases escapeChar_cases c with hone | ⟨tail, hmark⟩
      · rw [hone, List.singleton_append, List.head?_cons, Option.some_inj] at hhead
        exact htilde hhead
      · rw [hmark] at hhead
        cases hhead

/-- Two keys share an id only if their digests collide. -/
theorem legacyId_injective {port : KeyPort} (hdigest : Function.Injective port.digest) :
    Function.Injective (legacyId port) := by
  intro key key' h
  have hback : ∀ {k k' : String}, escapeFirst k.toList = escapeFirst k'.toList → k = k' := by
    intro k k' heq
    apply String.toList_injective
    rw [← unescape_escapeFirst k.toList, heq, unescape_escapeFirst]
  have hmixed : ∀ k k' : String, "~" ++ port.digest (String.ofList (escapeFirst k.toList)) ≠
      String.ofList (escapeFirst k'.toList) := by
    intro k k' heq
    have hlist := congrArg String.toList heq
    rw [String.toList_ofList, String.toList_append] at hlist
    exact head_escapeFirst k'.toList (by rw [← hlist]; rfl)
  unfold legacyId boundedId at h
  split_ifs at h with hlong hlong' hlong'
  · have hdigests : port.digest (String.ofList (escapeFirst key.toList)) =
        port.digest (String.ofList (escapeFirst key'.toList)) := by
      have hlist := congrArg String.toList h
      rw [String.toList_append, String.toList_append] at hlist
      exact String.toList_injective (List.append_cancel_left hlist)
    exact hback (String.ofList_injective (hdigest hdigests))
  · exact absurd h (hmixed key key')
  · exact absurd h.symm (hmixed key' key)
  · exact hback (String.ofList_injective h)

/-! ## What `Key::new` accepts -/

/-- `Key::new` takes whatever the encoder makes of a non-empty key. -/
def KeyPort.AcceptsEncoded (port : KeyPort) : Prop :=
  ∀ key, key ≠ "" → port.refusal (legacyId port key) = none

section
variable {port : KeyPort} {key : String}

/-- A key that `Key::new` accepts has its encoding as id. -/
theorem legacyKey_eq_ok {id : String} (h : legacyKey port [key] = .ok id) :
    legacyId port key = id := by
  rw [legacyKey_single] at h
  split at h
  · cases h
  · rwa [Except.ok.injEq] at h

theorem KeyPort.AcceptsEncoded.legacyKey (h : port.AcceptsEncoded) (hkey : key ≠ "") :
    legacyKey port [key] = .ok (legacyId port key) := by
  rw [legacyKey_single, h key hkey]

end

/-- A `Key::new` that refuses only the empty id.  Short ids are never hashed. -/
def shortKeyPort : KeyPort where
  digest _ := String.ofList (List.replicate 52 'a')
  refusal id := if id = "" then some (.invalidInput "an id must not be empty") else none

theorem shortKeyPort_digestBounded : shortKeyPort.DigestBounded := by
  intro text
  have hlen : byteLen (List.replicate 52 'a') = 52 := by
    simp only [byteLen, List.map_replicate, List.sum_replicate]
    decide
  rw [← String.toList_ofList (l := List.replicate 52 'a')] at hlen
  exact hlen

theorem shortKeyPort_acceptsEncoded : shortKeyPort.AcceptsEncoded := by
  intro key hkey
  show (if legacyId shortKeyPort key = "" then _ else none) = none
  rw [if_neg]
  intro hempty
  apply hkey
  have hplain : PlainKey (legacyId shortKeyPort key) := by
    rw [hempty]
    exact plainKey_empty
  rw [← legacyId_of_plainKey (plainKey_legacyId hplain), hempty]
