/-
# What is stored can be read back

`storage/preference.rs` and `legacy_key` in `state/migration.rs`: the body of a preference
and the text of a composite key.  A body is unwrapped exactly where it was wrapped.  The
parts of a key are escaped one by one, so that the separators of the text are those
between them; a text over the limit is replaced by its digest behind a `~`, which no
escaped text begins with.
-/
import TinyConnectors.Migration.PreferenceRecord

/-! ## Bodies -/

/-- A value that is stored under the reserved field. -/
def Wrapped (value : Json) : Prop :=
  ∀ fields, value = .obj fields → Json.containsKey NON_OBJECT_FIELD fields = true

theorem encodePreference_of_wrapped {value : Json} (h : Wrapped value) :
    encodePreference value = .obj [(NON_OBJECT_FIELD, value)] := by
  cases value with
  | obj fields => rw [encodePreference, if_pos (h fields rfl)]
  | _ => rfl

theorem encodePreference_of_not_wrapped {value : Json} (h : ¬ Wrapped value) :
    encodePreference value = value := by
  cases value with
  | obj fields =>
    have hfield : ¬ Json.containsKey NON_OBJECT_FIELD fields = true := by
      intro hfield
      apply h
      rintro other heq
      rw [← Json.obj.inj heq]
      exact hfield
    rw [encodePreference, if_neg hfield]
  | _ =>
    exfalso
    apply h
    rintro fields heq
    cases heq

/-- Bodies and preferences correspond. -/
structure LosesNothing : Prop where
  object : ∀ value, ∃ fields, encodePreference value = .obj fields
  decoded : ∀ value, decodePreference (encodePreference value) = value
  encoded : ∀ body, (∃ value, encodePreference value = body) →
    encodePreference (decodePreference body) = body

/-- The encoder wraps exactly what the decoder unwraps. -/
theorem losesNothing : LosesNothing := by
  constructor
  · intro value
    by_cases h : Wrapped value
    · exact ⟨_, encodePreference_of_wrapped h⟩
    · cases value with
      | obj fields => exact ⟨fields, encodePreference_of_not_wrapped h⟩
      | _ => exact ⟨_, rfl⟩
  · exact decodePreference_encodePreference
  · rintro body ⟨value, rfl⟩
    rw [decodePreference_encodePreference]

example : decodePreference (encodePreference (.obj [(NON_OBJECT_FIELD, .null)])) =
    .obj [(NON_OBJECT_FIELD, .null)] := by decide

/-! ## The texts of keys -/

/-- The text of a key, before `Key::new` looks at it. -/
def keyText (port : KeyPort) (parts : List String) : String := boundedId port (escapeParts parts)

theorem legacyKey_eq_ok_iff {port : KeyPort} {parts : List String} {id : String} :
    legacyKey port parts = .ok id ↔
      parts ≠ [] ∧ keyText port parts = id ∧ port.refusal id = none := by
  unfold legacyKey keyText
  by_cases hparts : parts = []
  · rw [if_pos hparts]
    constructor
    · intro h
      cases h
    · intro h
      exact absurd hparts h.1
  · rw [if_neg hparts]
    dsimp only
    constructor
    · intro h
      cases hrefusal : port.refusal (boundedId port (escapeParts parts)) with
      | some error =>
        rw [hrefusal] at h
        cases h
      | none =>
        rw [hrefusal] at h
        cases h
        exact ⟨hparts, rfl, hrefusal⟩
    · rintro ⟨-, rfl, hrefusal⟩
      rw [hrefusal]

/-! The escape of a part has no separator in it, and no NUL. -/

theorem not_mem_escapeChar (c : Char) : '/' ∉ escapeChar c ∧ '\x00' ∉ escapeChar c := by
  unfold escapeChar
  split_ifs with hpercent hslash hnul
  · decide
  · decide
  · decide
  · rw [List.mem_singleton, List.mem_singleton]
    exact ⟨fun h => hslash h.symm, fun h => hnul h.symm⟩

theorem not_mem_flatMap_escapeChar (l : List Char) :
    '/' ∉ l.flatMap escapeChar ∧ '\x00' ∉ l.flatMap escapeChar := by
  constructor
  · intro hmem
    obtain ⟨c, -, hc⟩ := List.mem_flatMap.mp hmem
    exact (not_mem_escapeChar c).1 hc
  · intro hmem
    obtain ⟨c, -, hc⟩ := List.mem_flatMap.mp hmem
    exact (not_mem_escapeChar c).2 hc

theorem not_mem_escapeFirst (l : List Char) : '/' ∉ escapeFirst l ∧ '\x00' ∉ escapeFirst l := by
  cases l with
  | nil => exact ⟨List.not_mem_nil, List.not_mem_nil⟩
  | cons c l =>
    have hhead : '/' ∉ (if c = '~' then ['%', '7', 'E'] else escapeChar c) ∧
        '\x00' ∉ (if c = '~' then ['%', '7', 'E'] else escapeChar c) := by
      split_ifs
      · decide
      · exact not_mem_escapeChar c
    rw [escapeFirst, List.mem_append, List.mem_append, not_or, not_or]
    exact ⟨⟨hhead.1, (not_mem_flatMap_escapeChar l).1⟩, hhead.2, (not_mem_flatMap_escapeChar l).2⟩

/-- The text of the parts after the first. -/
def escapeRest (parts : List String) : List Char :=
  parts.flatMap fun part => '/' :: part.toList.flatMap escapeChar

theorem escapeRest_cons (part : String) (parts : List String) :
    escapeRest (part :: parts) = '/' :: (part.toList.flatMap escapeChar ++ escapeRest parts) := rfl

theorem escapeParts_cons (part : String) (parts : List String) :
    escapeParts (part :: parts) = escapeFirst part.toList ++ escapeRest parts := rfl

/-- What stands before the first separator is the first part. -/
theorem escapeRest_cancel {a b : List Char} (ha : '/' ∉ a) (hb : '/' ∉ b) {ps qs : List String}
    (h : a ++ escapeRest ps = b ++ escapeRest qs) : a = b ∧ escapeRest ps = escapeRest qs := by
  have hstop : ∀ {l : List Char}, '/' ∉ l → ∀ parts,
      (l ++ escapeRest parts).takeWhile (· != '/') = l := by
    intro l hl parts
    have hall : ∀ c ∈ l, (c != '/') = true := by
      intro c hc
      rw [bne_iff_ne]
      rintro rfl
      exact hl hc
    rw [List.takeWhile_append_of_pos hall]
    cases parts with
    | nil => exact List.append_nil l
    | cons part parts =>
      rw [escapeRest_cons, List.takeWhile_cons, if_neg (by decide), List.append_nil]
  have hfirst : a = b := by
    rw [← hstop ha ps, h, hstop hb qs]
  rw [hfirst] at h
  exact ⟨hfirst, List.append_cancel_left h⟩

theorem escapeRest_injective : Function.Injective escapeRest := by
  intro ps
  induction ps with
  | nil =>
    intro qs h
    cases qs with
    | nil => rfl
    | cons q qs => cases h
  | cons p ps ih =>
    intro qs h
    cases qs with
    | nil => cases h
    | cons q qs =>
      rw [escapeRest_cons, escapeRest_cons, List.cons_inj_right] at h
      obtain ⟨hpart, hrest⟩ := escapeRest_cancel (not_mem_flatMap_escapeChar p.toList).1
        (not_mem_flatMap_escapeChar q.toList).1 h
      have hback := congrArg unescape hpart
      rw [unescape_flatMap_escapeChar, unescape_flatMap_escapeChar] at hback
      rw [String.toList_injective hback, ih hrest]

/-- The parts of a key can be read off its escaped text. -/
theorem escapeParts_inj {ps qs : List String} (hps : ps ≠ []) (hqs : qs ≠ [])
    (h : escapeParts ps = escapeParts qs) : ps = qs := by
  obtain ⟨p, ps, rfl⟩ := List.exists_cons_of_ne_nil hps
  obtain ⟨q, qs, rfl⟩ := List.exists_cons_of_ne_nil hqs
  rw [escapeParts_cons, escapeParts_cons] at h
  obtain ⟨hpart, hrest⟩ := escapeRest_cancel (not_mem_escapeFirst p.toList).1
    (not_mem_escapeFirst q.toList).1 h
  have hback := congrArg unescape hpart
  rw [unescape_escapeFirst, unescape_escapeFirst] at hback
  rw [String.toList_injective hback, escapeRest_injective hrest]

theorem head_escapeParts (parts : List String) : (escapeParts parts).head? ≠ some '~' := by
  cases parts with
  | nil => exact nofun
  | cons part parts =>
    rw [escapeParts_cons]
    cases hfirst : escapeFirst part.toList with
    | nil =>
      rw [List.nil_append]
      cases parts with
      | nil => exact nofun
      | cons other parts =>
        rw [escapeRest_cons, List.head?_cons]
        decide
    | cons c l =>
      rw [List.cons_append, List.head?_cons, ← List.head?_cons (l := l), ← hfirst]
      exact head_escapeFirst part.toList

theorem nul_not_mem_escapeParts (parts : List String) : '\x00' ∉ escapeParts parts := by
  cases parts with
  | nil => exact List.not_mem_nil
  | cons part parts =>
    rw [escapeParts_cons, List.mem_append, not_or]
    refine ⟨(not_mem_escapeFirst part.toList).2, ?_⟩
    intro hmem
    obtain ⟨other, -, hother⟩ := List.mem_flatMap.mp hmem
    rcases List.mem_cons.mp hother with h | h
    · cases h
    · exact (not_mem_flatMap_escapeChar other.toList).2 h

/-! ## Collisions -/

/-- The key is stored under a digest. -/
def Hashed (parts : List String) : Prop := MAX_ID_LEN < byteLen (escapeParts parts)

instance (parts : List String) : Decidable (Hashed parts) :=
  inferInstanceAs (Decidable (MAX_ID_LEN < _))

/-- What a digest is written with: base32 in lower case. -/
def BASE32 : List Char := "abcdefghijklmnopqrstuvwxyz234567".toList

/-- What the digests are taken to be for the keys of a store: 52 characters of base32, of
which no two of the keys' long texts share one. -/
structure KeyPort.Separates (port : KeyPort) (keys : Set (List String)) : Prop where
  length : port.DigestBounded
  alphabet : ∀ text, ∀ c ∈ (port.digest text).toList, c ∈ BASE32
  collisionFree : ∀ p ∈ keys, ∀ q ∈ keys, Hashed p → Hashed q →
    port.digest (String.ofList (escapeParts p)) = port.digest (String.ofList (escapeParts q)) →
      escapeParts p = escapeParts q

theorem toList_keyText (port : KeyPort) (parts : List String) :
    (keyText port parts).toList =
      if Hashed parts then '~' :: (port.digest (String.ofList (escapeParts parts))).toList
      else escapeParts parts := by
  unfold keyText boundedId
  by_cases h : MAX_ID_LEN < byteLen (escapeParts parts)
  · rw [if_pos h, if_pos (show Hashed parts from h), String.toList_append]
    rfl
  · rw [if_neg h, if_neg (show ¬ Hashed parts from h), String.toList_ofList]

/-- A digest is announced by a character that no escaped text begins with. -/
theorem keyText_ne_of_hashed (port : KeyPort) {p q : List String} (hp : ¬ Hashed p)
    (hq : Hashed q) : keyText port p ≠ keyText port q := by
  intro h
  have hlist := congrArg String.toList h
  rw [toList_keyText, toList_keyText, if_neg hp, if_pos hq] at hlist
  apply head_escapeParts p
  rw [hlist, List.head?_cons]

theorem keyText_inj {port : KeyPort} {keys : Set (List String)} (h : port.Separates keys)
    {p q : List String} (hp : p ∈ keys) (hq : q ∈ keys) (hps : p ≠ []) (hqs : q ≠ [])
    (heq : keyText port p = keyText port q) : p = q := by
  apply escapeParts_inj hps hqs
  by_cases hlong : Hashed p <;> by_cases hlong' : Hashed q
  · have hlist := congrArg String.toList heq
    rw [toList_keyText, toList_keyText, if_pos hlong, if_pos hlong', List.cons_inj_right] at hlist
    exact h.collisionFree p hp q hq hlong hlong' (String.toList_injective hlist)
  · exact absurd heq.symm (keyText_ne_of_hashed port hlong' hlong)
  · exact absurd heq (keyText_ne_of_hashed port hlong hlong')
  · have hlist := congrArg String.toList heq
    rw [toList_keyText, toList_keyText, if_neg hlong, if_neg hlong'] at hlist
    exact hlist

theorem byteLen_keyText {port : KeyPort} (hdigest : port.DigestBounded) (parts : List String) :
    byteLen (keyText port parts).toList ≤ MAX_ID_LEN := by
  rw [toList_keyText]
  by_cases h : Hashed parts
  · have hbound := hdigest (String.ofList (escapeParts parts))
    have htilde : byteLen ['~'] = 1 := by decide
    rw [if_pos h, ← List.singleton_append, byteLen_append, htilde, hbound]
    decide
  · rw [if_neg h]
    exact not_lt.mp h

theorem nul_not_mem_keyText {port : KeyPort}
    (halphabet : ∀ text, ∀ c ∈ (port.digest text).toList, c ∈ BASE32) (parts : List String) :
    '\x00' ∉ (keyText port parts).toList := by
  rw [toList_keyText]
  split_ifs with h
  · rw [List.mem_cons, not_or]
    refine ⟨by decide, ?_⟩
    intro hmem
    exact absurd (halphabet _ _ hmem) (by decide)
  · exact nul_not_mem_escapeParts parts

/-- The keys of a store keep apart. -/
structure DistinctKeys (port : KeyPort) (keys : Set (List String)) : Prop where
  produced : ∀ p id, legacyKey port p = .ok id → p ≠ [] ∧ keyText port p = id
  distinct : ∀ p ∈ keys, ∀ q ∈ keys, p ≠ [] → q ≠ [] → keyText port p = keyText port q → p = q
  bounded : ∀ p, byteLen (keyText port p).toList ≤ 512
  nulFree : ∀ p, '\x00' ∉ (keyText port p).toList
  formsApart : ∀ p q, ¬ Hashed p → Hashed q → keyText port p ≠ keyText port q

/-- Under a digest that separates the keys at hand, no two keys share a text, and a text
has at most 512 bytes. -/
theorem distinctKeys {port : KeyPort} {keys : Set (List String)} (h : port.Separates keys) :
    DistinctKeys port keys := by
  constructor
  · intro p id hid
    obtain ⟨hp, htext, -⟩ := legacyKey_eq_ok_iff.mp hid
    exact ⟨hp, htext⟩
  · intro p hp q hq hps hqs heq
    exact keyText_inj h hp hq hps hqs heq
  · exact byteLen_keyText h.length
  · exact nul_not_mem_keyText h.alphabet
  · intro p q hp hq
    exact keyText_ne_of_hashed port hp hq

/-- Two keys that differ in where one part ends. -/
def splitKeys : Set (List String) := { p | p = ["a/b"] ∨ p = ["a", "b"] }

theorem shortKeyPort_separates : shortKeyPort.Separates splitKeys := by
  constructor
  · exact shortKeyPort_digestBounded
  · intro text c hc
    have hchar : c = 'a' := by
      apply List.eq_of_mem_replicate (n := 52)
      rw [← String.toList_ofList (l := List.replicate 52 'a')]
      exact hc
    rw [hchar]
    decide
  · rintro p hp q - hlong -
    -- neither text is long enough to be hashed
    exfalso
    rcases hp with rfl | rfl
    · exact absurd hlong (by decide)
    · exact absurd hlong (by decide)

/-- `a/b` and `a`, `b` have different texts. -/
theorem distinctKeys_split : DistinctKeys shortKeyPort splitKeys :=
  distinctKeys shortKeyPort_separates
