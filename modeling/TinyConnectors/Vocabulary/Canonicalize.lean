/-
# Canonical identifiers

`canonicalize` and `normalize_connection_identifier` in `vocabulary/profile.rs`.  A value
that has been canonicalised is its own canonical form, with one exception: a handle keeps
the white space that stands behind its `@`, and loses it the second time.
-/
import TinyConnectors.Words
import TinyConnectors.Lowercase

open RustStr

/-! ## The canonical forms -/

/-- The kinds of identifier that are stored for an identity. -/
inductive IdentityKind where
  | userId
  | email
  | handle
  | phone
  | displayName
  | avatarUrl
  | profileUrl
  deriving DecidableEq, Repr

/-- The canonical value of a trimmed text, before it is known not to be empty. -/
def canonicalValue (table : Lowercase) (kind : IdentityKind) (trimmed : String) : String :=
  match kind with
  | .email => table.toLowercase trimmed
  | .handle => table.toLowercase (trimStartMatches trimmed '@')
  | .phone => String.ofList (trimmed.toList.filter fun c => c.isDigit || c == '+')
  | .displayName => joinWords trimmed
  | .userId | .avatarUrl | .profileUrl => trimmed

/-- Canonicalize a raw identifier for storage and lookup. -/
def canonicalize (table : Lowercase) (kind : IdentityKind) (raw : String) : Option String :=
  let trimmed := trim raw
  if trimmed = "" ∨ (kind = .phone ∧ ¬ trimmed.toList.any Char.isDigit = true) then none
  else
    let value := canonicalValue table kind trimmed
    if value = "" then none else some value

/-- Lower-cases, and replaces what is no letter, digit, `-` or `_`. -/
def normalizeChar (ch : Char) : Char :=
  let lower := ch.toLower
  if lower.isAlphanum || lower == '-' || lower == '_' then lower else '_'

/-- `str::trim_matches` with a character pattern. -/
def trimMatches (l : List Char) (c : Char) : List Char :=
  (l.dropWhile (· == c)).rdropWhile (· == c)

/-- The form facet keys are stored under. -/
def normalizeConnectionIdentifier (raw : String) : String :=
  String.ofList (trimMatches (raw.toList.map normalizeChar) '_')

/-! ## Normalising twice -/

theorem normalizeChar_normalizeChar (ch : Char) :
    normalizeChar (normalizeChar ch) = normalizeChar ch := by
  by_cases h : (ch.toLower.isAlphanum || ch.toLower == '-' || ch.toLower == '_') = true
  · have hkept : normalizeChar ch = ch.toLower := if_pos h
    rw [hkept]
    show (if (ch.toLower.toLower.isAlphanum || ch.toLower.toLower == '-' ||
      ch.toLower.toLower == '_') = true then ch.toLower.toLower else '_') = ch.toLower
    rw [Char.toLower_toLower_eq_toLower, if_pos h]
  · have hreplaced : normalizeChar ch = '_' := if_neg h
    rw [hreplaced]
    decide

/-- The end that is cut off leaves the first character where it is. -/
theorem dropWhile_rdropWhile {p : Char → Bool} {m : List Char} (h : m.dropWhile p = m) :
    (m.rdropWhile p).dropWhile p = m.rdropWhile p := by
  obtain ⟨rest, hrest⟩ := List.rdropWhile_prefix p m
  cases hcut : m.rdropWhile p with
  | nil => rfl
  | cons d cut =>
    rw [hcut] at hrest
    rw [List.dropWhile_cons, if_neg]
    intro hd
    rw [← hrest, List.cons_append, List.dropWhile_cons, if_pos hd] at h
    have hlen := (List.dropWhile_suffix p (l := cut ++ rest)).length_le
    rw [h, List.length_cons] at hlen
    omega

theorem trimMatches_trimMatches (l : List Char) (c : Char) :
    trimMatches (trimMatches l c) c = trimMatches l c := by
  have hfront : (trimMatches l c).dropWhile (· == c) = trimMatches l c :=
    dropWhile_rdropWhile (List.dropWhile_idempotent _ l)
  rw [trimMatches, hfront]
  exact List.rdropWhile_idempotent _ _

theorem normalizeConnectionIdentifier_idempotent (raw : String) :
    normalizeConnectionIdentifier (normalizeConnectionIdentifier raw) =
      normalizeConnectionIdentifier raw := by
  unfold normalizeConnectionIdentifier
  rw [String.toList_ofList]
  have hkept : (trimMatches (raw.toList.map normalizeChar) '_').map normalizeChar =
      trimMatches (raw.toList.map normalizeChar) '_' := by
    refine (List.map_congr_left ?_).trans (List.map_id _)
    intro c hc
    have hmem : c ∈ raw.toList.map normalizeChar := by
      apply (List.dropWhile_suffix (· == '_')).subset
      exact (List.rdropWhile_prefix (· == '_') _).subset hc
    obtain ⟨ch, -, rfl⟩ := List.mem_map.mp hmem
    exact normalizeChar_normalizeChar ch
  rw [hkept, trimMatches_trimMatches]

/-! ## Canonicalising twice -/

variable {table : Lowercase} {kind : IdentityKind} {raw y : String}

/-- A text that is accepted: something other than white space, and a digit in a phone number. -/
def Accepted (kind : IdentityKind) (trimmed : String) : Prop :=
  trimmed ≠ "" ∧ (kind = .phone → trimmed.toList.any Char.isDigit = true)

theorem canonicalize_eq_some_iff : canonicalize table kind raw = some y ↔
    Accepted kind (trim raw) ∧ canonicalValue table kind (trim raw) = y ∧ y ≠ "" := by
  unfold canonicalize Accepted
  dsimp only
  by_cases hrefused : trim raw = "" ∨ (kind = .phone ∧ ¬ (trim raw).toList.any Char.isDigit = true)
  · rw [if_pos hrefused]
    refine iff_of_false nofun ?_
    rintro ⟨⟨hne, hdigit⟩, -⟩
    rcases hrefused with h | ⟨hphone, h⟩
    · exact hne h
    · exact h (hdigit hphone)
  · rw [if_neg hrefused]
    push Not at hrefused
    by_cases hempty : canonicalValue table kind (trim raw) = ""
    · rw [if_pos hempty]
      refine iff_of_false nofun ?_
      rintro ⟨-, rfl, hne⟩
      exact hne hempty
    · rw [if_neg hempty, Option.some_inj]
      constructor
      · rintro rfl
        exact ⟨hrefused, rfl, hempty⟩
      · rintro ⟨-, h, -⟩
        exact h

/-- A value that is its own canonical form. -/
theorem canonicalize_self (haccepted : Accepted kind y) (htrim : trim y = y)
    (hvalue : canonicalValue table kind y = y) : canonicalize table kind y = some y := by
  rw [canonicalize_eq_some_iff, htrim]
  exact ⟨haccepted, hvalue, haccepted.1⟩

theorem toList_trimStartMatches (s : String) (c : Char) :
    (trimStartMatches s c).toList = s.toList.dropWhile (· == c) := by
  unfold trimStartMatches
  rw [String.toList_ofList]

/-- Only the `@` becomes an `@`. -/
theorem head_toLowercase_ne_at {s : String} (h : s.toList.head? ≠ some '@') :
    (table.toLowercase s).toList.head? ≠ some '@' := by
  unfold Lowercase.toLowercase
  rw [String.toList_ofList]
  cases hs : s.toList with
  | nil => exact nofun
  | cons c after =>
    intro hat
    have hmem := Lowercase.head?_lowerFrom hat
    have hc := Lowercase.eq_of_mem_lowerAt hmem (by decide) (by decide)
    rw [hs, List.head?_cons, hc] at h
    exact h rfl

theorem trimStartMatches_eq_self {s : String} {c : Char} (h : s.toList.head? ≠ some c) :
    trimStartMatches s c = s := by
  apply String.toList_injective
  rw [toList_trimStartMatches]
  cases hs : s.toList with
  | nil => rfl
  | cons d rest =>
    rw [hs, List.head?_cons] at h
    rw [List.dropWhile_cons, if_neg]
    rw [beq_iff_eq]
    rintro rfl
    exact h rfl

theorem head_trimStartMatches_ne (s : String) (c : Char) :
    (trimStartMatches s c).toList.head? ≠ some c := by
  rw [toList_trimStartMatches]
  intro h
  have hne : s.toList.dropWhile (· == c) ≠ [] := by
    intro hnil
    rw [hnil] at h
    cases h
  have hhead := List.head_dropWhile_not (· == c) hne
  rw [List.head?_eq_some_head hne] at h
  rw [Option.some_inj.mp h, beq_self_eq_true] at hhead
  cases hhead

/-- White space stands behind the `@`s that a text begins with. -/
def BlankAfterAt (raw : String) : Prop :=
  ∃ n c rest, (trim raw).toList = List.replicate n '@' ++ c :: rest ∧ isWhitespace c = true

theorem blankAfterAt_iff : BlankAfterAt raw ↔
    ∃ c rest, (trimStartMatches (trim raw) '@').toList = c :: rest ∧ isWhitespace c = true := by
  rw [toList_trimStartMatches]
  constructor
  · rintro ⟨n, c, rest, hraw, hwhite⟩
    refine ⟨c, rest, ?_, hwhite⟩
    have hat : ¬ (c == '@') = true := by
      rw [beq_iff_eq]
      rintro rfl
      exact absurd hwhite (by decide)
    rw [hraw, List.dropWhile_append_of_pos, List.dropWhile_cons, if_neg hat]
    intro d hd
    rw [List.eq_of_mem_replicate hd]
    rfl
  · rintro ⟨c, rest, hraw, hwhite⟩
    refine ⟨((trim raw).toList.takeWhile (· == '@')).length, c, rest, ?_, hwhite⟩
    have hats : (trim raw).toList.takeWhile (· == '@') =
        List.replicate ((trim raw).toList.takeWhile (· == '@')).length '@' := by
      apply List.eq_replicate_of_mem
      intro d hd
      have hsame := List.mem_takeWhile_imp hd
      exact beq_iff_eq.mp hsame
    rw [← hats, ← hraw, List.takeWhile_append_dropWhile]

/-- A suffix of a trimmed text is trimmed unless it begins with white space. -/
theorem trim_trimStartMatches {trimmed : String} (htrim : trim trimmed = trimmed)
    (hhead : ∀ c rest, (trimStartMatches trimmed '@').toList = c :: rest → isWhitespace c = false) :
    trim (trimStartMatches trimmed '@') = trimStartMatches trimmed '@' := by
  have hends : Unpadded trimmed.toList := by
    rw [← htrim, toList_trim]
    exact unpadded_trimChars _
  apply String.toList_injective
  rw [toList_trim]
  apply trimChars_eq_self
  constructor
  · intro hne
    exact hhead _ _ (List.cons_head_tail hne).symm
  · intro hne
    obtain ⟨before, hbefore⟩ := List.dropWhile_suffix (· == '@') (l := trimmed.toList)
    have hwhole : trimmed.toList ≠ [] := by
      intro hnil
      rw [toList_trimStartMatches, hnil] at hne
      exact hne rfl
    have hsame : (trimStartMatches trimmed '@').toList.getLast hne =
        trimmed.toList.getLast hwhole := by
      rw [← Option.some_inj, ← List.getLast?_eq_some_getLast hne,
        ← List.getLast?_eq_some_getLast hwhole, ← hbefore, toList_trimStartMatches]
      rw [toList_trimStartMatches] at hne
      rw [List.getLast?_append_of_ne_nil _ hne]
    rw [hsame]
    exact hends.2 hwhole

/-- What is kept of a phone number is no white space. -/
theorem unpadded_phone (l : List Char) : Unpadded (l.filter fun c => c.isDigit || c == '+') := by
  apply unpadded_of_forall
  intro c hc
  have hkept := List.of_mem_filter hc
  rw [Bool.or_eq_true, beq_iff_eq] at hkept
  rcases hkept with hkept | rfl
  · exact isWhitespace_of_isDigit hkept
  · decide

/-- Every kind but the handle, and a handle without a blank behind its `@`. -/
theorem canonicalize_of_some (hblank : kind = .handle → ¬ BlankAfterAt raw)
    (h : canonicalize table kind raw = some y) :
    trim y ≠ "" ∧ canonicalize table kind y = some y := by
  obtain ⟨⟨hne, hdigit⟩, hvalue, hy⟩ := canonicalize_eq_some_iff.mp h
  have htrimmed : trim (trim raw) = trim raw := trim_trim raw
  suffices hself : trim y = y ∧ canonicalValue table kind y = y ∧
      (kind = .phone → y.toList.any Char.isDigit = true) by
    obtain ⟨htrim, hfixed, hdigit'⟩ := hself
    rw [htrim]
    exact ⟨hy, canonicalize_self ⟨hy, hdigit'⟩ htrim hfixed⟩
  cases kind with
  | userId | avatarUrl | profileUrl =>
    -- these are kept as they are
    obtain rfl : trim raw = y := hvalue
    exact ⟨htrimmed, rfl, nofun⟩
  | email =>
    obtain rfl : table.toLowercase (trim raw) = y := hvalue
    exact ⟨Lowercase.trim_toLowercase htrimmed, Lowercase.toLowercase_toLowercase _, nofun⟩
  | displayName =>
    obtain rfl : joinWords (trim raw) = y := hvalue
    exact ⟨trim_joinWords _, joinWords_joinWords _, nofun⟩
  | phone =>
    obtain rfl : String.ofList ((trim raw).toList.filter fun c => c.isDigit || c == '+') = y :=
      hvalue
    refine ⟨?_, ?_, ?_⟩
    · apply String.toList_injective
      rw [toList_trim, String.toList_ofList]
      exact trimChars_eq_self (unpadded_phone _)
    · unfold canonicalValue
      rw [String.toList_ofList, List.filter_filter]
      simp only [Bool.and_self]
    · intro _
      obtain ⟨c, hc, hcdigit⟩ := List.any_eq_true.mp (hdigit rfl)
      rw [String.toList_ofList, List.any_eq_true]
      refine ⟨c, List.mem_filter.mpr ⟨hc, ?_⟩, hcdigit⟩
      rw [hcdigit, Bool.true_or]
  | handle =>
    -- the `@` is taken off behind the trimming, so white space may come to stand in front
    obtain rfl : table.toLowercase (trimStartMatches (trim raw) '@') = y := hvalue
    have hhead : ∀ c rest, (trimStartMatches (trim raw) '@').toList = c :: rest →
        isWhitespace c = false := by
      intro c rest hraw
      rw [← Bool.not_eq_true]
      intro hwhite
      exact hblank rfl (blankAfterAt_iff.mpr ⟨c, rest, hraw, hwhite⟩)
    refine ⟨Lowercase.trim_toLowercase (trim_trimStartMatches htrimmed hhead), ?_, nofun⟩
    unfold canonicalValue
    dsimp only
    rw [trimStartMatches_eq_self (head_toLowercase_ne_at (head_trimStartMatches_ne _ _)),
      Lowercase.toLowercase_toLowercase]

/-- A blank that the `@` hid is trimmed the second time. -/
theorem not_canonicalize_of_blankAfterAt (table : Lowercase) (h : BlankAfterAt raw) :
    ∃ y, canonicalize table .handle raw = some y ∧ canonicalize table .handle y ≠ some y := by
  obtain ⟨c, rest, hraw, hwhite⟩ := blankAfterAt_iff.mp h
  have hstripped : trimStartMatches (trim raw) '@' ≠ "" := by
    intro hempty
    rw [hempty] at hraw
    cases hraw
  have hne : trim raw ≠ "" := by
    intro hempty
    rw [hempty] at hstripped
    exact hstripped rfl
  have hvalue : table.toLowercase (trimStartMatches (trim raw) '@') ≠ "" := by
    rw [Ne, Lowercase.toLowercase_eq_empty_iff]
    exact hstripped
  refine ⟨table.toLowercase (trimStartMatches (trim raw) '@'), ?_, ?_⟩
  · rw [canonicalize_eq_some_iff]
    exact ⟨⟨hne, nofun⟩, rfl, hvalue⟩
  · intro hself
    obtain ⟨-, htwice, -⟩ := canonicalize_eq_some_iff.mp hself
    have hlist : (table.toLowercase (trimStartMatches (trim raw) '@')).toList =
        table.lowerFrom [] (c :: rest) := by
      unfold Lowercase.toLowercase
      rw [String.toList_ofList, hraw]
    obtain ⟨d, tail, hcons⟩ := List.exists_cons_of_ne_nil
      (show table.lowerFrom [] (c :: rest) ≠ [] by
        rw [Ne, Lowercase.lowerFrom_eq_nil_iff]
        exact List.cons_ne_nil c rest)
    have hd : isWhitespace d = true := by
      rw [Lowercase.isWhitespace_of_mem_lowerAt (Lowercase.head?_lowerFrom (by rw [hcons]; rfl))]
      exact hwhite
    -- the second value is as long as what is left of the trimmed first value at most
    have hsettled : ∀ x ∈ (trimStartMatches (trim
        (table.toLowercase (trimStartMatches (trim raw) '@'))) '@').toList, table.Settled x := by
      intro x hx
      rw [toList_trimStartMatches, toList_trim, hlist] at hx
      have hx' := (List.dropWhile_suffix _).subset hx
      have hx'' := (List.rdropWhile_prefix isWhitespace _).subset hx'
      exact Lowercase.settled_of_mem_lowerFrom ((List.dropWhile_suffix _).subset hx'')
    have hlen := congrArg (fun s => s.toList.length) htwice
    dsimp only [canonicalValue] at hlen
    rw [Lowercase.toLowercase, String.toList_ofList, Lowercase.lowerFrom_of_settled hsettled,
      toList_trimStartMatches, toList_trim, hlist, hcons, trimChars, List.dropWhile_cons,
      if_pos hd] at hlen
    have hfirst := (List.dropWhile_suffix (· == '@')
      (l := (tail.dropWhile isWhitespace).rdropWhile isWhitespace)).length_le
    have hsecond := (List.rdropWhile_prefix isWhitespace (tail.dropWhile isWhitespace)).length_le
    have hthird := (List.dropWhile_suffix isWhitespace (l := tail)).length_le
    rw [List.length_cons] at hlen
    omega

/-- Canonicalising a value that is canonical changes nothing, and no value is blank. -/
structure Projects (table : Lowercase) (kind : IdentityKind) (raw : String) : Prop where
  canonical : ∀ y, canonicalize table kind raw = some y →
    trim y ≠ "" ∧ canonicalize table kind y = some y
  identifier : normalizeConnectionIdentifier (normalizeConnectionIdentifier raw) =
    normalizeConnectionIdentifier raw

/-- Canonicalising is a projection, except on handles that are blank after their `@`. -/
theorem projects_iff (table : Lowercase) (kind : IdentityKind) (raw : String) :
    Projects table kind raw ↔ ¬ (kind = .handle ∧ BlankAfterAt raw) := by
  constructor
  · rintro h ⟨rfl, hblank⟩
    obtain ⟨y, hy, hself⟩ := not_canonicalize_of_blankAfterAt table hblank
    exact hself (h.canonical y hy).2
  · intro h
    refine ⟨?_, normalizeConnectionIdentifier_idempotent raw⟩
    intro y hy
    exact canonicalize_of_some (fun hkind hblank => h ⟨hkind, hblank⟩) hy

/-- The handle `@ Alice` keeps its space the first time and loses it the second. -/
theorem not_projects_blank_handle :
    ¬ ∀ (table : Lowercase) (kind : IdentityKind) (raw y : String),
      canonicalize table kind raw = some y → trim y ≠ "" ∧ canonicalize table kind y = some y := by
  intro h
  have hfirst : canonicalize (unicodeLowercase Char.isAlpha fun _ => false) .handle "@ Alice" =
      some " alice" := by decide +kernel
  have hsecond := (h _ _ _ _ hfirst).2
  exact absurd hsecond (by decide +kernel)
