/-
# Rust string slices

The `str` methods the connector code is written with, over Lean's `String`:
Unicode `trim`, the ASCII case maps, prefix and substring tests, `split`, and
the byte-indexed `get`.  Every operation is a function on the list of
characters, wrapped once, so that it both computes and has a short list of
algebraic laws: `trim` is idempotent and commutes with the case maps, the case
maps absorb each other, and equality up to ASCII case preserves padding.
-/
import Mathlib

namespace RustStr

/-! ## White space -/

/-- `char::is_whitespace`: the code points with the Unicode property `White_Space`. -/
def isWhitespace (c : Char) : Bool :=
  let n := c.toNat
  (9 ≤ n && n ≤ 13) || n == 0x20 || n == 0x85 || n == 0xA0 || n == 0x1680
    || (0x2000 ≤ n && n ≤ 0x200A) || n == 0x2028 || n == 0x2029 || n == 0x202F
    || n == 0x205F || n == 0x3000

/-- Drop the white space on both sides of a list of characters. -/
def trimChars (l : List Char) : List Char :=
  (l.dropWhile isWhitespace).rdropWhile isWhitespace

/-- `str::trim`. -/
def trim (s : String) : String := String.ofList (trimChars s.toList)

@[simp] theorem toList_trim (s : String) : (trim s).toList = trimChars s.toList := by
  simp [trim]

/-- A list with no white space at either end. -/
def Unpadded (l : List Char) : Prop :=
  (∀ hl : l ≠ [], isWhitespace (l.head hl) = false) ∧
    (∀ hl : l ≠ [], isWhitespace (l.getLast hl) = false)

theorem trimChars_eq_self {l : List Char} (h : Unpadded l) : trimChars l = l := by
  obtain ⟨hhead, hlast⟩ := h
  have hdrop : l.dropWhile isWhitespace = l := by
    cases l with
    | nil => rfl
    | cons c l =>
      have hc : isWhitespace c = false := hhead (List.cons_ne_nil c l)
      simp [hc]
  rw [trimChars, hdrop, List.rdropWhile_eq_self_iff]
  intro hl
  simp [hlast hl]

/-- A text without white space has none at its ends. -/
theorem unpadded_of_forall {l : List Char} (h : ∀ c ∈ l, isWhitespace c = false) : Unpadded l :=
  ⟨fun hl => h _ (List.head_mem hl), fun hl => h _ (List.getLast_mem hl)⟩

theorem isWhitespace_of_isDigit {c : Char} (h : c.isDigit = true) : isWhitespace c = false := by
  rw [Char.isDigit, Bool.and_eq_true, decide_eq_true_iff, decide_eq_true_iff] at h
  have hlow : 48 ≤ c.toNat := h.1
  have hhigh : c.toNat ≤ 57 := h.2
  simp [isWhitespace]
  omega

/-- `Unpadded`, computed from the two end characters. -/
def padFree (l : List Char) : Bool :=
  l.head?.all (fun c => !isWhitespace c) && l.getLast?.all (fun c => !isWhitespace c)

theorem unpadded_of_padFree {l : List Char} (h : padFree l = true) : Unpadded l := by
  rw [padFree, Bool.and_eq_true] at h
  obtain ⟨hhead, hlast⟩ := h
  constructor
  · intro hl
    rw [List.head?_eq_some_head hl] at hhead
    simpa using hhead
  · intro hl
    rw [List.getLast?_eq_some_getLast hl] at hlast
    simpa using hlast

/-- A literal with clean ends is its own trim.  Stated on `String.ofList`, which
a literal unifies with, so that no character of the literal is decoded. -/
theorem trim_ofList {l : List Char} (h : padFree l = true) :
    trim (String.ofList l) = String.ofList l := by
  rw [trim, String.toList_ofList, trimChars_eq_self (unpadded_of_padFree h)]

theorem unpadded_trimChars (l : List Char) : Unpadded (trimChars l) := by
  constructor
  · intro hl
    have hne : l.dropWhile isWhitespace ≠ [] := by
      intro heq
      simp [trimChars, heq] at hl
    -- `rdropWhile` keeps a prefix, so the head is the one `dropWhile` stopped at
    obtain ⟨t, ht⟩ := List.rdropWhile_prefix isWhitespace (l.dropWhile isWhitespace)
    have hhead : (trimChars l).head? = (l.dropWhile isWhitespace).head? := by
      conv_rhs => rw [← ht]
      rw [← trimChars, List.head?_append_of_ne_nil _ hl]
    rw [List.head?_eq_some_head hl, List.head?_eq_some_head hne, Option.some_inj] at hhead
    rw [hhead]
    exact List.head_dropWhile_not isWhitespace hne
  · intro hl
    have hlast := List.rdropWhile_last_not isWhitespace (l.dropWhile isWhitespace) hl
    exact Bool.eq_false_iff.mpr hlast

theorem mem_dropWhile_of_not {α : Type} {p : α → Bool} {c : α} (hc : p c = false) {l : List α} :
    c ∈ l.dropWhile p ↔ c ∈ l := by
  constructor
  · intro h
    exact (List.dropWhile_sublist p).subset h
  · intro h
    rw [← List.takeWhile_append_dropWhile (p := p) (l := l), List.mem_append] at h
    rcases h with h | h
    · rw [List.mem_takeWhile_imp h] at hc
      cases hc
    · exact h

/-- Trimming keeps what is not white space. -/
theorem mem_trimChars {c : Char} (hc : isWhitespace c = false) {l : List Char} :
    c ∈ trimChars l ↔ c ∈ l := by
  rw [trimChars, List.rdropWhile, List.mem_reverse, mem_dropWhile_of_not hc, List.mem_reverse,
    mem_dropWhile_of_not hc]

/-- Nothing is left of white space alone. -/
theorem trimChars_eq_nil_iff {l : List Char} :
    trimChars l = [] ↔ ∀ c ∈ l, isWhitespace c = true := by
  constructor
  · intro h
    rw [← List.dropWhile_eq_nil_iff]
    by_contra hne
    have hhead := List.head_dropWhile_not isWhitespace hne
    rw [trimChars, List.rdropWhile_eq_nil_iff] at h
    rw [h _ (List.head_mem hne)] at hhead
    cases hhead
  · intro h
    rw [trimChars, List.dropWhile_eq_nil_iff.mpr h]
    rfl

/-- Trimming twice is trimming once. -/
@[simp] theorem trimChars_trimChars (l : List Char) : trimChars (trimChars l) = trimChars l :=
  trimChars_eq_self (unpadded_trimChars l)

@[simp] theorem trim_trim (s : String) : trim (trim s) = trim s := by
  apply String.toList_injective
  simp

/-- Two clean texts make a clean text. -/
theorem Unpadded.append {l r : List Char} (hl : Unpadded l) (hr : Unpadded r) :
    Unpadded (l ++ r) := by
  by_cases hleft : l = []
  · rw [hleft, List.nil_append]
    exact hr
  by_cases hright : r = []
  · rw [hright, List.append_nil]
    exact hl
  constructor
  · intro hne
    rw [List.head_append_of_ne_nil hleft]
    exact hl.1 hleft
  · intro hne
    rw [List.getLast_append_of_ne_nil hne hright]
    exact hr.2 hright

/-- `str::to_ascii_uppercase`. -/
def toAsciiUppercase (s : String) : String := String.ofList (s.toList.map Char.toUpper)

/-- `str::to_ascii_lowercase`. -/
def toAsciiLowercase (s : String) : String := String.ofList (s.toList.map Char.toLower)

/-- `str::eq_ignore_ascii_case`. -/
def eqIgnoreAsciiCase (s t : String) : Bool :=
  toAsciiLowercase s == toAsciiLowercase t

@[simp] theorem toList_toAsciiUppercase (s : String) :
    (toAsciiUppercase s).toList = s.toList.map Char.toUpper := by
  simp [toAsciiUppercase]

@[simp] theorem toList_toAsciiLowercase (s : String) :
    (toAsciiLowercase s).toList = s.toList.map Char.toLower := by
  simp [toAsciiLowercase]

/-- What `Char.toUpper` does to a lower-case letter. -/
theorem toNat_toUpper {c : Char} (hc : c.isLower = true) :
    (97 ≤ c.toNat ∧ c.toNat ≤ 122) ∧ c.toUpper.toNat = c.toNat - 32 := by
  have hlt : 97 ≤ c.toNat ∧ c.toNat ≤ 122 := by
    simpa [Char.isLower, UInt32.le_iff_toNat_le] using hc
  refine ⟨hlt, ?_⟩
  rw [Char.toUpper_eq_of_isLower hc, Char.toNat_ofNat, if_pos]
  left
  omega

/-- Upper-casing neither makes nor removes a character that is no letter. -/
theorem toUpper_eq_iff {c d : Char} (hd : d.isAlpha = false) : c.toUpper = d ↔ c = d := by
  rw [Char.isAlpha, Bool.or_eq_false_iff] at hd
  by_cases hc : c.isLower
  · obtain ⟨hlt, hval⟩ := toNat_toUpper hc
    have hupper : c.toUpper.isUpper = true := by
      have hrange : 65 ≤ c.toUpper.toNat ∧ c.toUpper.toNat ≤ 90 := by omega
      simpa [Char.isUpper, UInt32.le_iff_toNat_le] using hrange
    refine iff_of_false ?_ ?_
    · rintro rfl
      rw [hupper] at hd
      cases hd.1
    · rintro rfl
      rw [hc] at hd
      cases hd.2
  · rw [Char.toUpper_eq_of_not_isLower hc]

theorem toLower_eq_iff {c d : Char} (hd : d.isAlpha = false) : c.toLower = d ↔ c = d := by
  rw [← toUpper_eq_iff hd, Char.toUpper_toLower_eq_toUpper, toUpper_eq_iff hd]

@[simp] theorem isWhitespace_toUpper (c : Char) :
    isWhitespace c.toUpper = isWhitespace c := by
  by_cases hc : c.isLower
  · obtain ⟨hlt, hval⟩ := toNat_toUpper hc
    simp only [isWhitespace, hval]
    grind
  · rw [Char.toUpper_eq_of_not_isLower hc]

@[simp] theorem isWhitespace_toLower (c : Char) :
    isWhitespace c.toLower = isWhitespace c := by
  rw [← isWhitespace_toUpper, Char.toUpper_toLower_eq_toUpper, isWhitespace_toUpper]

/-- A letter-by-letter map that keeps white space apart commutes with trimming. -/
theorem trimChars_map {f : Char → Char} (hf : ∀ c, isWhitespace (f c) = isWhitespace c)
    (l : List Char) : trimChars (l.map f) = (trimChars l).map f := by
  have hcomp : isWhitespace ∘ f = isWhitespace := funext hf
  simp only [trimChars, List.rdropWhile, List.dropWhile_map, ← List.map_reverse, hcomp]

theorem toAsciiUppercase_trim (s : String) :
    toAsciiUppercase (trim s) = trim (toAsciiUppercase s) := by
  apply String.toList_injective
  simp [trimChars_map isWhitespace_toUpper]

theorem toAsciiLowercase_trim (s : String) :
    toAsciiLowercase (trim s) = trim (toAsciiLowercase s) := by
  apply String.toList_injective
  simp [trimChars_map isWhitespace_toLower]

@[simp] theorem toAsciiLowercase_toAsciiLowercase (s : String) :
    toAsciiLowercase (toAsciiLowercase s) = toAsciiLowercase s := by
  apply String.toList_injective
  simp [Function.comp_def]

@[simp] theorem toAsciiUppercase_toAsciiUppercase (s : String) :
    toAsciiUppercase (toAsciiUppercase s) = toAsciiUppercase s := by
  apply String.toList_injective
  simp [Function.comp_def]

@[simp] theorem toAsciiUppercase_toAsciiLowercase (s : String) :
    toAsciiUppercase (toAsciiLowercase s) = toAsciiUppercase s := by
  apply String.toList_injective
  simp [Function.comp_def]

@[simp] theorem toAsciiLowercase_toAsciiUppercase (s : String) :
    toAsciiLowercase (toAsciiUppercase s) = toAsciiLowercase s := by
  apply String.toList_injective
  simp [Function.comp_def]

theorem eqIgnoreAsciiCase_iff {s t : String} :
    eqIgnoreAsciiCase s t = true ↔ toAsciiLowercase s = toAsciiLowercase t := by
  simp [eqIgnoreAsciiCase]

/-- Padding is visible to a comparison up to ASCII case: what equals an unpadded
string is unpadded itself. -/
theorem trim_eq_of_eqIgnoreAsciiCase {s t : String} (h : eqIgnoreAsciiCase s t = true)
    (hs : trim s = s) : trim t = t := by
  rw [eqIgnoreAsciiCase_iff] at h
  have hlower : trimChars (t.toList.map Char.toLower) = t.toList.map Char.toLower := by
    have hpad : toAsciiLowercase (trim s) = trim (toAsciiLowercase s) := toAsciiLowercase_trim s
    rw [hs, h] at hpad
    simpa using (congrArg String.toList hpad).symm
  rw [trimChars_map isWhitespace_toLower] at hlower
  have hlen : (trimChars t.toList).length = t.toList.length := by
    simpa using congrArg List.length hlower
  have hinfix : trimChars t.toList <:+: t.toList :=
    (List.rdropWhile_prefix isWhitespace _).isInfix.trans
      (List.dropWhile_suffix isWhitespace).isInfix
  apply String.toList_injective
  rw [toList_trim]
  exact hinfix.eq_of_length hlen

/-! ## Searching and splitting -/

/-- `str::starts_with`. -/
def startsWith (s p : String) : Bool := p.toList.isPrefixOf s.toList

theorem startsWith_iff {s p : String} :
    startsWith s p = true ↔ ∃ rest, s.toList = p.toList ++ rest := by
  rw [startsWith, List.isPrefixOf_iff_prefix]
  constructor
  · rintro ⟨rest, h⟩
    exact ⟨rest, h.symm⟩
  · rintro ⟨rest, h⟩
    exact ⟨rest, h.symm⟩

/-- Of two prefixes of one string, one is a prefix of the other. -/
theorem startsWith_or_startsWith {s p q : String} (hp : startsWith s p = true)
    (hq : startsWith s q = true) : startsWith p q = true ∨ startsWith q p = true := by
  simp only [startsWith, List.isPrefixOf_iff_prefix] at *
  exact (List.prefix_or_prefix_of_prefix hp hq).symm

theorem startsWith_toAsciiUppercase {s p : String} (h : startsWith s p = true) :
    startsWith (toAsciiUppercase s) (toAsciiUppercase p) = true := by
  obtain ⟨rest, hrest⟩ := startsWith_iff.mp h
  refine startsWith_iff.mpr ⟨rest.map Char.toUpper, ?_⟩
  rw [toList_toAsciiUppercase, toList_toAsciiUppercase, hrest, List.map_append]

theorem startsWith_toAsciiLowercase {s p : String} (h : startsWith s p = true) :
    startsWith (toAsciiLowercase s) (toAsciiLowercase p) = true := by
  obtain ⟨rest, hrest⟩ := startsWith_iff.mp h
  refine startsWith_iff.mpr ⟨rest.map Char.toLower, ?_⟩
  rw [toList_toAsciiLowercase, toList_toAsciiLowercase, hrest, List.map_append]

/-- `str::strip_prefix`. -/
def stripPrefix (s p : String) : Option String :=
  if startsWith s p then some (String.ofList (s.toList.drop p.toList.length)) else none

theorem stripPrefix_eq_some_iff {s p rest : String} :
    stripPrefix s p = some rest ↔ s = p ++ rest := by
  unfold stripPrefix
  constructor
  · intro h
    split_ifs at h with hstarts
    obtain ⟨tail, htail⟩ := startsWith_iff.mp hstarts
    rw [← Option.some_inj.mp h]
    apply String.toList_injective
    rw [String.toList_append, String.toList_ofList, htail, List.drop_left]
  · rintro rfl
    rw [if_pos (startsWith_iff.mpr ⟨rest.toList, String.toList_append⟩), String.toList_append,
      List.drop_left, String.ofList_toList]

/-- Trimming keeps a prefix with clean ends. -/
theorem startsWith_trim {s p : String} (hclean : padFree p.toList = true) (hne : p.toList ≠ [])
    (h : startsWith s p = true) : startsWith (trim s) p = true := by
  obtain ⟨rest, hrest⟩ := startsWith_iff.mp h
  obtain ⟨hhead, hlast⟩ := unpadded_of_padFree hclean
  have hdrop : (p.toList ++ rest).dropWhile isWhitespace = p.toList ++ rest := by
    rw [List.dropWhile_eq_self_iff]
    intro hlen
    simpa [List.getElem_zero, List.head_append, hne] using hhead hne
  refine startsWith_iff.mpr ⟨rest.rdropWhile isWhitespace, ?_⟩
  rw [toList_trim, hrest, trimChars, hdrop]
  have hback : p.toList.rdropWhile isWhitespace = p.toList := by
    rw [List.rdropWhile_eq_self_iff]
    intro hl
    simp [hlast hl]
  simp only [List.rdropWhile, List.reverse_append, List.dropWhile_append] at hback ⊢
  split_ifs with hall
  · rw [List.isEmpty_iff] at hall
    rw [hback, hall, List.reverse_nil, List.append_nil]
  · rw [List.reverse_append, List.reverse_reverse]

/-- Whether `w` occurs somewhere in a list of characters. -/
def containsChars (w : List Char) : List Char → Bool
  | [] => w.isEmpty
  | c :: l => w.isPrefixOf (c :: l) || containsChars w l

/-- `str::contains` with a string pattern. -/
def contains (s w : String) : Bool := containsChars w.toList s.toList

/-- `str::split(c).next()`, which is always present. -/
def splitFirst (s : String) (c : Char) : String :=
  String.ofList (s.toList.takeWhile (· != c))

/-- Upper-casing neither makes nor removes a `_`. -/
theorem toUpper_eq_underscore (c : Char) : c.toUpper = '_' ↔ c = '_' :=
  toUpper_eq_iff (by decide)

theorem takeWhile_map_toUpper (l : List Char) :
    (l.map Char.toUpper).takeWhile (· != '_') = (l.takeWhile (· != '_')).map Char.toUpper := by
  have hcomp : ((· != '_') : Char → Bool) ∘ Char.toUpper = (· != '_') := by
    funext c
    rw [Bool.eq_iff_iff]
    simp [toUpper_eq_underscore]
  rw [List.takeWhile_map, hcomp]

/-- A prefix that reaches past the first `_` determines the first segment. -/
theorem splitFirst_of_startsWith {s p : String} (h : startsWith (toAsciiUppercase s) p = true)
    (hp : '_' ∈ p.toList) : toAsciiUppercase (splitFirst s '_') = splitFirst p '_' := by
  obtain ⟨rest, hrest⟩ := List.isPrefixOf_iff_prefix.mp h
  have hstop : p.toList.takeWhile (· != '_') ≠ p.toList := by
    intro hall
    have hne := List.takeWhile_eq_self_iff.mp hall '_' hp
    simp at hne
  apply String.toList_injective
  simp only [splitFirst, toList_toAsciiUppercase, String.toList_ofList] at hrest ⊢
  rw [← takeWhile_map_toUpper, ← hrest, List.takeWhile_append, if_neg]
  intro hlen
  exact hstop ((List.takeWhile_prefix _).eq_of_length hlen)

/-- Dropping from the right stops at the last character that stays. -/
theorem rdropWhile_append_cons {p : Char → Bool} {c : Char} (hc : p c = false) (l r : List Char) :
    (l ++ c :: r).rdropWhile p = l ++ c :: r.rdropWhile p := by
  have hdrop : (r.reverse ++ ([c] ++ l.reverse)).dropWhile p =
      r.reverse.dropWhile p ++ ([c] ++ l.reverse) := by
    rw [List.dropWhile_append]
    split_ifs with hall
    · rw [List.isEmpty_iff] at hall
      rw [hall, List.singleton_append, List.dropWhile_cons_of_neg (by simp [hc])]
      rfl
    · rfl
  rw [List.rdropWhile, List.reverse_append, List.reverse_cons, List.append_assoc, hdrop]
  simp [List.rdropWhile]

/-- The first word of a text that goes on with an underscore, and what trimming leaves of it. -/
theorem splitFirst_trim {s : String} {word rest : List Char} (hword : '_' ∉ word)
    (hs : s.toList = word ++ '_' :: rest) :
    (splitFirst (trim s) '_').toList = word.dropWhile isWhitespace := by
  have hsep : isWhitespace '_' = false := by decide
  have hdrop : (word ++ '_' :: rest).dropWhile isWhitespace =
      word.dropWhile isWhitespace ++ '_' :: rest := by
    rw [List.dropWhile_append]
    split_ifs with hblank
    · rw [List.isEmpty_iff] at hblank
      rw [hblank, List.dropWhile_cons, hsep]
      rfl
    · rfl
  rw [splitFirst, String.toList_ofList, toList_trim, hs, trimChars, hdrop,
    rdropWhile_append_cons hsep]
  have hall : ∀ c ∈ word.dropWhile isWhitespace, (c != '_') = true := by
    intro c hc
    rw [bne_iff_ne]
    rintro rfl
    exact hword ((List.dropWhile_suffix _).subset hc)
  rw [List.takeWhile_append_of_pos hall]
  simp

/-- `str::trim_start_matches` with a character pattern. -/
def trimStartMatches (s : String) (c : Char) : String :=
  String.ofList (s.toList.dropWhile (· == c))

/-- `str::trim_end_matches` with a character pattern. -/
def trimEndMatches (s : String) (c : Char) : String :=
  String.ofList (s.toList.rdropWhile (· == c))

/-- `str::ends_with`. -/
def endsWith (s w : String) : Bool := w.toList.isSuffixOf s.toList

theorem endsWith_iff {s w : String} : endsWith s w = true ↔ ∃ front, s = front ++ w := by
  rw [endsWith, List.isSuffixOf_iff_suffix]
  constructor
  · rintro ⟨front, h⟩
    refine ⟨String.ofList front, ?_⟩
    rw [← String.toList_inj, String.toList_append, String.toList_ofList, h]
  · rintro ⟨front, rfl⟩
    exact ⟨front.toList, by rw [String.toList_append]⟩

/-- `str::split_whitespace`: the runs between white space that are not empty. -/
def splitWhitespace (s : String) : List String :=
  ((s.toList.splitOnP isWhitespace).filter (!·.isEmpty)).map String.ofList

/-- A word is its own only part. -/
theorem splitWhitespace_of_word {s : String} (hne : s.toList ≠ [])
    (hword : ∀ c ∈ s.toList, isWhitespace c = false) : splitWhitespace s = [s] := by
  rw [splitWhitespace, List.splitOnP_eq_singleton hword]
  simp [hne]

/-- `str::split_once` with a character, on the characters. -/
def splitOnceChars (c : Char) : List Char → Option (List Char × List Char)
  | [] => none
  | x :: l => if x = c then some ([], l) else (splitOnceChars c l).map fun p => (x :: p.1, p.2)

theorem splitOnceChars_eq_none {c : Char} {l : List Char} :
    splitOnceChars c l = none ↔ c ∉ l := by
  induction l with
  | nil => simp [splitOnceChars]
  | cons x l ih =>
    by_cases hx : x = c
    · simp [splitOnceChars, hx]
    · have hne : c ≠ x := fun h => hx h.symm
      simp [splitOnceChars, hx, hne, ih]

theorem splitOnceChars_eq_some {c : Char} {l a b : List Char} :
    splitOnceChars c l = some (a, b) ↔ l = a ++ c :: b ∧ c ∉ a := by
  induction l generalizing a with
  | nil => simp [splitOnceChars]
  | cons x l ih =>
    by_cases hx : x = c
    · subst hx
      rcases a with _ | ⟨y, a⟩
      · simp [splitOnceChars]
      · simp only [splitOnceChars, if_true, Option.some.injEq, Prod.mk.injEq, List.cons_append,
          List.cons.injEq, List.mem_cons, not_or]
        refine ⟨fun h => absurd h.1 (by simp), ?_⟩
        rintro ⟨⟨hy, _⟩, hne, _⟩
        exact absurd hy hne
    · have hne : c ≠ x := fun h => hx h.symm
      rcases a with _ | ⟨y, a⟩
      · simp [splitOnceChars, hx]
      · simp only [splitOnceChars, if_neg hx, Option.map_eq_some_iff, Prod.exists, Prod.mk.injEq,
          List.cons.injEq, List.cons_append, List.mem_cons, not_or]
        constructor
        · rintro ⟨a', b', h, ⟨rfl, rfl⟩, rfl⟩
          obtain ⟨hl, hc⟩ := ih.mp h
          exact ⟨⟨rfl, hl⟩, hne, hc⟩
        · rintro ⟨⟨rfl, hl⟩, _, hc⟩
          exact ⟨a, b, ih.mpr ⟨hl, hc⟩, ⟨rfl, rfl⟩, rfl⟩

/-- `str::split_once`. -/
def splitOnce (s : String) (c : Char) : Option (String × String) :=
  (splitOnceChars c s.toList).map fun p => (String.ofList p.1, String.ofList p.2)

/-- The two sides of the first separator. -/
theorem splitOnce_eq_some_iff {s a b : String} {c : Char} :
    splitOnce s c = some (a, b) ↔ s = a ++ String.singleton c ++ b ∧ c ∉ a.toList := by
  have hparts : s = a ++ String.singleton c ++ b ↔ s.toList = a.toList ++ c :: b.toList := by
    rw [← String.toList_inj]
    simp
  rw [hparts, ← splitOnceChars_eq_some, splitOnce, Option.map_eq_some_iff]
  constructor
  · rintro ⟨⟨l, r⟩, hsplit, hparts⟩
    rw [Prod.mk.injEq] at hparts
    rw [← hparts.1, ← hparts.2, String.toList_ofList, String.toList_ofList, hsplit]
  · intro hsplit
    exact ⟨_, hsplit, by simp⟩

theorem splitOnce_eq_none_iff {s : String} {c : Char} : splitOnce s c = none ↔ c ∉ s.toList := by
  rw [splitOnce, Option.map_eq_none_iff, splitOnceChars_eq_none]

/-- `str::split` with a character. -/
def split (s : String) (c : Char) : List String :=
  (s.toList.splitOnP (· == c)).map String.ofList

/-- `str::parse::<u64>`: an optional `+`, then at least one ASCII digit. -/
def parseU64 (s : String) : Option ℕ :=
  let digits := if s.toList.head? = some '+' then s.toList.drop 1 else s.toList
  if digits.isEmpty || !digits.all Char.isDigit then none
  else
    let n := digits.foldl (fun acc c => 10 * acc + (c.toNat - 48)) 0
    if n < 2 ^ 64 then some n else none

/-- A number is written in digits and at most one sign. -/
theorem mem_of_parseU64 {s : String} {n : ℕ} (h : parseU64 s = some n) {c : Char}
    (hc : c ∈ s.toList) : c = '+' ∨ c.isDigit = true := by
  unfold parseU64 at h
  by_cases hsign : s.toList.head? = some '+'
  · obtain ⟨l, hl⟩ := List.head?_eq_some_iff.mp hsign
    rw [hl, List.mem_cons] at hc
    rcases hc with rfl | hc
    · exact Or.inl rfl
    · simp [hl] at h
      exact Or.inr (h.1.2 c hc)
  · simp [hsign] at h
    exact Or.inr (h.1.2 c hc)

theorem ne_nil_of_parseU64 {s : String} {n : ℕ} (h : parseU64 s = some n) : s.toList ≠ [] := by
  intro hnil
  simp [parseU64, hnil] at h

/-- So it has no white space, and `trim` leaves it as it is. -/
theorem trim_of_parseU64 {s : String} {n : ℕ} (h : parseU64 s = some n) : trim s = s := by
  apply String.toList_injective
  rw [toList_trim]
  apply trimChars_eq_self
  apply unpadded_of_forall
  intro c hc
  rcases mem_of_parseU64 h hc with rfl | hdigit
  · decide
  · exact isWhitespace_of_isDigit hdigit

/-! ## Joining -/

/-- What is joined consists of the texts and the separators between them. -/
theorem mem_intercalate {α : Type} {sep : List α} {c : α} {texts : List (List α)}
    (h : c ∈ sep.intercalate texts) : c ∈ sep ∨ ∃ text ∈ texts, c ∈ text := by
  induction texts with
  | nil => cases h
  | cons text texts ih =>
    cases texts with
    | nil =>
      rw [List.intercalate_singleton] at h
      exact .inr ⟨text, List.mem_cons_self, h⟩
    | cons next texts =>
      rw [List.intercalate_cons_cons, List.mem_append, List.mem_append] at h
      rcases h with (h | h) | h
      · exact .inr ⟨text, List.mem_cons_self, h⟩
      · exact .inl h
      · rcases ih h with h | ⟨other, hother, hc⟩
        · exact .inl h
        · exact .inr ⟨other, List.mem_cons_of_mem text hother, hc⟩

/-- And begins with the first of them. -/
theorem head?_intercalate {α : Type} (sep : List α) {text : List α} (texts : List (List α))
    (h : text ≠ []) : (sep.intercalate (text :: texts)).head? = text.head? := by
  cases texts with
  | nil => rw [List.intercalate_singleton]
  | cons next texts =>
    rw [List.intercalate_cons_cons, List.append_assoc, List.head?_append_of_ne_nil _ h]

/-! ## Bytes -/

/-- `str::as_bytes`. -/
def asBytes (s : String) : List UInt8 := s.toList.flatMap String.utf8EncodeChar

theorem toByteArray_eq (s : String) : s.toByteArray = (asBytes s).toByteArray := by
  conv_lhs => rw [← String.ofList_toList (s := s)]
  rw [String.toByteArray_ofList]
  rfl

/-- Two strings with the same bytes are the same. -/
theorem asBytes_inj {s t : String} (h : asBytes s = asBytes t) : s = t := by
  rw [← String.toByteArray_inj, toByteArray_eq, toByteArray_eq, h]

/-- `str::len`, in bytes of UTF-8. -/
def len (s : String) : ℕ := (s.toList.map Char.utf8Size).sum

/-- The characters from byte `n` on; `none` past the end and inside a character. -/
def getFromChars : ℕ → List Char → Option (List Char)
  | 0, l => some l
  | _ + 1, [] => none
  | n + 1, c :: l => if c.utf8Size ≤ n + 1 then getFromChars (n + 1 - c.utf8Size) l else none

/-- `str::get(n..)`. -/
def getFrom (s : String) (n : ℕ) : Option String :=
  (getFromChars n s.toList).map String.ofList

/-- What stands before each occurrence of `c`, from the first occurrence to the last. -/
def prefixesBefore (c : Char) : List Char → List (List Char)
  | [] => []
  | x :: l =>
    let rest := (prefixesBefore c l).map (x :: ·)
    if x = c then [] :: rest else rest

/-- `s[..end]` for each `(end, _)` of `s.rmatch_indices(c)`: the last occurrence first. -/
def rmatchPrefixes (s : String) (c : Char) : List String :=
  ((prefixesBefore c s.toList).reverse).map String.ofList

theorem mem_prefixesBefore {c : Char} {l p : List Char} :
    p ∈ prefixesBefore c l ↔ ∃ rest, l = p ++ c :: rest := by
  induction l generalizing p with
  | nil => simp [prefixesBefore]
  | cons x l ih =>
    have hrest : p ∈ (prefixesBefore c l).map (x :: ·) ↔
        ∃ q rest, p = x :: q ∧ l = q ++ c :: rest := by
      simp only [List.mem_map, ih]
      grind
    simp only [prefixesBefore]
    split_ifs with hx
    · subst hx
      rw [List.mem_cons, hrest]
      cases p with
      | nil => simp
      | cons y q => simp [eq_comm]
    · rw [hrest]
      cases p with
      | nil => simp [hx]
      | cons y q => simp [eq_comm]

/-- The prefixes get longer from occurrence to occurrence. -/
theorem pairwise_prefixesBefore (c : Char) (l : List Char) :
    (prefixesBefore c l).Pairwise fun p q => p.length < q.length := by
  induction l with
  | nil => exact .nil
  | cons x l ih =>
    have hrest : ((prefixesBefore c l).map (x :: ·)).Pairwise fun p q => p.length < q.length := by
      rw [List.pairwise_map]
      exact ih.imp fun hlt => by simpa using hlt
    simp only [prefixesBefore]
    split_ifs with hx
    · refine .cons (fun p hp => ?_) hrest
      obtain ⟨q, -, rfl⟩ := List.mem_map.mp hp
      simp
    · exact hrest

theorem mem_rmatchPrefixes {s p : String} {c : Char} :
    p ∈ rmatchPrefixes s c ↔ startsWith s (p ++ String.singleton c) = true := by
  rw [startsWith_iff, rmatchPrefixes]
  simp only [List.mem_map, List.mem_reverse, mem_prefixesBefore, String.toList_append]
  constructor
  · rintro ⟨q, ⟨rest, hrest⟩, rfl⟩
    exact ⟨rest, by simp [hrest]⟩
  · rintro ⟨rest, hrest⟩
    exact ⟨p.toList, ⟨rest, by simpa using hrest⟩, String.ofList_toList⟩

/-- `rmatch_indices` goes from the longest prefix to the shortest. -/
theorem pairwise_rmatchPrefixes (s : String) (c : Char) :
    (rmatchPrefixes s c).Pairwise fun p q => q.toList.length < p.toList.length := by
  rw [rmatchPrefixes, List.pairwise_map, List.pairwise_reverse]
  exact (pairwise_prefixesBefore c s.toList).imp fun hlt => by simpa using hlt

end RustStr
