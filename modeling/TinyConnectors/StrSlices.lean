/-
# Slices of a string by bytes

A Rust string is indexed by the bytes of its UTF-8 text, and a slice that starts or
ends inside a character panics.  Slices are read off the list of characters here, with
`none` for a panic, next to the bytes they consist of.  An ASCII byte is a character of
its own, so a slice that starts or ends beside one is safe.
-/
import TinyConnectors.RustStr

namespace RustStr

/-- The length of a text, in bytes. -/
def bytesOf (l : List Char) : ℕ := (l.map Char.utf8Size).sum

@[simp] theorem bytesOf_nil : bytesOf [] = 0 := rfl

@[simp] theorem bytesOf_cons (c : Char) (l : List Char) :
    bytesOf (c :: l) = c.utf8Size + bytesOf l := by
  rw [bytesOf, List.map_cons, List.sum_cons]
  rfl

@[simp] theorem bytesOf_append (l r : List Char) : bytesOf (l ++ r) = bytesOf l + bytesOf r := by
  rw [bytesOf, List.map_append, List.sum_append]
  rfl

/-- The characters of the first `n` bytes; `none` past the end and inside a character. -/
def takeBytes : ℕ → List Char → Option (List Char)
  | 0, _ => some []
  | _ + 1, [] => none
  | n + 1, c :: l =>
    if c.utf8Size ≤ n + 1 then (takeBytes (n + 1 - c.utf8Size) l).map (c :: ·) else none

/-- `&s[start..stop]`; `none` where it panics. -/
def slice (s : String) (start stop : ℕ) : Option String :=
  if start ≤ stop then
    (getFromChars start s.toList).bind fun l => (takeBytes (stop - start) l).map String.ofList
  else none

/-- `str::char_indices`: each character with the byte it starts at. -/
def charIndicesFrom : ℕ → List Char → List (ℕ × Char)
  | _, [] => []
  | n, c :: l => (n, c) :: charIndicesFrom (n + c.utf8Size) l

def charIndices (s : String) : List (ℕ × Char) := charIndicesFrom 0 s.toList

/-! ## Slices at the ends of texts -/

theorem getFromChars_bytesOf (l r : List Char) : getFromChars (bytesOf l) (l ++ r) = some r := by
  induction l with
  | nil => simp [getFromChars]
  | cons c l ih =>
    obtain ⟨n, hn⟩ : ∃ n, bytesOf (c :: l) = n + 1 :=
      ⟨bytesOf (c :: l) - 1, by have := c.utf8Size_pos; rw [bytesOf_cons]; omega⟩
    rw [hn, List.cons_append, getFromChars, ← hn, if_pos (by rw [bytesOf_cons]; omega),
      bytesOf_cons, Nat.add_sub_cancel_left, ih]

theorem takeBytes_bytesOf (l r : List Char) : takeBytes (bytesOf l) (l ++ r) = some l := by
  induction l with
  | nil => simp [takeBytes]
  | cons c l ih =>
    obtain ⟨n, hn⟩ : ∃ n, bytesOf (c :: l) = n + 1 :=
      ⟨bytesOf (c :: l) - 1, by have := c.utf8Size_pos; rw [bytesOf_cons]; omega⟩
    rw [hn, List.cons_append, takeBytes, ← hn, if_pos (by rw [bytesOf_cons]; omega), bytesOf_cons,
      Nat.add_sub_cancel_left, ih, Option.map_some]

/-- The slice between two texts is what stands between them. -/
theorem slice_between {s : String} {l m r : List Char} (h : s.toList = l ++ m ++ r) :
    slice s (bytesOf l) (bytesOf l + bytesOf m) = some (String.ofList m) := by
  rw [slice, if_pos (Nat.le_add_right _ _), h, List.append_assoc, getFromChars_bytesOf,
    Option.bind_some, Nat.add_sub_cancel_left, takeBytes_bytesOf, Option.map_some]

/-- The byte a character starts at is the length of what stands before it. -/
theorem getElem?_charIndicesFrom (n : ℕ) (l : List Char) (k : ℕ) :
    (charIndicesFrom n l)[k]? = (l[k]?).map fun c => (n + bytesOf (l.take k), c) := by
  induction l generalizing n k with
  | nil => rfl
  | cons c l ih =>
    cases k with
    | zero => simp [charIndicesFrom]
    | succ k =>
      rw [charIndicesFrom, List.getElem?_cons_succ, ih, List.getElem?_cons_succ,
        List.take_succ_cons, bytesOf_cons, Nat.add_assoc]

/-! ## Bytes and characters -/

/-- The bytes of a text. -/
def utf8Bytes (l : List Char) : List UInt8 := l.flatMap String.utf8EncodeChar

theorem asBytes_eq (s : String) : asBytes s = utf8Bytes s.toList := rfl

@[simp] theorem utf8Bytes_append (l r : List Char) :
    utf8Bytes (l ++ r) = utf8Bytes l ++ utf8Bytes r :=
  List.flatMap_append

theorem utf8Bytes_cons (c : Char) (l : List Char) :
    utf8Bytes (c :: l) = String.utf8EncodeChar c ++ utf8Bytes l := List.flatMap_cons

@[simp] theorem length_utf8Bytes (l : List Char) : (utf8Bytes l).length = bytesOf l := by
  induction l with
  | nil => rfl
  | cons c l ih =>
      rw [utf8Bytes_cons, List.length_append, String.length_utf8EncodeChar, ih, bytesOf_cons]

/-- An ASCII character is its one byte. -/
theorem utf8EncodeChar_ascii {c : Char} (h : c.toNat < 128) :
    String.utf8EncodeChar c = [UInt8.ofNat c.toNat] := by
  have hle : c.val.toNat ≤ 127 := Nat.lt_succ_iff.mp h
  rw [String.utf8EncodeChar]
  simp only [hle, if_true]
  rfl

theorem utf8Size_ascii {c : Char} (h : c.toNat < 128) : c.utf8Size = 1 := by
  rw [← String.length_utf8EncodeChar, utf8EncodeChar_ascii h, List.length_singleton]

theorem le_toNat_ofNat {n : ℕ} (hlow : 128 ≤ n) (hhigh : n < 256) :
    128 ≤ (UInt8.ofNat n).toNat := by
  rw [UInt8.toNat_ofNat_of_lt' hhigh]
  exact hlow

/-- No byte of another character is ASCII. -/
theorem le_of_mem_utf8EncodeChar {c : Char} (h : 128 ≤ c.toNat) {b : UInt8}
    (hb : b ∈ String.utf8EncodeChar c) : 128 ≤ b.toNat := by
  have hval : c.toNat = c.val.toNat := rfl
  have hle : ¬ c.val.toNat ≤ 127 := by omega
  rw [String.utf8EncodeChar] at hb
  simp only [hle, if_false] at hb
  -- a leading byte has its two top bits set, a following one its top bit
  split_ifs at hb <;> simp only [List.mem_cons, List.not_mem_nil, or_false] at hb
  · rcases hb with rfl | rfl <;> exact le_toNat_ofNat (by omega) (by omega)
  · rcases hb with rfl | rfl | rfl <;> exact le_toNat_ofNat (by omega) (by omega)
  · rcases hb with rfl | rfl | rfl | rfl <;> exact le_toNat_ofNat (by omega) (by omega)

/-- An ASCII byte of a text is a character of it, between two characters. -/
theorem exists_char_of_byte {l : List Char} {n : ℕ} {b : UInt8} (h : (utf8Bytes l)[n]? = some b)
    (hb : b.toNat < 128) : ∃ before after, l = before ++ Char.ofNat b.toNat :: after ∧
      bytesOf before = n := by
  induction l generalizing n with
  | nil => cases h
  | cons c l ih =>
    rw [utf8Bytes_cons] at h
    by_cases hn : n < (String.utf8EncodeChar c).length
    · rw [List.getElem?_append_left hn] at h
      have hascii : c.toNat < 128 := by
        by_contra hc
        have := le_of_mem_utf8EncodeChar (not_lt.mp hc) (List.mem_of_getElem? h)
        omega
      rw [utf8EncodeChar_ascii hascii] at h hn
      obtain rfl : n = 0 := Nat.lt_one_iff.mp hn
      have hbyte : b.toNat = c.toNat := by
        rw [← Option.some_inj.mp h]
        exact UInt8.toNat_ofNat_of_lt' (hascii.trans (by decide))
      exact ⟨[], l, by rw [hbyte, Char.ofNat_toNat, List.nil_append], rfl⟩
    · rw [List.getElem?_append_right (not_lt.mp hn)] at h
      obtain ⟨before, after, rfl, hbefore⟩ := ih h
      refine ⟨c :: before, after, rfl, ?_⟩
      rw [String.length_utf8EncodeChar] at hn hbefore
      rw [bytesOf_cons, hbefore]
      omega

/-! ## Letter case and length -/

theorem utf8Size_toUpper (c : Char) : c.toUpper.utf8Size = c.utf8Size := by
  by_cases hc : c.isLower = true
  · obtain ⟨⟨hfirst, hlast⟩, hnat⟩ := toNat_toUpper hc
    have hone : ∀ d : Char, d.toNat ≤ 122 → d.utf8Size = 1 := by
      intro d hd
      unfold Char.utf8Size
      rw [if_pos]
      have hval : d.val.toNat ≤ 122 := hd
      rw [UInt32.le_iff_toNat_le]
      show d.val.toNat ≤ 127
      omega
    rw [hone c hlast, hone c.toUpper (by omega)]
  · rw [Char.toUpper_eq_of_not_isLower hc]

theorem len_toAsciiUppercase (s : String) : len (toAsciiUppercase s) = len s := by
  unfold len
  rw [toList_toAsciiUppercase, List.map_map]
  apply congrArg
  apply List.map_congr_left
  intro c _
  exact utf8Size_toUpper c

theorem len_toAsciiLowercase (s : String) : len (toAsciiLowercase s) = len s := by
  rw [← len_toAsciiUppercase, toAsciiUppercase_toAsciiLowercase, len_toAsciiUppercase]

theorem toAsciiLowercase_eq_iff {s t : String} :
    toAsciiLowercase s = toAsciiLowercase t ↔ toAsciiUppercase s = toAsciiUppercase t := by
  constructor
  · intro h
    rw [← toAsciiUppercase_toAsciiLowercase s, h, toAsciiUppercase_toAsciiLowercase]
  · intro h
    rw [← toAsciiLowercase_toAsciiUppercase s, h, toAsciiLowercase_toAsciiUppercase]

theorem len_append (s t : String) : len (s ++ t) = len s + len t := by
  unfold len
  rw [String.toList_append, List.map_append, List.sum_append]

theorem eq_of_startsWith_of_len_le {s p : String} (h : startsWith s p = true)
    (hlen : len s ≤ len p) : s = p := by
  obtain ⟨rest, hrest⟩ := startsWith_iff.mp h
  cases rest with
  | nil =>
    rw [List.append_nil] at hrest
    exact String.toList_injective hrest
  | cons c rest =>
    -- a character more is a byte more
    have hpos := Char.utf8Size_pos c
    unfold len at hlen
    rw [hrest, List.map_append, List.sum_append, List.map_cons, List.sum_cons] at hlen
    omega

end RustStr
