/-
# Percent-encoding

A byte is kept as the ASCII character it is, or escaped as `%` and two upper-case
hexadecimal digits.  Whichever ASCII bytes other than `%` are kept, decoding the
text gives the bytes back, and nothing but kept characters and escapes is written.
-/
import Mathlib

namespace PercentEncoding

/-- One upper-case hexadecimal digit. -/
def hexDigit (n : ℕ) : Char :=
  if n < 10 then Char.ofNat ('0'.toNat + n) else Char.ofNat ('A'.toNat + (n - 10))

/-- One byte, kept or escaped. -/
def encodeByte (keep : UInt8 → Bool) (b : UInt8) : List Char :=
  if keep b then [Char.ofNat b.toNat] else ['%', hexDigit (b.toNat / 16), hexDigit (b.toNat % 16)]

def encode (keep : UInt8 → Bool) (bytes : List UInt8) : List Char :=
  bytes.flatMap (encodeByte keep)

/-- The value of a hexadecimal digit of either case. -/
def hexValue (b : UInt8) : Option ℕ :=
  let n := b.toNat
  if 48 ≤ n ∧ n ≤ 57 then some (n - 48)
  else if 65 ≤ n ∧ n ≤ 70 then some (n - 55)
  else if 97 ≤ n ∧ n ≤ 102 then some (n - 87)
  else none

/-- The byte three bytes are the escape of. -/
def escaped (sign high low : UInt8) : Option UInt8 :=
  if sign = 37 then
    (hexValue high).bind fun high => (hexValue low).map fun low => UInt8.ofNat (16 * high + low)
  else none

/-- Read the escapes of a text; a `%` without two digits behind it stays. -/
def decode : List UInt8 → List UInt8
  | sign :: high :: low :: rest =>
    match escaped sign high low with
    | some byte => byte :: decode rest
    | none => sign :: decode (high :: low :: rest)
  | rest => rest

/-- The bytes of a text. -/
def utf8 (text : List Char) : List UInt8 := text.flatMap String.utf8EncodeChar

@[simp] theorem utf8_append (l r : List Char) : utf8 (l ++ r) = utf8 l ++ utf8 r :=
  List.flatMap_append

/-! ## The round trip -/

/-- Only ASCII is kept, and the sign of an escape is not. -/
structure KeepsPlain (keep : UInt8 → Bool) : Prop where
  ascii : ∀ b, keep b = true → b.toNat < 128
  sign : keep 37 = false

theorem utf8_ascii {n : ℕ} (h : n < 128) : utf8 [Char.ofNat n] = [UInt8.ofNat n] := by
  have hval : (Char.ofNat n).val.toNat = n := by
    rw [← Char.toNat, Char.toNat_ofNat, if_pos]
    left
    omega
  rw [utf8, List.flatMap_singleton, String.utf8EncodeChar, hval]
  simp only [show n ≤ 127 by omega, if_true]

theorem hexDigit_eq {n : ℕ} (h : n < 16) :
    hexDigit n = Char.ofNat (if n < 10 then 48 + n else 55 + n) := by
  unfold hexDigit
  split_ifs
  · rfl
  · congr 1
    show 65 + (n - 10) = 55 + n
    omega

/-- A digit is read back. -/
theorem hexValue_hexDigit {n : ℕ} (h : n < 16) :
    ∃ digit, utf8 [hexDigit n] = [digit] ∧ hexValue digit = some n := by
  rw [hexDigit_eq h]
  refine ⟨_, utf8_ascii (by split_ifs <;> omega), ?_⟩
  have hbyte : (UInt8.ofNat (if n < 10 then 48 + n else 55 + n)).toNat =
      if n < 10 then 48 + n else 55 + n := by
    rw [UInt8.toNat_ofNat']
    split_ifs <;> omega
  rw [hexValue]
  simp only [hbyte]
  split_ifs <;> first | omega | (congr 1; omega)

theorem decode_cons_of_ne {b : UInt8} (h : b ≠ 37) (rest : List UInt8) :
    decode (b :: rest) = b :: decode rest := by
  cases rest with
  | nil => rfl
  | cons high rest =>
    cases rest with
    | nil => rfl
    | cons low rest =>
      rw [decode, escaped, if_neg h]

variable {keep : UInt8 → Bool}

/-- One byte is read back, whatever follows. -/
theorem decode_encodeByte (hkeep : KeepsPlain keep) (b : UInt8) (rest : List UInt8) :
    decode (utf8 (encodeByte keep b) ++ rest) = b :: decode rest := by
  unfold encodeByte
  split_ifs with h
  · have hne : b ≠ 37 := by
      rintro rfl
      rw [hkeep.sign] at h
      cases h
    rw [utf8_ascii (hkeep.ascii b h), UInt8.ofNat_toNat]
    exact decode_cons_of_ne hne rest
  · have hsize : b.toNat < 256 := b.toNat_lt
    obtain ⟨high, hhigh, hhighValue⟩ := hexValue_hexDigit (show b.toNat / 16 < 16 by omega)
    obtain ⟨low, hlow, hlowValue⟩ := hexValue_hexDigit (show b.toNat % 16 < 16 by omega)
    have hbytes : utf8 ['%', hexDigit (b.toNat / 16), hexDigit (b.toNat % 16)] =
        [37, high, low] := by
      rw [show ['%', hexDigit (b.toNat / 16), hexDigit (b.toNat % 16)] =
        ['%'] ++ [hexDigit (b.toNat / 16)] ++ [hexDigit (b.toNat % 16)] from rfl,
        utf8_append, utf8_append, hhigh, hlow]
      rfl
    have hback : UInt8.ofNat (16 * (b.toNat / 16) + b.toNat % 16) = b := by
      rw [Nat.div_add_mod, UInt8.ofNat_toNat]
    rw [hbytes]
    show decode (37 :: high :: low :: rest) = _
    rw [decode, escaped, if_pos rfl, hhighValue, hlowValue]
    simp only [Option.bind_some, Option.map_some, hback]

/-- The bytes are read back. -/
theorem decode_encode (hkeep : KeepsPlain keep) (bytes : List UInt8) :
    decode (utf8 (encode keep bytes)) = bytes := by
  induction bytes with
  | nil => rfl
  | cons b bytes ih =>
    rw [encode, List.flatMap_cons, utf8_append, decode_encodeByte hkeep]
    exact congrArg (b :: ·) ih

/-! ## What is written -/

/-- An upper-case hexadecimal digit. -/
def isHexDigit (c : Char) : Bool := c.isDigit || (65 ≤ c.toNat && c.toNat ≤ 70)

/-- A text of plain characters and escapes. -/
inductive Escaped (plain : Char → Bool) : List Char → Prop
  | nil : Escaped plain []
  | plain {c : Char} {rest : List Char} (hc : plain c = true) (hrest : Escaped plain rest) :
      Escaped plain (c :: rest)
  | escape {high low : Char} {rest : List Char} (hhigh : isHexDigit high = true)
      (hlow : isHexDigit low = true) (hrest : Escaped plain rest) :
      Escaped plain ('%' :: high :: low :: rest)

theorem isHexDigit_hexDigit {n : ℕ} (h : n < 16) : isHexDigit (hexDigit n) = true := by
  have hall : ∀ m < 16, isHexDigit (hexDigit m) = true := by decide
  exact hall n h

theorem Escaped.mem {plain : Char → Bool} {text : List Char} (h : Escaped plain text) {c : Char}
    (hc : c ∈ text) : plain c = true ∨ c = '%' ∨ isHexDigit c = true := by
  induction h with
  | nil => cases hc
  | plain hplain _ ih =>
    rcases List.mem_cons.mp hc with rfl | hc
    · exact .inl hplain
    · exact ih hc
  | escape hhigh hlow _ ih =>
    simp only [List.mem_cons] at hc
    rcases hc with rfl | rfl | rfl | hc
    · exact .inr (.inl rfl)
    · exact .inr (.inr hhigh)
    · exact .inr (.inr hlow)
    · exact ih hc

theorem escaped_encode {plain : Char → Bool}
    (hplain : ∀ b, keep b = true → plain (Char.ofNat b.toNat) = true) (bytes : List UInt8) :
    Escaped plain (encode keep bytes) := by
  induction bytes with
  | nil => exact .nil
  | cons b bytes ih =>
    rw [encode, List.flatMap_cons, encodeByte]
    split_ifs with h
    · exact .plain (hplain b h) ih
    · have hsize : b.toNat < 256 := b.toNat_lt
      exact .escape (isHexDigit_hexDigit (by omega)) (isHexDigit_hexDigit (by omega)) ih

theorem encodeByte_ne_nil (keep : UInt8 → Bool) (b : UInt8) : encodeByte keep b ≠ [] := by
  unfold encodeByte
  split_ifs
  · exact List.cons_ne_nil _ _
  · exact List.cons_ne_nil _ _

/-- Only nothing is written as nothing. -/
theorem encode_eq_nil {bytes : List UInt8} : encode keep bytes = [] ↔ bytes = [] := by
  cases bytes with
  | nil => exact iff_of_true rfl rfl
  | cons b bytes => simp [encode, encodeByte_ne_nil]

end PercentEncoding
