/-
# Base64 with the standard alphabet

The standard alphabet with canonical padding: three bytes are written as four
symbols, and a last group of one or two bytes is filled up with `=`.  Decoding
takes exactly what encoding writes: a text whose length is no multiple of four,
a symbol outside the alphabet, a misplaced `=` and unused bits that are not
zero are all refused.
-/
import Mathlib

namespace Base64

/-! ## The alphabet -/

/-- The symbol of a number below 64. -/
def symbol (n : ℕ) : Char :=
  if n < 26 then Char.ofNat (n + 65)
  else if n < 52 then Char.ofNat (n + 71)
  else if n < 62 then Char.ofNat (n - 4)
  else if n = 62 then '+' else '/'

/-- The number a symbol stands for. -/
def value (c : Char) : Option ℕ :=
  let n := c.toNat
  if 65 ≤ n ∧ n ≤ 90 then some (n - 65)
  else if 97 ≤ n ∧ n ≤ 122 then some (n - 71)
  else if 48 ≤ n ∧ n ≤ 57 then some (n + 4)
  else if c = '+' then some 62
  else if c = '/' then some 63
  else none

theorem value_symbol {n : ℕ} (hn : n < 64) : value (symbol n) = some n := by
  revert n
  decide

theorem symbol_ne_pad {n : ℕ} (hn : n < 64) : symbol n ≠ '=' := by
  revert n
  decide

/-! ## Groups -/

/-- Write a list of bytes. -/
def encode : List UInt8 → List Char
  | [] => []
  | [a] => [symbol (a.toNat / 4), symbol (a.toNat % 4 * 16), '=', '=']
  | [a, b] =>
    [symbol (a.toNat / 4), symbol (a.toNat % 4 * 16 + b.toNat / 16), symbol (b.toNat % 16 * 4), '=']
  | a :: b :: c :: rest =>
    symbol (a.toNat / 4) :: symbol (a.toNat % 4 * 16 + b.toNat / 16)
      :: symbol (b.toNat % 16 * 4 + c.toNat / 64) :: symbol (c.toNat % 64) :: encode rest

/-- The three bytes of a group, from its numbers. -/
def firstByte (a b : ℕ) : UInt8 := UInt8.ofNat (a * 4 + b / 16)

@[inherit_doc firstByte] def secondByte (b c : ℕ) : UInt8 := UInt8.ofNat (b % 16 * 16 + c / 4)

@[inherit_doc firstByte] def thirdByte (c d : ℕ) : UInt8 := UInt8.ofNat (c % 4 * 64 + d)

/-- The last group, as far as `=` fills it up. -/
def decodeLast (w x y z : Char) : Option (List UInt8) := do
  let a ← value w
  let b ← value x
  if y = '=' ∧ z = '=' then
    if b % 16 = 0 then some [firstByte a b] else none
  else
    let c ← value y
    if z = '=' then
      if c % 4 = 0 then some [firstByte a b, secondByte b c] else none
    else
      let d ← value z
      some [firstByte a b, secondByte b c, thirdByte c d]

/-- Read a text back. -/
def decode : List Char → Option (List UInt8)
  | [] => some []
  | [w, x, y, z] => decodeLast w x y z
  | w :: x :: y :: z :: rest => do
    let a ← value w
    let b ← value x
    let c ← value y
    let d ← value z
    let bytes ← decode rest
    some (firstByte a b :: secondByte b c :: thirdByte c d :: bytes)
  | _ => none

section Group

variable (a b c : UInt8)

/-- The bytes of a group come back from its numbers. -/
theorem firstByte_eq : firstByte (a.toNat / 4) (a.toNat % 4 * 16 + b.toNat / 16) = a := by
  have hb : b.toNat < 256 := b.toNat_lt
  rw [firstByte, show a.toNat / 4 * 4 + (a.toNat % 4 * 16 + b.toNat / 16) / 16 = a.toNat by omega]
  exact UInt8.ofNat_toNat

theorem secondByte_eq :
    secondByte (a.toNat % 4 * 16 + b.toNat / 16) (b.toNat % 16 * 4 + c.toNat / 64) = b := by
  have hb : b.toNat < 256 := b.toNat_lt
  have hc : c.toNat < 256 := c.toNat_lt
  rw [secondByte, show (a.toNat % 4 * 16 + b.toNat / 16) % 16 * 16
    + (b.toNat % 16 * 4 + c.toNat / 64) / 4 = b.toNat by omega]
  exact UInt8.ofNat_toNat

theorem thirdByte_eq : thirdByte (b.toNat % 16 * 4 + c.toNat / 64) (c.toNat % 64) = c := by
  have hc : c.toNat < 256 := c.toNat_lt
  rw [thirdByte, show (b.toNat % 16 * 4 + c.toNat / 64) % 4 * 64 + c.toNat % 64 = c.toNat by omega]
  exact UInt8.ofNat_toNat

/-- A group that `=` fills up is read as if zero bytes followed. -/
theorem firstByte_last : firstByte (a.toNat / 4) (a.toNat % 4 * 16) = a := firstByte_eq a 0

theorem secondByte_last :
    secondByte (a.toNat % 4 * 16 + b.toNat / 16) (b.toNat % 16 * 4) = b := secondByte_eq a b 0

end Group

/-- What was written is read back. -/
theorem decode_encode (bytes : List UInt8) : decode (encode bytes) = some bytes := by
  fun_induction encode bytes with
  | case1 => rfl
  | case2 a =>
    have ha : a.toNat < 256 := a.toNat_lt
    have hzero : a.toNat % 4 * 16 % 16 = 0 := by omega
    simp [decode, decodeLast, value_symbol (show a.toNat / 4 < 64 by omega),
      value_symbol (show a.toNat % 4 * 16 < 64 by omega), hzero, firstByte_last]
  | case3 a b =>
    have ha : a.toNat < 256 := a.toNat_lt
    have hb : b.toNat < 256 := b.toNat_lt
    have hzero : b.toNat % 16 * 4 % 4 = 0 := by omega
    simp [decode, decodeLast, value_symbol (show a.toNat / 4 < 64 by omega),
      value_symbol (show a.toNat % 4 * 16 + b.toNat / 16 < 64 by omega),
      value_symbol (show b.toNat % 16 * 4 < 64 by omega),
      symbol_ne_pad (show b.toNat % 16 * 4 < 64 by omega), hzero, firstByte_eq, secondByte_last]
  | case4 a b c rest ih =>
    have ha : a.toNat < 256 := a.toNat_lt
    have hb : b.toNat < 256 := b.toNat_lt
    have hc : c.toNat < 256 := c.toNat_lt
    have hw := value_symbol (show a.toNat / 4 < 64 by omega)
    have hx := value_symbol (show a.toNat % 4 * 16 + b.toNat / 16 < 64 by omega)
    have hy := value_symbol (show b.toNat % 16 * 4 + c.toNat / 64 < 64 by omega)
    have hz := value_symbol (show c.toNat % 64 < 64 by omega)
    rcases hrest : encode rest with _ | ⟨e, tail⟩
    · -- the group is the last one, and it is full
      have hnil : rest = [] := by
        rw [hrest] at ih
        simpa [decode] using ih.symm
      simp [decode, decodeLast, hw, hx, hy, hz, firstByte_eq, secondByte_eq, thirdByte_eq, hnil,
        symbol_ne_pad (show c.toNat % 64 < 64 by omega)]
    · rw [hrest] at ih
      simp [decode, hw, hx, hy, hz, ih, firstByte_eq, secondByte_eq, thirdByte_eq]

/-- The text of an encoding is made of symbols and `=`. -/
theorem mem_encode {bytes : List UInt8} {c : Char} (hc : c ∈ encode bytes) :
    (∃ n < 64, c = symbol n) ∨ c = '=' := by
  fun_induction encode bytes with
  | case1 => simp at hc
  | case2 a =>
    have ha : a.toNat < 256 := a.toNat_lt
    simp only [List.mem_cons, List.not_mem_nil, or_false] at hc
    rcases hc with rfl | rfl | rfl | rfl
    · exact Or.inl ⟨_, by omega, rfl⟩
    · exact Or.inl ⟨_, by omega, rfl⟩
    · exact Or.inr rfl
    · exact Or.inr rfl
  | case3 a b =>
    have ha : a.toNat < 256 := a.toNat_lt
    have hb : b.toNat < 256 := b.toNat_lt
    simp only [List.mem_cons, List.not_mem_nil, or_false] at hc
    rcases hc with rfl | rfl | rfl | rfl
    · exact Or.inl ⟨_, by omega, rfl⟩
    · exact Or.inl ⟨_, by omega, rfl⟩
    · exact Or.inl ⟨_, by omega, rfl⟩
    · exact Or.inr rfl
  | case4 a b d rest ih =>
    have ha : a.toNat < 256 := a.toNat_lt
    have hb : b.toNat < 256 := b.toNat_lt
    have hd : d.toNat < 256 := d.toNat_lt
    simp only [List.mem_cons] at hc
    rcases hc with rfl | rfl | rfl | rfl | hc
    · exact Or.inl ⟨_, by omega, rfl⟩
    · exact Or.inl ⟨_, by omega, rfl⟩
    · exact Or.inl ⟨_, by omega, rfl⟩
    · exact Or.inl ⟨_, by omega, rfl⟩
    · exact ih hc

example : encode [77, 97, 110, 33] = "TWFuIQ==".toList := by decide

end Base64
