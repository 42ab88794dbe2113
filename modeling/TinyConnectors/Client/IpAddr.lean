/-
# Address literals

The text of an IP address as `std::net::IpAddr` parses it: four decimal octets without
leading zeros, or eight groups of hexadecimal digits, where one run of zero groups may
be left out as `::` and the last two groups may be written as an IPv4 address.  A reader
takes characters off the front of a text, and takes none when it fails.
-/
import TinyConnectors.RustStr

namespace Client

open RustStr

/-! ## The readers -/

/-- `std::net::IpAddr`. -/
inductive IpAddr where
  | v4 (addr : BitVec 32)
  | v6 (addr : BitVec 128)
  deriving DecidableEq

/-- What is read, with what is left of the text. -/
abbrev Reader (α : Type) := List Char → Option (α × List Char)

/-- `char::to_digit`. -/
def toDigit (radix : ℕ) (c : Char) : Option ℕ :=
  let digit :=
    if '0' ≤ c ∧ c ≤ '9' then some (c.toNat - 48)
    else if 'a' ≤ c ∧ c ≤ 'z' then some (c.toNat - 87)
    else if 'A' ≤ c ∧ c ≤ 'Z' then some (c.toNat - 55)
    else none
  digit.filter (· < radix)

/-- A number of at most `maxDigits` digits and at most `bound`. -/
def readNumber (radix maxDigits : ℕ) (allowZeroPrefix : Bool) (bound : ℕ) : Reader ℕ := fun s =>
  let digits := s.takeWhile fun c => (toDigit radix c).isSome
  let result := (digits.filterMap (toDigit radix)).foldl (fun acc d => acc * radix + d) 0
  if maxDigits < digits.length then none
  else if digits.length = 0 then none
  else if !allowZeroPrefix && s.head? == some '0' && 1 < digits.length then none
  else if bound < result then none
  else some (result, s.drop digits.length)

/-- `inner`, after a separator unless it is the first of its row. -/
def readSeparator {α : Type} (sep : Char) (index : ℕ) (inner : Reader α) : Reader α := fun s =>
  if 0 < index then
    match s with
    | [] => none
    | c :: rest => if c = sep then inner rest else none
  else inner s

/-- `left` octets, the first of them at `index`. -/
def readOctets : ℕ → ℕ → Reader (List ℕ)
  | 0, _, s => some ([], s)
  | left + 1, index, s =>
    (readSeparator '.' index (readNumber 10 3 false 255) s).bind fun (octet, rest) =>
      (readOctets left (index + 1) rest).map fun (octets, rest) => (octet :: octets, rest)

def readIpv4Addr : Reader (BitVec 32) := fun s =>
  (readOctets 4 0 s).map fun (octets, rest) =>
    (BitVec.ofNat 32 (octets.foldl (fun acc octet => acc * 256 + octet) 0), rest)

/-- At most `left` groups, the first of them at `index`; whether the last two of them were
written as an IPv4 address, and what is left of the text. -/
def readGroups : ℕ → ℕ → List Char → List ℕ × Bool × List Char
  | 0, _, s => ([], false, s)
  | left + 1, index, s =>
    -- an address takes the place of two groups
    match if 0 < left then readSeparator ':' index readIpv4Addr s else none with
    | some (addr, rest) => ([addr.toNat / 65536, addr.toNat % 65536], true, rest)
    | none =>
      match readSeparator ':' index (readNumber 16 4 true 65535) s with
      | some (group, rest) =>
        let (groups, ipv4, rest) := readGroups left (index + 1) rest
        (group :: groups, ipv4, rest)
      | none => ([], false, s)

def ofGroups (groups : List ℕ) : BitVec 128 :=
  BitVec.ofNat 128 (groups.foldl (fun acc group => acc * 65536 + group) 0)

def readIpv6Addr : Reader (BitVec 128) := fun s =>
  let (head, headIpv4, rest) := readGroups 8 0 s
  if head.length = 8 then some (ofGroups head, rest)
  -- an IPv4 part is not allowed before `::`
  else if headIpv4 then none
  else
    match rest with
    | ':' :: ':' :: rest =>
      -- `::` stands for at least one group
      let (tail, _, rest) := readGroups (8 - (head.length + 1)) 0 rest
      let zeros := List.replicate (8 - head.length - tail.length) 0
      some (ofGroups (head ++ zeros ++ tail), rest)
    | _ => none

def readIpAddr : Reader IpAddr := fun s =>
  match readIpv4Addr s with
  | some (addr, rest) => some (.v4 addr, rest)
  | none => (readIpv6Addr s).map fun (addr, rest) => (.v6 addr, rest)

/-- `str::parse::<IpAddr>`: the whole text has to be read. -/
def parseIpAddr (s : String) : Option IpAddr :=
  match readIpAddr s.toList with
  | some (addr, []) => some addr
  | _ => none

/-! ## What an address is written in -/

/-- A character of an address literal. -/
def AddressChar (c : Char) : Prop := (toDigit 16 c).isSome = true ∨ c = '.' ∨ c = ':'

/-- `rest` is what is left of `s` once some characters of a literal are taken off. -/
def Takes (s rest : List Char) : Prop := ∃ taken, s = taken ++ rest ∧ ∀ c ∈ taken, AddressChar c

theorem Takes.refl (s : List Char) : Takes s s := ⟨[], rfl, by simp⟩

theorem Takes.trans {s t u : List Char} (hst : Takes s t) (htu : Takes t u) : Takes s u := by
  obtain ⟨front, rfl, hfront⟩ := hst
  obtain ⟨back, rfl, hback⟩ := htu
  refine ⟨front ++ back, by simp, ?_⟩
  intro c hc
  rcases List.mem_append.mp hc with hc | hc
  · exact hfront c hc
  · exact hback c hc

theorem Takes.cons {c : Char} {s rest : List Char} (hc : AddressChar c) (h : Takes s rest) :
    Takes (c :: s) rest := by
  apply Takes.trans _ h
  exact ⟨[c], rfl, by simpa using hc⟩

/-- Every reader of an address takes characters of a literal. -/
def TakesOnly {α : Type} (read : Reader α) : Prop :=
  ∀ {s a rest}, read s = some (a, rest) → Takes s rest

theorem addressChar_of_toDigit {radix : ℕ} (hradix : radix ≤ 16) {c : Char}
    (h : (toDigit radix c).isSome = true) : AddressChar c := by
  left
  unfold toDigit at h ⊢
  rw [Option.isSome_filter, Option.any_eq_true] at h ⊢
  obtain ⟨digit, hdigit, hlt⟩ := h
  refine ⟨digit, hdigit, ?_⟩
  rw [decide_eq_true_iff] at hlt ⊢
  omega

theorem takesOnly_readNumber {radix maxDigits : ℕ} {allowZeroPrefix : Bool} {bound : ℕ}
    (hradix : radix ≤ 16) : TakesOnly (readNumber radix maxDigits allowZeroPrefix bound) := by
  intro s n rest h
  -- what is taken are the digits in front
  let isDigit := fun c => (toDigit radix c).isSome
  have hsplit : s.takeWhile isDigit ++ s.dropWhile isDigit = s := List.takeWhile_append_dropWhile
  have hrest : rest = s.drop (s.takeWhile isDigit).length := by
    unfold readNumber at h
    dsimp only at h
    split_ifs at h
    rw [Option.some.injEq, Prod.mk.injEq] at h
    exact h.2.symm
  refine ⟨s.takeWhile isDigit, ?_, ?_⟩
  · have hdrop : s.drop (s.takeWhile isDigit).length = s.dropWhile isDigit := by
      conv_lhs => rw [← hsplit, List.drop_left' (by rw [hsplit])]
    rw [hrest, hdrop, hsplit]
  · intro c hc
    exact addressChar_of_toDigit hradix (List.mem_takeWhile_imp (p := isDigit) hc)

theorem takesOnly_readSeparator {α : Type} {sep : Char} {index : ℕ} {inner : Reader α}
    (hsep : AddressChar sep) (hinner : TakesOnly inner) :
    TakesOnly (readSeparator sep index inner) := by
  intro s a rest h
  unfold readSeparator at h
  split_ifs at h
  · cases s with
    | nil => cases h
    | cons c s =>
      dsimp only at h
      split_ifs at h with hc
      subst hc
      exact (hinner h).cons hsep
  · exact hinner h

theorem takesOnly_readOctets (left index : ℕ) : TakesOnly (readOctets left index) := by
  intro s octets rest h
  induction left generalizing index s octets with
  | zero =>
    simp only [readOctets, Option.some.injEq, Prod.mk.injEq] at h
    rw [h.2]
    exact Takes.refl rest
  | succ left ih =>
    unfold readOctets at h
    simp only [Option.bind_eq_some_iff, Option.map_eq_some_iff, Prod.exists, Prod.mk.injEq] at h
    obtain ⟨octet, middle, hfirst, octets, rest, hothers, -, rfl⟩ := h
    have hdot : AddressChar '.' := Or.inr (Or.inl rfl)
    have hoctet := takesOnly_readSeparator hdot (takesOnly_readNumber (by omega)) hfirst
    exact hoctet.trans (ih _ hothers)

theorem takesOnly_readIpv4Addr : TakesOnly readIpv4Addr := by
  intro s addr rest h
  unfold readIpv4Addr at h
  simp only [Option.map_eq_some_iff, Prod.exists, Prod.mk.injEq] at h
  obtain ⟨octets, rest, hoctets, -, rfl⟩ := h
  exact takesOnly_readOctets 4 0 hoctets

theorem takes_readGroups (left index : ℕ) (s : List Char) :
    Takes s (readGroups left index s).2.2 := by
  have hcolon : AddressChar ':' := Or.inr (Or.inr rfl)
  induction left generalizing index s with
  | zero => exact Takes.refl s
  | succ left ih =>
    unfold readGroups
    split
    · rename_i addr rest hipv4
      split_ifs at hipv4
      exact takesOnly_readSeparator hcolon takesOnly_readIpv4Addr hipv4
    · split
      · rename_i group rest hgroup
        have hfirst := takesOnly_readSeparator hcolon (takesOnly_readNumber (by omega)) hgroup
        exact hfirst.trans (ih (index + 1) rest)
      · exact Takes.refl s

theorem takesOnly_readIpv6Addr : TakesOnly readIpv6Addr := by
  intro s addr rest h
  have hcolon : AddressChar ':' := Or.inr (Or.inr rfl)
  have hhead := takes_readGroups 8 0 s
  unfold readIpv6Addr at h
  dsimp only at h
  split_ifs at h
  · rw [Option.some.injEq, Prod.mk.injEq] at h
    rw [← h.2]
    exact hhead
  · split at h
    · rename_i middle hmiddle
      rw [hmiddle] at hhead
      rw [Option.some.injEq, Prod.mk.injEq] at h
      rw [← h.2]
      apply hhead.trans
      exact ((takes_readGroups _ 0 middle).cons hcolon).cons hcolon
    · cases h

/-- An address is written in hexadecimal digits, full stops and colons. -/
theorem addressChar_of_parseIpAddr {s : String} {addr : IpAddr} (h : parseIpAddr s = some addr)
    {c : Char} (hc : c ∈ s.toList) : AddressChar c := by
  have htakes : Takes s.toList [] := by
    unfold parseIpAddr at h
    split at h
    · rename_i addr' hread
      unfold readIpAddr at hread
      split at hread
      · rename_i ipv4 rest hipv4
        rw [Option.some.injEq, Prod.mk.injEq] at hread
        rw [← hread.2]
        exact takesOnly_readIpv4Addr hipv4
      · simp only [Option.map_eq_some_iff, Prod.exists, Prod.mk.injEq] at hread
        obtain ⟨ipv6, rest, hipv6, -, rfl⟩ := hread
        exact takesOnly_readIpv6Addr hipv6
    · cases h
  obtain ⟨taken, htaken, hchars⟩ := htakes
  rw [htaken, List.append_nil] at hc
  exact hchars c hc

example : parseIpAddr "::ffff:1.2.3.4" = some (.v6 0xffff01020304#128) := by decide +kernel

example : parseIpAddr "1.2.3.04" = none := by decide +kernel

end Client
