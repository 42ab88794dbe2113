/-
# Who goes past the proxy

`client/network.rs`: a request goes direct when an entry of the host's `no_proxy` list
names its destination.  What an entry says is given here by a grammar, a wildcard, an
address literal, a block of addresses or a domain, and compared with what the code makes
of it.  The two part where the code reads a domain: it tries one on a host that is an
address, and it drops any run of stars and dots in front of one.
-/
import TinyConnectors.Client.IpAddr

namespace Client

open RustStr

/-! ## The code -/

/-- Whether the first `bits` of `width` bits agree; `none` where the subtraction or the
shift overflows. -/
def prefixMatches (network ip : BitVec 128) (width bits : ℕ) : Option Bool :=
  if bits = 0 then some true
  else if bits ≤ width then
    let shift := width - bits
    if shift < 128 then some (network >>> shift == ip >>> shift) else none
  else none

def inCidr (network : IpAddr) (bits : ℕ) (ip : IpAddr) : Option Bool :=
  match network, ip with
  | .v4 network, .v4 ip =>
    if bits ≤ 32 then prefixMatches (network.setWidth 128) (ip.setWidth 128) 32 bits
    else some false
  | .v6 network, .v6 ip => if bits ≤ 128 then prefixMatches network ip 128 bits else some false
  | _, _ => some false

/-- `str::parse::<u8>`. -/
def parseU8 (s : String) : Option ℕ := (parseU64 s).filter (· < 256)

def isBracket (c : Char) : Bool := c == '[' || c == ']'

/-- `str::trim_matches(['[', ']'])`. -/
def trimBrackets (s : String) : String :=
  String.ofList ((s.toList.dropWhile isBracket).rdropWhile isBracket)

def entryMatches (entry host : String) (ip : Option IpAddr) : Option Bool :=
  if entry = "*" then some true
  else
    match splitOnce entry '/' with
    | some (network, bits) =>
      match parseIpAddr network, parseU8 bits, ip with
      | some network, some bits, some ip => inCidr network bits ip
      | _, _, _ => some false
    | none =>
      match parseIpAddr (trimBrackets entry) with
      | some literal => some (ip == some literal)
      | none =>
        let domain := trimStartMatches (trimStartMatches entry '*') '.'
        some (domain != "" && (host == domain || endsWith host ("." ++ domain)))

/-- The host as it is compared. -/
def readHost (host : String) : String :=
  toAsciiLowercase (trimEndMatches (trimStartMatches (trim host) '[') ']')

/-- The pieces of the list, as they are compared. -/
def readPieces (entries : List String) : List String :=
  ((entries.flatMap (split · ',')).map fun entry => toAsciiLowercase (trim entry)).filter (· != "")

/-- Whether a request to `host` skips the proxy; `none` for a panic. -/
def bypassesProxy (entries : List String) (host : String) : Option Bool :=
  let host := readHost host
  let ip := parseIpAddr host
  (readPieces entries).anyM fun entry => entryMatches entry host ip

/-! ## What a piece says -/

/-- The width of an address, which tells the two families apart. -/
def IpAddr.width : IpAddr → ℕ
  | .v4 _ => 32
  | .v6 _ => 128

/-- The bits of an address, the leading one first. -/
def IpAddr.bit : IpAddr → ℕ → Bool
  | .v4 addr => addr.getMsbD
  | .v6 addr => addr.getMsbD

/-- A CIDR block: a network, and how many leading bits its addresses share with it. -/
structure Cidr where
  network : IpAddr
  bits : ℕ
  legal : bits ≤ network.width

/-- The addresses of a block. -/
def Cidr.Contains (block : Cidr) (ip : IpAddr) : Prop :=
  ip.width = block.network.width ∧ ∀ i < block.bits, ip.bit i = block.network.bit i

/-- A domain, with neither a star nor a dot in front. -/
structure Domain where
  name : String
  bare : ∃ c rest, name.toList = c :: rest ∧ c ≠ '*' ∧ c ≠ '.'

/-- What an entry can name. -/
inductive NoProxyEntry where
  | wildcard
  | address (ip : IpAddr)
  | block (block : Cidr)
  | domain (domain : Domain)

/-- How each kind of entry is written.  A piece with no reading is malformed. -/
inductive Reads : String → NoProxyEntry → Prop where
  | wildcard : Reads "*" .wildcard
  | address {piece : String} {ip : IpAddr} (h : parseIpAddr (trimBrackets piece) = some ip) :
    Reads piece (.address ip)
  | block {network width : String} {block : Cidr}
    (hnetwork : parseIpAddr network = some block.network)
    (hwidth : parseU64 width = some block.bits) (hplain : '+' ∉ width.toList) :
    Reads (network ++ "/" ++ width) (.block block)
  | domain {piece : String} {domain : Domain}
    (h : piece = domain.name ∨ piece = "." ++ domain.name ∨ piece = "*." ++ domain.name)
    (hliteral : parseIpAddr (trimBrackets piece) = none) (hslash : '/' ∉ piece.toList) :
    Reads piece (.domain domain)

/-- The host is `name`, or a label boundary of the host stands before `name`. -/
def IsOrUnder (host name : String) : Prop := host = name ∨ ∃ labels, host = labels ++ "." ++ name

/-- The hosts an entry names. -/
def NamesHost (host : String) : NoProxyEntry → Prop
  | .wildcard => True
  | .address ip => parseIpAddr host = some ip
  | .block block => ∃ ip, parseIpAddr host = some ip ∧ block.Contains ip
  | .domain domain => parseIpAddr host = none ∧ IsOrUnder host domain.name

/-- The piece is an entry for this host. -/
def NamedBy (host piece : String) : Prop := ∃ entry, Reads piece entry ∧ NamesHost host entry

/-- A piece of the list: what stands between commas, without its padding and in lower case. -/
def Listed (entries : List String) (piece : String) : Prop :=
  ∃ entry ∈ entries, ∃ part ∈ split entry ',', piece = toAsciiLowercase (trim part)

/-- A request goes direct exactly when a piece of the list names its host. -/
def BypassLaw (entries : List String) (host : String) : Prop :=
  ∃ direct, bypassesProxy entries host = some direct ∧
    (direct = true ↔ ∃ piece, Listed entries piece ∧ NamedBy (readHost host) piece)

/-- What is left of a piece behind a run of stars and a run of dots. -/
def looseDomain (piece : String) : String := trimStartMatches (trimStartMatches piece '*') '.'

/-- How a piece that does not name the host can still let it past the proxy. -/
inductive Misread (host piece : String) : Prop where
  /-- A host that is an address, or a malformed piece, compared as domains are. -/
  | domain (hslash : '/' ∉ piece.toList) (hliteral : parseIpAddr (trimBrackets piece) = none)
    (hname : looseDomain piece ≠ "") (hunder : IsOrUnder host (looseDomain piece))
    (hkind : (∃ ip, parseIpAddr host = some ip) ∨ ∀ entry, ¬ Reads piece entry)
  /-- A block whose width has a sign. -/
  | signed {network width : String} {block : Cidr} (hpiece : piece = network ++ "/+" ++ width)
    (hnetwork : parseIpAddr network = some block.network)
    (hwidth : parseU64 width = some block.bits) (hplain : '+' ∉ width.toList)
    (hnames : NamesHost host (.block block))

/-! ## Blocks -/

/-- Two addresses shifted alike are equal when their leading bits are. -/
theorem ushiftRight_eq_iff {width bits : ℕ} (hwidth : width ≤ 128) (hbits : bits ≤ width)
    (x y : BitVec width) :
    x.setWidth 128 >>> (width - bits) = y.setWidth 128 >>> (width - bits) ↔
      ∀ i < bits, x.getMsbD i = y.getMsbD i := by
  constructor
  · intro heq i hi
    have hbit := congrArg (BitVec.getLsbD · (bits - 1 - i)) heq
    have hplace : width - bits + (bits - 1 - i) = width - 1 - i := by omega
    simp only [BitVec.getLsbD_ushiftRight, BitVec.getLsbD_setWidth, hplace] at hbit
    have hin : width - 1 - i < 128 := by omega
    have hlt : i < width := by omega
    simpa [BitVec.getMsbD, hin, hlt] using hbit
  · intro h
    apply BitVec.eq_of_getLsbD_eq
    intro j hj
    simp only [BitVec.getLsbD_ushiftRight, BitVec.getLsbD_setWidth]
    by_cases hinside : width - bits + j < width
    · have hbit := h (bits - 1 - j) (by omega)
      have hlt : bits - 1 - j < width := by omega
      have hplace : width - 1 - (bits - 1 - j) = width - bits + j := by omega
      simp only [BitVec.getMsbD, hplace, hlt, decide_true, Bool.true_and] at hbit
      rw [hbit]
    · rw [BitVec.getLsbD_of_ge x _ (by omega), BitVec.getLsbD_of_ge y _ (by omega)]

theorem prefixMatches_eq {width bits : ℕ} (hwidth : width ≤ 128) (hbits : bits ≤ width)
    (x y : BitVec width) :
    prefixMatches (x.setWidth 128) (y.setWidth 128) width bits =
      some (decide (∀ i < bits, x.getMsbD i = y.getMsbD i)) := by
  unfold prefixMatches
  by_cases hzero : bits = 0
  · subst hzero
    simp
  · -- a block that is not everything shifts by less than the width
    have hshift : width - bits < 128 := by omega
    rw [if_neg hzero, if_pos hbits]
    dsimp only
    rw [if_pos hshift, Option.some_inj, Bool.eq_iff_iff, beq_iff_eq, decide_eq_true_iff]
    exact ushiftRight_eq_iff hwidth hbits x y

/-- No width makes the comparison overflow, and a block has its own family's addresses. -/
theorem inCidr_eq (network ip : IpAddr) (bits : ℕ) :
    ∃ inside, inCidr network bits ip = some inside ∧
      (inside = true ↔ bits ≤ network.width ∧ ip.width = network.width ∧
        ∀ i < bits, ip.bit i = network.bit i) := by
  cases network with
  | v4 network =>
    cases ip with
    | v4 ip =>
      by_cases hbits : bits ≤ 32
      · have hsame := prefixMatches_eq (by omega) hbits network ip
        exact ⟨_, (if_pos hbits).trans hsame, by simp [IpAddr.width, IpAddr.bit, hbits, eq_comm]⟩
      · exact ⟨false, if_neg hbits, by simp [IpAddr.width, hbits]⟩
    | v6 ip => exact ⟨false, rfl, by simp [IpAddr.width]⟩
  | v6 network =>
    cases ip with
    | v4 ip => exact ⟨false, rfl, by simp [IpAddr.width]⟩
    | v6 ip =>
      by_cases hbits : bits ≤ 128
      · have hsame := prefixMatches_eq le_rfl hbits network ip
        rw [BitVec.setWidth_eq, BitVec.setWidth_eq] at hsame
        exact ⟨_, (if_pos hbits).trans hsame, by simp [IpAddr.width, IpAddr.bit, hbits, eq_comm]⟩
      · exact ⟨false, if_neg hbits, by simp [IpAddr.width, hbits]⟩

/-! ## Readings -/

theorem mem_trimBrackets {c : Char} (hc : isBracket c = false) {s : String} (h : c ∈ s.toList) :
    c ∈ (trimBrackets s).toList := by
  rw [trimBrackets, String.toList_ofList, List.rdropWhile, List.mem_reverse,
    mem_dropWhile_of_not hc, List.mem_reverse, mem_dropWhile_of_not hc]
  exact h

theorem slash_notMem_of_parseIpAddr {s : String} {ip : IpAddr} (h : parseIpAddr s = some ip) :
    '/' ∉ s.toList := by
  intro hslash
  rcases addressChar_of_parseIpAddr h hslash with hdigit | hdot | hcolon
  · cases hdigit
  · cases hdot
  · cases hcolon

/-- A literal has no slash, with its brackets or without. -/
theorem slash_notMem_of_literal {piece : String} {ip : IpAddr}
    (h : parseIpAddr (trimBrackets piece) = some ip) : '/' ∉ piece.toList := by
  intro hslash
  exact slash_notMem_of_parseIpAddr h (mem_trimBrackets (by decide) hslash)

/-- A sign in front of a number changes nothing. -/
theorem parseU64_sign {width : String} (hplain : '+' ∉ width.toList) :
    parseU64 ("+" ++ width) = parseU64 width := by
  have hhead : width.toList.head? ≠ some '+' := fun h => hplain (List.mem_of_head? h)
  unfold parseU64
  simp [hhead]

/-- And there is no sign but that one. -/
theorem sign_of_parseU64 {s : String} {n : ℕ} (h : parseU64 s = some n) :
    '+' ∉ s.toList ∨ ∃ width, s = "+" ++ width ∧ '+' ∉ width.toList := by
  have hdigit : ∀ l : List Char, l.all Char.isDigit = true → '+' ∉ l := by
    intro l hall hmem
    cases List.all_eq_true.mp hall '+' hmem
  unfold parseU64 at h
  dsimp only at h
  split_ifs at h with hhead hdigits
  · rw [Bool.or_eq_true, not_or, Bool.not_eq_true', Bool.not_eq_false] at hdigits
    obtain ⟨l, hl⟩ := List.head?_eq_some_iff.mp hhead
    right
    refine ⟨String.ofList l, ?_, ?_⟩
    · rw [← String.toList_inj, hl]
      simp
    · rw [hl] at hdigits
      rw [String.toList_ofList]
      exact hdigit l hdigits.2
  · rename_i hdigits _
    rw [Bool.or_eq_true, not_or, Bool.not_eq_true', Bool.not_eq_false] at hdigits
    left
    exact hdigit _ hdigits.2

/-- A width is its digits, behind a sign or alone. -/
theorem parseU8_eq_some_iff {s : String} {n : ℕ} :
    parseU8 s = some n ↔ n < 256 ∧ ((parseU64 s = some n ∧ '+' ∉ s.toList) ∨
      ∃ width, s = "+" ++ width ∧ parseU64 width = some n ∧ '+' ∉ width.toList) := by
  rw [parseU8, Option.filter_eq_some_iff, decide_eq_true_iff, and_comm]
  apply and_congr_right
  intro _
  constructor
  · intro h
    rcases sign_of_parseU64 h with hplain | ⟨width, rfl, hplain⟩
    · exact Or.inl ⟨h, hplain⟩
    · rw [parseU64_sign hplain] at h
      exact Or.inr ⟨width, rfl, h, hplain⟩
  · rintro (⟨h, -⟩ | ⟨width, rfl, h, hplain⟩)
    · exact h
    · rw [parseU64_sign hplain]
      exact h

/-! ## A piece with a slash -/

theorem splitOnce_slash_iff {piece network bits : String} :
    splitOnce piece '/' = some (network, bits) ↔
      piece = network ++ "/" ++ bits ∧ '/' ∉ network.toList :=
  splitOnce_eq_some_iff

/-- A piece with a slash is a block or nothing. -/
theorem reads_slash_iff {piece network bits : String} {entry : NoProxyEntry}
    (hsplit : splitOnce piece '/' = some (network, bits)) :
    Reads piece entry ↔ ∃ block : Cidr, entry = .block block ∧
      parseIpAddr network = some block.network ∧ parseU64 bits = some block.bits ∧
      '+' ∉ bits.toList := by
  obtain ⟨hpiece, -⟩ := splitOnce_slash_iff.mp hsplit
  have hslash : '/' ∈ piece.toList := by simp [hpiece]
  constructor
  · intro h
    cases h with
    | wildcard => simp at hslash
    | address h => exact absurd hslash (slash_notMem_of_literal h)
    | block hnetwork hwidth hplain =>
      -- the network has no slash, so this is the first one
      rw [splitOnce_slash_iff.mpr ⟨rfl, slash_notMem_of_parseIpAddr hnetwork⟩, Option.some.injEq,
        Prod.mk.injEq] at hsplit
      obtain ⟨rfl, rfl⟩ := hsplit
      exact ⟨_, rfl, hnetwork, hwidth, hplain⟩
    | domain h hliteral hno => exact absurd hslash hno
  · rintro ⟨block, rfl, hnetwork, hwidth, hplain⟩
    rw [hpiece]
    exact Reads.block hnetwork hwidth hplain

/-- What the code takes for a block is one, but for a sign of its width. -/
theorem named_or_misread_slash {host piece network bits : String}
    (hsplit : splitOnce piece '/' = some (network, bits)) :
    NamedBy host piece ∨ Misread host piece ↔ ∃ block : Cidr,
      parseIpAddr network = some block.network ∧ parseU8 bits = some block.bits ∧
      NamesHost host (.block block) := by
  obtain ⟨hpiece, hfirst⟩ := splitOnce_slash_iff.mp hsplit
  have hsmall : ∀ block : Cidr, block.bits < 256 := by
    intro block
    have hlegal := block.legal
    have hwidth : block.network.width ≤ 128 := by
      cases block.network <;> simp [IpAddr.width]
    omega
  constructor
  · rintro (⟨entry, hread, hnames⟩ | hmisread)
    · obtain ⟨block, rfl, hnetwork, hwidth, hplain⟩ := (reads_slash_iff hsplit).mp hread
      refine ⟨block, hnetwork, ?_, hnames⟩
      exact parseU8_eq_some_iff.mpr ⟨hsmall block, Or.inl ⟨hwidth, hplain⟩⟩
    · cases hmisread with
      | domain hslash => simp [hpiece] at hslash
      | signed hsigned hnetwork hwidth hplain hnames =>
        rename_i network' width block
        -- the sign belongs to what stands behind the first slash
        have hrest : piece = network' ++ "/" ++ ("+" ++ width) := by
          rw [hsigned, ← String.toList_inj]
          simp
        rw [splitOnce_slash_iff.mpr ⟨hrest, slash_notMem_of_parseIpAddr hnetwork⟩,
          Option.some.injEq, Prod.mk.injEq] at hsplit
        obtain ⟨rfl, rfl⟩ := hsplit
        refine ⟨block, hnetwork, ?_, hnames⟩
        exact parseU8_eq_some_iff.mpr ⟨hsmall block, Or.inr ⟨width, rfl, hwidth, hplain⟩⟩
  · rintro ⟨block, hnetwork, hbits, hnames⟩
    rcases (parseU8_eq_some_iff.mp hbits).2 with ⟨hwidth, hplain⟩ | ⟨width, rfl, hwidth, hplain⟩
    · left
      exact ⟨.block block, (reads_slash_iff hsplit).mpr ⟨block, rfl, hnetwork, hwidth, hplain⟩,
        hnames⟩
    · right
      have hsigned : piece = network ++ "/+" ++ width := by
        rw [hpiece, ← String.toList_inj]
        simp
      exact Misread.signed hsigned hnetwork hwidth hplain hnames

theorem entryMatches_slash {host piece network bits : String}
    (hsplit : splitOnce piece '/' = some (network, bits)) :
    ∃ direct, entryMatches piece host (parseIpAddr host) = some direct ∧
      (direct = true ↔ NamedBy host piece ∨ Misread host piece) := by
  have hstar : piece ≠ "*" := by
    rintro rfl
    cases hsplit
  rw [named_or_misread_slash hsplit]
  unfold entryMatches
  rw [if_neg hstar, hsplit]
  dsimp only
  -- a block needs a network, a width and a host that is an address
  cases hnetwork : parseIpAddr network with
  | none => exact ⟨false, rfl, by simp⟩
  | some network =>
    cases hbits : parseU8 bits with
    | none => exact ⟨false, rfl, by simp⟩
    | some bits =>
      cases hip : parseIpAddr host with
      | none => exact ⟨false, rfl, by simp [NamesHost, hip]⟩
      | some ip =>
        obtain ⟨inside, hinside, hiff⟩ := inCidr_eq network ip bits
        refine ⟨inside, hinside, hiff.trans ?_⟩
        constructor
        · rintro ⟨hlegal, hwidth, hsame⟩
          exact ⟨⟨network, bits, hlegal⟩, rfl, rfl, ip, hip, hwidth, hsame⟩
        · rintro ⟨block, hnet, hwidth, ip', hip', hfamily, hsame⟩
          rw [Option.some_inj] at hnet hwidth
          rw [hip, Option.some_inj] at hip'
          subst hnet hwidth hip'
          exact ⟨block.legal, hfamily, hsame⟩

/-! ## A piece without one -/

/-- A piece with brackets or without them that is a literal says nothing else. -/
theorem entryMatches_literal {host piece : String} {ip : IpAddr} (hstar : piece ≠ "*")
    (hslash : '/' ∉ piece.toList) (hliteral : parseIpAddr (trimBrackets piece) = some ip) :
    ∃ direct, entryMatches piece host (parseIpAddr host) = some direct ∧
      (direct = true ↔ NamedBy host piece ∨ Misread host piece) := by
  refine ⟨parseIpAddr host == some ip, ?_, ?_⟩
  · unfold entryMatches
    rw [if_neg hstar, splitOnce_eq_none_iff.mpr hslash]
    dsimp only
    rw [hliteral]
  rw [beq_iff_eq]
  constructor
  · intro h
    exact Or.inl ⟨.address ip, Reads.address hliteral, h⟩
  · rintro (⟨entry, hread, hnames⟩ | hmisread)
    · cases hread with
      | wildcard => exact absurd rfl hstar
      | address h =>
        rw [hliteral, Option.some_inj] at h
        rw [h]
        exact hnames
      | block => simp at hslash
      | domain h hnone => simp [hliteral] at hnone
    · cases hmisread with
      | domain hno hnone => simp [hliteral] at hnone
      | signed hsigned => simp [hsigned] at hslash

/-- A domain is what is left of its piece, however it was written. -/
theorem looseDomain_eq {piece : String} {domain : Domain}
    (h : piece = domain.name ∨ piece = "." ++ domain.name ∨ piece = "*." ++ domain.name) :
    looseDomain piece = domain.name := by
  obtain ⟨c, rest, hname, hstar, hdot⟩ := domain.bare
  have hstars : domain.name.toList.dropWhile (· == '*') = domain.name.toList := by
    simp [hname, hstar]
  have hdots : domain.name.toList.dropWhile (· == '.') = domain.name.toList := by
    simp [hname, hdot]
  rw [← String.toList_inj, looseDomain, trimStartMatches, trimStartMatches, String.toList_ofList,
    String.toList_ofList]
  rcases h with rfl | rfl | rfl
  · rw [hstars, hdots]
  · simp [hdots]
  · simp [hdots]

theorem isOrUnder_iff {host name : String} :
    (host == name || endsWith host ("." ++ name)) = true ↔ IsOrUnder host name := by
  rw [Bool.or_eq_true, beq_iff_eq, endsWith_iff, IsOrUnder]
  simp only [String.append_assoc]

/-- A domain is told from nothing by its reading; what is left of a malformed piece, and of any
piece tried on an address, is compared all the same. -/
theorem named_or_misread_domain {host piece : String} (hstar : piece ≠ "*")
    (hslash : '/' ∉ piece.toList) (hliteral : parseIpAddr (trimBrackets piece) = none) :
    NamedBy host piece ∨ Misread host piece ↔
      looseDomain piece ≠ "" ∧ IsOrUnder host (looseDomain piece) := by
  have hdomain : ∀ {entry}, Reads piece entry →
      ∃ domain : Domain, entry = .domain domain ∧ looseDomain piece = domain.name := by
    intro entry hread
    cases hread with
    | wildcard => exact absurd rfl hstar
    | address h => simp [hliteral] at h
    | block => simp at hslash
    | domain h => exact ⟨_, rfl, looseDomain_eq h⟩
  constructor
  · rintro (⟨entry, hread, hnames⟩ | hmisread)
    · obtain ⟨domain, rfl, hname⟩ := hdomain hread
      obtain ⟨c, rest, hbare, -⟩ := domain.bare
      refine ⟨?_, ?_⟩
      · rintro hempty
        rw [← hname, hempty] at hbare
        cases hbare
      · rw [hname]
        exact hnames.2
    · cases hmisread with
      | domain hno hnone hname hunder => exact ⟨hname, hunder⟩
      | signed hsigned => simp [hsigned] at hslash
  · rintro ⟨hname, hunder⟩
    by_cases hread : ∃ entry, Reads piece entry
    · cases hip : parseIpAddr host with
      | none =>
        -- the domain names the host
        obtain ⟨entry, hread⟩ := hread
        obtain ⟨domain, rfl, hloose⟩ := hdomain hread
        left
        refine ⟨_, hread, hip, ?_⟩
        rw [← hloose]
        exact hunder
      | some ip =>
        right
        exact Misread.domain hslash hliteral hname hunder (Or.inl ⟨ip, hip⟩)
    · right
      exact Misread.domain hslash hliteral hname hunder (Or.inr (not_exists.mp hread))

theorem entryMatches_domain {host piece : String} (hstar : piece ≠ "*")
    (hslash : '/' ∉ piece.toList) (hliteral : parseIpAddr (trimBrackets piece) = none) :
    ∃ direct, entryMatches piece host (parseIpAddr host) = some direct ∧
      (direct = true ↔ NamedBy host piece ∨ Misread host piece) := by
  rw [named_or_misread_domain hstar hslash hliteral]
  unfold entryMatches
  rw [if_neg hstar, splitOnce_eq_none_iff.mpr hslash]
  dsimp only
  rw [hliteral]
  refine ⟨_, rfl, ?_⟩
  rw [Bool.and_eq_true, bne_iff_ne, isOrUnder_iff]
  rfl

/-! ## The list -/

/-- The code never panics on a piece, and lets a host past the proxy by the pieces that name it and
the pieces it misreads. -/
theorem entryMatches_eq (host piece : String) :
    ∃ direct, entryMatches piece host (parseIpAddr host) = some direct ∧
      (direct = true ↔ NamedBy host piece ∨ Misread host piece) := by
  by_cases hstar : piece = "*"
  · subst hstar
    refine ⟨true, rfl, ?_⟩
    simp only [true_iff]
    exact Or.inl ⟨.wildcard, Reads.wildcard, trivial⟩
  · cases hsplit : splitOnce piece '/' with
    | some parts => exact entryMatches_slash hsplit
    | none =>
      have hslash := splitOnce_eq_none_iff.mp hsplit
      cases hliteral : parseIpAddr (trimBrackets piece) with
      | some ip => exact entryMatches_literal hstar hslash hliteral
      | none => exact entryMatches_domain hstar hslash hliteral

/-- A question asked of every element in turn, when none of them fails. -/
theorem anyM_eq_some {α : Type} {f : α → Option Bool} {P : α → Prop} {l : List α}
    (h : ∀ x ∈ l, ∃ answer, f x = some answer ∧ (answer = true ↔ P x)) :
    ∃ answer, l.anyM f = some answer ∧ (answer = true ↔ ∃ x ∈ l, P x) := by
  induction l with
  | nil => exact ⟨false, rfl, by simp⟩
  | cons x l ih =>
    obtain ⟨first, hfirst, hx⟩ := h x List.mem_cons_self
    obtain ⟨others, hothers, hl⟩ := ih fun y hy => h y (List.mem_cons_of_mem x hy)
    cases first with
    | true =>
      refine ⟨true, by simp [List.anyM, hfirst], ?_⟩
      simp [← hx]
    | false =>
      refine ⟨others, by simp [List.anyM, hfirst, hothers], ?_⟩
      have hnot : ¬ P x := by simpa using hx.not.mp
      simp [hl, hnot]

/-- The pieces compared are the pieces listed, but for the empty one. -/
theorem mem_readPieces {entries : List String} {piece : String} :
    piece ∈ readPieces entries ↔ Listed entries piece ∧ piece ≠ "" := by
  simp only [readPieces, Listed, List.mem_filter, List.mem_map, List.mem_flatMap, bne_iff_ne]
  grind

theorem not_named_or_misread_empty (host : String) : ¬ (NamedBy host "" ∨ Misread host "") := by
  have hnone : parseIpAddr (trimBrackets "") = none := by decide
  rw [named_or_misread_domain (by decide) (by decide) hnone]
  exact fun h => h.1 rfl

/-- What the code answers for a list: whether a piece names the host or is misread. -/
theorem bypassesProxy_eq (entries : List String) (host : String) :
    ∃ direct, bypassesProxy entries host = some direct ∧ (direct = true ↔ ∃ piece,
      Listed entries piece ∧ (NamedBy (readHost host) piece ∨ Misread (readHost host) piece)) := by
  obtain ⟨direct, hdirect, hiff⟩ := anyM_eq_some (l := readPieces entries)
    fun piece _ => entryMatches_eq (readHost host) piece
  refine ⟨direct, hdirect, hiff.trans ?_⟩
  constructor
  · rintro ⟨piece, hpiece, hmatch⟩
    exact ⟨piece, (mem_readPieces.mp hpiece).1, hmatch⟩
  · rintro ⟨piece, hlisted, hmatch⟩
    refine ⟨piece, mem_readPieces.mpr ⟨hlisted, ?_⟩, hmatch⟩
    rintro rfl
    exact not_named_or_misread_empty _ hmatch

/-- Every list is answered for every host, and the answer is what the list says if and only if some
piece names the host or no piece is misread. -/
theorem bypassLaw_iff (entries : List String) (host : String) :
    (∃ direct, bypassesProxy entries host = some direct) ∧
      (BypassLaw entries host ↔ (∃ piece, Listed entries piece ∧ NamedBy (readHost host) piece) ∨
        ∀ piece, Listed entries piece → ¬ Misread (readHost host) piece) := by
  obtain ⟨direct, hdirect, hiff⟩ := bypassesProxy_eq entries host
  refine ⟨⟨direct, hdirect⟩, ?_⟩
  constructor
  · rintro ⟨direct', hdirect', hlaw⟩
    rw [hdirect, Option.some_inj] at hdirect'
    subst hdirect'
    -- a misread piece makes the answer true, so that some piece has to name the host
    by_cases hmisread : ∃ piece, Listed entries piece ∧ Misread (readHost host) piece
    · obtain ⟨piece, hlisted, hmisread⟩ := hmisread
      exact Or.inl (hlaw.mp (hiff.mpr ⟨piece, hlisted, Or.inr hmisread⟩))
    · right
      intro piece hlisted h
      exact hmisread ⟨piece, hlisted, h⟩
  · intro hcond
    refine ⟨direct, hdirect, hiff.trans ?_⟩
    constructor
    · rintro ⟨piece, hlisted, hnamed | hmisread⟩
      · exact ⟨piece, hlisted, hnamed⟩
      · rcases hcond with hnamed | hnone
        · exact hnamed
        · exact absurd hmisread (hnone piece hlisted)
    · rintro ⟨piece, hlisted, hnamed⟩
      exact ⟨piece, hlisted, Or.inl hnamed⟩

/-- An address goes past the proxy by the last labels of its text. -/
theorem not_bypassLaw_last_octets : ¬ BypassLaw ["0.1"] "10.0.0.1" := by
  rintro ⟨direct, hdirect, hlaw⟩
  have hdirect' : bypassesProxy ["0.1"] "10.0.0.1" = some true := by decide +kernel
  have hhost : (parseIpAddr (readHost "10.0.0.1")).isSome = true := by decide +kernel
  rw [hdirect', Option.some_inj] at hdirect
  obtain ⟨piece, ⟨entry, hentry, part, hpart, hpiece⟩, named, hread, hnames⟩ := hlaw.mp hdirect.symm
  have hsplit : split "0.1" ',' = ["0.1"] := by decide +kernel
  have hclean : toAsciiLowercase (trim "0.1") = "0.1" := by decide +kernel
  rw [List.mem_singleton] at hentry
  rw [hentry, hsplit, List.mem_singleton] at hpart
  rw [hpart, hclean] at hpiece
  cases hread with
  | wildcard => exact absurd hpiece (by decide)
  | address h =>
    have hnone : parseIpAddr (trimBrackets "0.1") = none := by decide +kernel
    simp [hpiece, hnone] at h
  | block =>
    have hslash : '/' ∉ "0.1".toList := by decide
    simp [← hpiece] at hslash
  | domain => simp [hnames.1] at hhost

example : bypassesProxy ["**.example.com"] "api.example.com" = some true := by decide +kernel

example : bypassesProxy ["10.0.0.0/+8"] "10.1.2.3" = some true := by decide +kernel

end Client
