/-
# Lower case

`str::to_lowercase` maps character by character, except that the capital sigma becomes a
final sigma at the end of a word.  What is lower-cased stays as it is when it is lower-cased
again: no image of the mapping has an image of its own.  White space is neither made nor
taken away.
-/
import TinyConnectors.RustStr

namespace RustStr

/-! ## Case mappings -/

/-- The case data of a version of Unicode, and what holds of it in every version. -/
structure Lowercase where
  /-- `char::to_lowercase`, without regard to what stands beside the character. -/
  toLower : Char → List Char
  cased : Char → Bool
  caseIgnorable : Char → Bool
  nonempty : ∀ c, toLower c ≠ []
  ascii : ∀ c : Char, c.toNat < 128 → toLower c = [c.toLower]
  settled : ∀ c, ∀ d ∈ toLower c, d ≠ 'Σ' ∧ toLower d = [d]
  sigmas : toLower 'σ' = ['σ'] ∧ toLower 'ς' = ['ς']
  white : ∀ c, ∀ d ∈ toLower c, isWhitespace d = isWhitespace c
  asciiOnly : ∀ c, ∀ d ∈ toLower c, d.toNat < 128 → d.isLower = false → d = c

namespace Lowercase

variable (table : Lowercase)

/-- Behind characters that do not count, one that has a case. -/
def caseIgnorableThenCased (l : List Char) : Bool :=
  match l.dropWhile table.caseIgnorable with
  | c :: _ => table.cased c
  | [] => false

/-- The small sigma for a capital one, by what stands on both sides of it. -/
def mapUppercaseSigma (before after : List Char) : Char :=
  if table.caseIgnorableThenCased before && !table.caseIgnorableThenCased after then 'ς' else 'σ'

/-- What a character becomes at its place. -/
def lowerAt (before : List Char) (c : Char) (after : List Char) : List Char :=
  if c = 'Σ' then [table.mapUppercaseSigma before after] else table.toLower c

/-- The characters of a text in lower case; `before` is what stands before them, backwards. -/
def lowerFrom (before : List Char) : List Char → List Char
  | [] => []
  | c :: after => table.lowerAt before c after ++ lowerFrom (c :: before) after

/-- `str::to_lowercase`. -/
def toLowercase (s : String) : String := String.ofList (table.lowerFrom [] s.toList)

/-! ## What lower-casing keeps -/

/-- A character that lower-casing keeps. -/
def Settled (c : Char) : Prop := c ≠ 'Σ' ∧ table.toLower c = [c]

variable {table}

theorem lowerAt_ne_nil (table : Lowercase) (before : List Char) (c : Char) (after : List Char) :
    table.lowerAt before c after ≠ [] := by
  unfold lowerAt
  split_ifs
  · exact List.cons_ne_nil _ _
  · exact table.nonempty c

theorem mapUppercaseSigma_eq_or (table : Lowercase) (before after : List Char) :
    table.mapUppercaseSigma before after = 'ς' ∨ table.mapUppercaseSigma before after = 'σ' := by
  unfold mapUppercaseSigma
  split_ifs
  · exact .inl rfl
  · exact .inr rfl

theorem settled_of_mem_lowerAt {before : List Char} {c : Char} {after : List Char} {d : Char}
    (h : d ∈ table.lowerAt before c after) : table.Settled d := by
  unfold lowerAt at h
  split_ifs at h
  · rw [List.mem_singleton] at h
    rcases mapUppercaseSigma_eq_or table before after with hsigma | hsigma
    · rw [h, hsigma]
      exact ⟨by decide, table.sigmas.2⟩
    · rw [h, hsigma]
      exact ⟨by decide, table.sigmas.1⟩
  · exact table.settled c d h

theorem isWhitespace_of_mem_lowerAt {before : List Char} {c : Char} {after : List Char} {d : Char}
    (h : d ∈ table.lowerAt before c after) : isWhitespace d = isWhitespace c := by
  unfold lowerAt at h
  split_ifs at h with hc
  · rw [List.mem_singleton] at h
    rw [h, hc]
    rcases mapUppercaseSigma_eq_or table before after with hsigma | hsigma
    · rw [hsigma]
      decide
    · rw [hsigma]
      decide
  · exact table.white c d h

/-- A sign of ASCII that is no letter comes from itself. -/
theorem eq_of_mem_lowerAt {before : List Char} {c : Char} {after : List Char} {d : Char}
    (h : d ∈ table.lowerAt before c after) (hascii : d.toNat < 128) (hd : d.isLower = false) :
    d = c := by
  unfold lowerAt at h
  split_ifs at h with hc
  · rw [List.mem_singleton] at h
    rcases mapUppercaseSigma_eq_or table before after with hsigma | hsigma
    · rw [h, hsigma] at hascii
      exact absurd hascii (by decide)
    · rw [h, hsigma] at hascii
      exact absurd hascii (by decide)
  · exact table.asciiOnly c d h hascii hd

theorem settled_of_mem_lowerFrom {before l : List Char} {d : Char}
    (h : d ∈ table.lowerFrom before l) : table.Settled d := by
  induction l generalizing before with
  | nil => cases h
  | cons c after ih =>
    rcases List.mem_append.mp h with h | h
    · exact settled_of_mem_lowerAt h
    · exact ih h

theorem lowerFrom_of_settled {l : List Char} (h : ∀ c ∈ l, table.Settled c) (before : List Char) :
    table.lowerFrom before l = l := by
  induction l generalizing before with
  | nil => rfl
  | cons c after ih =>
    obtain ⟨hsigma, hlower⟩ := h c List.mem_cons_self
    have hafter := ih (fun d hd => h d (List.mem_cons_of_mem c hd)) (c :: before)
    rw [lowerFrom, lowerAt, if_neg hsigma, hlower, hafter, List.singleton_append]

/-- Lower-casing twice is lower-casing once. -/
@[simp] theorem toLowercase_toLowercase (s : String) :
    table.toLowercase (table.toLowercase s) = table.toLowercase s := by
  unfold toLowercase
  rw [String.toList_ofList, lowerFrom_of_settled]
  intro c hc
  exact settled_of_mem_lowerFrom hc

theorem lowerFrom_eq_nil_iff {before l : List Char} : table.lowerFrom before l = [] ↔ l = [] := by
  cases l with
  | nil => exact ⟨fun _ => rfl, fun _ => rfl⟩
  | cons c after =>
    refine iff_of_false ?_ (List.cons_ne_nil _ _)
    exact List.append_ne_nil_of_left_ne_nil (lowerAt_ne_nil table before c after) _

theorem toLowercase_eq_empty_iff {s : String} : table.toLowercase s = "" ↔ s = "" := by
  unfold toLowercase
  constructor
  · intro h
    have hlist := congrArg String.toList h
    rw [String.toList_ofList] at hlist
    exact String.toList_injective (lowerFrom_eq_nil_iff.mp hlist)
  · rintro rfl
    rfl

/-- The first character comes from the first. -/
theorem head?_lowerFrom {before after : List Char} {c d : Char}
    (h : (table.lowerFrom before (c :: after)).head? = some d) :
    d ∈ table.lowerAt before c after := by
  unfold lowerFrom at h
  obtain ⟨first, rest, hfirst⟩ := List.exists_cons_of_ne_nil (lowerAt_ne_nil table before c after)
  rw [hfirst, List.cons_append, List.head?_cons] at h
  rw [hfirst, ← Option.some_inj.mp h]
  exact List.mem_cons_self

theorem getLast?_lowerFrom {before l : List Char} {c d : Char} (hlast : l.getLast? = some c)
    (h : (table.lowerFrom before l).getLast? = some d) :
    ∃ before', d ∈ table.lowerAt before' c [] := by
  induction l generalizing before with
  | nil => cases hlast
  | cons x after ih =>
    cases after with
    | nil =>
      obtain rfl : x = c := Option.some_inj.mp hlast
      refine ⟨before, ?_⟩
      unfold lowerFrom lowerFrom at h
      rw [List.append_nil] at h
      exact List.mem_of_getLast? h
    | cons y after =>
      rw [List.getLast?_cons_cons] at hlast
      have hne : table.lowerFrom (x :: before) (y :: after) ≠ [] := by
        rw [Ne, lowerFrom_eq_nil_iff]
        exact List.cons_ne_nil _ _
      unfold lowerFrom at h
      rw [List.getLast?_append_of_ne_nil _ hne] at h
      exact ih hlast h

/-- Lower-casing keeps the ends of a text clean. -/
theorem trim_toLowercase {s : String} (h : trim s = s) :
    trim (table.toLowercase s) = table.toLowercase s := by
  have hends : Unpadded s.toList := by
    rw [← h, toList_trim]
    exact unpadded_trimChars _
  apply String.toList_injective
  rw [toList_trim]
  apply trimChars_eq_self
  unfold toLowercase
  rw [String.toList_ofList]
  cases hs : s.toList with
  | nil => exact ⟨fun hne => absurd rfl hne, fun hne => absurd rfl hne⟩
  | cons c after =>
    rw [hs] at hends
    constructor
    · intro hne
      have hhead := head?_lowerFrom (List.head?_eq_some_head hne)
      rw [isWhitespace_of_mem_lowerAt hhead]
      exact hends.1 (List.cons_ne_nil c after)
    · intro hne
      have hcons := List.cons_ne_nil c after
      obtain ⟨before', hlast⟩ := getLast?_lowerFrom (List.getLast?_eq_some_getLast hcons)
        (List.getLast?_eq_some_getLast hne)
      rw [isWhitespace_of_mem_lowerAt hlast]
      exact hends.2 hcons

end Lowercase

/-! ## A table -/

/-- A run of capital letters, every one or every other, and the first of their small letters. -/
structure CaseRun where
  first : ℕ
  last : ℕ
  step : ℕ
  image : ℕ

namespace CaseRun

def covers (run : CaseRun) (n : ℕ) : Bool :=
  run.first.ble n && n.ble run.last && ((n - run.first) % run.step).beq 0

/-- The small letters, as a run. -/
def images (run : CaseRun) : CaseRun :=
  ⟨run.image, run.image + (run.last - run.first), run.step, run.image⟩

/-- No letter of the one run is one of the other: they do not meet, or they alternate. -/
def apart (run other : CaseRun) : Bool :=
  run.last.blt other.first || other.last.blt run.first ||
    (run.step.beq 2 && other.step.beq 2 && ((run.first + other.first) % 2).beq 1)

theorem not_covers_of_apart {run other : CaseRun} (h : run.apart other = true) {n : ℕ}
    (hn : run.covers n = true) : other.covers n = false := by
  rw [← Bool.not_eq_true]
  intro hother
  simp only [covers, apart, Bool.and_eq_true, Bool.or_eq_true, Nat.ble_eq, Nat.blt_eq,
    Nat.beq_eq] at *
  obtain ⟨⟨hfirst, hlast⟩, hstep⟩ := hn
  obtain ⟨⟨hfirst', hlast'⟩, hstep'⟩ := hother
  rcases h with (h | h) | ⟨⟨htwo, htwo'⟩, hodd⟩
  · omega
  · omega
  · rw [htwo] at hstep
    rw [htwo'] at hstep'
    omega

theorem covers_images {run : CaseRun} {n : ℕ} (h : run.covers n = true) :
    run.images.covers (run.image + (n - run.first)) = true := by
  simp only [covers, images, Bool.and_eq_true, Nat.ble_eq, Nat.beq_eq] at *
  obtain ⟨⟨hfirst, hlast⟩, hstep⟩ := h
  rw [Nat.add_sub_cancel_left]
  exact ⟨⟨by omega, by omega⟩, hstep⟩

end CaseRun

/-- The letters of Unicode 14.0 that have one small letter. -/
def CASE_RUNS : List CaseRun :=
  [⟨0x41, 0x5A, 1, 0x61⟩, ⟨0xC0, 0xD6, 1, 0xE0⟩, ⟨0xD8, 0xDE, 1, 0xF8⟩, ⟨0x100, 0x12E, 2, 0x101⟩,
    ⟨0x132, 0x136, 2, 0x133⟩, ⟨0x139, 0x147, 2, 0x13A⟩, ⟨0x14A, 0x176, 2, 0x14B⟩,
    ⟨0x178, 0x178, 2, 0xFF⟩, ⟨0x179, 0x17D, 2, 0x17A⟩, ⟨0x181, 0x181, 2, 0x253⟩,
    ⟨0x182, 0x184, 2, 0x183⟩, ⟨0x186, 0x186, 2, 0x254⟩, ⟨0x187, 0x187, 2, 0x188⟩,
    ⟨0x189, 0x18A, 1, 0x256⟩, ⟨0x18B, 0x18B, 2, 0x18C⟩, ⟨0x18E, 0x18E, 2, 0x1DD⟩,
    ⟨0x18F, 0x18F, 2, 0x259⟩, ⟨0x190, 0x190, 2, 0x25B⟩, ⟨0x191, 0x191, 2, 0x192⟩,
    ⟨0x193, 0x193, 2, 0x260⟩, ⟨0x194, 0x194, 2, 0x263⟩, ⟨0x196, 0x196, 2, 0x269⟩,
    ⟨0x197, 0x197, 2, 0x268⟩, ⟨0x198, 0x198, 2, 0x199⟩, ⟨0x19C, 0x19C, 2, 0x26F⟩,
    ⟨0x19D, 0x19D, 2, 0x272⟩, ⟨0x19F, 0x19F, 2, 0x275⟩, ⟨0x1A0, 0x1A4, 2, 0x1A1⟩,
    ⟨0x1A6, 0x1A6, 2, 0x280⟩, ⟨0x1A7, 0x1A7, 2, 0x1A8⟩, ⟨0x1A9, 0x1A9, 2, 0x283⟩,
    ⟨0x1AC, 0x1AC, 2, 0x1AD⟩, ⟨0x1AE, 0x1AE, 2, 0x288⟩, ⟨0x1AF, 0x1AF, 2, 0x1B0⟩,
    ⟨0x1B1, 0x1B2, 1, 0x28A⟩, ⟨0x1B3, 0x1B5, 2, 0x1B4⟩, ⟨0x1B7, 0x1B7, 2, 0x292⟩,
    ⟨0x1B8, 0x1B8, 2, 0x1B9⟩, ⟨0x1BC, 0x1BC, 2, 0x1BD⟩, ⟨0x1C4, 0x1C4, 2, 0x1C6⟩,
    ⟨0x1C5, 0x1C5, 2, 0x1C6⟩, ⟨0x1C7, 0x1C7, 2, 0x1C9⟩, ⟨0x1C8, 0x1C8, 2, 0x1C9⟩,
    ⟨0x1CA, 0x1CA, 2, 0x1CC⟩, ⟨0x1CB, 0x1DB, 2, 0x1CC⟩, ⟨0x1DE, 0x1EE, 2, 0x1DF⟩,
    ⟨0x1F1, 0x1F1, 2, 0x1F3⟩, ⟨0x1F2, 0x1F4, 2, 0x1F3⟩, ⟨0x1F6, 0x1F6, 2, 0x195⟩,
    ⟨0x1F7, 0x1F7, 2, 0x1BF⟩, ⟨0x1F8, 0x21E, 2, 0x1F9⟩, ⟨0x220, 0x220, 2, 0x19E⟩,
    ⟨0x222, 0x232, 2, 0x223⟩, ⟨0x23A, 0x23A, 2, 0x2C65⟩, ⟨0x23B, 0x23B, 2, 0x23C⟩,
    ⟨0x23D, 0x23D, 2, 0x19A⟩, ⟨0x23E, 0x23E, 2, 0x2C66⟩, ⟨0x241, 0x241, 2, 0x242⟩,
    ⟨0x243, 0x243, 2, 0x180⟩, ⟨0x244, 0x244, 2, 0x289⟩, ⟨0x245, 0x245, 2, 0x28C⟩,
    ⟨0x246, 0x24E, 2, 0x247⟩, ⟨0x370, 0x372, 2, 0x371⟩, ⟨0x376, 0x376, 2, 0x377⟩,
    ⟨0x37F, 0x37F, 2, 0x3F3⟩, ⟨0x386, 0x386, 2, 0x3AC⟩, ⟨0x388, 0x38A, 1, 0x3AD⟩,
    ⟨0x38C, 0x38C, 2, 0x3CC⟩, ⟨0x38E, 0x38F, 1, 0x3CD⟩, ⟨0x391, 0x3A1, 1, 0x3B1⟩,
    ⟨0x3A3, 0x3AB, 1, 0x3C3⟩, ⟨0x3CF, 0x3CF, 2, 0x3D7⟩, ⟨0x3D8, 0x3EE, 2, 0x3D9⟩,
    ⟨0x3F4, 0x3F4, 2, 0x3B8⟩, ⟨0x3F7, 0x3F7, 2, 0x3F8⟩, ⟨0x3F9, 0x3F9, 2, 0x3F2⟩,
    ⟨0x3FA, 0x3FA, 2, 0x3FB⟩, ⟨0x3FD, 0x3FF, 1, 0x37B⟩, ⟨0x400, 0x40F, 1, 0x450⟩,
    ⟨0x410, 0x42F, 1, 0x430⟩, ⟨0x460, 0x480, 2, 0x461⟩, ⟨0x48A, 0x4BE, 2, 0x48B⟩,
    ⟨0x4C0, 0x4C0, 2, 0x4CF⟩, ⟨0x4C1, 0x4CD, 2, 0x4C2⟩, ⟨0x4D0, 0x52E, 2, 0x4D1⟩,
    ⟨0x531, 0x556, 1, 0x561⟩, ⟨0x10A0, 0x10C5, 1, 0x2D00⟩, ⟨0x10C7, 0x10C7, 2, 0x2D27⟩,
    ⟨0x10CD, 0x10CD, 2, 0x2D2D⟩, ⟨0x13A0, 0x13EF, 1, 0xAB70⟩, ⟨0x13F0, 0x13F5, 1, 0x13F8⟩,
    ⟨0x1C90, 0x1CBA, 1, 0x10D0⟩, ⟨0x1CBD, 0x1CBF, 1, 0x10FD⟩, ⟨0x1E00, 0x1E94, 2, 0x1E01⟩,
    ⟨0x1E9E, 0x1E9E, 2, 0xDF⟩, ⟨0x1EA0, 0x1EFE, 2, 0x1EA1⟩, ⟨0x1F08, 0x1F0F, 1, 0x1F00⟩,
    ⟨0x1F18, 0x1F1D, 1, 0x1F10⟩, ⟨0x1F28, 0x1F2F, 1, 0x1F20⟩, ⟨0x1F38, 0x1F3F, 1, 0x1F30⟩,
    ⟨0x1F48, 0x1F4D, 1, 0x1F40⟩, ⟨0x1F59, 0x1F5F, 2, 0x1F51⟩, ⟨0x1F68, 0x1F6F, 1, 0x1F60⟩,
    ⟨0x1F88, 0x1F8F, 1, 0x1F80⟩, ⟨0x1F98, 0x1F9F, 1, 0x1F90⟩, ⟨0x1FA8, 0x1FAF, 1, 0x1FA0⟩,
    ⟨0x1FB8, 0x1FB9, 1, 0x1FB0⟩, ⟨0x1FBA, 0x1FBB, 1, 0x1F70⟩, ⟨0x1FBC, 0x1FBC, 2, 0x1FB3⟩,
    ⟨0x1FC8, 0x1FCB, 1, 0x1F72⟩, ⟨0x1FCC, 0x1FCC, 2, 0x1FC3⟩, ⟨0x1FD8, 0x1FD9, 1, 0x1FD0⟩,
    ⟨0x1FDA, 0x1FDB, 1, 0x1F76⟩, ⟨0x1FE8, 0x1FE9, 1, 0x1FE0⟩, ⟨0x1FEA, 0x1FEB, 1, 0x1F7A⟩,
    ⟨0x1FEC, 0x1FEC, 2, 0x1FE5⟩, ⟨0x1FF8, 0x1FF9, 1, 0x1F78⟩, ⟨0x1FFA, 0x1FFB, 1, 0x1F7C⟩,
    ⟨0x1FFC, 0x1FFC, 2, 0x1FF3⟩, ⟨0x2126, 0x2126, 2, 0x3C9⟩, ⟨0x212A, 0x212A, 2, 0x6B⟩,
    ⟨0x212B, 0x212B, 2, 0xE5⟩, ⟨0x2132, 0x2132, 2, 0x214E⟩, ⟨0x2160, 0x216F, 1, 0x2170⟩,
    ⟨0x2183, 0x2183, 2, 0x2184⟩, ⟨0x24B6, 0x24CF, 1, 0x24D0⟩, ⟨0x2C00, 0x2C2F, 1, 0x2C30⟩,
    ⟨0x2C60, 0x2C60, 2, 0x2C61⟩, ⟨0x2C62, 0x2C62, 2, 0x26B⟩, ⟨0x2C63, 0x2C63, 2, 0x1D7D⟩,
    ⟨0x2C64, 0x2C64, 2, 0x27D⟩, ⟨0x2C67, 0x2C6B, 2, 0x2C68⟩, ⟨0x2C6D, 0x2C6D, 2, 0x251⟩,
    ⟨0x2C6E, 0x2C6E, 2, 0x271⟩, ⟨0x2C6F, 0x2C6F, 2, 0x250⟩, ⟨0x2C70, 0x2C70, 2, 0x252⟩,
    ⟨0x2C72, 0x2C72, 2, 0x2C73⟩, ⟨0x2C75, 0x2C75, 2, 0x2C76⟩, ⟨0x2C7E, 0x2C7F, 1, 0x23F⟩,
    ⟨0x2C80, 0x2CE2, 2, 0x2C81⟩, ⟨0x2CEB, 0x2CED, 2, 0x2CEC⟩, ⟨0x2CF2, 0x2CF2, 2, 0x2CF3⟩,
    ⟨0xA640, 0xA66C, 2, 0xA641⟩, ⟨0xA680, 0xA69A, 2, 0xA681⟩, ⟨0xA722, 0xA72E, 2, 0xA723⟩,
    ⟨0xA732, 0xA76E, 2, 0xA733⟩, ⟨0xA779, 0xA77B, 2, 0xA77A⟩, ⟨0xA77D, 0xA77D, 2, 0x1D79⟩,
    ⟨0xA77E, 0xA786, 2, 0xA77F⟩, ⟨0xA78B, 0xA78B, 2, 0xA78C⟩, ⟨0xA78D, 0xA78D, 2, 0x265⟩,
    ⟨0xA790, 0xA792, 2, 0xA791⟩, ⟨0xA796, 0xA7A8, 2, 0xA797⟩, ⟨0xA7AA, 0xA7AA, 2, 0x266⟩,
    ⟨0xA7AB, 0xA7AB, 2, 0x25C⟩, ⟨0xA7AC, 0xA7AC, 2, 0x261⟩, ⟨0xA7AD, 0xA7AD, 2, 0x26C⟩,
    ⟨0xA7AE, 0xA7AE, 2, 0x26A⟩, ⟨0xA7B0, 0xA7B0, 2, 0x29E⟩, ⟨0xA7B1, 0xA7B1, 2, 0x287⟩,
    ⟨0xA7B2, 0xA7B2, 2, 0x29D⟩, ⟨0xA7B3, 0xA7B3, 2, 0xAB53⟩, ⟨0xA7B4, 0xA7C2, 2, 0xA7B5⟩,
    ⟨0xA7C4, 0xA7C4, 2, 0xA794⟩, ⟨0xA7C5, 0xA7C5, 2, 0x282⟩, ⟨0xA7C6, 0xA7C6, 2, 0x1D8E⟩,
    ⟨0xA7C7, 0xA7C9, 2, 0xA7C8⟩, ⟨0xA7D0, 0xA7D0, 2, 0xA7D1⟩, ⟨0xA7D6, 0xA7D8, 2, 0xA7D7⟩,
    ⟨0xA7F5, 0xA7F5, 2, 0xA7F6⟩, ⟨0xFF21, 0xFF3A, 1, 0xFF41⟩, ⟨0x10400, 0x10427, 1, 0x10428⟩,
    ⟨0x104B0, 0x104D3, 1, 0x104D8⟩, ⟨0x10570, 0x1057A, 1, 0x10597⟩,
    ⟨0x1057C, 0x1058A, 1, 0x105A3⟩, ⟨0x1058C, 0x10592, 1, 0x105B3⟩,
    ⟨0x10594, 0x10595, 1, 0x105BB⟩, ⟨0x10C80, 0x10CB2, 1, 0x10CC0⟩,
    ⟨0x118A0, 0x118BF, 1, 0x118C0⟩, ⟨0x16E40, 0x16E5F, 1, 0x16E60⟩,
    ⟨0x1E900, 0x1E921, 1, 0x1E922⟩]

/-- The code points of white space. -/
def WHITE_SPACE : List ℕ :=
  [0x9, 0xA, 0xB, 0xC, 0xD, 0x20, 0x85, 0xA0, 0x1680, 0x2000, 0x2001, 0x2002, 0x2003, 0x2004,
    0x2005, 0x2006, 0x2007, 0x2008, 0x2009, 0x200A, 0x2028, 0x2029, 0x202F, 0x205F, 0x3000]

/-- `char::to_lowercase`; `U+0130` is the one letter that becomes two characters. -/
def unicodeToLower (c : Char) : List Char :=
  if c.toNat = 0x130 then ['i', '\u0307']
  else
    match CASE_RUNS.find? (fun run => run.covers c.toNat) with
    | some run => [Char.ofNat (run.image + (c.toNat - run.first))]
    | none => [c]

/-- What is checked of a run: its images are characters, no letters of any run, and neither
they nor the letters are white space; of the images, only letters are ASCII. -/
def CaseRun.sound (run : CaseRun) : Bool :=
  (decide (run.images.last < 0xD800) ||
    (decide (0xDFFF < run.images.first) && decide (run.images.last < 0x110000))) &&
  (WHITE_SPACE.all fun n => !run.covers n && !run.images.covers n) &&
  (decide (128 ≤ run.images.first) ||
    (decide (97 ≤ run.images.first) && decide (run.images.last ≤ 122))) &&
  !run.images.covers 0x130 && CASE_RUNS.all run.images.apart

theorem sound_caseRuns : CASE_RUNS.all CaseRun.sound = true := by decide +kernel

theorem toNat_mem_WHITE_SPACE {c : Char} (h : isWhitespace c = true) : c.toNat ∈ WHITE_SPACE := by
  unfold isWhitespace at h
  simp only [Bool.or_eq_true, Bool.and_eq_true, decide_eq_true_eq, beq_iff_eq] at h
  simp only [WHITE_SPACE, List.mem_cons, List.not_mem_nil, or_false]
  omega

/-- What a letter of a run becomes. -/
theorem unicodeToLower_of_find {c : Char} {run : CaseRun} (hc : ¬ c.toNat = 0x130)
    (h : CASE_RUNS.find? (fun run => run.covers c.toNat) = some run) :
    ∃ d : Char, unicodeToLower c = [d] ∧ run.images.covers d.toNat = true ∧
      run.covers c.toNat = true ∧ run.sound = true := by
  have hcovers : run.covers c.toNat = true := by
    have hfound := List.find?_some h
    exact hfound
  have hsound := List.all_eq_true.mp sound_caseRuns run (List.mem_of_find?_eq_some h)
  refine ⟨Char.ofNat (run.image + (c.toNat - run.first)), ?_, ?_, hcovers, hsound⟩
  · unfold unicodeToLower
    rw [if_neg hc, h]
  · have himages := CaseRun.covers_images hcovers
    have hvalid : (run.image + (c.toNat - run.first)).isValidChar := by
      simp only [CaseRun.sound, CaseRun.covers, Bool.and_eq_true, Bool.or_eq_true,
        decide_eq_true_eq, Nat.ble_eq] at hsound hcovers
      obtain ⟨⟨⟨⟨hscalar, -⟩, -⟩, -⟩, -⟩ := hsound
      obtain ⟨⟨hfirst, hlast⟩, -⟩ := hcovers
      dsimp only [CaseRun.images] at hscalar
      unfold Nat.isValidChar
      omega
    rw [Char.toNat_ofNat, if_pos hvalid]
    exact himages

theorem CaseRun.sound_iff {run : CaseRun} : run.sound = true ↔
    (run.images.last < 0xD800 ∨ 0xDFFF < run.images.first ∧ run.images.last < 0x110000) ∧
    (∀ n ∈ WHITE_SPACE, run.covers n = false ∧ run.images.covers n = false) ∧
    (128 ≤ run.images.first ∨ 97 ≤ run.images.first ∧ run.images.last ≤ 122) ∧
    run.images.covers 0x130 = false ∧ ∀ other ∈ CASE_RUNS, run.images.apart other = true := by
  simp only [CaseRun.sound, Bool.and_eq_true, Bool.or_eq_true, decide_eq_true_eq, List.all_eq_true,
    Bool.not_eq_true', and_assoc]

/-- A character that no run covers is its own small letter. -/
theorem unicodeToLower_of_not_covers {c : Char} (hc : ¬ c.toNat = 0x130)
    (h : ∀ run ∈ CASE_RUNS, run.covers c.toNat = false) : unicodeToLower c = [c] := by
  have hfind : CASE_RUNS.find? (fun run => run.covers c.toNat) = none := by
    rw [List.find?_eq_none]
    intro run hrun
    rw [h run hrun]
    exact Bool.false_ne_true
  unfold unicodeToLower
  rw [if_neg hc, hfind]

/-- The ways a character can be lower-cased. -/
theorem unicodeToLower_cases (c : Char) :
    (c.toNat = 0x130 ∧ unicodeToLower c = ['i', '\u0307']) ∨
    (unicodeToLower c = [c] ∧ c ≠ 'Σ') ∨
    ∃ (run : CaseRun) (d : Char), unicodeToLower c = [d] ∧ run.images.covers d.toNat = true ∧
      run.covers c.toNat = true ∧ run.sound = true := by
  by_cases hc : c.toNat = 0x130
  · refine .inl ⟨hc, ?_⟩
    unfold unicodeToLower
    rw [if_pos hc]
  · cases hfind : CASE_RUNS.find? (fun run => run.covers c.toNat) with
    | none =>
      refine .inr (.inl ⟨?_, ?_⟩)
      · unfold unicodeToLower
        rw [if_neg hc, hfind]
      · rintro rfl
        have hsigma : (CASE_RUNS.find? fun run => run.covers 'Σ'.toNat).isSome = true := by
          decide +kernel
        rw [hfind] at hsigma
        cases hsigma
    | some run =>
      obtain ⟨d, hd⟩ := unicodeToLower_of_find hc hfind
      exact .inr (.inr ⟨run, d, hd⟩)

/-- An image is a small letter: no run covers it. -/
theorem unicodeToLower_image {run : CaseRun} (hsound : run.sound = true) {d : Char}
    (h : run.images.covers d.toNat = true) : d ≠ 'Σ' ∧ unicodeToLower d = [d] := by
  obtain ⟨-, -, -, hdot, hapart⟩ := CaseRun.sound_iff.mp hsound
  have hfree : ∀ other ∈ CASE_RUNS, other.covers d.toNat = false := by
    intro other hother
    exact CaseRun.not_covers_of_apart (hapart other hother) h
  constructor
  · rintro rfl
    have hsigma : (CASE_RUNS.any fun run => run.covers 'Σ'.toNat) = true := by decide +kernel
    obtain ⟨other, hother, hcovers⟩ := List.any_eq_true.mp hsigma
    rw [hfree other hother] at hcovers
    cases hcovers
  · apply unicodeToLower_of_not_covers _ hfree
    intro hd
    rw [hd, hdot] at h
    cases h

theorem unicodeToLower_ascii {c : Char} (h : c.toNat < 128) : unicodeToLower c = [c.toLower] := by
  have hall : ((List.range 128).all fun n =>
      unicodeToLower (Char.ofNat n) == [(Char.ofNat n).toLower]) = true := by decide +kernel
  have hc := List.all_eq_true.mp hall c.toNat (List.mem_range.mpr h)
  rw [Char.ofNat_toNat, beq_iff_eq] at hc
  exact hc

/-- The mapping of Unicode 14.0, with any tables for the neighbours of a sigma. -/
def unicodeLowercase (cased caseIgnorable : Char → Bool) : Lowercase where
  toLower := unicodeToLower
  cased := cased
  caseIgnorable := caseIgnorable
  nonempty := by
    intro c
    rcases unicodeToLower_cases c with ⟨-, h⟩ | ⟨h, -⟩ | ⟨run, d, h, -⟩
    · rw [h]
      exact List.cons_ne_nil _ _
    · rw [h]
      exact List.cons_ne_nil _ _
    · rw [h]
      exact List.cons_ne_nil _ _
  ascii := fun c => unicodeToLower_ascii
  settled := by
    intro c d hd
    rcases unicodeToLower_cases c with ⟨-, h⟩ | ⟨h, hsigma⟩ | ⟨run, e, h, himage, -, hsound⟩
    · rw [h] at hd
      rcases List.mem_cons.mp hd with rfl | hd
      · exact ⟨by decide, by decide +kernel⟩
      · rw [List.mem_singleton.mp hd]
        exact ⟨by decide, by decide +kernel⟩
    · rw [h] at hd
      rw [List.mem_singleton.mp hd]
      exact ⟨hsigma, h⟩
    · rw [h] at hd
      rw [List.mem_singleton.mp hd]
      exact unicodeToLower_image hsound himage
  sigmas := ⟨by decide +kernel, by decide +kernel⟩
  white := by
    intro c d hd
    rcases unicodeToLower_cases c with ⟨hdot, h⟩ | ⟨h, -⟩ | ⟨run, e, h, himage, hcovers, hsound⟩
    · have hc : c = '\u0130' := by
        rw [← Char.ofNat_toNat c, hdot]
      rw [h] at hd
      rw [hc]
      rcases List.mem_cons.mp hd with rfl | hd
      · decide
      · rw [List.mem_singleton.mp hd]
        decide
    · rw [h] at hd
      rw [List.mem_singleton.mp hd]
    · rw [h] at hd
      rw [List.mem_singleton.mp hd]
      obtain ⟨-, hwhite, -⟩ := CaseRun.sound_iff.mp hsound
      have hc : isWhitespace c = false := by
        rw [← Bool.not_eq_true]
        intro hc
        rw [(hwhite _ (toNat_mem_WHITE_SPACE hc)).1] at hcovers
        cases hcovers
      have he : isWhitespace e = false := by
        rw [← Bool.not_eq_true]
        intro he
        rw [(hwhite _ (toNat_mem_WHITE_SPACE he)).2] at himage
        cases himage
      rw [hc, he]
  asciiOnly := by
    intro c d hd hascii hlower
    rcases unicodeToLower_cases c with ⟨-, h⟩ | ⟨h, -⟩ | ⟨run, e, h, himage, -, hsound⟩
    · rw [h] at hd
      rcases List.mem_cons.mp hd with rfl | hd
      · exact absurd hlower (by decide)
      · rw [List.mem_singleton.mp hd] at hascii
        exact absurd hascii (by decide)
    · rw [h] at hd
      exact List.mem_singleton.mp hd
    · rw [h] at hd
      rw [List.mem_singleton.mp hd] at hascii hlower
      exfalso
      obtain ⟨-, -, hrange, -⟩ := CaseRun.sound_iff.mp hsound
      simp only [CaseRun.covers, Bool.and_eq_true, Nat.ble_eq] at himage
      obtain ⟨⟨hfirst, hlast⟩, -⟩ := himage
      have hletter : 97 ≤ e.toNat ∧ e.toNat ≤ 122 := by omega
      have hsmall : e.isLower = true := by
        simpa [Char.isLower, UInt32.le_iff_toNat_le] using hletter
      rw [hsmall] at hlower
      cases hlower

end RustStr
