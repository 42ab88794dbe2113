/-
# Promoting a bare date

`execute/prepare.rs`: a time bound without a `T` becomes midnight UTC when
`is_calendar_date` accepts it.  The check slices the text by bytes and leaves its numbers
to `str::parse::<u32>`, whose grammar has a sign.  What it accepts is described here by
the characters of the text: three fields that name a day, digits alone or signed.
-/
import TinyConnectors.Prepare
import TinyConnectors.StrSlices
import TinyConnectors.Substrings

namespace Execute

open RustStr

/-! ## The slices -/

/-- `is_calendar_date` with its slices of the text; `none` where one panics. -/
def slicedCalendarDate (text : String) : Option Bool :=
  let bytes := asBytes text
  if bytes.length ≠ 10 ∨ bytes[4]? ≠ some 45 ∨ bytes[7]? ≠ some 45 then some false
  else do
    let year ← slice text 0 4
    let month ← slice text 5 7
    let day ← slice text 8 10
    match parseU32 (asBytes year), parseU32 (asBytes month), parseU32 (asBytes day) with
    | some year, some month, some day =>
      if ¬ (1 ≤ month ∧ month ≤ 12) ∨ day = 0 then some false
      else some (decide (day ≤ daysInMonth year month))
    | _, _, _ => some false

/-- A text is three fields of four, two and two bytes, with a `-` between them. -/
def FieldBytes (text : String) (y m d : List Char) : Prop :=
  text.toList = y ++ '-' :: (m ++ '-' :: d) ∧ bytesOf y = 4 ∧ bytesOf m = 2 ∧ bytesOf d = 2

/-- The two `-` the check looks for are characters, and cut the text into its fields. -/
theorem exists_fieldBytes {text : String} (hlen : (asBytes text).length = 10)
    (hfourth : (asBytes text)[4]? = some 45) (hseventh : (asBytes text)[7]? = some 45) :
    ∃ y m d, FieldBytes text y m d := by
  rw [asBytes_eq] at hlen hfourth hseventh
  obtain ⟨y, rest, htext, hy⟩ := exists_char_of_byte hfourth (by decide)
  have hdash : utf8Bytes (y ++ '-' :: rest) = utf8Bytes y ++ 45 :: utf8Bytes rest := by
    rw [utf8Bytes_append, utf8Bytes_cons]
    rfl
  rw [htext] at hlen hseventh
  change (utf8Bytes (y ++ '-' :: rest)).length = 10 at hlen
  change (utf8Bytes (y ++ '-' :: rest))[7]? = some 45 at hseventh
  rw [hdash, List.getElem?_append_right (by rw [length_utf8Bytes]; omega), length_utf8Bytes, hy,
    List.getElem?_cons_succ] at hseventh
  obtain ⟨m, d, hrest, hm⟩ := exists_char_of_byte hseventh (by decide)
  refine ⟨y, m, d, by rw [htext, hrest]; rfl, hy, hm, ?_⟩
  rw [hdash, List.length_append, List.length_cons, length_utf8Bytes, length_utf8Bytes, hrest,
    bytesOf_append, bytesOf_cons, hy, hm] at hlen
  have hone : (Char.ofNat (45 : UInt8).toNat).utf8Size = 1 := rfl
  omega

/-- What is left to check once the fields are cut. -/
def acceptsFields (y m d : List UInt8) : Bool :=
  match parseU32 y, parseU32 m, parseU32 d with
  | some year, some month, some day =>
    if ¬ (1 ≤ month ∧ month ≤ 12) ∨ day = 0 then false else decide (day ≤ daysInMonth year month)
  | _, _, _ => false

section Fields

variable {text : String} {y m d : List Char}

theorem FieldBytes.asBytes_eq (h : FieldBytes text y m d) :
    asBytes text = utf8Bytes y ++ 45 :: (utf8Bytes m ++ 45 :: utf8Bytes d) := by
  rw [RustStr.asBytes_eq, h.1, utf8Bytes_append, utf8Bytes_cons, utf8Bytes_append, utf8Bytes_cons]
  rfl

/-- The bytes the check looks at first. -/
theorem FieldBytes.guards (h : FieldBytes text y m d) :
    (asBytes text).length = 10 ∧ (asBytes text)[4]? = some 45 ∧ (asBytes text)[7]? = some 45 := by
  obtain ⟨-, hy, hm, hd⟩ := id h
  rw [h.asBytes_eq]
  refine ⟨by simp [hy, hm, hd], ?_, ?_⟩
  · rw [List.getElem?_append_right (by simp [hy]), length_utf8Bytes, hy]
    rfl
  · rw [List.getElem?_append_right (by simp [hy]), length_utf8Bytes, hy, List.getElem?_cons_succ,
      List.getElem?_append_right (by simp [hm]), length_utf8Bytes, hm]
    rfl

/-- What stands after each field. -/
theorem FieldBytes.drop_asBytes (h : FieldBytes text y m d) :
    (asBytes text).drop 5 = utf8Bytes m ++ 45 :: utf8Bytes d ∧
    (asBytes text).drop 8 = utf8Bytes d := by
  obtain ⟨-, hy, hm, -⟩ := id h
  have hyear : (utf8Bytes y ++ [45]).length = 5 := by simp [hy]
  have hmonth : (utf8Bytes y ++ [45] ++ (utf8Bytes m ++ [45])).length = 8 := by simp [hy, hm]
  rw [h.asBytes_eq]
  constructor
  · rw [List.append_cons, List.drop_left' hyear]
  · rw [List.append_cons, List.append_cons (utf8Bytes m), ← List.append_assoc,
      List.drop_left' hmonth]

theorem FieldBytes.isCalendarDate_eq (h : FieldBytes text y m d) :
    isCalendarDate text = acceptsFields (utf8Bytes y) (utf8Bytes m) (utf8Bytes d) := by
  obtain ⟨hlen, hfourth, hseventh⟩ := h.guards
  obtain ⟨hmonth, hday⟩ := h.drop_asBytes
  obtain ⟨-, hy, hm, -⟩ := id h
  have hyear : (asBytes text).take 4 = utf8Bytes y := by
    rw [h.asBytes_eq, List.take_left' (by rw [length_utf8Bytes, hy])]
  have hmonth : ((asBytes text).drop 5).take 2 = utf8Bytes m := by
    rw [hmonth, List.take_left' (by rw [length_utf8Bytes, hm])]
  rw [isCalendarDate, if_neg (by rw [hlen, hfourth, hseventh]; decide), hyear, hmonth, hday]
  rfl

/-- No slice panics. -/
theorem FieldBytes.slicedCalendarDate_eq (h : FieldBytes text y m d) :
    slicedCalendarDate text = some (acceptsFields (utf8Bytes y) (utf8Bytes m) (utf8Bytes d)) := by
  obtain ⟨hlen, hfourth, hseventh⟩ := h.guards
  obtain ⟨htext, hy, hm, hd⟩ := id h
  have hdash : ('-' : Char).utf8Size = 1 := rfl
  have hyear : slice text 0 4 = some (String.ofList y) := by
    have h := slice_between (l := []) htext
    rwa [bytesOf_nil, Nat.zero_add, hy] at h
  have hmonth : slice text 5 7 = some (String.ofList m) := by
    have h := slice_between (s := text) (l := y ++ ['-']) (m := m) (r := '-' :: d) (by simp [htext])
    rwa [bytesOf_append, bytesOf_cons, bytesOf_nil, hdash, hy, hm] at h
  have hday : slice text 8 10 = some (String.ofList d) := by
    have h := slice_between (s := text) (l := y ++ '-' :: (m ++ ['-'])) (m := d) (r := [])
      (by simp [htext])
    simpa [hdash, hy, hm, hd] using h
  rw [slicedCalendarDate, if_neg (by rw [hlen, hfourth, hseventh]; decide), hyear, hmonth, hday]
  simp only [Option.bind_eq_bind, Option.bind_some, RustStr.asBytes_eq, String.toList_ofList,
    acceptsFields]
  cases parseU32 (utf8Bytes y) <;> cases parseU32 (utf8Bytes m) <;> cases parseU32 (utf8Bytes d) <;>
    try rfl
  exact (apply_ite some _ _ _).symm

end Fields

/-- The check is total: whatever the text, no slice of it panics. -/
theorem slicedCalendarDate_eq (text : String) :
    slicedCalendarDate text = some (isCalendarDate text) := by
  by_cases hguards : (asBytes text).length ≠ 10 ∨ (asBytes text)[4]? ≠ some 45 ∨
      (asBytes text)[7]? ≠ some 45
  · rw [slicedCalendarDate, if_pos hguards, isCalendarDate, if_pos hguards]
  · obtain ⟨hlen, hfourth, hseventh⟩ := not_or.mp hguards |>.imp not_not.mp
      fun h => (not_or.mp h).imp not_not.mp not_not.mp
    obtain ⟨y, m, d, hfields⟩ := exists_fieldBytes hlen hfourth hseventh
    rw [hfields.slicedCalendarDate_eq, hfields.isCalendarDate_eq]

/-! ## The numbers -/

/-- The number a list of digits writes. -/
def decimal (l : List Char) : ℕ := Nat.ofDigits 10 (l.reverse.map fun c => c.toNat - 48)

/-- What follows the sign, where there is one. -/
def unsigned : List Char → List Char
  | [] => []
  | c :: l => if c = '+' then l else c :: l

/-- A number as `str::parse::<u32>` reads it: digits, with a `+` before them or without. -/
def Number (l : List Char) : Prop := unsigned l ≠ [] ∧ ∀ c ∈ unsigned l, c.isDigit = true

theorem decimal_cons (c : Char) (l : List Char) :
    decimal (c :: l) = (c.toNat - 48) * 10 ^ l.length + decimal l := by
  rw [decimal, List.reverse_cons, List.map_append, List.map_singleton, Nat.ofDigits_append,
    Nat.ofDigits_singleton, List.length_map, List.length_reverse, Nat.add_comm, Nat.mul_comm]
  rfl

theorem isDigit_iff {c : Char} : c.isDigit = true ↔ 48 ≤ c.toNat ∧ c.toNat ≤ 57 := by
  rw [Char.isDigit, Bool.and_eq_true, decide_eq_true_eq, decide_eq_true_eq]
  exact Iff.rfl

theorem decimal_lt {l : List Char} (h : ∀ c ∈ l, c.isDigit = true) : decimal l < 10 ^ l.length := by
  induction l with
  | nil => decide
  | cons c l ih =>
    have hrest := ih fun x hx => h x (List.mem_cons_of_mem c hx)
    have hc := isDigit_iff.mp (h c List.mem_cons_self)
    have hdigit : (c.toNat - 48) * 10 ^ l.length ≤ 9 * 10 ^ l.length :=
      Nat.mul_le_mul_right _ (by omega)
    rw [decimal_cons, List.length_cons, pow_succ]
    omega

/-- The loop over the digits carries what it has read so far, ten times for each digit more. -/
theorem foldl_digits {l : List Char} (h : ∀ c ∈ l, c.isDigit = true) (n : ℕ) :
    (utf8Bytes l).foldl (fun acc b => 10 * acc + (b.toNat - 48)) n =
      n * 10 ^ l.length + decimal l := by
  induction l generalizing n with
  | nil => rw [List.length_nil, pow_zero, Nat.mul_one]; rfl
  | cons c l ih =>
    have hc := isDigit_iff.mp (h c List.mem_cons_self)
    have hascii : c.toNat < 128 := by omega
    have hbyte : (UInt8.ofNat c.toNat).toNat = c.toNat :=
      UInt8.toNat_ofNat_of_lt' (hascii.trans (by decide))
    rw [utf8Bytes_cons, utf8EncodeChar_ascii hascii, List.singleton_append, List.foldl_cons,
      ih fun x hx => h x (List.mem_cons_of_mem c hx), hbyte, decimal_cons,
      List.length_cons, pow_succ]
    ring

/-- The bytes are digits exactly when the characters are. -/
theorem all_digitBytes {l : List Char} :
    (utf8Bytes l).all (fun b => 48 ≤ b && b ≤ 57) = true ↔ ∀ c ∈ l, c.isDigit = true := by
  have hbyte : ∀ b : UInt8, (48 ≤ b && b ≤ 57) = true ↔ 48 ≤ b.toNat ∧ b.toNat ≤ 57 := by
    intro b
    rw [Bool.and_eq_true, decide_eq_true_eq, decide_eq_true_eq]
    exact Iff.rfl
  simp only [List.all_eq_true, hbyte, utf8Bytes, List.mem_flatMap]
  constructor
  · intro h c hc
    by_cases hascii : c.toNat < 128
    · have hrange :=
        h _ ⟨c, hc, by rw [utf8EncodeChar_ascii hascii]; exact List.mem_singleton_self _⟩
      rw [UInt8.toNat_ofNat_of_lt' (hascii.trans (by decide))] at hrange
      exact isDigit_iff.mpr hrange
    · -- a byte of any other character is too large
      obtain ⟨b, hb⟩ := List.exists_mem_of_ne_nil _ (String.utf8EncodeChar_ne_nil (c := c))
      have hlarge := le_of_mem_utf8EncodeChar (not_lt.mp hascii) hb
      have hrange := h b ⟨c, hc, hb⟩
      omega
  · rintro h b ⟨c, hc, hb⟩
    have hrange := isDigit_iff.mp (h c hc)
    rw [utf8EncodeChar_ascii (by omega), List.mem_singleton] at hb
    rw [hb, UInt8.toNat_ofNat_of_lt' (hrange.2.trans_lt (by decide))]
    exact hrange

/-- Only the character `+` starts with the byte 43. -/
theorem unsigned_bytes (l : List Char) :
    (if (utf8Bytes l).head? = some 43 then (utf8Bytes l).drop 1 else utf8Bytes l) =
      utf8Bytes (unsigned l) := by
  cases l with
  | nil => rfl
  | cons c l =>
    rw [unsigned]
    by_cases hplus : c = '+'
    · rw [hplus, if_pos rfl, utf8Bytes_cons]
      rfl
    · rw [if_neg hplus, if_neg]
      intro hhead
      rw [List.head?_eq_getElem?] at hhead
      obtain ⟨before, after, htext, hbefore⟩ := exists_char_of_byte hhead (by decide)
      cases before with
      | nil =>
        rw [List.nil_append] at htext
        exact hplus (List.cons.inj htext).1
      | cons x before =>
        have hsize := x.utf8Size_pos
        rw [bytesOf_cons] at hbefore
        omega

/-- What `str::parse::<u32>` makes of a field of at most nine characters. -/
theorem parseU32_eq_some {l : List Char} (hlen : l.length ≤ 9) {n : ℕ} :
    parseU32 (utf8Bytes l) = some n ↔ Number l ∧ n = decimal (unsigned l) := by
  have hnil : (utf8Bytes (unsigned l)).isEmpty = true ↔ unsigned l = [] := by
    rw [List.isEmpty_iff, ← List.length_eq_zero_iff, length_utf8Bytes]
    cases unsigned l with
    | nil => simp
    | cons c rest => simp [c.utf8Size_pos.ne']
  have hshort : (unsigned l).length ≤ 9 := by
    cases l with
    | nil => exact hlen
    | cons c l =>
      rw [List.length_cons] at hlen
      rw [unsigned]
      split_ifs
      · omega
      · exact hlen
  rw [parseU32]
  simp only [unsigned_bytes, Bool.or_eq_true, hnil, Bool.not_eq_true', ← Bool.not_eq_true,
    all_digitBytes]
  by_cases hnumber : Number l
  · have hsmall : decimal (unsigned l) < 2 ^ 32 :=
      (decimal_lt hnumber.2).trans_le ((Nat.pow_le_pow_right (by decide) hshort).trans (by decide))
    rw [if_neg (by rintro (h | h); exacts [hnumber.1 h, h hnumber.2]), foldl_digits hnumber.2,
      Nat.zero_mul, Nat.zero_add, if_pos hsmall, Option.some_inj]
    exact ⟨fun h => ⟨hnumber, h.symm⟩, fun h => h.2.symm⟩
  · rw [if_pos ((not_and_or.mp hnumber).imp_left not_not.mp)]
    exact ⟨nofun, fun h => absurd h.1 hnumber⟩

/-! ## The days -/

/-- The years with a 29th of February. -/
def Leap (year : ℕ) : Prop := 4 ∣ year ∧ (¬ 100 ∣ year ∨ 400 ∣ year)

instance (year : ℕ) : Decidable (Leap year) := inferInstanceAs (Decidable (_ ∧ _))

/-- The days of each month, from January on. -/
def monthLengths (year : ℕ) : List ℕ :=
  [31, if Leap year then 29 else 28, 31, 30, 31, 30, 31, 31, 30, 31, 30, 31]

/-- The day is one of the proleptic Gregorian calendar. -/
def DayExists (year month day : ℕ) : Prop :=
  1 ≤ month ∧ ∃ length, (monthLengths year)[month - 1]? = some length ∧ 1 ≤ day ∧ day ≤ length

/-- The month lengths of the check are the calendar's. -/
theorem getElem?_monthLengths (year : ℕ) {month : ℕ} (hlow : 1 ≤ month) (hhigh : month ≤ 12) :
    (monthLengths year)[month - 1]? = some (daysInMonth year month) := by
  have hleap : (year % 4 = 0 ∧ (year % 100 ≠ 0 ∨ year % 400 = 0)) ↔ Leap year := by
    simp only [Leap, Nat.dvd_iff_mod_eq_zero, ne_eq]
  interval_cases month <;> simp only [daysInMonth, hleap] <;> rfl

theorem dayExists_iff {year month day : ℕ} :
    DayExists year month day ↔
    (1 ≤ month ∧ month ≤ 12) ∧ day ≠ 0 ∧ day ≤ daysInMonth year month := by
  constructor
  · rintro ⟨hlow, length, hlength, hday⟩
    have hhigh : month - 1 < 12 := (List.getElem?_eq_some_iff.mp hlength).1
    rw [getElem?_monthLengths year hlow (by omega), Option.some_inj] at hlength
    subst hlength
    exact ⟨⟨hlow, by omega⟩, by omega, hday.2⟩
  · rintro ⟨⟨hlow, hhigh⟩, hday⟩
    exact ⟨hlow, _, getElem?_monthLengths year hlow hhigh, by omega, hday.2⟩

/-! ## Dates, plain and signed -/

/-- A text is three fields of four, two and two characters, with a `-` between them. -/
def Fields (text : String) (y m d : List Char) : Prop :=
  text.toList = y ++ '-' :: (m ++ '-' :: d) ∧ y.length = 4 ∧ m.length = 2 ∧ d.length = 2

/-- `YYYY-MM-DD` in ASCII digits, naming a day that exists. -/
def IsDate (text : String) : Prop :=
  ∃ y m d, Fields text y m d ∧ (∀ c ∈ y ++ (m ++ d), c.isDigit = true) ∧
    DayExists (decimal y) (decimal m) (decimal d)

/-- The same with a sign: some field starts with `+`, and the numbers after the signs name a
day that exists. -/
def SignedDate (text : String) : Prop :=
  ∃ y m d, Fields text y m d ∧ '+' ∈ y ++ (m ++ d) ∧ (Number y ∧ Number m ∧ Number d) ∧
    DayExists (decimal (unsigned y)) (decimal (unsigned m)) (decimal (unsigned d))

/-- ASCII characters have a byte each. -/
theorem bytesOf_eq_length {l : List Char} (h : ∀ c ∈ l, c.toNat < 128) : bytesOf l = l.length := by
  induction l with
  | nil => rfl
  | cons c l ih =>
    rw [bytesOf_cons, utf8Size_ascii (h c List.mem_cons_self),
      ih fun x hx => h x (List.mem_cons_of_mem c hx), List.length_cons, Nat.add_comm]

theorem unsigned_of_digits {l : List Char} (h : ∀ c ∈ l, c.isDigit = true) : unsigned l = l := by
  cases l with
  | nil => rfl
  | cons c l =>
    rw [unsigned, if_neg]
    rintro rfl
    exact absurd (h '+' List.mem_cons_self) (by decide)

theorem mem_of_mem_unsigned {l : List Char} {c : Char} (h : c ∈ l) : c = '+' ∨ c ∈ unsigned l := by
  cases l with
  | nil => cases h
  | cons x l =>
    rw [unsigned]
    split_ifs with hx
    · rcases List.mem_cons.mp h with rfl | h
      · exact .inl hx
      · exact .inr h
    · exact .inr h

section Numbers

variable {l : List Char}

/-- A number without a sign is its digits. -/
theorem Number.digits (h : Number l) (hplus : '+' ∉ l) : ∀ c ∈ l, c.isDigit = true := by
  intro c hc
  rcases mem_of_mem_unsigned hc with rfl | hc
  · exact absurd hc hplus
  · exact h.2 c hc

theorem number_of_digits (hne : l ≠ []) (h : ∀ c ∈ l, c.isDigit = true) : Number l := by
  rw [Number, unsigned_of_digits h]
  exact ⟨hne, h⟩

theorem Number.ascii (h : Number l) : ∀ c ∈ l, c.toNat < 128 := by
  intro c hc
  rcases mem_of_mem_unsigned hc with rfl | hc
  · decide
  · have hdigit := isDigit_iff.mp (h.2 c hc)
    omega

end Numbers

/-- What passes the numeric part of the check. -/
theorem acceptsFields_iff {y m d : List Char} (hy : y.length ≤ 9) (hm : m.length ≤ 9)
    (hd : d.length ≤ 9) :
    acceptsFields (utf8Bytes y) (utf8Bytes m) (utf8Bytes d) = true ↔
      (Number y ∧ Number m ∧ Number d) ∧
        DayExists (decimal (unsigned y)) (decimal (unsigned m)) (decimal (unsigned d)) := by
  have hread : ∀ {l : List Char}, l.length ≤ 9 → ¬ Number l → parseU32 (utf8Bytes l) = none := by
    intro l hl hnot
    rw [Option.eq_none_iff_forall_not_mem]
    intro n hn
    exact hnot ((parseU32_eq_some hl).mp hn).1
  by_cases hnumbers : Number y ∧ Number m ∧ Number d
  · rw [acceptsFields, (parseU32_eq_some hy).mpr ⟨hnumbers.1, rfl⟩,
      (parseU32_eq_some hm).mpr ⟨hnumbers.2.1, rfl⟩, (parseU32_eq_some hd).mpr ⟨hnumbers.2.2, rfl⟩,
      dayExists_iff]
    simp only [hnumbers, and_self, true_and]
    split_ifs with hbad
    · refine ⟨nofun, fun h => ?_⟩
      rcases hbad with hbad | hbad
      · exact absurd h.1 hbad
      · exact absurd hbad h.2.1
    · obtain ⟨hmonth, hday⟩ := not_or.mp hbad
      rw [decide_eq_true_eq]
      exact ⟨fun h => ⟨not_not.mp hmonth, hday, h⟩, fun h => h.2.2⟩
  · refine ⟨fun h => ?_, fun h => absurd h.1 hnumbers⟩
    rw [acceptsFields] at h
    split at h
    · next hyear hmonth hday =>
      exact absurd ⟨((parseU32_eq_some hy).mp hyear).1, ((parseU32_eq_some hm).mp hmonth).1,
        ((parseU32_eq_some hd).mp hday).1⟩ hnumbers
    · cases h

theorem length_le_bytesOf (l : List Char) : l.length ≤ bytesOf l := by
  induction l with
  | nil => exact le_rfl
  | cons c l ih =>
    have hsize := c.utf8Size_pos
    rw [List.length_cons, bytesOf_cons]
    omega

/-- Three numbers that name a day are accepted, signed or not. -/
theorem isCalendarDate_of_numbers {text : String} {y m d : List Char} (hfields : Fields text y m d)
    (hnumbers : Number y ∧ Number m ∧ Number d)
    (hday : DayExists (decimal (unsigned y)) (decimal (unsigned m)) (decimal (unsigned d))) :
    isCalendarDate text = true := by
  obtain ⟨htext, hy, hm, hd⟩ := hfields
  have hbytes : FieldBytes text y m d :=
    ⟨htext, (bytesOf_eq_length hnumbers.1.ascii).trans hy,
      (bytesOf_eq_length hnumbers.2.1.ascii).trans hm,
      (bytesOf_eq_length hnumbers.2.2.ascii).trans hd⟩
  rw [hbytes.isCalendarDate_eq]
  exact (acceptsFields_iff (by omega) (by omega) (by omega)).mpr ⟨hnumbers, hday⟩

/-- The check accepts the dates, and the signed ones with them. -/
theorem isCalendarDate_iff {text : String} :
    isCalendarDate text = true ↔ IsDate text ∨ SignedDate text := by
  constructor
  · intro h
    have hguards : ¬ ((asBytes text).length ≠ 10 ∨ (asBytes text)[4]? ≠ some 45 ∨
        (asBytes text)[7]? ≠ some 45) := by
      intro hguards
      rw [isCalendarDate, if_pos hguards] at h
      cases h
    -- ten bytes with two dashes in place part into three fields
    simp only [not_or, not_not] at hguards
    obtain ⟨y, m, d, hbytes⟩ := exists_fieldBytes hguards.1 hguards.2.1 hguards.2.2
    rw [hbytes.isCalendarDate_eq] at h
    obtain ⟨htext, hy, hm, hd⟩ := hbytes
    have hly := length_le_bytesOf y
    have hlm := length_le_bytesOf m
    have hld := length_le_bytesOf d
    obtain ⟨hnumbers, hday⟩ := (acceptsFields_iff (by omega) (by omega) (by omega)).mp h
    have hfields : Fields text y m d :=
      ⟨htext, (bytesOf_eq_length hnumbers.1.ascii).symm.trans hy,
        (bytesOf_eq_length hnumbers.2.1.ascii).symm.trans hm,
        (bytesOf_eq_length hnumbers.2.2.ascii).symm.trans hd⟩
    -- a field that is a number has digits alone, or a sign in front of them
    by_cases hplus : '+' ∈ y ++ (m ++ d)
    · exact .inr ⟨y, m, d, hfields, hplus, hnumbers, hday⟩
    · simp only [List.mem_append, not_or] at hplus
      have hydigits := hnumbers.1.digits hplus.1
      have hmdigits := hnumbers.2.1.digits hplus.2.1
      have hddigits := hnumbers.2.2.digits hplus.2.2
      rw [unsigned_of_digits hydigits, unsigned_of_digits hmdigits,
        unsigned_of_digits hddigits] at hday
      refine .inl ⟨y, m, d, hfields, fun c hc => ?_, hday⟩
      rcases List.mem_append.mp hc with hc | hc
      · exact hydigits c hc
      · exact (List.mem_append.mp hc).elim (hmdigits c) (hddigits c)
  · rintro (⟨y, m, d, hfields, hdigits, hday⟩ | ⟨y, m, d, hfields, -, hnumbers, hday⟩)
    · have hydigits := fun c hc => hdigits c (List.mem_append_left _ hc)
      have hmdigits := fun c hc => hdigits c (List.mem_append_right _ (List.mem_append_left _ hc))
      have hddigits := fun c hc => hdigits c (List.mem_append_right _ (List.mem_append_right _ hc))
      obtain ⟨-, hy, hm, hd⟩ := id hfields
      refine isCalendarDate_of_numbers hfields
        ⟨number_of_digits (List.ne_nil_of_length_pos (by omega)) hydigits,
          number_of_digits (List.ne_nil_of_length_pos (by omega)) hmdigits,
          number_of_digits (List.ne_nil_of_length_pos (by omega)) hddigits⟩ ?_
      rwa [unsigned_of_digits hydigits, unsigned_of_digits hmdigits, unsigned_of_digits hddigits]
    · exact isCalendarDate_of_numbers hfields hnumbers hday

/-- A date has no sign in it. -/
theorem IsDate.not_signed {text : String} (h : IsDate text) : ¬ SignedDate text := by
  obtain ⟨y, m, d, ⟨htext, -⟩, hdigits, -⟩ := h
  rintro ⟨y', m', d', ⟨htext', -⟩, hplus, -⟩
  have hmem : '+' ∈ text.toList := by
    rw [htext']
    simp only [List.mem_append, List.mem_cons] at hplus ⊢
    tauto
  rw [htext] at hmem
  have hfield : '+' ∈ y ++ (m ++ d) := by
    simp only [List.mem_append, List.mem_cons] at hmem ⊢
    rcases hmem with h | h | h | h | h
    · exact .inl h
    · exact absurd h (by decide)
    · exact .inr (.inl h)
    · exact absurd h (by decide)
    · exact .inr (.inr h)
  exact absurd (hdigits '+' hfield) (by decide)

/-! ## The bound of a calendar action -/

/-- Every other bound that is a string is a timestamp or a date. -/
def OthersAccepted (key : String) (object : List (String × Json)) : Prop :=
  ∀ other ∈ TIME_BOUNDS, other ≠ key → ∀ t, Json.field other object = some (.str t) →
    'T' ∈ t.toList ∨ IsDate (trim t)

/-- `s` is promoted to midnight UTC as the bound `key` of `tool` exactly when it is a date, and
refused when it is none, without a panic. -/
def PromotesExactly (tool key s : String) : Prop :=
  ∀ object, Json.field key object = some (.str s) →
    (OthersAccepted key object → ((∃ out, prepareExecuteArguments tool (some (.obj object)) =
        .ok (.obj out) ∧ Json.field key out = some (.str (trim s ++ "T00:00:00Z"))) ↔
      IsDate (trim s))) ∧
    (¬ IsDate (trim s) → ∃ refused, prepareExecuteArguments tool (some (.obj object)) =
      .error refused) ∧
    slicedCalendarDate (trim s) ≠ none

/-- No rule of a single action is for a calendar action. -/
theorem applyToolRule_calendar {tool : String} (h : startsWith tool "GOOGLECALENDAR_" = true)
    (args : List (String × Json)) : applyToolRule tool args = .ok args := by
  have hsend : tool ≠ "GMAIL_SEND_EMAIL" := by
    rintro rfl
    exact absurd h (by decide +kernel)
  have hlabel : tool ≠ "GMAIL_ADD_LABEL_TO_EMAIL" := by
    rintro rfl
    exact absurd h (by decide +kernel)
  rw [applyToolRule, if_neg (ne_notion_of_calendar h), if_neg hsend, if_neg hlabel]

/-- A calendar action's arguments are its bounds, brought to normal form. -/
theorem prepareExecuteArguments_calendar {tool : String}
    (h : startsWith (trim tool) "GOOGLECALENDAR_" = true) (object : List (String × Json)) :
    prepareExecuteArguments tool (some (.obj object)) =
      (normalizeCalendarTimeBounds (trim tool) TIME_BOUNDS object).map .obj := by
  have hrule := applyToolRule_calendar h
  simp only [prepareExecuteArguments, argumentObject, prepareTimeBounds, h, if_true, Bind.bind,
    Except.bind, pure, Except.pure]
  cases normalizeCalendarTimeBounds (trim tool) TIME_BOUNDS object with
  | error refused => rfl
  | ok out => simp only [hrule]; rfl

theorem contains_stamp (s : String) : contains (trim s) "T" = true ↔ 'T' ∈ s.toList := by
  rw [contains_iff, toList_trim, show ("T" : String).toList = ['T'] from rfl,
    List.singleton_infix_iff, mem_trimChars (by decide)]

/-- A bound without a `T` is promoted or it has no normal form. -/
theorem normalizeRfc3339Bound_bare {s : String} (hstamp : 'T' ∉ s.toList) :
    normalizeRfc3339Bound (.str s) =
      if isCalendarDate (trim s) then some (trim s ++ "T00:00:00Z") else none := by
  have hblank : isCalendarDate "" = false := by decide +kernel
  simp only [normalizeRfc3339Bound, Json.asStr, contains_stamp, hstamp, if_false]
  split_ifs with hempty hdate
  · rw [hempty, hblank] at hdate
    cases hdate
  · rfl
  · rfl
  · rfl

theorem isSome_normalizeRfc3339Bound {t : String} (h : 'T' ∈ t.toList ∨ IsDate (trim t)) :
    (normalizeRfc3339Bound (.str t)).isSome = true := by
  by_cases hstamp : 'T' ∈ t.toList
  · have hne : trim t ≠ "" := by
      intro hempty
      have hmem : 'T' ∈ (trim t).toList := by
        rw [toList_trim]
        exact (mem_trimChars (by decide)).mpr hstamp
      rw [hempty] at hmem
      cases hmem
    simp only [normalizeRfc3339Bound, Json.asStr, contains_stamp, hstamp, hne, if_true, if_false,
      Option.isSome_some]
  · rw [normalizeRfc3339Bound_bare hstamp,
      if_pos (isCalendarDate_iff.mpr (.inl (h.resolve_left hstamp)))]
    rfl

/-- Bounds that all have a normal form are let through. -/
theorem exists_normalizeCalendarTimeBounds (tool : String) {keys : List String} (hkeys : keys.Nodup)
    {object : List (String × Json)} (h : ∀ key ∈ keys, ∀ t, Json.field key object = some (.str t) →
      (normalizeRfc3339Bound (.str t)).isSome = true) :
    ∃ out, normalizeCalendarTimeBounds tool keys object = .ok out := by
  induction keys generalizing object with
  | nil => exact ⟨object, rfl⟩
  | cons key keys ih =>
    obtain ⟨hkey, hkeys⟩ := List.nodup_cons.mp hkeys
    have hrest := fun other hother => h other (List.mem_cons_of_mem key hother)
    rw [normalizeCalendarTimeBounds]
    cases hfield : Json.field key object with
    | none => exact ih hkeys hrest
    | some value =>
      cases hnormal : normalizeRfc3339Bound value with
      | some normalized =>
        -- the bounds still to be visited are the ones that were there
        simp only [hnormal]
        refine ih hkeys fun other hother t ht => hrest other hother t ?_
        have hne : other ≠ key := fun hsame => hkey (hsame ▸ hother)
        rwa [Json.field_insert_of_ne hne] at ht
      | none =>
        cases value with
        | str t =>
          have hsome := h key List.mem_cons_self t hfield
          rw [hnormal] at hsome
          cases hsome
        | _ => exact ih hkeys hrest

section Bound

variable {tool key s : String} {object : List (String × Json)}

/-- A bare bound the check does not accept refuses the call. -/
theorem refused_of_bare (hcalendar : startsWith (trim tool) "GOOGLECALENDAR_" = true)
    (hkey : key ∈ TIME_BOUNDS) (hstamp : 'T' ∉ s.toList)
    (hfield : Json.field key object = some (.str s)) (hdate : isCalendarDate (trim s) = false) :
    ∃ refused, prepareExecuteArguments tool (some (.obj object)) = .error refused := by
  rw [prepareExecuteArguments_calendar hcalendar]
  cases hbounds : normalizeCalendarTimeBounds (trim tool) TIME_BOUNDS object with
  | error refused => exact ⟨refused, rfl⟩
  | ok out =>
    have hnone : normalizeRfc3339Bound (.str s) = none := by
      rw [normalizeRfc3339Bound_bare hstamp, hdate]
      rfl
    cases asStr_of_normalizeCalendarTimeBounds nodup_timeBounds hbounds hkey hfield hnone

/-- Next to bounds that are accepted, a bare bound is promoted exactly when the check accepts it. -/
theorem promoted_iff (hcalendar : startsWith (trim tool) "GOOGLECALENDAR_" = true)
    (hkey : key ∈ TIME_BOUNDS) (hstamp : 'T' ∉ s.toList)
    (hfield : Json.field key object = some (.str s)) (hothers : OthersAccepted key object) :
    (∃ out, prepareExecuteArguments tool (some (.obj object)) = .ok (.obj out) ∧
      Json.field key out = some (.str (trim s ++ "T00:00:00Z"))) ↔
        isCalendarDate (trim s) = true := by
  constructor
  · rintro ⟨out, hout, -⟩
    by_contra hdate
    obtain ⟨refused, hrefused⟩ :=
      refused_of_bare hcalendar hkey hstamp hfield (Bool.eq_false_iff.mpr hdate)
    cases hout.symm.trans hrefused
  · intro hdate
    have hnormal : normalizeRfc3339Bound (.str s) = some (trim s ++ "T00:00:00Z") := by
      rw [normalizeRfc3339Bound_bare hstamp, if_pos hdate]
    have hall : ∀ other ∈ TIME_BOUNDS, ∀ t, Json.field other object = some (.str t) →
        (normalizeRfc3339Bound (.str t)).isSome = true := by
      intro other hother t ht
      by_cases hsame : other = key
      · rw [hsame, hfield] at ht
        cases ht
        rw [hnormal]
        rfl
      · exact isSome_normalizeRfc3339Bound (hothers other hother hsame t ht)
    obtain ⟨out, hout⟩ := exists_normalizeCalendarTimeBounds (trim tool) nodup_timeBounds hall
    refine ⟨out, by rw [prepareExecuteArguments_calendar hcalendar, hout]; rfl, ?_⟩
    rw [field_normalizeCalendarTimeBounds nodup_timeBounds hout, if_pos hkey, hfield,
      Option.map_some, boundValue, hnormal]

/-- A signed date is promoted although it is no date. -/
theorem not_promotesExactly_of_signed (hcalendar : startsWith (trim tool) "GOOGLECALENDAR_" = true)
    (hkey : key ∈ TIME_BOUNDS) (hstamp : 'T' ∉ s.toList) (hsigned : SignedDate (trim s)) :
    ¬ PromotesExactly tool key s := by
  intro hpromotes
  have hfield : Json.field key [(key, .str s)] = some (.str s) :=
    Json.field_cons_self key (.str s) []
  have hothers : OthersAccepted key [(key, .str s)] := by
    intro other _ hne t ht
    rw [Json.field_cons_of_ne hne] at ht
    cases ht
  have hdate : isCalendarDate (trim s) = true := isCalendarDate_iff.mpr (.inr hsigned)
  have hpromoted := (promoted_iff hcalendar hkey hstamp hfield hothers).mpr hdate
  exact (((hpromotes _ hfield).1 hothers).mp hpromoted).not_signed hsigned

/-- Bare dates are promoted exactly, the signed ones aside. -/
theorem promotesExactly_iff (hcalendar : startsWith (trim tool) "GOOGLECALENDAR_" = true)
    (hkey : key ∈ TIME_BOUNDS) (hstamp : 'T' ∉ s.toList) :
    PromotesExactly tool key s ↔ ¬ SignedDate (trim s) := by
  constructor
  · exact fun hpromotes hsigned =>
      not_promotesExactly_of_signed hcalendar hkey hstamp hsigned hpromotes
  · intro hsigned object hfield
    have hdate : isCalendarDate (trim s) = true ↔ IsDate (trim s) :=
      isCalendarDate_iff.trans (or_iff_left hsigned)
    refine ⟨fun hothers => (promoted_iff hcalendar hkey hstamp hfield hothers).trans hdate,
      fun hnone => ?_, ?_⟩
    · exact refused_of_bare hcalendar hkey hstamp hfield
        (Bool.eq_false_iff.mpr fun h => hnone (hdate.mp h))
    · rw [slicedCalendarDate_eq]
      exact Option.some_ne_none _

end Bound

/-- The 14th of May is promoted. -/
theorem promotesExactly_may : PromotesExactly "GOOGLECALENDAR_EVENTS_LIST" "timeMin" "2026-05-14" ↔
    ¬ SignedDate (trim "2026-05-14") :=
  promotesExactly_iff (by decide +kernel) (by decide) (by decide)

/-- A May written `+5` is promoted too. -/
theorem not_promotesExactly_plus :
    ¬ PromotesExactly "GOOGLECALENDAR_EVENTS_LIST" "timeMin" "2026-+5-14" := by
  have htrim : trim "2026-+5-14" = "2026-+5-14" := by decide +kernel
  apply not_promotesExactly_of_signed (by decide +kernel) (by decide) (by decide)
  rw [htrim]
  refine ⟨['2', '0', '2', '6'], ['+', '5'], ['1', '4'], ⟨rfl, rfl, rfl, rfl⟩, by decide,
    ⟨⟨by decide, List.all_eq_true.mp (by decide)⟩, ⟨by decide, List.all_eq_true.mp (by decide)⟩,
      ⟨by decide, List.all_eq_true.mp (by decide)⟩⟩, ?_⟩
  exact dayExists_iff.mpr (by decide)

end Execute
