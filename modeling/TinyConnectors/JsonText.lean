/-
# The text of a JSON value

`serde_json::to_string`: no white space, strings with the escapes of the
library, numbers as `itoa` and `ryu` write them.  How a finite `f64` is written
is a parameter (`FloatFormat`): its shortest text that reads back, marked as a
float by a point or an exponent.  Different values have different texts, also
where more text follows.
-/
import TinyConnectors.Json

/-! ## Texts that end where they end -/

/-- In front of a stop, a text over a code none of whose words starts another
can be read in one way. -/
theorem flatMap_append_cons_inj {f : Char → List Char} {stop : Char}
    (hstop : ∀ c, ∃ x l, f c = x :: l ∧ x ≠ stop) (hcode : ∀ c d, f c <+: f d → c = d)
    {s t rest rest' : List Char} (h : s.flatMap f ++ stop :: rest = t.flatMap f ++ stop :: rest') :
    s = t ∧ rest = rest' := by
  induction s generalizing t with
  | nil =>
    rcases t with _ | ⟨d, t⟩
    · exact ⟨rfl, List.tail_eq_of_cons_eq h⟩
    · obtain ⟨x, l, hd, hx⟩ := hstop d
      rw [List.flatMap_nil, List.flatMap_cons, hd] at h
      exact absurd (List.head_eq_of_cons_eq h).symm hx
  | cons c s ih =>
    rcases t with _ | ⟨d, t⟩
    · obtain ⟨x, l, hc, hx⟩ := hstop c
      rw [List.flatMap_nil, List.flatMap_cons, hc] at h
      exact absurd (List.head_eq_of_cons_eq h) hx
    · rw [List.flatMap_cons, List.flatMap_cons, List.append_assoc, List.append_assoc] at h
      have hcd : c = d := by
        have hc : f c <+: f d ++ (t.flatMap f ++ stop :: rest') := ⟨_, h⟩
        rcases List.prefix_or_prefix_of_prefix hc (List.prefix_append _ _) with hpre | hpre
        · exact hcode c d hpre
        · exact (hcode d c hpre).symm
      subst hcd
      obtain ⟨rfl, hrest⟩ := ih (List.append_cancel_left h)
      exact ⟨rfl, hrest⟩

/-- A run of characters of one kind ends where the next one is of another kind. -/
theorem run_append_inj {p : Char → Bool} {a b rest rest' : List Char} (ha : ∀ c ∈ a, p c = true)
    (hb : ∀ c ∈ b, p c = true) (hrest : ∀ c ∈ rest.head?, p c = false)
    (hrest' : ∀ c ∈ rest'.head?, p c = false) (h : a ++ rest = b ++ rest') :
    a = b ∧ rest = rest' := by
  have hrun : ∀ {a rest : List Char}, (∀ c ∈ a, p c = true) → (∀ c ∈ rest.head?, p c = false) →
      (a ++ rest).takeWhile p = a := by
    intro a rest ha hrest
    rw [List.takeWhile_append_of_pos ha]
    rcases rest with _ | ⟨c, rest⟩
    · simp
    · rw [List.takeWhile_cons_of_neg (by simp [hrest c rfl]), List.append_nil]
  have hab : a = b := by
    rw [← hrun ha hrest, h, hrun hb hrest']
  subst hab
  exact ⟨rfl, List.append_cancel_left h⟩

namespace Json

/-! ## Strings -/

/-- A hexadecimal digit, in lower case. -/
def hexDigit (n : ℕ) : Char := if n < 10 then Char.ofNat (n + 48) else Char.ofNat (n + 87)

/-- How one character of a string is written. -/
def escapeChar (c : Char) : List Char :=
  if c = '"' then ['\\', '"']
  else if c = '\\' then ['\\', '\\']
  else if c.toNat = 8 then ['\\', 'b']
  else if c.toNat = 9 then ['\\', 't']
  else if c.toNat = 10 then ['\\', 'n']
  else if c.toNat = 12 then ['\\', 'f']
  else if c.toNat = 13 then ['\\', 'r']
  else if c.toNat < 32 then ['\\', 'u', '0', '0', hexDigit (c.toNat / 16), hexDigit (c.toNat % 16)]
  else [c]

/-- A string in its quotes. -/
def quote (s : String) : List Char := '"' :: (s.toList.flatMap escapeChar ++ ['"'])

/-- The characters that are not written as they are. -/
def special : List Char := '"' :: '\\' :: (List.range 32).map Char.ofNat

theorem escapeChar_of_not_special {c : Char} (h : c ∉ special) : escapeChar c = [c] := by
  have hcontrol : ¬ c.toNat < 32 := by
    intro hlt
    refine h (List.mem_cons_of_mem _ (List.mem_cons_of_mem _ (List.mem_map.mpr ?_)))
    exact ⟨c.toNat, List.mem_range.mpr hlt, Char.ofNat_toNat c⟩
  simp only [special, List.mem_cons, not_or] at h
  rw [escapeChar, if_neg h.1, if_neg h.2.1, if_neg (by omega), if_neg (by omega), if_neg (by omega),
    if_neg (by omega), if_neg (by omega), if_neg hcontrol]

/-- The escapes, one by one: checked as a Boolean, whatever instances are about. -/
theorem special_escaped : (special.all fun c =>
    decide ((escapeChar c).head? = some '\\') && decide ((escapeChar c).length ≠ 1)) = true := by
  decide +kernel

theorem special_code : (special.all fun c => special.all fun d =>
    !(escapeChar c).isPrefixOf (escapeChar d) || decide (c = d)) = true := by
  decide +kernel

theorem escapeChar_of_special {c : Char} (h : c ∈ special) :
    ∃ x l, escapeChar c = '\\' :: x :: l := by
  obtain ⟨hhead, hlen⟩ : (escapeChar c).head? = some '\\' ∧ (escapeChar c).length ≠ 1 := by
    simpa using List.all_eq_true.mp special_escaped c h
  rcases hc : escapeChar c with _ | ⟨y, _ | ⟨x, l⟩⟩
  · simp [hc] at hhead
  · simp [hc] at hlen
  · rw [hc, List.head?_cons, Option.some.injEq] at hhead
    exact ⟨x, l, by rw [hhead]⟩

theorem escapeChar_starts (c : Char) : ∃ x l, escapeChar c = x :: l ∧ x ≠ '"' := by
  by_cases h : c ∈ special
  · obtain ⟨x, l, hc⟩ := escapeChar_of_special h
    exact ⟨'\\', x :: l, hc, by decide⟩
  · refine ⟨c, [], escapeChar_of_not_special h, ?_⟩
    rintro rfl
    exact h List.mem_cons_self

theorem escapeChar_code (c d : Char) (h : escapeChar c <+: escapeChar d) : c = d := by
  have hbackslash : '\\' ∈ special := by decide +kernel
  by_cases hc : c ∈ special
  · by_cases hd : d ∈ special
    · have hcode := List.all_eq_true.mp (List.all_eq_true.mp special_code c hc) d hd
      rw [List.isPrefixOf_iff_prefix.mpr h, Bool.not_true, Bool.false_or] at hcode
      exact of_decide_eq_true hcode
    · -- an escape has two characters or more
      obtain ⟨x, l, hescape⟩ := escapeChar_of_special hc
      rw [hescape, escapeChar_of_not_special hd] at h
      have hlen := h.length_le
      simp at hlen
  · by_cases hd : d ∈ special
    · obtain ⟨x, l, hescape⟩ := escapeChar_of_special hd
      rw [hescape, escapeChar_of_not_special hc, List.cons_prefix_cons] at h
      exact absurd (h.1 ▸ hbackslash) hc
    · rw [escapeChar_of_not_special hc, escapeChar_of_not_special hd, List.cons_prefix_cons] at h
      exact h.1

theorem quote_append_inj {s t : String} {rest rest' : List Char}
    (h : quote s ++ rest = quote t ++ rest') : s = t ∧ rest = rest' := by
  simp only [quote, List.cons_append, List.append_assoc, List.nil_append, List.cons.injEq,
    true_and] at h
  obtain ⟨hst, hrest⟩ := flatMap_append_cons_inj escapeChar_starts escapeChar_code h
  exact ⟨String.toList_inj.mp hst, hrest⟩

/-! ## Numbers -/

/-- The characters numbers are written in. -/
def isNumeric (c : Char) : Bool := c.isDigit || c = '-' || c = '.' || c = 'e'

/-- How a finite `f64` is written. -/
structure FloatFormat where
  text : ℚ → List Char
  injective : Function.Injective text
  numeric : ∀ q, ∀ c ∈ text q, isNumeric c = true
  marked : ∀ q, '.' ∈ text q ∨ 'e' ∈ text q

/-- The digits of a natural number. -/
def digits (n : ℕ) : List Char := Nat.toDigits 10 n

theorem isDigit_of_mem_digits {n : ℕ} {c : Char} (hc : c ∈ digits n) : c.isDigit = true :=
  Nat.isDigit_of_mem_toDigits (by decide) (by decide) hc

theorem digits_injective : Function.Injective digits := by
  intro m n h
  rw [← Nat.ofDigitChars_ten_toDigits (n := m), ← Nat.ofDigitChars_ten_toDigits (n := n)]
  exact congrArg (Nat.ofDigitChars 10 · 0) h

section Print

variable (fmt : FloatFormat)

/-- A number. -/
def numberText : JsonNumber → List Char
  | .posInt n => digits n
  | .negInt n _ => '-' :: digits n.natAbs
  | .float q => fmt.text q

mutual

/-- `serde_json::to_string`. -/
def print : Json → List Char
  | .null => ['n', 'u', 'l', 'l']
  | .bool true => ['t', 'r', 'u', 'e']
  | .bool false => ['f', 'a', 'l', 's', 'e']
  | .num n => numberText fmt n
  | .str s => quote s
  | .arr items => '[' :: printItems true items
  | .obj fields => '\x7b' :: printFields true fields

/-- The rest of an array; a comma stands before every item but the first. -/
def printItems (first : Bool) : List Json → List Char
  | [] => [']']
  | item :: items => (if first then [] else [',']) ++ (print item ++ printItems false items)

/-- The rest of an object. -/
def printFields (first : Bool) : List (String × Json) → List Char
  | [] => ['\x7d']
  | (key, value) :: fields =>
    (if first then [] else [',']) ++ (quote key ++ ':' :: (print value ++ printFields false fields))

end

variable {fmt}

theorem isNumeric_of_mem_numberText {n : JsonNumber} {c : Char} (hc : c ∈ numberText fmt n) :
    isNumeric c = true := by
  cases n with
  | posInt n => simp [isNumeric, isDigit_of_mem_digits hc]
  | negInt n _ =>
    rcases List.mem_cons.mp hc with rfl | hc
    · decide
    · simp [isNumeric, isDigit_of_mem_digits hc]
  | float q => exact fmt.numeric q c hc

theorem numberText_ne_nil (n : JsonNumber) : numberText fmt n ≠ [] := by
  cases n with
  | posInt n => exact Nat.toDigits_ne_nil
  | negInt n _ => exact List.cons_ne_nil _ _
  | float q =>
    rcases fmt.marked q with h | h
    · exact List.ne_nil_of_mem h
    · exact List.ne_nil_of_mem h

/-- An integer is not marked as a float. -/
theorem not_marked {n : ℕ} {c : Char} (hc : c ∈ digits n) : c ≠ '.' ∧ c ≠ 'e' ∧ c ≠ '-' := by
  have hdigit := isDigit_of_mem_digits hc
  refine ⟨?_, ?_, ?_⟩
  · rintro rfl
    exact absurd hdigit (by decide)
  · rintro rfl
    exact absurd hdigit (by decide)
  · rintro rfl
    exact absurd hdigit (by decide)

theorem text_ne_digits (q : ℚ) (n : ℕ) : fmt.text q ≠ digits n ∧ fmt.text q ≠ '-' :: digits n := by
  rcases fmt.marked q with h | h
  · refine ⟨fun heq => (not_marked (heq ▸ h)).1 rfl, fun heq => ?_⟩
    rcases List.mem_cons.mp (heq ▸ h) with hc | hc
    · exact absurd hc (by decide)
    · exact (not_marked hc).1 rfl
  · refine ⟨fun heq => (not_marked (heq ▸ h)).2.1 rfl, fun heq => ?_⟩
    rcases List.mem_cons.mp (heq ▸ h) with hc | hc
    · exact absurd hc (by decide)
    · exact (not_marked hc).2.1 rfl

theorem digits_ne_minus (m n : ℕ) : digits m ≠ '-' :: digits n := by
  intro h
  have hminus : '-' ∈ digits m := h ▸ List.mem_cons_self
  exact (not_marked hminus).2.2 rfl

theorem numberText_injective : Function.Injective (numberText fmt) := by
  intro m n h
  cases m with
  | posInt a =>
    cases n with
    | posInt b => rw [digits_injective h]
    | negInt b _ => exact absurd h (digits_ne_minus _ _)
    | float q => exact absurd h.symm (text_ne_digits q _).1
  | negInt a ha =>
    cases n with
    | posInt b => exact absurd h.symm (digits_ne_minus _ _)
    | negInt b hb =>
      have habs : a.natAbs = b.natAbs := digits_injective (List.tail_eq_of_cons_eq h)
      have hab : a = b := by omega
      subst hab
      rfl
    | float q => exact absurd h.symm (text_ne_digits q _).2
  | float p =>
    cases n with
    | posInt b => exact absurd h (text_ne_digits p _).1
    | negInt b _ => exact absurd h (text_ne_digits p _).2
    | float q => rw [fmt.injective h]

/-! ## Values -/

/-- What may follow a value: nothing, or a character no number is written in. -/
def Follows (rest : List Char) : Prop := ∀ c ∈ rest.head?, isNumeric c = false

/-- The first character of a value tells which kind it is of. -/
def opener : Json → Char → Prop
  | .null, c => c = 'n'
  | .bool true, c => c = 't'
  | .bool false, c => c = 'f'
  | .num _, c => isNumeric c = true
  | .str _, c => c = '"'
  | .arr _, c => c = '['
  | .obj _, c => c = '\x7b'

variable (fmt) in
theorem exists_opener (v : Json) : ∃ c l, print fmt v = c :: l ∧ opener v c := by
  cases v with
  | null => exact ⟨_, _, rfl, rfl⟩
  | bool b =>
    cases b with
    | true => exact ⟨_, _, rfl, rfl⟩
    | false => exact ⟨_, _, rfl, rfl⟩
  | num n =>
    rcases hn : numberText fmt n with _ | ⟨c, l⟩
    · exact absurd hn (numberText_ne_nil n)
    · exact ⟨c, l, by rw [print, hn], isNumeric_of_mem_numberText (hn ▸ List.mem_cons_self)⟩
  | str s => exact ⟨_, _, by rw [print, quote], rfl⟩
  | arr items => exact ⟨_, _, by rw [print], rfl⟩
  | obj fields => exact ⟨_, _, by rw [print], rfl⟩

/-- Two values whose texts start together have one kind of opener. -/
theorem opener_of_print {v w : Json} {rest rest' : List Char}
    (h : print fmt v ++ rest = print fmt w ++ rest') : ∃ c, opener v c ∧ opener w c := by
  obtain ⟨c, l, hv, hc⟩ := exists_opener fmt v
  obtain ⟨d, l', hw, hd⟩ := exists_opener fmt w
  rw [hv, hw, List.cons_append, List.cons_append] at h
  exact ⟨c, hc, List.head_eq_of_cons_eq h ▸ hd⟩

/-- The values whose texts start like that of `v`. -/
def OfKind : Json → Json → Prop
  | .null, w => w = .null
  | .bool b, w => w = .bool b
  | .num _, w => ∃ n, w = .num n
  | .str _, w => ∃ s, w = .str s
  | .arr _, w => ∃ items, w = .arr items
  | .obj _, w => ∃ fields, w = .obj fields

theorem ofKind_of_opener {v w : Json} {c : Char} (hv : opener v c) (hw : opener w c) :
    OfKind v w := by
  -- two openers are the same character only where they belong to one kind
  rcases v with _ | (_ | _) | _ | _ | _ | _ <;> rcases w with _ | (_ | _) | _ | _ | _ | _ <;>
    simp only [opener] at hv hw <;> (try subst hv) <;> (try subst hw) <;>
    first
    | exact ⟨_, rfl⟩
    | rfl
    | exact absurd hw (by decide)
    | exact absurd hv (by decide)

theorem follows_of_closed {c : Char} {rest : List Char} (h : isNumeric c = false) :
    Follows (c :: rest) := by
  intro d hd
  rw [List.head?_cons, Option.mem_some_iff] at hd
  rwa [← hd]

/-- After an item stands a comma or the end of the array. -/
theorem follows_printItems (items : List Json) (rest : List Char) :
    Follows (printItems fmt false items ++ rest) := by
  cases items with
  | nil => exact follows_of_closed (by decide)
  | cons item items => exact follows_of_closed (by decide)

/-- After the value of a field stands a comma or the end of the object. -/
theorem follows_printFields (fields : List (String × Json)) (rest : List Char) :
    Follows (printFields fmt false fields ++ rest) := by
  cases fields with
  | nil => exact follows_of_closed (by decide)
  | cons entry fields => exact follows_of_closed (by decide)

/-- No value starts like the end of an array. -/
theorem not_opener_close (v : Json) : ¬ opener v ']' := by
  rcases v with _ | (_ | _) | _ | _ | _ | _ <;> simp [opener, isNumeric]

theorem item_ne_close {v : Json} {first : Bool} {l rest rest' : List Char} :
    (if first then [] else [',']) ++ (print fmt v ++ l) ++ rest ≠ ']' :: rest' := by
  intro h
  cases first with
  | false => exact absurd (List.head_eq_of_cons_eq h) (by decide)
  | true =>
    obtain ⟨c, l', hprint, hopener⟩ := exists_opener fmt v
    rw [hprint] at h
    obtain rfl : c = ']' := List.head_eq_of_cons_eq h
    exact not_opener_close v hopener

mutual

/-- Texts of values that go on alike are texts of one value. -/
theorem print_append_inj : ∀ (v w : Json) {rest rest' : List Char}, Follows rest → Follows rest' →
    print fmt v ++ rest = print fmt w ++ rest' → v = w ∧ rest = rest'
  | v, w, rest, rest', hrest, hrest', h => by
    obtain ⟨c, hv, hw⟩ := opener_of_print h
    have hkind := ofKind_of_opener hv hw
    match v, hkind with
    | .null, hkind =>
      obtain rfl : w = .null := hkind
      exact ⟨rfl, List.append_cancel_left h⟩
    | .bool b, hkind =>
      obtain rfl : w = .bool b := hkind
      exact ⟨rfl, List.append_cancel_left h⟩
    | .num m, ⟨n, hn⟩ =>
      subst hn
      obtain ⟨htext, hrest⟩ := run_append_inj (fun c => isNumeric_of_mem_numberText)
        (fun c => isNumeric_of_mem_numberText) hrest hrest' h
      exact ⟨by rw [numberText_injective htext], hrest⟩
    | .str s, ⟨t, ht⟩ =>
      subst ht
      obtain ⟨rfl, hrest⟩ := quote_append_inj h
      exact ⟨rfl, hrest⟩
    | .arr xs, ⟨ys, hys⟩ =>
      subst hys
      obtain ⟨rfl, hrest⟩ := printItems_append_inj true xs ys (List.tail_eq_of_cons_eq h)
      exact ⟨rfl, hrest⟩
    | .obj xs, ⟨ys, hys⟩ =>
      subst hys
      obtain ⟨rfl, hrest⟩ := printFields_append_inj true xs ys (List.tail_eq_of_cons_eq h)
      exact ⟨rfl, hrest⟩

theorem printItems_append_inj : ∀ (first : Bool) (xs ys : List Json) {rest rest' : List Char},
    printItems fmt first xs ++ rest = printItems fmt first ys ++ rest' → xs = ys ∧ rest = rest'
  | _, [], [], rest, rest', h => ⟨rfl, List.tail_eq_of_cons_eq h⟩
  | _, [], y :: ys, rest, rest', h => by
    rw [printItems, printItems] at h
    exact absurd h.symm item_ne_close
  | _, x :: xs, [], rest, rest', h => by
    rw [printItems, printItems] at h
    exact absurd h item_ne_close
  | first, x :: xs, y :: ys, rest, rest', h => by
    simp only [printItems, List.append_assoc, List.append_cancel_left_eq] at h
    obtain ⟨rfl, htail⟩ :=
      print_append_inj x y (follows_printItems xs _) (follows_printItems ys _) h
    obtain ⟨rfl, hrest⟩ := printItems_append_inj false xs ys htail
    exact ⟨rfl, hrest⟩

theorem printFields_append_inj : ∀ (first : Bool) (xs ys : List (String × Json))
    {rest rest' : List Char}, printFields fmt first xs ++ rest = printFields fmt first ys ++ rest' →
    xs = ys ∧ rest = rest'
  | _, [], [], rest, rest', h => ⟨rfl, List.tail_eq_of_cons_eq h⟩
  | first, [], (l, y) :: ys, rest, rest', h => by
    cases first <;> simp [printFields, quote] at h
  | first, (k, x) :: xs, [], rest, rest', h => by
    cases first <;> simp [printFields, quote] at h
  | first, (k, x) :: xs, (l, y) :: ys, rest, rest', h => by
    simp only [printFields, List.append_assoc, List.cons_append, List.append_cancel_left_eq] at h
    obtain ⟨rfl, hvalue⟩ := quote_append_inj h
    have hvalue := List.tail_eq_of_cons_eq hvalue
    obtain ⟨rfl, htail⟩ :=
      print_append_inj x y (follows_printFields xs _) (follows_printFields ys _) hvalue
    obtain ⟨rfl, hrest⟩ := printFields_append_inj false xs ys htail
    exact ⟨rfl, hrest⟩

end

/-- Different values have different texts. -/
theorem print_injective : Function.Injective (print fmt) := by
  intro v w h
  have hnil : Follows [] := by
    intro c hc
    cases hc
  exact (print_append_inj v w hnil hnil (by rw [h])).1

end Print

/-! ## A format -/

/-- The sign of an integer. -/
def signText (n : ℤ) : List Char := if n < 0 then ['-'] else []

/-- The numerator and the denominator with a point between them. -/
def fractionText (q : ℚ) : List Char :=
  signText q.num ++ digits q.num.natAbs ++ '.' :: digits q.den

theorem fractionText_injective : Function.Injective fractionText := by
  intro p q h
  have hnumeric : ∀ {r : ℚ}, ∀ c ∈ signText r.num ++ digits r.num.natAbs, c ≠ '.' := by
    intro r c hc
    rcases List.mem_append.mp hc with hc | hc
    · unfold signText at hc
      split at hc
      · rw [List.mem_singleton.mp hc]
        decide
      · exact absurd hc List.not_mem_nil
    · exact (not_marked hc).1
  obtain ⟨hnum, hden⟩ := run_append_inj (p := fun c => c ≠ '.')
    (fun c hc => by simpa using hnumeric c hc) (fun c hc => by simpa using hnumeric c hc)
    (by simp) (by simp) h
  have hden : p.den = q.den := digits_injective (List.tail_eq_of_cons_eq hden)
  have hnum : p.num = q.num := by
    unfold signText at hnum
    split at hnum
    · split at hnum
      · have habs := digits_injective (List.tail_eq_of_cons_eq hnum)
        omega
      · exact absurd hnum.symm (digits_ne_minus _ _)
    · split at hnum
      · exact absurd hnum (digits_ne_minus _ _)
      · have habs := digits_injective hnum
        omega
  exact Rat.ext hnum hden

/-- A format that is right for the values without floats. -/
def fractionFormat : FloatFormat where
  text := fractionText
  injective := fractionText_injective
  numeric q c hc := by
    unfold fractionText signText at hc
    simp only [List.mem_append, List.mem_cons] at hc
    rcases hc with (hc | hc) | rfl | hc
    · split at hc
      · rw [List.mem_singleton.mp hc]
        decide
      · exact absurd hc List.not_mem_nil
    · simp [isNumeric, isDigit_of_mem_digits hc]
    · decide
    · simp [isNumeric, isDigit_of_mem_digits hc]
  marked q := Or.inl (by simp [fractionText])

end Json
