/-
# Occurrences in a text

Where a pattern can occur in a text that is put together from parts, and what
`str::replace` does to the patterns of a text.  A character that is foreign to a pattern
is a wall: no occurrence of the pattern reaches across it.  A replacement that stands
between two walls therefore makes no occurrence that was not there before, and leaves
none of the pattern it replaces.
-/
import TinyConnectors.RustStr

namespace RustStr

variable {α : Type} {v w : List α}

/-! ## Walls -/

/-- No occurrence reaches across a foreign character. -/
theorem infix_wall {x : α} (hx : x ∉ v) (a b : List α) :
    v <:+: a ++ x :: b ↔ v <:+: a ∨ v <:+: b := by
  constructor
  · intro h
    rcases List.infix_append_iff.mp h with h | h | ⟨front, back, rfl, hfront, hback⟩
    · exact .inl h
    · rcases List.infix_cons_iff.mp h with h | h
      · cases v with
        | nil => exact .inl List.nil_infix
        | cons y v =>
          rw [List.cons_prefix_cons] at h
          exact absurd (h.1 ▸ List.mem_cons_self) hx
      · exact .inr h
    · cases back with
      | nil =>
        rw [List.append_nil]
        exact .inl hfront.isInfix
      | cons y back =>
        rw [List.cons_prefix_cons] at hback
        exact absurd (List.mem_append_right front (hback.1 ▸ List.mem_cons_self)) hx
  · rintro (h | h)
    · exact List.infix_append_of_infix_left h
    · exact List.infix_append_of_infix_right (List.infix_cons h)

/-- The same on both sides of a text between two walls. -/
theorem infix_walls {x y : α} (hx : x ∉ v) (hy : y ∉ v) (a mid b : List α) :
    v <:+: a ++ (x :: mid ++ [y]) ++ b ↔ v <:+: a ∨ v <:+: mid ∨ v <:+: b := by
  rw [show a ++ (x :: mid ++ [y]) ++ b = a ++ x :: (mid ++ y :: b) by simp, infix_wall hx,
    infix_wall hy]

/-! ## `str::contains` -/

/-- `str::contains` looks for an occurrence. -/
theorem containsChars_iff {w l : List Char} : containsChars w l = true ↔ w <:+: l := by
  induction l with
  | nil => rw [containsChars, List.isEmpty_iff, List.infix_nil]
  | cons c l ih =>
      rw [containsChars, Bool.or_eq_true, List.isPrefixOf_iff_prefix, ih, List.infix_cons_iff]

theorem contains_iff {s w : String} : contains s w = true ↔ w.toList <:+: s.toList :=
  containsChars_iff

/-! ## `str::replace` -/

section Replace

variable [DecidableEq α]

/-- `str::replace` for a pattern that is not empty, from the left and without overlap: `skip` counts
the characters of the last occurrence still to be passed over. -/
def replaceFrom (w r : List α) : ℕ → List α → List α
  | _, [] => []
  | 0, c :: l =>
    if w <+: c :: l then r ++ replaceFrom w r (w.length - 1) l else c :: replaceFrom w r 0 l
  | skip + 1, _ :: l => replaceFrom w r skip l

def replaceAll (w r l : List α) : List α := replaceFrom w r 0 l

theorem replaceFrom_eq (w r : List α) (skip : ℕ) (l : List α) :
    replaceFrom w r skip l = replaceAll w r (l.drop skip) := by
  induction skip generalizing l with
  | zero => rfl
  | succ skip ih =>
    cases l with
    | nil => rfl
    | cons c l => rw [replaceFrom, ih, List.drop_succ_cons]

@[simp] theorem replaceAll_nil (w r : List α) : replaceAll w r [] = [] := rfl

/-- An occurrence at the front is replaced. -/
theorem replaceAll_append (hw : w ≠ []) (r rest : List α) :
    replaceAll w r (w ++ rest) = r ++ replaceAll w r rest := by
  obtain ⟨c, w', rfl⟩ := List.exists_cons_of_ne_nil hw
  rw [replaceAll, List.cons_append, replaceFrom, if_pos ⟨rest, rfl⟩, replaceFrom_eq,
    List.length_cons, Nat.add_sub_cancel, List.drop_left]

/-- A character that no occurrence starts at stays. -/
theorem replaceAll_cons {c : α} {l : List α} (h : ¬ w <+: c :: l) (r : List α) :
    replaceAll w r (c :: l) = c :: replaceAll w r l := by
  rw [replaceAll, replaceFrom, if_neg h]
  rfl

/-- Induction along a replacement: an occurrence at the front is passed over at once. -/
theorem occurrence_induction {motive : List α → Prop} (hw : w ≠ []) (nil : motive [])
    (found : ∀ rest, motive rest → motive (w ++ rest))
    (other : ∀ c l, ¬ w <+: c :: l → motive l → motive (c :: l)) (l : List α) : motive l := by
  induction hlen : l.length using Nat.strong_induction_on generalizing l with
  | _ n ih =>
    cases l with
    | nil => exact nil
    | cons c l =>
      by_cases hfront : w <+: c :: l
      · obtain ⟨rest, hrest⟩ := hfront
        have hpos := List.length_pos_of_ne_nil hw
        have hlt : rest.length < n := by
          rw [← hlen, ← hrest, List.length_append]
          omega
        rw [← hrest]
        exact found rest (ih _ hlt rest rfl)
      · exact other c l hfront (ih l.length (by rw [← hlen]; exact Nat.lt_succ_self _) l rfl)

section Walled

-- the replacement stands between two walls
variable {x y : α} {mid : List α} (hw : w ≠ [])
include hw

/-- What starts the new text and has no wall in it started the old one. -/
theorem prefix_of_prefix_replaceAll (hx : x ∉ v) {l : List α}
    (h : v <+: replaceAll w (x :: mid ++ [y]) l) : v <+: l := by
  induction l using occurrence_induction hw generalizing v with
  | nil => exact h
  | found rest ih =>
    rw [replaceAll_append hw] at h
    cases v with
    | nil => exact List.nil_prefix
    | cons z v =>
      rw [List.cons_append, List.cons_append, List.cons_prefix_cons] at h
      exact absurd (h.1 ▸ List.mem_cons_self) hx
  | other c l hfront ih =>
    rw [replaceAll_cons hfront] at h
    cases v with
    | nil => exact List.nil_prefix
    | cons z v =>
      rw [List.cons_prefix_cons] at h ⊢
      exact ⟨h.1, ih (fun hmem => hx (List.mem_cons_of_mem z hmem)) h.2⟩

/-- A replacement makes no occurrence of a pattern foreign to it. -/
theorem infix_of_infix_replaceAll (hx : x ∉ v) (hy : y ∉ v) (hmid : ¬ v <:+: mid) {l : List α}
    (h : v <:+: replaceAll w (x :: mid ++ [y]) l) : v <:+: l := by
  induction l using occurrence_induction hw with
  | nil => exact h
  | found rest ih =>
    rw [replaceAll_append hw, ← List.nil_append (x :: mid ++ [y] ++ _), ← List.append_assoc,
      infix_walls hx hy] at h
    rcases h with h | h | h
    · rw [List.infix_nil] at h
      rw [h]
      exact List.nil_infix
    · exact absurd h hmid
    · exact List.infix_append_of_infix_right (ih h)
  | other c l hfront ih =>
    rw [replaceAll_cons hfront, List.infix_cons_iff] at h
    rcases h with h | h
    · rw [← replaceAll_cons hfront] at h
      exact (prefix_of_prefix_replaceAll hw hx h).isInfix
    · exact List.infix_cons (ih h)

/-- Nothing is left of what has been replaced. -/
theorem not_infix_replaceAll (hx : x ∉ w) (hy : y ∉ w) (hmid : ¬ w <:+: mid) (l : List α) :
    ¬ w <:+: replaceAll w (x :: mid ++ [y]) l := by
  induction l using occurrence_induction hw with
  | nil => exact fun h => hw (List.infix_nil.mp h)
  | found rest ih =>
    rw [replaceAll_append hw, ← List.nil_append (x :: mid ++ [y] ++ _), ← List.append_assoc,
      infix_walls hx hy]
    rintro (h | h | h)
    · exact hw (List.infix_nil.mp h)
    · exact hmid h
    · exact ih h
  | other c l hfront ih =>
    rw [replaceAll_cons hfront, List.infix_cons_iff]
    rintro (h | h)
    · rw [← replaceAll_cons hfront] at h
      exact hfront (prefix_of_prefix_replaceAll hw hx h)
    · exact ih h

end Walled

end Replace

end RustStr
