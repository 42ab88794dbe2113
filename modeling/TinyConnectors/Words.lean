/-
# Words

A text is split into words where a class of separators stands: the words are the runs
between separators that are not empty.  Joined again with one separator each, they are
the same words, so splitting and joining collapses the separators of a text and does
nothing the second time.
-/
import TinyConnectors.RustStr

namespace Words

variable {α : Type} {p : α → Bool} {sep : α} {l : List α}

/-- The runs without separators that are not empty. -/
def wordsBy (p : α → Bool) (l : List α) : List (List α) :=
  (l.splitOnP p).filter fun word => !word.isEmpty

/-- A word is not empty, and no separator stands in it. -/
def IsWord (p : α → Bool) (word : List α) : Prop := word ≠ [] ∧ ∀ c ∈ word, p c = false

/-- The runs are made of what the text has between its separators. -/
theorem of_mem_splitOnP {run : List α} (h : run ∈ l.splitOnP p) :
    ∀ c ∈ run, c ∈ l ∧ p c = false := by
  induction l generalizing run with
  | nil =>
    rw [List.splitOnP_nil, List.mem_singleton] at h
    rw [h]
    exact nofun
  | cons x l ih =>
    rw [List.splitOnP_cons_eq_if_modifyHead] at h
    split_ifs at h with hx
    · rcases List.mem_cons.mp h with rfl | h
      · exact nofun
      · intro c hc
        exact ⟨List.mem_cons_of_mem x (ih h c hc).1, (ih h c hc).2⟩
    · -- the character joins the first run of the rest
      obtain ⟨first, runs, hruns⟩ := List.exists_cons_of_ne_nil (List.splitOnP_ne_nil p l)
      rw [hruns, List.modifyHead_cons] at h
      rw [hruns] at ih
      intro c hc
      rcases List.mem_cons.mp h with rfl | h
      · rcases List.mem_cons.mp hc with rfl | hc
        · exact ⟨List.mem_cons_self, Bool.eq_false_iff.mpr hx⟩
        · have hfirst := ih List.mem_cons_self c hc
          exact ⟨List.mem_cons_of_mem x hfirst.1, hfirst.2⟩
      · have hrest := ih (List.mem_cons_of_mem first h) c hc
        exact ⟨List.mem_cons_of_mem x hrest.1, hrest.2⟩

theorem isWord_of_mem {word : List α} (h : word ∈ wordsBy p l) : IsWord p word := by
  unfold wordsBy at h
  rw [List.mem_filter] at h
  constructor
  · rintro rfl
    exact Bool.false_ne_true h.2
  · intro c hc
    exact (of_mem_splitOnP h.1 c hc).2

theorem mem_of_mem_wordsBy {word : List α} (h : word ∈ wordsBy p l) : ∀ c ∈ word, c ∈ l := by
  intro c hc
  exact (of_mem_splitOnP (List.mem_of_mem_filter h) c hc).1

/-- A separator ends the first word. -/
theorem wordsBy_append_cons (hsep : p sep = true) {word : List α} (h : IsWord p word)
    (rest : List α) : wordsBy p (word ++ sep :: rest) = word :: wordsBy p rest := by
  unfold wordsBy
  rw [List.splitOnP_append_cons_of_forall_mem h.2 sep hsep, List.filter_cons, if_pos]
  rw [Bool.not_eq_true', List.isEmpty_eq_false_iff]
  exact h.1

theorem wordsBy_eq_singleton {word : List α} (h : IsWord p word) : wordsBy p word = [word] := by
  unfold wordsBy
  rw [List.splitOnP_eq_singleton h.2, List.filter_cons, if_pos, List.filter_nil]
  rw [Bool.not_eq_true', List.isEmpty_eq_false_iff]
  exact h.1

/-- Words that are joined are found again. -/
theorem wordsBy_intercalate (hsep : p sep = true) {words : List (List α)}
    (h : ∀ word ∈ words, IsWord p word) : wordsBy p ([sep].intercalate words) = words := by
  induction words with
  | nil => rfl
  | cons word words ih =>
    have hword := h word List.mem_cons_self
    have hwords : ∀ other ∈ words, IsWord p other := by
      intro other hother
      exact h other (List.mem_cons_of_mem word hother)
    cases words with
    | nil => rw [List.intercalate_singleton, wordsBy_eq_singleton hword]
    | cons next words =>
      rw [List.intercalate_cons_cons, List.append_assoc, List.singleton_append,
        wordsBy_append_cons hsep hword, ih hwords]

theorem intercalate_eq_nil_iff (sep : α) {words : List (List α)}
    (h : ∀ word ∈ words, IsWord p word) :
    [sep].intercalate words = [] ↔ words = [] := by
  cases words with
  | nil => exact ⟨fun _ => rfl, fun _ => rfl⟩
  | cons word words =>
    have hword := (h word List.mem_cons_self).1
    refine iff_of_false ?_ (List.cons_ne_nil _ _)
    intro hnil
    cases words with
    | nil =>
      rw [List.intercalate_singleton] at hnil
      exact hword hnil
    | cons next words =>
      rw [List.intercalate_cons_cons, List.append_assoc, List.append_eq_nil_iff] at hnil
      exact hword hnil.1

end Words

/-! ## `split_whitespace().collect().join(" ")` -/

namespace RustStr

open Words

/-- The words of a text with one space between two of them. -/
def joinWords (s : String) : String := String.intercalate " " (splitWhitespace s)

theorem toList_joinWords (s : String) :
    (joinWords s).toList = [' '].intercalate (wordsBy isWhitespace s.toList) := by
  unfold joinWords splitWhitespace
  rw [String.toList_intercalate, List.map_map]
  have hback : String.toList ∘ String.ofList = id := by
    funext l
    exact String.toList_ofList
  rw [hback, List.map_id]
  rfl

/-- The only white space left is the space between two words. -/
theorem of_mem_joinWords {s : String} {c : Char} (h : c ∈ (joinWords s).toList) :
    c = ' ' ∨ c ∈ s.toList ∧ isWhitespace c = false := by
  rw [toList_joinWords] at h
  rcases mem_intercalate h with h | ⟨word, hword, hc⟩
  · exact .inl (List.mem_singleton.mp h)
  · exact .inr ⟨mem_of_mem_wordsBy hword c hc, (isWord_of_mem hword).2 c hc⟩

@[simp] theorem joinWords_joinWords (s : String) : joinWords (joinWords s) = joinWords s := by
  apply String.toList_injective
  rw [toList_joinWords (joinWords s), toList_joinWords s,
    wordsBy_intercalate (by decide) fun word hword => isWord_of_mem hword]

/-- Joined words begin and end in a word. -/
theorem unpadded_intercalate {words : List (List Char)}
    (h : ∀ word ∈ words, IsWord isWhitespace word) : Unpadded ([' '].intercalate words) := by
  have hunpadded : ∀ word, IsWord isWhitespace word → Unpadded word := by
    rintro word ⟨-, hword⟩
    exact unpadded_of_forall hword
  induction words with
  | nil => exact ⟨fun hne => absurd rfl hne, fun hne => absurd rfl hne⟩
  | cons word words ih =>
    have hword := h word List.mem_cons_self
    have hwords : ∀ other ∈ words, IsWord isWhitespace other := by
      intro other hother
      exact h other (List.mem_cons_of_mem word hother)
    cases words with
    | nil =>
      rw [List.intercalate_singleton]
      exact hunpadded word hword
    | cons next words =>
      have hrest := ih hwords
      have hne : [' '].intercalate (next :: words) ≠ [] := by
        rw [Ne, intercalate_eq_nil_iff ' ' hwords]
        exact List.cons_ne_nil _ _
      -- the text begins in the first word and ends where the others end
      rw [List.intercalate_cons_cons]
      constructor
      · intro hall
        rw [List.head_append_of_ne_nil (by exact List.append_ne_nil_of_left_ne_nil hword.1 _),
          List.head_append_of_ne_nil hword.1]
        exact hword.2 _ (List.head_mem hword.1)
      · intro hall
        rw [List.getLast_append_of_ne_nil _ hne]
        exact hrest.2 hne

@[simp] theorem trim_joinWords (s : String) : trim (joinWords s) = joinWords s := by
  apply String.toList_injective
  rw [toList_trim, toList_joinWords]
  apply trimChars_eq_self
  apply unpadded_intercalate
  intro word hword
  exact isWord_of_mem hword

end RustStr
