/-
# The toolkit of a trigger

`toolkit_of` in `composio/triggers/webhook.rs`: of the known toolkits that prefix a trigger
slug, the longest.  Two of them that are as long as each other are the same up to letter
case, so the answer depends on the known toolkits as a set of words in any case, and it
grows with that set.
-/
import TinyConnectors.Webhook.Decode
import TinyConnectors.StrSlices

namespace Webhook

open RustStr

/-! ## The greatest of a list -/

section MaxByKey

variable {α : Type} {key : α → ℕ} {items : List α}

theorem maxByKey_append_singleton (key : α → ℕ) (items : List α) (item : α) :
    maxByKey key (items ++ [item]) =
      match maxByKey key items with
      | none => some item
      | some found => if key item < key found then some found else some item := by
  unfold maxByKey
  exact List.foldl_concat _ _ _ _

theorem maxByKey_eq_none_iff : maxByKey key items = none ↔ items = [] := by
  induction items using List.reverseRecOn with
  | nil => exact ⟨fun _ => rfl, fun _ => rfl⟩
  | append_singleton items item _ =>
    apply iff_of_false
    · rw [maxByKey_append_singleton]
      cases maxByKey key items with
      | none => exact nofun
      | some found =>
        show (if key item < key found then some found else some item) ≠ none
        split_ifs <;> exact nofun
    · exact List.append_ne_nil_of_right_ne_nil _ (List.cons_ne_nil _ _)

theorem exists_maxByKey (key : α → ℕ) {item : α} (h : item ∈ items) :
    ∃ best, maxByKey key items = some best := by
  rw [← Option.isSome_iff_exists, Option.isSome_iff_ne_none, Ne, maxByKey_eq_none_iff]
  exact List.ne_nil_of_mem h

/-- What is found is one of the items, and none of them is greater. -/
theorem maxByKey_spec {best : α} (h : maxByKey key items = some best) :
    best ∈ items ∧ ∀ item ∈ items, key item ≤ key best := by
  induction items using List.reverseRecOn generalizing best with
  | nil => cases h
  | append_singleton items item ih =>
    rw [maxByKey_append_singleton] at h
    cases hfound : maxByKey key items with
    | none =>
      rw [hfound] at h
      cases h
      rw [maxByKey_eq_none_iff.mp hfound, List.nil_append]
      refine ⟨List.mem_singleton_self _, ?_⟩
      rintro other hother
      rw [List.mem_singleton.mp hother]
    | some found =>
      obtain ⟨hmem, hmax⟩ := ih hfound
      rw [hfound] at h
      dsimp only at h
      -- of two equal keys the later item stays
      split_ifs at h with hlt
      · cases h
        refine ⟨List.mem_append_left _ hmem, ?_⟩
        intro other hother
        rcases List.mem_append.mp hother with hother | hother
        · exact hmax other hother
        · rw [List.mem_singleton.mp hother]
          omega
      · cases h
        refine ⟨List.mem_append_right _ (List.mem_singleton_self _), ?_⟩
        intro other hother
        rcases List.mem_append.mp hother with hother | hother
        · have hle := hmax other hother
          omega
        · rw [List.mem_singleton.mp hother]

end MaxByKey

/-! ## The longest known toolkit -/

/-- The toolkit stands before a `_` at the start of the trigger, in any letter case. -/
def PrefixesTrigger (trigger toolkit : String) : Prop :=
  ∃ rest, toAsciiUppercase trigger = toAsciiUppercase toolkit ++ "_" ++ rest

/-- No known toolkit that prefixes the trigger is longer than this one. -/
structure LongestKnown (trigger : String) (known : List String) (toolkit : String) : Prop where
  mem : toolkit ∈ known
  prefixes : PrefixesTrigger trigger toolkit
  longest : ∀ other ∈ known, PrefixesTrigger trigger other → len other ≤ len toolkit

variable {trigger toolkit other : String} {known known' : List String}

theorem prefixesTrigger_iff :
    PrefixesTrigger trigger toolkit ↔
      startsWith (toAsciiUppercase trigger) (toAsciiUppercase toolkit ++ "_") = true := by
  rw [startsWith_iff]
  constructor
  · rintro ⟨rest, h⟩
    refine ⟨rest.toList, ?_⟩
    rw [h, String.toList_append]
  · rintro ⟨rest, h⟩
    refine ⟨String.ofList rest, ?_⟩
    apply String.toList_injective
    rw [h]
    simp only [String.toList_append, String.toList_ofList]

theorem PrefixesTrigger.of_eq (h : PrefixesTrigger trigger toolkit)
    (heq : toAsciiUppercase toolkit = toAsciiUppercase other) : PrefixesTrigger trigger other := by
  obtain ⟨rest, hrest⟩ := h
  refine ⟨rest, ?_⟩
  rw [← heq, hrest]

/-- Of two prefixes, the shorter is a prefix of the longer: as long, they are the same. -/
theorem PrefixesTrigger.eq_of_len_eq (h : PrefixesTrigger trigger toolkit)
    (h' : PrefixesTrigger trigger other) (hlen : len toolkit = len other) :
    toAsciiUppercase toolkit = toAsciiUppercase other := by
  have hunderscore :
      len (toAsciiUppercase toolkit ++ "_") = len (toAsciiUppercase other ++ "_") := by
    rw [len_append, len_append, len_toAsciiUppercase, len_toAsciiUppercase, hlen]
  have hboth : toAsciiUppercase toolkit ++ "_" = toAsciiUppercase other ++ "_" := by
    rcases startsWith_or_startsWith (prefixesTrigger_iff.mp h) (prefixesTrigger_iff.mp h') with
      hp | hp
    · exact eq_of_startsWith_of_len_le hp (le_of_eq hunderscore)
    · exact (eq_of_startsWith_of_len_le hp (le_of_eq hunderscore.symm)).symm
  have hlist := congrArg String.toList hboth
  rw [String.toList_append, String.toList_append] at hlist
  exact String.toList_injective (List.append_cancel_right hlist)

/-- The first word ends where the first `_` stands, so no prefix is shorter. -/
theorem PrefixesTrigger.len_splitFirst_le (h : PrefixesTrigger trigger toolkit) :
    len (splitFirst trigger '_') ≤ len toolkit := by
  have hword := splitFirst_of_startsWith (prefixesTrigger_iff.mp h)
    (by rw [String.toList_append]; exact List.mem_append_right _ (List.mem_singleton_self _))
  rw [← len_toAsciiUppercase, hword, ← len_toAsciiUppercase toolkit]
  unfold len splitFirst
  rw [String.toList_ofList, String.toList_append]
  have hcut : ∀ l : List Char, (l ++ ['_']).takeWhile (· != '_') = l.takeWhile (· != '_') := by
    intro l
    rw [List.takeWhile_append]
    split_ifs with hall
    · rw [List.takeWhile_cons, if_neg (by decide), List.append_nil]
      exact ((List.takeWhile_prefix _).eq_of_length hall).symm
    · rfl
  show (List.map Char.utf8Size ((_ ++ ['_']).takeWhile _)).sum ≤ _
  rw [hcut]
  exact ((List.takeWhile_sublist _).map _).sum_le_sum fun _ _ => Nat.zero_le _

/-- Without a toolkit to report, the first word; it is the empty toolkit's report too. -/
theorem toolkitOf_of_none (h : ∀ toolkit ∈ known, PrefixesTrigger trigger toolkit → toolkit = "") :
    toolkitOf trigger known = toAsciiLowercase (splitFirst trigger '_') := by
  have hnone : known.filter (fun toolkit => decide (toolkit ≠ "") &&
      startsWith (toAsciiUppercase trigger) (toAsciiUppercase toolkit ++ "_")) = [] := by
    rw [List.filter_eq_nil_iff]
    intro toolkit hmem hkept
    rw [Bool.and_eq_true, decide_eq_true_eq] at hkept
    exact hkept.1 (h toolkit hmem (prefixesTrigger_iff.mpr hkept.2))
  unfold toolkitOf
  dsimp only
  rw [hnone]
  rfl

theorem toolkitOf_of_longestKnown (h : LongestKnown trigger known toolkit) :
    toolkitOf trigger known = toAsciiLowercase toolkit := by
  by_cases hempty : toolkit = ""
  · -- then only the empty toolkit prefixes the trigger, whose first word is empty too
    subst hempty
    have hzero : ∀ s : String, len s ≤ len "" → s = "" := by
      intro s hs
      exact eq_of_startsWith_of_len_le (startsWith_iff.mpr ⟨s.toList, rfl⟩) hs
    rw [toolkitOf_of_none fun other hmem hother => hzero other (h.longest other hmem hother)]
    rw [hzero _ h.prefixes.len_splitFirst_le]
  · -- what the code finds is as long, and two prefixes of one length are equal up to case
    have hcandidate : toolkit ∈ known.filter fun toolkit => decide (toolkit ≠ "") &&
        startsWith (toAsciiUppercase trigger) (toAsciiUppercase toolkit ++ "_") := by
      rw [List.mem_filter, Bool.and_eq_true, decide_eq_true_eq]
      exact ⟨h.mem, hempty, prefixesTrigger_iff.mp h.prefixes⟩
    obtain ⟨best, hbest⟩ := exists_maxByKey len hcandidate
    obtain ⟨hmem, hmax⟩ := maxByKey_spec hbest
    have hle := hmax toolkit hcandidate
    rw [List.mem_filter, Bool.and_eq_true, decide_eq_true_eq] at hmem
    have hstands := prefixesTrigger_iff.mpr hmem.2.2
    have hge := h.longest best hmem.1 hstands
    unfold toolkitOf
    dsimp only
    rw [hbest]
    rw [toAsciiLowercase_eq_iff]
    exact hstands.eq_of_len_eq h.prefixes (by omega)

theorem exists_longestKnown (hmem : toolkit ∈ known) (h : PrefixesTrigger trigger toolkit) :
    ∃ longest, LongestKnown trigger known longest := by
  classical
  have hcandidate : toolkit ∈ known.filter fun toolkit =>
    decide (PrefixesTrigger trigger toolkit) := by
    rw [List.mem_filter, decide_eq_true_eq]
    exact ⟨hmem, h⟩
  obtain ⟨best, hbest⟩ := exists_maxByKey len hcandidate
  obtain ⟨hbestmem, hmax⟩ := maxByKey_spec hbest
  rw [List.mem_filter, decide_eq_true_eq] at hbestmem
  refine ⟨best, hbestmem.1, hbestmem.2, ?_⟩
  intro other hother hstands
  apply hmax
  rw [List.mem_filter, decide_eq_true_eq]
  exact ⟨hother, hstands⟩

/-! ## The known toolkits as a set -/

/-- Every toolkit of the one list is in the other, in some letter case. -/
def KnownWithin (known known' : List String) : Prop :=
  ∀ toolkit ∈ known, ∃ other ∈ known', eqIgnoreAsciiCase toolkit other = true

theorem KnownWithin.prefixes (h : KnownWithin known known') (hmem : toolkit ∈ known)
    (hstands : PrefixesTrigger trigger toolkit) :
    ∃ other ∈ known', PrefixesTrigger trigger other ∧ len other = len toolkit := by
  obtain ⟨other, hother, hcase⟩ := h toolkit hmem
  rw [eqIgnoreAsciiCase_iff] at hcase
  have hupper := toAsciiLowercase_eq_iff.mp hcase
  refine ⟨other, hother, hstands.of_eq hupper, ?_⟩
  rw [← len_toAsciiUppercase other, ← hupper, len_toAsciiUppercase]

/-- Knowing more never makes the longest one shorter. -/
theorem KnownWithin.exists_longestKnown (h : KnownWithin known known')
    (hlongest : LongestKnown trigger known toolkit) :
    ∃ longest, LongestKnown trigger known' longest ∧ len toolkit ≤ len longest := by
  obtain ⟨other, hother, hstands, hlen⟩ := h.prefixes hlongest.mem hlongest.prefixes
  obtain ⟨longest, hlongest'⟩ := Webhook.exists_longestKnown hother hstands
  refine ⟨longest, hlongest', ?_⟩
  rw [← hlen]
  exact hlongest'.longest other hother hstands

/-- The answer grows with what is known. -/
theorem len_toolkitOf_le (h : KnownWithin known known') :
    len (toolkitOf trigger known) ≤ len (toolkitOf trigger known') := by
  by_cases hnone : ∀ toolkit ∈ known, ¬ PrefixesTrigger trigger toolkit
  · rw [toolkitOf_of_none fun toolkit hmem hstands => absurd hstands (hnone toolkit hmem)]
    by_cases hnone' : ∀ toolkit ∈ known', ¬ PrefixesTrigger trigger toolkit
    · rw [toolkitOf_of_none fun toolkit hmem hstands => absurd hstands (hnone' toolkit hmem)]
    · push Not at hnone'
      obtain ⟨other, hother, hstands⟩ := hnone'
      obtain ⟨longest, hlongest⟩ := exists_longestKnown hother hstands
      rw [toolkitOf_of_longestKnown hlongest, len_toAsciiLowercase, len_toAsciiLowercase]
      exact hlongest.prefixes.len_splitFirst_le
  · push Not at hnone
    obtain ⟨toolkit, hmem, hstands⟩ := hnone
    obtain ⟨longest, hlongest⟩ := exists_longestKnown hmem hstands
    obtain ⟨longest', hlongest', hle⟩ := h.exists_longestKnown hlongest
    rw [toolkitOf_of_longestKnown hlongest, toolkitOf_of_longestKnown hlongest',
      len_toAsciiLowercase, len_toAsciiLowercase]
    exact hle

theorem toolkitOf_congr (h : KnownWithin known known') (h' : KnownWithin known' known) :
    toolkitOf trigger known = toolkitOf trigger known' := by
  by_cases hnone : ∀ toolkit ∈ known, ¬ PrefixesTrigger trigger toolkit
  · have hnone' : ∀ toolkit ∈ known', ¬ PrefixesTrigger trigger toolkit := by
      intro other hother hstands
      obtain ⟨toolkit, hmem, hstands', -⟩ := h'.prefixes hother hstands
      exact hnone toolkit hmem hstands'
    rw [toolkitOf_of_none fun toolkit hmem hstands => absurd hstands (hnone toolkit hmem),
      toolkitOf_of_none fun toolkit hmem hstands => absurd hstands (hnone' toolkit hmem)]
  · push Not at hnone
    obtain ⟨toolkit, hmem, hstands⟩ := hnone
    obtain ⟨longest, hlongest⟩ := exists_longestKnown hmem hstands
    obtain ⟨longest', hlongest', hle⟩ := h.exists_longestKnown hlongest
    rw [toolkitOf_of_longestKnown hlongest, toolkitOf_of_longestKnown hlongest',
      toAsciiLowercase_eq_iff]
    apply hlongest.prefixes.eq_of_len_eq hlongest'.prefixes
    -- each is at most as long as the other
    obtain ⟨back, hback, hge⟩ := h'.exists_longestKnown hlongest'
    have hmost := hlongest.longest back hback.mem hback.prefixes
    omega

/-- A trigger's toolkit depends on the set of known toolkits only. -/
structure SetOfKnown (trigger : String) : Prop where
  firstWord : ∀ known, (∀ toolkit ∈ known, ¬ PrefixesTrigger trigger toolkit) →
    toolkitOf trigger known = toAsciiLowercase (splitFirst trigger '_')
  longest : ∀ known, (∃ toolkit ∈ known, PrefixesTrigger trigger toolkit) →
    ∃ toolkit, LongestKnown trigger known toolkit ∧
      toolkitOf trigger known = toAsciiLowercase toolkit
  ties : ∀ known toolkit, LongestKnown trigger known toolkit →
    toolkitOf trigger known = toAsciiLowercase toolkit
  sameSet : ∀ known known', KnownWithin known known' → KnownWithin known' known →
    toolkitOf trigger known = toolkitOf trigger known'
  grows : ∀ known added,
    len (toolkitOf trigger known) ≤ len (toolkitOf trigger (known ++ added))

/-- The longest known slug that stands in front of the trigger wins, whatever the order, the case
and the duplicates of the list. -/
theorem setOfKnown (trigger : String) : SetOfKnown trigger := by
  constructor
  · intro known hnone
    exact toolkitOf_of_none fun toolkit hmem hstands => absurd hstands (hnone toolkit hmem)
  · rintro known ⟨toolkit, hmem, hstands⟩
    obtain ⟨longest, hlongest⟩ := exists_longestKnown hmem hstands
    exact ⟨longest, hlongest, toolkitOf_of_longestKnown hlongest⟩
  · intro known toolkit h
    exact toolkitOf_of_longestKnown h
  · intro known known' h h'
    exact toolkitOf_congr h h'
  · intro known added
    apply len_toolkitOf_le
    intro toolkit hmem
    refine ⟨toolkit, List.mem_append_left _ hmem, ?_⟩
    rw [eqIgnoreAsciiCase_iff]

example :
    toolkitOf "MICROSOFT_TEAMS_MESSAGE" ["microsoft", "Microsoft_Teams"] = "microsoft_teams" := by
  decide +kernel

end Webhook
