/-
# The newest distinct items of several sources

Items with a key and a time lie in several sources, newest first in each.  A
reader takes from one source after the other, of each up to `n` items whose key
it has not met, puts what it found in the order of time and keeps the first
`n`.  These are the `n` newest items with different keys, whatever `n` is, if
and only if the first source to hold a key holds the newest item under it.
-/
import Mathlib.Data.Finset.Lattice.Lemmas
import Mathlib.Data.List.Perm.Basic

namespace Newest

variable {α κ : Type} [DecidableEq κ] (key : α → κ) (time : α → ℕ)

/-- The keys of some items. -/
def keys (items : List α) : Finset κ := (items.map key).toFinset

/-- The first `n` items under keys that were not seen. -/
def takeFresh : ℕ → Finset κ → List α → List α
  | _, _, [] => []
  | 0, _, _ :: _ => []
  | n + 1, seen, a :: items =>
    if key a ∈ seen then takeFresh (n + 1) seen items
    else a :: takeFresh n (insert (key a) seen) items

/-- What a reader has found after the sources, of each up to `n` items. -/
def gather (n : ℕ) : List α → List (List α) → List α
  | found, [] => found
  | found, source :: sources =>
    gather n (found ++ takeFresh key n (keys key found) source) sources

/-- In the order of time. -/
def NewestFirst (items : List α) : Prop := items.Pairwise fun a b => time b ≤ time a

/-- The `n` newest of the records, one for each key and that the newest. -/
structure NewestDistinct (n : ℕ) (records out : List α) : Prop where
  ordered : NewestFirst time out
  distinct : (out.map key).Nodup
  recorded : ∀ a ∈ out, a ∈ records
  newest : ∀ a ∈ out, ∀ b ∈ records, key b = key a → time b ≤ time a
  bounded : out.length ≤ n
  complete : ∀ b ∈ records, (∃ a ∈ out, key a = key b) ∨
    (out.length = n ∧ ∀ a ∈ out, time b ≤ time a)

/-- The first source to hold a key holds the newest item under it. -/
def FirstNewest (sources : List (List α)) : Prop :=
  ∀ pre source post, sources = pre ++ source :: post → ∀ a ∈ source,
    (∀ p ∈ pre.flatten, key p ≠ key a) → ∀ b ∈ post.flatten, key b = key a →
      ∃ c ∈ source, key c = key a ∧ time b ≤ time c

/-! ## One source -/

section Source

variable {key} {n : ℕ} {seen : Finset κ} {items : List α}

theorem mem_keys {k : κ} : k ∈ keys key items ↔ ∃ a ∈ items, key a = k := by
  simp [keys]

theorem keys_append (items' : List α) :
    keys key (items ++ items') = keys key items ∪ keys key items' := by
  simp [keys, List.toFinset_append]

theorem takeFresh_zero : takeFresh key 0 seen items = [] := by
  cases items with
  | nil => rfl
  | cons a items => rfl

theorem takeFresh_cons_of_mem {a : α} (h : key a ∈ seen) :
    takeFresh key n seen (a :: items) = takeFresh key n seen items := by
  cases n with
  | zero => rw [takeFresh_zero, takeFresh_zero]
  | succ n => rw [takeFresh, if_pos h]

theorem takeFresh_cons_of_notMem {a : α} (h : key a ∉ seen) :
    takeFresh key (n + 1) seen (a :: items) =
      a :: takeFresh key n (insert (key a) seen) items := by
  rw [takeFresh, if_neg h]

theorem takeFresh_sublist : (takeFresh key n seen items).Sublist items := by
  induction items generalizing n seen with
  | nil => exact List.Sublist.slnil
  | cons a items ih =>
    by_cases h : key a ∈ seen
    · rw [takeFresh_cons_of_mem h]
      exact ih.cons a
    · cases n with
      | zero => exact List.nil_sublist _
      | succ n =>
        rw [takeFresh_cons_of_notMem h]
        exact ih.cons_cons a

theorem key_notMem_of_takeFresh {a : α} (ha : a ∈ takeFresh key n seen items) : key a ∉ seen := by
  induction items generalizing n seen with
  | nil => exact absurd ha List.not_mem_nil
  | cons x items ih =>
    by_cases h : key x ∈ seen
    · rw [takeFresh_cons_of_mem h] at ha
      exact ih ha
    · cases n with
      | zero => exact absurd ha List.not_mem_nil
      | succ n =>
        rw [takeFresh_cons_of_notMem h, List.mem_cons] at ha
        rcases ha with rfl | ha
        · exact h
        · exact fun hseen => ih ha (Finset.mem_insert_of_mem hseen)

theorem nodup_takeFresh : ((takeFresh key n seen items).map key).Nodup := by
  induction items generalizing n seen with
  | nil => exact List.nodup_nil
  | cons a items ih =>
    by_cases h : key a ∈ seen
    · rw [takeFresh_cons_of_mem h]
      exact ih
    · cases n with
      | zero => exact List.nodup_nil
      | succ n =>
        rw [takeFresh_cons_of_notMem h, List.map_cons, List.nodup_cons]
        refine ⟨?_, ih⟩
        intro hmem
        obtain ⟨b, hb, hkey⟩ := List.mem_map.mp hmem
        exact key_notMem_of_takeFresh hb (hkey ▸ Finset.mem_insert_self _ _)

/-- A reader that stops inside a source goes on with what it still wants. -/
theorem takeFresh_append (items' : List α) :
    takeFresh key n seen (items ++ items') = takeFresh key n seen items ++
      takeFresh key (n - (takeFresh key n seen items).length)
        (seen ∪ keys key (takeFresh key n seen items)) items' := by
  induction items generalizing n seen with
  | nil => simp [takeFresh, keys]
  | cons a items ih =>
    by_cases h : key a ∈ seen
    · rw [List.cons_append, takeFresh_cons_of_mem h, takeFresh_cons_of_mem h]
      exact ih
    · cases n with
      | zero => simp [takeFresh_zero]
      | succ n =>
        rw [List.cons_append, takeFresh_cons_of_notMem h, takeFresh_cons_of_notMem h, ih]
        have hkeys : insert (key a) seen ∪ keys key (takeFresh key n (insert (key a) seen) items) =
            seen ∪ keys key (a :: takeFresh key n (insert (key a) seen) items) := by
          simp [keys, Finset.insert_union, Finset.union_insert]
        rw [hkeys, List.length_cons, Nat.add_sub_add_right, List.cons_append]

variable {time}

/-- What is taken under a key is the newest of the source. -/
theorem newest_takeFresh (hitems : NewestFirst time items) {a b : α}
    (ha : a ∈ takeFresh key n seen items) (hb : b ∈ items) (hkey : key b = key a) :
    time b ≤ time a := by
  induction items generalizing n seen with
  | nil => exact absurd hb List.not_mem_nil
  | cons x items ih =>
    obtain ⟨hx, hrest⟩ := List.pairwise_cons.mp hitems
    by_cases h : key x ∈ seen
    · have hne : b ≠ x := by
        rintro rfl
        exact key_notMem_of_takeFresh ha (hkey ▸ h)
      rw [takeFresh_cons_of_mem h] at ha
      exact ih hrest ha ((List.mem_cons.mp hb).resolve_left hne)
    · cases n with
      | zero => exact absurd ha List.not_mem_nil
      | succ n =>
        rw [takeFresh_cons_of_notMem h, List.mem_cons] at ha
        rcases ha with rfl | ha
        · rcases List.mem_cons.mp hb with rfl | hb
          · exact le_rfl
          · exact hx b hb
        · have hne : b ≠ x := by
            rintro rfl
            exact key_notMem_of_takeFresh ha (hkey ▸ Finset.mem_insert_self _ _)
          exact ih hrest ha ((List.mem_cons.mp hb).resolve_left hne)

/-- An item that is not represented is older than the `n` that were taken. -/
theorem reach_takeFresh (hitems : NewestFirst time items) {b : α} (hb : b ∈ items)
    (hfresh : key b ∉ seen) : (∃ a ∈ takeFresh key n seen items, key a = key b) ∨
      ((takeFresh key n seen items).length = n ∧
        ∀ a ∈ takeFresh key n seen items, time b ≤ time a) := by
  induction items generalizing n seen with
  | nil => exact absurd hb List.not_mem_nil
  | cons x items ih =>
    obtain ⟨hx, hrest⟩ := List.pairwise_cons.mp hitems
    by_cases h : key x ∈ seen
    · have hne : b ≠ x := by
        rintro rfl
        exact hfresh h
      rw [takeFresh_cons_of_mem h]
      exact ih hrest ((List.mem_cons.mp hb).resolve_left hne) hfresh
    · cases n with
      | zero => exact Or.inr ⟨rfl, fun a ha => absurd ha List.not_mem_nil⟩
      | succ n =>
        rw [takeFresh_cons_of_notMem h]
        -- `b` is taken itself, or what is taken before it is no older
        by_cases hkey : key x = key b
        · exact Or.inl ⟨x, List.mem_cons_self, hkey⟩
        · have hne : b ≠ x := by
            rintro rfl
            exact hkey rfl
          have hlater : b ∈ items := (List.mem_cons.mp hb).resolve_left hne
          have hfresh : key b ∉ insert (key x) seen := by
            rw [Finset.mem_insert, not_or]
            exact ⟨fun heq => hkey heq.symm, hfresh⟩
          rcases ih (n := n) hrest hlater hfresh with ⟨a, ha, hab⟩ | ⟨hlen, hold⟩
          · exact Or.inl ⟨a, List.mem_cons_of_mem _ ha, hab⟩
          · refine Or.inr ⟨by rw [List.length_cons, hlen], ?_⟩
            intro a ha
            rcases List.mem_cons.mp ha with rfl | ha
            · exact hx b hlater
            · exact hold a ha

end Source

/-! ## Several sources -/

section Sources

variable {key} {n : ℕ} {found : List α} {sources : List (List α)}

theorem gather_append (pre rest : List (List α)) :
    gather key n found (pre ++ rest) = gather key n (gather key n found pre) rest := by
  induction pre generalizing found with
  | nil => rfl
  | cons source pre ih => exact ih

theorem gather_sublist : (gather key n found sources).Sublist (found ++ sources.flatten) := by
  induction sources generalizing found with
  | nil => exact List.sublist_append_left found _
  | cons source sources ih =>
    refine ih.trans ?_
    rw [List.flatten_cons, List.append_assoc]
    exact (takeFresh_sublist.append_right _).append_left found

theorem found_sublist_gather : found.Sublist (gather key n found sources) := by
  induction sources generalizing found with
  | nil => exact List.Sublist.refl found
  | cons source sources ih => exact (List.sublist_append_left found _).trans ih

theorem nodup_gather (h : (found.map key).Nodup) :
    ((gather key n found sources).map key).Nodup := by
  induction sources generalizing found with
  | nil => exact h
  | cons source sources ih =>
    apply ih
    rw [List.map_append]
    refine h.append nodup_takeFresh ?_
    intro k hk hfresh
    obtain ⟨a, ha, rfl⟩ := List.mem_map.mp hfresh
    exact key_notMem_of_takeFresh ha (List.mem_toFinset.mpr hk)

/-- The first source to hold a key is where it is found, unless `n` items
are found there that are as new. -/
theorem found_in_first {time : α → ℕ} {pre : List (List α)} {source : List α}
    (post : List (List α)) (hsource : NewestFirst time source) {b : α} (hb : b ∈ source)
    (hfirst : ∀ p ∈ pre.flatten, key p ≠ key b) :
    (∃ a ∈ gather key n [] (pre ++ source :: post), a ∈ source ∧ key a = key b ∧
        time b ≤ time a) ∨
      n ≤ (gather key n [] (pre ++ source :: post)).countP (time b ≤ time ·) := by
  have hfresh : key b ∉ keys key (gather key n [] pre) := by
    rw [mem_keys]
    rintro ⟨p, hp, hkey⟩
    exact hfirst p (by simpa using gather_sublist.mem hp) hkey
  have htaken : (takeFresh key n (keys key (gather key n [] pre)) source).Sublist
      (gather key n [] (pre ++ source :: post)) := by
    rw [gather_append, gather]
    exact (List.sublist_append_right _ _).trans found_sublist_gather
  rcases reach_takeFresh hsource hb hfresh with ⟨a, ha, hkey⟩ | ⟨hlen, hold⟩
  · exact Or.inl ⟨a, htaken.mem ha, takeFresh_sublist.mem ha, hkey,
      newest_takeFresh hsource ha hb hkey.symm⟩
  · right
    calc n = (takeFresh key n (keys key (gather key n [] pre)) source).countP
          (time b ≤ time ·) := by
          rw [List.countP_eq_length.mpr (by simpa using hold), hlen]
      _ ≤ _ := htaken.countP_le

variable (key) in
/-- Some source is the first to hold a key. -/
theorem exists_first {b : α} (hb : b ∈ sources.flatten) :
    ∃ pre source post, sources = pre ++ source :: post ∧ (∃ a ∈ source, key a = key b) ∧
      ∀ p ∈ pre.flatten, key p ≠ key b := by
  induction sources with
  | nil => exact absurd hb List.not_mem_nil
  | cons source sources ih =>
    by_cases h : ∃ a ∈ source, key a = key b
    · exact ⟨[], source, sources, rfl, h, fun p hp => absurd hp List.not_mem_nil⟩
    · push Not at h
      have hlater : b ∈ sources.flatten := by
        rcases List.mem_append.mp hb with hhere | hlater
        · exact absurd rfl (h b hhere)
        · exact hlater
      obtain ⟨pre, found, post, rfl, hfound, hpre⟩ := ih hlater
      refine ⟨source :: pre, found, post, rfl, hfound, ?_⟩
      intro p hp
      rcases List.mem_append.mp hp with hhere | hlater
      · exact h p hhere
      · exact hpre p hlater

variable (key) in
/-- What a reader needs to have found for the record `b`: an item that is as new
under its key, or `n` items that are as new. -/
def Covered (time : α → ℕ) (n : ℕ) (found : List α) (b : α) : Prop :=
  (∃ a ∈ found, key a = key b ∧ time b ≤ time a) ∨ n ≤ found.countP (time b ≤ time ·)

omit [DecidableEq κ] in
theorem Covered.mono {time : α → ℕ} {b c : α} (hkey : key c = key b) (htime : time b ≤ time c)
    (h : Covered key time n found c) : Covered key time n found b := by
  rcases h with ⟨a, ha, hac, hca⟩ | hcount
  · exact Or.inl ⟨a, ha, hac.trans hkey, htime.trans hca⟩
  · refine Or.inr (hcount.trans (List.countP_mono_left ?_))
    intro a _ ha
    rw [decide_eq_true_iff] at ha ⊢
    exact htime.trans ha

/-- Where first is newest, every record is covered. -/
theorem covered_gather {time : α → ℕ} (hsources : ∀ source ∈ sources, NewestFirst time source)
    (hnewest : FirstNewest key time sources) {b : α} (hb : b ∈ sources.flatten) :
    Covered key time n (gather key n [] sources) b := by
  obtain ⟨pre, source, post, rfl, ⟨a, ha, hkey⟩, hpre⟩ := exists_first key hb
  have hsource : NewestFirst time source := hsources source (by simp)
  -- the newest item under the key stands in the first source that has one
  obtain ⟨c, hc, hck, hbc⟩ : ∃ c ∈ source, key c = key b ∧ time b ≤ time c := by
    rw [List.flatten_append, List.flatten_cons, List.mem_append, List.mem_append] at hb
    rcases hb with hb | hb | hb
    · exact absurd rfl (hpre b hb)
    · exact ⟨b, hb, rfl, le_rfl⟩
    · obtain ⟨c, hc, hca, hbc⟩ := hnewest pre source post rfl a ha (by rwa [hkey]) b hb hkey.symm
      exact ⟨c, hc, hca.trans hkey, hbc⟩
  have hpre' : ∀ p ∈ pre.flatten, key p ≠ key c := by
    rw [hck]
    exact hpre
  apply Covered.mono hck hbc
  rcases found_in_first (n := n) post hsource hc hpre' with ⟨a, ha, _, hac, hca⟩ | hcount
  · exact Or.inl ⟨a, ha, hac, hca⟩
  · exact Or.inr hcount

end Sources

/-! ## The first `n` in the order of time -/

section Take

variable {key} {time : α → ℕ} {n : ℕ} {items : List α}

/-- Fewer than `n` items are newer than one of the first `n`. -/
theorem countP_lt_of_mem_take (hitems : NewestFirst time items) {a : α} (ha : a ∈ items.take n) :
    items.countP (time a < time ·) < n := by
  induction items generalizing n with
  | nil => simp at ha
  | cons x items ih =>
    obtain ⟨hx, hrest⟩ := List.pairwise_cons.mp hitems
    cases n with
    | zero => simp at ha
    | succ n =>
      rw [List.take_succ_cons, List.mem_cons] at ha
      rcases ha with rfl | ha
      · -- nothing is newer than the head
        have hnone : (a :: items).countP (time a < time ·) = 0 := by
          rw [List.countP_eq_zero]
          intro b hb
          rcases List.mem_cons.mp hb with rfl | hb
          · simp
          · simpa using hx b hb
        omega
      · have hle := ih hrest ha
        rw [List.countP_cons]
        split <;> omega

/-- Where `n` items are as new as `t`, the first `n` are. -/
theorem le_of_mem_take (hitems : NewestFirst time items) {t : ℕ}
    (hcount : n ≤ items.countP (t ≤ time ·)) {a : α} (ha : a ∈ items.take n) : t ≤ time a := by
  by_contra hlt
  have hmore : items.countP (t ≤ time ·) ≤ items.countP (time a < time ·) := by
    apply List.countP_mono_left
    intro b _ hb
    rw [decide_eq_true_iff] at hb ⊢
    omega
  have hfew := countP_lt_of_mem_take hitems ha
  omega

omit [DecidableEq κ] in
/-- Of found items that cover the records, the first `n` are the newest. -/
theorem newestDistinct_take {found records sorted : List α} (hperm : sorted.Perm found)
    (hsorted : NewestFirst time sorted) (hdistinct : (found.map key).Nodup)
    (hrecorded : ∀ a ∈ found, a ∈ records) (hcovered : ∀ b ∈ records, Covered key time n found b) :
    NewestDistinct key time n records (sorted.take n) := by
  have hkeys : (sorted.map key).Nodup := (hperm.map key).nodup_iff.mpr hdistinct
  have hsame : ∀ a ∈ sorted, ∀ b ∈ found, key b = key a → b = a := by
    intro a ha b hb hkey
    exact List.inj_on_of_nodup_map hkeys (hperm.mem_iff.mpr hb) ha hkey
  refine ⟨hsorted.sublist (List.take_sublist _ _), hkeys.sublist ((List.take_sublist _ _).map key),
    fun a ha => hrecorded a (hperm.mem_iff.mp (List.mem_of_mem_take ha)), ?_,
    List.length_take_le _ _, ?_⟩
  · intro a ha b hb hkey
    rcases hcovered b hb with ⟨c, hc, hcb, htime⟩ | hcount
    · rwa [hsame a (List.mem_of_mem_take ha) c hc (hcb.trans hkey)] at htime
    · rw [← hperm.countP_eq] at hcount
      exact le_of_mem_take hsorted hcount ha
  · intro b hb
    -- once the first `n` are all as new as the record, they may leave it out
    have hfull : n ≤ sorted.countP (time b ≤ time ·) → (sorted.take n).length = n ∧
        ∀ a ∈ sorted.take n, time b ≤ time a := by
      intro hcount
      refine ⟨?_, fun a ha => le_of_mem_take hsorted hcount ha⟩
      rw [List.length_take]
      have hlen := List.countP_le_length (p := fun a => decide (time b ≤ time a)) (l := sorted)
      omega
    rcases hcovered b hb with ⟨a, ha, hkey, htime⟩ | hcount
    · by_cases hout : a ∈ sorted.take n
      · exact Or.inl ⟨a, hout, hkey⟩
      · right
        have hdrop : a ∈ sorted.drop n := by
          have hmem : a ∈ sorted.take n ++ sorted.drop n := by
            rw [List.take_append_drop]
            exact hperm.mem_iff.mpr ha
          exact (List.mem_append.mp hmem).resolve_left hout
        have hlen : n < sorted.length := by
          by_contra hshort
          rw [List.drop_eq_nil_of_le (by omega)] at hdrop
          exact List.not_mem_nil hdrop
        refine ⟨by rw [List.length_take]; omega, ?_⟩
        intro c hc
        have hsplit : (sorted.take n ++ sorted.drop n).Pairwise fun a b => time b ≤ time a := by
          rw [List.take_append_drop]
          exact hsorted
        exact htime.trans ((List.pairwise_append.mp hsplit).2.2 c hc a hdrop)
    · rw [← hperm.countP_eq] at hcount
      exact Or.inr (hfull hcount)

/-- A reader that sorts what it gathers and keeps `n` has the newest, for every
`n`, exactly where first is newest. -/
theorem newestDistinct_iff {sources : List (List α)} (sort : List α → List α)
    (hperm : ∀ items, (sort items).Perm items) (hsorted : ∀ items, NewestFirst time (sort items))
    (hsources : ∀ source ∈ sources, NewestFirst time source) :
    (∀ n > 0, NewestDistinct key time n sources.flatten
      ((sort (gather key n [] sources)).take n)) ↔ FirstNewest key time sources := by
  constructor
  · rintro h pre source post rfl a ha hpre b hb hkey
    -- a limit that nothing reaches makes every source be read to its end
    obtain ⟨n, hn⟩ : ∃ n, n = (pre ++ source :: post).flatten.length + 1 := ⟨_, rfl⟩
    have hnewest := (h n (by omega)).newest
    have hlen : (gather key n [] (pre ++ source :: post)).length < n := by
      have hle : (gather key n [] (pre ++ source :: post)).length ≤
          ([] ++ (pre ++ source :: post).flatten).length := gather_sublist.length_le
      rw [List.nil_append] at hle
      omega
    have hall : (sort (gather key n [] (pre ++ source :: post))).take n =
        sort (gather key n [] (pre ++ source :: post)) := by
      rw [List.take_of_length_le]
      rw [(hperm _).length_eq]
      omega
    rcases found_in_first (n := n) post (hsources source (by simp)) ha hpre with
      ⟨c, hc, hcs, hca, _⟩ | hcount
    · refine ⟨c, hcs, hca, hnewest c ?_ b ?_ (hkey.trans hca.symm)⟩
      · rw [hall]
        exact (hperm _).mem_iff.mpr hc
      · rw [List.flatten_append, List.flatten_cons]
        exact List.mem_append_right _ (List.mem_append_right _ hb)
    · have hle := List.countP_le_length (p := fun c => decide (time a ≤ time c))
        (l := gather key n [] (pre ++ source :: post))
      omega
  · intro hnewest n _
    refine newestDistinct_take (hperm _) (hsorted _) (nodup_gather List.nodup_nil) ?_ ?_
    · intro a ha
      simpa using gather_sublist.mem ha
    · intro b hb
      exact covered_gather hsources hnewest hb

end Take

end Newest
