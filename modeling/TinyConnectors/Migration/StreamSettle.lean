/-
# Migrating the day streams alone

`migrate_streams` when nobody else writes: every legacy stream in listing order
is copied whole to a target that starts like it, and the first target that does
not ends the migration with its conflict, untouched (`settleStreams`).  A target
copied in part is one that starts like its source, which is why an interrupted
migration can be run again.
-/
import TinyConnectors.Migration.MigratePreferences
import TinyConnectors.Migration.StreamCopy

open Await Relation

/-- The streams in order, up to the first whose target is not a prefix of it. -/
def settleStreams : List String → (String → List Json) → StorageResult Unit × (String → List Json)
  | [], entries => (.ok (), entries)
  | source :: rest, entries =>
    let f : StreamFrame := ⟨source, targetOf source, rest⟩
    if (entries f.source).length < (entries f.target).length then
      (.error (MigrateStreams.longerTarget f), entries)
    else if entries f.target <+: entries f.source then
      settleStreams rest (Function.update entries f.target (entries f.source))
    else (.error (MigrateStreams.differingTarget f), entries)

section
variable {entries : String → List Json} {source : String} {rest : List String}

/-- A target that starts like its source is completed. -/
theorem settleStreams_cons (h : entries (targetOf source) <+: entries source) :
    settleStreams (source :: rest) entries =
      settleStreams rest (Function.update entries (targetOf source) (entries source)) := by
  rw [settleStreams, if_neg (not_lt.mpr h.length_le), if_pos h]

/-- Complete targets make no difference. -/
theorem settleStreams_append {settled : List String}
    (h : ∀ source ∈ settled, entries (targetOf source) = entries source) :
    settleStreams (settled ++ rest) entries = settleStreams rest entries := by
  induction settled with
  | nil => rfl
  | cons source settled ih =>
    obtain ⟨hsource, hsettled⟩ := List.forall_mem_cons.mp h
    have hsame : Function.update entries (targetOf source) (entries source) = entries := by
      rw [← hsource, Function.update_eq_self]
    rw [List.cons_append, settleStreams_cons (by rw [hsource]), hsame, ih hsettled]

/-- Neither does a target that is longer than before and still starts like its source. -/
theorem settleStreams_update {values : List Json} (hlegacy : IsLegacyStream source)
    (h : entries (targetOf source) <+: entries source) (hvalues : values <+: entries source) :
    settleStreams (source :: rest) (Function.update entries (targetOf source) values) =
      settleStreams (source :: rest) entries := by
  have hne : source ≠ targetOf source := by
    intro heq
    rw [heq] at hlegacy
    exact not_isLegacyStream_append _ hlegacy
  rw [settleStreams_cons h, settleStreams_cons]
  · rw [Function.update_of_ne hne, Function.update_idem]
  · rw [Function.update_self, Function.update_of_ne hne]
    exact hvalues

end

/-! ## The machine alone -/

/-- Only targets have grown, within their sources, and the streams come to the
same as before. -/
structure SameStreams (store store' : Store) : Prop extends store.StreamsGrow store' where
  collections : store'.collections = store.collections
  within : ∀ name, store'.entries name = store.entries name ∨
    ∃ source ∈ store.legacyStreams,
    name = targetOf source ∧ store'.entries name <+: store.entries source
  settlement : settleStreams store.legacyStreams store'.entries =
    settleStreams store.legacyStreams store.entries

/-- The streams before `rest` are complete. -/
structure StreamProgress (store : Store) (rest : List String) (store' : Store) : Prop
    extends SameStreams store store' where
  settled : ∃ settled, store.legacyStreams = settled ++ rest ∧
    ∀ source ∈ settled, store'.entries (targetOf source) = store'.entries source

/-- The migration has returned, and has done what it comes to. -/
structure StreamsMigrated (store : Store) (result : StorageResult Unit) (store' : Store) : Prop
    extends SameStreams store store' where
  outcome : settleStreams store.legacyStreams store.entries = (result, store'.entries)
  settled : result = .ok () → ∀ source ∈ store.legacyStreams,
    store'.entries (targetOf source) = store'.entries source

section
variable {store store' : Store} {source : String} {rest : List String}

theorem StreamProgress.refl : StreamProgress store store.legacyStreams store :=
  ⟨⟨.refl store, rfl, fun _ => .inl rfl, rfl⟩, [], rfl, fun _ => nofun⟩

/-- What is left comes to what the whole came to. -/
theorem StreamProgress.settleStreams_rest (h : StreamProgress store rest store') :
    settleStreams store.legacyStreams store.entries = settleStreams rest store'.entries := by
  obtain ⟨settled, hnames, hsettled⟩ := h.settled
  rw [← h.settlement, hnames, settleStreams_append hsettled]

theorem StreamProgress.migrated (h : StreamProgress store [] store') :
    StreamsMigrated store (.ok ()) store' := by
  obtain ⟨settled, hnames, hsettled⟩ := h.settled
  rw [List.append_nil] at hnames
  exact ⟨h.toSameStreams, h.settleStreams_rest, fun _ => hnames ▸ hsettled⟩

theorem StreamProgress.mem (h : StreamProgress store (source :: rest) store') :
    source ∈ store.legacyStreams := by
  obtain ⟨settled, hnames, -⟩ := h.settled
  rw [hnames]
  simp

theorem StreamProgress.isLegacyStream (h : StreamProgress store (source :: rest) store') :
    IsLegacyStream source :=
  mem_legacyStreams h.mem

/-- A complete target takes the migration one stream further. -/
theorem StreamProgress.next (h : StreamProgress store (source :: rest) store')
    (hcomplete : store'.entries (targetOf source) = store'.entries source) :
    StreamProgress store rest store' := by
  obtain ⟨settled, hnames, hsettled⟩ := h.settled
  refine ⟨h.toSameStreams, settled ++ [source], ?_, fun other hother => ?_⟩
  · rw [hnames, List.append_assoc, List.singleton_append]
  · rcases List.mem_append.mp hother with hmem | hmem
    · exact hsettled other hmem
    · rw [List.mem_singleton.mp hmem]
      exact hcomplete

/-- A page that stays within the source keeps it there. -/
theorem StreamProgress.append (h : StreamProgress store (source :: rest) store')
    {values : List Json}
    (hvalues : store'.entries (targetOf source) ++ values <+: store'.entries source) :
    StreamProgress store (source :: rest) (store'.append (targetOf source) values) := by
  obtain ⟨settled, hnames, hsettled⟩ := h.settled
  have hlegacy := h.isLegacyStream
  have hgrow : store'.StreamsGrow (store'.append (targetOf source) values) := .append ..
  have hentries : (store'.append (targetOf source) values).entries =
      Function.update store'.entries (targetOf source)
      (store'.entries (targetOf source) ++ values) :=
    rfl
  have hsettled' : ∀ other ∈ settled,
      (store'.append (targetOf source) values).entries (targetOf other) =
      (store'.append (targetOf source) values).entries other := by
    intro other hother
    have hmem : other ∈ store.legacyStreams := by
      rw [hnames]
      exact List.mem_append_left _ hother
    rw [hgrow.legacy other (mem_legacyStreams hmem), Store.entries_append]
    split_ifs with hsame
    · -- the same stream once more, which leaves no room for a page
      obtain rfl := targetOf_injective (mem_legacyStreams hmem) hlegacy hsame
      have hnil := hvalues.length_le
      rw [hsettled other hother, List.length_append] at hnil
      rw [List.length_eq_zero_iff.mp (by omega : values.length = 0), List.append_nil]
      exact hsettled other hother
    · exact hsettled other hother
  have hpre : store'.entries (targetOf source) <+: store'.entries source :=
    (List.prefix_append _ values).trans hvalues
  refine ⟨⟨⟨fun name => (h.grows name).trans (hgrow.grows name), fun name hname => ?_, ?_⟩,
    h.collections, fun name => ?_, ?_⟩, settled, hnames, hsettled'⟩
  · rw [hgrow.legacy name hname, h.legacy name hname]
  · rw [hgrow.listed, h.listed]
  · rw [Store.entries_append]
    split_ifs with hname
    · refine .inr ⟨source, h.mem, hname, ?_⟩
      rw [← h.legacy source hlegacy]
      exact hvalues
    · exact h.within name
  · rw [h.settleStreams_rest, hnames, settleStreams_append hsettled', hentries,
      settleStreams_update hlegacy hpre hvalues]

end

namespace MigrateStreams

section
variable {store store' : Store} {source : String} {rest : List String}

/-- The copy loop, on a target that is the beginning of its source. -/
theorem finishes_copyLoop {offset sourceLen : ℕ} (h : StreamProgress store (source :: rest) store')
    (hsource : sourceLen = (store'.entries source).length) (hoffset : offset ≤ sourceLen)
    (htarget : store'.entries (targetOf source) = (store'.entries source).take offset)
    (hrest : ∀ s, StreamProgress store rest s →
      Finishes poll Serves (SameStreams store) (StreamsMigrated store) (nextStream rest) s) :
    Finishes poll Serves (SameStreams store) (StreamsMigrated store)
      (copyLoop ⟨source, targetOf source, rest⟩ sourceLen offset) store' := by
  induction hleft : sourceLen - offset using Nat.strong_induction_on generalizing offset store' with
  | _ n ih =>
    unfold copyLoop
    split_ifs with hlt
    · refine .pending rfl h.toSameStreams (exists_reply _ _ (by intro _ _ h; cases h)) ?_
      rintro reply s ⟨rfl, rfl⟩
      -- the page read is not empty, and it goes on where the target ends
      have hpos : 0 < (((s.entries source).drop offset).take PAGE_SIZE).length := by
        rw [List.length_take, List.length_drop, ← hsource, PAGE_SIZE]
        omega
      have hne : (((s.entries source).drop offset).take PAGE_SIZE).isEmpty = false := by
        rw [List.isEmpty_eq_false_iff, ← List.length_pos_iff]
        exact hpos
      simp only [afterReadPage, hne]
      generalize hvalues : ((s.entries source).drop offset).take PAGE_SIZE = values at hpos ⊢
      have hlength : (s.entries (targetOf source)).length = offset := by
        rw [htarget, List.length_take, ← hsource]
        omega
      have hgrown : s.entries (targetOf source) ++ values =
          (s.entries source).take (offset + values.length) := by
        rw [htarget, List.take_add, ← take_page hvalues.symm]
      have hpage : StreamProgress store (source :: rest) (s.append (targetOf source) values) := by
        refine h.append ?_
        rw [hgrown]
        exact List.take_prefix _ _
      have hlegacy : (s.append (targetOf source) values).entries source = s.entries source :=
        entries_append_of_legacy h.isLegacyStream ..
      refine .pending rfl h.toSameStreams (exists_reply _ _ (by intro _ _ h; cases h)) ?_
      -- nobody else writes, so the target still has the length the page was read for
      intro reply s' hserved
      simp only [Serves] at hserved
      rw [if_pos hlength] at hserved
      obtain ⟨rfl, rfl⟩ := hserved
      refine .pending rfl hpage.toSameStreams (exists_reply _ _ (by intro _ _ h; cases h)) ?_
      rintro reply s' ⟨rfl, rfl⟩
      have hlength' : ((s.append (targetOf source) values).entries (targetOf source)).length =
          offset + values.length := by
        rw [Store.entries_append, if_pos rfl, List.length_append, hlength]
      have hwithin := congrArg List.length hgrown
      rw [List.length_append, hlength, List.length_take, ← hsource] at hwithin
      simp only [andThen, hlength']
      -- the next offset is the new length, and less of the source is left
      refine ih (sourceLen - (offset + values.length)) (by omega) hpage ?_ (by omega) ?_ rfl
      · rw [hsource, hlegacy]
      · rw [Store.entries_append, if_pos rfl, hgrown, hlegacy]
    · refine .pending rfl h.toSameStreams (exists_reply _ _ (by intro _ _ h; cases h)) ?_
      -- the whole source stands in the target, and it has not changed
      rintro reply s ⟨rfl, rfl⟩
      simp only [afterFinalLen, hsource, ne_eq, not_true_eq_false, if_false]
      refine hrest s (h.next ?_)
      rw [htarget, List.take_of_length_le (by omega)]

/-- The verify loop, which lets exactly the beginnings of the source through. -/
theorem finishes_verifyLoop {verified sourceLen targetLen : ℕ}
    (h : StreamProgress store (source :: rest) store')
    (hsource : sourceLen = (store'.entries source).length)
    (htarget : targetLen = (store'.entries (targetOf source)).length) (hle : targetLen ≤ sourceLen)
    (hagree : Agrees store' source verified)
    (hrest : ∀ s, StreamProgress store rest s →
      Finishes poll Serves (SameStreams store) (StreamsMigrated store) (nextStream rest) s) :
    Finishes poll Serves (SameStreams store) (StreamsMigrated store)
      (verifyLoop ⟨source, targetOf source, rest⟩ sourceLen targetLen verified) store' := by
  induction hleft : targetLen - verified using Nat.strong_induction_on generalizing verified with
  | _ n ih =>
    have hverified := hagree.1
    unfold verifyLoop
    split_ifs with hlt
    · refine .pending rfl h.toSameStreams (exists_reply _ _ (by intro _ _ h; cases h)) ?_
      rintro reply s ⟨rfl, rfl⟩
      refine .pending rfl h.toSameStreams (exists_reply _ _ (by intro _ _ h; cases h)) ?_
      rintro reply s ⟨rfl, rfl⟩
      have hlimit := verified_add_pageLimit hlt
      have hpos : 0 < pageLimit targetLen verified := by
        simp only [pageLimit, PAGE_SIZE]
        omega
      have hlength : ∀ name, targetLen ≤ (s.entries name).length →
          (((s.entries name).drop verified).take (pageLimit targetLen verified)).length =
            pageLimit targetLen verified := by
        intro name hname
        rw [List.length_take, List.length_drop]
        omega
      have hsourceWindow := hlength source (by omega)
      have htargetWindow := hlength (targetOf source) (by omega)
      simp only [afterVerifyTarget, hsourceWindow, htargetWindow, ne_eq,
        not_true_eq_false, false_or, anyDiffers_iff (hsourceWindow.trans htargetWindow.symm)]
      split_ifs with hsame
      · refine ih (targetLen - (verified + pageLimit targetLen verified)) (by omega) ?_ rfl
        exact hagree.extend (hlimit.trans htarget.le) hsame.symm
      · -- a target that differs is not a beginning of its source
        refine .ready rfl h.toSameStreams ⟨h.toSameStreams, ?_, by intro h; cases h⟩
        rw [h.settleStreams_rest, settleStreams, if_neg, if_neg]
        · intro hpre
          exact hsame (window_of_isPrefix hpre (hlimit.trans htarget.le)).symm
        · show ¬ (s.entries source).length < (s.entries (targetOf source)).length
          omega
    · refine finishes_copyLoop h hsource hle ?_ hrest
      have hall : verified = (store'.entries (targetOf source)).length := by omega
      have htake := hagree.2
      rw [hall, List.take_length] at htake
      rw [htarget]
      exact htake

/-- From the head of the loop over the listed streams. -/
theorem finishes_nextStream (h : StreamProgress store rest store') :
    Finishes poll Serves (SameStreams store) (StreamsMigrated store) (nextStream rest) store' := by
  induction rest generalizing store' with
  | nil => exact .ready rfl h.toSameStreams h.migrated
  | cons source rest ih =>
    rw [nextStream_cons h.isLegacyStream]
    refine .pending rfl h.toSameStreams (exists_reply _ _ (by intro _ _ h; cases h)) ?_
    rintro reply s ⟨rfl, rfl⟩
    refine .pending rfl h.toSameStreams (exists_reply _ _ (by intro _ _ h; cases h)) ?_
    rintro reply s ⟨rfl, rfl⟩
    simp only [afterTargetLen]
    split_ifs with hlong
    · refine .ready rfl h.toSameStreams ⟨h.toSameStreams, ?_, by intro h; cases h⟩
      rw [h.settleStreams_rest, settleStreams, if_pos hlong]
    · exact finishes_verifyLoop h rfl rfl (not_lt.mp hlong) agrees_zero fun s => ih

/-- Alone, the migration returns, having done what it comes to. -/
theorem finishes_listing :
    Finishes poll Serves (SameStreams store) (StreamsMigrated store) .listing store := by
  refine .pending rfl StreamProgress.refl.toSameStreams
    (exists_reply _ _ (by intro _ _ h; cases h)) ?_
  rintro reply s ⟨rfl, rfl⟩
  exact finishes_nextStream .refl

end

theorem faultStops : FaultStops poll IsFault IsError := by
  rintro s call resume reply hpoll ⟨error, rfl, hconflict⟩
  cases s with
  | done result => cases hpoll
  | appendPage f sourceLen offset values =>
    cases hpoll
    -- only a conflict is taken for a lost race
    simp only [afterAppendPage, hconflict]
    exact .ready rfl ⟨error, rfl⟩
  | _ =>
    cases hpoll
    exact .ready rfl ⟨error, rfl⟩

end MigrateStreams
