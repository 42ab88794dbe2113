/-
# Copying under live deliveries

Openers of the stream migration among instances that record deliveries in the
same day streams.  As long as no length read finds a gap, a copy that returns
`Ok` is complete; a single delivery between a page and the length read that
follows it is enough to lose an entry.
-/
import TinyConnectors.Archive.Entry
import TinyConnectors.Migration.StreamCopy

open Await Relation

/-- `TriggerArchive::record`: one delivery appended to a day's stream. -/
def RecordDelivery (store store' : Store) : Prop :=
  ∃ day, ∃ entry : Archive.Entry, store' = store.append (STREAM_PREFIX ++ day) [entry.toValue]

/-- Stream migrations among deliveries. -/
def copiers : System MigrateStreams Store where
  task := Advances MigrateStreams.poll Serves
  env := RecordDelivery

/-- The runs in which no length read finds a gap. -/
def gaplessCopiers : System MigrateStreams Store where
  task s store s' store' := Advances MigrateStreams.poll Serves s store s' store' ∧ NoGap store s
  env := RecordDelivery

/-- Whenever a migration has returned `Ok`, the entries of every legacy stream
occur in its target, in order. -/
def CopiesComplete {ι : Type} (c : Config ι MigrateStreams Store) : Prop :=
  ∀ i, c.tasks i = .done (.ok ()) → ∀ source ∈ c.store.legacyStreams,
    (c.store.entries source).Sublist (c.store.entries (targetOf source))

theorem gaplessCopiers_stable :
    gaplessCopiers.Stable (fun _ => True) (fun s store => CopySound store s) Store.StreamsGrow where
  task _ hloc hstep := ⟨trivial, hloc.step hstep.2 hstep.1⟩
  env _ henv := by
    obtain ⟨day, entry, rfl⟩ := henv
    exact ⟨trivial, .append ..⟩
  mono _ hgrow hloc := hloc.mono hgrow

/-- A copy that returns `Ok` without having met a gap is complete. -/
theorem copies_complete_of_gapless {ι : Type} [DecidableEq ι] {c₀ c : Config ι MigrateStreams Store}
    (hstart : ∀ i, c₀.tasks i = .listing) (hrun : gaplessCopiers.Run c₀ c) : CopiesComplete c := by
  have hinit : c₀.Holds (fun _ => True) (fun s store => CopySound store s) := by
    refine ⟨trivial, fun i => ?_⟩
    rw [hstart i]
    trivial
  have hholds := gaplessCopiers_stable.reachable hinit hrun
  intro i hdone source hsource
  have hsound := hholds.2 i
  rw [hdone] at hsound
  exact (hsound source hsource).sublist

/-! ## The steps over one day -/

/-- Storage with one legacy day stream. -/
def dayStore (values : List Json) : Store :=
  { Store.empty with
    names := ["triggers/2026-10-15"]
    entries := fun name => if name = "triggers/2026-10-15" then values else [] }

/-- The only round over it. -/
def dayFrame : StreamFrame :=
  ⟨"triggers/2026-10-15", targetOf "triggers/2026-10-15", []⟩

theorem isLegacyStream_day : IsLegacyStream dayFrame.source := by
  unfold IsLegacyStream
  decide

theorem dayTarget_eq : ∃ day, dayFrame.target = STREAM_PREFIX ++ day :=
  ⟨_, rfl⟩

theorem legacyStreams_dayStore (values : List Json) :
    (dayStore values).legacyStreams = [dayFrame.source] :=
  List.filter_cons_of_pos isLegacyStream_day

theorem dayTarget_ne_source : dayFrame.target ≠ dayFrame.source := by
  intro heq
  have hlegacy := isLegacyStream_day
  rw [← heq] at hlegacy
  exact not_isLegacyStream_append _ hlegacy

theorem entries_dayTarget (values : List Json) :
    (dayStore values).entries dayFrame.target = [] := by
  show (if dayFrame.target = dayFrame.source then values else []) = []
  rw [if_neg dayTarget_ne_source]

theorem entries_append_daySource (store : Store) (values : List Json) :
    (store.append dayFrame.target values).entries dayFrame.source = store.entries dayFrame.source :=
  entries_append_of_legacy isLegacyStream_day ..

theorem entries_append_dayTarget (store : Store) (values : List Json) :
    (store.append dayFrame.target values).entries dayFrame.target =
      store.entries dayFrame.target ++ values := by
  rw [Store.entries_append, if_pos rfl]

theorem legacyStreams_append_day (store : Store) (values : List Json) :
    (store.append dayFrame.target values).legacyStreams = store.legacyStreams :=
  legacyStreams_append ..

section Steps

variable {sys : System MigrateStreams Store}
  (hsys : ∀ s store s' store', Advances MigrateStreams.poll Serves s store s' store' →
    NoGap store s → sys.task s store s' store')
  {store : Store} {sourceLen offset n : ℕ} {values : List Json}

include hsys

/-- An opener that finds no target goes to its first page. -/
theorem day_opened (hlisted : store.legacyStreams = [dayFrame.source])
    (hsource : (store.entries dayFrame.source).length = sourceLen) (hpos : 0 < sourceLen)
    (htarget : store.entries dayFrame.target = []) :
    sys.Alone (.listing, store) (.readPage dayFrame sourceLen 0, store) := by
  have hlist : Advances MigrateStreams.poll Serves .listing store
      (.readSourceLen dayFrame) store := by
    refine ⟨.ok [dayFrame.source], ⟨congrArg Except.ok hlisted.symm, rfl⟩, ?_⟩
    exact (MigrateStreams.nextStream_cons isLegacyStream_day []).symm
  have hlen : Advances MigrateStreams.poll Serves (.readSourceLen dayFrame) store
      (.readTargetLen dayFrame sourceLen) store :=
    ⟨.ok sourceLen, ⟨by rw [hsource], rfl⟩, rfl⟩
  have hnone : Advances MigrateStreams.poll Serves (.readTargetLen dayFrame sourceLen) store
      (.readPage dayFrame sourceLen 0) store := by
    refine ⟨.ok 0, ⟨by rw [htarget, List.length_nil], rfl⟩, ?_⟩
    simp [MigrateStreams.afterTargetLen, MigrateStreams.verifyLoop, MigrateStreams.copyLoop, hpos]
  exact (System.Alone.step (hsys _ _ _ _ hlist trivial)).trans
    ((System.Alone.step (hsys _ _ _ _ hlen trivial)).trans (.step (hsys _ _ _ _ hnone trivial)))

theorem day_read (hpage : ((store.entries dayFrame.source).drop offset).take PAGE_SIZE = values)
    (hne : values ≠ []) :
    sys.Alone (.readPage dayFrame sourceLen offset, store)
      (.appendPage dayFrame sourceLen offset values, store) := by
  refine .step (hsys _ _ _ _ ⟨.ok values, ⟨congrArg Except.ok hpage.symm, rfl⟩, ?_⟩ trivial)
  simp [MigrateStreams.afterReadPage, hne]

theorem day_appended (hlen : (store.entries dayFrame.target).length = offset) :
    sys.Alone (.appendPage dayFrame sourceLen offset values, store)
      (.lengthAfter dayFrame sourceLen offset values, store.append dayFrame.target values) := by
  refine .step (hsys _ _ _ _ ⟨.ok offset, ?_, rfl⟩ trivial)
  simp only [Serves, if_pos hlen, and_self]

/-- A page that is lost to another opener reads back as it was. -/
theorem day_lost (hlen : (store.entries dayFrame.target).length ≠ offset)
    (hback : ((store.entries dayFrame.target).drop offset).take values.length = values) :
    sys.Alone (.appendPage dayFrame sourceLen offset values, store)
      (.lengthAfter dayFrame sourceLen offset values, store) := by
  have hconflict : Advances MigrateStreams.poll Serves
      (.appendPage dayFrame sourceLen offset values)
      store (.readRaced dayFrame sourceLen offset values (.conflict "")) store := by
    refine ⟨.error (.conflict ""), ?_, rfl⟩
    simp only [Serves, if_neg hlen, and_true]
    exact ⟨"", rfl⟩
  have hread : Advances MigrateStreams.poll Serves
      (.readRaced dayFrame sourceLen offset values (.conflict "")) store
      (.lengthAfter dayFrame sourceLen offset values) store := by
    refine ⟨.ok values, ⟨congrArg Except.ok hback.symm, rfl⟩, ?_⟩
    have hsame : MigrateStreams.anyDiffers values values = false := by
      rw [Bool.eq_false_iff, ne_eq, MigrateStreams.anyDiffers_iff rfl]
      exact fun h => h rfl
    simp [MigrateStreams.afterReadRaced, hsame]
  exact (System.Alone.step (hsys _ _ _ _ hconflict trivial)).trans
    (.step (hsys _ _ _ _ hread trivial))

omit hsys in
theorem day_next (hlen : (store.entries dayFrame.target).length = n) (hlt : n < sourceLen)
    (hread : Advances MigrateStreams.poll Serves
      (.lengthAfter dayFrame sourceLen offset values) store
        (.readPage dayFrame sourceLen n) store →
      sys.task (.lengthAfter dayFrame sourceLen offset values) store
        (.readPage dayFrame sourceLen n) store) :
    sys.Alone (.lengthAfter dayFrame sourceLen offset values, store)
      (.readPage dayFrame sourceLen n, store) := by
  refine .step (hread ⟨.ok n, ⟨by rw [hlen], rfl⟩, ?_⟩)
  simp [MigrateStreams.andThen, MigrateStreams.copyLoop, hlt]

/-- A length read that finds the source's length, or more, is the last but one. -/
theorem day_copied (hsource : (store.entries dayFrame.source).length = sourceLen)
    (hlen : (store.entries dayFrame.target).length = n) (hle : sourceLen ≤ n)
    (hread : Advances MigrateStreams.poll Serves
      (.lengthAfter dayFrame sourceLen offset values) store
        (.finalLen dayFrame sourceLen) store →
      sys.task (.lengthAfter dayFrame sourceLen offset values) store
        (.finalLen dayFrame sourceLen) store) :
    sys.Alone (.lengthAfter dayFrame sourceLen offset values, store) (.done (.ok ()), store) := by
  have hfinal : Advances MigrateStreams.poll Serves (.finalLen dayFrame sourceLen) store
      (.done (.ok ())) store := by
    refine ⟨.ok sourceLen, ⟨by rw [hsource], rfl⟩, ?_⟩
    simp [MigrateStreams.afterFinalLen, dayFrame, MigrateStreams.nextStream]
  refine (System.Alone.step (hread ⟨.ok n, ⟨by rw [hlen], rfl⟩, ?_⟩)).trans
    (.step (hsys _ _ _ _ hfinal trivial))
  simp [MigrateStreams.andThen, MigrateStreams.copyLoop, hle]

end Steps

/-! ## A day of one page and an entry -/

/-- The deliveries of the day. -/
def delivery (n : ℕ) : Archive.Entry where
  received_at_ms := 1792022400000 + n
  toolkit := "github"
  trigger := "GITHUB_COMMIT_EVENT"
  metadata_id := "ti_9k2"
  metadata_uuid := ""
  payload := .obj [("ref", .str "refs/heads/main")]

/-- The first page of them. -/
def firstPage : List Json := (List.range PAGE_SIZE).map fun n => (delivery n).toValue

/-- What is left for the second page. -/
def lastPage : List Json := [(delivery PAGE_SIZE).toValue]

/-- A delivery recorded while the day is copied. -/
def recorded : Json := (delivery (PAGE_SIZE + 1)).toValue

theorem length_firstPage : firstPage.length = PAGE_SIZE := by
  rw [firstPage, List.length_map, List.length_range]

def longDay : List Json := firstPage ++ lastPage

theorem length_longDay : longDay.length = PAGE_SIZE + 1 := by
  rw [longDay, List.length_append, length_firstPage]
  rfl

theorem take_longDay : longDay.take PAGE_SIZE = firstPage := List.take_left' length_firstPage

theorem drop_longDay : longDay.drop PAGE_SIZE = lastPage := List.drop_left' length_firstPage

theorem firstPage_ne_nil : firstPage ≠ [] := by
  rw [← List.length_pos_iff, length_firstPage]
  exact Nat.succ_pos _

/-- The store after the first page. -/
def halfStore : Store := (dayStore longDay).append dayFrame.target firstPage

theorem entries_halfStore_source : halfStore.entries dayFrame.source = longDay := by
  rw [halfStore, entries_append_daySource]
  rfl

theorem entries_halfStore_target : halfStore.entries dayFrame.target = firstPage := by
  rw [halfStore, entries_append_dayTarget, entries_dayTarget, List.nil_append]

/-- The store after both pages. -/
def copiedStore : Store := halfStore.append dayFrame.target lastPage

theorem entries_copiedStore_source : copiedStore.entries dayFrame.source = longDay := by
  rw [copiedStore, entries_append_daySource, entries_halfStore_source]

theorem entries_copiedStore_target : copiedStore.entries dayFrame.target = longDay := by
  rw [copiedStore, entries_append_dayTarget, entries_halfStore_target, longDay]

theorem legacyStreams_halfStore : halfStore.legacyStreams = [dayFrame.source] := by
  rw [halfStore, legacyStreams_append_day, legacyStreams_dayStore]

section Runs

variable {sys : System MigrateStreams Store}
  (hsys : ∀ s store s' store', Advances MigrateStreams.poll Serves s store s' store' →
    NoGap store s → sys.task s store s' store')

include hsys

/-- An opener alone, up to its append of the first page. -/
theorem firstPage_read : sys.Alone (.listing, dayStore longDay)
    (.appendPage dayFrame (PAGE_SIZE + 1) 0 firstPage, dayStore longDay) := by
  refine (day_opened hsys (legacyStreams_dayStore _) length_longDay (Nat.succ_pos _)
    (entries_dayTarget _)).trans ?_
  exact day_read hsys take_longDay firstPage_ne_nil

theorem firstPage_appended : sys.Alone
    (.appendPage dayFrame (PAGE_SIZE + 1) 0 firstPage, dayStore longDay)
    (.lengthAfter dayFrame (PAGE_SIZE + 1) 0 firstPage, halfStore) := by
  apply day_appended hsys
  rw [entries_dayTarget, List.length_nil]

/-- The second page is read after a length that found the first one, and no more. -/
theorem lastPage_read : sys.Alone (.lengthAfter dayFrame (PAGE_SIZE + 1) 0 firstPage, halfStore)
    (.appendPage dayFrame (PAGE_SIZE + 1) PAGE_SIZE lastPage, halfStore) := by
  have hlen : (halfStore.entries dayFrame.target).length = PAGE_SIZE := by
    rw [entries_halfStore_target, length_firstPage]
  refine (day_next hlen (Nat.lt_succ_self _) fun h => hsys _ _ _ _ h ?_).trans
    (day_read hsys ?_ (List.cons_ne_nil _ _))
  · intro j hpage _ htarget
    rw [length_firstPage] at hpage
    omega
  · rw [entries_halfStore_source, drop_longDay]
    rfl

/-- Two openers over the day: the second loses the first page to the first, which
is about to lose the last page to the second. -/
theorem race_run : sys.Run (Config.two .listing .listing (dayStore longDay))
    (Config.two (.appendPage dayFrame (PAGE_SIZE + 1) PAGE_SIZE lastPage)
      (.lengthAfter dayFrame (PAGE_SIZE + 1) PAGE_SIZE lastPage) copiedStore) := by
  have hlost : sys.Alone (.appendPage dayFrame (PAGE_SIZE + 1) 0 firstPage, halfStore)
      (.lengthAfter dayFrame (PAGE_SIZE + 1) 0 firstPage, halfStore) := by
    apply day_lost hsys
    · rw [entries_halfStore_target, length_firstPage]
      exact Nat.succ_ne_zero _
    · rw [entries_halfStore_target, List.drop_zero, List.take_length]
  have hwon : sys.Alone (.appendPage dayFrame (PAGE_SIZE + 1) PAGE_SIZE lastPage, halfStore)
      (.lengthAfter dayFrame (PAGE_SIZE + 1) PAGE_SIZE lastPage, copiedStore) := by
    apply day_appended hsys
    rw [entries_halfStore_target, length_firstPage]
  exact (firstPage_read hsys).first.trans <| (firstPage_read hsys).second.trans <|
    (firstPage_appended hsys).first.trans <| hlost.second.trans <|
    (lastPage_read hsys).first.trans <| (lastPage_read hsys).second.trans hwon.second

/-- Both return, whatever has been recorded behind the last page by then. -/
theorem race_end {store : Store} (later : List Json)
    (hsource : store.entries dayFrame.source = longDay)
    (htarget : store.entries dayFrame.target = longDay ++ later) :
    sys.Run (Config.two (.appendPage dayFrame (PAGE_SIZE + 1) PAGE_SIZE lastPage)
        (.lengthAfter dayFrame (PAGE_SIZE + 1) PAGE_SIZE lastPage) store)
      (Config.two (.done (.ok ())) (.done (.ok ())) store) := by
  have hlen : (store.entries dayFrame.target).length = PAGE_SIZE + 1 + later.length := by
    rw [htarget, List.length_append, length_longDay]
  have hlost : sys.Alone (.appendPage dayFrame (PAGE_SIZE + 1) PAGE_SIZE lastPage, store)
      (.lengthAfter dayFrame (PAGE_SIZE + 1) PAGE_SIZE lastPage, store) := by
    apply day_lost hsys
    · omega
    · rw [htarget, longDay, List.append_assoc, List.drop_left' length_firstPage,
        List.take_left' rfl]
  have hcopied : sys.Alone (.lengthAfter dayFrame (PAGE_SIZE + 1) PAGE_SIZE lastPage, store)
      (.done (.ok ()), store) := by
    refine day_copied hsys ?_ hlen (Nat.le_add_right _ _) fun h => hsys _ _ _ _ h ?_
    · rw [hsource, length_longDay]
    · intro j hpage hj _
      have hone : lastPage.length = 1 := rfl
      omega
  exact hlost.first.trans <| hcopied.first.trans hcopied.second

end Runs

/-- The store after the first page of `longDay` and a delivery behind it. -/
def recordedStore : Store := halfStore.append dayFrame.target [recorded]

theorem entries_recordedStore_source : recordedStore.entries dayFrame.source = longDay := by
  rw [recordedStore, entries_append_daySource, entries_halfStore_source]

theorem entries_recordedStore_target :
    recordedStore.entries dayFrame.target = firstPage ++ [recorded] := by
  rw [recordedStore, entries_append_dayTarget, entries_halfStore_target]

theorem record_day (store : Store) :
    RecordDelivery store (store.append dayFrame.target [recorded]) :=
  ⟨_, delivery (PAGE_SIZE + 1), rfl⟩

/-- A delivery recorded right behind a page makes the migration skip the entry
that was still to be copied, and return `Ok`. -/
theorem recorded_run : copiers.Run (ι := Unit) ⟨fun _ => .listing, dayStore longDay⟩
    ⟨fun _ => .done (.ok ()), recordedStore⟩ := by
  have hall : ∀ s store s' store', Advances MigrateStreams.poll Serves s store s' store' →
      NoGap store s → copiers.task s store s' store' := fun _ _ _ _ h _ => h
  have hcopied : copiers.Alone (.lengthAfter dayFrame (PAGE_SIZE + 1) 0 firstPage, recordedStore)
      (.done (.ok ()), recordedStore) := by
    refine day_copied hall ?_ ?_ le_rfl id
    · rw [entries_recordedStore_source, length_longDay]
    · rw [entries_recordedStore_target, List.length_append, length_firstPage]
      rfl
  exact (((firstPage_read hall).trans (firstPage_appended hall)).run.tail
    (.env (record_day halfStore))).trans hcopied.run

/-- An accepted copy can miss an entry of its source. -/
theorem not_copiesComplete :
    ¬ ∀ c₀ c : Config Unit MigrateStreams Store, (∀ i, c₀.tasks i = .listing) → copiers.Run c₀ c →
      CopiesComplete c := by
  intro h
  have hcomplete := h _ _ (fun _ => rfl) recorded_run () rfl dayFrame.source ?_
  · -- source and target have one length, so a sublist would be the whole of it
    have hsub : longDay.Sublist (firstPage ++ [recorded]) := by
      rw [← entries_recordedStore_source, ← entries_recordedStore_target]
      exact hcomplete
    have heq :=
      hsub.eq_of_length (by rw [length_longDay, List.length_append, length_firstPage]; rfl)
    rw [longDay, List.append_right_inj] at heq
    simp [lastPage, recorded, delivery, Archive.Entry.toValue] at heq
  · rw [recordedStore, legacyStreams_append_day, legacyStreams_halfStore]
    exact List.mem_singleton_self _

/-- Two openers lose a page to each other, and a delivery lands behind their copy. -/
theorem copies_complete_of_gapless_day :
    CopiesComplete (Config.two (.done (.ok ())) (.done (.ok ()))
      (copiedStore.append dayFrame.target [recorded])) := by
  have hsys : ∀ s store s' store', Advances MigrateStreams.poll Serves s store s' store' →
      NoGap store s → gaplessCopiers.task s store s' store' := fun _ _ _ _ h hgap => ⟨h, hgap⟩
  have hsource : (copiedStore.append dayFrame.target [recorded]).entries dayFrame.source =
      longDay := by
    rw [entries_append_daySource, entries_copiedStore_source]
  have htarget : (copiedStore.append dayFrame.target [recorded]).entries dayFrame.target =
      longDay ++ [recorded] := by
    rw [entries_append_dayTarget, entries_copiedStore_target]
  have hrun : gaplessCopiers.Run (Config.two .listing .listing (dayStore longDay)) _ :=
    ((race_run hsys).tail (.env (record_day _))).trans (race_end hsys [recorded] hsource htarget)
  refine copies_complete_of_gapless ?_ hrun
  intro i
  cases i <;> rfl
