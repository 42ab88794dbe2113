/-
# The history through a migration

The archive while it is written to from three sides: legacy writers append to
the legacy days, `TriggerArchive::record` to the others, and any number of
openers copy the first to the second, succeed, meet each other or fail half way.
A copy never takes an entry out of the stream it was appended to and never
writes one that stands in no stream, so a later read finds each delivery once.
-/
import TinyConnectors.Archive.ListRecent
import TinyConnectors.Migration.StreamRecords
import TinyConnectors.Migration.StreamSettle

namespace Archive

open Json (FloatFormat)
open Await Newest RustStr

/-- Storage, with the deliveries that have been appended to it. -/
structure Logged where
  store : Store
  appended : List Entry

/-- One delivery is appended: by a legacy writer in any form that can be read
back, or by `record`. -/
inductive Append : Logged → Logged → Prop
  | legacy (store : Store) (appended : List Entry) (day : String) (value : Json) (entry : Entry)
      (h : Entry.fromValue value = some entry) :
    Append ⟨store, appended⟩
      ⟨store.append (LEGACY_STREAM_PREFIX ++ day) [value], appended ++ [entry]⟩
  | record (store : Store) (appended : List Entry) (day : String) (entry : Entry) :
    Append ⟨store, appended⟩
      ⟨store.append (STREAM_PREFIX ++ day) [entry.toValue], appended ++ [entry]⟩

/-- Migrating openers, whose calls may fail, among the writers. -/
def writers : System MigrateStreams Logged where
  task s c s' c' :=
    FaultyStep MigrateStreams.poll Serves IsFault (s, c.store) (s', c'.store) ∧
      c'.appended = c.appended
  env := Append

/-! ## What every step keeps -/

/-- A day stream, of either family. -/
def IsDay (name : String) : Prop :=
  startsWith name STREAM_PREFIX = true ∨ startsWith name LEGACY_STREAM_PREFIX = true

/-- Each value is an appended delivery. -/
def Readable (appended : List Entry) (values : List Json) : Prop :=
  ∀ value ∈ values, ∃ entry ∈ appended, Entry.fromValue value = some entry

/-- The days hold the appended deliveries and nothing else. -/
structure Kept (c : Logged) : Prop where
  readable : ∀ name, IsDay name → Readable c.appended (c.store.entries name)
  retained : ∀ entry ∈ c.appended, ∃ name, IsDay name ∧
    ∃ value ∈ c.store.entries name, Entry.fromValue value = some entry
  listed : ∀ name, IsDay name → c.store.entries name ≠ [] → name ∈ c.store.names

theorem isDay_append (day : String) : IsDay (STREAM_PREFIX ++ day) :=
  Or.inl (startsWith_iff.mpr ⟨day.toList, by simp⟩)

theorem isDay_append_legacy (day : String) : IsDay (LEGACY_STREAM_PREFIX ++ day) :=
  Or.inr (startsWith_iff.mpr ⟨day.toList, by simp⟩)

theorem Readable.mono {appended appended' : List Entry} {values : List Json}
    (hgrow : appended ⊆ appended') (h : Readable appended values) : Readable appended' values := by
  intro value hvalue
  obtain ⟨entry, hentry, hparse⟩ := h value hvalue
  exact ⟨entry, hgrow hentry, hparse⟩

/-- Appending values that are deliveries, the new ones among them, keeps the days. -/
theorem Kept.append {store : Store} {appended appended' : List Entry} {name : String}
    {values : List Json} (h : Kept ⟨store, appended⟩) (hday : IsDay name)
    (hvalues : Readable appended' values) (hgrow : appended ⊆ appended')
    (hnew : ∀ entry ∈ appended', entry ∈ appended ∨
      ∃ value ∈ values, Entry.fromValue value = some entry) :
    Kept ⟨store.append name values, appended'⟩ where
  readable other hother := by
    show Readable appended' ((store.append name values).entries other)
    rw [Store.entries_append]
    split_ifs with hname
    · subst hname
      intro value hvalue
      rcases List.mem_append.mp hvalue with hold | hvalue
      · exact (h.readable other hother).mono hgrow value hold
      · exact hvalues value hvalue
    · exact (h.readable other hother).mono hgrow
  retained entry hentry := by
    show ∃ other, IsDay other ∧ ∃ value ∈ (store.append name values).entries other, _
    rcases hnew entry hentry with hold | ⟨value, hvalue, hparse⟩
    · obtain ⟨other, hother, value, hvalue, hparse⟩ := h.retained entry hold
      refine ⟨other, hother, value, ?_, hparse⟩
      rw [Store.entries_append]
      split_ifs with hname
      · subst hname
        exact List.mem_append_left _ hvalue
      · exact hvalue
    · refine ⟨name, hday, value, ?_, hparse⟩
      rw [Store.entries_append, if_pos rfl]
      exact List.mem_append_right _ hvalue
  listed other hother hne := by
    show other ∈ (if name ∈ store.names then store.names else store.names ++ [name])
    have hne : (store.append name values).entries other ≠ [] := hne
    rw [Store.entries_append] at hne
    split_ifs at hne with hname
    · subst hname
      split_ifs with hmem
      · exact hmem
      · simp
    · have hmem : other ∈ store.names := h.listed other hother hne
      split_ifs
      · exact hmem
      · exact List.mem_append_left _ hmem

theorem Kept.env {c c' : Logged} (h : Kept c) (hstep : Append c c') : Kept c' := by
  cases hstep with
  | legacy store appended day value entry hparse =>
    refine h.append (isDay_append_legacy day) ?_ (List.subset_append_left _ _) ?_
    · intro v hv
      rw [List.mem_singleton.mp hv]
      exact ⟨entry, by simp, hparse⟩
    · intro e he
      rcases List.mem_append.mp he with he | he
      · exact Or.inl he
      · rw [List.mem_singleton.mp he]
        exact Or.inr ⟨value, List.mem_singleton_self value, hparse⟩
  | record store appended day entry =>
    refine h.append (isDay_append day) ?_ (List.subset_append_left _ _) ?_
    · intro v hv
      rw [List.mem_singleton.mp hv]
      exact ⟨entry, by simp, fromValue_toValue entry⟩
    · intro e he
      rcases List.mem_append.mp he with he | he
      · exact Or.inl he
      · rw [List.mem_singleton.mp he]
        exact Or.inr ⟨_, List.mem_singleton_self _, fromValue_toValue entry⟩

/-! ## What an opener is about to write -/

/-- A round from a legacy day to a day. -/
def ToDay (f : StreamFrame) : Prop :=
  startsWith f.source LEGACY_STREAM_PREFIX = true ∧ ∃ day, f.target = STREAM_PREFIX ++ day

/-- The round an opener is in copies days, and the page it holds is of deliveries. -/
def CopiesDays (s : MigrateStreams) (c : Logged) : Prop :=
  match s with
  | .listing | .done _ => True
  | .readSourceLen f | .readTargetLen f _ | .verifySource f _ _ _ | .verifyTarget f _ _ _ _
  | .readPage f _ _ | .readRaced f _ _ _ _ | .lengthAfter f _ _ _ | .finalLen f _ => ToDay f
  | .appendPage f _ _ values => ToDay f ∧ Readable c.appended values

theorem CopiesDays.mono {s : MigrateStreams} {c c' : Logged} (hgrow : c.appended ⊆ c'.appended)
    (h : CopiesDays s c) : CopiesDays s c' := by
  cases s with
  | appendPage f sourceLen offset values => exact ⟨h.1, h.2.mono hgrow⟩
  | _ => exact h

theorem copiesDays_nextStream (names : List String) (c : Logged) :
    CopiesDays (MigrateStreams.nextStream names) c := by
  rcases names with _ | ⟨source, rest⟩
  · trivial
  · unfold MigrateStreams.nextStream stripPrefix
    by_cases hlegacy : startsWith source LEGACY_STREAM_PREFIX = true
    · simp only [if_pos hlegacy]
      exact ⟨hlegacy, _, rfl⟩
    · simp only [if_neg hlegacy]
      trivial

theorem copiesDays_copyLoop {f : StreamFrame} (h : ToDay f) (sourceLen offset : ℕ) (c : Logged) :
    CopiesDays (MigrateStreams.copyLoop f sourceLen offset) c := by
  unfold MigrateStreams.copyLoop
  split
  · exact h
  · exact h

theorem copiesDays_verifyLoop {f : StreamFrame} (h : ToDay f) (sourceLen targetLen verified : ℕ)
    (c : Logged) : CopiesDays (MigrateStreams.verifyLoop f sourceLen targetLen verified) c := by
  unfold MigrateStreams.verifyLoop
  split
  · exact h
  · exact copiesDays_copyLoop h sourceLen targetLen c

/-- A page of a legacy day is of deliveries. -/
theorem Kept.window {c : Logged} (h : Kept c) {f : StreamFrame} (hf : ToDay f) (start limit : ℕ) :
    Readable c.appended (((c.store.entries f.source).drop start).take limit) := by
  intro value hvalue
  exact h.readable f.source (Or.inr hf.1) value (List.mem_of_mem_drop (List.mem_of_mem_take hvalue))

/-- A call that is answered keeps the days, and the opener goes on copying days. -/
theorem Kept.advances {store store' : Store} {appended : List Entry} {s s' : MigrateStreams}
    (h : Kept ⟨store, appended⟩) (hs : CopiesDays s ⟨store, appended⟩)
    (hstep : Advances MigrateStreams.poll Serves s store s' store') :
    Kept ⟨store', appended⟩ ∧ CopiesDays s' ⟨store', appended⟩ := by
  cases s with
  | listing =>
    obtain ⟨reply, ⟨rfl, rfl⟩, rfl⟩ := hstep
    exact ⟨h, copiesDays_nextStream _ _⟩
  | readSourceLen f =>
    obtain ⟨reply, ⟨rfl, rfl⟩, rfl⟩ := hstep
    exact ⟨h, hs⟩
  | readTargetLen f sourceLen =>
    obtain ⟨reply, ⟨rfl, rfl⟩, rfl⟩ := hstep
    refine ⟨h, ?_⟩
    simp only [MigrateStreams.afterTargetLen]
    split
    · trivial
    · exact copiesDays_verifyLoop hs _ _ _ _
  | verifySource f sourceLen targetLen verified =>
    obtain ⟨reply, ⟨rfl, rfl⟩, rfl⟩ := hstep
    exact ⟨h, hs⟩
  | verifyTarget f sourceLen targetLen verified sourceEntries =>
    obtain ⟨reply, ⟨rfl, rfl⟩, rfl⟩ := hstep
    refine ⟨h, ?_⟩
    simp only [MigrateStreams.afterVerifyTarget]
    split
    · trivial
    · exact copiesDays_verifyLoop hs _ _ _ _
  | readPage f sourceLen offset =>
    obtain ⟨reply, ⟨rfl, rfl⟩, rfl⟩ := hstep
    refine ⟨h, ?_⟩
    simp only [MigrateStreams.afterReadPage]
    split
    · trivial
    · exact ⟨hs, h.window hs _ _⟩
  | appendPage f sourceLen offset values =>
    obtain ⟨reply, hserved, rfl⟩ := hstep
    obtain ⟨hf, hvalues⟩ := hs
    simp only [Serves] at hserved
    -- the page lands in a day of the new names, or nothing is written
    split_ifs at hserved
    · obtain ⟨rfl, rfl⟩ := hserved
      refine ⟨?_, hf⟩
      obtain ⟨day, hday⟩ := hf.2
      rw [hday]
      exact h.append (isDay_append day) hvalues (List.Subset.refl _) fun entry he => Or.inl he
    · obtain ⟨⟨message, rfl⟩, rfl⟩ := hserved
      exact ⟨h, hf⟩
  | readRaced f sourceLen offset values error =>
    obtain ⟨reply, ⟨rfl, rfl⟩, rfl⟩ := hstep
    refine ⟨h, ?_⟩
    simp only [MigrateStreams.afterReadRaced]
    split
    · trivial
    · exact hs
  | lengthAfter f sourceLen offset values =>
    obtain ⟨reply, ⟨rfl, rfl⟩, rfl⟩ := hstep
    exact ⟨h, copiesDays_copyLoop hs _ _ _⟩
  | finalLen f sourceLen =>
    obtain ⟨reply, ⟨rfl, rfl⟩, rfl⟩ := hstep
    refine ⟨h, ?_⟩
    simp only [MigrateStreams.afterFinalLen]
    split
    · trivial
    · exact copiesDays_nextStream _ _
  | done result => exact hstep.elim

/-- An opener that a fault has stopped writes nothing any more. -/
theorem copiesDays_of_stops {bad : StorageResult Unit → Prop} {s : MigrateStreams}
    (h : Stops MigrateStreams.poll bad s) (c : Logged) : CopiesDays s c := by
  cases s with
  | done result => trivial
  | _ =>
    cases h with
    | ready h _ => cases h
    | goto h _ => cases h

theorem writers_stable : writers.Stable Kept CopiesDays fun c c' => c.appended ⊆ c'.appended where
  task := by
    rintro s ⟨store, appended⟩ s' ⟨store', appended'⟩ hkept hs ⟨hstep, rfl⟩
    cases hstep with
    | served hstep =>
      obtain ⟨hkept', hs'⟩ := hkept.advances hs hstep
      exact ⟨hkept', hs', List.Subset.refl _⟩
    | @failed _ _ call resume reply _ hpoll hfault heffect =>
      refine ⟨?_, copiesDays_of_stops
        (MigrateStreams.faultStops s call resume reply hpoll hfault) _,
        List.Subset.refl _⟩
      rcases heffect with heq | ⟨unseen, hserved⟩
      · obtain rfl : store' = store := heq
        exact hkept
      · -- the call took effect, though its reply was lost
        have hstep : Advances MigrateStreams.poll Serves s store (resume unseen) store' := by
          rw [Advances, hpoll]
          exact ⟨unseen, hserved, rfl⟩
        exact (hkept.advances hs hstep).1
  env := by
    intro c c' hkept henv
    refine ⟨hkept.env henv, ?_⟩
    cases henv with
    | legacy _ _ _ _ _ _ => exact List.subset_append_left _ _
    | record _ _ _ _ => exact List.subset_append_left _ _
  mono _ hgrow hs := hs.mono hgrow

/-! ## A later read -/

section Read

variable {fmt : FloatFormat} {c : Logged}

/-- What a read can reach is what was appended. -/
theorem Kept.mem_sources (h : Kept c) {entry : Entry} :
    entry ∈ (sources c.store).flatten ↔ entry ∈ c.appended := by
  have hnames : ∀ name, name ∈ dayStreams c.store ↔ name ∈ c.store.names ∧ IsDay name := by
    intro name
    rw [dayStreams, readOrder, List.mem_insertionSort, List.mem_append, List.mem_filter,
      List.mem_filter, ← and_or_left]
    rfl
  have hread : entry ∈ (sources c.store).flatten ↔ ∃ name, (name ∈ c.store.names ∧ IsDay name) ∧
      ∃ value ∈ c.store.entries name, Entry.fromValue value = some entry := by
    simp [sources, newestFirst, hnames]
  rw [hread]
  constructor
  · rintro ⟨name, ⟨_, hday⟩, value, hvalue, hparse⟩
    obtain ⟨entry', hentry', hparse'⟩ := h.readable name hday value hvalue
    rw [hparse, Option.some.injEq] at hparse'
    rwa [hparse']
  · intro hentry
    obtain ⟨name, hday, value, hvalue, hparse⟩ := h.retained entry hentry
    exact ⟨name, ⟨h.listed name hday (List.ne_nil_of_mem hvalue), hday⟩, value, hvalue, hparse⟩

/-- A reader that may take as many entries as were appended finds each once. -/
theorem Kept.gather_perm (h : Kept c) (hkeys : (c.appended.map (archiveEntryKey fmt)).Nodup) {n : ℕ}
    (hn : c.appended.length ≤ n) :
    (gather (archiveEntryKey fmt) n [] (sources c.store)).Perm c.appended := by
  obtain ⟨found, hfound⟩ : ∃ found,
    found = gather (archiveEntryKey fmt) n [] (sources c.store) := ⟨_, rfl⟩
  rw [← hfound]
  have hdistinct : (found.map (archiveEntryKey fmt)).Nodup := by
    rw [hfound]
    exact nodup_gather List.nodup_nil
  have hsub : found ⊆ c.appended := by
    intro entry hentry
    rw [hfound] at hentry
    rw [← h.mem_sources]
    simpa using gather_sublist.mem hentry
  have hsubperm : found.Subperm c.appended := (List.Nodup.of_map _ hdistinct).subperm hsub
  -- a read that stopped early has as many entries as were appended
  by_cases hfull : c.appended.length ≤ found.length
  · exact hsubperm.perm_of_length_le hfull
  refine List.perm_of_nodup_nodup_toFinset_eq ?_ ?_ ?_
  · exact List.Nodup.of_map _ hdistinct
  · exact List.Nodup.of_map _ hkeys
  · ext entry
    rw [List.mem_toFinset, List.mem_toFinset]
    refine ⟨fun hentry => hsub hentry, fun hentry => ?_⟩
    have hcovered : Covered (archiveEntryKey fmt) (fun _ => 0) n found entry := by
      rw [hfound]
      refine covered_gather ?_ ?_ (h.mem_sources.mpr hentry)
      · intro source _
        exact List.pairwise_of_forall fun _ _ => le_rfl
      · intro pre source post _ a ha _ b _ _
        exact ⟨a, ha, rfl, le_rfl⟩
    rcases hcovered with ⟨a, ha, hkey, _⟩ | hcount
    · rwa [← List.inj_on_of_nodup_map hkeys (hsub ha) hentry hkey]
    · have hle : n ≤ found.length := hcount.trans List.countP_le_length
      omega

end Read

/-- Where the appended deliveries have different keys, a read whose limit they do
not exceed returns each of them once, and nothing else. -/
def KeepsHistory (fmt : FloatFormat) (c : Logged) : Prop :=
  (c.appended.map (archiveEntryKey fmt)).Nodup → ∀ n, c.appended.length ≤ n →
    ∀ sort sealing lastAppend now_ms today, ∃ result,
      listRecent fmt sort (streamPort c.store sealing lastAppend) now_ms today (some n) =
        .ok result ∧ result.entries.Perm c.appended

theorem Kept.keepsHistory {fmt : FloatFormat} {c : Logged} (h : Kept c) : KeepsHistory fmt c := by
  intro hkeys n hn sort sealing lastAppend now_ms today
  refine ⟨_, listRecent_eq fmt sort c.store sealing lastAppend now_ms today (some n), ?_⟩
  rw [Option.getD_some]
  obtain ⟨m, hm⟩ : ∃ m, m = max n 1 := ⟨_, rfl⟩
  have hperm := h.gather_perm hkeys (show c.appended.length ≤ m by omega)
  rw [← hm, List.take_of_length_le]
  · exact (sort.perm _).trans hperm
  · rw [(sort.perm _).length_eq, hperm.length_eq]
    omega

/-- Storage without day streams. -/
def NoDays (c : Logged) : Prop :=
  c.appended = [] ∧ ∀ name, IsDay name → c.store.entries name = []

/-- However openers migrate and writers append, no delivery is lost or repeated. -/
theorem history_kept {ι : Type} [DecidableEq ι] {c₀ c : Config ι MigrateStreams Logged}
    (fmt : FloatFormat) (hstart : ∀ i, c₀.tasks i = .listing) (hempty : NoDays c₀.store)
    (hrun : writers.Run c₀ c) : KeepsHistory fmt c.store := by
  have hinit : c₀.Holds Kept CopiesDays := by
    refine ⟨⟨?_, ?_, ?_⟩, fun i => ?_⟩
    · intro name hday value hvalue
      rw [hempty.2 name hday] at hvalue
      exact absurd hvalue List.not_mem_nil
    · intro entry hentry
      rw [hempty.1] at hentry
      exact absurd hentry List.not_mem_nil
    · intro name hday hne
      exact absurd (hempty.2 name hday) hne
    · rw [hstart i]
      trivial
  exact (writers_stable.reachable hinit hrun).1.keepsHistory

/-! An opener between a legacy writer and `record`. -/

section Example

/-- Openers take the same steps among the writers. -/
theorem writers_alone {s s' : MigrateStreams} {store store' : Store}
    (h : copiers.Alone (s, store) (s', store')) (appended : List Entry) :
    writers.Alone (s, ⟨store, appended⟩) (s', ⟨store', appended⟩) :=
  h.lift (fun p : MigrateStreams × Store => (p.1, (⟨p.2, appended⟩ : Logged)))
    fun _ _ hstep => ⟨.served hstep, rfl⟩

/-- Storage after a legacy writer has appended a delivery. -/
def writtenStore : Store := Store.empty.append dayFrame.source [(delivery 0).toValue]

theorem entries_writtenStore_source :
    writtenStore.entries dayFrame.source = [(delivery 0).toValue] := by
  rw [writtenStore, Store.entries_append, if_pos rfl]
  rfl

theorem entries_writtenStore_target : writtenStore.entries dayFrame.target = [] := by
  rw [writtenStore, Store.entries_append, if_neg dayTarget_ne_source]
  rfl

theorem legacyStreams_writtenStore : writtenStore.legacyStreams = [dayFrame.source] :=
  List.filter_cons_of_pos isLegacyStream_day

/-- The copy of that delivery. -/
def migratedStore : Store := writtenStore.append dayFrame.target [(delivery 0).toValue]

/-- Behind the copy, `record` has appended another one. -/
def twoWriters : Logged where
  store := migratedStore.append dayFrame.target [(delivery 1).toValue]
  appended := [delivery 0, delivery 1]

/-- The opener has copied the day by then, and returns after it. -/
theorem twoWriters_run : writers.Run (ι := Unit) ⟨fun _ => .listing, ⟨Store.empty, []⟩⟩
    ⟨fun _ => .done (.ok ()), twoWriters⟩ := by
  have hsys : ∀ s store s' store', Advances MigrateStreams.poll Serves s store s' store' →
      NoGap store s → copiers.task s store s' store' := fun _ _ _ _ h _ => h
  have hlegacy : Append ⟨Store.empty, []⟩ ⟨writtenStore, [delivery 0]⟩ := by
    have happend := Append.legacy Store.empty [] "2026-10-15" _ _ (fromValue_toValue (delivery 0))
    rwa [show LEGACY_STREAM_PREFIX ++ "2026-10-15" = dayFrame.source by decide] at happend
  have hrecord : Append ⟨migratedStore, [delivery 0]⟩ twoWriters := by
    obtain ⟨day, hday⟩ := dayTarget_eq
    have happend := Append.record migratedStore [delivery 0] day (delivery 1)
    rwa [← hday] at happend
  have hpage : ((writtenStore.entries dayFrame.source).drop 0).take PAGE_SIZE =
      [(delivery 0).toValue] := by
    rw [entries_writtenStore_source]
    rfl
  have hempty : (writtenStore.entries dayFrame.target).length = 0 := by
    rw [entries_writtenStore_target, List.length_nil]
  have hone : (writtenStore.entries dayFrame.source).length = 1 := by
    rw [entries_writtenStore_source, List.length_singleton]
  have hcopied : copiers.Alone (.listing, writtenStore)
      (.lengthAfter dayFrame 1 0 [(delivery 0).toValue], migratedStore) :=
    (day_opened hsys legacyStreams_writtenStore hone Nat.one_pos
      entries_writtenStore_target).trans <|
      (day_read hsys hpage (List.cons_ne_nil _ _)).trans (day_appended hsys hempty)
  have hreturned : copiers.Alone (.lengthAfter dayFrame 1 0 [(delivery 0).toValue],
      twoWriters.store)
      (.done (.ok ()), twoWriters.store) := by
    refine day_copied hsys ?_ rfl ?_ id
    · rw [twoWriters, entries_append_daySource, migratedStore, entries_append_daySource, hone]
    · rw [twoWriters, entries_append_dayTarget, List.length_append, List.length_singleton]
      exact Nat.le_add_left 1 _
  exact ((Relation.ReflTransGen.single (.env hlegacy)).trans (writers_alone hcopied _).run).trans
    (.head (.env hrecord) (writers_alone hreturned _).run)

/-- Each of the two deliveries is read once, the migrated one as well. -/
theorem history_kept_twoWriters : KeepsHistory Json.fractionFormat twoWriters :=
  history_kept Json.fractionFormat (fun _ => rfl) ⟨rfl, fun _ _ => rfl⟩ twoWriters_run

end Example

end Archive
