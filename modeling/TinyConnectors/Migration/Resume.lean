/-
# Cutting a preparation off

`prepare` may be cut off anywhere, and any call may fail with or without having
taken effect.  Whatever a run has written by then is part of what a whole run
comes to (`Cut`), so any number of aborted runs lead to a store from which the
next one finishes as the first would have.
-/
import TinyConnectors.Migration.Follow
import TinyConnectors.Migration.PrepareStorage

open Await Relation

/-! ## What preparing leaves alone -/

/-- Every legacy row, or stream, of a step has its target. -/
def StepSettled (port : KeyPort) (store : Store) : MigrationStep → Prop
  | .prefs => ∀ source ∈ store.legacyRows, IsSettled port store.targets source
  | .streams => ∀ source ∈ store.legacyStreams,
      store.entries (targetOf source) = store.entries source

/-- What holds between a store and the same store at any later point of any
number of runs of `prepare`, complete or not. -/
structure Resumes (port : KeyPort) (store store' : Store) : Prop where
  /-- The legacy rows and streams are never modified. -/
  legacyRows : store'.legacyRows = store.legacyRows
  legacyStreams : store'.legacyStreams = store.legacyStreams
  legacyEntries : ∀ name, IsLegacyStream name → store'.entries name = store.entries name
  /-- A target that was there stays, and any other is the copy of a legacy row. -/
  targets : CopiedTargets port store store'
  /-- A stream has grown within the legacy stream it is the target of, or not at all. -/
  streams : ∀ name, store'.entries name = store.entries name ∨
    ∃ source ∈ store.legacyStreams, name = targetOf source ∧
      store.entries name <+: store'.entries name ∧ store'.entries name <+: store.entries source
  /-- No marker has been written before its step was settled. -/
  marked : ∀ step, store'.contents.markerOf step = store.contents.markerOf step ∨
    StepSettled port store' step

section
variable {port : KeyPort} {store store' store'' : Store} {step : MigrationStep}

theorem Resumes.refl : Resumes port store store :=
  ⟨rfl, rfl, fun _ _ => rfl, fun _ => .inl rfl, fun _ => .inl rfl, fun _ => .inl rfl⟩

/-- A settled step stays settled. -/
theorem StepSettled.mono (h : Resumes port store store') (hsettled : StepSettled port store step) :
    StepSettled port store' step := by
  cases step with
  | prefs =>
    intro source hsource
    rw [h.legacyRows] at hsource
    obtain ⟨id, hkey, hsome⟩ := hsettled source hsource
    refine ⟨id, hkey, ?_⟩
    rcases h.targets id with hsame | ⟨hnone, -⟩
    · rw [hsame]
      exact hsome
    · rw [hnone] at hsome
      cases hsome
  | streams =>
    intro source hsource
    rw [h.legacyStreams] at hsource
    have hcomplete : store.entries (targetOf source) = store.entries source :=
      hsettled source hsource
    rw [h.legacyEntries source (mem_legacyStreams hsource)]
    rcases h.streams (targetOf source) with hsame | ⟨other, hother, htarget, hgrown, hwithin⟩
    · rw [hsame, hcomplete]
    · obtain rfl :=
        targetOf_injective (mem_legacyStreams hsource) (mem_legacyStreams hother) htarget
      rw [hcomplete] at hgrown
      exact hwithin.eq_of_length_le hgrown.length_le

theorem Resumes.trans (h : Resumes port store store') (h' : Resumes port store' store'') :
    Resumes port store store'' where
  legacyRows := h'.legacyRows.trans h.legacyRows
  legacyStreams := h'.legacyStreams.trans h.legacyStreams
  legacyEntries name hname := (h'.legacyEntries name hname).trans (h.legacyEntries name hname)
  targets id := by
    rcases h'.targets id with hsame | ⟨hnone, source, hsource, hkey, hcopy⟩
    · rw [hsame]
      exact h.targets id
    · rw [h.legacyRows] at hsource
      refine .inr ⟨?_, source, hsource, hkey, hcopy⟩
      rcases h.targets id with hsame | ⟨hnone', -⟩
      · rw [← hsame, hnone]
      · exact hnone'
  streams name := by
    rcases h'.streams name with hsame | ⟨source, hsource, hname, hgrown, hwithin⟩
    · rw [hsame]
      exact h.streams name
    · rw [h.legacyStreams] at hsource
      rw [h.legacyEntries source (mem_legacyStreams hsource)] at hwithin
      refine .inr ⟨source, hsource, hname, ?_, hwithin⟩
      rcases h.streams name with hsame | ⟨other, -, -, hgrown', -⟩
      · rw [← hsame]
        exact hgrown
      · exact hgrown'.trans hgrown
  marked step := by
    rcases h'.marked step with hsame | hsettled
    · rw [hsame]
      exact (h.marked step).imp_right (StepSettled.mono h')
    · exact .inr hsettled

/-- Migrating preferences leaves alone what `prepare` does. -/
theorem SameSettlement.resumes (h : SameSettlement port store store') :
    Resumes port store store' where
  legacyRows := h.legacyRows
  legacyStreams := by rw [Store.legacyStreams, Store.legacyStreams, h.names]
  legacyEntries name _ := congrFun h.entries name
  targets := h.copied
  streams name := .inl (congrFun h.entries name)
  marked step := .inl (by rw [h.contents]; rfl)

/-- So does migrating streams. -/
theorem SameStreams.resumes (h : SameStreams store store') : Resumes port store store' where
  legacyRows := by
    unfold Store.legacyRows Store.listing
    rw [h.collections]
  legacyStreams := h.listed
  legacyEntries := h.legacy
  targets id := .inl (by rw [Store.targets, Store.content, Store.row, h.collections]; rfl)
  streams name := by
    refine (h.within name).imp_right ?_
    rintro ⟨source, hsource, hname, hwithin⟩
    exact ⟨source, hsource, hname, h.grows name, hwithin⟩
  marked step := .inl (by rw [h.contents]; rfl)

/-- So does marking a settled step. -/
theorem resumes_mark {version : Version} (h : StepSettled port store step) :
    Resumes port store (store.put MIGRATIONS_NAMESPACE step.id step.marker none version) := by
  have hother : ∀ collection, collection ≠ MIGRATIONS_NAMESPACE →
      (store.put MIGRATIONS_NAMESPACE step.id step.marker none version).collections collection =
        store.collections collection := fun collection hne => Function.update_of_ne hne _ _
  have hrows : (store.put MIGRATIONS_NAMESPACE step.id step.marker none version).legacyRows =
      store.legacyRows := by
    unfold Store.legacyRows Store.listing
    rw [hother _ (by decide)]
  have htargets : (store.put MIGRATIONS_NAMESPACE step.id step.marker none version).targets =
      store.targets := by
    funext id
    unfold Store.targets Store.content Store.row
    rw [hother _ (by decide)]
  refine ⟨hrows, rfl, fun _ _ => rfl, fun id => .inl (congrFun htargets id), fun _ => .inl rfl,
    fun other => ?_⟩
  by_cases hsame : other = step
  · subst hsame
    refine .inr ?_
    cases other with
    | prefs =>
      intro source hsource
      rw [hrows] at hsource
      rw [htargets]
      exact h source hsource
    | streams => exact h
  · rw [contents_mark, StoreContents.markerOf_mark_of_ne hsame]
    exact .inl rfl

end

/-! ## Preparing alone -/

namespace PrepareStorage

section
variable {port : KeyPort} {store : Store} {step : MigrationStep} {crash : Store → Prop}
  {post : StorageResult Unit → Store → Prop}

theorem markerOf_contents (store : Store) (step : MigrationStep) : store.contents.markerOf step =
    (store.row MIGRATIONS_NAMESPACE step.id).map fun row => row.doc := by
  show ((store.row MIGRATIONS_NAMESPACE step.id).map Row.content).map Prod.fst = _
  rw [Option.map_map]
  rfl

/-- The three ways on from `done`. -/
theorem finishes_checkDone (hcrash : crash store)
    (herror : ∀ error, step.isDone (store.contents.markerOf step) = .error error →
      post (.error error) store)
    (hdone : step.isDone (store.contents.markerOf step) = .ok true →
      Finishes (poll port) Serves crash post (nextStep step) store)
    (hrun : store.contents.markerOf step = none →
      Finishes (poll port) Serves crash post (runStep step) store) :
    Finishes (poll port) Serves crash post (.checkDone step) store := by
  refine .pending rfl hcrash (exists_reply _ _ fun _ _ => nofun) ?_
  rintro reply s ⟨rfl, rfl⟩
  have hfound :
      ((s.row MIGRATIONS_NAMESPACE step.id).map fun row => (⟨row, step.id⟩ : Versioned)).map
      (fun record => record.doc) = s.contents.markerOf step := by
    rw [markerOf_contents, Option.map_map]
    rfl
  simp only [afterCheckDone, hfound]
  cases h : step.isDone (s.contents.markerOf step) with
  | error error => exact .ready rfl hcrash (herror error h)
  | ok value =>
    cases value with
    | true => exact hdone h
    | false => exact hrun (MigrationStep.isDone_eq_false h)

/-- Alone, `mark_done` writes the marker. -/
theorem finishes_markDone (hcrash : crash store) (habsent : store.contents.markerOf step = none)
    (hnext : ∀ version, Finishes (poll port) Serves crash post (nextStep step)
      (store.put MIGRATIONS_NAMESPACE step.id step.marker none version)) :
    Finishes (poll port) Serves crash post (.markDone step) store := by
  refine .pending rfl hcrash (exists_reply _ _ fun _ _ => nofun) ?_
  intro reply s hserved
  have hrow : Precondition.absent.holds (store.row MIGRATIONS_NAMESPACE step.id) = true := by
    rw [markerOf_contents, Option.map_eq_none_iff] at habsent
    rw [habsent]
    rfl
  simp only [Serves] at hserved
  rw [if_pos hrow] at hserved
  obtain ⟨version, -, rfl, rfl⟩ := hserved
  exact hnext version

/-- Cut off in its second step, `prepare` has kept its first marker, and the
second step comes to the same. -/
def StreamsCut (port : KeyPort) (store s : Store) : Prop :=
  Resumes port store s ∧ s.contents.markerOf .prefs = store.contents.markerOf .prefs ∧
    streamsStep store.legacyStreams s.contents = streamsStep store.legacyStreams store.contents

/-- The second step alone. -/
theorem finishes_streams : Finishes (poll port) Serves (StreamsCut port store)
    (fun result s => streamsStep store.legacyStreams store.contents = (result, s.contents))
    (.checkDone .streams) store := by
  refine finishes_checkDone ⟨.refl, rfl, rfl⟩ ?_ ?_ ?_
  · intro error h
    exact stepOutcome_of_error h
  · intro h
    exact .ready rfl ⟨.refl, rfl, rfl⟩ (stepOutcome_of_done h)
  · intro hnone
    have hmarker : ∀ step s, SameStreams store s →
        s.contents.markerOf step = store.contents.markerOf step := by
      intro step s h
      rw [h.contents]
      rfl
    -- cut off anywhere, the copy has done a part of what a whole one does
    have hcut : ∀ s, SameStreams store s → StreamsCut port store s := by
      intro s h
      refine ⟨h.resumes, hmarker .prefs s h, stepOutcome_congr hnone ?_ ?_⟩
      · rw [hmarker .streams s h, hnone]
      · simp only [streamsOutcome, h.contents]
        show ((settleStreams store.legacyStreams s.entries).1,
          store.contents.withEntries (settleStreams store.legacyStreams s.entries).2) = _
        rw [h.settlement]
        rfl
    refine Finishes.embed (poll_migrateStreams port)
      (MigrateStreams.finishes_listing.weaken hcut fun _ _ _ hpost => hpost) ?_
    intro result s hs hmigrated
    have hsettle : streamsOutcome store.legacyStreams store.contents = (result, s.contents) := by
      rw [hmigrated.contents]
      show ((settleStreams store.legacyStreams store.entries).1,
        store.contents.withEntries (settleStreams store.legacyStreams store.entries).2) = _
      rw [hmigrated.outcome]
    cases result with
    -- a copy that failed marks nothing
    | error error => exact .ready rfl hs (stepOutcome_of_settle_error hnone hsettle)
    | ok value =>
      have hsettled : StepSettled port s .streams := by
        intro source hsource
        rw [hmigrated.listed] at hsource
        exact hmigrated.settled rfl source hsource
      have hwhole : streamsStep store.legacyStreams store.contents =
          (.ok (), s.contents.mark .streams) :=
        stepOutcome_of_settle_ok hnone hsettle
      refine finishes_markDone hs ?_ fun version => .ready rfl ⟨?_, ?_, ?_⟩ ?_
      · rw [hmarker .streams s hmigrated.toSameStreams, hnone]
      · exact hmigrated.resumes.trans (resumes_mark hsettled)
      · rw [contents_mark, StoreContents.markerOf_mark_of_ne (by decide)]
        exact hs.2.1
      · rw [contents_mark, hwhole]
        refine stepOutcome_of_done ?_
        rw [StoreContents.markerOf_mark, MigrationStep.isDone_marker]
      · rw [contents_mark]
        exact hwhole

/-- Cut off anywhere, `prepare` comes to the same when it is run again. -/
def Cut (port : KeyPort) (store s : Store) : Prop :=
  Resumes port store s ∧ prepareOutcome port store.legacyRows store.legacyStreams s.contents =
    prepareOutcome port store.legacyRows store.legacyStreams store.contents

/-- Both steps alone. -/
theorem finishes_start : Finishes (poll port) Serves (Cut port store)
    (fun result s => prepareOutcome port store.legacyRows store.legacyStreams store.contents =
      (result, s.contents)) start store := by
  refine finishes_checkDone ⟨.refl, rfl⟩ ?_ ?_ ?_
  · intro error h
    exact stepOutcome_of_error h
  · intro h
    refine finishes_streams.weaken ?_ ?_
    · rintro s ⟨hresumes, hmarker, hsame⟩
      refine ⟨hresumes, ?_⟩
      rw [prepareOutcome, stepOutcome_of_done h, stepOutcome_of_done (hmarker ▸ h), hsame]
    · intro result s _ hpost
      rw [prepareOutcome, stepOutcome_of_done h]
      exact hpost
  · intro hnone
    have hmarker : ∀ step s, SameSettlement port store s →
        s.contents.markerOf step = store.contents.markerOf step := by
      intro step s h
      rw [h.contents]
      rfl
    have hcut : ∀ s, SameSettlement port store s → Cut port store s := by
      intro s h
      refine ⟨h.resumes, stepOutcome_congr hnone ?_ ?_⟩
      · rw [hmarker .prefs s h, hnone]
      · simp only [preferencesOutcome, h.contents, StoreContents.rows_withTargets,
          StoreContents.withTargets_withTargets, h.settlement]
        rfl
    refine Finishes.embed (poll_migratePreferences port)
      (MigratePreferences.finishes_start.weaken hcut fun _ _ _ hpost => hpost) ?_
    intro result s hs hmigrated
    have hsettle : preferencesOutcome port store.legacyRows store.contents =
        (result, s.contents) := by
      rw [hmigrated.contents]
      show ((settleRows port store.legacyRows store.targets).1,
        store.contents.withTargets (settleRows port store.legacyRows store.targets).2) = _
      rw [hmigrated.outcome]
    cases result with
    | error error => exact .ready rfl hs (stepOutcome_of_settle_error hnone hsettle)
    | ok value =>
      have hsettled : StepSettled port s .prefs := by
        intro source hsource
        rw [hmigrated.legacyRows] at hsource
        exact hmigrated.settled rfl source hsource
      refine finishes_markDone hs ?_ fun version => ?_
      · rw [hmarker .prefs s hmigrated.toSameSettlement, hnone]
      -- from here on the first step is done
      have hresumes : Resumes port store (s.put MIGRATIONS_NAMESPACE MigrationStep.prefs.id
          MigrationStep.prefs.marker none version) :=
        hmigrated.resumes.trans (resumes_mark hsettled)
      have hwhole : prepareOutcome port store.legacyRows store.legacyStreams store.contents =
          streamsStep store.legacyStreams (s.contents.mark .prefs) :=
        stepOutcome_of_settle_ok hnone hsettle
      refine finishes_streams.weaken ?_ ?_
      · rintro t ⟨hlater, hkept, hsame⟩
        refine ⟨hresumes.trans hlater, ?_⟩
        rw [contents_mark, StoreContents.markerOf_mark] at hkept
        rw [hresumes.legacyStreams, contents_mark] at hsame
        rw [hwhole, ← hsame]
        refine stepOutcome_of_done ?_
        rw [hkept, MigrationStep.isDone_marker]
      · intro result t _ hpost
        rw [hresumes.legacyStreams, contents_mark] at hpost
        rw [hwhole]
        exact hpost

end

end PrepareStorage

/-! ## Aborted runs -/

/-- A run of `prepare` in which calls may fail, cut off anywhere. -/
def Attempt (port : KeyPort) (store store' : Store) : Prop :=
  ∃ s, ReflTransGen (FaultyStep (PrepareStorage.poll port) Serves IsFault)
    (PrepareStorage.start, store) (s, store')

/-- Any number of them, one after another. -/
def Attempts (port : KeyPort) : Store → Store → Prop := ReflTransGen (Attempt port)

/-- Every run of `prepare` in which no call fails ends, with this result and these contents. -/
def PrepareGives (port : KeyPort) (store : Store) (result : StorageResult Unit)
    (contents : StoreContents) : Prop :=
  Finishes (PrepareStorage.poll port) Serves (fun _ => True)
    (fun r s => r = result ∧ s.contents = contents) .start store

section
variable {port : KeyPort} {store store' : Store}

theorem PrepareStorage.Cut.trans {store'' : Store} (h : Cut port store store')
    (h' : Cut port store' store'') : Cut port store store'' := by
  obtain ⟨hresumes, hsame⟩ := h
  obtain ⟨hresumes', hsame'⟩ := h'
  rw [hresumes.legacyRows, hresumes.legacyStreams] at hsame'
  exact ⟨hresumes.trans hresumes', hsame'.trans hsame⟩

/-- Wherever a run is cut off, it can be resumed. -/
theorem Attempt.cut (h : Attempt port store store') : PrepareStorage.Cut port store store' := by
  obtain ⟨s, hrun⟩ := h
  exact PrepareStorage.finishes_start.crash_of_run (PrepareStorage.faultStops port) hrun

/-- So can any number of runs. -/
theorem Attempts.cut (h : Attempts port store store') : PrepareStorage.Cut port store store' := by
  induction h with
  | refl => exact ⟨.refl, rfl⟩
  | tail _ hlast ih => exact ih.trans hlast.cut

theorem prepareGives (port : KeyPort) (store : Store) :
    PrepareGives port store (prepareOutcome port store.legacyRows store.legacyStreams
      store.contents).1
      (prepareOutcome port store.legacyRows store.legacyStreams store.contents).2 := by
  refine PrepareStorage.finishes_start.weaken (fun _ _ => trivial) ?_
  intro result s _ hpost
  rw [hpost]
  exact ⟨rfl, rfl⟩

/-- Whatever fails in however many runs, nothing but migrated targets and the
markers of settled steps has been written, and the next run without a failure
ends as one from the start would have. -/
theorem prepare_resumes (h : Attempts port store store') : Resumes port store store' ∧
    ∃ result contents, PrepareGives port store result contents ∧
      PrepareGives port store' result contents := by
  obtain ⟨hresumes, hsame⟩ := h.cut
  refine ⟨hresumes, _, _, prepareGives port store, ?_⟩
  have hgives := prepareGives port store'
  rw [hresumes.legacyRows, hresumes.legacyStreams, hsame] at hgives
  exact hgives

end

/-- The target of `legacyStore` written by a call that reports a failure. -/
def interruptedStore : Store :=
  legacyStore.put PREFS_NAMESPACE "gmail" (preferenceBody legacyGmail.doc) none 1

theorem legacyKey_gmail : legacyKey shortKeyPort ["gmail"] = .ok "gmail" := by
  have hlen : byteLen "gmail".toList = 5 := by decide
  have hplain : PlainKey "gmail" :=
    ⟨by simp [PlainChar], by decide, by rw [hlen, MAX_ID_LEN]; omega⟩
  rw [shortKeyPort_acceptsEncoded.legacyKey (by decide), legacyId_of_plainKey hplain]

/-- A run that is cut off by that failure. -/
theorem attempt_gmail : Attempt shortKeyPort legacyStore interruptedStore := by
  have hcheck : Advances (PrepareStorage.poll shortKeyPort) Serves .start legacyStore
      (.migratePreferences .start) legacyStore :=
    ⟨.ok none, ⟨rfl, rfl⟩, rfl⟩
  have hquery : Advances (PrepareStorage.poll shortKeyPort) Serves (.migratePreferences .start)
      legacyStore (.migratePreferences (.nextRecord [legacyGmail] none)) legacyStore :=
    ⟨.ok ⟨[legacyGmail], none⟩,
      ⟨⟨_, ⟨1, by decide, rfl, (by intro h; cases h), .inr ⟨rfl, rfl⟩⟩, rfl⟩, rfl⟩, rfl⟩
  have hrecord : Advances (PrepareStorage.poll shortKeyPort) Serves
      (.migratePreferences (.nextRecord [legacyGmail] none)) legacyStore
      (.migratePreferences (.migrate [] none (.start "gmail" legacyGmail))) legacyStore := by
    have hstate : MigratePreferences.nextState shortKeyPort [legacyGmail] none =
        .migrate [] none (.start "gmail" legacyGmail) := by
      rw [MigratePreferences.nextState, show legacyGmail.id = "gmail" from rfl, legacyKey_gmail]
    rw [← hstate]
    exact ⟨rfl, rfl⟩
  have hserved : Serves (MigratePreference.putPreference "gmail" (preferenceBody legacyGmail.doc)
      none .absent) legacyStore (.ok 1) interruptedStore :=
    ⟨1, by decide, rfl, rfl⟩
  refine ⟨_, .tail (.tail (.tail (.tail .refl (.served hcheck)) (.served hquery)) (.served hrecord))
    (.failed rfl ⟨.backend "", rfl, rfl⟩ (.inr ⟨_, hserved⟩))⟩

/-- The interrupted migration of one row. -/
theorem prepare_resumes_gmail : Resumes shortKeyPort legacyStore interruptedStore ∧
    ∃ result contents, PrepareGives shortKeyPort legacyStore result contents ∧
      PrepareGives shortKeyPort interruptedStore result contents :=
  prepare_resumes (.single attempt_gmail)
