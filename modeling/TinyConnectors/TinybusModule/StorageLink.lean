/-
# The link to the host's storage

`tinybus_module/storage.rs`: every member that stores anything goes through
`StorageLink::scoped`, which connects to the host's storage and migrates it the first
time and hands out what it has from then on.  Callers come at any time, connecting may
fail, so may each call of the migration, and a caller may be given up anywhere.
`scoped` is an initialisation behind a lock, so what is known of aborted migrations that
run one after another holds of any number of callers at once.
-/
import TinyConnectors.Migration.Resume
import TinyConnectors.OnceInit

open Await OnceInit Relation

/-- The scoped handle `connect_storage` gives. -/
abbrev StorageHandle := ℕ

/-- Where `scoped` is suspended, with the lock held. -/
inductive Scoped where
  /-- `connect_storage`. -/
  | connecting
  /-- `migration::prepare`, over the storage it has connected to. -/
  | preparing (handle : StorageHandle) (call : PrepareStorage)
  | failed (error : StorageError)

/-- `format!("storage migration failed: {error}")`, of the same kind. -/
def StorageError.migrationFailed (display : StorageError → String) : StorageError → StorageError
  | .conflict m => .conflict ("storage migration failed: " ++ display (.conflict m))
  | .invalidInput m => .invalidInput ("storage migration failed: " ++ display (.invalidInput m))
  | .backend m => .backend ("storage migration failed: " ++ display (.backend m))

namespace Scoped

/-- One step of whoever has the lock. -/
inductive Step (port : KeyPort) : Scoped × Store → Scoped × Store → Prop where
  | connected (store : Store) (handle : StorageHandle) :
      Step port (.connecting, store) (.preparing handle .start, store)
  | refused (store : Store) (error : StorageError) :
      Step port (.connecting, store) (.failed error, store)
  | prepare {store store' : Store} (handle : StorageHandle) {call call' : PrepareStorage}
      (h : FaultyStep (PrepareStorage.poll port) Serves IsFault (call, store) (call', store')) :
      Step port (.preparing handle call, store) (.preparing handle call', store')

/-- What `scoped` returns, once there is something. -/
def result (port : KeyPort) (display : StorageError → String) :
    Scoped → Option (StorageResult StorageHandle)
  | .connecting => none
  | .failed error => some (.error error)
  | .preparing handle call =>
    match PrepareStorage.poll port call with
    | .ready (.ok _) => some (.ok handle)
    | .ready (.error error) => some (.error (error.migrationFailed display))
    | _ => none

/-- The part of `scoped` behind an empty slot. -/
def opening (port : KeyPort) (display : StorageError → String) :
    Init Scoped Store StorageError StorageHandle where
  start := .connecting
  step := Step port
  result := result port display

/-- Callers of `scoped`, with the store they share. -/
abbrev Callers (ι : Type) := Shared Scoped Store StorageError StorageHandle ι

/-! ## One caller with the lock -/

/-- What a caller is in the middle of: it has not touched the store, or it migrates it. -/
def Opens (port : KeyPort) (store : Store) : Scoped × Store → Prop
  | (.connecting, s) => s = store
  | (.failed _, s) => s = store
  | (.preparing _ call, s) =>
    ReflTransGen (FaultyStep (PrepareStorage.poll port) Serves IsFault) (.start, store) (call, s)

section
variable {port : KeyPort} {display : StorageError → String} {store store' : Store}

theorem Opens.step {p q : Scoped × Store} (hp : Opens port store p) (hstep : Step port p q) :
    Opens port store q := by
  cases hstep with
  | connected s handle =>
    rw [show s = store from hp]
    exact ReflTransGen.refl
  | refused s error => exact hp
  | prepare handle h => exact ReflTransGen.tail hp h

theorem Opens.run {p : Scoped × Store}
    (hrun : ReflTransGen (Step port) (.connecting, store) p) : Opens port store p := by
  induction hrun with
  | refl => exact rfl
  | tail _ hstep ih => exact ih.step hstep

/-- A caller cut off anywhere has run `prepare` as far as that goes. -/
theorem attempt_prepare (h : (opening port display).Attempt store store') :
    Attempts port store store' := by
  obtain ⟨state, hrun⟩ := h
  have hopens := Opens.run hrun
  cases state with
  | connecting => exact hopens ▸ ReflTransGen.refl
  | failed error => exact hopens ▸ ReflTransGen.refl
  | preparing handle call => exact .single ⟨call, hopens⟩

/-- So have any number of them, one after another. -/
theorem attempts_prepare (h : (opening port display).Attempts store store') :
    Attempts port store store' := by
  induction h with
  | refl => exact ReflTransGen.refl
  | tail _ hlast ih => exact ih.trans (attempt_prepare hlast)

/-- Who has opened the storage has run `prepare` to its end without a fault. -/
theorem makes_prepare {handle : StorageHandle}
    (h : (opening port display).Makes store handle store') :
    prepareOutcome port store.legacyRows store.legacyStreams store.contents =
      (.ok (), store'.contents) ∧ Attempts port store store' := by
  obtain ⟨state, hrun, hresult⟩ := h
  have hopens := Opens.run hrun
  cases state with
  | connecting => cases hresult
  | failed error => cases hresult
  | preparing held call =>
    refine ⟨?_, .single ⟨call, hopens⟩⟩
    have hready : PrepareStorage.poll port call = .ready (.ok ()) := by
      simp only [opening, result] at hresult
      split at hresult
      · assumption
      · cases hresult
      · cases hresult
    refine PrepareStorage.finishes_start.post_of_faultyRun
      (PrepareStorage.faultStops port) hopens hready ?_
    rintro ⟨error, herror⟩
    cases herror

end

/-! ## All callers -/

section
variable {step : MigrationStep} {settle next : Outcome} {c c' : StoreContents}

/-- A step that succeeds has its marker when the next one starts. -/
theorem isDone_of_stepOutcome (h : stepOutcome step settle next c = (.ok (), c')) :
    ∃ d, step.isDone (d.markerOf step) = .ok true ∧ next d = (.ok (), c') ∧
      (d = c ∨ ∃ e, settle c = (.ok (), e) ∧ d = e.mark step) := by
  unfold stepOutcome at h
  split at h
  · cases h
  · rename_i hdone
    exact ⟨c, hdone, h, .inl rfl⟩
  · split at h
    · cases h
    · rename_i e hsettle
      refine ⟨e.mark step, ?_, h, .inr ⟨e, hsettle, rfl⟩⟩
      rw [StoreContents.markerOf_mark, MigrationStep.isDone_marker]

/-- A migration that has come to its end has marked both steps. -/
theorem isDone_of_prepareOutcome {port : KeyPort} {rows : List Versioned} {names : List String}
    (h : prepareOutcome port rows names c = (.ok (), c')) :
    step.isDone (c'.markerOf step) = .ok true := by
  obtain ⟨d, hprefs, hstreams, -⟩ := isDone_of_stepOutcome h
  obtain ⟨e, hdone, hlast, hsettled⟩ := isDone_of_stepOutcome hstreams
  obtain rfl : e = c' := congrArg Prod.snd hlast
  cases step with
  | streams => exact hdone
  | prefs =>
    -- the second step has left the first marker as it was
    rcases hsettled with rfl | ⟨f, hsettle, rfl⟩
    · exact hprefs
    · have hkept : f.markerOf .prefs = d.markerOf .prefs := by
        have hf : f = (streamsOutcome names d).2 := (congrArg Prod.snd hsettle).symm
        rw [hf]
        rfl
      rw [StoreContents.markerOf_mark_of_ne (by decide), hkept]
      exact hprefs

end

/-- What `prepare` comes to over a store when nothing fails. -/
abbrev settledBy (port : KeyPort) (store : Store) : StorageResult Unit × StoreContents :=
  prepareOutcome port store.legacyRows store.legacyStreams store.contents

/-- What the link promises while it is shared. -/
structure LinkHolds {ι : Type} [DecidableEq ι] (port : KeyPort) (display : StorageError → String)
    (store : Store) (s : Callers ι) : Prop where
  /-- One caller at a time connects or migrates. -/
  exclusive : ∀ i j state state',
    s.callers i = .inside state → s.callers j = .inside state' → i = j
  /-- Until there is a handle, nothing but parts of the migration has been written. -/
  resumes : s.slot = none → Resumes port store s.store
  /-- A caller that comes then and meets no failure ends as the first one would have. -/
  retries : s.slot = none → ∃ result contents, PrepareGives port store result contents ∧
    PrepareGives port s.store result contents
  /-- All callers are given one handle. -/
  shared : ∀ i handle, s.callers i = .returned (.ok handle) → s.slot = some handle
  /-- It was kept over storage as one migration without a failure leaves it. -/
  migrated : ∀ handle, s.slot = some handle → ∃ full, s.filledOver = some full ∧
    Resumes port store full ∧ PrepareGives port store (.ok ()) full.contents ∧
    ∀ step : MigrationStep, step.isDone (full.contents.markerOf step) = .ok true
  /-- Whatever has failed before, a caller that gets the lock can be given a handle, if the
  migration can be done at all. -/
  served : ∀ i, s.callers i = .waiting → s.locked = false → (settledBy port store).1 = .ok () →
    ∃ s' handle, Run (opening port display) s s' ∧ s'.callers i = .returned (.ok handle)

/-- A migration that can be done makes the handle. -/
theorem makes_of_settledBy {port : KeyPort} (display : StorageError → String) {store : Store}
    (handle : StorageHandle) (h : (settledBy port store).1 = .ok ()) :
    ∃ store', (opening port display).Makes store handle store' ∧
      store'.contents = (settledBy port store).2 := by
  obtain ⟨call, store', result, hrun, hready, rfl, hcontents⟩ :=
    (prepareGives port store).exists_run
  refine ⟨store', ⟨.preparing handle call, ?_, ?_⟩, hcontents⟩
  · have hprepares : ReflTransGen (Step port) (.preparing handle .start, store)
        (.preparing handle call, store') := by
      refine hrun.lift (fun p => (Scoped.preparing handle p.1, p.2)) ?_
      intro p q hstep
      exact Step.prepare handle (.served hstep)
    exact .head (.connected store handle) hprepares
  · show result port display (.preparing handle call) = _
    rw [result, hready, show (prepareOutcome _ _ _ _).1 = .ok () from h]

section
variable {ι : Type} [DecidableEq ι] {port : KeyPort} {display : StorageError → String}
  {store : Store} {s : Callers ι}

theorem linkHolds_of_inv (hinv : OnceInit.Inv (opening port display) store s) :
    LinkHolds port display store s := by
  constructor
  · exact hinv.exclusive
  · intro hslot
    exact (attempts_prepare (hinv.empty hslot)).cut.1
  · intro hslot
    exact (prepare_resumes (attempts_prepare (hinv.empty hslot))).2
  · exact hinv.returned
  · intro handle hslot
    obtain ⟨before, full, hfull, hbefore, hmade⟩ := hinv.filled handle hslot
    have hcut := (attempts_prepare hbefore).cut
    obtain ⟨houtcome, hlast⟩ := makes_prepare hmade
    -- the runs before the last one have left what it came to as it was
    have hwhole : prepareOutcome port store.legacyRows store.legacyStreams store.contents =
        (.ok (), full.contents) := by
      rw [← hcut.2, ← hcut.1.legacyRows, ← hcut.1.legacyStreams, houtcome]
    refine ⟨full, hfull, hcut.1.trans hlast.cut.1, ?_, fun _ => isDone_of_prepareOutcome hwhole⟩
    have hgives := prepareGives port store
    rw [hwhole] at hgives
    exact hgives
  · intro i hwaiting hfree hable
    cases hslot : s.slot with
    | some handle =>
      refine ⟨_, handle, .single (.found i hwaiting hfree hslot), ?_⟩
      exact Shared.setCaller_self s i _
    | none =>
      have hcut := (attempts_prepare (hinv.empty hslot)).cut
      have hstill : (settledBy port s.store).1 = .ok () := by
        rw [settledBy, hcut.1.legacyRows, hcut.1.legacyStreams, hcut.2]
        exact hable
      obtain ⟨store', hmakes, -⟩ := makes_of_settledBy display 0 hstill
      obtain ⟨s', hrun', hreturned, -⟩ := exists_made hwaiting hfree hslot hmakes
      exact ⟨s', 0, hrun'.run, hreturned⟩

/-- Every caller that is given the host's storage is given it migrated. -/
theorem link_holds (hrun : OnceInit.Run (opening port display) (Shared.fresh store) s) :
    LinkHolds port display store s :=
  linkHolds_of_inv ((Inv.fresh (opening port display) store).run hrun)

end

/-- Nothing stands in the way of migrating the one row. -/
theorem settledBy_gmail : (settledBy shortKeyPort legacyStore).1 = .ok () := by
  have hprefs : preferencesOutcome shortKeyPort legacyStore.legacyRows legacyStore.contents =
      (.ok (), legacyStore.contents.withTargets
        (settleRow "gmail" legacyGmail (legacyStore.contents.rows PREFS_NAMESPACE))) := by
    have hrows : settleRows shortKeyPort [legacyGmail] (legacyStore.contents.rows PREFS_NAMESPACE) =
        (.ok (), settleRow "gmail" legacyGmail (legacyStore.contents.rows PREFS_NAMESPACE)) := by
      rw [settleRows, show legacyGmail.id = "gmail" from rfl, legacyKey_gmail]
      rfl
    rw [preferencesOutcome, show legacyStore.legacyRows = [legacyGmail] from rfl, hrows]
  rw [settledBy, prepareOutcome, stepOutcome_of_settle_ok rfl hprefs, streamsStep,
    stepOutcome_of_settle_ok (by rfl) (by rfl)]

/-- A caller given up with the row written, one that cannot connect, one that migrates, and one
that comes after it. -/
theorem link_holds_gmail : ∃ s : Callers (Fin 4), s.callers 0 = .dropped ∧
    s.callers 1 = .returned (.error (.backend "")) ∧ s.callers 2 = .returned (.ok 8) ∧
    s.callers 3 = .returned (.ok 8) ∧ LinkHolds shortKeyPort (fun _ => "") legacyStore s := by
  obtain ⟨call, hprepared⟩ := attempt_gmail
  have hinterrupted : ReflTransGen (opening shortKeyPort fun _ => "").step
      (.connecting, legacyStore) (.preparing 7 call, interruptedStore) := by
    refine .head (Step.connected legacyStore 7) ?_
    refine hprepared.lift (fun p => (Scoped.preparing 7 p.1, p.2)) ?_
    intro p q hstep
    exact Step.prepare 7 hstep
  have hrefused : ReflTransGen (opening shortKeyPort fun _ => "").step
      (.connecting, interruptedStore) (.failed (.backend ""), interruptedStore) :=
    .single (Step.refused _ _)
  have hcut := attempt_gmail.cut
  have hable : (settledBy shortKeyPort interruptedStore).1 = .ok () := by
    rw [settledBy, hcut.1.legacyRows, hcut.1.legacyStreams, hcut.2]
    exact settledBy_gmail
  obtain ⟨store', hmakes, -⟩ := makes_of_settledBy (fun _ => "") 8 hable
  -- the first caller is given up in the middle of the migration
  obtain ⟨s, hrun, hs, hstore, hslot, hfree, hothers⟩ := exists_dropped
    (s := (Shared.fresh legacyStore : Callers (Fin 4))) (i := 0) rfl rfl rfl hinterrupted
  rw [← hstore] at hrefused hmakes
  -- the second is refused a connection
  obtain ⟨t, hrun', ht, hstore', hslot', hfree', hothers'⟩ := exists_failed
    ((hothers 1 (by decide)).trans rfl) hfree hslot hrefused rfl
  rw [← hstore'] at hmakes
  -- the third finishes the migration, and the fourth finds its handle
  obtain ⟨u, hrun'', hu, -, hslot'', hfree'', hothers''⟩ := exists_made
    ((hothers' 2 (by decide)).trans (hothers 2 (by decide))) hfree' hslot' hmakes
  have hwaiting : u.callers 3 = .waiting := (hothers'' 3 (by decide)).trans
    ((hothers' 3 (by decide)).trans (hothers 3 (by decide)))
  have hlast : OnceInit.Step (opening shortKeyPort fun _ => "") u _ :=
    .found 3 hwaiting hfree'' hslot''
  refine ⟨_, ?_, ?_, ?_, Shared.setCaller_self u 3 _,
    link_holds (((hrun.run.trans hrun'.run).trans hrun''.run).tail hlast)⟩
  · rw [Shared.setCaller_of_ne (by decide), hothers'' 0 (by decide), hothers' 0 (by decide), hs]
  · rw [Shared.setCaller_of_ne (by decide), hothers'' 1 (by decide), ht]
  · rw [Shared.setCaller_of_ne (by decide), hu]

end Scoped
