/-
# Following the legacy row

`migrate_preference` interleaved with arbitrary writers of both rows, other
openers included.  The invariant `Follows` relates the version a call holds to
the legacy row it copied last, and the versions the call has written itself to
the target as it stands; everything it says survives any store that `Grows`,
because a row under an issued token cannot change.
-/
import TinyConnectors.Migration.MigratePreference

open Await Relation

/-- One running call of `migrate_preference`, with its record. -/
abbrev Opener := Traced StorageCall StorageCall.Reply MigratePreference

/-- The versions a call has written. -/
def written (events : List StorageEvent) : List Version :=
  events.filterMap fun event =>
    match event with
    | ⟨.putWith _ _ _ _ _, .ok version⟩ => some version
    | _ => none

/-- What the last read of the legacy row returned. -/
def lastLegacyRead (events : List StorageEvent) : Option (Option Versioned) :=
  events.findSome? fun event =>
    match event with
    | ⟨.get collection _, .ok found⟩ =>
        if collection = LEGACY_PREFS_NAMESPACE then some found else none
    | _ => none

/-- Inside the follow loop: the legacy row copied last and the version held. -/
def PreferenceAwait.following : PreferenceAwait → Option (Versioned × Version)
  | .readLatest source targetVersion => some (source, targetVersion)
  | .deleteTarget source targetVersion => some (source, targetVersion)
  | .putFollow source _ targetVersion => some (source, targetVersion)
  | _ => none

/-- What holds of a call that has not returned. -/
structure Follows (t : Opener) (store : Store) : Prop where
  /-- Its own versions are issued, and so is the one it holds. -/
  written_issued : ∀ version ∈ written t.events, version ∈ store.issued
  held_issued : ∀ source version, t.state.await.following = some (source, version) →
    version ∈ store.issued
  /-- The held version, while it stands, is the copy of the row copied last. -/
  copied : ∀ source version row, t.state.await.following = some (source, version) →
    store.target t.state.id = some row → row.version = version → Copied row source
  /-- Of its own versions only the held one can still stand. -/
  own_held : ∀ row, store.target t.state.id = some row → row.version ∈ written t.events →
    ∃ source, t.state.await.following = some (source, row.version)
  /-- It deletes only after a read that found no legacy row. -/
  gone : ∀ source version, t.state.await = .deleteTarget source version →
    lastLegacyRead t.events = some none

/-- The assertion of the pool: nothing is claimed of a call that has returned. -/
def FollowsUntilDone (t : Opener) (store : Store) : Prop :=
  (∀ result, t.state.await ≠ .done result) → Follows t store

/-- Any other writer, of any row, the legacy row and the target among them. -/
def OtherWriter (store store' : Store) : Prop :=
  (∃ collection id doc expiresMs, ∃ version ∉ store.issued,
    store' = store.put collection id doc expiresMs version) ∨
  ∃ collection id, store' = store.erase collection id

theorem OtherWriter.grows {store store' : Store} (h : OtherWriter store store') :
    store.Grows store' := by
  rcases h with ⟨collection, id, doc, expiresMs, version, hfresh, rfl⟩ | ⟨collection, id, rfl⟩
  · exact .put hfresh ..
  · exact .erase store ..

/-- What a call knows survives everybody else. -/
theorem Follows.mono {t : Opener} {store store' : Store} (hgrows : store.Grows store')
    (h : Follows t store) : Follows t store' where
  written_issued version hversion := hgrows.1 (h.written_issued version hversion)
  held_issued source version hfollowing := hgrows.1 (h.held_issued source version hfollowing)
  copied source version row hfollowing hrow hversion := by
    have hissued := h.held_issued source version hfollowing
    rw [← hversion] at hissued
    exact h.copied source version row hfollowing (hgrows.row_of_issued hrow hissued) hversion
  own_held row hrow hown :=
    h.own_held row (hgrows.row_of_issued hrow (h.written_issued _ hown)) hown
  gone := h.gone

/-- A step that leaves the store alone and writes nothing keeps what is known,
when it stays with the held version or has none. -/
theorem Follows.read {id : String} {await await' : PreferenceAwait} {events : List StorageEvent}
    {event : StorageEvent} {store : Store} (h : Follows ⟨⟨id, await⟩, events⟩ store)
    (hevent : written (event :: events) = written events)
    (hfollowing : await'.following = await.following)
    (hgone : ∀ source version, await' = .deleteTarget source version →
      lastLegacyRead (event :: events) = some none) :
    Follows ⟨⟨id, await'⟩, event :: events⟩ store where
  written_issued := by rw [hevent]; exact h.written_issued
  held_issued := by rw [hfollowing]; exact h.held_issued
  copied := by rw [hfollowing]; exact h.copied
  own_held := by rw [hevent, hfollowing]; exact h.own_held
  gone := hgone

/-- A successful write makes the call hold what it wrote. -/
theorem Follows.wrote {id : String} {await : PreferenceAwait} {events : List StorageEvent}
    {store : Store} {source : Versioned} {precondition : Precondition} {version : Version}
    (h : Follows ⟨⟨id, await⟩, events⟩ store) :
    Follows ⟨⟨id, .readLatest source version⟩,
      ⟨MigratePreference.putPreference id (preferenceBody source.doc) source.expiresMs precondition,
        .ok version⟩ :: events⟩
      (store.put PREFS_NAMESPACE id (preferenceBody source.doc) source.expiresMs version) where
  written_issued v hv := by
    rcases List.mem_cons.mp hv with rfl | hv
    · exact Finset.mem_insert_self _ _
    · exact Finset.mem_insert_of_mem (h.written_issued v hv)
  held_issued s v hfollowing := by
    cases hfollowing
    exact Finset.mem_insert_self _ _
  copied s v row hfollowing hrow _ := by
    cases hfollowing
    rw [Store.target, Store.row_put, if_pos ⟨rfl, rfl⟩, Option.some_inj] at hrow
    rw [← hrow]
    exact ⟨rfl, rfl⟩
  own_held row hrow _ := by
    rw [Store.target, Store.row_put, if_pos ⟨rfl, rfl⟩, Option.some_inj] at hrow
    rw [← hrow]
    exact ⟨source, rfl⟩
  gone s v hawait := by cases hawait

/-- What one step of a call preserves. -/
theorem Follows.step {t t' : Opener} {store store' : Store} (h : Follows t store)
    (hstep : Traced.Advances MigratePreference.poll Serves t store t' store') :
    FollowsUntilDone t' store' := by
  intro hrunning
  obtain ⟨⟨id, await⟩, events⟩ := t
  obtain ⟨m', events'⟩ := t'
  obtain ⟨event, hcase, rfl⟩ := MigratePreference.step_of_advances hstep
  cases hcase with
  | created hrow hfresh => exact h.wrote
  | followed hrow hversion hfresh => exact h.wrote
  | conflicted hrow => exact h.read rfl rfl (fun _ _ hawait => by cases hawait)
  | gone hrow => exact h.read rfl rfl (fun _ _ _ => rfl)
  | moved hrow hmoved => exact h.read rfl rfl (fun _ _ hawait => by cases hawait)
  | @adopted id source error store row hrow hcopied =>
    -- the call holds no version yet, so the one it adopts is not its own
    have hnone : ∀ found, store.target id = some found → found.version ∉ written events := by
      intro found hfound hown
      obtain ⟨_, hfollowing⟩ := h.own_held found hfound hown
      cases hfollowing
    exact {
      written_issued := h.written_issued
      held_issued := by
        intro s v hfollowing
        cases hfollowing
        exact store.versions PREFS_NAMESPACE id row hrow
      copied := by
        intro s v found hfollowing hfound _
        cases hfollowing
        rw [hrow, Option.some_inj] at hfound
        rwa [← hfound]
      own_held := fun found hfound hown => absurd hown (hnone found hfound)
      gone := by
        intro s v hawait
        cases hawait }
  | vanished hrow => exact absurd rfl (hrunning _)
  | preserved hrow hdiffers => exact absurd rfl (hrunning _)
  | settled hrow hsame => exact absurd rfl (hrunning _)
  | deleted hrow hversion => exact absurd rfl (hrunning _)
  | undeleted hrow => exact absurd rfl (hrunning _)
  | unfollowed hrow => exact absurd rfl (hrunning _)

/-- A step of an opener grows the store. -/
theorem grows_of_advances {t t' : Opener} {store store' : Store}
    (h : Traced.Advances MigratePreference.poll Serves t store t' store') : store.Grows store' := by
  rcases h.served with rfl | ⟨call, reply, hserved⟩
  · exact .refl _
  · exact hserved.grows

/-- How a call that returns `Ok` leaves its target. -/
def Settled (t t' : Opener) (store store' : Store) : Prop :=
  -- the last read found a row, and the held version, if it still stands, is its copy
  (∃ latest source version, lastLegacyRead t'.events = some (some latest) ∧
    t.state.await.following = some (source, version) ∧
    ∀ row, store'.target t.state.id = some row → row.version = version → Copied row latest) ∨
  -- the last read found none, and the held version is gone
  (∃ source version, lastLegacyRead t'.events = some none ∧
    t.state.await.following = some (source, version) ∧
    ∀ row, store'.target t.state.id = some row → row.version ≠ version) ∨
  -- the target is somebody else's, and stays as it was
  (store'.target t.state.id = store.target t.state.id ∧
    ∀ row, store'.target t.state.id = some row → row.version ∉ written t'.events)

/-- What a returning step of a call leaves. -/
theorem Follows.settled {t t' : Opener} {store store' : Store} (h : Follows t store)
    (hstep : Traced.Advances MigratePreference.poll Serves t store t' store')
    (hdone : t'.state.await = .done (.ok ())) : Settled t t' store store' := by
  obtain ⟨⟨id, await⟩, events⟩ := t
  obtain ⟨m', events'⟩ := t'
  obtain ⟨event, hcase, rfl⟩ := MigratePreference.step_of_advances hstep
  cases hcase with
  | created hrow hfresh => cases hdone
  | followed hrow hversion hfresh => cases hdone
  | conflicted hrow => cases hdone
  | gone hrow => cases hdone
  | moved hrow hmoved => cases hdone
  | adopted hrow hcopied => cases hdone
  | vanished hrow => cases hdone
  -- only the last steps return `Ok`
  | @settled id source targetVersion store row hrow hsame =>
    refine .inl ⟨⟨row, source.id⟩, source, targetVersion, rfl, rfl, fun found hfound hversion => ?_⟩
    obtain ⟨hdoc, hexpires⟩ := h.copied source targetVersion found rfl hfound hversion
    exact ⟨hdoc.trans hsame.1.symm, hexpires.trans hsame.2.symm⟩
  | @deleted id source targetVersion store row hrow hversion =>
    refine .inr (.inl ⟨source, targetVersion, h.gone source targetVersion rfl, rfl, ?_⟩)
    intro found hfound
    rw [Store.target, Store.row_erase, if_pos ⟨rfl, rfl⟩] at hfound
    cases hfound
  | @undeleted id source targetVersion store reply hrow =>
    exact .inr (.inl ⟨source, targetVersion, h.gone source targetVersion rfl, rfl, hrow⟩)
  | @preserved id source error store row hrow hdiffers =>
    refine .inr (.inr ⟨rfl, fun found hfound hown => ?_⟩)
    obtain ⟨_, hfollowing⟩ := h.own_held found hfound hown
    cases hfollowing
  | @unfollowed id source latest targetVersion store message hrow =>
    refine .inr (.inr ⟨rfl, fun found hfound hown => ?_⟩)
    obtain ⟨_, hfollowing⟩ := h.own_held found hfound hown
    cases hfollowing
    exact hrow found hfound rfl

/-- Every call has just been made. -/
def Started {ι : Type} (c : Config ι Opener Store) : Prop :=
  ∀ i, ∃ id source, c.tasks i = ⟨.start id source, []⟩

/-- A legacy row to migrate, and the store that holds it. -/
def legacyGmail : Versioned :=
  ⟨⟨.obj [("value", .obj [("read", .bool true)])], none, 0⟩, "gmail"⟩

def legacyStore : Store := Store.empty.put LEGACY_PREFS_NAMESPACE "gmail" legacyGmail.doc none 0
