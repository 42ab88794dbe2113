/-
# Migrating one preference

`migrate_preference` (`state/migration.rs`) as a machine: it writes the target
row if there is none, adopts a target that already equals the legacy row, and
then follows the legacy row until a re-read finds it unchanged.  What the
version it holds stands for is the subject of `Follow`, whose versions it
replaces that of `Ownership`.
-/
import TinyConnectors.Migration.PreferenceRecord

open Await Relation

/-- Where `migrate_preference` is suspended, with the variables that are live there. -/
inductive PreferenceAwait where
  /-- The first conditional write. -/
  | putAbsent (source : Versioned)
  /-- The read of the target that write conflicted with. -/
  | readTarget (source : Versioned) (error : StorageError)
  /-- The re-read of the legacy row at the head of the loop. -/
  | readLatest (source : Versioned) (targetVersion : Version)
  /-- The delete after the legacy row has disappeared. -/
  | deleteTarget (source : Versioned) (targetVersion : Version)
  /-- The write that follows an update of the legacy row. -/
  | putFollow (source latest : Versioned) (targetVersion : Version)
  | done (result : StorageResult Unit)

/-- One call of `migrate_preference`, for the target id `id`. -/
structure MigratePreference where
  id : String
  await : PreferenceAwait

namespace MigratePreference

/-- Start with the legacy row a page listed. -/
def start (id : String) (source : Versioned) : MigratePreference := ⟨id, .putAbsent source⟩

/-- `put_preference`. -/
abbrev putPreference (id : String) (body : Json) (expiresMs : Option ℤ)
    (precondition : Precondition) : StorageCall :=
  .putWith PREFS_NAMESPACE id body precondition ⟨some PREFS_SCHEMA_VERSION, expiresMs⟩

/-- Suspend elsewhere. -/
def resumeAt (m : MigratePreference) (await : PreferenceAwait) : MigratePreference := ⟨m.id, await⟩

/-- After the first write. -/
def afterPutAbsent (m : MigratePreference) (source : Versioned) :
    StorageResult Version → MigratePreference
  | .ok version => m.resumeAt (.readLatest source version)
  | .error error =>
    if error.isConflict then m.resumeAt (.readTarget source error)
    else m.resumeAt (.done (.error error))

/-- After the read of a conflicting target: adopt it when it is the legacy row's
own copy, preserve it otherwise. -/
def afterReadTarget (m : MigratePreference) (source : Versioned) (error : StorageError) :
    StorageResult (Option Versioned) → MigratePreference
  | .ok none => m.resumeAt (.done (.error error))
  | .ok (some current) =>
    if current.doc ≠ preferenceBody source.doc ∨ current.expiresMs ≠ source.expiresMs then
      m.resumeAt (.done (.ok ()))
    else m.resumeAt (.readLatest source current.version)
  | .error error => m.resumeAt (.done (.error error))

/-- After the re-read of the legacy row. -/
def afterReadLatest (m : MigratePreference) (source : Versioned) (targetVersion : Version) :
    StorageResult (Option Versioned) → MigratePreference
  | .ok none => m.resumeAt (.deleteTarget source targetVersion)
  | .ok (some latest) =>
    if preferenceBody latest.doc = preferenceBody source.doc ∧
        latest.expiresMs = source.expiresMs then
      m.resumeAt (.done (.ok ()))
    else m.resumeAt (.putFollow source latest targetVersion)
  | .error error => m.resumeAt (.done (.error error))

/-- After the delete: a conflict preserves whatever stands there now. -/
def afterDeleteTarget (m : MigratePreference) : StorageResult Bool → MigratePreference
  | .ok _ => m.resumeAt (.done (.ok ()))
  | .error error =>
    if error.isConflict then m.resumeAt (.done (.ok ())) else m.resumeAt (.done (.error error))

/-- After a following write: go round again, or preserve what it conflicted with. -/
def afterPutFollow (m : MigratePreference) (latest : Versioned) :
    StorageResult Version → MigratePreference
  | .ok version => m.resumeAt (.readLatest latest version)
  | .error error =>
    if error.isConflict then m.resumeAt (.done (.ok ())) else m.resumeAt (.done (.error error))

/-- The whole function. -/
def poll (m : MigratePreference) :
    Poll StorageCall StorageCall.Reply MigratePreference (StorageResult Unit) :=
  match m.await with
  | .putAbsent source =>
    .pending (putPreference m.id (preferenceBody source.doc) source.expiresMs .absent)
      (m.afterPutAbsent source)
  | .readTarget source error =>
    .pending (.get PREFS_NAMESPACE m.id) (m.afterReadTarget source error)
  | .readLatest source targetVersion =>
    .pending (.get LEGACY_PREFS_NAMESPACE source.id) (m.afterReadLatest source targetVersion)
  | .deleteTarget _ targetVersion =>
    .pending (.delete PREFS_NAMESPACE m.id (.version targetVersion)) m.afterDeleteTarget
  | .putFollow _ latest targetVersion =>
    .pending (putPreference m.id (preferenceBody latest.doc) latest.expiresMs
      (.version targetVersion)) (m.afterPutFollow latest)
  | .done result => .ready result

end MigratePreference

/-! ## What one step can do -/

/-- A call with the reply it had. -/
abbrev StorageEvent := (call : StorageCall) × call.Reply

/-- The target row of a preference. -/
abbrev Store.target (store : Store) (id : String) : Option Row := store.row PREFS_NAMESPACE id

theorem Store.target_put_of_ne {store : Store} {id written : String} (hne : id ≠ written)
    (doc : Json) (expiresMs : Option ℤ) (version : Version) :
    (store.put PREFS_NAMESPACE written doc expiresMs version).target id = store.target id := by
  rw [target, row_put, if_neg (fun h => hne h.2)]

theorem Store.target_erase_of_ne {store : Store} {id erased : String} (hne : id ≠ erased) :
    (store.erase PREFS_NAMESPACE erased).target id = store.target id := by
  rw [target, row_erase, if_neg (fun h => hne h.2)]

/-- `row` is the copy of a legacy row: its body and its expiry. -/
def Copied (row : Row) (source : Versioned) : Prop :=
  row.doc = preferenceBody source.doc ∧ row.expiresMs = source.expiresMs

/-- Two legacy rows that migration does not tell apart. -/
def SameCopy (latest source : Versioned) : Prop :=
  preferenceBody latest.doc = preferenceBody source.doc ∧ latest.expiresMs = source.expiresMs

namespace MigratePreference

/-- The steps of the machine on a store whose calls do not fail, one by one. -/
inductive Step : MigratePreference → Store → StorageEvent → MigratePreference → Store → Prop where
  /-- There was no target: it is written. -/
  | created {id source store version} (hrow : store.target id = none)
      (hfresh : version ∉ store.issued) :
      Step ⟨id, .putAbsent source⟩ store
        ⟨putPreference id (preferenceBody source.doc) source.expiresMs .absent, .ok version⟩
        ⟨id, .readLatest source version⟩
        (store.put PREFS_NAMESPACE id (preferenceBody source.doc) source.expiresMs version)
  /-- There was one. -/
  | conflicted {id source store message} (hrow : store.target id ≠ none) :
      Step ⟨id, .putAbsent source⟩ store
        ⟨putPreference id (preferenceBody source.doc) source.expiresMs .absent,
          .error (.conflict message)⟩
        ⟨id, .readTarget source (.conflict message)⟩ store
  /-- The target disappeared between the write and the read. -/
  | vanished {id source error store} (hrow : store.target id = none) :
      Step ⟨id, .readTarget source error⟩ store ⟨.get PREFS_NAMESPACE id, .ok none⟩
        ⟨id, .done (.error error)⟩ store
  /-- The target is something else. -/
  | preserved {id source error store row} (hrow : store.target id = some row)
      (hdiffers : ¬ Copied row source) :
      Step ⟨id, .readTarget source error⟩ store ⟨.get PREFS_NAMESPACE id, .ok (some ⟨row, id⟩)⟩
        ⟨id, .done (.ok ())⟩ store
  /-- The target is a copy of the legacy row already. -/
  | adopted {id source error store row} (hrow : store.target id = some row)
      (hcopied : Copied row source) :
      Step ⟨id, .readTarget source error⟩ store ⟨.get PREFS_NAMESPACE id, .ok (some ⟨row, id⟩)⟩
        ⟨id, .readLatest source row.version⟩ store
  /-- The legacy row has gone. -/
  | gone {id source targetVersion store}
      (hrow : store.row LEGACY_PREFS_NAMESPACE source.id = none) :
      Step ⟨id, .readLatest source targetVersion⟩ store
        ⟨.get LEGACY_PREFS_NAMESPACE source.id, .ok none⟩
        ⟨id, .deleteTarget source targetVersion⟩ store
  /-- The legacy row is as it was copied. -/
  | settled {id source targetVersion store row}
      (hrow : store.row LEGACY_PREFS_NAMESPACE source.id = some row)
      (hsame : SameCopy ⟨row, source.id⟩ source) :
      Step ⟨id, .readLatest source targetVersion⟩ store
        ⟨.get LEGACY_PREFS_NAMESPACE source.id, .ok (some ⟨row, source.id⟩)⟩
        ⟨id, .done (.ok ())⟩ store
  /-- The legacy row has changed. -/
  | moved {id source targetVersion store row}
      (hrow : store.row LEGACY_PREFS_NAMESPACE source.id = some row)
      (hmoved : ¬ SameCopy ⟨row, source.id⟩ source) :
      Step ⟨id, .readLatest source targetVersion⟩ store
        ⟨.get LEGACY_PREFS_NAMESPACE source.id, .ok (some ⟨row, source.id⟩)⟩
        ⟨id, .putFollow source ⟨row, source.id⟩ targetVersion⟩ store
  /-- The target is still the held version: it is deleted. -/
  | deleted {id source targetVersion store row} (hrow : store.target id = some row)
      (hversion : row.version = targetVersion) :
      Step ⟨id, .deleteTarget source targetVersion⟩ store
        ⟨.delete PREFS_NAMESPACE id (.version targetVersion), .ok true⟩
        ⟨id, .done (.ok ())⟩ (store.erase PREFS_NAMESPACE id)
  /-- The target is no longer the held version. -/
  | undeleted {id source targetVersion store reply}
      (hrow : ∀ row, store.target id = some row → row.version ≠ targetVersion) :
      Step ⟨id, .deleteTarget source targetVersion⟩ store
        ⟨.delete PREFS_NAMESPACE id (.version targetVersion), reply⟩
        ⟨id, .done (.ok ())⟩ store
  /-- The target is still the held version: it is replaced. -/
  | followed {id source latest targetVersion store row version} (hrow : store.target id = some row)
      (hversion : row.version = targetVersion) (hfresh : version ∉ store.issued) :
      Step ⟨id, .putFollow source latest targetVersion⟩ store
        ⟨putPreference id (preferenceBody latest.doc) latest.expiresMs (.version targetVersion),
          .ok version⟩
        ⟨id, .readLatest latest version⟩
        (store.put PREFS_NAMESPACE id (preferenceBody latest.doc) latest.expiresMs version)
  /-- The target is no longer the held version. -/
  | unfollowed {id source latest targetVersion store message}
      (hrow : ∀ row, store.target id = some row → row.version ≠ targetVersion) :
      Step ⟨id, .putFollow source latest targetVersion⟩ store
        ⟨putPreference id (preferenceBody latest.doc) latest.expiresMs (.version targetVersion),
          .error (.conflict message)⟩
        ⟨id, .done (.ok ())⟩ store

theorem holds_version_iff {row : Option Row} {version : Version} :
    (Precondition.version version).holds row = true ↔
      ∃ found, row = some found ∧ found.version = version := by
  cases row <;> simp [Precondition.holds]

theorem not_holds_version_iff {row : Option Row} {version : Version} :
    ¬ (Precondition.version version).holds row = true ↔
      ∀ found, row = some found → found.version ≠ version := by
  cases row <;> simp [Precondition.holds]

section
variable {id : String} {source : Versioned} {store store' : Store}

theorem step_putAbsent {reply : StorageResult Version}
    (h : Serves (putPreference id (preferenceBody source.doc) source.expiresMs .absent) store
      reply store') :
    Step ⟨id, .putAbsent source⟩ store
      ⟨putPreference id (preferenceBody source.doc) source.expiresMs .absent, reply⟩
      (afterPutAbsent ⟨id, .putAbsent source⟩ source reply) store' := by
  simp only [Serves, Precondition.holds, Option.isNone_iff_eq_none] at h
  split_ifs at h with hrow
  · obtain ⟨version, hfresh, rfl, rfl⟩ := h
    exact .created hrow hfresh
  · obtain ⟨⟨message, rfl⟩, rfl⟩ := h
    exact .conflicted hrow

theorem afterReadTarget_of_copied {error : StorageError} {row : Row} (h : Copied row source) :
    afterReadTarget ⟨id, .readTarget source error⟩ source error (.ok (some ⟨row, id⟩)) =
      ⟨id, .readLatest source row.version⟩ := by
  rw [afterReadTarget, if_neg]
  · rfl
  · rintro (hdoc | hexpires)
    · exact hdoc h.1
    · exact hexpires h.2

theorem afterReadTarget_of_not_copied {error : StorageError} {row : Row} (h : ¬ Copied row source) :
    afterReadTarget ⟨id, .readTarget source error⟩ source error (.ok (some ⟨row, id⟩)) =
      ⟨id, .done (.ok ())⟩ := by
  rw [afterReadTarget, if_pos]
  · rfl
  · by_contra hboth
    push Not at hboth
    exact h hboth

theorem step_readTarget {error : StorageError} :
    Step ⟨id, .readTarget source error⟩ store
      ⟨.get PREFS_NAMESPACE id, .ok ((store.target id).map fun row => ⟨row, id⟩)⟩
      (afterReadTarget ⟨id, .readTarget source error⟩ source error
        (.ok ((store.target id).map fun row => ⟨row, id⟩))) store := by
  cases hrow : store.target id with
  | none => exact .vanished hrow
  | some row =>
    rw [Option.map_some]
    by_cases hcopied : Copied row source
    · rw [afterReadTarget_of_copied hcopied]
      exact .adopted hrow hcopied
    · rw [afterReadTarget_of_not_copied hcopied]
      exact .preserved hrow hcopied

theorem step_readLatest {targetVersion : Version} :
    Step ⟨id, .readLatest source targetVersion⟩ store
      ⟨.get LEGACY_PREFS_NAMESPACE source.id,
        .ok ((store.row LEGACY_PREFS_NAMESPACE source.id).map fun row => ⟨row, source.id⟩)⟩
      (afterReadLatest ⟨id, .readLatest source targetVersion⟩ source targetVersion
        (.ok ((store.row LEGACY_PREFS_NAMESPACE source.id).map fun row => ⟨row, source.id⟩)))
      store := by
  cases hrow : store.row LEGACY_PREFS_NAMESPACE source.id with
  | none => exact .gone hrow
  | some row =>
    rw [Option.map_some, afterReadLatest]
    split_ifs with hsame
    · exact .settled hrow hsame
    · exact .moved hrow hsame

theorem step_deleteTarget {targetVersion : Version} {reply : StorageResult Bool}
    (h : Serves (.delete PREFS_NAMESPACE id (.version targetVersion)) store reply store') :
    Step ⟨id, .deleteTarget source targetVersion⟩ store
      ⟨.delete PREFS_NAMESPACE id (.version targetVersion), reply⟩
      (afterDeleteTarget ⟨id, .deleteTarget source targetVersion⟩ reply) store' := by
  simp only [Serves] at h
  split_ifs at h with hholds
  · obtain ⟨rfl, rfl⟩ := h
    obtain ⟨row, hrow, hversion⟩ := holds_version_iff.mp hholds
    rw [hrow]
    exact .deleted hrow hversion
  · obtain ⟨hreply, rfl⟩ := h
    have hkept := not_holds_version_iff.mp hholds
    rcases hreply with ⟨message, rfl⟩ | ⟨-, rfl⟩
    · exact .undeleted hkept
    · exact .undeleted hkept

theorem step_putFollow {latest : Versioned} {targetVersion : Version}
    {reply : StorageResult Version}
    (h : Serves (putPreference id (preferenceBody latest.doc) latest.expiresMs
      (.version targetVersion)) store reply store') :
    Step ⟨id, .putFollow source latest targetVersion⟩ store
      ⟨putPreference id (preferenceBody latest.doc) latest.expiresMs (.version targetVersion),
        reply⟩
      (afterPutFollow ⟨id, .putFollow source latest targetVersion⟩ latest reply) store' := by
  simp only [Serves] at h
  split_ifs at h with hholds
  · obtain ⟨version, hfresh, rfl, rfl⟩ := h
    obtain ⟨row, hrow, hversion⟩ := holds_version_iff.mp hholds
    exact .followed hrow hversion hfresh
  · obtain ⟨⟨message, rfl⟩, rfl⟩ := h
    exact .unfollowed (not_holds_version_iff.mp hholds)

end

/-- The machine does nothing else. -/
theorem step_of_advances {t t' : Traced StorageCall StorageCall.Reply MigratePreference}
    {store store' : Store} (h : Traced.Advances poll Serves t store t' store') :
    ∃ event, Step t.state store event t'.state store' ∧ t'.events = event :: t.events := by
  obtain ⟨⟨id, await⟩, events⟩ := t
  cases await with
  | putAbsent source =>
    obtain ⟨reply, hserved, rfl⟩ := h
    exact ⟨_, step_putAbsent hserved, rfl⟩
  | readTarget source error =>
    obtain ⟨reply, ⟨rfl, rfl⟩, rfl⟩ := h
    exact ⟨_, step_readTarget, rfl⟩
  | readLatest source targetVersion =>
    obtain ⟨reply, ⟨rfl, rfl⟩, rfl⟩ := h
    exact ⟨_, step_readLatest, rfl⟩
  | deleteTarget source targetVersion =>
    obtain ⟨reply, hserved, rfl⟩ := h
    exact ⟨_, step_deleteTarget hserved, rfl⟩
  | putFollow source latest targetVersion =>
    obtain ⟨reply, hserved, rfl⟩ := h
    exact ⟨_, step_putFollow hserved, rfl⟩
  | done result => exact absurd h (by simp [Traced.Advances, poll])

end MigratePreference
