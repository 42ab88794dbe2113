/-
# Preparing the storage

`prepare` (`state/migration.rs`): each of the two migrations runs once, behind a
marker that is written when it has returned.  Run alone it comes to
`prepareOutcome`, a function of what the store holds.
-/
import TinyConnectors.Migration.StreamSettle

open Await Relation

/-! ## The machine -/

def PREFS_STEP : String := "prefs-v1-unwrap"
def STREAMS_STEP : String := "triggers-v1-rename"

/-- The steps of `prepare`, in order. -/
inductive MigrationStep where
  | prefs
  | streams
  deriving DecidableEq

/-- The id of the marker of a step. -/
def MigrationStep.id : MigrationStep → String
  | .prefs => PREFS_STEP
  | .streams => STREAMS_STEP

/-- Where `prepare` is suspended, with the variables that are live there. -/
inductive PrepareStorage where
  /-- The read of `done`. -/
  | checkDone (step : MigrationStep)
  | migratePreferences (call : MigratePreferences)
  | migrateStreams (call : MigrateStreams)
  /-- The write of `mark_done`. -/
  | markDone (step : MigrationStep)
  /-- The read of `done` after that write has conflicted. -/
  | recheckDone (step : MigrationStep) (error : StorageError)
  | done (result : StorageResult Unit)

/-- `value[key]` of `serde_json`: `null` where there is no such field. -/
def Json.index (key : String) : Json → Json
  | .obj fields => (field key fields).getD .null
  | _ => .null

namespace MigrationStep

/-- `json!({"owner": "connectors", "step": step, "done": true})`. -/
def marker (step : MigrationStep) : Json :=
  .obj [("done", .bool true), ("owner", .str "connectors"), ("step", .str step.id)]

/-- `done`, on the document found. -/
def isDone (step : MigrationStep) : Option Json → StorageResult Bool
  | none => .ok false
  | some doc =>
    if doc.index "owner" = .str "connectors" ∧ doc.index "step" = .str step.id ∧
        doc.index "done" = .bool true then
      .ok true
    else .error (.conflict s!"invalid connector migration marker for `{step.id}`")

/-- A step without a marker is the only one that is not done. -/
theorem isDone_eq_false {step : MigrationStep} {doc : Option Json}
    (h : step.isDone doc = .ok false) :
    doc = none := by
  cases doc with
  | none => rfl
  | some doc =>
    rw [isDone] at h
    split_ifs at h
    · cases h

theorem isDone_marker (step : MigrationStep) : step.isDone (some step.marker) = .ok true :=
  if_pos ⟨rfl, rfl, rfl⟩

end MigrationStep

namespace PrepareStorage

/-- What follows a step that is done. -/
def nextStep : MigrationStep → PrepareStorage
  | .prefs => .checkDone .streams
  | .streams => .done (.ok ())

/-- The migration of a step. -/
def runStep : MigrationStep → PrepareStorage
  | .prefs => .migratePreferences .start
  | .streams => .migrateStreams .listing

def afterCheckDone (step : MigrationStep) : StorageResult (Option Versioned) → PrepareStorage
  | .ok found =>
    match step.isDone (found.map fun record => record.doc) with
    | .ok true => nextStep step
    | .ok false => runStep step
    | .error error => .done (.error error)
  | .error error => .done (.error error)

def afterMigration (step : MigrationStep) : StorageResult Unit → PrepareStorage
  | .ok _ => .markDone step
  | .error error => .done (.error error)

def afterMarkDone (step : MigrationStep) : StorageResult Version → PrepareStorage
  | .ok _ => nextStep step
  | .error error => if error.isConflict then .recheckDone step error else .done (.error error)

/-- Another instance may have marked the step. -/
def afterRecheckDone (step : MigrationStep) (conflict : StorageError) :
    StorageResult (Option Versioned) → PrepareStorage
  | .ok found =>
    match step.isDone (found.map fun record => record.doc) with
    | .ok true => nextStep step
    | .ok false => .done (.error conflict)
    | .error error => .done (.error error)
  | .error error => .done (.error error)

/-- The whole function. -/
def poll (port : KeyPort) : PrepareStorage →
    Poll StorageCall StorageCall.Reply PrepareStorage (StorageResult Unit)
  | .checkDone step => .pending (.get MIGRATIONS_NAMESPACE step.id) (afterCheckDone step)
  | .migratePreferences call =>
    (MigratePreferences.poll port call).embed .migratePreferences (afterMigration .prefs)
  | .migrateStreams call =>
      (MigrateStreams.poll call).embed .migrateStreams (afterMigration .streams)
  | .markDone step =>
    .pending (.putWith MIGRATIONS_NAMESPACE step.id step.marker .absent ⟨none, none⟩)
      (afterMarkDone step)
  | .recheckDone step error =>
    .pending (.get MIGRATIONS_NAMESPACE step.id) (afterRecheckDone step error)
  | .done result => .ready result

/-- The call `prepare(storage)`. -/
def start : PrepareStorage := .checkDone .prefs

theorem poll_migratePreferences (port : KeyPort) (call : MigratePreferences) :
    poll port (.migratePreferences call) =
      (MigratePreferences.poll port call).embed .migratePreferences (afterMigration .prefs) := rfl

theorem poll_migrateStreams (port : KeyPort) (call : MigrateStreams) :
    poll port (.migrateStreams call) =
      (MigrateStreams.poll call).embed .migrateStreams (afterMigration .streams) := rfl

/-- A failing call ends `prepare` with its error. -/
theorem faultStops (port : KeyPort) : FaultStops (poll port) IsFault IsError := by
  intro s call resume reply hpoll hfault
  have hdone : ∀ result, IsError result → Stops (poll port) IsError (.done result) :=
    fun result hresult => .ready rfl hresult
  have hafter : ∀ step result, IsError result →
      Stops (poll port) IsError (afterMigration step result) := by
    rintro step result ⟨error, rfl⟩
    exact .ready rfl ⟨error, rfl⟩
  cases s with
  | migratePreferences call =>
    exact (MigratePreferences.faultStops port).embed (poll_migratePreferences port) (hafter .prefs)
      hpoll hfault
  | migrateStreams call =>
    exact MigrateStreams.faultStops.embed (poll_migrateStreams port) (hafter .streams) hpoll hfault
  | markDone step =>
    cases hpoll
    obtain ⟨error, rfl, hconflict⟩ := hfault
    simp only [afterMarkDone, hconflict]
    exact hdone _ ⟨error, rfl⟩
  | done result => cases hpoll
  | _ =>
    cases hpoll
    obtain ⟨error, rfl, -⟩ := hfault
    exact hdone _ ⟨error, rfl⟩

end PrepareStorage

/-! ## What preparing comes to -/

/-- What a store holds, by content. -/
structure StoreContents where
  rows : String → String → Option Content
  entries : String → List Json

def Store.contents (store : Store) : StoreContents := ⟨store.content, store.entries⟩

/-- What a migration makes of the contents, and returns. -/
abbrev Outcome := StoreContents → StorageResult Unit × StoreContents

namespace StoreContents

/-- The document of a step's marker. -/
def markerOf (c : StoreContents) (step : MigrationStep) : Option Json :=
  (c.rows MIGRATIONS_NAMESPACE step.id).map Prod.fst

/-- Write the marker of a step. -/
def mark (c : StoreContents) (step : MigrationStep) : StoreContents :=
  { c with
    rows := Function.update c.rows MIGRATIONS_NAMESPACE
      (Function.update (c.rows MIGRATIONS_NAMESPACE) step.id (some (step.marker, none))) }

/-- Replace the preference targets. -/
def withTargets (c : StoreContents) (targets : String → Option Content) : StoreContents :=
  { c with rows := Function.update c.rows PREFS_NAMESPACE targets }

theorem rows_withTargets (c : StoreContents) (targets : String → Option Content) :
    (c.withTargets targets).rows PREFS_NAMESPACE = targets := by
  simp only [withTargets, Function.update_self]

theorem withTargets_withTargets (c : StoreContents) (targets targets' : String → Option Content) :
    (c.withTargets targets).withTargets targets' = c.withTargets targets' := by
  simp only [withTargets, Function.update_idem]

/-- Replace the streams. -/
def withEntries (c : StoreContents) (entries : String → List Json) : StoreContents :=
  { c with entries := entries }

end StoreContents

/-- One step of `prepare` and what follows it. -/
def stepOutcome (step : MigrationStep) (settle next : Outcome) : Outcome := fun c =>
  match step.isDone (c.markerOf step) with
  | .error error => (.error error, c)
  | .ok true => next c
  | .ok false =>
    match settle c with
    | (.error error, c') => (.error error, c')
    | (.ok _, c') => next (c'.mark step)

/-- The preferences, given the legacy rows. -/
def preferencesOutcome (port : KeyPort) (rows : List Versioned) : Outcome := fun c =>
  let settled := settleRows port rows (c.rows PREFS_NAMESPACE)
  (settled.1, c.withTargets settled.2)

/-- The streams, given the names of the legacy streams. -/
def streamsOutcome (names : List String) : Outcome := fun c =>
  let settled := settleStreams names c.entries
  (settled.1, c.withEntries settled.2)

/-- The second step, which ends `prepare`. -/
def streamsStep (names : List String) : Outcome :=
  stepOutcome .streams (streamsOutcome names) fun c => (.ok (), c)

/-- Both steps. -/
def prepareOutcome (port : KeyPort) (rows : List Versioned) (names : List String) : Outcome :=
  stepOutcome .prefs (preferencesOutcome port rows) (streamsStep names)

section
variable {step : MigrationStep} {settle next : Outcome} {c c' : StoreContents}

theorem stepOutcome_of_error {error : StorageError}
    (h : step.isDone (c.markerOf step) = .error error) :
    stepOutcome step settle next c = (.error error, c) := by
  rw [stepOutcome, h]

theorem stepOutcome_of_done (h : step.isDone (c.markerOf step) = .ok true) :
    stepOutcome step settle next c = next c := by
  rw [stepOutcome, h]

/-- A step without a marker depends on what its migration comes to. -/
theorem stepOutcome_congr (h : c.markerOf step = none) (h' : c'.markerOf step = none)
    (hsettle : settle c' = settle c) :
    stepOutcome step settle next c' = stepOutcome step settle next c := by
  simp only [stepOutcome, h, h', hsettle, MigrationStep.isDone]

theorem stepOutcome_of_settle_error {error : StorageError} (h : c.markerOf step = none)
    (hsettle : settle c = (.error error, c')) :
    stepOutcome step settle next c = (.error error, c') := by
  simp only [stepOutcome, h, hsettle, MigrationStep.isDone]

theorem stepOutcome_of_settle_ok (h : c.markerOf step = none) (hsettle : settle c = (.ok (), c')) :
    stepOutcome step settle next c = next (c'.mark step) := by
  simp only [stepOutcome, h, hsettle, MigrationStep.isDone]

theorem StoreContents.markerOf_mark : (c.mark step).markerOf step = some step.marker := by
  simp [markerOf, mark]

/-- The marker of the other step stays. -/
theorem StoreContents.markerOf_mark_of_ne {other : MigrationStep} (hne : other ≠ step) :
    (c.mark step).markerOf other = c.markerOf other := by
  have hid : other.id ≠ step.id := by
    cases other <;> cases step <;> first | exact absurd rfl hne | decide
  simp [markerOf, mark, Function.update_of_ne hid]

end

section
variable {store store' : Store}

/-- Writing a marker, by content. -/
theorem contents_mark (step : MigrationStep) (version : Version) :
    (store.put MIGRATIONS_NAMESPACE step.id step.marker none version).contents =
      store.contents.mark step := by
  have hrows : (store.put MIGRATIONS_NAMESPACE step.id step.marker none version).content =
      (store.contents.mark step).rows := by
    funext c i
    rw [Store.content_put]
    simp only [StoreContents.mark, Store.contents, Function.update_apply]
    by_cases hc : c = MIGRATIONS_NAMESPACE
    · by_cases hi : i = step.id
      · simp [hc, hi]
      · simp [hc, hi]
    · simp [hc]
  exact congrArg (StoreContents.mk · store.entries) hrows

/-- A change of the targets, by content. -/
theorem OnlyTargets.contents (h : OnlyTargets store store') :
    store'.contents = store.contents.withTargets store'.targets := by
  have hrows : store'.content = (store.contents.withTargets store'.targets).rows := by
    funext c i
    by_cases hc : c = PREFS_NAMESPACE
    · subst hc
      simp only [StoreContents.withTargets, Function.update_self, Store.targets]
    · simp only [StoreContents.withTargets, Function.update_of_ne hc, Store.contents, Store.content]
      rw [h.row hc]
  unfold Store.contents at hrows ⊢
  rw [hrows, h.entries]
  rfl

/-- A change of the streams, by content. -/
theorem SameStreams.contents (h : SameStreams store store') :
    store'.contents = store.contents.withEntries store'.entries := by
  have hrows : store'.content = store.content := by
    funext c i
    unfold Store.content Store.row
    rw [h.collections]
  unfold Store.contents
  rw [hrows]
  rfl

end
