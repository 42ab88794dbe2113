/-
# The history through a preparation

`prepare` (`state/migration.rs`) as the archive sees it: of its calls only those that
copy a day of the retired stream family write to a stream at all, and the days hold the
same deliveries before each of them and after it, whichever fail.
-/
import TinyConnectors.Archive.History
import TinyConnectors.Migration.PrepareStorage

open Await

/-- A call of the document store. -/
def StorageCall.OnDocuments : StorageCall → Prop
  | .get _ _ | .putWith _ _ _ _ _ | .delete _ _ _ | .query _ _ _ => True
  | .streams _ | .len _ | .readWindow _ _ _ | .appendBatchIfOffset _ _ _ => False

/-- The streams and their names are the same. -/
structure SameDays (store store' : Store) : Prop where
  entries : store'.entries = store.entries
  names : store'.names = store.names

theorem SameDays.refl (store : Store) : SameDays store store := ⟨rfl, rfl⟩

/-- The document store does not touch a stream. -/
theorem sameDays_of_serves {call : StorageCall} {reply : call.Reply} {store store' : Store}
    (h : call.OnDocuments) (hserved : Serves call store reply store') : SameDays store store' := by
  cases call with
  | get collection id =>
    obtain ⟨-, rfl⟩ := hserved
    exact .refl _
  | putWith collection id doc precondition options =>
    simp only [Serves] at hserved
    split_ifs at hserved
    · obtain ⟨version, -, -, rfl⟩ := hserved
      exact ⟨rfl, rfl⟩
    · obtain ⟨-, rfl⟩ := hserved
      exact .refl _
  | delete collection id precondition =>
    simp only [Serves] at hserved
    split_ifs at hserved
    · obtain ⟨-, rfl⟩ := hserved
      exact ⟨rfl, rfl⟩
    · obtain ⟨-, rfl⟩ := hserved
      exact .refl _
  | query collection cursor limit =>
    obtain ⟨-, rfl⟩ := hserved
    exact .refl _
  | _ => exact h.elim

section
variable {σ α : Type} {poll : σ → Poll StorageCall StorageCall.Reply σ α} {s s' : σ}
  {store store' : Store}

/-- A step at a call of the document store, whether the call fails or not. -/
theorem document_step {call : StorageCall} {resume : call.Reply → σ}
    (h : FaultyStep poll Serves IsFault (s, store) (s', store'))
    (hpoll : poll s = .pending call resume) (hcall : call.OnDocuments) :
    (∃ reply, s' = resume reply) ∧ SameDays store store' := by
  cases h with
  | served h =>
    simp only [Advances, hpoll] at h
    obtain ⟨reply, hserved, rfl⟩ := h
    exact ⟨⟨reply, rfl⟩, sameDays_of_serves hcall hserved⟩
  | failed h _ heffect =>
    rw [hpoll] at h
    cases h
    refine ⟨⟨_, rfl⟩, ?_⟩
    rcases heffect with rfl | ⟨unseen, hserved⟩
    · exact .refl _
    · exact sameDays_of_serves hcall hserved

/-- A machine that has returned steps no more. -/
theorem no_step_of_ready {result : α} (h : FaultyStep poll Serves IsFault (s, store) (s', store'))
    (hpoll : poll s = .ready result) : False := by
  cases h with
  | served h => simp only [Advances, hpoll] at h
  | failed h _ _ =>
    rw [hpoll] at h
    cases h

/-- A machine that goes on without a call leaves the store alone. -/
theorem goto_step {next : σ} (h : FaultyStep poll Serves IsFault (s, store) (s', store'))
    (hpoll : poll s = .goto next) : s' = next ∧ store' = store := by
  cases h with
  | served h =>
    simp only [Advances, hpoll] at h
    exact h
  | failed h _ _ =>
    rw [hpoll] at h
    cases h

end

/-! ## The preferences -/

/-- The migration of one preference calls the document store only. -/
theorem MigratePreference.sameDays {m m' : MigratePreference} {store store' : Store}
    (h : FaultyStep MigratePreference.poll Serves IsFault (m, store) (m', store')) :
    SameDays store store' := by
  cases hpoll : m.poll with
  | ready result => exact (no_step_of_ready h hpoll).elim
  | goto next =>
    obtain ⟨-, rfl⟩ := goto_step h hpoll
    exact .refl _
  | pending call resume =>
    refine (document_step h hpoll ?_).2
    unfold MigratePreference.poll at hpoll
    split at hpoll
    all_goals first
      | cases hpoll; exact trivial
      | cases hpoll

theorem MigratePreferences.sameDays {port : KeyPort} {m m' : MigratePreferences}
    {store store' : Store}
    (h : FaultyStep (MigratePreferences.poll port) Serves IsFault (m, store) (m', store')) :
    SameDays store store' := by
  cases m with
  | queryPage cursor => exact (document_step h rfl trivial).2
  | nextRecord items next =>
    obtain ⟨-, rfl⟩ := goto_step h rfl
    exact .refl _
  | migrate items next call =>
    rcases h.embed (MigratePreferences.poll_migrate port items next) with ⟨call', -, hcall⟩
      | ⟨-, -, -, rfl⟩
    · exact MigratePreference.sameDays hcall
    · exact .refl _
  | done result => exact (no_step_of_ready h rfl).elim

/-! ## The whole preparation -/

namespace Archive

/-- The same days hold the same deliveries. -/
theorem Kept.congr {store store' : Store} {appended : List Entry} (h : Kept ⟨store, appended⟩)
    (hsame : SameDays store store') : Kept ⟨store', appended⟩ where
  readable name hday := by
    show Readable appended (store'.entries name)
    rw [hsame.entries]
    exact h.readable name hday
  retained entry hentry := by
    show ∃ name, IsDay name ∧ ∃ value ∈ store'.entries name, _
    rw [hsame.entries]
    exact h.retained entry hentry
  listed name hday hne := by
    show name ∈ store'.names
    have hne : store'.entries name ≠ [] := hne
    rw [hsame.entries] at hne
    rw [hsame.names]
    exact h.listed name hday hne

/-- What a preparation under way is about to write to a stream. -/
def PreparesDays (call : PrepareStorage) (c : Logged) : Prop :=
  match call with
  | .migrateStreams copy => CopiesDays copy c
  | _ => True

theorem preparesDays_nextStep (step : MigrationStep) (c : Logged) :
    PreparesDays (PrepareStorage.nextStep step) c := by
  cases step with
  | prefs => exact trivial
  | streams => exact trivial

theorem preparesDays_runStep (step : MigrationStep) (c : Logged) :
    PreparesDays (PrepareStorage.runStep step) c := by
  cases step with
  | prefs => exact trivial
  | streams => exact trivial

theorem preparesDays_afterCheckDone (step : MigrationStep)
    (found : StorageResult (Option Versioned)) (c : Logged) :
    PreparesDays (PrepareStorage.afterCheckDone step found) c := by
  unfold PrepareStorage.afterCheckDone
  split
  · split
    · exact preparesDays_nextStep step c
    · exact preparesDays_runStep step c
    · exact trivial
  · exact trivial

theorem preparesDays_afterMigration (step : MigrationStep) (result : StorageResult Unit)
    (c : Logged) :
    PreparesDays (PrepareStorage.afterMigration step result) c := by
  cases result with
  | ok _ => exact trivial
  | error _ => exact trivial

theorem preparesDays_afterMarkDone (step : MigrationStep) (result : StorageResult Version)
    (c : Logged) :
    PreparesDays (PrepareStorage.afterMarkDone step result) c := by
  unfold PrepareStorage.afterMarkDone
  split
  · exact preparesDays_nextStep step c
  · split
    · exact trivial
    · exact trivial

theorem preparesDays_afterRecheckDone (step : MigrationStep) (conflict : StorageError)
    (found : StorageResult (Option Versioned)) (c : Logged) :
    PreparesDays (PrepareStorage.afterRecheckDone step conflict found) c := by
  unfold PrepareStorage.afterRecheckDone
  split
  · split
    · exact preparesDays_nextStep step c
    · exact trivial
    · exact trivial
  · exact trivial

/-- A step of a preparation keeps the days. -/
theorem Kept.prepare {port : KeyPort} {call call' : PrepareStorage} {store store' : Store}
    {appended : List Entry} (h : Kept ⟨store, appended⟩)
    (hcall : PreparesDays call ⟨store, appended⟩)
    (hstep : FaultyStep (PrepareStorage.poll port) Serves IsFault (call, store) (call', store')) :
    Kept ⟨store', appended⟩ ∧ PreparesDays call' ⟨store', appended⟩ := by
  cases call with
  | checkDone step =>
    obtain ⟨⟨reply, rfl⟩, hsame⟩ := document_step hstep rfl trivial
    exact ⟨h.congr hsame, preparesDays_afterCheckDone step reply _⟩
  | migratePreferences m =>
    rcases hstep.embed (PrepareStorage.poll_migratePreferences port) with
      ⟨m', rfl, hm⟩ | ⟨result, -, rfl, rfl⟩
    · exact ⟨h.congr (MigratePreferences.sameDays hm), trivial⟩
    · exact ⟨h, preparesDays_afterMigration .prefs result _⟩
  | migrateStreams m =>
    rcases hstep.embed (PrepareStorage.poll_migrateStreams port) with
      ⟨m', rfl, hm⟩ | ⟨result, -, rfl, rfl⟩
    · have htask : writers.task m ⟨store, appended⟩ m' ⟨store', appended⟩ := ⟨hm, rfl⟩
      obtain ⟨hkept, hcopies, -⟩ := writers_stable.task h hcall htask
      exact ⟨hkept, hcopies⟩
    · exact ⟨h, preparesDays_afterMigration .streams result _⟩
  | markDone step =>
    obtain ⟨⟨reply, rfl⟩, hsame⟩ := document_step hstep rfl trivial
    exact ⟨h.congr hsame, preparesDays_afterMarkDone step reply _⟩
  | recheckDone step error =>
    obtain ⟨⟨reply, rfl⟩, hsame⟩ := document_step hstep rfl trivial
    exact ⟨h.congr hsame, preparesDays_afterRecheckDone step error reply _⟩
  | done result => exact (no_step_of_ready hstep rfl).elim

end Archive
