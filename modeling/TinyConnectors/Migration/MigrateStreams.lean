/-
# Migrating the day streams

`migrate_streams` (`state/migration.rs`) as a machine.  For every legacy stream
it verifies the prefix the target already has, and copies the rest page by page
with a compare-and-append; a lost race is accepted when the page it lost reads
back.  The offset of the next page is the target's length, read after the page.
-/
import TinyConnectors.Migration.PreferenceRecord

open Await Relation RustStr

/-- One round of the loop over the listed streams. -/
structure StreamFrame where
  source : String
  target : String
  /-- The streams still to come. -/
  rest : List String

/-- Where `migrate_streams` is suspended, with the variables that are live there. -/
inductive MigrateStreams where
  | listing
  | readSourceLen (frame : StreamFrame)
  | readTargetLen (frame : StreamFrame) (sourceLen : ℕ)
  | verifySource (frame : StreamFrame) (sourceLen targetLen verified : ℕ)
  | verifyTarget (frame : StreamFrame) (sourceLen targetLen verified : ℕ)
      (sourceEntries : List Json)
  | readPage (frame : StreamFrame) (sourceLen offset : ℕ)
  | appendPage (frame : StreamFrame) (sourceLen offset : ℕ) (values : List Json)
  | readRaced (frame : StreamFrame) (sourceLen offset : ℕ) (values : List Json)
      (error : StorageError)
  | lengthAfter (frame : StreamFrame) (sourceLen offset : ℕ) (values : List Json)
  | finalLen (frame : StreamFrame) (sourceLen : ℕ)
  | done (result : StorageResult Unit)

namespace MigrateStreams

/-- The target is longer than the source. -/
def longerTarget (f : StreamFrame) : StorageError :=
  .conflict s!"migration target `{f.target}` is longer than source `{f.source}`"

/-- The target does not start like the source. -/
def differingTarget (f : StreamFrame) : StorageError :=
  .conflict s!"migration target `{f.target}` differs from source `{f.source}`"

/-- The source is not what it was. -/
def changedSource (f : StreamFrame) : StorageError :=
  .conflict s!"migration source `{f.source}` changed while it was copied"

/-- The head of the loop over the listed streams. -/
def nextStream : List String → MigrateStreams
  | [] => .done (.ok ())
  | source :: rest =>
    match stripPrefix source LEGACY_STREAM_PREFIX with
    | none => .done (.error (.invalidInput "stream listing returned a name outside its prefix"))
    | some day => .readSourceLen ⟨source, STREAM_PREFIX ++ day, rest⟩

/-- The head of the copy loop. -/
def copyLoop (f : StreamFrame) (sourceLen offset : ℕ) : MigrateStreams :=
  if offset < sourceLen then .readPage f sourceLen offset else .finalLen f sourceLen

/-- The head of the verify loop, which the copy loop follows. -/
def verifyLoop (f : StreamFrame) (sourceLen targetLen verified : ℕ) : MigrateStreams :=
  if verified < targetLen then .verifySource f sourceLen targetLen verified
  else copyLoop f sourceLen targetLen

/-- How many entries the next comparison reads. -/
def pageLimit (targetLen verified : ℕ) : ℕ := min (targetLen - verified) PAGE_SIZE

/-- `iter().zip(..).any(|(a, b)| a != b)`. -/
def anyDiffers (xs ys : List Json) : Bool := (xs.zip ys).any fun pair => pair.1 ≠ pair.2

def afterTargetLen (f : StreamFrame) (sourceLen : ℕ) : StorageResult ℕ → MigrateStreams
  | .ok targetLen =>
    if targetLen > sourceLen then .done (.error (longerTarget f))
    else verifyLoop f sourceLen targetLen 0
  | .error error => .done (.error error)

def afterVerifyTarget (f : StreamFrame) (sourceLen targetLen verified : ℕ)
    (sourceEntries : List Json) : StorageResult (List Json) → MigrateStreams
  | .ok targetEntries =>
    let limit := pageLimit targetLen verified
    if sourceEntries.length ≠ limit ∨ targetEntries.length ≠ limit ∨
        anyDiffers sourceEntries targetEntries = true then
      .done (.error (differingTarget f))
    else verifyLoop f sourceLen targetLen (verified + limit)
  | .error error => .done (.error error)

def afterReadPage (f : StreamFrame) (sourceLen offset : ℕ) :
    StorageResult (List Json) → MigrateStreams
  | .ok entries =>
    if entries.isEmpty then .done (.error (changedSource f))
    else .appendPage f sourceLen offset entries
  | .error error => .done (.error error)

def afterAppendPage (f : StreamFrame) (sourceLen offset : ℕ) (values : List Json) :
    StorageResult ℕ → MigrateStreams
  | .ok _ => .lengthAfter f sourceLen offset values
  | .error error =>
    if error.isConflict then .readRaced f sourceLen offset values error
    else .done (.error error)

/-- Another opener may have copied the page: only an exact match is accepted. -/
def afterReadRaced (f : StreamFrame) (sourceLen offset : ℕ) (values : List Json)
    (error : StorageError) : StorageResult (List Json) → MigrateStreams
  | .ok raced =>
    if raced.length ≠ values.length ∨ anyDiffers raced values = true then .done (.error error)
    else .lengthAfter f sourceLen offset values
  | .error error => .done (.error error)

def afterFinalLen (f : StreamFrame) (sourceLen : ℕ) : StorageResult ℕ → MigrateStreams
  | .ok len => if len ≠ sourceLen then .done (.error (changedSource f)) else nextStream f.rest
  | .error error => .done (.error error)

/-- Go on with a reply, or return its error (`?`). -/
def andThen {α : Type} (next : α → MigrateStreams) : StorageResult α → MigrateStreams
  | .ok value => next value
  | .error error => .done (.error error)

/-- The whole function. -/
def poll : MigrateStreams → Poll StorageCall StorageCall.Reply MigrateStreams (StorageResult Unit)
  | .listing => .pending (.streams LEGACY_STREAM_PREFIX) (andThen nextStream)
  | .readSourceLen f => .pending (.len f.source) (andThen fun len => .readTargetLen f len)
  | .readTargetLen f sourceLen => .pending (.len f.target) (afterTargetLen f sourceLen)
  | .verifySource f sourceLen targetLen verified =>
    .pending (.readWindow f.source verified (pageLimit targetLen verified))
      (andThen fun entries => .verifyTarget f sourceLen targetLen verified entries)
  | .verifyTarget f sourceLen targetLen verified sourceEntries =>
    .pending (.readWindow f.target verified (pageLimit targetLen verified))
      (afterVerifyTarget f sourceLen targetLen verified sourceEntries)
  | .readPage f sourceLen offset =>
    .pending (.readWindow f.source offset PAGE_SIZE) (afterReadPage f sourceLen offset)
  | .appendPage f sourceLen offset values =>
    .pending (.appendBatchIfOffset f.target offset values)
      (afterAppendPage f sourceLen offset values)
  | .readRaced f sourceLen offset values error =>
    .pending (.readWindow f.target offset values.length)
      (afterReadRaced f sourceLen offset values error)
  | .lengthAfter f sourceLen _ _ => .pending (.len f.target) (andThen (copyLoop f sourceLen))
  | .finalLen f sourceLen => .pending (.len f.source) (afterFinalLen f sourceLen)
  | .done result => .ready result

end MigrateStreams

/-! ## Names -/

/-- A legacy day stream. -/
def IsLegacyStream (name : String) : Prop := startsWith name LEGACY_STREAM_PREFIX = true

/-- The stream a legacy stream is copied to. -/
def targetOf (source : String) : String :=
  STREAM_PREFIX ++ String.ofList (source.toList.drop LEGACY_STREAM_PREFIX.toList.length)

/-- The legacy streams, in listing order. -/
def Store.legacyStreams (store : Store) : List String :=
  store.names.filter (startsWith · LEGACY_STREAM_PREFIX)

theorem mem_legacyStreams {store : Store} {name : String} (h : name ∈ store.legacyStreams) :
    IsLegacyStream name :=
  (List.mem_filter.mp h).2

/-- A target is never a legacy stream itself. -/
theorem not_isLegacyStream_append (day : String) : ¬ IsLegacyStream (STREAM_PREFIX ++ day) := by
  unfold IsLegacyStream startsWith LEGACY_STREAM_PREFIX STREAM_PREFIX
  rw [String.toList_append]
  simp

/-- Two legacy streams never share a target. -/
theorem targetOf_injective {a b : String} (ha : IsLegacyStream a) (hb : IsLegacyStream b)
    (h : targetOf a = targetOf b) : a = b := by
  obtain ⟨s, hs⟩ := List.isPrefixOf_iff_prefix.mp ha
  obtain ⟨t, ht⟩ := List.isPrefixOf_iff_prefix.mp hb
  have hst : s = t := by
    have hlist := congrArg String.toList h
    simpa [targetOf, ← hs, ← ht] using hlist
  apply String.toList_injective
  rw [← hs, ← ht, hst]

theorem MigrateStreams.nextStream_cons {source : String} (h : IsLegacyStream source)
    (rest : List String) :
    nextStream (source :: rest) = .readSourceLen ⟨source, targetOf source, rest⟩ := by
  have hstrip : stripPrefix source LEGACY_STREAM_PREFIX =
      some (String.ofList (source.toList.drop LEGACY_STREAM_PREFIX.toList.length)) := if_pos h
  simp only [nextStream, hstrip, targetOf]

/-- Appending to a target changes no legacy stream. -/
theorem legacyStreams_append (store : Store) (day : String) (values : List Json) :
    (store.append (STREAM_PREFIX ++ day) values).legacyStreams = store.legacyStreams := by
  unfold Store.legacyStreams Store.append
  by_cases hmem : STREAM_PREFIX ++ day ∈ store.names
  · simp [hmem]
  · have hnot : startsWith (STREAM_PREFIX ++ day) LEGACY_STREAM_PREFIX = false :=
      Bool.eq_false_iff.mpr (not_isLegacyStream_append day)
    simp [hmem, hnot]

theorem entries_append_of_legacy {name : String} (h : IsLegacyStream name) (store : Store)
    (day : String) (values : List Json) :
    (store.append (STREAM_PREFIX ++ day) values).entries name = store.entries name := by
  rw [Store.entries_append, if_neg]
  rintro rfl
  exact not_isLegacyStream_append day h

/-- Two lists of one length without a difference are one list. -/
theorem MigrateStreams.anyDiffers_iff {xs ys : List Json} (hlen : xs.length = ys.length) :
    anyDiffers xs ys = true ↔ xs ≠ ys := by
  induction xs generalizing ys with
  | nil =>
    cases ys with
    | nil => simp [anyDiffers]
    | cons y ys => simp at hlen
  | cons x xs ih =>
    cases ys with
    | nil => simp at hlen
    | cons y ys =>
      have hrest := @ih ys (by simpa using hlen)
      simp only [anyDiffers, List.zip_cons_cons, List.any_cons, Bool.or_eq_true] at hrest ⊢
      rw [hrest]
      by_cases hxy : x = y
      · simp [hxy]
      · simp [hxy]
