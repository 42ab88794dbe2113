/-
# The storage ports

What the migration relies on of the host's document and stream stores, neither
of which is part of this repository: the calls, their replies, and the port
contract `Serves`.  Documents are versioned rows by collection and id, a write
with a precondition is atomic and a version is never issued twice (the field
`versions` of `Store` is that promise for the rows at hand); a stream is a list
of values, and its conditional append succeeds exactly at its length.
-/
import Mathlib.Data.List.AList
import TinyConnectors.Await
import TinyConnectors.Json
import TinyConnectors.RustStr

/-- `tinystoragedrivers_types::StorageError`, by its kind. -/
inductive StorageError where
  | conflict (message : String)
  | invalidInput (message : String)
  /-- Every other kind: the backend failed. -/
  | backend (message : String)
  deriving DecidableEq

/-- `error.kind() == ErrorKind::Conflict`. -/
def StorageError.isConflict : StorageError → Bool
  | .conflict _ => true
  | _ => false

/-- `tinystoragedrivers_types::Result`. -/
abbrev StorageResult (α : Type) := Except StorageError α

/-- A version token. -/
abbrev Version := ℕ

/-- A stored document with what the migration reads of its metadata. -/
structure Row where
  doc : Json
  expiresMs : Option ℤ
  version : Version
  deriving DecidableEq

/-- A document as it is returned, with its id. -/
structure Versioned extends Row where
  id : String
  deriving DecidableEq

/-- What a conditional write asks of the row it replaces. -/
inductive Precondition where
  | none
  | absent
  | version (version : Version)
  deriving DecidableEq

/-- Whether a write with this precondition may replace `row`. -/
def Precondition.holds : Precondition → Option Row → Bool
  | .none, _ => true
  | .absent, row => row.isNone
  | .version v, row => row.any fun row => row.version = v

/-- `WriteOptions`. -/
structure WriteOptions where
  schema : Option ℕ
  expiresMs : Option ℤ
  deriving DecidableEq

/-- One page of a query. -/
structure Page where
  items : List Versioned
  next : Option ℕ
  deriving DecidableEq

/-! ## Calls and replies -/

/-- The calls of `DocumentStore` and `StreamStore` the migration makes. -/
inductive StorageCall where
  | get (collection id : String)
  | putWith (collection id : String) (doc : Json) (precondition : Precondition)
      (options : WriteOptions)
  | delete (collection id : String) (precondition : Precondition)
  | query (collection : String) (cursor : Option ℕ) (limit : ℕ)
  | streams (namePrefix : String)
  | len (stream : String)
  | readWindow (stream : String) (start limit : ℕ)
  | appendBatchIfOffset (stream : String) (expected : ℕ) (values : List Json)

/-- What each call answers when it succeeds. -/
abbrev StorageCall.Answer : StorageCall → Type
  | .get _ _ => Option Versioned
  | .putWith _ _ _ _ _ => Version
  | .delete _ _ _ => Bool
  | .query _ _ _ => Page
  | .streams _ => List String
  | .len _ => ℕ
  | .readWindow _ _ _ => List Json
  | .appendBatchIfOffset _ _ _ => ℕ

/-- What each call replies. -/
abbrev StorageCall.Reply (call : StorageCall) : Type := StorageResult call.Answer

/-! ## The store -/

/-- The host's storage. -/
structure Store where
  /-- The rows of each collection, in listing order. -/
  collections : String → AList fun _ : String => Row
  /-- Every version token handed out so far. -/
  issued : Finset Version
  /-- The rows carry issued tokens. -/
  versions : ∀ collection id row, (collections collection).lookup id = some row →
    row.version ∈ issued
  /-- The names of the streams, in listing order. -/
  names : List String
  /-- The values of each stream, from offset `0`. -/
  entries : String → List Json

namespace Store

/-- Storage nobody has written to. -/
def empty : Store where
  collections _ := ∅
  issued := ∅
  versions := by simp
  names := []
  entries _ := []

/-- The row under an id. -/
def row (store : Store) (collection id : String) : Option Row :=
  (store.collections collection).lookup id

/-- The rows of a collection as a query lists them. -/
def listing (store : Store) (collection : String) : List Versioned :=
  (store.collections collection).entries.map fun entry => ⟨entry.2, entry.1⟩

/-- Write a row under a token the store has not issued before. -/
def put (store : Store) (collection id : String) (doc : Json) (expiresMs : Option ℤ)
    (version : Version) : Store where
  collections := Function.update store.collections collection
    ((store.collections collection).insert id ⟨doc, expiresMs, version⟩)
  issued := insert version store.issued
  versions := by
    intro c i found hfound
    by_cases hc : c = collection
    · subst hc
      rw [Function.update_self] at hfound
      by_cases hi : i = id
      · subst hi
        rw [AList.lookup_insert, Option.some_inj] at hfound
        simp [← hfound]
      · rw [AList.lookup_insert_ne hi] at hfound
        exact Finset.mem_insert_of_mem (store.versions c i found hfound)
    · rw [Function.update_of_ne hc] at hfound
      exact Finset.mem_insert_of_mem (store.versions c i found hfound)
  names := store.names
  entries := store.entries

/-- Remove a row. -/
def erase (store : Store) (collection id : String) : Store where
  collections := Function.update store.collections collection
    ((store.collections collection).erase id)
  issued := store.issued
  versions := by
    intro c i found hfound
    by_cases hc : c = collection
    · subst hc
      rw [Function.update_self] at hfound
      by_cases hi : i = id
      · subst hi
        rw [AList.lookup_erase] at hfound
        cases hfound
      · rw [AList.lookup_erase_ne hi] at hfound
        exact store.versions c i found hfound
    · rw [Function.update_of_ne hc] at hfound
      exact store.versions c i found hfound
  names := store.names
  entries := store.entries

/-- Append values to a stream, which then exists. -/
def append (store : Store) (stream : String) (values : List Json) : Store :=
  { store with
    names := if stream ∈ store.names then store.names else store.names ++ [stream]
    entries := Function.update store.entries stream (store.entries stream ++ values) }

section
variable (store : Store) (collection id : String) (doc : Json) (expiresMs : Option ℤ)
  (version : Version) (stream : String) (values : List Json)

theorem row_put (c i : String) :
    (store.put collection id doc expiresMs version).row c i =
      if c = collection ∧ i = id then some ⟨doc, expiresMs, version⟩ else store.row c i := by
  unfold row put
  by_cases hc : c = collection
  · subst hc
    by_cases hi : i = id
    · subst hi
      simp
    · simp [hi]
  · simp [hc]

theorem row_erase (c i : String) :
    (store.erase collection id).row c i =
      if c = collection ∧ i = id then none else store.row c i := by
  unfold row erase
  by_cases hc : c = collection
  · subst hc
    by_cases hi : i = id
    · subst hi
      simp
    · simp [hi, AList.lookup_erase_ne]
  · simp [hc]

@[simp] theorem row_append (c i : String) : (store.append stream values).row c i = store.row c i :=
  rfl

@[simp] theorem entries_put :
    (store.put collection id doc expiresMs version).entries = store.entries := rfl

@[simp] theorem entries_erase : (store.erase collection id).entries = store.entries := rfl

@[simp] theorem names_put :
    (store.put collection id doc expiresMs version).names = store.names := rfl

@[simp] theorem issued_put :
    (store.put collection id doc expiresMs version).issued = insert version store.issued := rfl

@[simp] theorem issued_erase : (store.erase collection id).issued = store.issued := rfl

theorem entries_append (name : String) :
    (store.append stream values).entries name =
      if name = stream then store.entries stream ++ values else store.entries name := by
  unfold append
  by_cases hname : name = stream
  · subst hname
    simp
  · simp [hname]

end

end Store

/-! ## The port contract -/

/-- A page starts at the cursor, holds at most `limit` rows, is empty only at the
end, and names a next cursor unless nothing is left. -/
def PageOf (listing : List Versioned) (cursor : Option ℕ) (limit : ℕ) (page : Page) : Prop :=
  let start := cursor.getD 0
  ∃ k ≤ limit, page.items = (listing.drop start).take k ∧
    (k = 0 → listing.drop start = []) ∧
    (page.next = some (start + k) ∨ (page.next = none ∧ listing.drop (start + k) = []))

/-- What the two stores may reply, and what they are afterwards, when no call fails. -/
def Serves : Await.Port StorageCall StorageCall.Reply Store
  | .get collection id, store, reply, store' =>
    reply = .ok ((store.row collection id).map fun row => ⟨row, id⟩) ∧ store' = store
  | .putWith collection id doc precondition options, store, reply, store' =>
    if precondition.holds (store.row collection id) then
      ∃ version ∉ store.issued, reply = .ok version ∧
        store' = store.put collection id doc options.expiresMs version
    else (∃ message, reply = .error (.conflict message)) ∧ store' = store
  | .delete collection id precondition, store, reply, store' =>
    if precondition.holds (store.row collection id) then
      reply = .ok (store.row collection id).isSome ∧ store' = store.erase collection id
    else ((∃ message, reply = .error (.conflict message)) ∨
      (store.row collection id = none ∧ reply = .ok false)) ∧ store' = store
  | .query collection cursor limit, store, reply, store' =>
    (∃ page, PageOf (store.listing collection) cursor limit page ∧ reply = .ok page) ∧
      store' = store
  | .streams namePrefix, store, reply, store' =>
    reply = .ok (store.names.filter (RustStr.startsWith · namePrefix)) ∧ store' = store
  | .len stream, store, reply, store' =>
    reply = .ok (store.entries stream).length ∧ store' = store
  | .readWindow stream start limit, store, reply, store' =>
    reply = .ok (((store.entries stream).drop start).take limit) ∧ store' = store
  | .appendBatchIfOffset stream expected values, store, reply, store' =>
    if (store.entries stream).length = expected then
      reply = .ok expected ∧ store' = store.append stream values
    else (∃ message, reply = .error (.conflict message)) ∧ store' = store

/-- A failing call reports an error that is not a conflict. -/
def IsFault (call : StorageCall) (reply : call.Reply) : Prop :=
  ∃ error, reply = .error error ∧ error.isConflict = false

/-- The store can always hand out another token. -/
theorem exists_fresh (store : Store) : ∃ version, version ∉ store.issued :=
  Infinite.exists_notMem_finset store.issued

/-- A query with a limit has a page. -/
theorem exists_page (listing : List Versioned) (cursor : Option ℕ) {limit : ℕ}
    (hlimit : 0 < limit) :
    ∃ page, PageOf listing cursor limit page := by
  refine ⟨⟨(listing.drop (cursor.getD 0)).take limit, some (cursor.getD 0 + limit)⟩, limit,
    le_rfl, rfl, fun hzero => ?_, .inl rfl⟩
  omega

/-- Every call can be answered, a query whose limit is positive among them. -/
theorem exists_reply (call : StorageCall) (store : Store)
    (hlimit : ∀ collection cursor, call ≠ .query collection cursor 0) :
    ∃ reply store', Serves call store reply store' := by
  cases call with
  | query collection cursor limit =>
    have hpos : 0 < limit := by
      rcases Nat.eq_zero_or_pos limit with rfl | hpos
      · exact absurd rfl (hlimit collection cursor)
      · exact hpos
    obtain ⟨page, hpage⟩ := exists_page (store.listing collection) cursor hpos
    exact ⟨_, _, ⟨page, hpage, rfl⟩, rfl⟩
  | putWith collection id doc precondition options =>
    by_cases hholds : precondition.holds (store.row collection id)
    · obtain ⟨version, hfresh⟩ := exists_fresh store
      refine ⟨.ok version, store.put collection id doc options.expiresMs version, ?_⟩
      simp only [Serves, if_pos hholds]
      exact ⟨version, hfresh, rfl, rfl⟩
    · refine ⟨.error (.conflict ""), store, ?_⟩
      simp only [Serves, if_neg hholds]
      exact ⟨⟨"", rfl⟩, trivial⟩
  | delete collection id precondition =>
    by_cases hholds : precondition.holds (store.row collection id)
    · refine ⟨.ok (store.row collection id).isSome, store.erase collection id, ?_⟩
      simp only [Serves, if_pos hholds]
      exact ⟨trivial, trivial⟩
    · refine ⟨.error (.conflict ""), store, ?_⟩
      simp only [Serves, if_neg hholds]
      exact ⟨.inl ⟨"", rfl⟩, trivial⟩
  | appendBatchIfOffset stream expected values =>
    by_cases hlen : (store.entries stream).length = expected
    · refine ⟨.ok expected, store.append stream values, ?_⟩
      simp only [Serves, if_pos hlen]
      exact ⟨trivial, trivial⟩
    · refine ⟨.error (.conflict ""), store, ?_⟩
      simp only [Serves, if_neg hlen]
      exact ⟨⟨"", rfl⟩, trivial⟩
  | get _ _ | streams _ | len _ | readWindow _ _ _ => exact ⟨_, store, rfl, rfl⟩

/-! ## How a store grows -/

/-- Tokens stay issued, and a row is either what it was or carries a new token. -/
def Store.Grows (store store' : Store) : Prop :=
  store.issued ⊆ store'.issued ∧ ∀ collection id row, store'.row collection id = some row →
    store.row collection id = some row ∨ row.version ∉ store.issued

namespace Store

theorem Grows.refl (store : Store) : store.Grows store :=
  ⟨Finset.Subset.refl _, fun _ _ _ h => .inl h⟩

theorem Grows.put {store : Store} {version : Version} (hfresh : version ∉ store.issued)
    (collection id : String) (doc : Json) (expiresMs : Option ℤ) :
    store.Grows (store.put collection id doc expiresMs version) := by
  refine ⟨Finset.subset_insert _ _, fun c i row hrow => ?_⟩
  rw [row_put] at hrow
  split_ifs at hrow with h
  · rw [Option.some_inj] at hrow
    subst hrow
    exact .inr hfresh
  · exact .inl hrow

theorem Grows.erase (store : Store) (collection id : String) :
    store.Grows (store.erase collection id) := by
  refine ⟨Finset.Subset.refl _, fun c i row hrow => ?_⟩
  rw [row_erase] at hrow
  split_ifs at hrow with h
  exact .inl hrow

/-- A row under an issued token has not changed if it is still there. -/
theorem Grows.row_of_issued {store store' : Store} (h : store.Grows store')
    {collection id : String} {row : Row} (hrow : store'.row collection id = some row)
    (hissued : row.version ∈ store.issued) : store.row collection id = some row :=
  (h.2 collection id row hrow).resolve_right fun hnot => hnot hissued

end Store

/-- Whatever a call does, the store grows. -/
theorem Serves.grows {call : StorageCall} {store store' : Store} {reply : call.Reply}
    (h : Serves call store reply store') : store.Grows store' := by
  cases call with
  | putWith collection id doc precondition options =>
    simp only [Serves] at h
    split_ifs at h
    · obtain ⟨version, hfresh, -, rfl⟩ := h
      exact .put hfresh ..
    · rw [h.2]
      exact .refl store
  | delete collection id precondition =>
    simp only [Serves] at h
    split_ifs at h
    · rw [h.2]
      exact .erase store ..
    · rw [h.2]
      exact .refl store
  | appendBatchIfOffset stream expected values =>
    simp only [Serves] at h
    split_ifs at h
    · rw [h.2]
      exact .refl store
    · rw [h.2]
      exact .refl store
  | get _ _ | query _ _ _ | streams _ | len _ | readWindow _ _ _ =>
    rw [h.2]
    exact .refl store
