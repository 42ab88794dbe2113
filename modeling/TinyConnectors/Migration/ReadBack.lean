/-
# Reading a migrated preference back

`DocumentPrefsStore::get` (`state/document_store.rs`) looks a preference up
under the encoded id of its key.  `migrate_preferences` encodes the id of the
legacy row, which is encoded already; so what it copies is found again exactly
when a second encoding changes nothing, that is for the plain keys.
-/
import TinyConnectors.Migration.MigratePreferences
import TinyConnectors.Prefs

open Await Relation

namespace DocumentPrefsStore

/-- A storage error, as the preference store reports it. -/
def failed (display : StorageError → String) (key action : String) (error : StorageError) :
    SyncError :=
  .store key s!"could not {action}: {display error}"

/-- The document id for a toolkit key. -/
def documentId (port : KeyPort) (display : StorageError → String) (key : String) :
    Except SyncError String :=
  match legacyKey port [key] with
  | .ok id => .ok id
  | .error error => .error (failed display key "address the preference" error)

/-- `get`, over what `documents.get(PREFS_NAMESPACE, id)` answers. -/
def get (port : KeyPort) (display : StorageError → String)
    (documents : String → StorageResult (Option Versioned)) (key : String) :
    Except SyncError (Option Json) :=
  match documentId port display key with
  | .error error => .error error
  | .ok id =>
    match documents id with
    | .ok found => .ok (found.map fun versioned => decodePreference versioned.doc)
    | .error error => .error (failed display key "read the preference" error)

end DocumentPrefsStore

/-- What a store that does not fail answers to a read of a target. -/
def Store.readTarget (store : Store) (id : String) : StorageResult (Option Versioned) :=
  .ok ((store.target id).map fun row => ⟨row, id⟩)

/-- A key with a document id reads the content of its target. -/
theorem DocumentPrefsStore.get_readTarget {port : KeyPort} {display : StorageError → String}
    {store : Store} {key id : String} (hkey : legacyKey port [key] = .ok id) :
    get port display store.readTarget key =
      .ok ((store.targets id).map fun content => decodePreference content.1) := by
  simp only [get, documentId, hkey, Store.readTarget, Store.targets_eq]
  cases store.target id with
  | none => rfl
  | some row => rfl

/-! ## What becomes of one target -/

section
variable {port : KeyPort} {rows : List Versioned} {targets : String → Option Content} {id : String}

/-- A target that stands is preserved. -/
theorem settleRows_of_eq_some {content : Content} (h : targets id = some content) :
    (settleRows port rows targets).2 id = some content := by
  induction rows generalizing targets with
  | nil => exact h
  | cons source rest ih =>
    rw [settleRows]
    cases legacyKey port [source.id] with
    | error error => exact h
    | ok i =>
      refine ih ?_
      unfold settleRow
      split_ifs with hsome
      · exact h
      · have hne : id ≠ i := by
          rintro rfl
          rw [h] at hsome
          exact hsome rfl
        rw [Function.update_of_ne hne]
        exact h

/-- A target no row has the key of is left alone. -/
theorem settleRows_of_forall_ne (h : ∀ source ∈ rows, legacyKey port [source.id] ≠ .ok id) :
    (settleRows port rows targets).2 id = targets id := by
  induction rows generalizing targets with
  | nil => rfl
  | cons source rest ih =>
    obtain ⟨hsource, hrest⟩ := List.forall_mem_cons.mp h
    rw [settleRows]
    cases hkey : legacyKey port [source.id] with
    | error error => rfl
    | ok i =>
      have hne : id ≠ i := by
        rintro rfl
        exact hsource hkey
      show (settleRows port rest (settleRow i source targets)).2 id = targets id
      rw [ih hrest, settleRow]
      split_ifs
      · rfl
      · exact Function.update_of_ne hne _ _

/-- The only row with the key of a free target is copied there. -/
theorem settleRows_of_unique {source : Versioned} (hsource : source ∈ rows)
    (hkey : legacyKey port [source.id] = .ok id)
    (hunique : ∀ other ∈ rows, legacyKey port [other.id] = .ok id → other = source)
    (hfree : targets id = none) (hok : (settleRows port rows targets).1 = .ok ()) :
    (settleRows port rows targets).2 id = some (copyOf source) := by
  induction rows generalizing targets with
  | nil => cases hsource
  | cons other rest ih =>
    obtain ⟨hother, hrest⟩ := List.forall_mem_cons.mp hunique
    rw [settleRows] at hok ⊢
    cases hi : legacyKey port [other.id] with
    | error error =>
      rw [hi] at hok
      cases hok
    | ok i =>
      rw [hi] at hok
      by_cases hid : i = id
      · subst hid
        refine settleRows_of_eq_some ?_
        rw [hother hi, settleRow, hfree]
        simp
      · have hmem : source ∈ rest := by
          rcases List.mem_cons.mp hsource with rfl | hmem
          · rw [hkey, Except.ok.injEq] at hi
            exact absurd hi.symm hid
          · exact hmem
        refine ih hmem hrest ?_ hok
        unfold settleRow
        split_ifs
        · exact hfree
        · rw [Function.update_of_ne (Ne.symm hid)]
          exact hfree

end

/-! ## Reading back -/

/-- Whenever `{"value": v}` is the legacy row under the id of `key`, its target
is free and nobody else writes, a migration that succeeds makes `v` readable
under `key`. -/
def ReadsBack (port : KeyPort) (display : StorageError → String) (key : String) (v : Json) : Prop :=
  ∀ id row store s' store', legacyKey port [key] = .ok id →
    store.row LEGACY_PREFS_NAMESPACE id = some row → row.doc = .obj [("value", v)] →
    store.target id = none →
    ReflTransGen (fun p q => Advances (MigratePreferences.poll port) Serves p.1 p.2 q.1 q.2)
      (.start, store) (s', store') →
    MigratePreferences.poll port s' = .ready (.ok ()) →
    DocumentPrefsStore.get port display store'.readTarget key = .ok (some v)

section
variable {port : KeyPort} {display : StorageError → String} {key : String} {v : Json}

/-- A plain key is its own id, and no other legacy row is copied there. -/
theorem readsBack_of_plainKey (hplain : PlainKey key) : ReadsBack port display key v := by
  intro id row store s' store' hkey hrow hdoc hfree hrun hready
  have hid : key = id := by
    rw [← legacyKey_eq_ok hkey, legacyId_of_plainKey hplain]
  subst hid
  have hsettled := (MigratePreferences.finishes_start.post_of_run hrun hready).outcome
  have hunique : ∀ other ∈ store.legacyRows, legacyKey port [other.id] = .ok key →
      other = ⟨row, key⟩ := by
    intro other hother hotherkey
    -- what is encoded to a plain key is plain, hence that key
    have hother' := legacyKey_eq_ok hotherkey
    rw [← hother'] at hplain
    rw [legacyId_of_plainKey (plainKey_legacyId hplain)] at hother'
    have hlisted := Store.row_of_mem_listing hother
    rw [hother', hrow, Option.some_inj] at hlisted
    obtain ⟨otherRow, otherId⟩ := other
    rw [hlisted, ← hother']
  have hfree' : store.targets key = none := by
    rw [Store.targets_eq, hfree, Option.map_none]
  have hcopy : store'.targets key = some (copyOf ⟨row, key⟩) := by
    have hunique' := settleRows_of_unique (Store.mem_listing_of_row hrow) hkey hunique hfree'
      (by rw [hsettled])
    rwa [hsettled] at hunique'
  rw [DocumentPrefsStore.get_readTarget hkey, hcopy]
  show Except.ok (some (decodePreference (preferenceBody row.doc))) = _
  rw [hdoc]
  show Except.ok (some (decodePreference (encodePreference v))) = _
  rw [decodePreference_encodePreference]

/-- The store with nothing but the legacy row of `key`. -/
def soleRow (port : KeyPort) (key : String) (v : Json) : Store :=
  Store.empty.put LEGACY_PREFS_NAMESPACE (legacyId port key) (.obj [("value", v)]) none 0

/-- The row of any other key is copied where the key does not read. -/
theorem not_readsBack_of_not_plainKey (hdigest : port.DigestBounded) (haccept : port.AcceptsEncoded)
    (hplain : ¬ PlainKey key) : ¬ ReadsBack port display key v := by
  intro h
  have hplain' : ¬ PlainKey (legacyId port key) := fun hid => hplain (plainKey_legacyId hid)
  have hkey : legacyKey port [key] = .ok (legacyId port key) := by
    refine haccept.legacyKey ?_
    rintro rfl
    exact hplain plainKey_empty
  have hkey' : legacyKey port [legacyId port key] = .ok (legacyId port (legacyId port key)) := by
    refine haccept.legacyKey fun hempty => hplain' ?_
    rw [hempty]
    exact plainKey_empty
  have hrows : (soleRow port key v).legacyRows =
      [⟨⟨.obj [("value", v)], none, 0⟩, legacyId port key⟩] := by
    simp [soleRow, Store.legacyRows, Store.listing, Store.put, Store.empty]
  have hfree : (soleRow port key v).targets = fun _ => none := by
    funext id
    rw [Store.targets, soleRow, Store.content_put, if_neg (fun hc => absurd hc.1 (by decide))]
    rfl
  have hfinishes : Finishes (MigratePreferences.poll port) Serves _ _ .start (soleRow port key v) :=
    MigratePreferences.finishes_start
  obtain ⟨s', store', result, hrun, hready, hmigrated⟩ := hfinishes.exists_run
  have hsettled := hmigrated.outcome
  have hok : result = .ok () := by
    rw [hrows, settleRows, hkey'] at hsettled
    exact (congrArg Prod.fst hsettled).symm
  subst hok
  have hfound := h _ _ _ _ _ hkey (Store.row_of_mem_listing (hrows ▸ List.mem_singleton_self _)) rfl
    ?_ hrun hready
  · -- the only row went to the encoding of its id, so the read finds nothing
    have hnone : store'.targets (legacyId port key) = none := by
      have hother : ∀ source ∈ (soleRow port key v).legacyRows,
          legacyKey port [source.id] ≠ .ok (legacyId port key) := by
        intro source hsource hsame
        rw [hrows, List.mem_singleton] at hsource
        rw [hsource, hkey', Except.ok.injEq] at hsame
        exact hplain' ((legacyId_eq_self_iff hdigest).mp hsame)
      have hleft : (settleRows port _ (soleRow port key v).targets).2 (legacyId port key) = _ :=
        settleRows_of_forall_ne hother
      rw [hsettled, hfree] at hleft
      exact hleft
    rw [DocumentPrefsStore.get_readTarget hkey, hnone] at hfound
    cases hfound
  · have hnone := congrFun hfree (legacyId port key)
    rwa [Store.targets_eq, Option.map_eq_none_iff] at hnone

end

/-- A migrated preference is read back under its key exactly if the key is plain. -/
theorem readsBack_iff {port : KeyPort} (hdigest : port.DigestBounded)
    (haccept : port.AcceptsEncoded) (display : StorageError → String) (key : String) (v : Json) :
    ReadsBack port display key v ↔ PlainKey key := by
  constructor
  · intro h
    by_contra hplain
    exact not_readsBack_of_not_plainKey hdigest haccept hplain h
  · exact readsBack_of_plainKey

/-- The row of `a/b` is `a%2Fb`, and is copied to `a%252Fb`. -/
theorem not_readsBack : ¬ ∀ display key v, ReadsBack shortKeyPort display key v := by
  intro h
  have hplain : ¬ PlainKey "a/b" := by
    rintro ⟨hchars, -⟩
    have hslash : PlainChar '/' := hchars '/' (by decide)
    exact absurd hslash (by decide)
  exact not_readsBack_of_not_plainKey shortKeyPort_digestBounded shortKeyPort_acceptsEncoded hplain
    (h (fun _ => "") "a/b" .null)

/-- The key of a toolkit reads back. -/
theorem readsBack_slack :
    ReadsBack shortKeyPort (fun _ => "") "slack" .null ↔ PlainKey "slack" :=
  readsBack_iff shortKeyPort_digestBounded shortKeyPort_acceptsEncoded _ _ _
