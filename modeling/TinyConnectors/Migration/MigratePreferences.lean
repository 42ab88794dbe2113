/-
# Migrating all preferences

`migrate_preferences` (`state/migration.rs`) as a machine around
`MigratePreference`, and what it comes to when nobody else writes: every legacy
row in listing order is copied to the id of its key unless a target stands there
already, and the first row without a key ends it (`settleRows`).  How the
listing is cut into pages makes no difference.
-/
import TinyConnectors.Migration.MigratePreference

open Await Relation

/-- Where `migrate_preferences` is suspended, with the variables that are live there. -/
inductive MigratePreferences where
  | queryPage (cursor : Option ℕ)
  /-- The head of the loop over the rows of a page. -/
  | nextRecord (items : List Versioned) (next : Option ℕ)
  /-- Inside the call for one row. -/
  | migrate (items : List Versioned) (next : Option ℕ) (call : MigratePreference)
  | done (result : StorageResult Unit)

namespace MigratePreferences

def afterQuery : StorageResult Page → MigratePreferences
  | .ok page => if page.items.isEmpty then .done (.ok ()) else .nextRecord page.items page.next
  | .error error => .done (.error error)

def afterRecord (items : List Versioned) (next : Option ℕ) : StorageResult Unit → MigratePreferences
  | .ok _ => .nextRecord items next
  | .error error => .done (.error error)

/-- One turn of the loop over the rows of a page. -/
def nextState (port : KeyPort) : List Versioned → Option ℕ → MigratePreferences
  | [], none => .done (.ok ())
  | [], some cursor => .queryPage (some cursor)
  | record :: items, next =>
    match legacyKey port [record.id] with
    | .ok id => .migrate items next (.start id record)
    | .error error => .done (.error error)

/-- The whole function. -/
def poll (port : KeyPort) : MigratePreferences →
    Poll StorageCall StorageCall.Reply MigratePreferences (StorageResult Unit)
  | .queryPage cursor => .pending (.query LEGACY_PREFS_NAMESPACE cursor PAGE_SIZE) afterQuery
  | .nextRecord items next => .goto (nextState port items next)
  | .migrate items next call => call.poll.embed (.migrate items next) (afterRecord items next)
  | .done result => .ready result

theorem poll_migrate (port : KeyPort) (items : List Versioned) (next : Option ℕ)
    (call : MigratePreference) : poll port (.migrate items next call) =
      call.poll.embed (.migrate items next) (afterRecord items next) := rfl

/-- The call `migrate_preferences(documents)`. -/
def start : MigratePreferences := .queryPage none

end MigratePreferences

/-! ## Rows by their content -/

/-- What of a row a copy keeps: its body and its expiry. -/
abbrev Content := Json × Option ℤ

/-- The content of a row. -/
def Row.content (row : Row) : Content := (row.doc, row.expiresMs)

/-- The content under an id. -/
def Store.content (store : Store) (collection id : String) : Option Content :=
  (store.row collection id).map Row.content

/-- The preference targets. -/
def Store.targets (store : Store) : String → Option Content := store.content PREFS_NAMESPACE

theorem Store.content_put (store : Store) (collection id : String) (doc : Json)
    (expiresMs : Option ℤ) (version : Version) (c i : String) :
    (store.put collection id doc expiresMs version).content c i =
      if c = collection ∧ i = id then some (doc, expiresMs) else store.content c i := by
  unfold content
  rw [row_put]
  split_ifs with h
  · rfl
  · rfl

theorem Store.targets_eq (store : Store) (id : String) :
    store.targets id = (store.target id).map Row.content := rfl

theorem Store.isSome_targets_iff {store : Store} {id : String} :
    (store.targets id).isSome ↔ store.target id ≠ none := by
  rw [targets_eq, Option.isSome_map, Option.isSome_iff_ne_none]

/-- The legacy rows, in listing order. -/
abbrev Store.legacyRows (store : Store) : List Versioned := store.listing LEGACY_PREFS_NAMESPACE

/-- A listed row is the row under its id. -/
theorem Store.row_of_mem_listing {store : Store} {collection : String} {record : Versioned}
    (h : record ∈ store.listing collection) :
    store.row collection record.id = some record.toRow := by
  obtain ⟨entry, hentry, rfl⟩ := List.mem_map.mp h
  exact AList.mem_lookup_iff.mpr hentry

/-- The row under an id is listed. -/
theorem Store.mem_listing_of_row {store : Store} {collection id : String} {row : Row}
    (h : store.row collection id = some row) : ⟨row, id⟩ ∈ store.listing collection :=
  List.mem_map.mpr ⟨⟨id, row⟩, AList.mem_lookup_iff.mp h, rfl⟩

/-! ## What the migration of the rows comes to -/

/-- The content migration gives the target of a legacy row. -/
def copyOf (source : Versioned) : Content := (preferenceBody source.doc, source.expiresMs)

/-- Copy a row to `id` unless a target stands there. -/
def settleRow (id : String) (source : Versioned) (targets : String → Option Content) :
    String → Option Content :=
  if (targets id).isSome then targets else Function.update targets id (some (copyOf source))

/-- The rows in order, up to the first without a key. -/
def settleRows (port : KeyPort) : List Versioned → (String → Option Content) →
    StorageResult Unit × (String → Option Content)
  | [], targets => (.ok (), targets)
  | source :: rest, targets =>
    match legacyKey port [source.id] with
    | .ok id => settleRows port rest (settleRow id source targets)
    | .error error => (.error error, targets)

/-- A row that has a target. -/
def IsSettled (port : KeyPort) (targets : String → Option Content) (source : Versioned) : Prop :=
  ∃ id, legacyKey port [source.id] = .ok id ∧ (targets id).isSome

section
variable {port : KeyPort} {targets : String → Option Content} {source : Versioned} {id : String}

theorem settleRow_of_isSome (h : (targets id).isSome) : settleRow id source targets = targets :=
  if_pos h

/-- A row it is settled for stays settled. -/
theorem isSome_settleRow (i : String) (h : (targets i).isSome) :
    (settleRow id source targets i).isSome := by
  unfold settleRow
  split_ifs with hid
  · exact h
  · rw [Function.update_apply]
    split_ifs
    · rfl
    · exact h

theorem isSome_settleRow_self : (settleRow id source targets id).isSome := by
  unfold settleRow
  split_ifs with hid
  · exact hid
  · simp

theorem IsSettled.settleRow {other : Versioned} (h : IsSettled port targets other) :
    IsSettled port (settleRow id source targets) other := by
  obtain ⟨i, hkey, hsome⟩ := h
  exact ⟨i, hkey, isSome_settleRow i hsome⟩

/-- Settled rows make no difference. -/
theorem settleRows_append {settled rest : List Versioned}
    (h : ∀ source ∈ settled, IsSettled port targets source) :
    settleRows port (settled ++ rest) targets = settleRows port rest targets := by
  induction settled with
  | nil => rfl
  | cons source settled ih =>
    obtain ⟨⟨id, hkey, hsome⟩, hsettled⟩ := List.forall_mem_cons.mp h
    rw [List.cons_append, settleRows, hkey]
    show settleRows port (settled ++ rest) (settleRow id source targets) = _
    rw [settleRow_of_isSome hsome, ih hsettled]

end

/-! ## One call alone -/

/-- What one call alone does: nothing where a target stands, otherwise one write. -/
def Settles (id : String) (source : Versioned) (store store' : Store) : Prop :=
  (store.target id ≠ none ∧ store' = store) ∨
  (store.target id = none ∧ ∃ version ∉ store.issued,
    store' = store.put PREFS_NAMESPACE id (preferenceBody source.doc) source.expiresMs version)

section
variable {store store' : Store} {source : Versioned} {id : String}

theorem Settles.targets (h : Settles id source store store') :
    store'.targets = settleRow id source store.targets := by
  rcases h with ⟨hrow, rfl⟩ | ⟨hrow, version, -, rfl⟩
  · exact (settleRow_of_isSome (Store.isSome_targets_iff.mpr hrow)).symm
  · have hnone : ¬ (store.targets id).isSome := by
      rw [Store.isSome_targets_iff, not_not]
      exact hrow
    rw [settleRow, if_neg hnone]
    funext i
    rw [Function.update_apply, Store.targets, Store.content_put]
    by_cases hi : i = id
    · rw [if_pos ⟨rfl, hi⟩, if_pos hi]
      rfl
    · rw [if_neg (fun h => hi h.2), if_neg hi]
      rfl

/-- A change of the preference targets and of nothing else. -/
structure OnlyTargets (store store' : Store) : Prop where
  collections : ∀ collection, collection ≠ PREFS_NAMESPACE →
    store'.collections collection = store.collections collection
  names : store'.names = store.names
  entries : store'.entries = store.entries

theorem OnlyTargets.refl (store : Store) : OnlyTargets store store := ⟨fun _ _ => rfl, rfl, rfl⟩

theorem OnlyTargets.trans {store'' : Store} (h : OnlyTargets store store')
    (h' : OnlyTargets store' store'') : OnlyTargets store store'' where
  collections collection hne := (h'.collections collection hne).trans (h.collections collection hne)
  names := h'.names.trans h.names
  entries := h'.entries.trans h.entries

theorem OnlyTargets.legacyRows (h : OnlyTargets store store') :
    store'.legacyRows = store.legacyRows := by
  unfold Store.legacyRows Store.listing
  rw [h.collections LEGACY_PREFS_NAMESPACE (by decide)]

theorem OnlyTargets.row (h : OnlyTargets store store') {collection : String}
    (hne : collection ≠ PREFS_NAMESPACE) (i : String) :
    store'.row collection i = store.row collection i := by
  unfold Store.row
  rw [h.collections collection hne]

theorem Settles.onlyTargets (h : Settles id source store store') : OnlyTargets store store' := by
  rcases h with ⟨-, rfl⟩ | ⟨-, version, -, rfl⟩
  · exact .refl store'
  · exact ⟨fun collection hne => Function.update_of_ne hne _ _, rfl, rfl⟩

variable {crash : Store → Prop} {post : StorageResult Unit → Store → Prop}

/-- A call that has not returned finishes when whatever its step leads to does. -/
theorem MigratePreference.finishes_of_step {m : MigratePreference}
    (hrunning : ∀ result, m.await ≠ .done result) (hcrash : crash store)
    (hnext : ∀ event m' store', Step m store event m' store' →
      Finishes poll Serves crash post m' store') :
    Finishes poll Serves crash post m store := by
  have hpoll : ∃ call resume, poll m = .pending call resume ∧
      ∀ collection cursor, call ≠ .query collection cursor 0 := by
    obtain ⟨id, await⟩ := m
    cases await with
    | done result => exact absurd rfl (hrunning result)
    | _ => exact ⟨_, _, rfl, fun _ _ => nofun⟩
  obtain ⟨call, resume, hpoll, hquery⟩ := hpoll
  refine .pending hpoll hcrash (exists_reply call store hquery) fun reply store' hserved => ?_
  have hstep : Traced.Advances poll Serves ⟨m, []⟩ store
      ⟨resume reply, [⟨call, reply⟩]⟩ store' := by
    simp only [Traced.Advances, hpoll]
    exact ⟨reply, hserved, rfl⟩
  obtain ⟨event, hcase, -⟩ := step_of_advances hstep
  exact hnext event _ _ hcase

/-- The re-read of an unchanged legacy row ends the call. -/
theorem MigratePreference.finishes_readLatest {version : Version}
    (hsource : store.row LEGACY_PREFS_NAMESPACE source.id = some source.toRow)
    (hcrash : crash store) (hpost : post (.ok ()) store) :
    Finishes poll Serves crash post ⟨id, .readLatest source version⟩ store := by
  refine finishes_of_step (fun _ => nofun) hcrash fun event m' store' hstep => ?_
  cases hstep with
  | gone hrow =>
    rw [hsource] at hrow
    cases hrow
  | settled hrow hsame => exact .ready rfl hcrash hpost
  | moved hrow hmoved =>
    rw [hsource, Option.some_inj] at hrow
    subst hrow
    exact absurd ⟨rfl, rfl⟩ hmoved

/-- A call alone, for a row that stands, settles it. -/
theorem MigratePreference.finishes_start
    (hsource : store.row LEGACY_PREFS_NAMESPACE source.id = some source.toRow) :
    Finishes poll Serves (fun s => s = store ∨ Settles id source store s)
      (fun result s => result = .ok () ∧ Settles id source store s) (.start id source) store := by
  refine finishes_of_step (fun _ => nofun) (.inl rfl) fun event m' store' hstep => ?_
  cases hstep with
  | @created _ _ _ version hrow hfresh =>
    have hsettles : Settles id source store _ := .inr ⟨hrow, version, hfresh, rfl⟩
    refine finishes_readLatest ?_ (.inr hsettles) ⟨rfl, hsettles⟩
    rw [hsettles.onlyTargets.row (by decide), hsource]
  | conflicted hrow =>
    have hsettles : Settles id source store store := .inl ⟨hrow, rfl⟩
    refine finishes_of_step (fun _ => nofun) (.inl rfl) fun event m' store' hstep => ?_
    cases hstep with
    | vanished hnone => exact absurd hnone hrow
    | preserved hfound hdiffers => exact .ready rfl (.inl rfl) ⟨rfl, hsettles⟩
    | adopted hfound hcopied => exact finishes_readLatest hsource (.inl rfl) ⟨rfl, hsettles⟩

end

/-! ## The whole migration alone -/

/-- The targets are what they were, or copies of legacy rows where none stood. -/
def CopiedTargets (port : KeyPort) (store store' : Store) : Prop :=
  ∀ id, store'.targets id = store.targets id ∨ (store.targets id = none ∧
    ∃ source ∈ store.legacyRows, legacyKey port [source.id] = .ok id ∧
      store'.targets id = some (copyOf source))

/-- Only targets have changed, by copies, and the rows come to the same as before. -/
structure SameSettlement (port : KeyPort) (store store' : Store) : Prop
    extends OnlyTargets store store' where
  copied : CopiedTargets port store store'
  settlement : settleRows port store.legacyRows store'.targets =
    settleRows port store.legacyRows store.targets

/-- The rows before `rest` are settled. -/
structure Progress (port : KeyPort) (store : Store) (rest : List Versioned) (store' : Store) : Prop
    extends SameSettlement port store store' where
  settled : ∃ settled, store.legacyRows = settled ++ rest ∧
    ∀ source ∈ settled, IsSettled port store'.targets source

/-- The migration has returned, and has done what it comes to. -/
structure Migrated (port : KeyPort) (store : Store) (result : StorageResult Unit) (store' : Store) :
    Prop
    extends SameSettlement port store store' where
  outcome : settleRows port store.legacyRows store.targets = (result, store'.targets)
  settled : result = .ok () → ∀ source ∈ store.legacyRows, IsSettled port store'.targets source

section
variable {port : KeyPort} {store store' store'' : Store} {rest : List Versioned}

/-- What is left comes to what the whole came to. -/
theorem Progress.settleRows_rest (h : Progress port store rest store') :
    settleRows port store.legacyRows store.targets = settleRows port rest store'.targets := by
  obtain ⟨settled, hrows, hsettled⟩ := h.settled
  rw [← h.settlement, hrows, settleRows_append hsettled]

/-- One row further. -/
theorem Progress.step {source : Versioned} {id : String}
    (h : Progress port store (source :: rest) store') (hkey : legacyKey port [source.id] = .ok id)
    (hsettles : Settles id source store' store'') : Progress port store rest store'' := by
  obtain ⟨settled, hrows, hsettled⟩ := h.settled
  have hsettled' : ∀ other ∈ settled ++ [source], IsSettled port store''.targets other := by
    intro other hother
    rw [hsettles.targets]
    rcases List.mem_append.mp hother with hmem | hmem
    · exact (hsettled other hmem).settleRow
    · rw [List.mem_singleton.mp hmem]
      exact ⟨id, hkey, isSome_settleRow_self⟩
  have hrows' : store.legacyRows = settled ++ [source] ++ rest := by
    rw [hrows, List.append_assoc, List.singleton_append]
  refine ⟨⟨h.toOnlyTargets.trans hsettles.onlyTargets, fun i => ?_, ?_⟩,
    settled ++ [source], hrows', hsettled'⟩
  · rw [hsettles.targets, settleRow]
    split_ifs with hsome
    · exact h.copied i
    · rw [Function.update_apply]
      split_ifs with hi
      · subst hi
        refine .inr ⟨?_, source, ?_, hkey, rfl⟩
        · rcases h.copied i with hsame | ⟨hnone, -⟩
          · rw [← hsame]
            exact Option.not_isSome_iff_eq_none.mp hsome
          · exact hnone
        · rw [hrows]
          simp
      · exact h.copied i
  · rw [h.settleRows_rest, hrows', settleRows_append hsettled', settleRows, hkey, hsettles.targets]

theorem Progress.refl : Progress port store store.legacyRows store :=
  ⟨⟨.refl store, fun _ => .inl rfl, rfl⟩, [], rfl, fun _ => nofun⟩

/-- Where nothing is left, the migration has done what it comes to. -/
theorem Progress.migrated (h : Progress port store [] store') :
    Migrated port store (.ok ()) store' := by
  obtain ⟨settled, hrows, hsettled⟩ := h.settled
  rw [List.append_nil] at hrows
  exact ⟨h.toSameSettlement, h.settleRows_rest, fun _ => hrows ▸ hsettled⟩

namespace MigratePreferences

/-- The rows of one page, before whatever follows the page. -/
theorem finishes_nextRecord {items : List Versioned} {next : Option ℕ}
    (h : Progress port store (items ++ rest) store')
    (hrest : ∀ store'', Progress port store rest store'' →
      Finishes (poll port) Serves (SameSettlement port store) (Migrated port store)
        (nextState port [] next) store'') :
    Finishes (poll port) Serves (SameSettlement port store) (Migrated port store)
      (.nextRecord items next) store' := by
  induction items generalizing store' with
  | nil => exact .goto rfl (hrest store' h)
  | cons record items ih =>
    refine .goto rfl ?_
    rw [nextState]
    have hsettlement := h.settleRows_rest
    cases hkey : legacyKey port [record.id] with
    | error error =>
      rw [List.cons_append, settleRows, hkey] at hsettlement
      exact .ready rfl h.toSameSettlement ⟨h.toSameSettlement, hsettlement, nofun⟩
    | ok id =>
      have hsource : store'.row LEGACY_PREFS_NAMESPACE record.id = some record.toRow := by
        obtain ⟨settled, hrows, -⟩ := h.settled
        have hmem : record ∈ store.legacyRows := by
          rw [hrows]
          simp
        rw [h.row (by decide)]
        exact Store.row_of_mem_listing hmem
      refine Finishes.embed (poll_migrate port items next)
        ((MigratePreference.finishes_start hsource).weaken ?_ fun _ _ _ hpost => hpost) ?_
      · rintro s (rfl | hsettles)
        · exact h.toSameSettlement
        · exact (h.step hkey hsettles).toSameSettlement
      · rintro result s - ⟨rfl, hsettles⟩
        exact ih (h.step hkey hsettles)

/-- From any cursor, however the rest is cut into pages. -/
theorem finishes_queryPage {cursor : Option ℕ}
    (hcursor : store.legacyRows.drop (cursor.getD 0) = rest)
    (h : Progress port store rest store') :
    Finishes (poll port) Serves (SameSettlement port store) (Migrated port store)
      (.queryPage cursor) store' := by
  induction hlen : rest.length using Nat.strong_induction_on generalizing rest cursor store' with
  | _ n ih =>
    refine .pending rfl h.toSameSettlement (exists_reply _ _ fun _ _ => nofun) ?_
    rintro reply s ⟨⟨page, ⟨k, -, hitems, hzero, hnext⟩, rfl⟩, rfl⟩
    rw [show s.listing LEGACY_PREFS_NAMESPACE = store.legacyRows from h.legacyRows]
      at hitems hzero hnext
    rw [hcursor] at hitems hzero
    rw [← List.drop_drop, hcursor] at hnext
    simp only [afterQuery]
    split_ifs with hempty
    · -- an empty page is served only at the end
      have hrest : rest = [] := by
        rw [List.isEmpty_iff, hitems, List.take_eq_nil_iff] at hempty
        rcases hempty with hk | hrest
        · exact hzero hk
        · exact hrest
      subst hrest
      exact .ready rfl h.toSameSettlement h.migrated
    · have hpage : page.items ++ rest.drop k = rest := by
        rw [hitems, List.take_append_drop]
      have hshorter : (rest.drop k).length < n := by
        have hpos : 0 < page.items.length := by
          rw [List.length_pos_iff, ne_eq, ← List.isEmpty_iff]
          exact hempty
        rw [← hlen, ← hpage, List.length_append]
        simp only [hpage]
        omega
      rw [← hpage] at h
      refine finishes_nextRecord h fun s' h' => ?_
      rcases hnext with hsome | ⟨hnone, hlast⟩
      · rw [hsome]
        refine ih _ hshorter ?_ h' rfl
        rw [Option.getD_some, ← List.drop_drop, hcursor]
      · rw [hlast] at h'
        rw [hnone]
        exact .ready rfl h'.toSameSettlement h'.migrated

/-- Alone, the migration returns, having done what it comes to. -/
theorem finishes_start : Finishes (poll port) Serves (SameSettlement port store)
    (Migrated port store) start store :=
  finishes_queryPage rfl .refl

end MigratePreferences

end

/-! ## Failing calls -/

/-- The result of a run a fault has ended. -/
def IsError (result : StorageResult Unit) : Prop := ∃ error, result = .error error

theorem MigratePreference.faultStops : FaultStops poll IsFault IsError := by
  rintro ⟨id, await⟩ call resume reply hpoll ⟨error, rfl, hconflict⟩
  -- whether the call tells conflicts apart or not, this one ends it
  have hdone : ∀ m : MigratePreference, m.await = .done (.error error) → Stops poll IsError m := by
    rintro ⟨id, await⟩ rfl
    exact .ready rfl ⟨error, rfl⟩
  cases await with
  | done result => cases hpoll
  | readTarget source error' =>
    cases hpoll
    exact hdone _ rfl
  | readLatest source targetVersion =>
    cases hpoll
    exact hdone _ rfl
  | putAbsent source =>
    cases hpoll
    exact hdone _ (by simp [afterPutAbsent, resumeAt, hconflict])
  | deleteTarget source targetVersion =>
    cases hpoll
    exact hdone _ (by simp [afterDeleteTarget, resumeAt, hconflict])
  | putFollow source latest targetVersion =>
    cases hpoll
    exact hdone _ (by simp [afterPutFollow, resumeAt, hconflict])

theorem MigratePreferences.faultStops (port : KeyPort) :
    FaultStops (poll port) IsFault IsError := by
  intro s call resume reply hpoll hfault
  cases s with
  | queryPage cursor =>
    cases hpoll
    obtain ⟨error, rfl, -⟩ := hfault
    exact .ready rfl ⟨error, rfl⟩
  | nextRecord items next => cases hpoll
  | migrate items next m =>
    refine MigratePreference.faultStops.embed (poll_migrate port items next) ?_ hpoll hfault
    rintro result ⟨error, rfl⟩
    exact .ready rfl ⟨error, rfl⟩
  | done result => cases hpoll
