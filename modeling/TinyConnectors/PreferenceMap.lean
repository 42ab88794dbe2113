/-
# The preference members as a map

`GetUserScopes` and `SetUserScopes` (`tinybus_module/mod.rs`) over
`DocumentPrefsStore`: a key is normalised and encoded, a preference is a JSON row
wrapped into a body.  Distinct keys have distinct ids and every body decodes to
the preference it was written for, so whole runs of the members read and write
one map from keys to preferences.
-/
import TinyConnectors.Migration.ReadBack

open RustStr

/-! ## Saving -/

namespace DocumentPrefsStore

/-- The store of one user, as `UserScopePref` sees it. -/
def prefsStore (port : KeyPort) (display : StorageError → String) (store : Store) : PrefsStore :=
  ⟨get port display store.readTarget⟩

/-- `set`: what it may answer, and what the collection is afterwards. -/
def Sets (port : KeyPort) (display : StorageError → String) (key : String) (value : Json)
    (store : Store) (result : Except SyncError Unit) (store' : Store) : Prop :=
  match documentId port display key with
  | .error error => result = .error error ∧ store' = store
  | .ok id =>
    ∃ reply, Serves (.putWith PREFS_NAMESPACE id (encodePreference value) .none
        ⟨some PREFS_SCHEMA_VERSION, none⟩) store reply store' ∧
      result = match reply with
        | .ok _ => .ok ()
        | .error error => .error (failed display key "write the preference" error)

end DocumentPrefsStore

open DocumentPrefsStore

/-- `UserScopePref::save`. -/
def UserScopePref.Saves (port : KeyPort) (display : StorageError → String) (pref : UserScopePref)
    (toolkit : String) (store : Store) (result : Except SyncError Unit) (store' : Store) : Prop :=
  Sets port display (key toolkit) pref.toValue store result store'

/-! ## The two members -/

inductive ScopesRequest where
  | getUserScopes (toolkit : String)
  | setUserScopes (toolkit : String) (scopes : UserScopePref)
  deriving DecidableEq

def ScopesRequest.toolkit : ScopesRequest → String
  | .getUserScopes toolkit => toolkit
  | .setUserScopes toolkit _ => toolkit

structure ComposioUserScopesResponse where
  toolkit : String
  scopes : UserScopePref
  deriving DecidableEq

def scopesResponse (toolkit : String) (pref : UserScopePref) : ComposioUserScopesResponse :=
  ⟨toAsciiLowercase (trim toolkit), pref⟩

section
variable (port : KeyPort) (display : StorageError → String)

/-- What a member may answer, and what the collection is afterwards. -/
inductive Handles : ScopesRequest → Store → Except SyncError ComposioUserScopesResponse →
    Store → Prop
  where
  | get {toolkit store} :
      Handles (.getUserScopes toolkit) store
        ((UserScopePref.load (prefsStore port display store) toolkit).map
          (scopesResponse toolkit)) store
  | set {toolkit pref store saved store'} (h : pref.Saves port display toolkit store saved store') :
      Handles (.setUserScopes toolkit pref) store
        (saved.map fun _ => scopesResponse toolkit pref) store'

/-- A run of the members, the last request first. -/
inductive Runs (start : Store) : List ScopesRequest → Store → Prop where
  | nil : Runs start [] start
  | cons {request requests store result store'} (hrun : Runs start requests store)
      (h : Handles port display request store result store') :
      Runs start (request :: requests) store'

end

/-- The preference set last under a key. -/
def lastSet (key : String) : List ScopesRequest → Option UserScopePref
  | [] => none
  | .getUserScopes _ :: earlier => lastSet key earlier
  | .setUserScopes toolkit pref :: earlier =>
    if UserScopePref.key toolkit = key then some pref else lastSet key earlier

theorem lastSet_set (key toolkit : String) (pref : UserScopePref) (earlier : List ScopesRequest) :
    lastSet key (.setUserScopes toolkit pref :: earlier) =
      if UserScopePref.key toolkit = key then some pref else lastSet key earlier := by
  rw [lastSet]

/-- `Key::new` takes the encoded key of a toolkit. -/
def KeyPort.Accepts (port : KeyPort) (toolkit : String) : Prop :=
  port.refusal (legacyId port (UserScopePref.key toolkit)) = none

section
variable {port : KeyPort} {display : StorageError → String}

theorem documentId_of_accepts {toolkit : String} (h : port.Accepts toolkit) :
    documentId port display (UserScopePref.key toolkit) =
      .ok (legacyId port (UserScopePref.key toolkit)) := by
  rw [KeyPort.Accepts] at h
  rw [documentId, legacyKey_single, h]

/-- A preference of an accepted key is written under its id. -/
theorem saves_of_accepts {toolkit : String} (h : port.Accepts toolkit) {pref : UserScopePref}
    {store store' : Store} {saved : Except SyncError Unit}
    (hsaves : pref.Saves port display toolkit store saved store') :
    saved = .ok () ∧ ∃ version, store' = store.put PREFS_NAMESPACE
      (legacyId port (UserScopePref.key toolkit)) (encodePreference pref.toValue) none version := by
  rw [UserScopePref.Saves, Sets, documentId_of_accepts h] at hsaves
  obtain ⟨reply, hserved, rfl⟩ := hsaves
  simp only [Serves, Precondition.holds, if_true] at hserved
  obtain ⟨version, _, rfl, rfl⟩ := hserved
  exact ⟨rfl, version, rfl⟩

/-! ## One map -/

/-- The collection holds, under the id of each key, the preference last set under it. -/
def Holds (port : KeyPort) (requests : List ScopesRequest) (store : Store) : Prop :=
  ∀ key, (store.row PREFS_NAMESPACE (legacyId port key)).map Row.doc =
    (lastSet key requests).map fun pref => encodePreference pref.toValue

/-- One request keeps the collection in step with the map. -/
theorem Holds.step (hdigest : Function.Injective port.digest) {requests : List ScopesRequest}
    {request : ScopesRequest} {store store' : Store}
    {result : Except SyncError ComposioUserScopesResponse} (hholds : Holds port requests store)
    (hhandles : Handles port display request store result store')
    (haccepts : port.Accepts request.toolkit) : Holds port (request :: requests) store' := by
  intro key
  cases hhandles with
  | get => exact hholds key
  | @set toolkit pref _ saved _ hsaves =>
    have htoolkit : port.Accepts toolkit := haccepts
    obtain ⟨_, version, rfl⟩ := saves_of_accepts htoolkit hsaves
    rw [Store.row_put, lastSet_set]
    generalize UserScopePref.key toolkit = written
    by_cases hkey : written = key
    · subst hkey
      simp only [and_self, if_true, Option.map_some]
    · -- another key has another id
      have hid : ¬ (PREFS_NAMESPACE = PREFS_NAMESPACE ∧
          legacyId port key = legacyId port written) :=
        fun h => hkey (legacyId_injective hdigest h.2).symm
      rw [if_neg hid, if_neg hkey]
      exact hholds key

theorem Runs.holds (hdigest : Function.Injective port.digest) {start store : Store}
    (hempty : ∀ id, start.row PREFS_NAMESPACE id = none) {requests : List ScopesRequest}
    (hrun : Runs port display start requests store)
    (haccepts : ∀ request ∈ requests, port.Accepts request.toolkit) :
    Holds port requests store := by
  induction hrun with
  | nil =>
    intro key
    rw [hempty, lastSet]
    rfl
  | cons hrun h ih =>
    obtain ⟨hrequest, hrequests⟩ := List.forall_mem_cons.mp haccepts
    exact (ih hrequests).step hdigest h hrequest

/-- What is read under an accepted key is the entry of the map. -/
theorem load_of_holds {requests : List ScopesRequest} {store : Store}
    (hholds : Holds port requests store) {toolkit : String} (haccepts : port.Accepts toolkit) :
    UserScopePref.load (prefsStore port display store) toolkit =
      .ok ((lastSet (UserScopePref.key toolkit) requests).getD .default) := by
  have hget : (prefsStore port display store).get (UserScopePref.key toolkit) =
      .ok ((lastSet (UserScopePref.key toolkit) requests).map UserScopePref.toValue) := by
    have hrow := hholds (UserScopePref.key toolkit)
    show DocumentPrefsStore.get port display store.readTarget (UserScopePref.key toolkit) = _
    simp only [DocumentPrefsStore.get, documentId_of_accepts haccepts, Store.readTarget,
      Store.target]
    rcases hset : lastSet (UserScopePref.key toolkit) requests with _ | pref
    · rw [hset, Option.map_none, Option.map_eq_none_iff] at hrow
      rw [hrow]
      rfl
    · rw [hset, Option.map_some, Option.map_eq_some_iff] at hrow
      obtain ⟨row, hfound, hdoc⟩ := hrow
      rw [hfound]
      simp only [Option.map_some, hdoc, decodePreference_encodePreference]
  rw [UserScopePref.load, hget]
  cases lastSet (UserScopePref.key toolkit) requests with
  | none => rfl
  | some pref => rfl

/-- `GetUserScopes` answers with the entry of the map. -/
theorem answer_of_holds {requests : List ScopesRequest} {store store' : Store}
    (hholds : Holds port requests store) {toolkit : String} (haccepts : port.Accepts toolkit)
    {result : Except SyncError ComposioUserScopesResponse}
    (hget : Handles port display (.getUserScopes toolkit) store result store') :
    store' = store ∧ result = .ok (scopesResponse toolkit
      ((lastSet (UserScopePref.key toolkit) requests).getD .default)) := by
  cases hget with
  | get =>
    rw [load_of_holds hholds haccepts]
    exact ⟨rfl, rfl⟩

/-- After any run, `GetUserScopes` answers with the preference set last under the
key of its toolkit, the default if there is none, and a `SetUserScopes` under
another key changes nothing about it. -/
theorem getUserScopes_of_run (hdigest : Function.Injective port.digest) {start store : Store}
    (hempty : ∀ id, start.row PREFS_NAMESPACE id = none) {requests : List ScopesRequest}
    (hrun : Runs port display start requests store)
    (haccepts : ∀ request ∈ requests, port.Accepts request.toolkit) {toolkit : String}
    (htoolkit : port.Accepts toolkit) {result : Except SyncError ComposioUserScopesResponse}
    {store' : Store} (hget : Handles port display (.getUserScopes toolkit) store result store') :
    result = .ok (scopesResponse toolkit
        ((lastSet (UserScopePref.key toolkit) requests).getD .default)) ∧
      ∀ other pref answer after again last, port.Accepts other →
        UserScopePref.key other ≠ UserScopePref.key toolkit →
          Handles port display (.setUserScopes other pref) store' answer after →
            Handles port display (.getUserScopes toolkit) after again last → again = result := by
  have hholds := hrun.holds hdigest hempty haccepts
  obtain ⟨rfl, hresult⟩ := answer_of_holds hholds htoolkit hget
  refine ⟨hresult, ?_⟩
  intro other pref answer after again last hother hne hset hagain
  have hafter := hholds.step hdigest hset hother
  obtain ⟨_, hagain⟩ := answer_of_holds hafter htoolkit hagain
  rw [lastSet_set, if_neg hne] at hagain
  rw [hagain, hresult]

end

/-! ## Two spellings of one toolkit -/

/-- A `Key::new` that refuses only the empty id, with a digest that tells texts apart. -/
def faithfulKeyPort : KeyPort := ⟨id, shortKeyPort.refusal⟩

/-- What is set for ` Slack ` is read for `slack`. -/
theorem getUserScopes_of_run_slack : ∃ store,
    Runs faithfulKeyPort (fun _ => "") .empty
        [.setUserScopes " Slack " ⟨true, false, false⟩] store ∧
      ∀ result store',
        Handles faithfulKeyPort (fun _ => "") (.getUserScopes "slack") store result store' →
        result = .ok ⟨"slack", ⟨true, false, false⟩⟩ := by
  have hkey : UserScopePref.key " Slack " = "slack" := by decide +kernel
  have hslack : UserScopePref.key "slack" = "slack" := by decide +kernel
  have hlen : byteLen "slack".toList = 5 := by decide
  have hplain : PlainKey "slack" :=
    ⟨by simp [PlainChar], by decide, by rw [hlen, MAX_ID_LEN]; omega⟩
  have hid : legacyId faithfulKeyPort "slack" = "slack" := legacyId_of_plainKey hplain
  have haccepts : faithfulKeyPort.Accepts " Slack " := by
    rw [KeyPort.Accepts, hkey, hid]
    decide
  have haccepts' : faithfulKeyPort.Accepts "slack" := by
    rw [KeyPort.Accepts, hslack, hid]
    decide
  have hsaves : UserScopePref.Saves faithfulKeyPort (fun _ => "")
      ⟨true, false, false⟩ " Slack " .empty
      (.ok ()) (Store.empty.put PREFS_NAMESPACE "slack"
        (encodePreference (UserScopePref.toValue ⟨true, false, false⟩)) none 0) := by
    rw [UserScopePref.Saves, Sets, documentId_of_accepts haccepts, hkey, hid]
    exact ⟨.ok 0, ⟨0, Finset.notMem_empty _, rfl, rfl⟩, rfl⟩
  have hrun : Runs faithfulKeyPort (fun _ => "") .empty
      [.setUserScopes " Slack " ⟨true, false, false⟩] _ :=
    Runs.cons Runs.nil (Handles.set hsaves)
  refine ⟨_, hrun, fun result store' hget => ?_⟩
  obtain ⟨hresult, _⟩ := getUserScopes_of_run Function.injective_id (fun _ => rfl) hrun
    (List.forall_mem_singleton.mpr haccepts) haccepts' hget
  rw [hresult, lastSet_set, hkey, hslack, if_pos rfl, scopesResponse]
  have hanswer : toAsciiLowercase (trim "slack") = "slack" := by decide +kernel
  rw [hanswer]
  rfl
