/-
# Whose preference migration replaces

`migrate_preference` interleaved with legacy writers and with instances that
save preferences through `DocumentPrefsStore::set`.  A version is *foreign* when
no migration wrote it.  The first write never touches a row; what the follow
loop replaces or deletes is the version it holds, and it can come to hold a
foreign one by adopting it.
-/
import TinyConnectors.Migration.Follow

open Await Relation

/-- The storage, and which of its versions were not written by a migration. -/
structure SharedPrefs where
  store : Store
  foreign : Finset Version

/-- `DocumentPrefsStore::set` by another instance: an unconditional write
without an expiry. -/
def SetPreference (s s' : SharedPrefs) : Prop :=
  ∃ id value, ∃ version ∉ s.store.issued,
    s' = ⟨s.store.put PREFS_NAMESPACE id (encodePreference value) none version,
      insert version s.foreign⟩

/-- A legacy writer creates, changes or deletes a legacy row. -/
def LegacyWriter (s s' : SharedPrefs) : Prop :=
  (∃ id doc expiresMs, ∃ version ∉ s.store.issued,
    s' = ⟨s.store.put LEGACY_PREFS_NAMESPACE id doc expiresMs version, s.foreign⟩) ∨
  ∃ id, s' = ⟨s.store.erase LEGACY_PREFS_NAMESPACE id, s.foreign⟩

/-- A step of an opener: whatever it writes is a migration's. -/
def OpenerStep (t : Opener) (s : SharedPrefs) (t' : Opener) (s' : SharedPrefs) : Prop :=
  Traced.Advances MigratePreference.poll Serves t s.store t' s'.store ∧ s'.foreign = s.foreign

/-- Openers among legacy writers and instances that save preferences. -/
def openersAndUsers : System Opener SharedPrefs where
  task := OpenerStep
  env s s' := SetPreference s s' ∨ LegacyWriter s s'

/-- The next step of an opener does not lose track of an adopted version: if it
is about to re-read the legacy row while a foreign version it holds still
stands, that row is still the one it was compared with. -/
def Undisturbed (t : Opener) (s : SharedPrefs) : Prop :=
  ∀ source version row, t.state.await = .readLatest source version → version ∈ s.foreign →
    s.store.target t.state.id = some row → row.version = version →
    ∃ legacy, s.store.row LEGACY_PREFS_NAMESPACE source.id = some legacy ∧
      SameCopy ⟨legacy, source.id⟩ source

/-- The runs in which every step of an opener is undisturbed. -/
def undisturbedOpeners : System Opener SharedPrefs where
  task t s t' s' := OpenerStep t s t' s' ∧ Undisturbed t s
  env := openersAndUsers.env

/-- No opener's next step overwrites or deletes a foreign version of a target. -/
def KeepsForeign {ι : Type} (c : Config ι Opener SharedPrefs) : Prop :=
  ∀ i t' s', OpenerStep (c.tasks i) c.store t' s' → ∀ id row, c.store.store.target id = some row →
    row.version ∈ c.store.foreign → s'.store.target id = some row

/-- What an opener knows about the version it holds: once it has left the read
of the legacy row, no foreign version it holds stands. -/
structure HoldsOwn (t : Opener) (s : SharedPrefs) : Prop where
  issued : ∀ source version, t.state.await.following = some (source, version) →
    version ∈ s.store.issued
  own : ∀ source version row, t.state.await.following = some (source, version) →
    t.state.await ≠ .readLatest source version → version ∈ s.foreign →
    s.store.target t.state.id = some row → row.version ≠ version

/-- The store grows, and no issued version becomes foreign. -/
def SharedPrefs.Grows (s s' : SharedPrefs) : Prop :=
  s.store.Grows s'.store ∧ ∀ version ∈ s.store.issued, version ∈ s'.foreign → version ∈ s.foreign

theorem HoldsOwn.mono {t : Opener} {s s' : SharedPrefs} (hgrows : s.Grows s')
    (h : HoldsOwn t s) : HoldsOwn t s' where
  issued source version hfollowing := hgrows.1.1 (h.issued source version hfollowing)
  own source version row hfollowing hpast hforeign hrow hversion := by
    have hissued := h.issued source version hfollowing
    have hbefore : s.store.target t.state.id = some row := by
      rw [← hversion] at hissued
      exact hgrows.1.row_of_issued hrow hissued
    exact h.own source version row hfollowing hpast (hgrows.2 version hissued hforeign) hbefore
      hversion

/-- A version that has just been written is not foreign. -/
theorem holdsOwn_of_read {id : String} {source : Versioned} {version : Version}
    {events : List StorageEvent} {s : SharedPrefs} (hissued : version ∈ s.store.issued) :
    HoldsOwn ⟨⟨id, .readLatest source version⟩, events⟩ s where
  issued _ _ hfollowing := by
    cases hfollowing
    exact hissued
  own _ _ _ hfollowing hpast _ _ := by
    cases hfollowing
    exact absurd rfl hpast

/-- Outside the follow loop nothing is held. -/
theorem holdsOwn_of_none {t : Opener} {s : SharedPrefs} (h : t.state.await.following = none) :
    HoldsOwn t s where
  issued _ _ hfollowing := by
    rw [h] at hfollowing
    cases hfollowing
  own _ _ _ hfollowing _ _ _ := by
    rw [h] at hfollowing
    cases hfollowing

/-- What one undisturbed step of an opener preserves. -/
theorem HoldsOwn.step {t t' : Opener} {s s' : SharedPrefs} (h : HoldsOwn t s)
    (hstep : OpenerStep t s t' s') (hguard : Undisturbed t s) : HoldsOwn t' s' := by
  obtain ⟨⟨id, await⟩, events⟩ := t
  obtain ⟨m', events'⟩ := t'
  obtain ⟨store, foreign⟩ := s
  obtain ⟨store', foreign'⟩ := s'
  obtain ⟨hadvances, hforeign⟩ := hstep
  obtain ⟨event, hcase, rfl⟩ := MigratePreference.step_of_advances hadvances
  simp only at hforeign
  subst hforeign
  cases hcase with
  | created hrow hfresh => exact holdsOwn_of_read (Finset.mem_insert_self _ _)
  | followed hrow hversion hfresh => exact holdsOwn_of_read (Finset.mem_insert_self _ _)
  | @adopted id source error store row hrow hcopied =>
    exact holdsOwn_of_read (store.versions PREFS_NAMESPACE id row hrow)
  | @gone id source targetVersion store hrow =>
    refine ⟨fun s v hfollowing => h.issued s v hfollowing, ?_⟩
    intro s v row hfollowing _ hforeign htarget hversion
    cases hfollowing
    -- the legacy row is absent, so an undisturbed opener holds no standing foreign version
    obtain ⟨legacy, hlegacy, -⟩ := hguard source targetVersion row rfl hforeign htarget hversion
    rw [hrow] at hlegacy
    cases hlegacy
  | @moved id source targetVersion store row hrow hmoved =>
    refine ⟨fun s v hfollowing => h.issued s v hfollowing, ?_⟩
    intro s v found hfollowing _ hforeign htarget hversion
    cases hfollowing
    obtain ⟨legacy, hlegacy, hsame⟩ :=
      hguard source targetVersion found rfl hforeign htarget hversion
    rw [hrow, Option.some_inj] at hlegacy
    rw [← hlegacy] at hsame
    exact hmoved hsame
  | conflicted hrow => exact holdsOwn_of_none rfl
  | vanished hrow => exact holdsOwn_of_none rfl
  | preserved hrow hdiffers => exact holdsOwn_of_none rfl
  | settled hrow hsame => exact holdsOwn_of_none rfl
  | deleted hrow hversion => exact holdsOwn_of_none rfl
  | undeleted hrow => exact holdsOwn_of_none rfl
  | unfollowed hrow => exact holdsOwn_of_none rfl

/-- The target an opener is past reading for, at the version it holds, has no foreign version. -/
theorem HoldsOwn.ne_of_foreign {t : Opener} {s : SharedPrefs} (h : HoldsOwn t s)
    {source : Versioned} {version : Version} {found row : Row} {id : String}
    (hfollowing : t.state.await.following = some (source, version))
    (hpast : t.state.await ≠ .readLatest source version)
    (hrow : s.store.target t.state.id = some found) (hversion : found.version = version)
    (htarget : s.store.target id = some row) (hforeign : row.version ∈ s.foreign) :
    id ≠ t.state.id := by
  rintro rfl
  rw [hrow, Option.some_inj] at htarget
  subst htarget
  rw [hversion] at hforeign
  exact h.own source version found hfollowing hpast hforeign hrow hversion

/-- An opener that holds its own does not touch a foreign version. -/
theorem HoldsOwn.keeps {t t' : Opener} {s s' : SharedPrefs} (h : HoldsOwn t s)
    (hstep : OpenerStep t s t' s') {id : String} {row : Row}
    (htarget : s.store.target id = some row) (hforeign : row.version ∈ s.foreign) :
    s'.store.target id = some row := by
  obtain ⟨⟨held, await⟩, events⟩ := t
  obtain ⟨m', events'⟩ := t'
  obtain ⟨store, foreign⟩ := s
  obtain ⟨store', foreign'⟩ := s'
  obtain ⟨event, hcase, -⟩ := MigratePreference.step_of_advances hstep.1
  cases hcase with
  | @created held source store version hrow hfresh =>
    have hne : id ≠ held := by
      rintro rfl
      rw [hrow] at htarget
      cases htarget
    exact (Store.target_put_of_ne hne ..).trans htarget
  | @deleted held source targetVersion store found hrow hversion =>
    have hne : id ≠ held := h.ne_of_foreign rfl (by simp) hrow hversion htarget hforeign
    exact (Store.target_erase_of_ne hne).trans htarget
  | @followed held source latest targetVersion store found version hrow hversion hfresh =>
    have hne : id ≠ held := h.ne_of_foreign rfl (by simp) hrow hversion htarget hforeign
    exact (Store.target_put_of_ne hne ..).trans htarget
  | conflicted hrow => exact htarget
  | vanished hrow => exact htarget
  | preserved hrow hdiffers => exact htarget
  | adopted hrow hcopied => exact htarget
  | gone hrow => exact htarget
  | settled hrow hsame => exact htarget
  | moved hrow hmoved => exact htarget
  | undeleted hrow => exact htarget
  | unfollowed hrow => exact htarget

/-- What users and legacy writers do to the store and the foreign versions. -/
theorem grows_of_env {s s' : SharedPrefs} (hinv : s.foreign ⊆ s.store.issued)
    (h : openersAndUsers.env s s') : s'.foreign ⊆ s'.store.issued ∧ s.Grows s' := by
  rcases h with ⟨id, value, version, hfresh, rfl⟩ | h
  · refine ⟨Finset.insert_subset_insert version hinv, .put hfresh .., ?_⟩
    intro v hissued hv
    rcases Finset.mem_insert.mp hv with rfl | hv
    · exact absurd hissued hfresh
    · exact hv
  · rcases h with ⟨id, doc, expiresMs, version, hfresh, rfl⟩ | ⟨id, rfl⟩
    · exact ⟨hinv.trans (Finset.subset_insert _ _), .put hfresh .., fun _ _ hv => hv⟩
    · exact ⟨hinv, .erase .., fun _ _ hv => hv⟩

theorem undisturbedOpeners_stable :
    undisturbedOpeners.Stable (fun s => s.foreign ⊆ s.store.issued) HoldsOwn SharedPrefs.Grows where
  task hinv hloc hstep := by
    obtain ⟨hstep, hguard⟩ := hstep
    have hgrows := grows_of_advances hstep.1
    refine ⟨?_, hloc.step hstep hguard, hgrows, ?_⟩
    · rw [hstep.2]
      exact hinv.trans hgrows.1
    · rw [hstep.2]
      exact fun _ _ hv => hv
  env hinv henv := grows_of_env hinv henv
  mono _ hgrows hloc := hloc.mono hgrows

/-- In every run whose opener steps are undisturbed, no opener ever overwrites
or deletes a version of a target that no migration wrote. -/
theorem keeps_foreign_of_undisturbed {ι : Type} [DecidableEq ι]
    {c₀ c : Config ι Opener SharedPrefs} (hstart : Started ⟨c₀.tasks, c₀.store.store⟩)
    (hforeign : c₀.store.foreign ⊆ c₀.store.store.issued) (hrun : undisturbedOpeners.Run c₀ c) :
    KeepsForeign c := by
  have hinit : c₀.Holds (fun s => s.foreign ⊆ s.store.issued) HoldsOwn := by
    refine ⟨hforeign, fun i => ?_⟩
    obtain ⟨id, source, hi⟩ := hstart i
    refine holdsOwn_of_none ?_
    rw [show c₀.tasks i = ⟨.start id source, []⟩ from hi]
    rfl
  have hholds := undisturbedOpeners_stable.reachable hinit hrun
  intro i t' s' hstep id row htarget hversion
  exact (hholds.2 i).keeps hstep htarget hversion

/-! ## Adopting somebody else's version -/

/-- The user's own choice, which is also what the legacy row says. -/
def gmailBody : Json := .obj [("read", .bool true)]

/-- The store after another instance has saved that choice as version `1`. -/
def savedStore : Store := legacyStore.put PREFS_NAMESPACE "gmail" gmailBody none 1

/-- Another instance saves. -/
theorem save_gmail : SetPreference ⟨legacyStore, ∅⟩ ⟨savedStore, {1}⟩ :=
  ⟨"gmail", gmailBody, 1, by decide, rfl⟩

/-- An opener finds version `1` in its way. -/
theorem conflict_gmail : ∃ event, OpenerStep ⟨.start "gmail" legacyGmail, []⟩ ⟨savedStore, {1}⟩
    ⟨⟨"gmail", .readTarget legacyGmail (.conflict "")⟩, [event]⟩ ⟨savedStore, {1}⟩ :=
  ⟨_, ⟨.error (.conflict ""), ⟨⟨"", rfl⟩, rfl⟩, rfl⟩, rfl⟩

/-- It adopts version `1`, which is what it would have written. -/
theorem adopt_gmail (events : List StorageEvent) : ∃ event,
    OpenerStep ⟨⟨"gmail", .readTarget legacyGmail (.conflict "")⟩, events⟩ ⟨savedStore, {1}⟩
      ⟨⟨"gmail", .readLatest legacyGmail 1⟩, event :: events⟩ ⟨savedStore, {1}⟩ :=
  ⟨_, ⟨.ok (some ⟨⟨gmailBody, none, 1⟩, "gmail"⟩), ⟨rfl, rfl⟩, rfl⟩, rfl⟩

/-- The store after the legacy row has been deleted. -/
def erasedStore : Store := savedStore.erase LEGACY_PREFS_NAMESPACE "gmail"

/-- A save, an adoption, and the legacy row deleted: the opener is about to
delete the version the user's instance wrote. -/
theorem adopter_run : ∃ events,
    openersAndUsers.Run (ι := Unit) ⟨fun _ => ⟨.start "gmail" legacyGmail, []⟩, ⟨legacyStore, ∅⟩⟩
      ⟨fun _ => ⟨⟨"gmail", .deleteTarget legacyGmail 1⟩, events⟩, ⟨erasedStore, {1}⟩⟩ := by
  obtain ⟨conflict, hconflict⟩ := conflict_gmail
  obtain ⟨adopt, hadopt⟩ := adopt_gmail [conflict]
  have herase : LegacyWriter ⟨savedStore, {1}⟩ ⟨erasedStore, {1}⟩ := .inr ⟨"gmail", rfl⟩
  have hgone : OpenerStep ⟨⟨"gmail", .readLatest legacyGmail 1⟩, [adopt, conflict]⟩
      ⟨erasedStore, {1}⟩ ⟨⟨"gmail", .deleteTarget legacyGmail 1⟩, _⟩ ⟨erasedStore, {1}⟩ :=
    ⟨⟨.ok none, ⟨rfl, rfl⟩, rfl⟩, rfl⟩
  exact ⟨_, .tail (.tail (.tail (.tail (.tail .refl (.env (.inl save_gmail))) (.single hconflict))
    (.single hadopt)) (.env (.inr herase))) (.single hgone)⟩

/-- Migration does destroy a preference somebody else wrote. -/
theorem not_keepsForeign :
    ¬ ∀ c₀ c : Config Unit Opener SharedPrefs, Started ⟨c₀.tasks, c₀.store.store⟩ →
      c₀.store.foreign ⊆ c₀.store.store.issued → openersAndUsers.Run c₀ c → KeepsForeign c := by
  intro h
  obtain ⟨events, hrun⟩ := adopter_run
  have hkeeps := h _ _ (fun _ => ⟨_, _, rfl⟩) (Finset.empty_subset _) hrun
  have hdelete : OpenerStep ⟨⟨"gmail", .deleteTarget legacyGmail 1⟩, events⟩
      ⟨erasedStore, {1}⟩ ⟨⟨"gmail", .done (.ok ())⟩, _⟩
      ⟨erasedStore.erase PREFS_NAMESPACE "gmail", {1}⟩ :=
    ⟨⟨.ok true, ⟨rfl, rfl⟩, rfl⟩, rfl⟩
  have hrow := hkeeps () _ _ hdelete "gmail" ⟨gmailBody, none, 1⟩ rfl (Finset.mem_singleton_self 1)
  rw [Store.target, Store.row_erase, if_pos ⟨rfl, rfl⟩] at hrow
  cases hrow

/-- A saved preference that an opener has adopted, with the legacy row in place. -/
theorem keeps_foreign_of_undisturbed_gmail : ∃ events,
    KeepsForeign (ι := Unit)
      ⟨fun _ => ⟨⟨"gmail", .readLatest legacyGmail 1⟩, events⟩, ⟨savedStore, {1}⟩⟩ := by
  obtain ⟨conflict, hconflict⟩ := conflict_gmail
  obtain ⟨adopt, hadopt⟩ := adopt_gmail [conflict]
  have hguard₁ : Undisturbed ⟨.start "gmail" legacyGmail, []⟩ ⟨savedStore, {1}⟩ := by
    intro source version row hawait
    cases hawait
  have hguard₂ : Undisturbed ⟨⟨"gmail", .readTarget legacyGmail (.conflict "")⟩, [conflict]⟩
      ⟨savedStore, {1}⟩ := by
    intro source version row hawait
    cases hawait
  have hrun : undisturbedOpeners.Run (ι := Unit)
      ⟨fun _ => ⟨.start "gmail" legacyGmail, []⟩, ⟨legacyStore, ∅⟩⟩
      ⟨fun _ => ⟨⟨"gmail", .readLatest legacyGmail 1⟩, [adopt, conflict]⟩, ⟨savedStore, {1}⟩⟩ :=
    .tail (.tail (.tail .refl (.env (.inl save_gmail))) (.single ⟨hconflict, hguard₁⟩))
      (.single ⟨hadopt, hguard₂⟩)
  exact ⟨_, keeps_foreign_of_undisturbed (fun _ => ⟨_, _, rfl⟩) (Finset.empty_subset _) hrun⟩
