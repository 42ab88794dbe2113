/-
# The leases on the trigger archive

`tinybus_module/archives.rs` and the members over it: `OpenArchive` leases the archive of
the host's storage under a random handle, `RecordTrigger` and `ReadArchive` go through an
open lease, `CloseArchive` ends one.  All of them run at once, over one storage link; a
record that has found its lease goes on after the lease is closed.
-/
import TinyConnectors.Archive.Prepared
import TinyConnectors.TinybusModule.StorageLink

open Archive Await OnceInit Relation

/-! ## Handles -/

/-- `ArchiveHandle`. -/
abbrev ArchiveHandle := String

def MAX_ARCHIVES : ℕ := 64

/-- The bytes `getrandom` fills in. -/
abbrev Entropy := Fin 16 → UInt8

namespace Entropy

/-- The bytes as numbers. -/
def bytes (entropy : Entropy) : List ℕ := List.ofFn fun i => (entropy i).toNat

/-- `u128::from_le_bytes`. -/
def fromLeBytes (entropy : Entropy) : ℕ := Nat.ofDigits 256 entropy.bytes

/-- `format!("{:032x}", …)`. -/
def handle (entropy : Entropy) : ArchiveHandle :=
  String.ofList (((Nat.digitsAppend 16 32 entropy.fromLeBytes).reverse).map Nat.digitChar)

theorem fromLeBytes_lt (entropy : Entropy) : entropy.fromLeBytes < 16 ^ 32 := by
  have hlt : entropy.fromLeBytes < 256 ^ entropy.bytes.length := by
    apply Nat.ofDigits_lt_base_pow_length (by omega)
    intro n hn
    simp only [bytes, List.mem_ofFn] at hn
    obtain ⟨i, rfl⟩ := hn
    exact UInt8.toNat_lt _
  rw [bytes, List.length_ofFn] at hlt
  calc entropy.fromLeBytes < 256 ^ 16 := hlt
    _ = 16 ^ 32 := by norm_num

/-- The digits of two numbers are the same characters only if they are the same. -/
theorem map_digitChar_inj {xs ys : List ℕ} (hx : ∀ x ∈ xs, x < 16) (hy : ∀ y ∈ ys, y < 16)
    (h : xs.map Nat.digitChar = ys.map Nat.digitChar) : xs = ys := by
  have hinj : ∀ a < 16, ∀ b < 16, Nat.digitChar a = Nat.digitChar b → a = b := by decide
  induction xs generalizing ys with
  | nil =>
    rw [List.map_nil, List.nil_eq, List.map_eq_nil_iff] at h
    exact h.symm
  | cons x xs ih =>
    cases ys with
    | nil => cases h
    | cons y ys =>
      rw [List.map_cons, List.map_cons, List.cons.injEq] at h
      obtain ⟨hx₀, hxs⟩ := List.forall_mem_cons.mp hx
      obtain ⟨hy₀, hys⟩ := List.forall_mem_cons.mp hy
      rw [hinj x hx₀ y hy₀ h.1, ih hxs hys h.2]

/-- Different bytes give different handles. -/
theorem handle_injective : Function.Injective handle := by
  intro e e' h
  have hchars := String.ofList_injective h
  have hdigits : Nat.digitsAppend 16 32 e.fromLeBytes = Nat.digitsAppend 16 32 e'.fromLeBytes := by
    apply List.reverse_injective
    refine map_digitChar_inj ?_ ?_ hchars
    · intro x hx
      exact Nat.lt_of_mem_digitsAppend (by omega) 32 x (List.mem_reverse.mp hx)
    · intro x hx
      exact Nat.lt_of_mem_digitsAppend (by omega) 32 x (List.mem_reverse.mp hx)
  have hvalue : e.fromLeBytes = e'.fromLeBytes :=
    (Nat.bijOn_digitsAppend (by omega) 32).injOn e.fromLeBytes_lt e'.fromLeBytes_lt hdigits
  have hbound : ∀ d : Entropy, ∀ n ∈ d.bytes, n < 256 := by
    intro d n hn
    simp only [bytes, List.mem_ofFn] at hn
    obtain ⟨i, rfl⟩ := hn
    exact UInt8.toNat_lt _
  have hbytes : e.bytes = e'.bytes := by
    refine Nat.ofDigits_inj_of_len_eq (by omega) ?_ (hbound e) (hbound e') hvalue
    simp only [bytes, List.length_ofFn]
  funext i
  apply UInt8.toNat_inj.mp
  exact congrFun (List.ofFn_injective hbytes) i

end Entropy

/-! ## The members -/

/-- A lease opened or closed. -/
inductive LeaseEvent where
  | opened (entropy : Entropy)
  | closed (handle : ArchiveHandle)

/-- The handle an event is about. -/
def LeaseEvent.handle : LeaseEvent → ArchiveHandle
  | .opened entropy => entropy.handle
  | .closed handle => handle

/-- The bytes a lease was opened with. -/
def LeaseEvent.drawn : LeaseEvent → Option Entropy
  | .opened entropy => some entropy
  | .closed _ => none

def LeaseEvent.isClosing : LeaseEvent → Bool
  | .opened _ => false
  | .closed _ => true

/-- A record that has found its lease and awaits `append`. -/
structure Recording where
  lease : StorageHandle
  /-- `utc_day()`, when the name of the stream was made. -/
  day : String
  entry : Entry
  deriving DecidableEq

/-- The part of the service the archive members read and write. -/
structure ArchiveMembers (ι : Type) where
  link : Scoped.Callers ι
  archives : AList fun _ : ArchiveHandle => StorageHandle
  recordings : List Recording
  /-- History: the leases opened and closed. -/
  log : List LeaseEvent
  /-- History: the deliveries that have been appended. -/
  appended : List Entry

/-- An instance that has just been set up, over storage with these deliveries. -/
def ArchiveMembers.load {ι : Type} (store : Store) (appended : List Entry) : ArchiveMembers ι where
  link := Shared.fresh store
  archives := ∅
  recordings := []
  log := []
  appended := appended

namespace ArchiveMembers

/-- Change the storage behind the link. -/
def withStore {ι : Type} (m : ArchiveMembers ι) (store : Store) : ArchiveMembers ι :=
  { m with link := { m.link with store := store } }

/-- One step of one member.  A member that is refused changes nothing. -/
inductive Step {ι : Type} [DecidableEq ι] (port : KeyPort) (display : StorageError → String) :
    ArchiveMembers ι → ArchiveMembers ι → Prop where
  /-- A step of one of the calls of `storage.streams()`. -/
  | link {m : ArchiveMembers ι} {link' : Scoped.Callers ι}
      (h : OnceInit.Step (Scoped.opening port display) m.link link')
      (hstore : m.link.slot.isSome = true → link'.store = m.link.store) :
      Step port display m { m with link := link' }
  /-- `Archives::open`, with the storage a call has been given. -/
  | opens {m : ArchiveMembers ι} (i : ι) (lease : StorageHandle) (entropy : Entropy)
      (hstorage : m.link.callers i = .returned (.ok lease))
      (hroom : m.archives.keys.length < MAX_ARCHIVES) :
      Step port display m { m with
        archives := m.archives.insert entropy.handle lease
        log := m.log ++ [.opened entropy] }
  /-- `RecordTrigger`, up to its append. -/
  | records {m : ArchiveMembers ι} (handle : ArchiveHandle) (recording : Recording)
      (hlease : m.archives.lookup handle = some recording.lease) :
      Step port display m { m with recordings := recording :: m.recordings }
  /-- The append takes effect, whether or not its caller is told so. -/
  | appends {m : ArchiveMembers ι} (recording : Recording) (h : recording ∈ m.recordings) :
      Step port display m { m.withStore (m.link.store.append (STREAM_PREFIX ++ recording.day)
          [recording.entry.toValue]) with
        recordings := m.recordings.erase recording
        appended := m.appended ++ [recording.entry] }
  /-- The append fails. -/
  | drops {m : ArchiveMembers ι} (recording : Recording) (h : recording ∈ m.recordings) :
      Step port display m { m with recordings := m.recordings.erase recording }
  /-- `Archives::close`. -/
  | closes {m : ArchiveMembers ι} (handle : ArchiveHandle) (lease : StorageHandle)
      (hlease : m.archives.lookup handle = some lease) :
      Step port display m { m with
        archives := m.archives.erase handle
        log := m.log ++ [.closed handle] }

/-- Every interleaving. -/
def Run {ι : Type} [DecidableEq ι] (port : KeyPort) (display : StorageError → String) :
    ArchiveMembers ι → ArchiveMembers ι → Prop :=
  ReflTransGen (Step port display)

end ArchiveMembers

/-! ## What the log says -/

/-- The bytes the leases were opened with. -/
def entropies (log : List LeaseEvent) : List Entropy := log.filterMap LeaseEvent.drawn

/-- How many leases were closed. -/
def closings (log : List LeaseEvent) : ℕ := log.countP LeaseEvent.isClosing

/-- The last thing that happened to the handle is that it was opened. -/
def LeaseOpen (log : List LeaseEvent) (handle : ArchiveHandle) : Prop :=
  ∃ entropy, (log.filter fun event => event.handle = handle).getLast? = some (.opened entropy)

section
variable {log : List LeaseEvent} {handle : ArchiveHandle} {entropy : Entropy}

theorem leaseOpen_append_of_ne {event : LeaseEvent} (h : event.handle ≠ handle) :
    LeaseOpen (log ++ [event]) handle ↔ LeaseOpen log handle := by
  unfold LeaseOpen
  rw [List.filter_append, List.filter_cons_of_neg (by simpa using h), List.filter_nil,
    List.append_nil]

theorem leaseOpen_opened : LeaseOpen (log ++ [.opened entropy]) entropy.handle := by
  refine ⟨entropy, ?_⟩
  rw [List.filter_append, List.filter_cons_of_pos (by simp [LeaseEvent.handle]), List.filter_nil,
    List.getLast?_concat]

theorem not_leaseOpen_closed : ¬ LeaseOpen (log ++ [.closed handle]) handle := by
  rintro ⟨entropy, h⟩
  rw [List.filter_append, List.filter_cons_of_pos (by simp [LeaseEvent.handle]), List.filter_nil,
    List.getLast?_concat, Option.some_inj] at h
  cases h

/-- An open handle is one that has been drawn. -/
theorem LeaseOpen.drawn (h : LeaseOpen log handle) :
    ∃ entropy ∈ entropies log, entropy.handle = handle := by
  obtain ⟨entropy, hlast⟩ := h
  obtain ⟨hmem, hhandle⟩ := List.mem_filter.mp (List.mem_of_getLast? hlast)
  refine ⟨entropy, ?_, of_decide_eq_true hhandle⟩
  exact List.mem_filterMap.mpr ⟨.opened entropy, hmem, rfl⟩

theorem entropies_opened : entropies (log ++ [.opened entropy]) = entropies log ++ [entropy] := by
  simp [entropies, LeaseEvent.drawn]

theorem entropies_closed : entropies (log ++ [.closed handle]) = entropies log := by
  simp [entropies, LeaseEvent.drawn]

theorem closings_opened : closings (log ++ [.opened entropy]) = closings log := by
  simp [closings, LeaseEvent.isClosing]

theorem closings_closed : closings (log ++ [.closed handle]) = closings log + 1 := by
  simp [closings, LeaseEvent.isClosing]

end

/-! ## What every step keeps -/

namespace ArchiveMembers

variable {ι : Type}

/-- Whoever prepares the storage goes on copying days. -/
def CopiesHistory (link : Scoped.Callers ι) (appended : List Entry) : Prop :=
  Kept ⟨link.store, appended⟩ ∧
    ∀ i handle call, link.callers i = .inside (.preparing handle call) →
      PreparesDays call ⟨link.store, appended⟩

/-- The leases are the ones the log tells of, all of them on the storage of the link. -/
structure Inv [DecidableEq ι] (port : KeyPort) (display : StorageError → String) (store : Store)
    (m : ArchiveMembers ι) : Prop where
  link : OnceInit.Inv (Scoped.opening port display) store m.link
  history : CopiesHistory m.link m.appended
  bounded : m.archives.keys.length ≤ MAX_ARCHIVES
  leased : ∀ handle lease, m.archives.lookup handle = some lease → m.link.slot = some lease
  recorded : ∀ recording ∈ m.recordings, m.link.slot = some recording.lease
  open_iff : ∀ handle, handle ∈ m.archives ↔ LeaseOpen m.log handle
  counted : (entropies m.log).Nodup →
    m.archives.keys.length + closings m.log = (entropies m.log).length

section
variable [DecidableEq ι] {port : KeyPort} {display : StorageError → String} {store : Store}
  {m m' : ArchiveMembers ι}

/-- A step of the link keeps the days. -/
theorem CopiesHistory.link {link link' : Scoped.Callers ι} {appended : List Entry}
    (hinv : OnceInit.Inv (Scoped.opening port display) store link)
    (h : CopiesHistory link appended)
    (hstep : OnceInit.Step (Scoped.opening port display) link link')
    (hstore : link.slot.isSome = true → link'.store = link.store) :
    CopiesHistory link' appended := by
  obtain ⟨hkept, hworks⟩ := h
  -- a caller that is not inside leaves the others as they were
  have hother : ∀ i caller, (∀ state, caller ≠ Caller.inside state) →
      ∀ j handle call, (link.setCaller i caller).callers j = .inside (.preparing handle call) →
        PreparesDays call ⟨link.store, appended⟩ := by
    intro i caller hcaller j handle call hj
    exact hworks j handle call (inside_of_setCaller hcaller hj).2
  cases hstep with
  | enter i hcaller hfree hslot =>
    refine ⟨hkept, ?_⟩
    intro j handle call hj
    by_cases hji : j = i
    · subst hji
      rw [show _ = Caller.inside (Scoped.opening port display).start from
        Shared.setCaller_self link j _] at hj
      cases hj
    · exact hworks j handle call ((Shared.setCaller_of_ne hji _).symm.trans hj)
  | found i hcaller hfree hslot =>
    exact ⟨hkept, hother i _ (by intro state hstate; cases hstate)⟩
  | @work i state state' store' hcaller hwork =>
    have hme : ∀ j t, (link.setCaller i (.inside state')).callers j = .inside t → t = state' := by
      intro j t hj
      by_cases hji : j = i
      · subst hji
        rw [Shared.setCaller_self] at hj
        cases hj
        rfl
      · rw [Shared.setCaller_of_ne hji] at hj
        exact absurd (hinv.exclusive j i t state hj hcaller) hji
    cases hwork with
    | connected _ handle' =>
      refine ⟨hkept, ?_⟩
      intro j handle call hj
      cases hme j _ hj
      exact trivial
    | refused _ error =>
      refine ⟨hkept, ?_⟩
      intro j handle call hj
      cases hme j _ hj
    | prepare handle' hprepare =>
      obtain ⟨hkept', hcopies⟩ := hkept.prepare (hworks i _ _ hcaller) hprepare
      refine ⟨hkept', ?_⟩
      intro j handle call hj
      cases hme j _ hj
      exact hcopies
  | fill i hcaller hresult =>
    exact ⟨hkept, hother i _ (by intro state hstate; cases hstate)⟩
  | fail i hcaller hresult =>
    exact ⟨hkept, hother i _ (by intro state hstate; cases hstate)⟩
  | giveUp i hcaller =>
    exact ⟨hkept, hother i _ (by intro state hstate; cases hstate)⟩
  | abandon i hcaller =>
    exact ⟨hkept, hother i _ (by intro state hstate; cases hstate)⟩
  | use hslot =>
    obtain rfl := hstore hslot
    exact ⟨hkept, hworks⟩

theorem Inv.load {appended : List Entry} (h : Kept ⟨store, appended⟩) :
    Inv port display store (ArchiveMembers.load store appended : ArchiveMembers ι) where
  link := OnceInit.Inv.fresh _ store
  history := ⟨h, by intro i handle call hi; cases hi⟩
  bounded := Nat.zero_le _
  leased handle lease hlease := by
    rw [show (ArchiveMembers.load store appended : ArchiveMembers ι).archives = ∅ from rfl,
      AList.lookup_empty] at hlease
    cases hlease
  recorded recording hrecording := absurd hrecording List.not_mem_nil
  open_iff handle := by
    refine ⟨fun hmem => absurd hmem (AList.notMem_empty handle), ?_⟩
    rintro ⟨entropy, hlast⟩
    cases hlast
  counted _ := rfl

/-- A lease is opened. -/
theorem Inv.opens (h : Inv port display store m) {i : ι} {lease : StorageHandle} (entropy : Entropy)
    (hstorage : m.link.callers i = .returned (.ok lease))
    (hroom : m.archives.keys.length < MAX_ARCHIVES) :
    Inv port display store { m with
      archives := m.archives.insert entropy.handle lease
      log := m.log ++ [.opened entropy] } where
  link := h.link
  history := h.history
  bounded := by
    rw [AList.keys_insert, List.length_cons]
    have hle : (m.archives.keys.erase entropy.handle).length ≤ m.archives.keys.length :=
      List.erase_sublist.length_le
    omega
  leased handle found hfound := by
    by_cases hhandle : handle = entropy.handle
    · subst hhandle
      rw [AList.lookup_insert, Option.some_inj] at hfound
      rw [← hfound]
      exact h.link.returned i lease hstorage
    · rw [AList.lookup_insert_ne hhandle] at hfound
      exact h.leased handle found hfound
  recorded := h.recorded
  open_iff handle := by
    rw [AList.mem_insert]
    by_cases hhandle : handle = entropy.handle
    · subst hhandle
      exact ⟨fun _ => leaseOpen_opened, fun _ => .inl rfl⟩
    · have hne : (LeaseEvent.opened entropy).handle ≠ handle := by
        rw [LeaseEvent.handle]
        exact Ne.symm hhandle
      rw [leaseOpen_append_of_ne hne, ← h.open_iff handle]
      exact or_iff_right hhandle
  counted hdistinct := by
    rw [entropies_opened] at hdistinct ⊢
    obtain ⟨hlog, -, hnew⟩ := List.nodup_append.mp hdistinct
    -- bytes that have not been drawn before are not the handle of an open lease
    have hfresh : entropy.handle ∉ m.archives := by
      intro hopen
      obtain ⟨drawn, hdrawn, hsame⟩ := ((h.open_iff _).mp hopen).drawn
      have hne : drawn ≠ entropy := hnew drawn hdrawn entropy (List.mem_singleton_self entropy)
      exact hne (Entropy.handle_injective hsame)
    have hcount := h.counted hlog
    rw [AList.keys_insert, List.erase_of_not_mem hfresh, closings_opened, List.length_cons,
      List.length_append, List.length_singleton]
    omega

/-- A lease is closed. -/
theorem Inv.closes (h : Inv port display store m) {handle : ArchiveHandle} {lease : StorageHandle}
    (hlease : m.archives.lookup handle = some lease) :
    Inv port display store { m with
      archives := m.archives.erase handle
      log := m.log ++ [.closed handle] } where
  link := h.link
  history := h.history
  bounded := by
    rw [AList.keys_erase]
    exact List.erase_sublist.length_le.trans h.bounded
  leased other found hfound := by
    by_cases hother : other = handle
    · subst hother
      rw [AList.lookup_erase] at hfound
      cases hfound
    · rw [AList.lookup_erase_ne hother] at hfound
      exact h.leased other found hfound
  recorded := h.recorded
  open_iff other := by
    rw [AList.mem_erase]
    by_cases hother : other = handle
    · subst hother
      exact ⟨fun hmem => absurd rfl hmem.1, fun hopen => absurd hopen not_leaseOpen_closed⟩
    · have hne : (LeaseEvent.closed handle).handle ≠ other := by
        rw [LeaseEvent.handle]
        exact Ne.symm hother
      rw [leaseOpen_append_of_ne hne, ← h.open_iff other]
      exact and_iff_right hother
  counted hdistinct := by
    rw [entropies_closed] at hdistinct ⊢
    -- one handle fewer is open, one closing more is logged
    have hmem : handle ∈ m.archives.keys := by
      rw [← AList.mem_keys, ← AList.lookup_isSome, hlease]
      rfl
    have hcount := h.counted hdistinct
    have hpos := List.length_pos_of_mem hmem
    rw [AList.keys_erase, List.length_erase_of_mem hmem, closings_closed]
    omega

/-- The append of a record. -/
theorem Inv.appends (h : Inv port display store m) {recording : Recording}
    (hrecording : recording ∈ m.recordings) :
    Inv port display store { m.withStore (m.link.store.append (STREAM_PREFIX ++ recording.day)
        [recording.entry.toValue]) with
      recordings := m.recordings.erase recording
      appended := m.appended ++ [recording.entry] } where
  link := by
    have hslot := h.recorded recording hrecording
    exact h.link.step (.use (by rw [hslot]; rfl))
  history := by
    have hslot := h.recorded recording hrecording
    refine ⟨h.history.1.env (.record _ _ _ _), ?_⟩
    intro i handle call hi
    have hnone := (h.link.working i _ hi).1
    rw [hslot] at hnone
    cases hnone
  bounded := h.bounded
  leased := h.leased
  recorded other hother := h.recorded other (List.mem_of_mem_erase hother)
  open_iff := h.open_iff
  counted := h.counted

/-- What one step keeps. -/
theorem Inv.step (h : Inv port display store m) (hstep : Step port display m m') :
    Inv port display store m' := by
  cases hstep with
  | link hlink hstore =>
    have hslot : ∀ lease, m.link.slot = some lease → _ := fun lease => h.link.slot_stays hlink
    exact
      { link := h.link.step hlink
        history := h.history.link h.link hlink hstore
        bounded := h.bounded
        leased := fun handle lease hlease => hslot lease (h.leased handle lease hlease)
        recorded := fun recording hmem => hslot _ (h.recorded recording hmem)
        open_iff := h.open_iff
        counted := h.counted }
  | opens i lease entropy hstorage hroom => exact h.opens entropy hstorage hroom
  | records handle recording hlease =>
    refine { h with recorded := ?_ }
    intro other hother
    rcases List.mem_cons.mp hother with rfl | hother
    · exact h.leased handle _ hlease
    · exact h.recorded other hother
  | appends recording hrecording => exact h.appends hrecording
  | drops recording hrecording =>
    exact { h with recorded := fun other hother => h.recorded other (List.mem_of_mem_erase hother) }
  | closes handle lease hlease => exact h.closes hlease

/-- What every interleaving keeps. -/
theorem Inv.run (h : Inv port display store m) (hrun : Run port display m m') :
    Inv port display store m' := by
  induction hrun with
  | refl => exact h
  | tail _ hstep ih => exact ih.step hstep

end

end ArchiveMembers
