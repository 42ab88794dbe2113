/-
# What a stream copy has established

`migrate_streams` interleaved with other openers and with live deliveries, which
`TriggerArchive::record` appends to the same target streams.  `CopySound` says
at every point of the machine how much of the target is known to start like the
source.  The one place where it does not follow by itself is the length read
after a page: the offset of the next page is the target's length, so whatever
stands beyond the page just copied is skipped (`NoGap`).
-/
import TinyConnectors.Migration.MigrateStreams

open Await Relation

/-! ## Growing streams -/

/-- Streams only grow, and the legacy streams do not change. -/
structure Store.StreamsGrow (store store' : Store) : Prop where
  grows : ∀ name, store.entries name <+: store'.entries name
  legacy : ∀ name, IsLegacyStream name → store'.entries name = store.entries name
  listed : store'.legacyStreams = store.legacyStreams

theorem Store.StreamsGrow.refl (store : Store) : store.StreamsGrow store :=
  ⟨fun _ => List.prefix_rfl, fun _ _ => rfl, rfl⟩

theorem Store.StreamsGrow.append (store : Store) (day : String) (values : List Json) :
    store.StreamsGrow (store.append (STREAM_PREFIX ++ day) values) where
  grows name := by
    rw [Store.entries_append]
    split_ifs with hname
    · subst hname
      exact List.prefix_append _ _
    · exact List.prefix_rfl
  legacy name hname := entries_append_of_legacy hname store day values
  listed := legacyStreams_append store day values

/-- The whole source stands at the start of its target. -/
def Complete (store : Store) (source : String) : Prop :=
  store.entries source <+: store.entries (targetOf source)

/-- The first `n` entries of the target are the source's. -/
def Agrees (store : Store) (source : String) (n : ℕ) : Prop :=
  n ≤ (store.entries (targetOf source)).length ∧
    (store.entries (targetOf source)).take n = (store.entries source).take n

section
variable {store store' : Store} {source : String} {n : ℕ}

theorem Complete.mono (hgrow : store.StreamsGrow store') (hlegacy : IsLegacyStream source)
    (h : Complete store source) : Complete store' source := by
  rw [Complete, hgrow.legacy source hlegacy]
  exact h.trans (hgrow.grows _)

theorem Agrees.mono (hgrow : store.StreamsGrow store') (hlegacy : IsLegacyStream source)
    (h : Agrees store source n) : Agrees store' source n := by
  obtain ⟨rest, hrest⟩ := hgrow.grows (targetOf source)
  obtain ⟨hlen, htake⟩ := h
  refine ⟨?_, ?_⟩
  · rw [← hrest, List.length_append]
    omega
  · rw [hgrow.legacy source hlegacy, ← hrest, List.take_append_of_le_length hlen, htake]

theorem agrees_zero : Agrees store source 0 := by
  simp [Agrees]

/-- Agreement over the whole source is completeness. -/
theorem complete_of_agrees (h : Agrees store source (store.entries source).length) :
    Complete store source := by
  obtain ⟨-, htake⟩ := h
  rw [List.take_length] at htake
  rw [Complete, ← htake]
  exact List.take_prefix _ _

/-- Agreement extends over a window that reads the same on both sides. -/
theorem Agrees.extend {k : ℕ} (h : Agrees store source n)
    (hlen : n + k ≤ (store.entries (targetOf source)).length)
    (hwindow : ((store.entries (targetOf source)).drop n).take k =
      ((store.entries source).drop n).take k) : Agrees store source (n + k) := by
  refine ⟨hlen, ?_⟩
  rw [List.take_add, List.take_add, h.2, hwindow]

end

/-- A window inside a prefix reads the same in the whole. -/
theorem window_of_isPrefix {xs ys : List Json} (h : xs <+: ys) {n k : ℕ}
    (hlen : n + k ≤ xs.length) :
    (xs.drop n).take k = (ys.drop n).take k := by
  obtain ⟨rest, rfl⟩ := h
  rw [List.drop_append_of_le_length (by omega), List.take_append_of_le_length]
  rw [List.length_drop]
  omega

/-! ## The invariant of the machine -/

/-- The round a machine is in, and what the rounds before it have done: every
legacy stream is still to come or complete. -/
structure WellFramed (store : Store) (f : StreamFrame) : Prop where
  source_mem : f.source ∈ store.legacyStreams
  target_eq : f.target = targetOf f.source
  rest_mem : ∀ name ∈ f.rest, name ∈ store.legacyStreams
  covered : ∀ name ∈ store.legacyStreams, name ∈ f.source :: f.rest ∨ Complete store name

/-- The round, with the source's length known. -/
structure Copying (store : Store) (f : StreamFrame) (sourceLen : ℕ) : Prop
    extends WellFramed store f where
  length_eq : sourceLen = (store.entries f.source).length

/-- What has been established at each point. -/
def CopySound (store : Store) : MigrateStreams → Prop
  | .listing => True
  | .readSourceLen f => WellFramed store f
  | .readTargetLen f sourceLen => Copying store f sourceLen
  | .verifySource f sourceLen targetLen verified =>
    Copying store f sourceLen ∧ (verified < targetLen ∧ targetLen ≤ sourceLen ∧
      targetLen ≤ (store.entries f.target).length) ∧ Agrees store f.source verified
  | .verifyTarget f sourceLen targetLen verified sourceEntries =>
    Copying store f sourceLen ∧ (verified < targetLen ∧ targetLen ≤ sourceLen ∧
      targetLen ≤ (store.entries f.target).length) ∧ Agrees store f.source verified ∧
      sourceEntries = ((store.entries f.source).drop verified).take
        (MigrateStreams.pageLimit targetLen verified)
  | .readPage f sourceLen offset =>
    Copying store f sourceLen ∧ offset < sourceLen ∧ Agrees store f.source offset
  | .appendPage f sourceLen offset values =>
    Copying store f sourceLen ∧ offset < sourceLen ∧ Agrees store f.source offset ∧
      values = ((store.entries f.source).drop offset).take PAGE_SIZE
  | .readRaced f sourceLen offset values _ =>
    Copying store f sourceLen ∧ offset < sourceLen ∧ Agrees store f.source offset ∧
      values = ((store.entries f.source).drop offset).take PAGE_SIZE
  | .lengthAfter f sourceLen offset values =>
    Copying store f sourceLen ∧ Agrees store f.source (offset + values.length)
  | .finalLen f sourceLen => Copying store f sourceLen ∧ Complete store f.source
  | .done (.ok _) => ∀ name ∈ store.legacyStreams, Complete store name
  | .done (.error _) => True

section
variable {store store' : Store} {f : StreamFrame} {sourceLen : ℕ}

theorem WellFramed.legacy (h : WellFramed store f) : IsLegacyStream f.source :=
  mem_legacyStreams h.source_mem

theorem WellFramed.mono (hgrow : store.StreamsGrow store') (h : WellFramed store f) :
    WellFramed store' f where
  source_mem := by rw [hgrow.listed]; exact h.source_mem
  target_eq := h.target_eq
  rest_mem := by rw [hgrow.listed]; exact h.rest_mem
  covered name hname := by
    rw [hgrow.listed] at hname
    exact (h.covered name hname).imp_right (Complete.mono hgrow (mem_legacyStreams hname))

theorem Copying.mono (hgrow : store.StreamsGrow store') (h : Copying store f sourceLen) :
    Copying store' f sourceLen where
  toWellFramed := h.toWellFramed.mono hgrow
  length_eq := by rw [hgrow.legacy _ h.legacy]; exact h.length_eq

/-- What has been established survives growing streams. -/
theorem CopySound.mono (hgrow : store.StreamsGrow store') {s : MigrateStreams}
    (h : CopySound store s) : CopySound store' s := by
  have hlen : ∀ name, (store.entries name).length ≤ (store'.entries name).length :=
    fun name => (hgrow.grows name).length_le
  cases s with
  | listing => trivial
  | readSourceLen f => exact WellFramed.mono hgrow h
  | readTargetLen f sourceLen => exact Copying.mono hgrow h
  | verifySource f sourceLen targetLen verified =>
    obtain ⟨hcopy, ⟨hlt, hle, htarget⟩, hagree⟩ := h
    exact ⟨hcopy.mono hgrow, ⟨hlt, hle, htarget.trans (hlen _)⟩, hagree.mono hgrow hcopy.legacy⟩
  | verifyTarget f sourceLen targetLen verified sourceEntries =>
    obtain ⟨hcopy, ⟨hlt, hle, htarget⟩, hagree, hentries⟩ := h
    refine ⟨hcopy.mono hgrow, ⟨hlt, hle, htarget.trans (hlen _)⟩,
      hagree.mono hgrow hcopy.legacy, ?_⟩
    rw [hgrow.legacy _ hcopy.legacy]
    exact hentries
  | readPage f sourceLen offset =>
    obtain ⟨hcopy, hlt, hagree⟩ := h
    exact ⟨hcopy.mono hgrow, hlt, hagree.mono hgrow hcopy.legacy⟩
  | appendPage f sourceLen offset values =>
    obtain ⟨hcopy, hlt, hagree, hvalues⟩ := h
    refine ⟨hcopy.mono hgrow, hlt, hagree.mono hgrow hcopy.legacy, ?_⟩
    rw [hgrow.legacy _ hcopy.legacy]
    exact hvalues
  | readRaced f sourceLen offset values error =>
    obtain ⟨hcopy, hlt, hagree, hvalues⟩ := h
    refine ⟨hcopy.mono hgrow, hlt, hagree.mono hgrow hcopy.legacy, ?_⟩
    rw [hgrow.legacy _ hcopy.legacy]
    exact hvalues
  | lengthAfter f sourceLen offset values =>
    obtain ⟨hcopy, hagree⟩ := h
    exact ⟨hcopy.mono hgrow, hagree.mono hgrow hcopy.legacy⟩
  | finalLen f sourceLen =>
    obtain ⟨hcopy, hcomplete⟩ := h
    exact ⟨hcopy.mono hgrow, hcomplete.mono hgrow hcopy.legacy⟩
  | done result =>
    cases result with
    | error error => trivial
    | ok _ =>
      intro name hname
      rw [hgrow.listed] at hname
      exact (h name hname).mono hgrow (mem_legacyStreams hname)

/-! ## One step -/

/-- The next round starts sound once the streams before it are complete. -/
theorem copySound_nextStream {rest : List String}
    (hrest : ∀ name ∈ rest, name ∈ store.legacyStreams)
    (hcovered : ∀ name ∈ store.legacyStreams, name ∈ rest ∨ Complete store name) :
    CopySound store (MigrateStreams.nextStream rest) := by
  cases rest with
  | nil =>
    intro name hname
    exact (hcovered name hname).resolve_left List.not_mem_nil
  | cons source rest =>
    obtain ⟨hsource, hrest⟩ := List.forall_mem_cons.mp hrest
    rw [MigrateStreams.nextStream_cons (mem_legacyStreams hsource)]
    exact ⟨hsource, rfl, hrest, hcovered⟩

/-- The copy loop goes on soundly from an offset up to which the target agrees. -/
theorem copySound_copyLoop (hcopy : Copying store f sourceLen) {offset : ℕ}
    (hagree : Agrees store f.source (min offset sourceLen)) :
    CopySound store (MigrateStreams.copyLoop f sourceLen offset) := by
  unfold MigrateStreams.copyLoop
  split_ifs with hlt
  · rw [min_eq_left hlt.le] at hagree
    exact ⟨hcopy, hlt, hagree⟩
  · rw [min_eq_right (not_lt.mp hlt), hcopy.length_eq] at hagree
    exact ⟨hcopy, complete_of_agrees hagree⟩

/-- So does the verify loop. -/
theorem copySound_verifyLoop (hcopy : Copying store f sourceLen) {targetLen verified : ℕ}
    (hle : verified ≤ targetLen ∧ targetLen ≤ sourceLen)
    (htarget : targetLen ≤ (store.entries f.target).length)
    (hagree : Agrees store f.source verified) :
    CopySound store (MigrateStreams.verifyLoop f sourceLen targetLen verified) := by
  unfold MigrateStreams.verifyLoop
  split_ifs with hlt
  · exact ⟨hcopy, ⟨hlt, hle.2, htarget⟩, hagree⟩
  · have heq : verified = targetLen := by omega
    subst heq
    refine copySound_copyLoop hcopy ?_
    rw [min_eq_left hle.2]
    exact hagree

/-- What `pageLimit` entries are, read where the target is long enough. -/
theorem verified_add_pageLimit {targetLen verified : ℕ} (hlt : verified < targetLen) :
    verified + MigrateStreams.pageLimit targetLen verified ≤ targetLen := by
  unfold MigrateStreams.pageLimit
  omega

/-- A page is what its own length reads at its offset. -/
theorem take_page {source values : List Json} {offset : ℕ}
    (h : values = (source.drop offset).take PAGE_SIZE) :
    values = (source.drop offset).take values.length := by
  have hpre : values <+: source.drop offset := by
    rw [h]
    exact List.take_prefix _ _
  exact List.prefix_iff_eq_take.mp hpre

/-- At the length read after a page, what stands in the target beyond the page,
up to the length of the source, is the source's. -/
def NoGap (store : Store) : MigrateStreams → Prop
  | .lengthAfter f sourceLen offset values => ∀ j, offset + values.length ≤ j → j < sourceLen →
      j < (store.entries f.target).length →
      (store.entries f.target)[j]? = (store.entries f.source)[j]?
  | _ => True

/-- Without a gap the target agrees up to its whole length. -/
theorem agrees_of_noGap {n : ℕ} (hcopy : Copying store f sourceLen)
    (hagree : Agrees store f.source n)
    (hgap : ∀ j, n ≤ j → j < sourceLen → j < (store.entries f.target).length →
      (store.entries f.target)[j]? = (store.entries f.source)[j]?) :
    Agrees store f.source (min (store.entries f.target).length sourceLen) := by
  rw [hcopy.target_eq] at hgap ⊢
  refine ⟨min_le_left _ _, List.ext_getElem? fun j => ?_⟩
  rw [List.getElem?_take, List.getElem?_take]
  split_ifs with hj
  · obtain ⟨hlen, hsource⟩ := lt_min_iff.mp hj
    by_cases hn : j < n
    · have htake := congrArg (fun l => l[j]?) hagree.2
      simpa [List.getElem?_take, hn] using htake
    · exact hgap j (not_lt.mp hn) hsource hlen
  · rfl

theorem copySound_afterTargetLen (h : Copying store f sourceLen) :
    CopySound store
      (MigrateStreams.afterTargetLen f sourceLen (.ok (store.entries f.target).length)) := by
  simp only [MigrateStreams.afterTargetLen]
  split_ifs with hlong
  · trivial
  · exact copySound_verifyLoop h ⟨Nat.zero_le _, not_lt.mp hlong⟩ le_rfl agrees_zero

theorem copySound_afterVerifyTarget {targetLen verified : ℕ} {sourceEntries : List Json}
    (h : CopySound store (.verifyTarget f sourceLen targetLen verified sourceEntries)) :
    CopySound store (MigrateStreams.afterVerifyTarget f sourceLen targetLen verified sourceEntries
      (.ok (((store.entries f.target).drop verified).take
        (MigrateStreams.pageLimit targetLen verified)))) := by
  obtain ⟨hcopy, ⟨hlt, hle, htarget⟩, hagree, hentries⟩ := h
  simp only [MigrateStreams.afterVerifyTarget]
  split_ifs with hdiffers
  · trivial
  · push Not at hdiffers
    obtain ⟨hlen, hlen', hsame⟩ := hdiffers
    rw [ne_eq, MigrateStreams.anyDiffers_iff (hlen.trans hlen'.symm), not_not, hentries,
      hcopy.target_eq] at hsame
    have hlimit := verified_add_pageLimit hlt
    refine copySound_verifyLoop hcopy ⟨hlimit, hle⟩ htarget (hagree.extend ?_ hsame.symm)
    rw [← hcopy.target_eq]
    omega

theorem copySound_afterReadPage {offset : ℕ} (h : CopySound store (.readPage f sourceLen offset)) :
    CopySound store (MigrateStreams.afterReadPage f sourceLen offset
      (.ok (((store.entries f.source).drop offset).take PAGE_SIZE))) := by
  obtain ⟨hcopy, hlt, hagree⟩ := h
  simp only [MigrateStreams.afterReadPage]
  split_ifs with hempty
  · trivial
  · exact ⟨hcopy, hlt, hagree, rfl⟩

/-- A page that lands extends the agreement over itself. -/
theorem copySound_appended {offset : ℕ} {values : List Json}
    (h : CopySound store (.appendPage f sourceLen offset values))
    (hlen : (store.entries f.target).length = offset) :
    CopySound (store.append f.target values) (.lengthAfter f sourceLen offset values) ∧
      store.StreamsGrow (store.append f.target values) := by
  obtain ⟨hcopy, hlt, hagree, hvalues⟩ := h
  rw [hcopy.target_eq] at hlen
  have hgrow : store.StreamsGrow (store.append f.target values) := by
    rw [hcopy.target_eq]
    exact .append ..
  have htarget : (store.append f.target values).entries (targetOf f.source) =
      store.entries (targetOf f.source) ++ values := by
    rw [← hcopy.target_eq, Store.entries_append, if_pos rfl]
  refine ⟨⟨hcopy.mono hgrow, (hagree.mono hgrow hcopy.legacy).extend ?_ ?_⟩, hgrow⟩
  · rw [htarget, List.length_append]
    omega
  · rw [htarget, hgrow.legacy _ hcopy.legacy, List.drop_left' hlen, List.take_length]
    exact take_page hvalues

/-- A lost page that reads back extends it as well. -/
theorem copySound_afterReadRaced {offset : ℕ} {values : List Json} {error : StorageError}
    (h : CopySound store (.readRaced f sourceLen offset values error)) :
    CopySound store (MigrateStreams.afterReadRaced f sourceLen offset values error
      (.ok (((store.entries f.target).drop offset).take values.length))) := by
  obtain ⟨hcopy, hlt, hagree, hvalues⟩ := h
  simp only [MigrateStreams.afterReadRaced]
  split_ifs with hdiffers
  · trivial
  · push Not at hdiffers
    obtain ⟨hlen, hsame⟩ := hdiffers
    rw [ne_eq, MigrateStreams.anyDiffers_iff hlen, not_not] at hsame
    rw [hcopy.target_eq] at hlen hsame
    refine ⟨hcopy, hagree.extend ?_ (hsame.trans (take_page hvalues))⟩
    rw [List.length_take, List.length_drop] at hlen
    have hoffset := hagree.1
    omega

theorem copySound_afterFinalLen (h : CopySound store (.finalLen f sourceLen)) :
    CopySound store
      (MigrateStreams.afterFinalLen f sourceLen (.ok (store.entries f.source).length)) := by
  obtain ⟨hcopy, hcomplete⟩ := h
  simp only [MigrateStreams.afterFinalLen]
  split_ifs with hlen
  · trivial
  · refine copySound_nextStream hcopy.rest_mem fun name hname => ?_
    rcases hcopy.covered name hname with hmem | hdone
    · rcases List.mem_cons.mp hmem with rfl | hmem
      · exact .inr hcomplete
      · exact .inl hmem
    · exact .inr hdone

/-- One step of a copy, at whose length read there is no gap. -/
theorem CopySound.step {s s' : MigrateStreams} (h : CopySound store s)
    (hgap : NoGap store s) (hstep : Advances MigrateStreams.poll Serves s store s' store') :
    CopySound store' s' ∧ store.StreamsGrow store' := by
  cases s with
  | listing =>
    obtain ⟨reply, ⟨rfl, rfl⟩, rfl⟩ := hstep
    exact ⟨copySound_nextStream (fun _ hname => hname) (fun _ hname => .inl hname), .refl _⟩
  | readSourceLen f =>
    obtain ⟨reply, ⟨rfl, rfl⟩, rfl⟩ := hstep
    exact ⟨⟨h, rfl⟩, .refl _⟩
  | readTargetLen f sourceLen =>
    obtain ⟨reply, ⟨rfl, rfl⟩, rfl⟩ := hstep
    exact ⟨copySound_afterTargetLen h, .refl _⟩
  | verifySource f sourceLen targetLen verified =>
    obtain ⟨reply, ⟨rfl, rfl⟩, rfl⟩ := hstep
    obtain ⟨hcopy, hbounds, hagree⟩ := h
    exact ⟨⟨hcopy, hbounds, hagree, rfl⟩, .refl _⟩
  | verifyTarget f sourceLen targetLen verified sourceEntries =>
    obtain ⟨reply, ⟨rfl, rfl⟩, rfl⟩ := hstep
    exact ⟨copySound_afterVerifyTarget h, .refl _⟩
  | readPage f sourceLen offset =>
    obtain ⟨reply, ⟨rfl, rfl⟩, rfl⟩ := hstep
    exact ⟨copySound_afterReadPage h, .refl _⟩
  | appendPage f sourceLen offset values =>
    obtain ⟨reply, hserved, rfl⟩ := hstep
    simp only [Serves] at hserved
    split_ifs at hserved with hlen
    · obtain ⟨rfl, rfl⟩ := hserved
      exact copySound_appended h hlen
    · -- the race is lost, and what was held stays
      obtain ⟨⟨message, rfl⟩, rfl⟩ := hserved
      exact ⟨h, .refl _⟩
  | readRaced f sourceLen offset values error =>
    obtain ⟨reply, ⟨rfl, rfl⟩, rfl⟩ := hstep
    exact ⟨copySound_afterReadRaced h, .refl _⟩
  | lengthAfter f sourceLen offset values =>
    obtain ⟨reply, ⟨rfl, rfl⟩, rfl⟩ := hstep
    obtain ⟨hcopy, hagree⟩ := h
    exact ⟨copySound_copyLoop hcopy (agrees_of_noGap hcopy hagree hgap), .refl _⟩
  | finalLen f sourceLen =>
    obtain ⟨reply, ⟨rfl, rfl⟩, rfl⟩ := hstep
    exact ⟨copySound_afterFinalLen h, .refl _⟩
  | done result => exact hstep.elim

end
