/-
# Openers racing over the same streams

Any number of stream migrations at once, and nobody else.  Every length an
opener ever sees of a target lies on one chain, the page boundaries counted from
the length the target had at first (`OnChain`); so an opener that loses the race
for a page finds at least that whole page in place (`OnChain.page_le`).
-/
import TinyConnectors.Migration.StreamRecords

open Await Relation

/-- Openers among themselves. -/
def racers : System MigrateStreams Store where
  task := Advances MigrateStreams.poll Serves
  env _ _ := False

/-- `n` is a page boundary of a stream of length `len`, counted from `start`. -/
def OnChain (start len n : ℕ) : Prop := ∃ k, n = min (start + PAGE_SIZE * k) len

theorem OnChain.start {start len : ℕ} (h : start ≤ len) : OnChain start len start :=
  ⟨0, by simp [h]⟩

/-- The boundary after a page. -/
theorem OnChain.next {start len n : ℕ} (h : OnChain start len n) :
    OnChain start len (min (n + PAGE_SIZE) len) := by
  obtain ⟨k, rfl⟩ := h
  refine ⟨k + 1, ?_⟩
  rw [Nat.mul_succ]
  omega

/-- A longer boundary leaves room for the whole page after a shorter one. -/
theorem OnChain.page_le {start len n m : ℕ} (hn : OnChain start len n) (hm : OnChain start len m)
    (h : n < m) : min (n + PAGE_SIZE) len ≤ m := by
  obtain ⟨k, rfl⟩ := hn
  obtain ⟨l, rfl⟩ := hm
  have hkl : k < l := by
    by_contra hle
    have hmul : PAGE_SIZE * l ≤ PAGE_SIZE * k := Nat.mul_le_mul_left _ (not_lt.mp hle)
    omega
  have hmul : PAGE_SIZE * (k + 1) ≤ PAGE_SIZE * l := Nat.mul_le_mul_left _ hkl
  rw [Nat.mul_succ] at hmul
  omega

section
variable (start : String → ℕ)

/-- Every target is a prefix of its source, ending on a page boundary. -/
def Racing (store : Store) : Prop :=
  ∀ source ∈ store.legacyStreams,
    store.entries (targetOf source) <+: store.entries source ∧
      OnChain (start source) (store.entries source).length (store.entries (targetOf source)).length

/-- The lengths an opener holds are page boundaries, and a page it lost is in place. -/
def HoldsBoundary (store : Store) : MigrateStreams → Prop
  | .verifySource f sourceLen targetLen _ => OnChain (start f.source) sourceLen targetLen
  | .verifyTarget f sourceLen targetLen _ _ => OnChain (start f.source) sourceLen targetLen
  | .readPage f sourceLen offset => OnChain (start f.source) sourceLen offset
  | .appendPage f sourceLen offset _ => OnChain (start f.source) sourceLen offset
  | .readRaced f _ offset values _ => offset + values.length ≤ (store.entries f.target).length
  | .done (.error _) => False
  | _ => True

/-- What is known of a racing opener. -/
def RaceSound (s : MigrateStreams) (store : Store) : Prop :=
  CopySound store s ∧ HoldsBoundary start store s

variable {start}
variable {store store' : Store} {f : StreamFrame} {sourceLen : ℕ}

theorem HoldsBoundary.mono (hgrow : store.StreamsGrow store') {s : MigrateStreams}
    (h : HoldsBoundary start store s) : HoldsBoundary start store' s := by
  cases s with
  | readRaced f sourceLen offset values error => exact h.trans (hgrow.grows f.target).length_le
  | done result => cases result <;> exact h
  | _ => exact h

/-- While targets are prefixes there is never a gap. -/
theorem Racing.noGap (h : Racing start store) {s : MigrateStreams} (hs : CopySound store s) :
    NoGap store s := by
  cases s with
  | lengthAfter f sourceLen offset values =>
    obtain ⟨hcopy, -⟩ := hs
    intro j _ _ hj
    obtain ⟨rest, hrest⟩ := (h f.source hcopy.source_mem).1
    rw [← hcopy.target_eq] at hrest
    rw [← hrest, List.getElem?_append_left hj]
  | _ => trivial

theorem holdsBoundary_copyLoop {offset : ℕ} (h : OnChain (start f.source) sourceLen offset) :
    HoldsBoundary start store (MigrateStreams.copyLoop f sourceLen offset) := by
  unfold MigrateStreams.copyLoop
  split_ifs with hlt
  · exact h
  · trivial

theorem holdsBoundary_verifyLoop {targetLen verified : ℕ}
    (h : OnChain (start f.source) sourceLen targetLen) :
    HoldsBoundary start store (MigrateStreams.verifyLoop f sourceLen targetLen verified) := by
  unfold MigrateStreams.verifyLoop
  split_ifs with hlt
  · exact h
  · exact holdsBoundary_copyLoop h

theorem holdsBoundary_nextStream {rest : List String}
    (hrest : ∀ name ∈ rest, name ∈ store.legacyStreams) :
    HoldsBoundary start store (MigrateStreams.nextStream rest) := by
  cases rest with
  | nil => trivial
  | cons source rest =>
    rw [MigrateStreams.nextStream_cons (mem_legacyStreams (hrest source List.mem_cons_self))]
    trivial

/-- A window of the target, where it is long enough, is the same window of the source. -/
theorem Racing.window (h : Racing start store) (hcopy : Copying store f sourceLen) {n k : ℕ}
    (hlen : n + k ≤ (store.entries f.target).length) :
    ((store.entries f.target).drop n).take k = ((store.entries f.source).drop n).take k := by
  have hpre := (h f.source hcopy.source_mem).1
  rw [← hcopy.target_eq] at hpre
  exact window_of_isPrefix hpre hlen

/-- The length of a page read inside the source. -/
theorem length_page {offset : ℕ} {values source : List Json} (hlt : offset < source.length)
    (hvalues : values = (source.drop offset).take PAGE_SIZE) :
    offset + values.length = min (offset + PAGE_SIZE) source.length := by
  rw [hvalues, List.length_take, List.length_drop]
  omega

/-- The page an opener appends keeps the race as it is. -/
theorem Racing.append (h : Racing start store) (hcopy : Copying store f sourceLen) {offset : ℕ}
    {values : List Json} (hlt : offset < sourceLen)
    (hchain : OnChain (start f.source) sourceLen offset)
    (hvalues : values = ((store.entries f.source).drop offset).take PAGE_SIZE)
    (hlen : (store.entries f.target).length = offset) :
    Racing start (store.append f.target values) := by
  intro source hsource
  have hday : f.target = STREAM_PREFIX ++ String.ofList
      (f.source.toList.drop LEGACY_STREAM_PREFIX.toList.length) := hcopy.target_eq
  rw [hday, legacyStreams_append] at hsource
  have hentries : (store.append f.target values).entries source = store.entries source := by
    rw [hday]
    exact entries_append_of_legacy (mem_legacyStreams hsource) ..
  rw [hentries]
  by_cases hsame : source = f.source
  · subst hsame
    rw [← hcopy.target_eq, Store.entries_append, if_pos rfl]
    rw [hcopy.length_eq] at hlt hchain
    have hpage := length_page hlt hvalues
    obtain ⟨hpre, -⟩ := h f.source hcopy.source_mem
    rw [← hcopy.target_eq] at hpre
    have htarget : store.entries f.target = (store.entries f.source).take offset := by
      rw [← hlen]
      exact List.prefix_iff_eq_take.mp hpre
    constructor
    · rw [htarget, take_page hvalues, ← List.take_add]
      exact List.take_prefix _ _
    · rw [List.length_append, hlen, hpage]
      exact hchain.next
  · have hne : targetOf source ≠ f.target := by
      rw [hcopy.target_eq]
      exact fun heq => hsame (targetOf_injective (mem_legacyStreams hsource) hcopy.legacy heq)
    rw [Store.entries_append, if_neg hne]
    exact h source hsource

theorem holdsBoundary_afterTargetLen (h : Racing start store) (hcopy : Copying store f sourceLen) :
    HoldsBoundary start store
      (MigrateStreams.afterTargetLen f sourceLen (.ok (store.entries f.target).length)) := by
  obtain ⟨hpre, hchain⟩ := h f.source hcopy.source_mem
  rw [← hcopy.target_eq] at hpre hchain
  rw [← hcopy.length_eq] at hchain
  have hle := hpre.length_le
  simp only [MigrateStreams.afterTargetLen]
  rw [if_neg (by rw [hcopy.length_eq]; omega)]
  exact holdsBoundary_verifyLoop hchain

theorem holdsBoundary_afterVerifyTarget (h : Racing start store) {targetLen verified : ℕ}
    {sourceEntries : List Json}
    (hsound : CopySound store (.verifyTarget f sourceLen targetLen verified sourceEntries))
    (hbound : OnChain (start f.source) sourceLen targetLen) :
    HoldsBoundary start store
      (MigrateStreams.afterVerifyTarget f sourceLen targetLen verified sourceEntries
        (.ok (((store.entries f.target).drop verified).take
          (MigrateStreams.pageLimit targetLen verified)))) := by
  obtain ⟨hcopy, ⟨hlt, hle, htarget⟩, hagree, hentries⟩ := hsound
  have hlimit := verified_add_pageLimit hlt
  have hwindow := h.window hcopy (hlimit.trans htarget)
  have hlen : (((store.entries f.target).drop verified).take
      (MigrateStreams.pageLimit targetLen verified)).length =
        MigrateStreams.pageLimit targetLen verified := by
    rw [List.length_take, List.length_drop]
    omega
  simp only [MigrateStreams.afterVerifyTarget]
  rw [hentries, ← hwindow, if_neg]
  · exact holdsBoundary_verifyLoop hbound
  · rintro (hshort | hshort | hdiffers)
    · exact hshort hlen
    · exact hshort hlen
    · rw [MigrateStreams.anyDiffers_iff rfl] at hdiffers
      exact hdiffers rfl

theorem holdsBoundary_afterReadPage {offset : ℕ}
    (hsound : CopySound store (.readPage f sourceLen offset))
    (hbound : OnChain (start f.source) sourceLen offset) :
    HoldsBoundary start store (MigrateStreams.afterReadPage f sourceLen offset
      (.ok (((store.entries f.source).drop offset).take PAGE_SIZE))) := by
  obtain ⟨hcopy, hlt, hagree⟩ := hsound
  have hne : (((store.entries f.source).drop offset).take PAGE_SIZE).isEmpty = false := by
    rw [List.isEmpty_eq_false_iff, ← List.length_pos_iff, List.length_take, List.length_drop,
      ← hcopy.length_eq]
    simp only [PAGE_SIZE]
    omega
  simp only [MigrateStreams.afterReadPage, hne]
  exact hbound

/-- Where the race for a page is lost, the winner's page ends on the next boundary. -/
theorem Racing.lost (h : Racing start store) {offset : ℕ} {values : List Json}
    (hsound : CopySound store (.appendPage f sourceLen offset values))
    (hbound : OnChain (start f.source) sourceLen offset)
    (hlen : (store.entries f.target).length ≠ offset) :
    offset + values.length ≤ (store.entries f.target).length := by
  obtain ⟨hcopy, hlt, hagree, hvalues⟩ := hsound
  obtain ⟨-, hchain⟩ := h f.source hcopy.source_mem
  have hoffset := hagree.1
  rw [← hcopy.target_eq] at hchain hoffset
  have hpage := length_page (hcopy.length_eq ▸ hlt) hvalues
  have hnext := OnChain.page_le (hcopy.length_eq ▸ hbound) hchain (by omega)
  rw [hpage]
  exact hnext

theorem holdsBoundary_afterReadRaced (h : Racing start store) {offset : ℕ} {values : List Json}
    {error : StorageError} (hsound : CopySound store (.readRaced f sourceLen offset values error))
    (hbound : offset + values.length ≤ (store.entries f.target).length) :
    HoldsBoundary start store (MigrateStreams.afterReadRaced f sourceLen offset values error
      (.ok (((store.entries f.target).drop offset).take values.length))) := by
  obtain ⟨hcopy, hlt, hagree, hvalues⟩ := hsound
  have hwindow := h.window hcopy hbound
  rw [← take_page hvalues] at hwindow
  simp only [MigrateStreams.afterReadRaced]
  rw [hwindow, if_neg]
  · trivial
  · rintro (hshort | hdiffers)
    · exact hshort rfl
    · rw [MigrateStreams.anyDiffers_iff rfl] at hdiffers
      exact hdiffers rfl

theorem holdsBoundary_afterFinalLen (hcopy : Copying store f sourceLen) :
    HoldsBoundary start store
      (MigrateStreams.afterFinalLen f sourceLen (.ok (store.entries f.source).length)) := by
  simp only [MigrateStreams.afterFinalLen]
  rw [if_neg (not_not.mpr hcopy.length_eq.symm)]
  exact holdsBoundary_nextStream hcopy.rest_mem

/-- One step of a racing opener. -/
theorem RaceSound.step {s s' : MigrateStreams} (hrace : Racing start store)
    (h : RaceSound start s store) (hstep : Advances MigrateStreams.poll Serves s store s' store') :
    Racing start store' ∧ RaceSound start s' store' ∧ store.StreamsGrow store' := by
  obtain ⟨hsound, hbound⟩ := h
  obtain ⟨hsound', hgrow⟩ := hsound.step (hrace.noGap hsound) hstep
  suffices hrest : Racing start store' ∧ HoldsBoundary start store' s' from
    ⟨hrest.1, ⟨hsound', hrest.2⟩, hgrow⟩
  cases s with
  | listing =>
    obtain ⟨reply, ⟨rfl, rfl⟩, rfl⟩ := hstep
    exact ⟨hrace, holdsBoundary_nextStream fun _ hname => hname⟩
  | readSourceLen f =>
    obtain ⟨reply, ⟨rfl, rfl⟩, rfl⟩ := hstep
    exact ⟨hrace, trivial⟩
  | readTargetLen f sourceLen =>
    obtain ⟨reply, ⟨rfl, rfl⟩, rfl⟩ := hstep
    exact ⟨hrace, holdsBoundary_afterTargetLen hrace hsound⟩
  | verifySource f sourceLen targetLen verified =>
    obtain ⟨reply, ⟨rfl, rfl⟩, rfl⟩ := hstep
    exact ⟨hrace, hbound⟩
  | verifyTarget f sourceLen targetLen verified sourceEntries =>
    obtain ⟨reply, ⟨rfl, rfl⟩, rfl⟩ := hstep
    exact ⟨hrace, holdsBoundary_afterVerifyTarget hrace hsound hbound⟩
  | readPage f sourceLen offset =>
    obtain ⟨reply, ⟨rfl, rfl⟩, rfl⟩ := hstep
    exact ⟨hrace, holdsBoundary_afterReadPage hsound hbound⟩
  | appendPage f sourceLen offset values =>
    obtain ⟨reply, hserved, rfl⟩ := hstep
    simp only [Serves] at hserved
    split_ifs at hserved with hlen
    · obtain ⟨rfl, rfl⟩ := hserved
      obtain ⟨hcopy, hlt, -, hvalues⟩ := hsound
      exact ⟨hrace.append hcopy hlt hbound hvalues hlen, trivial⟩
    · obtain ⟨⟨message, rfl⟩, rfl⟩ := hserved
      exact ⟨hrace, hrace.lost hsound hbound hlen⟩
  | readRaced f sourceLen offset values error =>
    obtain ⟨reply, ⟨rfl, rfl⟩, rfl⟩ := hstep
    exact ⟨hrace, holdsBoundary_afterReadRaced hrace hsound hbound⟩
  | lengthAfter f sourceLen offset values =>
    obtain ⟨reply, ⟨rfl, rfl⟩, rfl⟩ := hstep
    obtain ⟨hcopy, -⟩ := hsound
    obtain ⟨-, hchain⟩ := hrace f.source hcopy.source_mem
    rw [← hcopy.target_eq, ← hcopy.length_eq] at hchain
    exact ⟨hrace, holdsBoundary_copyLoop hchain⟩
  | finalLen f sourceLen =>
    obtain ⟨reply, ⟨rfl, rfl⟩, rfl⟩ := hstep
    exact ⟨hrace, holdsBoundary_afterFinalLen hsound.1⟩
  | done result => exact hstep.elim

theorem racers_stable :
    racers.Stable (Racing start) (RaceSound start) Store.StreamsGrow where
  task hinv hloc hstep := hloc.step hinv hstep
  env _ henv := henv.elim
  mono _ hgrow hloc := ⟨hloc.1.mono hgrow, hloc.2.mono hgrow⟩

end

/-- Concurrent migration is exact: every target is a prefix of its source, and
every opener that has returned has returned `Ok`, with each target equal to its source. -/
def Exact {ι : Type} (c : Config ι MigrateStreams Store) : Prop :=
  (∀ source ∈ c.store.legacyStreams, c.store.entries (targetOf source) <+: c.store.entries source) ∧
  ∀ i result, c.tasks i = .done result → result = .ok () ∧
    ∀ source ∈ c.store.legacyStreams, c.store.entries (targetOf source) = c.store.entries source

/-- Any number of openers, over sources nobody writes and targets that start as
prefixes of them, stay exact in every interleaving. -/
theorem races_exact {ι : Type} [DecidableEq ι] {c₀ c : Config ι MigrateStreams Store}
    (hstart : ∀ i, c₀.tasks i = .listing)
    (hpre : ∀ source ∈ c₀.store.legacyStreams,
      c₀.store.entries (targetOf source) <+: c₀.store.entries source)
    (hrun : racers.Run c₀ c) : Exact c := by
  have hinit : c₀.Holds (Racing fun source => (c₀.store.entries (targetOf source)).length)
      (RaceSound fun source => (c₀.store.entries (targetOf source)).length) := by
    refine ⟨fun source hsource => ⟨hpre source hsource, ?_⟩, fun i => ?_⟩
    · exact .start (hpre source hsource).length_le
    · rw [hstart i]
      exact ⟨trivial, trivial⟩
  obtain ⟨hrace, hlocal⟩ := racers_stable.reachable hinit hrun
  refine ⟨fun source hsource => (hrace source hsource).1, fun i result hdone => ?_⟩
  have hi := hlocal i
  rw [hdone] at hi
  cases result with
  | error error => exact hi.2.elim
  | ok value =>
    refine ⟨rfl, fun source hsource => ?_⟩
    exact (hrace source hsource).1.eq_of_length_le (hi.1 source hsource).length_le

/-- Two openers over a day of two pages: each loses one to the other, reads it back and returns. -/
theorem races_exact_day :
    Exact (Config.two (.done (.ok ())) (.done (.ok ())) copiedStore) := by
  have hsys : ∀ s store s' store', Advances MigrateStreams.poll Serves s store s' store' →
      NoGap store s → racers.task s store s' store' := fun _ _ _ _ h _ => h
  have hrun : racers.Run (Config.two .listing .listing (dayStore longDay)) _ :=
    (race_run hsys).trans (race_end hsys [] entries_copiedStore_source
      (by rw [entries_copiedStore_target, List.append_nil]))
  refine races_exact ?_ ?_ hrun
  · intro i
    cases i <;> rfl
  · intro source hmem
    have hday : source = dayFrame.source := by
      rw [← List.mem_singleton, ← legacyStreams_dayStore longDay]
      exact hmem
    show (dayStore longDay).entries (targetOf source) <+: _
    rw [hday, show targetOf dayFrame.source = dayFrame.target from rfl, entries_dayTarget]
    exact List.nil_prefix
