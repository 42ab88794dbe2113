/-
# Reading the history back

`TriggerArchive::list_recent`: the day streams from the greatest name down, each
read backwards in windows until enough new deliveries are found, then put in the
order of arrival.  Within a stream this keeps the newest record of a delivery,
but across streams it keeps the one of the stream that is read first, and all
legacy days are read before the others; `listsNewest_iff` says when that is the
newest.
-/
import TinyConnectors.Archive.Entry
import TinyConnectors.Newest
import TinyConnectors.Migration.MigrateStreams
import Mathlib.Data.List.Sort
import Mathlib.Data.String.Basic

namespace Archive

open Json (FloatFormat)
open Newest RustStr

/-- `DEFAULT_HISTORY_LIMIT`. -/
def DEFAULT_HISTORY_LIMIT : ℕ := 50

/-- `DAY_STREAM_IDLE_MS`: two days. -/
def DAY_STREAM_IDLE_MS : ℤ := 2 * 24 * 60 * 60 * 1000

/-- `Error::Archive`, whose message is the context and the storage error. -/
structure Error where
  path : String
  context : String
  cause : StorageError
  deriving DecidableEq

/-- `ComposioTriggerHistoryResult`. -/
structure HistoryResult where
  archive_dir : String
  current_day_file : String
  entries : List Entry

/-- What a history read asks of the stream store. -/
structure StreamPort where
  /-- Whether `Capability::StreamSeal` is offered. -/
  sealing : Bool
  streams : String → StorageResult (List String)
  /-- `info`, of which only `last_append_ms` is read. -/
  info : String → StorageResult (Option (Option ℤ))
  sealStream : String → StorageResult Unit
  len : String → StorageResult ℕ
  readWindow : String → ℕ → ℕ → StorageResult (List Json)

/-- `sort_unstable_by_key` with the arrival time, newest first: which of two
entries that arrived together comes first is left open. -/
structure RecencySort where
  sort : List Entry → List Entry
  perm : ∀ entries, (sort entries).Perm entries
  sorted : ∀ entries, NewestFirst Entry.received_at_ms (sort entries)

/-! ## Retention -/

/-- `ArchiveRetention::should_seal`. -/
def shouldSeal (now_ms : ℤ) (last_append_ms : Option ℤ) : Bool :=
  last_append_ms.any (· ≤ now_ms - DAY_STREAM_IDLE_MS)

/-- Seal a stream that has been idle. -/
def sealIfIdle (port : StreamPort) (now_ms : ℤ) (stream : String) : StorageResult Unit := do
  match ← port.info stream with
  | some last => if shouldSeal now_ms last then port.sealStream stream else pure ()
  | none => pure ()

/-- `seal_idle_days`. -/
def sealIdleDays (port : StreamPort) (now_ms : ℤ) : StorageResult Unit :=
  [STREAM_PREFIX, LEGACY_STREAM_PREFIX].forM fun streamPrefix => do
    (← port.streams streamPrefix).forM (sealIfIdle port now_ms)

/-! ## One stream -/

/-- What a read has gathered: the keys it has seen, the entries, and how many of
them the stream at hand has given. -/
structure Reading where
  seen : Finset String
  entries : List Entry
  stream_entries : ℕ

section Read

variable (fmt : FloatFormat)

/-- One record of a window; one that does not parse is skipped. -/
def addRecord (reading : Reading) (record : Json) : Reading :=
  match Entry.fromValue record with
  | none => reading
  | some entry =>
    if archiveEntryKey fmt entry ∈ reading.seen then reading
    else
      { seen := insert (archiveEntryKey fmt entry) reading.seen
        entries := reading.entries ++ [entry]
        stream_entries := reading.stream_entries + 1 }

/-- The windows of one stream, from `stop` backwards. -/
def readWindows (port : StreamPort) (stream : String) (limit stop : ℕ) (reading : Reading) :
    Except Error Reading :=
  if 0 < stop ∧ reading.stream_entries < limit then
    let start := stop - (limit - reading.stream_entries)
    match port.readWindow stream start (stop - start) with
    | .error cause => .error ⟨stream, "could not read the day's stream", cause⟩
    | .ok records =>
      readWindows port stream limit start (records.reverse.foldl (addRecord fmt) reading)
  else .ok reading
termination_by stop

/-- One stream of the loop over the days. -/
def readDay (port : StreamPort) (limit : ℕ) (reading : Reading) (stream : String) :
    Except Error Reading :=
  match port.len stream with
  | .error cause => .error ⟨stream, "could not size the day's stream", cause⟩
  | .ok length => readWindows fmt port stream limit length { reading with stream_entries := 0 }

/-! ## The whole read -/

/-- `archive_dir`: the prefix without its slash. -/
def archiveDir : String := String.ofList (STREAM_PREFIX.toList.rdropWhile (· = '/'))

/-- `streams`, or the error naming the family that could not be listed. -/
def listFamily (port : StreamPort) (streamPrefix context : String) : Except Error (List String) :=
  (port.streams streamPrefix).mapError (⟨streamPrefix, context, ·⟩)

/-- The names in the order they are read, the greatest first. -/
def readOrder (names : List String) : List String := names.insertionSort fun a b => b ≤ a

/-- The retention pass of a read, on a store that can seal. -/
def applyRetention (port : StreamPort) (now_ms : ℤ) : Except Error Unit :=
  if port.sealing then
    (sealIdleDays port now_ms).mapError (⟨STREAM_PREFIX, "could not apply archive retention", ·⟩)
  else .ok ()

/-- `list_recent`, at the time `now_ms` of the UTC day `today`. -/
def listRecent (sort : RecencySort) (port : StreamPort) (now_ms : ℤ) (today : String)
    (limit : Option ℕ) : Except Error HistoryResult := do
  applyRetention port now_ms
  let limit := max (limit.getD DEFAULT_HISTORY_LIMIT) 1
  let days ← listFamily port STREAM_PREFIX "could not list the archive"
  let legacy ← listFamily port LEGACY_STREAM_PREFIX "could not list the legacy archive"
  let reading ← (readOrder (days ++ legacy)).foldlM (readDay fmt port limit) ⟨∅, [], 0⟩
  pure
    { archive_dir := archiveDir
      current_day_file := STREAM_PREFIX ++ today
      entries := (sort.sort reading.entries).take limit }

end Read

/-! ## What one stream gives -/

section Stream

variable {fmt : FloatFormat}

/-- The readable entries of a stream, newest first. -/
def newestFirst (records : List Json) : List Entry := records.reverse.filterMap Entry.fromValue

theorem newestFirst_append (records records' : List Json) :
    newestFirst (records ++ records') = newestFirst records' ++ newestFirst records := by
  simp [newestFirst]

variable (fmt) in
/-- A reading that goes on with new entries. -/
def Reading.add (reading : Reading) (entries : List Entry) : Reading where
  seen := reading.seen ∪ keys (archiveEntryKey fmt) entries
  entries := reading.entries ++ entries
  stream_entries := reading.stream_entries + entries.length

theorem Reading.add_nil (reading : Reading) : reading.add fmt [] = reading := by
  simp [Reading.add, keys]

theorem Reading.add_add (reading : Reading) (entries entries' : List Entry) :
    (reading.add fmt entries).add fmt entries' = reading.add fmt (entries ++ entries') := by
  simp [Reading.add, keys_append, Finset.union_assoc, add_assoc]

/-- The records of a window, of which there are no more than are wanted. -/
theorem foldl_addRecord {records : List Json} {reading : Reading} {n : ℕ}
    (hn : records.length ≤ n) : records.foldl (addRecord fmt) reading =
      reading.add fmt (takeFresh (archiveEntryKey fmt) n reading.seen
        (records.filterMap Entry.fromValue)) := by
  induction records generalizing reading n with
  | nil => simp [takeFresh, Reading.add_nil]
  | cons record records ih =>
    obtain ⟨n, rfl⟩ : ∃ m, n = m + 1 := ⟨n - 1, by simp at hn; omega⟩
    have hn' : records.length ≤ n := by simpa using hn
    rw [List.foldl_cons, addRecord]
    rcases hparse : Entry.fromValue record with _ | entry
    · rw [List.filterMap_cons_none hparse]
      exact ih (by omega)
    · rw [List.filterMap_cons_some hparse]
      by_cases hseen : archiveEntryKey fmt entry ∈ reading.seen
      · rw [takeFresh_cons_of_mem hseen]
        simp only [if_pos hseen]
        exact ih (by omega)
      · rw [takeFresh_cons_of_notMem hseen]
        simp only [if_neg hseen]
        have hadd : (⟨insert (archiveEntryKey fmt entry) reading.seen, reading.entries ++ [entry],
            reading.stream_entries + 1⟩ : Reading) = reading.add fmt [entry] := by
          simp [Reading.add, keys]
        rw [hadd, ih hn', Reading.add_add, ← hadd]
        rfl

end Stream

/-! ## A store that answers exactly -/

/-- The stream store as it is, where every call succeeds. -/
def streamPort (store : Store) (sealing : Bool) (lastAppend : String → Option (Option ℤ)) :
    StreamPort where
  sealing := sealing
  streams streamPrefix := .ok (store.names.filter (startsWith · streamPrefix))
  info stream := .ok (lastAppend stream)
  sealStream _ := .ok ()
  len stream := .ok (store.entries stream).length
  readWindow stream start limit := .ok (((store.entries stream).drop start).take limit)

section Exact

variable {fmt : FloatFormat} {store : Store} {sealing : Bool}
  {lastAppend : String → Option (Option ℤ)}

/-- The windows of a stream give the first new entries from its end. -/
theorem readWindows_eq {stream : String} {limit stop : ℕ} {reading : Reading} :
    readWindows fmt (streamPort store sealing lastAppend) stream limit stop reading =
      .ok (reading.add fmt (takeFresh (archiveEntryKey fmt) (limit - reading.stream_entries)
        reading.seen (newestFirst ((store.entries stream).take stop)))) := by
  induction stop using Nat.strong_induction_on generalizing reading with
  | _ stop ih =>
    unfold readWindows
    split
    · rename_i hmore
      obtain ⟨need, hneed⟩ : ∃ need, need = limit - reading.stream_entries := ⟨_, rfl⟩
      obtain ⟨start, hstart⟩ : ∃ start, start = stop - need := ⟨_, rfl⟩
      obtain ⟨window, hwindow⟩ : ∃ window,
        window = ((store.entries stream).drop start).take (stop - start) := ⟨_, rfl⟩
      have hlen : window.length ≤ need := by
        rw [hwindow, List.length_take]
        omega
      have hsplit : (store.entries stream).take stop =
          (store.entries stream).take start ++ window := by
        rw [hwindow, ← List.take_add, show start + (stop - start) = stop by omega]
      have hread : (streamPort store sealing lastAppend).readWindow stream start (stop - start) =
          .ok window := by rw [hwindow]; rfl
      simp only [← hneed, ← hstart, hread]
      -- the rest of the stream is read with what is still wanted
      rw [foldl_addRecord (n := need) (by rwa [List.length_reverse]), ih start (by omega),
        Reading.add_add, hsplit, newestFirst_append, takeFresh_append]
      simp only [Reading.add, newestFirst, Nat.sub_add_eq, ← hneed]
    · rename_i hdone
      have hnone : takeFresh (archiveEntryKey fmt) (limit - reading.stream_entries) reading.seen
          (newestFirst ((store.entries stream).take stop)) = [] := by
        by_cases hstop : stop = 0
        · rw [hstop, List.take_zero]
          exact List.eq_nil_of_length_eq_zero rfl
        · rw [show limit - reading.stream_entries = 0 by omega, takeFresh_zero]
      rw [hnone, Reading.add_nil]

theorem readDay_eq {limit : ℕ} {reading : Reading} {stream : String} :
    readDay fmt (streamPort store sealing lastAppend) limit reading stream =
      .ok ({ reading with stream_entries := 0 }.add fmt
        (takeFresh (archiveEntryKey fmt) limit reading.seen
          (newestFirst (store.entries stream)))) := by
  have hlen : (streamPort store sealing lastAppend).len stream =
      .ok (store.entries stream).length := rfl
  simp only [readDay, hlen, readWindows_eq, List.take_length, Nat.sub_zero]

/-- The loop over the days gathers from one stream after the other. -/
theorem foldlM_readDay {limit : ℕ} {names : List String} {reading : Reading}
    (hseen : reading.seen = keys (archiveEntryKey fmt) reading.entries) :
    ∃ last, names.foldlM (readDay fmt (streamPort store sealing lastAppend) limit) reading =
      .ok last ∧ last.entries = gather (archiveEntryKey fmt) limit reading.entries
        (names.map fun name => newestFirst (store.entries name)) := by
  induction names generalizing reading with
  | nil => exact ⟨reading, rfl, rfl⟩
  | cons name names ih =>
    rw [List.foldlM_cons, readDay_eq, List.map_cons, gather, ← hseen]
    refine ih ?_
    simp only [Reading.add, keys_append, hseen]

theorem sealIfIdle_eq (now_ms : ℤ) (stream : String) :
    sealIfIdle (streamPort store sealing lastAppend) now_ms stream = .ok () := by
  have hinfo : (streamPort store sealing lastAppend).info stream = .ok (lastAppend stream) := rfl
  rw [sealIfIdle, hinfo]
  rcases lastAppend stream with _ | last
  · rfl
  · show (if shouldSeal now_ms last then _ else _) = _
    split
    · rfl
    · rfl

theorem applyRetention_eq (now_ms : ℤ) :
    applyRetention (streamPort store sealing lastAppend) now_ms = .ok () := by
  have hall : ∀ names : List String, names.forM
      (sealIfIdle (streamPort store sealing lastAppend) now_ms) = .ok () := by
    intro names
    induction names with
    | nil => rfl
    | cons name names ih =>
      show (sealIfIdle (streamPort store sealing lastAppend) now_ms name >>= fun _ =>
        names.forM (sealIfIdle (streamPort store sealing lastAppend) now_ms)) = .ok ()
      rw [sealIfIdle_eq]
      exact ih
  have hseal : sealIdleDays (streamPort store sealing lastAppend) now_ms = .ok () := by
    show ((store.names.filter (startsWith · STREAM_PREFIX)).forM
        (sealIfIdle (streamPort store sealing lastAppend) now_ms) >>= fun _ =>
      (store.names.filter (startsWith · LEGACY_STREAM_PREFIX)).forM
        (sealIfIdle (streamPort store sealing lastAppend) now_ms) >>= fun _ => pure ()) = .ok ()
    rw [hall, hall]
    rfl
  rw [applyRetention, hseal]
  split
  · rfl
  · rfl

end Exact

/-- The day streams of a store, in the order they are read. -/
def dayStreams (store : Store) : List String :=
  readOrder (store.names.filter (startsWith · STREAM_PREFIX) ++
    store.names.filter (startsWith · LEGACY_STREAM_PREFIX))

/-- Their readable entries, newest first in each. -/
def sources (store : Store) : List (List Entry) :=
  (dayStreams store).map fun name => newestFirst (store.entries name)

/-- On a store that answers exactly, a read comes to an end, and gives the first
entries of what it gathers. -/
theorem listRecent_eq (fmt : FloatFormat) (sort : RecencySort) (store : Store) (sealing : Bool)
    (lastAppend : String → Option (Option ℤ)) (now_ms : ℤ) (today : String) (limit : Option ℕ) :
    listRecent fmt sort (streamPort store sealing lastAppend) now_ms today limit =
      .ok ⟨archiveDir, STREAM_PREFIX ++ today,
        (sort.sort (gather (archiveEntryKey fmt) (max (limit.getD DEFAULT_HISTORY_LIMIT) 1) []
          (sources store))).take (max (limit.getD DEFAULT_HISTORY_LIMIT) 1)⟩ := by
  obtain ⟨n, hn⟩ : ∃ n, n = max (limit.getD DEFAULT_HISTORY_LIMIT) 1 := ⟨_, rfl⟩
  obtain ⟨last, hlast, hentries⟩ : ∃ last, (dayStreams store).foldlM
      (readDay fmt (streamPort store sealing lastAppend) n) ⟨∅, [], 0⟩ = .ok last ∧
        last.entries = gather (archiveEntryKey fmt) n []
          ((dayStreams store).map fun name => newestFirst (store.entries name)) :=
    foldlM_readDay rfl
  have hdays : ∀ streamPrefix context, listFamily (streamPort store sealing lastAppend) streamPrefix
      context = .ok (store.names.filter (startsWith · streamPrefix)) := fun _ _ => rfl
  rw [← hn, listRecent, applyRetention_eq, hdays, hdays]
  show ((dayStreams store).foldlM (readDay fmt (streamPort store sealing lastAppend)
    (max (limit.getD DEFAULT_HISTORY_LIMIT) 1)) ⟨∅, [], 0⟩ >>= fun reading => _) = _
  rw [← hn, hlast, sources, ← hentries]
  rfl

/-! ## When a read gives the newest -/

/-- An archive as it lies in storage: in each day stream the deliveries that can
be read stand in the order they arrived. -/
structure Days where
  store : Store
  ordered : ∀ name ∈ dayStreams store, ((store.entries name).filterMap Entry.fromValue).Pairwise
    fun a b => a.received_at_ms ≤ b.received_at_ms

theorem Days.newestFirst_sources (days : Days) :
    ∀ source ∈ sources days.store, NewestFirst Entry.received_at_ms source := by
  intro source hsource
  obtain ⟨name, hname, rfl⟩ := List.mem_map.mp hsource
  rw [NewestFirst, newestFirst, List.filterMap_reverse, List.pairwise_reverse]
  exact days.ordered name hname

section Lists

variable (fmt : FloatFormat) (sort : RecencySort) (days : Days) (sealing : Bool)
  (lastAppend : String → Option (Option ℤ)) (now_ms : ℤ) (today : String)

/-- A read with this limit comes to an end with the newest distinct deliveries of
all day streams, each as it was recorded last. -/
def ListsNewest (limit : Option ℕ) : Prop :=
  ∃ result, listRecent fmt sort (streamPort days.store sealing lastAppend) now_ms today limit =
    .ok result ∧ NewestDistinct (archiveEntryKey fmt) Entry.received_at_ms
      (max (limit.getD DEFAULT_HISTORY_LIMIT) 1) (sources days.store).flatten result.entries

/-- Reads with every limit give the newest distinct deliveries if and only if,
of the streams that hold a delivery, the one that is read first holds its newest
record. -/
theorem listsNewest_iff :
    (∀ limit, ListsNewest fmt sort days sealing lastAppend now_ms today limit) ↔
      FirstNewest (archiveEntryKey fmt) Entry.received_at_ms (sources days.store) := by
  rw [← newestDistinct_iff sort.sort sort.perm sort.sorted days.newestFirst_sources]
  constructor
  · intro h n hn
    obtain ⟨result, hresult, hnewest⟩ := h (some n)
    rw [listRecent_eq, Except.ok.injEq] at hresult
    rw [← hresult] at hnewest
    rw [Option.getD_some, max_eq_left hn] at hnewest
    exact hnewest
  · intro h limit
    exact ⟨_, listRecent_eq fmt sort days.store sealing lastAppend now_ms today limit,
      h _ (by omega)⟩

end Lists

/-! ## A delivery that came again -/

/-- A stable sort is one of those allowed. -/
def stableSort : RecencySort where
  sort entries := entries.insertionSort fun a b => b.received_at_ms ≤ a.received_at_ms
  perm entries := List.perm_insertionSort _ entries
  sorted entries := by
    have htotal : Std.Total fun a b : Entry => b.received_at_ms ≤ a.received_at_ms :=
      ⟨fun a b => le_total b.received_at_ms a.received_at_ms⟩
    have htrans : IsTrans Entry fun a b => b.received_at_ms ≤ a.received_at_ms :=
      ⟨fun a b c hab hbc => hbc.trans hab⟩
    exact List.pairwise_insertionSort _ entries

/-- The delivery `evt-1`, as it arrived at a time. -/
def firstEvent (received_at_ms : ℕ) : Entry :=
  ⟨received_at_ms, "gmail", "GMAIL_NEW_GMAIL_MESSAGE", "evt-1", "a1", .obj []⟩

/-- Another one. -/
def secondEvent (received_at_ms : ℕ) : Entry :=
  ⟨received_at_ms, "gmail", "GMAIL_NEW_GMAIL_MESSAGE", "evt-2", "b2", .obj []⟩

/-- A legacy day with `evt-1`, and a day after it with `evt-2` and `evt-1` again. -/
def redelivered : Days where
  store :=
    { Store.empty with
      names := ["connectors.triggers/2026-01-03", "triggers/2026-01-02"]
      entries := fun name =>
        if name = "triggers/2026-01-02" then [(firstEvent 1767312000000).toValue]
        else if name = "connectors.triggers/2026-01-03" then
          [(secondEvent 1767398400000).toValue, (firstEvent 1767398460000).toValue]
        else [] }
  ordered := by decide +kernel

/-- Asked for one delivery, a read gives `evt-2`, though `evt-1` came after it. -/
theorem not_listsNewest_redelivered :
    ¬ ListsNewest Json.fractionFormat stableSort redelivered false (fun _ => none) 1767398500000
      "2026-01-03" (some 1) := by
  rintro ⟨result, hresult, hnewest⟩
  rw [listRecent_eq, Except.ok.injEq] at hresult
  have hsources : sources redelivered.store = [[firstEvent 1767312000000],
      [firstEvent 1767398460000, secondEvent 1767398400000]] := by decide +kernel
  have hentries : result.entries = [secondEvent 1767398400000] := by
    rw [← hresult, hsources]
    decide +kernel
  rw [hsources, hentries] at hnewest
  have hlost := hnewest.complete (firstEvent 1767398460000) (by decide +kernel)
  revert hlost
  decide +kernel

end Archive
