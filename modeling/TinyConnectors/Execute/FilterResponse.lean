/-
# The rows outside the recency window

`execute/task_window.rs`: the rows of a task fetch that are older than the window are
taken out of the reply.  The rows are looked for along the paths the action is known
for, and the array that is found is replaced where it stands.
-/
import TinyConnectors.Contracts.SchemaWalk
import TinyConnectors.Execute.TaskWindow
import TinyConnectors.Payloads
import TinyConnectors.RustStr

namespace Execute

open RustStr

/-! ## Paths into a value -/

/-- Follow object keys, one after the other. -/
def walk : List String → Json → Option Json
  | [], cur => some cur
  | key :: path, cur => (SchemaWalk.get key cur).bind (walk path)

/-- `Value::as_array`. -/
def asArray : Json → Option (List Json)
  | .arr items => some items
  | _ => none

/-- Resolve `path` to an array within `root`; the empty path is `root` itself. -/
def arrayAt (root : Json) (path : List String) : Option (List Json) := (walk path root).bind asArray

/-- Change the value of a key that is there. -/
def updateField (key : String) (change : Json → Json) : List (String × Json) → List (String × Json)
  | [] => []
  | (k, v) :: rest =>
      if k = key then (k, change v) :: rest else (k, v) :: updateField key change rest

/-- Assign to the array `path` leads to. -/
def assignArray (items : List Json) : List String → Json → Json
  | [], .arr _ => .arr items
  | key :: path, .obj fields => .obj (updateField key (assignArray items path) fields)
  | _, other => other

section Paths

variable {key other : String} {fields : List (String × Json)} {change : Json → Json}

theorem field_updateField : Json.field key (updateField key change fields) =
    (Json.field key fields).map change := by
  induction fields with
  | nil => rfl
  | cons entry rest ih =>
    obtain ⟨k, v⟩ := entry
    rw [updateField]
    split_ifs with hk
    · rw [hk, Json.field_cons_self, Json.field_cons_self, Option.map_some]
    · rw [Json.field_cons_of_ne (Ne.symm hk), Json.field_cons_of_ne (Ne.symm hk), ih]

theorem field_updateField_of_ne (h : other ≠ key) :
    Json.field other (updateField key change fields) = Json.field other fields := by
  induction fields with
  | nil => rfl
  | cons entry rest ih =>
    obtain ⟨k, v⟩ := entry
    rw [updateField]
    split_ifs with hk
    · rw [Json.field_cons_of_ne (hk ▸ h), Json.field_cons_of_ne (hk ▸ h)]
    · by_cases hother : other = k
      · rw [hother, Json.field_cons_self, Json.field_cons_self]
      · rw [Json.field_cons_of_ne hother, Json.field_cons_of_ne hother, ih]

/-- Two changes of one key are one. -/
theorem updateField_updateField (change' : Json → Json) :
    updateField key change' (updateField key change fields) =
      updateField key (fun v => change' (change v)) fields := by
  induction fields with
  | nil => rfl
  | cons entry rest ih =>
    obtain ⟨k, v⟩ := entry
    rw [updateField, updateField]
    split_ifs with hk
    · rw [updateField, if_pos hk]
    · rw [updateField, if_neg hk, ih]

/-- A change takes place at the first entry of its key. -/
theorem exists_split_updateField (change : Json → Json) {child : Json}
    (h : Json.field key fields = some child) :
    ∃ before after, fields = before ++ (key, child) :: after ∧ key ∉ before.map Prod.fst ∧
      updateField key change fields = before ++ (key, change child) :: after := by
  induction fields with
  | nil => cases h
  | cons entry rest ih =>
    obtain ⟨k, v⟩ := entry
    by_cases hk : k = key
    · subst hk
      rw [Json.field_cons_self, Option.some_inj] at h
      subst h
      exact ⟨[], rest, rfl, List.not_mem_nil, by rw [updateField, if_pos rfl]; rfl⟩
    · rw [Json.field_cons_of_ne (Ne.symm hk)] at h
      obtain ⟨before, after, hrest, hbefore, hupdate⟩ := ih h
      refine ⟨(k, v) :: before, after, by rw [hrest]; rfl, ?_, ?_⟩
      · rw [List.map_cons, List.mem_cons, not_or]
        exact ⟨Ne.symm hk, hbefore⟩
      · rw [updateField, if_neg hk, hupdate]
        rfl

/-- `root'` is `root` with `items'` for the `items` at `path`, and nothing else changed. -/
inductive ReplacedAt (items items' : List Json) : List String → Json → Json → Prop
  | here : ReplacedAt items items' [] (.arr items) (.arr items')
  | there {key : String} {path : List String} {child child' : Json}
      {before after : List (String × Json)}
      (hkey : key ∉ before.map Prod.fst) (h : ReplacedAt items items' path child child') :
      ReplacedAt items items' (key :: path) (.obj (before ++ (key, child) :: after))
        (.obj (before ++ (key, child') :: after))

variable {path path' : List String} {root : Json} {items items' : List Json}

/-- A path that leads to an array leads through objects. -/
theorem arrayAt_cons (h : arrayAt root (key :: path) = some items) :
    ∃ fields child, root = .obj fields ∧ Json.field key fields = some child ∧
      arrayAt child path = some items := by
  obtain ⟨found, hwalk, harray⟩ := Option.bind_eq_some_iff.mp h
  obtain ⟨child, hget, hrest⟩ := Option.bind_eq_some_iff.mp hwalk
  cases root with
  | obj fields =>
      exact ⟨fields, child, rfl, hget, Option.bind_eq_some_iff.mpr ⟨found, hrest, harray⟩⟩
  | _ => cases hget

theorem arrayAt_nil (h : arrayAt root [] = some items) : root = .arr items := by
  cases root with
  | arr found => rw [← Option.some_inj.mp h]
  | _ => cases h

theorem arrayAt_obj : arrayAt (.obj fields) (key :: path) =
    (Json.field key fields).bind fun child => arrayAt child path := by
  rw [arrayAt, walk, SchemaWalk.get, Option.bind_assoc]
  rfl

/-- What has been assigned is found. -/
theorem arrayAt_assignArray (h : arrayAt root path = some items) :
    arrayAt (assignArray items' path root) path = some items' := by
  induction path generalizing root with
  | nil =>
    rw [arrayAt_nil h]
    rfl
  | cons key path ih =>
    obtain ⟨fields, child, rfl, hfield, hchild⟩ := arrayAt_cons h
    rw [assignArray, arrayAt_obj, field_updateField, hfield, Option.map_some, Option.bind_some,
      ih hchild]

/-- Assigning an array makes no other path lead to one. -/
theorem arrayAt_assignArray_none (h : arrayAt root path = some items)
    (hnone : arrayAt root path' = none) :
    arrayAt (assignArray items' path root) path' = none := by
  induction path generalizing root path' with
  | nil =>
    obtain rfl := arrayAt_nil h
    cases path' with
    | nil => cases hnone
    | cons key' path' => rfl
  | cons key path ih =>
    obtain ⟨fields, child, rfl, hfield, hchild⟩ := arrayAt_cons h
    cases path' with
    | nil => rfl
    | cons key' path' =>
      rw [arrayAt_obj] at hnone
      rw [assignArray, arrayAt_obj]
      by_cases hkey : key' = key
      · subst hkey
        rw [hfield, Option.bind_some] at hnone
        rw [field_updateField, hfield, Option.map_some, Option.bind_some, ih hchild hnone]
      · rw [field_updateField_of_ne hkey, hnone]

/-- The last assignment counts. -/
theorem assignArray_assignArray (items items' : List Json) (path : List String) (root : Json) :
    assignArray items' path (assignArray items path root) = assignArray items' path root := by
  induction path generalizing root with
  | nil => cases root <;> rfl
  | cons key path ih =>
    cases root with
    | obj fields =>
      rw [assignArray, assignArray, assignArray, updateField_updateField]
      congr 2
      funext child
      exact ih child
    | _ => rfl

/-- Assigning what is there changes nothing. -/
theorem assignArray_self (h : arrayAt root path = some items) :
    assignArray items path root = root := by
  induction path generalizing root with
  | nil =>
    rw [arrayAt_nil h]
    rfl
  | cons key path ih =>
    obtain ⟨fields, child, rfl, hfield, hchild⟩ := arrayAt_cons h
    obtain ⟨before, after, hfields, -, hupdate⟩ :=
      exists_split_updateField (assignArray items path) hfield
    rw [assignArray, hupdate, ih hchild, hfields]

/-- An assignment changes the array at its path and nothing else. -/
theorem replacedAt_assignArray (h : arrayAt root path = some items) :
    ReplacedAt items items' path root (assignArray items' path root) := by
  induction path generalizing root with
  | nil =>
    rw [arrayAt_nil h]
    exact .here
  | cons key path ih =>
    obtain ⟨fields, child, rfl, hfield, hchild⟩ := arrayAt_cons h
    rw [assignArray]
    obtain ⟨before, after, hfields, hbefore, hupdate⟩ := exists_split_updateField _ hfield
    rw [hupdate, hfields]
    exact .there hbefore (ih hchild)

end Paths

/-! ## Timestamps -/

/-- `str::parse::<i64>`: an optional sign, then at least one ASCII digit. -/
def parseI64 (s : String) : Option ℤ :=
  let (negative, digits) := match s.toList with
    | '-' :: digits => (true, digits)
    | '+' :: digits => (false, digits)
    | digits => (false, digits)
  if digits.isEmpty || !digits.all Char.isDigit then none
  else
    let n : ℕ := digits.foldl (fun acc c => 10 * acc + (c.toNat - 48)) 0
    let signed : ℤ := if negative then -n else n
    if -2 ^ 63 ≤ signed ∧ signed < 2 ^ 63 then some signed else none

/-- `Number::as_i64`. -/
def asI64 : JsonNumber → Option ℤ
  | .posInt n => if n < 2 ^ 63 then some n else none
  | .negInt n _ => if -2 ^ 63 ≤ n then some n else none
  | .float _ => none

/-- Resolve a possibly dotted field path within a single item. -/
def fieldAt (item : Json) (dotted : String) : Option Json :=
  walk ((dotted.toList.splitOn '.').map String.ofList) item

section Filter

-- chrono's instants in their order, and `DateTime::from_timestamp_millis`
variable {chrono : Chrono} [LinearOrder chrono.DateTime]
  (fromTimestampMillis : ℤ → Option chrono.DateTime)

/-- Parse a timestamp; whatever is not recognised is none. -/
def parseTs (raw : Json) : TsFormat → Option chrono.DateTime
  | .Iso8601 => raw.asStr.bind fun s => chrono.parseFromRfc3339 (trim s)
  | .EpochMillis =>
    (match raw with
      | .str s => parseI64 (trim s)
      | .num n => asI64 n
      | _ => none).bind fromTimestampMillis

/-- The loop over the fields: whether a timestamp has been seen so far. -/
def keepLoop (item : Json) (floor : chrono.DateTime) : Bool → List (String × TsFormat) → Bool
  | sawTimestamp, [] => !sawTimestamp
  | sawTimestamp, (field, fmt) :: rest =>
    match (fieldAt item field).bind fun raw => parseTs fromTimestampMillis raw fmt with
    | none => keepLoop item floor sawTimestamp rest
    | some ts => if floor ≤ ts then true else keepLoop item floor true rest

/-- Keep a row if any of its timestamps is at or after the floor, or it has none. -/
def keepItem (item : Json) (tsFields : List (String × TsFormat)) (floor : chrono.DateTime) : Bool :=
  keepLoop fromTimestampMillis item floor false tsFields

/-- The first path that leads to an array. -/
def itemsPath (spec : TaskWindowSpec) (data : Json) : Option (List String) :=
  spec.itemsPaths.find? fun path => (arrayAt data path).isSome

/-- The rows that stay, in order. -/
def keptRows (spec : TaskWindowSpec) (since : chrono.DateTime) (items : List Json) : List Json :=
  items.filter fun item => keepItem fromTimestampMillis item spec.tsFields since

/-- Drop task rows older than `since` from a successful response. -/
def filterResponse (slug : String) (resp : ComposioExecuteResponse) (since : chrono.DateTime) :
    ComposioExecuteResponse :=
  if !resp.successful then resp
  else
    match specFor slug with
    | none => resp
    | some spec =>
      match itemsPath spec resp.data with
      | none => resp
      | some path =>
        match arrayAt resp.data path with
        | none => resp
        | some items =>
          let kept := keptRows fromTimestampMillis spec since items
          if items.length - kept.length = 0 then resp
          else { resp with data := assignArray kept path resp.data, markdownFormatted := none }

/-! ## Which rows stay -/

/-- The timestamps of a row that can be read. -/
def timestamps (item : Json) (tsFields : List (String × TsFormat)) : List chrono.DateTime :=
  tsFields.filterMap fun entry =>
    (fieldAt item entry.1).bind fun raw => parseTs fromTimestampMillis raw entry.2

/-- A row with a timestamp, all of whose timestamps are before the floor. -/
def Outdated (item : Json) (tsFields : List (String × TsFormat)) (floor : chrono.DateTime) : Prop :=
  timestamps fromTimestampMillis item tsFields ≠ [] ∧
    ∀ ts ∈ timestamps fromTimestampMillis item tsFields, ts < floor

section Rows

variable {item : Json} {tsFields : List (String × TsFormat)} {floor floor' : chrono.DateTime}

/-- What the loop returns from a field on, given what it has seen before. -/
theorem keepLoop_iff (saw : Bool) : keepLoop fromTimestampMillis item floor saw tsFields = true ↔
    (∃ ts ∈ timestamps fromTimestampMillis item tsFields, floor ≤ ts) ∨
      (saw = false ∧ timestamps fromTimestampMillis item tsFields = []) := by
  induction tsFields generalizing saw with
  | nil => simp [keepLoop, timestamps]
  | cons entry rest ih =>
    obtain ⟨field, fmt⟩ := entry
    rw [keepLoop, timestamps, List.filterMap_cons]
    cases hts : (fieldAt item field).bind fun raw => parseTs fromTimestampMillis raw fmt with
    | none => exact ih saw
    | some ts =>
      simp only [List.mem_cons, exists_eq_or_imp]
      split_ifs with hfloor
      · exact ⟨fun _ => .inl (.inl hfloor), fun _ => rfl⟩
      · rw [ih true]
        simp only [hfloor, false_or, Bool.true_eq_false, false_and, or_false, and_false]
        rfl

theorem keepItem_iff : keepItem fromTimestampMillis item tsFields floor = true ↔
    ¬ Outdated fromTimestampMillis item tsFields floor := by
  rw [keepItem, keepLoop_iff, Outdated, not_and_or, not_not, or_comm]
  simp only [true_and, not_forall, not_lt, exists_prop]

/-- What a later floor keeps, an earlier one keeps. -/
theorem keepItem_mono (hle : floor ≤ floor')
    (h : keepItem fromTimestampMillis item tsFields floor' = true) :
    keepItem fromTimestampMillis item tsFields floor = true := by
  rw [keepItem_iff] at h ⊢
  exact fun hold => h ⟨hold.1, fun ts hts => (hold.2 ts hts).trans_le hle⟩

end Rows

section KeptRows

variable {spec : TaskWindowSpec} {since since' : chrono.DateTime} {items : List Json}

/-- Filtering at an earlier floor first makes no difference. -/
theorem keptRows_keptRows (hle : since ≤ since') :
    keptRows fromTimestampMillis spec since' (keptRows fromTimestampMillis spec since items) =
      keptRows fromTimestampMillis spec since' items := by
  rw [keptRows, keptRows, List.filter_filter]
  apply List.filter_congr
  intro item _
  cases hlate : keepItem fromTimestampMillis item spec.tsFields since' with
  | false => rfl
  | true => rw [keepItem_mono fromTimestampMillis hle hlate]; rfl

theorem keptRows_eq_self_of_le (hle : since ≤ since')
    (h : keptRows fromTimestampMillis spec since' items = items) :
    keptRows fromTimestampMillis spec since items = items := by
  rw [keptRows, List.filter_eq_self] at h ⊢
  exact fun item hitem => keepItem_mono fromTimestampMillis hle (h item hitem)

/-- No row is removed exactly when the same rows stay. -/
theorem length_keptRows :
    items.length - (keptRows fromTimestampMillis spec since items).length = 0 ↔
    keptRows fromTimestampMillis spec since items = items := by
  constructor
  · intro h
    have hsub : (keptRows fromTimestampMillis spec since items).Sublist items := List.filter_sublist
    exact hsub.eq_of_length_le (by omega)
  · intro h
    rw [h, Nat.sub_self]

end KeptRows

/-! ## The response -/

/-- The rows of a successful task fetch: the array at the first path that leads to one. -/
structure Located (slug : String) (resp : ComposioExecuteResponse) (spec : TaskWindowSpec)
    (path : List String) (items : List Json) : Prop where
  successful : resp.successful = true
  known : specFor slug = some spec
  found : arrayAt resp.data path = some items
  first : ∃ before after, spec.itemsPaths = before ++ path :: after ∧
    ∀ other ∈ before, arrayAt resp.data other = none

section Responses

variable {slug : String} {resp : ComposioExecuteResponse} {spec : TaskWindowSpec}
  {path : List String} {items : List Json}

theorem Located.itemsPath_eq (h : Located slug resp spec path items) :
    itemsPath spec resp.data = some path := by
  obtain ⟨before, after, hpaths, hbefore⟩ := h.first
  rw [itemsPath, List.find?_eq_some_iff_append]
  refine ⟨by rw [h.found]; rfl, before, after, hpaths, fun other hother => ?_⟩
  rw [hbefore other hother]
  rfl

theorem located_of_itemsPath (hsuccessful : resp.successful = true)
    (hknown : specFor slug = some spec) (hpath : itemsPath spec resp.data = some path) :
    ∃ items, Located slug resp spec path items := by
  obtain ⟨hsome, before, after, hpaths, hbefore⟩ := List.find?_eq_some_iff_append.mp hpath
  obtain ⟨items, hitems⟩ := Option.isSome_iff_exists.mp hsome
  refine ⟨items, hsuccessful, hknown, hitems, before, after, hpaths, fun other hother => ?_⟩
  simpa using hbefore other hother

/-- The located rows are replaced by those that stay, and the rendered text goes with a row. -/
theorem Located.filterResponse_eq (h : Located slug resp spec path items)
    (since : chrono.DateTime) :
    filterResponse fromTimestampMillis slug resp since =
      { resp with
        data := assignArray (keptRows fromTimestampMillis spec since items) path resp.data
        markdownFormatted :=
          if keptRows fromTimestampMillis spec since items = items then resp.markdownFormatted
          else none } := by
  have hpath := h.itemsPath_eq
  simp only [filterResponse, h.successful, Bool.not_true, Bool.false_eq_true, if_false,
    h.known, hpath, h.found, length_keptRows]
  split_ifs with hkept
  · rw [hkept, assignArray_self h.found, ← h.successful]
  · rw [← h.successful]

/-- A response without such rows passes through. -/
theorem filterResponse_of_not_located (h : ¬ ∃ spec path items, Located slug resp spec path items)
    (since : chrono.DateTime) : filterResponse fromTimestampMillis slug resp since = resp := by
  rw [filterResponse]
  cases hsuccessful : resp.successful with
  | false => rfl
  | true =>
    cases hknown : specFor slug with
    | none => rfl
    | some spec =>
      cases hpath : itemsPath spec resp.data with
      | none => simp only [hpath]; rfl
      | some path =>
        obtain ⟨items, hlocated⟩ := located_of_itemsPath hsuccessful hknown hpath
        exact absurd ⟨spec, path, items, hlocated⟩ h

/-- The rows of a filtered response are found where they were. -/
theorem Located.filtered (h : Located slug resp spec path items) (since : chrono.DateTime) :
    Located slug (filterResponse fromTimestampMillis slug resp since) spec path
      (keptRows fromTimestampMillis spec since items) := by
  obtain ⟨before, after, hpaths, hbefore⟩ := h.first
  rw [h.filterResponse_eq]
  exact ⟨h.successful, h.known, arrayAt_assignArray h.found, before, after, hpaths,
    fun other hother => arrayAt_assignArray_none h.found (hbefore other hother)⟩

/-- Filtering at an earlier instant first makes no difference. -/
theorem filterResponse_filterResponse {since since' : chrono.DateTime} (hle : since ≤ since') :
    filterResponse fromTimestampMillis slug
      (filterResponse fromTimestampMillis slug resp since) since' =
      filterResponse fromTimestampMillis slug resp since' := by
  by_cases hlocated : ∃ spec path items, Located slug resp spec path items
  · obtain ⟨spec, path, items, h⟩ := hlocated
    rw [(h.filtered fromTimestampMillis since).filterResponse_eq, h.filterResponse_eq,
      h.filterResponse_eq]
    simp only [keptRows_keptRows fromTimestampMillis hle, assignArray_assignArray]
    -- a row the earlier instant removes is removed by the later one too
    by_cases hkept : keptRows fromTimestampMillis spec since items = items
    · simp only [hkept, if_true]
    · have hlater : keptRows fromTimestampMillis spec since' items ≠ items := fun hall =>
        hkept (keptRows_eq_self_of_le fromTimestampMillis hle hall)
      simp only [hkept, hlater, if_false, ite_self]
  · rw [filterResponse_of_not_located fromTimestampMillis hlocated]

variable (slug)

/-- Recency filtering is an exact, idempotent and monotone projection of the responses of an
action. -/
structure Projects : Prop where
  /-- Exactly the outdated rows are taken out of the first array that is found, the rest keeps its
  order, and nothing else changes but for the rendered text, which goes with a row. -/
  removes : ∀ resp spec path items since, Located slug resp spec path items → ∃ keep : Json → Bool,
    (∀ item, keep item = true ↔ ¬ Outdated fromTimestampMillis item spec.tsFields since) ∧
      ∃ data, ReplacedAt items (items.filter keep) path resp.data data ∧
        ((∃ item ∈ items, keep item = false) →
          filterResponse fromTimestampMillis slug resp since =
            { resp with data := data, markdownFormatted := none }) ∧
        ((∀ item ∈ items, keep item = true) →
          filterResponse fromTimestampMillis slug resp since = resp)
  idempotent : ∀ resp since,
    filterResponse fromTimestampMillis slug
      (filterResponse fromTimestampMillis slug resp since) since =
      filterResponse fromTimestampMillis slug resp since
  monotone : ∀ resp since since', since ≤ since' →
    filterResponse fromTimestampMillis slug
      (filterResponse fromTimestampMillis slug resp since) since' =
      filterResponse fromTimestampMillis slug resp since'
  unsuccessful : ∀ resp since, resp.successful = false →
    filterResponse fromTimestampMillis slug resp since = resp
  unknown : ∀ resp since, specFor slug = none →
    filterResponse fromTimestampMillis slug resp since = resp
  unrecognised : ∀ resp spec since, specFor slug = some spec →
    (∀ path ∈ spec.itemsPaths, arrayAt resp.data path = none) →
      filterResponse fromTimestampMillis slug resp since = resp

/-- So it is for every action, and whatever chrono makes of a number of milliseconds. -/
theorem projects : Projects fromTimestampMillis slug where
  removes resp spec path items since h := by
    refine ⟨fun item => keepItem fromTimestampMillis item spec.tsFields since,
      fun item => keepItem_iff fromTimestampMillis, _, replacedAt_assignArray h.found, ?_, ?_⟩
    · rintro ⟨item, hitem, hdropped⟩
      have hkept : keptRows fromTimestampMillis spec since items ≠ items := by
        intro hall
        rw [keptRows, List.filter_eq_self] at hall
        cases (hall item hitem).symm.trans hdropped
      rw [h.filterResponse_eq, if_neg hkept]
      rfl
    · intro hall
      have hkept : keptRows fromTimestampMillis spec since items = items :=
        List.filter_eq_self.mpr hall
      rw [h.filterResponse_eq, hkept, if_pos rfl, assignArray_self h.found]
  idempotent resp since := filterResponse_filterResponse fromTimestampMillis le_rfl
  monotone resp since since' hle := filterResponse_filterResponse fromTimestampMillis hle
  unsuccessful resp since hfailed := by
    rw [filterResponse, hfailed]
    rfl
  unknown resp since hunknown := by
    apply filterResponse_of_not_located
    rintro ⟨spec, path, items, h⟩
    cases hunknown.symm.trans h.known
  unrecognised resp spec since hknown hnone := by
    apply filterResponse_of_not_located
    rintro ⟨spec', path, items, h⟩
    cases hknown.symm.trans h.known
    obtain ⟨before, after, hpaths, -⟩ := h.first
    have hmem : path ∈ spec.itemsPaths := by
      rw [hpaths]
      exact List.mem_append_right before List.mem_cons_self
    cases (hnone path hmem).symm.trans h.found

end Responses

end Filter

/-- Instants as milliseconds. -/
def epochChrono : Chrono where
  DateTime := ℤ
  parseFromRfc3339 _ := none
  toRfc3339 instant := toString instant

instance : LinearOrder epochChrono.DateTime := inferInstanceAs (LinearOrder ℤ)

/-- Of three tasks, one is outdated and one has no time that can be read. -/
example : (@filterResponse epochChrono _ some "CLICKUP_GET_TASKS"
    ⟨.obj [("tasks", .arr [.obj [("date_updated", .str " 999 ")],
      .obj [("date_updated", .num (.posInt 1000))], .obj [("date_updated", .str "soon")]])],
      true, none, 0, some "three tasks"⟩ (1000 : ℤ)).data =
    .obj [("tasks", .arr [.obj [("date_updated", .num (.posInt 1000))],
      .obj [("date_updated", .str "soon")]])] := by decide +kernel

end Execute
