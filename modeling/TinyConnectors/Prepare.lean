/-
# Argument preparation

`execute/prepare.rs`: normalising and validating an action's arguments before
they are sent.  Every rule is local; the only data a failure carries is the
action and the rule that refused it.
-/
import TinyConnectors.Json
import TinyConnectors.RustStr

open RustStr

/-- Why an action's arguments were refused. -/
inductive ArgumentFault where
  /-- `arguments must be a JSON object, got …`, with the value rendered. -/
  | notAnObject (got : Json)
  /-- A rule of one action, with its text. -/
  | rule (message : String)
  deriving DecidableEq

/-- `Error::InvalidArguments`. -/
structure InvalidArguments where
  tool : String
  message : ArgumentFault
  deriving DecidableEq

/-! ## Calendar time bounds -/

/-- `str::parse::<u32>` on a slice: an optional `+`, then at least one ASCII digit. -/
def parseU32 (bytes : List UInt8) : Option ℕ :=
  let digits := if bytes.head? = some 43 then bytes.drop 1 else bytes
  if digits.isEmpty || !digits.all (fun b => 48 ≤ b && b ≤ 57) then none
  else
    let n := digits.foldl (fun acc b => 10 * acc + (b.toNat - 48)) 0
    if n < 2 ^ 32 then some n else none

/-- The Gregorian month lengths. -/
def daysInMonth (year month : ℕ) : ℕ :=
  if month ∈ [1, 3, 5, 7, 8, 10, 12] then 31
  else if month ∈ [4, 6, 9, 11] then 30
  else if month = 2 then
    if year % 4 = 0 ∧ (year % 100 ≠ 0 ∨ year % 400 = 0) then 29 else 28
  else 0

/-- Whether `text` is a real `YYYY-MM-DD` date. -/
def isCalendarDate (text : String) : Bool :=
  let bytes := asBytes text
  if bytes.length ≠ 10 ∨ bytes[4]? ≠ some 45 ∨ bytes[7]? ≠ some 45 then false
  else
    match parseU32 (bytes.take 4), parseU32 ((bytes.drop 5).take 2), parseU32 (bytes.drop 8) with
    | some year, some month, some day =>
      if ¬ (1 ≤ month ∧ month ≤ 12) ∨ day = 0 then false
      else decide (day ≤ daysInMonth year month)
    | _, _, _ => false

/-- A bound that is a timestamp stays, trimmed; a real date becomes midnight UTC. -/
def normalizeRfc3339Bound (value : Json) : Option String :=
  match value.asStr with
  | none => none
  | some s =>
    let text := trim s
    if text = "" then none
    else if contains text "T" then some text
    else if isCalendarDate text then some (text ++ "T00:00:00Z")
    else none

/-- The bounds `normalizeCalendarTimeBounds` visits, in order. -/
def TIME_BOUNDS : List String := ["timeMin", "timeMax", "time_min", "time_max"]

/-- Promote a bare date to an RFC 3339 instant, and reject one that is not a date. -/
def normalizeCalendarTimeBounds (tool : String) :
    List String → List (String × Json) → Except InvalidArguments (List (String × Json))
  | [], object => .ok object
  | key :: keys, object =>
    match Json.field key object with
    | none => normalizeCalendarTimeBounds tool keys object
    | some value =>
      match normalizeRfc3339Bound value with
      | some normalized =>
        normalizeCalendarTimeBounds tool keys (Json.insert key (.str normalized) object)
      | none =>
        match value.asStr with
        | some _ => .error ⟨tool, .rule (s!"time bound `{key}` must be an RFC 3339 timestamp " ++
            "(e.g. 2026-05-14T00:00:00Z), not a bare date")⟩
        | none => normalizeCalendarTimeBounds tool keys object

/-- What a bound becomes. -/
def boundValue (value : Json) : Json :=
  match normalizeRfc3339Bound value with
  | some normalized => .str normalized
  | none => value

section Bounds

variable {tool : String} {keys : List String} {object out : List (String × Json)}

/-- One visited key that does not refuse the call. -/
theorem normalizeCalendarTimeBounds_cons {key : String}
    (h : normalizeCalendarTimeBounds tool (key :: keys) object = .ok out) :
    (Json.field key object = none ∧ normalizeCalendarTimeBounds tool keys object = .ok out) ∨
      (∃ value normalized, Json.field key object = some value ∧
        normalizeRfc3339Bound value = some normalized ∧
          normalizeCalendarTimeBounds tool keys (Json.insert key (.str normalized) object) =
            .ok out) ∨
      ∃ value, Json.field key object = some value ∧ normalizeRfc3339Bound value = none ∧
        value.asStr = none ∧ normalizeCalendarTimeBounds tool keys object = .ok out := by
  rw [normalizeCalendarTimeBounds] at h
  cases hfield : Json.field key object with
  | none =>
    rw [hfield] at h
    exact .inl ⟨rfl, h⟩
  | some value =>
    rw [hfield] at h
    cases hnormal : normalizeRfc3339Bound value with
    | some normalized =>
      simp only [hnormal] at h
      exact .inr (.inl ⟨value, normalized, rfl, hnormal, h⟩)
    | none =>
      simp only [hnormal] at h
      cases hstr : value.asStr with
      | some s => simp [hstr] at h
      | none =>
        simp only [hstr] at h
        exact .inr (.inr ⟨value, rfl, hnormal, hstr, h⟩)

/-- The bounds are brought to normal form, and nothing else changes. -/
theorem field_normalizeCalendarTimeBounds (hkeys : keys.Nodup)
    (h : normalizeCalendarTimeBounds tool keys object = .ok out) (other : String) :
    Json.field other out =
      if other ∈ keys then (Json.field other object).map boundValue
      else Json.field other object := by
  induction keys generalizing object with
  | nil =>
    cases h
    rw [if_neg List.not_mem_nil]
  | cons key keys ih =>
    obtain ⟨hkey, hkeys⟩ := List.nodup_cons.mp hkeys
    rcases normalizeCalendarTimeBounds_cons h with ⟨hnone, h⟩ |
      ⟨value, normalized, hfield, hnormal, h⟩ | ⟨value, hfield, hnormal, -, h⟩
    · rw [ih hkeys h]
      by_cases hother : other = key
      · rw [hother, if_neg hkey, if_pos List.mem_cons_self, hnone, Option.map_none]
      · simp only [List.mem_cons, hother, false_or]
    · rw [ih hkeys h]
      by_cases hother : other = key
      · rw [hother, if_neg hkey, if_pos List.mem_cons_self, hfield, Json.field_insert_self,
          Option.map_some, boundValue, hnormal]
      · simp only [List.mem_cons, hother, false_or, Json.field_insert_of_ne hother]
    · rw [ih hkeys h]
      by_cases hother : other = key
      · rw [hother, if_neg hkey, if_pos List.mem_cons_self, hfield, Option.map_some, boundValue,
          hnormal]
      · simp only [List.mem_cons, hother, false_or]

/-- A bound without a normal form is no string, or the call is refused. -/
theorem asStr_of_normalizeCalendarTimeBounds (hkeys : keys.Nodup)
    (h : normalizeCalendarTimeBounds tool keys object = .ok out) {other : String}
    (hother : other ∈ keys) {value : Json} (hvalue : Json.field other object = some value)
    (hnone : normalizeRfc3339Bound value = none) : value.asStr = none := by
  induction keys generalizing object with
  | nil => exact absurd hother List.not_mem_nil
  | cons key keys ih =>
    obtain ⟨hkey, hkeys⟩ := List.nodup_cons.mp hkeys
    rcases List.mem_cons.mp hother with rfl | hother
    · rcases normalizeCalendarTimeBounds_cons h with ⟨hfield, -⟩ |
        ⟨found, normalized, hfield, hnormal, -⟩ | ⟨found, hfield, -, hstr, -⟩
      · cases hvalue.symm.trans hfield
      · cases hvalue.symm.trans hfield
        cases hnone.symm.trans hnormal
      · cases hvalue.symm.trans hfield
        exact hstr
    · have hne : other ≠ key := fun hsame => hkey (hsame ▸ hother)
      rcases normalizeCalendarTimeBounds_cons h with ⟨-, h⟩ | ⟨-, normalized, -, -, h⟩ |
        ⟨-, -, -, -, h⟩
      · exact ih hkeys h hother hvalue
      · exact ih hkeys h hother (by rw [Json.field_insert_of_ne hne, hvalue])
      · exact ih hkeys h hother hvalue

end Bounds

/-! ## The rules of single actions -/

/-- A string with something in it after trimming. -/
def nonBlank (value : Option Json) : Option String :=
  (value.bind Json.asStr).bind fun s => if trim s = "" then none else some (trim s)

/-- Supply the `fetch_type` Notion requires and callers routinely omit. -/
def ensureNotionFetchType (object : List (String × Json)) : List (String × Json) :=
  if (nonBlank ((Json.field "fetch_type" object).or (Json.field "fetchType" object))).isSome then
    object
  else
    let filterValue := (Json.field "filter" object).bind fun filter =>
      match filter with
      | .obj fields => (Json.field "value" fields).or (Json.field "property" fields)
      | _ => none
    let inferred :=
      match nonBlank filterValue with
      | none => "pages"
      | some value =>
        if value = "page" ∨ value = "pages" then "pages"
        else if value = "database" ∨ value = "databases" then "databases"
        else value
    Json.insert "fetch_type" (.str inferred) object

/-- A send with no recipient is refused locally. -/
def validateGmailSendEmail (tool : String) (object : List (String × Json)) :
    Except InvalidArguments Unit :=
  if ["to", "recipient_email", "recipientEmail"].any
      (fun key => (nonBlank (Json.field key object)).isSome) then
    .ok ()
  else
    .error ⟨tool, .rule
      "`to` (or `recipient_email`) is required — cannot send without a recipient"⟩

/-- A non-blank string, or a list that holds one. -/
def hasNonEmptyString : Option Json → Bool
  | some (.arr items) => items.any fun item => (nonBlank (some item)).isSome
  | some (.str text) => trim text ≠ ""
  | _ => false

/-- A label change needs a message and at least one label to change. -/
def validateGmailAddLabel (tool : String) (object : List (String × Json)) :
    Except InvalidArguments Unit :=
  if ¬ ["message_id", "messageId"].any
      (fun key => (nonBlank (Json.field key object)).isSome) then
    .error ⟨tool, .rule "`message_id` is required"⟩
  else if ["add_label_ids", "addLabelIds", "remove_label_ids", "removeLabelIds"].any
      (fun key => hasNonEmptyString (Json.field key object)) then
    .ok ()
  else
    .error ⟨tool, .rule
      "provide at least one non-empty label in `add_label_ids` or `remove_label_ids`"⟩

/-! ## The whole preparation -/

/-- The object the rules work on: absent and `null` arguments are the empty one. -/
def argumentObject (tool : String) :
    Option Json → Except InvalidArguments (List (String × Json))
  | some (.obj fields) => .ok fields
  | some .null => .ok []
  | none => .ok []
  | some other => .error ⟨tool, .notAnObject other⟩

/-- The calendar bounds are only looked at for the calendar's own actions. -/
def prepareTimeBounds (tool : String) (args : List (String × Json)) :
    Except InvalidArguments (List (String × Json)) :=
  if startsWith tool "GOOGLECALENDAR_" then normalizeCalendarTimeBounds tool TIME_BOUNDS args
  else .ok args

/-- The rule of the one action it is for; every other action has none. -/
def applyToolRule (tool : String) (args : List (String × Json)) :
    Except InvalidArguments (List (String × Json)) :=
  if tool = "NOTION_FETCH_DATA" then .ok (ensureNotionFetchType args)
  else if tool = "GMAIL_SEND_EMAIL" then (validateGmailSendEmail tool args).map fun _ => args
  else if tool = "GMAIL_ADD_LABEL_TO_EMAIL" then
    (validateGmailAddLabel tool args).map fun _ => args
  else .ok args

/-- Normalize and validate `arguments` for `tool`. -/
def prepareExecuteArguments (tool : String) (arguments : Option Json) :
    Except InvalidArguments Json := do
  let tool := trim tool
  let args ← argumentObject tool arguments
  let args ← prepareTimeBounds tool args
  let args ← applyToolRule tool args
  return .obj args

/-! ## Preparing twice -/

theorem nodup_timeBounds : TIME_BOUNDS.Nodup := by decide

/-- The calendar's actions are not Notion's. -/
theorem ne_notion_of_calendar {tool : String} (h : startsWith tool "GOOGLECALENDAR_" = true) :
    tool ≠ "NOTION_FETCH_DATA" := by
  rintro rfl
  exact absurd h (by decide +kernel)

/-- Arguments every rule accepts: a recipient, a message and a label, and no time bound. -/
def acceptedArguments : List (String × Json) :=
  [("add_label_ids", .str "l"), ("message_id", .str "m"), ("to", .str "r")]

theorem prepareTimeBounds_acceptedArguments (tool : String) :
    prepareTimeBounds tool acceptedArguments = .ok acceptedArguments := by
  unfold prepareTimeBounds
  split_ifs
  · rfl
  · rfl

theorem applyToolRule_acceptedArguments (tool : String) :
    ∃ args, applyToolRule tool acceptedArguments = .ok args := by
  have hsend : validateGmailSendEmail tool acceptedArguments = .ok () := by
    rw [validateGmailSendEmail, if_pos (by decide)]
  have hlabel : validateGmailAddLabel tool acceptedArguments = .ok () := by
    rw [validateGmailAddLabel, if_neg (by decide), if_pos (by decide)]
  unfold applyToolRule
  rw [hsend, hlabel]
  split_ifs <;> exact ⟨_, rfl⟩

/-- No rule is impossible to meet: one argument object is accepted for every action. -/
theorem exists_prepareExecuteArguments_ok (tool : String) :
    ∃ prepared, prepareExecuteArguments tool (some (.obj acceptedArguments)) = .ok prepared := by
  obtain ⟨args, hrule⟩ := applyToolRule_acceptedArguments (trim tool)
  refine ⟨.obj args, ?_⟩
  simp only [prepareExecuteArguments, argumentObject, prepareTimeBounds_acceptedArguments, hrule,
    bind, Except.bind, pure, Except.pure]
