/-
# One event in two versions

The V3 and the V2 body of one trigger event, and what decoding makes of them.
The routing ids agree wherever they are read from.  The toolkit need not: V2
takes one that `data` names outright, and what the provider sent is in `data`.
-/
import TinyConnectors.Webhook.Decode

namespace Webhook

open RustStr

/-- The keys a V2 body may have routing ids under in `data`. -/
def CONNECTION_KEYS : List String := ["connection_nano_id", "connection_id", "connected_account_id"]
@[inherit_doc CONNECTION_KEYS] def TRIGGER_KEYS : List String := ["trigger_nano_id", "trigger_id"]

/-- A trigger event with its routing ids, before it is put into a body. -/
structure TriggerMessage where
  /-- The slug, in upper case. -/
  trigger : String
  id : String
  logId : String
  userId : String
  connectedAccountId : String
  triggerId : String
  /-- What the provider sent. -/
  event : List (String × Json)
  upper : toAsciiUppercase trigger = trigger
  named : trim trigger ≠ ""
  connected : trim connectedAccountId ≠ ""
  unrouted : ∀ key ∈ CONNECTION_KEYS ++ TRIGGER_KEYS ++ ["user_id"], Json.field key event = none

/-- What a V2 sender is free in: the keys of the ids, and the timestamp. -/
structure V2Form where
  connectionKey : String
  triggerKey : String
  timestamp : Json
  connectionKey_mem : connectionKey ∈ CONNECTION_KEYS
  triggerKey_mem : triggerKey ∈ TRIGGER_KEYS
  timestamp_ne : timestamp ≠ .null

namespace TriggerMessage

/-- The `metadata` of the V3 body. -/
def metadataFields (m : TriggerMessage) : List (String × Json) :=
  Json.insert "trigger_slug" (.str m.trigger) (Json.insert "log_id" (.str m.logId)
    (Json.insert "user_id" (.str m.userId) (Json.insert "trigger_id" (.str m.triggerId)
      [("connected_account_id", .str m.connectedAccountId)])))

def v3Body (m : TriggerMessage) : List (String × Json) :=
  Json.insert "type" (.str V3_TRIGGER_TYPE) (Json.insert "id" (.str m.id)
    (Json.insert "metadata" (.obj m.metadataFields) [("data", .obj m.event)]))

/-- The `data` of the V2 body. -/
def mixed (m : TriggerMessage) (form : V2Form) : List (String × Json) :=
  Json.insert form.connectionKey (.str m.connectedAccountId)
    (Json.insert form.triggerKey (.str m.triggerId) (Json.insert "user_id" (.str m.userId) m.event))

def v2Body (m : TriggerMessage) (form : V2Form) : List (String × Json) :=
  Json.insert "type" (.str (toAsciiLowercase m.trigger)) (Json.insert "id" (.str m.id)
    (Json.insert "log_id" (.str m.logId) (Json.insert "timestamp" form.timestamp
      [("data", .obj (m.mixed form))])))

/-- Both bodies decode, to events with the same trigger and the same ids. -/
def SameRouting (m : TriggerMessage) (known : List String) : Prop :=
  ∀ parse v3 v2 form, parse v3 = .ok (.obj m.v3Body) → parse v2 = .ok (.obj (m.v2Body form)) →
    ∃ new old, decodeWithToolkits parse v3 known = .ok new ∧
      decodeWithToolkits parse v2 known = .ok old ∧
        new.trigger = old.trigger ∧ new.metadata = old.metadata

/-- And with the same toolkit. -/
def DecodesAlike (m : TriggerMessage) (known : List String) : Prop :=
  ∀ parse v3 v2 form, parse v3 = .ok (.obj m.v3Body) → parse v2 = .ok (.obj (m.v2Body form)) →
    ∃ new old, decodeWithToolkits parse v3 known = .ok new ∧
      decodeWithToolkits parse v2 known = .ok old ∧
        new.trigger = old.trigger ∧ new.toolkit = old.toolkit ∧ new.metadata = old.metadata

/-- The slug whose lower case is the V3 type. -/
def NamesMessage (m : TriggerMessage) : Prop := trim m.trigger = "COMPOSIO.TRIGGER.MESSAGE"

/-- What the provider sent names no toolkit but the one of the slug. -/
def NamesNoOther (m : TriggerMessage) (known : List String) : Prop :=
  ∀ toolkit, explicitToolkit m.event = some toolkit → toolkit = toolkitOf (trim m.trigger) known

/-! ## What is read where -/

variable (m : TriggerMessage) (form : V2Form) (known : List String)

@[simp] theorem text_str (s : String) : text (some (.str s)) = trim s := rfl

@[simp] theorem text_none : text none = "" := rfl

/-- One text under one of several keys is the first there. -/
theorem first_of_only {keys : List String} {value : String} {fields : List (String × Json)}
    (key : String) (hkey : key ∈ keys) (hvalue : text (Json.field key fields) = value)
    (hothers : ∀ other ∈ keys, other ≠ key → text (Json.field other fields) = "") :
    first keys fields = value := by
  unfold first
  by_cases hblank : value = ""
  · rw [List.find?_eq_none.mpr, Option.getD_none, hblank]
    intro found hfound
    obtain ⟨other, hother, rfl⟩ := List.mem_map.mp hfound
    by_cases hsame : other = key
    · simp [hsame, hvalue, hblank]
    · simp [hothers other hother hsame]
  · cases hfind : (keys.map fun key => text (Json.field key fields)).find? fun v => v ≠ "" with
    | none =>
      have hnone := List.find?_eq_none.mp hfind value
        (List.mem_map.mpr ⟨key, hkey, hvalue⟩)
      simp [hblank] at hnone
    | some found =>
      obtain ⟨other, hother, rfl⟩ := List.mem_map.mp (List.mem_of_find?_eq_some hfind)
      have hsome := List.find?_some hfind
      by_cases hsame : other = key
      · rw [hsame, hvalue, Option.getD_some]
      · simp [hothers other hother hsame] at hsome

theorem field_mixed (key : String) : Json.field key (m.mixed form) =
    if key = form.connectionKey then some (.str m.connectedAccountId)
    else if key = form.triggerKey then some (.str m.triggerId)
    else if key = "user_id" then some (.str m.userId)
    else Json.field key m.event := by
  simp only [mixed, Json.field_insert]

/-- The keys of the ids are different keys. -/
theorem connectionKey_ne_triggerKey : ∀ a ∈ CONNECTION_KEYS, ∀ b ∈ TRIGGER_KEYS, a ≠ b := by decide

/-- Other keys of the ids are not there. -/
theorem field_mixed_eq_none {key : String} (hkey : key ∈ CONNECTION_KEYS ++ TRIGGER_KEYS)
    (hconnection : key ≠ form.connectionKey) (htrigger : key ≠ form.triggerKey) :
    Json.field key (m.mixed form) = none := by
  have huser : key ≠ "user_id" := by
    rintro rfl
    exact absurd hkey (by decide)
  rw [field_mixed, if_neg hconnection, if_neg htrigger, if_neg huser]
  exact m.unrouted key (List.mem_append_left _ hkey)

theorem first_connection : first ["connection_nano_id", "connected_account_id", "connection_id"]
    (m.mixed form) = trim m.connectedAccountId := by
  have hmem : ∀ key, key ∈ ["connection_nano_id", "connected_account_id", "connection_id"] ↔
      key ∈ CONNECTION_KEYS := by
    intro key
    simp only [CONNECTION_KEYS, List.mem_cons, List.not_mem_nil, or_false]
    tauto
  apply first_of_only form.connectionKey ((hmem _).mpr form.connectionKey_mem)
  · rw [field_mixed, if_pos rfl, text_str]
  · intro other hother hne
    have hother := (hmem other).mp hother
    rw [field_mixed_eq_none m form (List.mem_append_left _ hother) hne
      (connectionKey_ne_triggerKey other hother _ form.triggerKey_mem), text_none]

theorem first_trigger :
    first ["trigger_nano_id", "trigger_id"] (m.mixed form) = trim m.triggerId := by
  apply first_of_only form.triggerKey form.triggerKey_mem
  · rw [field_mixed, if_neg (connectionKey_ne_triggerKey _ form.connectionKey_mem _
      form.triggerKey_mem).symm, if_pos rfl, text_str]
  · intro other hother hne
    rw [field_mixed_eq_none m form (List.mem_append_right _ hother)
      (connectionKey_ne_triggerKey _ form.connectionKey_mem other hother).symm hne, text_none]

theorem first_user : first ["user_id"] (m.mixed form) = trim m.userId := by
  have hconnection : "user_id" ≠ form.connectionKey := by
    intro h
    exact absurd (h ▸ form.connectionKey_mem) (by decide)
  have htrigger : "user_id" ≠ form.triggerKey := by
    intro h
    exact absurd (h ▸ form.triggerKey_mem) (by decide)
  apply first_of_only "user_id" List.mem_cons_self
  · rw [field_mixed, if_neg hconnection, if_neg htrigger, if_pos rfl, text_str]
  · intro other hother hne
    exact absurd (List.mem_singleton.mp hother) hne

/-- `data` names the connection. -/
theorem names_connection : (["connection_nano_id", "connection_id", "connected_account_id"].any
    fun key => text (Json.field key (m.mixed form)) ≠ "") = true := by
  refine List.any_eq_true.mpr ⟨form.connectionKey, form.connectionKey_mem, ?_⟩
  rw [field_mixed, if_pos rfl, text_str]
  exact decide_eq_true m.connected

/-- Putting the ids in leaves the toolkit keys as the provider sent them. -/
theorem explicitToolkit_mixed : explicitToolkit (m.mixed form) = explicitToolkit m.event := by
  have hfields : ∀ key ∈ ["toolkit_slug", "toolkit"],
      Json.field key (m.mixed form) = Json.field key m.event := by
    intro key hkey
    have hplain : key ∉ CONNECTION_KEYS ++ TRIGGER_KEYS ++ ["user_id"] := by
      rcases List.mem_pair.mp hkey with rfl | rfl <;> decide
    rw [field_mixed, if_neg, if_neg, if_neg]
    · rintro rfl
      exact hplain (by simp)
    · rintro rfl
      exact hplain (by simp [form.triggerKey_mem])
    · rintro rfl
      exact hplain (by simp [form.connectionKey_mem])
  simp only [explicitToolkit, List.map_cons, List.map_nil, hfields _ List.mem_cons_self,
    hfields "toolkit" (by decide)]

/-! ## The two events -/

/-- The ids, as both decoders read them. -/
def routing : ComposioTriggerMetadata where
  id := trim m.id
  uuid := trim m.logId
  userId := trim m.userId
  connectedAccountId := trim m.connectedAccountId
  triggerId := trim m.triggerId

/-- What the V3 body decodes to. -/
def v3Event : ComposioTriggerEvent where
  toolkit := toolkitOf (trim m.trigger) known
  trigger := trim m.trigger
  payload := .obj m.event
  metadata := m.routing

/-- What the V2 body decodes to. -/
def v2Event : ComposioTriggerEvent where
  toolkit := (explicitToolkit m.event).getD (toolkitOf (trim m.trigger) known)
  trigger := trim m.trigger
  payload := .obj (m.mixed form)
  metadata := m.routing

/-- Neither body names a toolkit outside `data`. -/
theorem explicitToolkit_eq_none {fields : List (String × Json)}
    (hslug : Json.field "toolkit_slug" fields = none)
    (htoolkit : Json.field "toolkit" fields = none) :
    explicitToolkit fields = none := by
  simp [explicitToolkit, hslug, htoolkit, toAsciiLowercase]

theorem field_v3Body (key : String) : Json.field key m.v3Body =
    if key = "type" then some (.str V3_TRIGGER_TYPE)
    else if key = "id" then some (.str m.id)
    else if key = "metadata" then some (.obj m.metadataFields)
    else if key = "data" then some (.obj m.event) else none := by
  simp only [v3Body, Json.field_insert]
  split_ifs with _ _ _ hdata
  all_goals try rfl
  · rw [hdata, Json.field_cons_self]
  · rw [Json.field_cons_of_ne hdata, Json.field_nil]

theorem field_metadataFields (key : String) : Json.field key m.metadataFields =
    if key = "trigger_slug" then some (.str m.trigger)
    else if key = "log_id" then some (.str m.logId)
    else if key = "user_id" then some (.str m.userId)
    else if key = "trigger_id" then some (.str m.triggerId)
    else if key = "connected_account_id" then some (.str m.connectedAccountId) else none := by
  simp only [metadataFields, Json.field_insert]
  split_ifs with _ _ _ _ haccount
  all_goals try rfl
  · rw [haccount, Json.field_cons_self]
  · rw [Json.field_cons_of_ne haccount, Json.field_nil]

theorem field_v2Body (key : String) : Json.field key (m.v2Body form) =
    if key = "type" then some (.str (toAsciiLowercase m.trigger))
    else if key = "id" then some (.str m.id)
    else if key = "log_id" then some (.str m.logId)
    else if key = "timestamp" then some form.timestamp
    else if key = "data" then some (.obj (m.mixed form)) else none := by
  simp only [v2Body, Json.field_insert]
  split_ifs with _ _ _ _ hdata
  all_goals try rfl
  · rw [hdata, Json.field_cons_self]
  · rw [Json.field_cons_of_ne hdata, Json.field_nil]

theorem decodeObject_v3Body : decodeObject m.v3Body known = .ok (m.v3Event known) := by
  have htype : text (Json.field "type" m.v3Body) = V3_TRIGGER_TYPE := by
    rw [field_v3Body, if_pos rfl, text_str]
    decide +kernel
  have hbody : explicitToolkit m.v3Body = none :=
    explicitToolkit_eq_none (field_v3Body m _) (field_v3Body m _)
  have hmetadata : explicitToolkit m.metadataFields = none :=
    explicitToolkit_eq_none (field_metadataFields m _) (field_metadataFields m _)
  simp only [decodeObject, htype]
  rw [field_v3Body]
  simp [decodeV3, m.named, hbody, hmetadata, field_v3Body, field_metadataFields, v3Event, routing]

/-- Lower case and back, and trimmed. -/
theorem toAsciiUppercase_kind :
    toAsciiUppercase (trim (toAsciiLowercase m.trigger)) = trim m.trigger := by
  rw [toAsciiUppercase_trim, toAsciiUppercase_toAsciiLowercase, m.upper]

/-- The V2 type reads as the V3 one for one slug only. -/
theorem kind_eq_iff : trim (toAsciiLowercase m.trigger) = V3_TRIGGER_TYPE ↔ m.NamesMessage := by
  unfold NamesMessage
  constructor
  · intro hkind
    rw [← toAsciiUppercase_kind, hkind]
    decide +kernel
  · intro hname
    rw [← toAsciiLowercase_trim, hname]
    decide +kernel

theorem kind_ne : trim (toAsciiLowercase m.trigger) ≠ "" := by
  intro hkind
  apply m.named
  rw [← toAsciiUppercase_kind, hkind]
  rfl

theorem decodeV2_v2Body : decodeV2 (m.v2Body form) (trim (toAsciiLowercase m.trigger)) known =
    some (m.v2Event form known) := by
  have hbody : explicitToolkit (m.v2Body form) = none :=
    explicitToolkit_eq_none (field_v2Body m form _) (field_v2Body m form _)
  have hid : text (Json.field "id" (m.v2Body form)) = trim m.id := by
    rw [field_v2Body, if_neg (by decide), if_pos rfl, text_str]
  have hlog : text (Json.field "log_id" (m.v2Body form)) = trim m.logId := by
    rw [field_v2Body, if_neg (by decide), if_neg (by decide), if_pos rfl, text_str]
  have htime : Json.field "timestamp" (m.v2Body form) = some form.timestamp := field_v2Body m form _
  have hdata : Json.field "data" (m.v2Body form) = some (.obj (m.mixed form)) :=
    field_v2Body m form _
  simp only [decodeV2, hdata, htime]
  split
  · next habsent => cases habsent
  · next hnull => exact absurd (Option.some_inj.mp hnull) form.timestamp_ne
  · rw [if_pos (m.names_connection form), toAsciiUppercase_kind, explicitToolkit_mixed, hbody,
      first_user, first_connection, first_trigger, hid, hlog, Option.or_none, v2Event, routing]

theorem decodeObject_v2Body (hname : ¬ m.NamesMessage) :
    decodeObject (m.v2Body form) known = .ok (m.v2Event form known) := by
  have htype : text (Json.field "type" (m.v2Body form)) = trim (toAsciiLowercase m.trigger) := by
    rw [field_v2Body, if_pos rfl, text_str]
  have hmetadata : Json.field "metadata" (m.v2Body form) = none := field_v2Body m form _
  simp only [decodeObject, htype, hmetadata]
  rw [if_pos ⟨m.kind_ne, fun h => hname (m.kind_eq_iff.mp h)⟩, decodeV2_v2Body]

/-- A V2 body whose type reads as the V3 one is taken for a V1 body. -/
theorem decodeObject_v2Body_message (hname : m.NamesMessage) :
    ∃ error, decodeObject (m.v2Body form) known = .error error := by
  have htype : text (Json.field "type" (m.v2Body form)) = V3_TRIGGER_TYPE := by
    rw [field_v2Body, if_pos rfl, text_str, m.kind_eq_iff.mpr hname]
  have hmetadata : Json.field "metadata" (m.v2Body form) = none := field_v2Body m form _
  have htrigger : Json.field "trigger_name" (m.v2Body form) = none := field_v2Body m form _
  have hnone : decodeV1 (m.v2Body form) known = none := by
    simp only [decodeV1, htrigger, text_none, true_or, if_true]
  simp only [decodeObject, htype, hmetadata, hnone]
  rw [if_neg fun h => h.2 rfl]
  exact ⟨_, rfl⟩

/-! ## When they are alike -/

section Parsed

variable {m form known} {parse : List UInt8 → Except String Json} {body : List UInt8}

theorem decode_v3 (hparse : parse body = .ok (.obj m.v3Body)) :
    decodeWithToolkits parse body known = .ok (m.v3Event known) := by
  rw [decodeWithToolkits, hparse]
  exact m.decodeObject_v3Body known

theorem decode_v2 (hname : ¬ m.NamesMessage) (hparse : parse body = .ok (.obj (m.v2Body form))) :
    decodeWithToolkits parse body known = .ok (m.v2Event form known) := by
  rw [decodeWithToolkits, hparse]
  exact m.decodeObject_v2Body form known hname

theorem decode_v2_ne (hname : m.NamesMessage) (hparse : parse body = .ok (.obj (m.v2Body form)))
    (event : ComposioTriggerEvent) : decodeWithToolkits parse body known ≠ .ok event := by
  rw [decodeWithToolkits, hparse]
  obtain ⟨error, herror⟩ := m.decodeObject_v2Body_message form known hname
  simp [herror]

end Parsed

/-- A parser that reads two bodies. -/
def readBodies (body : List UInt8) : Except String Json :=
  if body = [] then .ok (.obj m.v3Body) else .ok (.obj (m.v2Body form))

/-- The form the documentation shows. -/
def documentedForm : V2Form where
  connectionKey := "connection_id"
  triggerKey := "trigger_nano_id"
  timestamp := .str "2026-10-15T00:00:00Z"
  connectionKey_mem := by decide
  triggerKey_mem := by decide
  timestamp_ne := by decide

theorem sameRouting_iff : m.SameRouting known ↔ ¬ m.NamesMessage := by
  constructor
  · intro hsame hname
    obtain ⟨_, old, -, hold, -⟩ := hsame (m.readBodies documentedForm) [] [0] documentedForm rfl rfl
    exact decode_v2_ne hname rfl old hold
  · intro hname parse v3 v2 form hv3 hv2
    exact ⟨_, _, decode_v3 hv3, decode_v2 hname hv2, rfl, rfl⟩

theorem DecodesAlike.sameRouting {m : TriggerMessage} {known : List String}
    (h : m.DecodesAlike known) : m.SameRouting known := by
  intro parse v3 v2 form hv3 hv2
  obtain ⟨new, old, hnew, hold, htrigger, -, hmetadata⟩ := h parse v3 v2 form hv3 hv2
  exact ⟨new, old, hnew, hold, htrigger, hmetadata⟩

/-- The V2 toolkit is the one of the slug unless `data` names another. -/
theorem v2Event_toolkit_iff :
    (m.v3Event known).toolkit = (m.v2Event form known).toolkit ↔ m.NamesNoOther known := by
  simp only [v3Event, v2Event, NamesNoOther]
  cases explicitToolkit m.event with
  | none => simp
  | some toolkit => simp [eq_comm]

end TriggerMessage

open TriggerMessage

/-- The two bodies of an event decode, with the same trigger and ids, unless the
slug reads as the V3 type; and with the same toolkit exactly when the provider's
data names no other. -/
theorem decodesAlike_iff (m : TriggerMessage) (known : List String) :
    (m.SameRouting known ↔ ¬ m.NamesMessage) ∧
      (m.DecodesAlike known ↔ ¬ m.NamesMessage ∧ m.NamesNoOther known) := by
  refine ⟨m.sameRouting_iff known, fun halike => ?_, fun ⟨hname, hother⟩ => ?_⟩
  · have hname := (m.sameRouting_iff known).mp halike.sameRouting
    refine ⟨hname, (m.v2Event_toolkit_iff documentedForm known).mp ?_⟩
    obtain ⟨new, old, hnew, hold, -, htoolkit, -⟩ :=
      halike (m.readBodies documentedForm) [] [0] documentedForm rfl rfl
    rw [decode_v3 rfl, Except.ok.injEq] at hnew
    rw [decode_v2 hname rfl, Except.ok.injEq] at hold
    rw [hnew, hold]
    exact htoolkit
  · intro parse v3 v2 form hv3 hv2
    exact ⟨_, _, decode_v3 hv3, decode_v2 hname hv2, rfl,
      (m.v2Event_toolkit_iff form known).mpr hother, rfl⟩

/-- A message of GitHub's whose data has a field called `toolkit`. -/
def starAdded : TriggerMessage where
  trigger := "GITHUB_STAR_ADDED_EVENT"
  id := "msg_1"
  logId := "log_1"
  userId := "user_1"
  connectedAccountId := "ca_1"
  triggerId := "ti_1"
  event := [("repository", .str "octocat/hello"), ("toolkit", .str "Actions Toolkit")]
  upper := by decide +kernel
  named := by decide +kernel
  connected := by decide +kernel
  unrouted := by decide

/-- A message whose slug is the V3 type in upper case. -/
def messageSlug : TriggerMessage := { starAdded with
  trigger := "COMPOSIO.TRIGGER.MESSAGE"
  upper := by decide +kernel
  named := by decide +kernel }

/-- The first is filed under the name in its data when it comes as V2; the second
is not read at all. -/
theorem not_decodesAlike_starAdded :
    ¬ starAdded.DecodesAlike ["github"] ∧ ¬ messageSlug.SameRouting ["github"] := by
  constructor
  · intro halike
    have hname : ¬ starAdded.NamesMessage := by
      unfold NamesMessage
      decide +kernel
    obtain ⟨new, old, hnew, hold, -, htoolkit, -⟩ :=
      halike (starAdded.readBodies documentedForm) [] [0] documentedForm rfl rfl
    rw [decode_v3 rfl, Except.ok.injEq] at hnew
    rw [decode_v2 hname rfl, Except.ok.injEq] at hold
    rw [← hnew, ← hold] at htoolkit
    have hnamed : explicitToolkit starAdded.event = some "actions toolkit" := by decide +kernel
    have hother := (starAdded.v2Event_toolkit_iff documentedForm ["github"]).mp htoolkit _ hnamed
    exact absurd hother (by decide +kernel)
  · rw [sameRouting_iff, not_not]
    unfold NamesMessage
    decide +kernel

end Webhook
