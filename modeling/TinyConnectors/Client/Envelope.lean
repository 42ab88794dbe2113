/-
# The envelope of a proxied reply

`client/route/proxy.rs`: the backend wraps its replies as `success`, `data` and
`error`, and `decode` unwraps them.  The wrapper is read as a whole before its
verdict is looked at, so a refusal reaches the caller only where what comes along
with it can be read too.
-/
import TinyConnectors.Direct.Route

open SchemaWalk Direct

namespace Proxy

/-! ## Reading values -/

/-- The texts of serde's errors. -/
structure SerdeTexts where
  invalidType : Json → String → String
  missingField : String → String
  invalidLength : ℕ → String → String

/-- `serde_json::from_value` of one type. -/
abbrev FromValue (T : Type) := Json → Except String T

section Reading

variable (texts : SerdeTexts) {T : Type}

def fromBool : FromValue Bool
  | .bool b => .ok b
  | value => .error (texts.invalidType value "a boolean")

def fromString : FromValue String
  | .str s => .ok s
  | value => .error (texts.invalidType value "a string")

/-- An `Option` reads null as nothing. -/
def fromOption (fromValue : FromValue T) : FromValue (Option T)
  | .null => .ok none
  | value => (fromValue value).map some

/-- A field that may be missing. -/
def defaulted (key : String) (default : T) (fromValue : FromValue T)
    (fields : List (String × Json)) :
    Except String T :=
  match Json.field key fields with
  | none => .ok default
  | some value => fromValue value

/-- A field that may not. -/
def required (key : String) (fromValue : FromValue T) (fields : List (String × Json)) :
    Except String T :=
  match Json.field key fields with
  | none => .error (texts.missingField key)
  | some value => fromValue value

/-- A `ComposioAuthorizeResponse`, from an object or from the sequence of its fields.  An
object's entries are read in their order, and only then is a missing one told of. -/
def authorizeFromValue : FromValue ComposioAuthorizeResponse
  | .obj fields => do
    let named := fields.filter fun entry => entry.1 = "connectUrl" || entry.1 = "connectionId"
    let _ ← named.mapM fun entry => fromString texts entry.2
    let connectUrl ← required texts "connectUrl" (fromString texts) fields
    let connectionId ← required texts "connectionId" (fromString texts) fields
    pure { connectUrl, connectionId }
  | .arr [connectUrl, connectionId] => do
    let connectUrl ← fromString texts connectUrl
    let connectionId ← fromString texts connectionId
    pure { connectUrl, connectionId }
  | .arr items =>
    .error (texts.invalidLength items.length "struct ComposioAuthorizeResponse with 2 elements")
  | value => .error (texts.invalidType value "struct ComposioAuthorizeResponse")

/-! ## The envelope -/

/-- The backend's wrapper around every reply. -/
structure Envelope (T : Type) where
  success : Bool
  data : Option T
  error : Option String

/-- The wrapper is read field by field, in key order. -/
def envelopeFromFields (fromValue : FromValue T) (fields : List (String × Json)) :
    Except String (Envelope T) := do
  let data ← defaulted "data" none (fromOption fromValue) fields
  let error ← defaulted "error" none (fromOption (fromString texts)) fields
  let success ← defaulted "success" false (fromBool texts) fields
  pure { success, data, error }

/-- What a wrapper comes to. -/
def Envelope.unwrap (path : String) (envelope : Envelope T) : Except Error T :=
  if !envelope.success then
    .error (.transport path
      (envelope.error.getD "the backend reported failure without saying why"))
  else
    match envelope.data with
    | some payload => .ok payload
    | none => .error (.decode path "the backend reported success but sent no data")

/-- Unwrap the backend's envelope and decode the payload inside it; a reply without
`success` is the payload. -/
def decode (fromValue : FromValue T) (path : String) (value : Json) : Except Error T :=
  match value with
  | .obj fields =>
    if (Json.field "success" fields).isNone then (fromValue value).mapError (.decode path)
    else
      match envelopeFromFields texts fromValue fields with
      | .error message => .error (.decode path message)
      | .ok envelope => envelope.unwrap path
  | _ => (fromValue value).mapError (.decode path)

end Reading

/-! ## Refusals -/

/-- A reply that refuses, and says why. -/
structure Refuses (value : Json) (reason : String) : Prop where
  success : get "success" value = some (.bool false)
  error : get "error" value = some (.str reason)

section Refusals

variable (texts : SerdeTexts) {T : Type} (fromValue : FromValue T)

/-- The refusal is what the caller is told. -/
def RefusalReaches (value : Json) (reason : String) : Prop :=
  ∀ path, decode texts fromValue path value = .error (.transport path reason)

/-- What comes along under `data` is nothing, or a payload. -/
def CarriesPayload (value : Json) : Prop :=
  ∀ data, get "data" value = some data → data = .null ∨ ∃ payload, fromValue data = .ok payload

variable {value : Json} {reason : String}

theorem fromOption_ok_iff {data : Json} :
    (∃ payload, fromOption fromValue data = .ok payload) ↔
      data = .null ∨ ∃ payload, fromValue data = .ok payload := by
  by_cases hnull : data = .null
  · rw [hnull]
    exact iff_of_true ⟨none, rfl⟩ (.inl rfl)
  · have hread : fromOption fromValue data = (fromValue data).map some := by
      cases data with
      | null => exact absurd rfl hnull
      | _ => rfl
    rw [hread]
    cases hvalue : fromValue data with
    | error message => simp [Except.map, hnull]
    | ok payload => simp [Except.map]

/-- `data` is read where it is nothing or a payload. -/
theorem defaulted_data_iff {fields : List (String × Json)} :
    (∃ data, defaulted "data" none (fromOption fromValue) fields = .ok data) ↔
      CarriesPayload fromValue (.obj fields) := by
  unfold defaulted CarriesPayload
  simp only [SchemaWalk.get]
  cases hdata : Json.field "data" fields with
  | none => simp
  | some data => simp [fromOption_ok_iff]

/-- A refusal whose data can be read is told; any other is hidden behind the data. -/
theorem decode_of_refuses (h : Refuses value reason) (path : String) :
    (CarriesPayload fromValue value →
      decode texts fromValue path value = .error (.transport path reason)) ∧
    (¬ CarriesPayload fromValue value →
      ∃ message, decode texts fromValue path value = .error (.decode path message)) := by
  obtain ⟨hsuccess, herror⟩ := h
  cases value with
  | obj fields =>
    simp only [SchemaWalk.get] at hsuccess herror
    have hverdict : defaulted "success" false (fromBool texts) fields = .ok false := by
      rw [defaulted, hsuccess]
      rfl
    have hreason : defaulted "error" none (fromOption (fromString texts)) fields =
        .ok (some reason) := by
      rw [defaulted, herror]
      rfl
    have hwrapped : (Json.field "success" fields).isNone = false := by rw [hsuccess]; rfl
    rw [← defaulted_data_iff]
    cases hdata : defaulted "data" none (fromOption fromValue) fields with
    | error message =>
      refine ⟨?_, fun _ => ⟨message, ?_⟩⟩
      · rintro ⟨data, hread⟩
        cases hread
      simp only [decode, hwrapped, envelopeFromFields, hdata, bind, Except.bind]
      rfl
    | ok data =>
      refine ⟨fun _ => ?_, fun hnone => absurd ⟨data, rfl⟩ hnone⟩
      simp only [decode, hwrapped, envelopeFromFields, hdata, hreason, hverdict, bind, Except.bind,
        pure, Except.pure]
      rfl
  | _ => cases hsuccess

/-- A refusal reaches the caller exactly where nothing that is no payload comes along. -/
theorem refusalReaches_iff (h : Refuses value reason) :
    RefusalReaches texts fromValue value reason ↔ CarriesPayload fromValue value := by
  constructor
  · intro hreaches
    by_contra hnone
    obtain ⟨message, hmessage⟩ := (decode_of_refuses texts fromValue h "").2 hnone
    cases (hreaches "").symm.trans hmessage
  · exact fun hcarries path => (decode_of_refuses texts fromValue h path).1 hcarries

end Refusals

/-- serde's texts, as far as an example needs them. -/
def plainTexts : SerdeTexts where
  invalidType _ expected := "invalid type, expected " ++ expected
  missingField key := "missing field `" ++ key ++ "`"
  invalidLength n expected := "invalid length " ++ toString n ++ ", expected " ++ expected

/-- A refused authorize that comes with a blank handoff. -/
def refusedHandoff : Json :=
  .obj [("data", .obj [("connectUrl", .str ""), ("connectionId", .str ""), ("notice", .null)]),
    ("error", .str "notion is not enabled"), ("success", .bool false)]

/-- What comes along can be read, so the refusal is told. -/
theorem refusalReaches_notion :
    RefusalReaches plainTexts (authorizeFromValue plainTexts) refusedHandoff
      "notion is not enabled" := by
  refine (refusalReaches_iff plainTexts (authorizeFromValue plainTexts) ⟨rfl, rfl⟩).mpr ?_
  intro data hdata
  cases hdata
  exact Or.inr ⟨⟨"", ""⟩, rfl⟩

/-- A refusal with an empty object for data: the caller of an authorize is told that a field
is missing. -/
theorem not_refusalReaches_link :
    Refuses (.obj [("data", .obj []), ("error", .str "notion is not enabled"),
        ("success", .bool false)]) "notion is not enabled" ∧
      ¬ RefusalReaches plainTexts (authorizeFromValue plainTexts)
        (.obj [("data", .obj []), ("error", .str "notion is not enabled"),
          ("success", .bool false)])
        "notion is not enabled" := by
  refine ⟨⟨rfl, rfl⟩, fun hreaches => ?_⟩
  have hread : decode plainTexts (authorizeFromValue plainTexts) ""
      (.obj [("data", .obj []), ("error", .str "notion is not enabled"),
        ("success", .bool false)]) =
      .error (.decode "" "missing field `connectUrl`") := rfl
  cases (hreaches "").symm.trans hread

end Proxy
