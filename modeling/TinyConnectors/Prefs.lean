/-
# The stored scope preference

`tinyconnectors-sync/src/prefs/`: a preference is one JSON row per toolkit.
Only a missing row is the default; a row that does not decode is an error, so
an unreadable choice never turns into permission.
-/
import TinyConnectors.Json
import TinyConnectors.Scope

open RustStr

/-- Why `serde_json::from_value::<UserScopePref>` refuses a row. -/
inductive DecodeFault where
  /-- `invalid type: …, expected …`. -/
  | invalidType (got : Json) (expected : String)
  /-- `invalid length …, expected fewer elements in array`. -/
  | invalidLength (length : ℕ)
  deriving DecidableEq

/-- The errors of `tinyconnectors_sync` a preference read can end in. -/
inductive SyncError where
  /-- `preference store failed for {key}: {message}`. -/
  | store (key message : String)
  /-- `stored value for {key} did not match its shape: {message}`. -/
  | decode (key : String) (fault : DecodeFault)
  deriving DecidableEq

/-- The host's preference store, as one check sees it: the row under each key. -/
structure PrefsStore where
  get : String → Except SyncError (Option Json)

/-- A store that holds exactly the given rows. -/
def PrefsStore.ofRows (rows : List (String × Json)) : PrefsStore where
  get key := .ok (rows.lookup key)

namespace UserScopePref

/-! ## The JSON shape of a preference -/

/-- One flag: absent means its default, anything but a boolean is an error. -/
def flag (dflt : Bool) : Option Json → Except DecodeFault Bool
  | none => .ok dflt
  | some (.bool b) => .ok b
  | some other => .error (.invalidType other "a boolean")

/-- `serde_json::from_value`.  The derived visitor takes the flags by name from
an object, in the object's key order, and by position from an array. -/
def fromValue : Json → Except DecodeFault UserScopePref
  | .obj fields => do
    let admin ← flag false (Json.field "admin" fields)
    let read ← flag true (Json.field "read" fields)
    let write ← flag true (Json.field "write" fields)
    return { read, write, admin }
  | .arr items => do
    let read ← flag true items[0]?
    let write ← flag true items[1]?
    let admin ← flag false items[2]?
    if items.length ≤ 3 then return { read, write, admin }
    else .error (.invalidLength items.length)
  | other => .error (.invalidType other "struct UserScopePref")

/-- The row `save` writes. -/
def toValue (pref : UserScopePref) : Json :=
  .obj [("admin", .bool pref.admin), ("read", .bool pref.read), ("write", .bool pref.write)]

/-- What is saved reads back as itself. -/
theorem fromValue_toValue (pref : UserScopePref) : fromValue pref.toValue = .ok pref := rfl

/-! ## Loading -/

/-- The preference stored for `toolkit`, or the default if none is. -/
def load (store : PrefsStore) (toolkit : String) : Except SyncError UserScopePref :=
  match store.get (key toolkit) with
  | .error error => .error error
  | .ok none => .ok default
  | .ok (some value) =>
    match fromValue value with
    | .ok pref => .ok pref
    | .error fault => .error (.decode (key toolkit) fault)

end UserScopePref
