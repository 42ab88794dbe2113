/-
# Values in a request URL

`client/route/url.rs`: how a value that came over the bus becomes a path segment
or a query value.
-/
import TinyConnectors.Json
import TinyConnectors.PercentEncoding
import TinyConnectors.RustStr

open RustStr

namespace Direct

/-- The connector crate's `Error`, as far as the direct route raises or reads it. -/
inductive Error where
  | transport (path message : String)
  | decode (path message : String)
  | invalidArguments (tool message : String)
  | unsupportedByRoute (route member : String)
  | connectionNotOwned (connectionId : String)
  | triggerNotOwned (triggerId : String)
  | listingIncomplete (path : String) (limit : ℕ)
  | directAuthGated (message : String)
  deriving DecidableEq

/-- The text each error is rendered with. -/
def Error.text : Error → String
  | transport path message => s!"request to {path} failed: {message}"
  | decode path message => s!"response from {path} did not match the contract: {message}"
  | invalidArguments tool message => s!"invalid arguments for `{tool}`: {message}"
  | unsupportedByRoute route member => s!"{member} is not available over the {route} route"
  | connectionNotOwned connectionId => s!"connection {connectionId} belongs to another user"
  | triggerNotOwned triggerId => s!"trigger {triggerId} is not a subscription of this user"
  | listingIncomplete path limit =>
      s!"listing {path} has more pages than the {limit} this route follows"
  | directAuthGated message => message

/-! ## Percent-encoding -/

/-- The complement of `UNRESERVED_KEPT`: letters, digits and `-._~`. -/
def isKept (b : UInt8) : Bool :=
  let c := Char.ofNat b.toNat
  b.toNat < 128 && (c.isAlphanum || c = '-' || c = '.' || c = '_' || c = '~')

/-- Encode one value for use in a path segment or query value: `utf8_percent_encode`. -/
def encode (value : String) : String :=
  String.ofList (PercentEncoding.encode isKept (asBytes (trim value)))

/-- Encode one value that becomes a whole path segment. -/
def segment (value what : String) : Except Error String :=
  let trimmed := trim value
  if trimmed.toList.all fun c => c = '.' then
    .error (.invalidArguments what ("`" ++ trimmed ++ "` is not a valid path segment"))
  else
    .ok (encode trimmed)

theorem encode_trim (value : String) : encode (trim value) = encode value := by
  rw [encode, encode, trim_trim]

/-- A segment that is not refused is the value, encoded. -/
theorem eq_encode_of_segment {value what named : String} (h : segment value what = .ok named) :
    named = encode value := by
  rw [segment] at h
  split_ifs at h
  rw [Except.ok.injEq] at h
  rw [← h, encode_trim]

/-- Join non-empty, trimmed, encoded values for a comma-separated parameter. -/
def commaJoined (values : List String) : Option String :=
  let joined := String.intercalate ","
    (((values.map trim).filter fun value => value ≠ "").map encode)
  if joined = "" then none else some joined

example : encode " a/b " = "a%2Fb" := by decide +kernel

example : segment ".." "x" = .error (.invalidArguments "x" "`..` is not a valid path segment") := by
  decide +kernel

end Direct
