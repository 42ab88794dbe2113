/-
# Preparing arguments twice

`tinybus_module/processing.rs`: `PrepareArguments` runs three passes over a
caller's arguments, the calendar defaults, the recency window and the rules of
the single actions, and `Execute` runs the last of them once more.
-/
import TinyConnectors.Execute.CalendarDate
import TinyConnectors.Execute.Classify
import TinyConnectors.Execute.TaskWindow
import TinyConnectors.JsonText
import TinyConnectors.Prepare

namespace Execute

open RustStr

/-! ## The calendar defaults -/

/-- Actions whose arguments accept `timeZone` and `singleEvents`. -/
def TZ_DEFAULTING_SLUGS : List String := ["GOOGLECALENDAR_EVENTS_LIST", "GOOGLECALENDAR_FIND_EVENT"]

def calendarDefaults (iana : String) : List (String × Json) :=
  [("timeZone", .str iana), ("singleEvents", .bool true)]

/-- Insert the calendar defaults where the caller left them out. -/
def applyCalendarQueryDefaults (tool : String) (arguments : Option Json) (iana : String) :
    Option Json :=
  if tool ∉ TZ_DEFAULTING_SLUGS then arguments
  else
    match arguments.getD (.obj []) with
    | .obj fields => some (.obj (orInsertAll (calendarDefaults iana) fields))
    | other => some other

/-! ## `prepare` -/

structure ProviderError where
  errorClass : String
  message : String

structure PrepareArgumentsRequest where
  tool : String
  arguments : Option Json
  timezone : Option String
  since : Option String

structure PreparedArguments where
  arguments : Option Json
  error : Option ProviderError

def classified (tool message : String) : ProviderError where
  errorClass := (classifyComposioError tool message).asStr
  message := formatProviderError tool message

variable (chrono : Chrono) (fmt : Json.FloatFormat)

/-- The text of `Error::InvalidArguments`. -/
def invalidText (error : InvalidArguments) : String :=
  let message := match error.message with
    | .notAnObject got =>
      "arguments must be a JSON object, got " ++ String.ofList (Json.print fmt got)
    | .rule message => message
  s!"invalid arguments for `{error.tool}`: {message}"

/-- The answer for what the rules made of the arguments. -/
def answerFor (tool : String) : Except InvalidArguments Json → PreparedArguments
  | .ok arguments => ⟨some arguments, none⟩
  | .error error => ⟨none, some (classified tool (invalidText fmt error))⟩

def prepare (request : PrepareArgumentsRequest) : PreparedArguments :=
  let arguments := match request.timezone with
    | some zone => applyCalendarQueryDefaults request.tool request.arguments zone
    | none => request.arguments
  match request.since with
  | none => answerFor fmt request.tool (prepareExecuteArguments request.tool arguments)
  | some since =>
    match chrono.parseFromRfc3339 since with
    | none => ⟨none, some ⟨"validation", "invalid recency boundary; expected RFC3339"⟩⟩
    | some since =>
      answerFor fmt request.tool (prepareExecuteArguments request.tool
        (applyWindowArgs chrono request.tool arguments since))

/-! ## What is to be shown -/

/-- The arguments object of a caller, as `serde_json::Map` keeps it. -/
structure ArgumentObject where
  fields : List (String × Json)
  ordered : Json.Ordered fields

/-- A request whose arguments are an object, or absent. -/
structure ObjectRequest where
  tool : String
  arguments : Option ArgumentObject
  timezone : Option String
  since : Option String

namespace ObjectRequest

/-- The request with some arguments in place of the caller's. -/
def withArguments (request : ObjectRequest) (arguments : Option Json) :
    PrepareArgumentsRequest where
  tool := request.tool
  arguments := arguments
  timezone := request.timezone
  since := request.since

/-- The request as it is made. -/
def made (request : ObjectRequest) : PrepareArgumentsRequest :=
  request.withArguments (request.arguments.map fun arguments => .obj arguments.fields)

end ObjectRequest

/-- The normalised form of a bare date, whose numbers may have a sign, or of a padded
timestamp. -/
def NormalForm (given normal : String) : Prop :=
  ((IsDate (trim given) ∨ SignedDate (trim given)) ∧ normal = trim given ++ "T00:00:00Z") ∨
    (trim given ≠ given ∧ contains (trim given) "T" = true ∧ normal = trim given)

/-- What may have become of an argument of the caller's. -/
inductive Kept (tool : String) (output : List (String × Json)) : String → Json → Prop where
  | same {key : String} {value : Json} (h : Json.field key output = some value) :
      Kept tool output key value
  | bound {key given normal : String} (hcalendar : startsWith (trim tool) "GOOGLECALENDAR_" = true)
      (hkey : key ∈ TIME_BOUNDS) (hform : NormalForm given normal)
      (h : Json.field key output = some (.str normal)) : Kept tool output key (.str given)
  | fetchType {value : Json} {filled : String} (hnotion : trim tool = "NOTION_FETCH_DATA")
      (hblank : nonBlank (some value) = none) (hfilled : trim filled ≠ "")
      (h : Json.field "fetch_type" output = some (.str filled)) :
      Kept tool output "fetch_type" value

/-- What the calendar pass supplies. -/
def zoneDefaults (tool : String) : Option String → List (String × Json)
  | some zone => if tool ∈ TZ_DEFAULTING_SLUGS then calendarDefaults zone else []
  | none => []

/-- The arguments the rules see. -/
def defaulted (tool : String) (timezone : Option String) (window fields : List (String × Json)) :
    List (String × Json) :=
  orInsertAll window (orInsertAll (zoneDefaults tool timezone) fields)

theorem Kept.containsKey {tool key : String} {output : List (String × Json)} {value : Json}
    (h : Kept tool output key value) : Json.containsKey key output = true := by
  cases h with
  | same h => exact containsKey_of_field h
  | bound _ _ _ h => exact containsKey_of_field h
  | fetchType _ _ _ h => exact containsKey_of_field h

section Requests

variable {chrono fmt} {request : ObjectRequest} {prepared : Json}

end Requests

end Execute
