/-
# The recency window of a task fetch

`execute/task_window.rs`: which actions fetch tasks, where their replies keep
the rows and the timestamps, and the argument that narrows the fetch at the
provider.  Instants are chrono's.
-/
import TinyConnectors.Json

namespace Execute

/-- What the module takes from chrono: reading and writing RFC 3339 instants. -/
structure Chrono where
  DateTime : Type
  /-- `DateTime::parse_from_rfc3339`, in UTC. -/
  parseFromRfc3339 : String → Option DateTime
  /-- `to_rfc3339`. -/
  toRfc3339 : DateTime → String

/-- How a provider encodes a task timestamp. -/
inductive TsFormat where
  | Iso8601
  /-- Unix epoch milliseconds, as a string or a number. -/
  | EpochMillis
  deriving DecidableEq

/-- What is known of a task fetch. -/
structure TaskWindowSpec where
  /-- Where the rows are; the first path that leads to an array counts. -/
  itemsPaths : List (List String)
  /-- Timestamp fields of a row, possibly dotted. -/
  tsFields : List (String × TsFormat)
  /-- A static ordering argument. -/
  orderArg : Option (String × String)

/-- Some fields in one format. -/
def fieldsIn (format : TsFormat) (fields : List String) : List (String × TsFormat) :=
  fields.map fun field => (field, format)

/-- The verified task fetches. -/
def specFor (slug : String) : Option TaskWindowSpec :=
  if slug = "LINEAR_LIST_LINEAR_ISSUES" ∨ slug = "LINEAR_SEARCH_ISSUES" then
    some {
      itemsPaths := [["data", "issues", "nodes"], ["data", "data", "nodes"], ["data", "nodes"],
        ["nodes"], ["issues", "nodes"], ["data", "results"], ["results"], ["data", "issues"],
        ["issues"]]
      tsFields := fieldsIn .Iso8601 ["updatedAt", "data.updatedAt", "updated_at", "data.updated_at"]
      orderArg := some ("orderBy", "updatedAt") }
  else if slug = "CLICKUP_GET_FILTERED_TEAM_TASKS" ∨ slug = "CLICKUP_GET_TASKS" then
    some {
      itemsPaths := [["data", "tasks"], ["tasks"], ["data", "data", "tasks"], ["data", "results"],
        ["results"]]
      tsFields := fieldsIn .EpochMillis
        ["date_updated", "data.date_updated", "dateUpdated", "data.dateUpdated"]
      orderArg := some ("order_by", "updated") }
  else if slug = "NOTION_QUERY_DATABASE_WITH_FILTER" then
    some {
      itemsPaths := [["results"], ["data", "results"], ["data", "data", "results"]]
      tsFields := fieldsIn .Iso8601
        ["last_edited_time", "created_time", "data.last_edited_time", "data.created_time"]
      orderArg := none }
  else if slug = "ASANA_GET_MULTIPLE_TASKS" then
    some {
      itemsPaths := [["data", "data"], ["data"]]
      tsFields := fieldsIn .Iso8601
        ["modified_at", "created_at", "data.modified_at", "data.created_at"]
      orderArg := none }
  else if slug = "TODOIST_GET_ALL_TASKS" then
    some {
      itemsPaths := [["tasks"], ["data", "tasks"], ["results"], ["data", "results"], ["data"], []]
      tsFields := fieldsIn .Iso8601
        ["added_at", "updated_at", "created_at", "data.added_at", "data.updated_at",
          "data.created_at"]
      orderArg := none }
  else none

/-- The arguments an action is narrowed with where the caller has none. -/
def windowArgs (spec : TaskWindowSpec) (slug modifiedSince : String) : List (String × Json) :=
  (match spec.orderArg with
    | some (key, value) => [(key, .str value)]
    | none => []) ++
  if slug = "ASANA_GET_MULTIPLE_TASKS" then [("modified_since", .str modifiedSince)] else []

/-- `entry(key).or_insert(value)`, one after the other. -/
def orInsertAll (entries fields : List (String × Json)) : List (String × Json) :=
  entries.foldl (fun fields entry => Json.orInsert entry.1 entry.2 fields) fields

/-- Inject narrowing arguments for a task fetch; what the caller supplied wins. -/
def applyWindowArgs (chrono : Chrono) (slug : String) (arguments : Option Json)
    (since : chrono.DateTime) : Option Json :=
  match specFor slug with
  | none => arguments
  | some spec =>
    match arguments.getD (.obj []) with
    | .obj fields =>
        some (.obj (orInsertAll (windowArgs spec slug (chrono.toRfc3339 since)) fields))
    | other => some other

section Defaults

variable {entries fields : List (String × Json)}

theorem containsKey_of_field {key : String} {found : Json}
    (h : Json.field key fields = some found) :
    Json.containsKey key fields = true := by
  rw [Json.containsKey, h, Option.isSome_some]

theorem Ordered.orInsertAll (h : Json.Ordered fields) :
    Json.Ordered (orInsertAll entries fields) := by
  induction entries generalizing fields with
  | nil => exact h
  | cons entry entries ih => exact ih (h.orInsert entry.1 entry.2)

end Defaults

end Execute
