import Cohort.Time.Span

/-!
# Materialized views

A recurring query whose result is kept as a table.
-/

namespace Cohort

structure View where
  tableName : String
  name : String
  description : Option String
  query : String
  updateInterval : Option Span
  incremental : Bool
  options : Keyed Json

namespace View

def toJson (v : View) : Json :=
  .object
    [("table_name", .string v.tableName), ("name", .string v.name),
      ("description", Json.ofOption .string v.description), ("query", .string v.query),
      ("update_interval", Json.ofOption Span.toJson v.updateInterval), ("incremental", .bool v.incremental),
      ("options", .object v.options.entries)]

/-- Options are any values, with unique, sorted names at every level. -/
def ofJson? (j : Json) : Option View := do
  let r ← j.asRecord?
    ["table_name", "name", "description", "query", "update_interval", "incremental", "options"]
  some
    { tableName := ← r.required 0 "table_name" Json.asString?
      name := ← r.required 1 "name" Json.asString?
      description := ← r.optional 2 "description" Json.asString?
      query := ← r.required 3 "query" Json.asString?
      updateInterval := ← r.optional 4 "update_interval" Span.ofJson?
      incremental := ← r.required 5 "incremental" Json.asBool?
      options := ← r.required 6 "options" (Json.asMap? fun j => some j.canonical) }

end View

end Cohort
