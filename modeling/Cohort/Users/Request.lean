import Cohort.Event.Filter
import Cohort.Schema
import Cohort.Sorting
import Cohort.Time.Span

/-!
# Requests about users

A search asks for users, by a predicate over their attributes, by event filters, or by both; a segment keeps the
users of some event filters as a view. The answer of a search is a table of rows.
-/

namespace Cohort

structure SearchRequest where
  /-- The attributes to return, or none for all of them. -/
  columns : List String
  filter : Option Predicate
  eventFilters : List EventFilter
  sorting : Option Sorting
  limit : Nat
  offset : Option Nat
  deriving Inhabited, Repr

namespace SearchRequest

/-- How many users a search returns if it does not say. -/
def defaultLimit : Nat := 100

def toJson (r : SearchRequest) : Json :=
  .object
    [("columns", Json.ofList .string r.columns), ("filter", Json.ofOption Predicate.toJson r.filter),
      ("eventFilters", Json.ofList EventFilter.toJson r.eventFilters),
      ("sorting", Json.ofOption Sorting.toJson r.sorting), ("limit", .int r.limit),
      ("offset", Json.ofOption (fun n : Nat => .int n) r.offset)]

/-- Decodes a search, every part of which may be missing; `lists` is for its predicates. -/
def ofJson? (lists : Bool) (j : Json) : Option SearchRequest := do
  let r ← j.asRecord? ["columns", "filter", "eventFilters", "sorting", "limit", "offset"]
  some
    { columns := ← r.defaulted 0 "columns" [] (Json.asList? Json.asString?)
      filter := ← r.defaulted 1 "filter" none (Json.asOption? (Predicate.ofJson? lists))
      eventFilters := ← r.defaulted 2 "eventFilters" [] (Json.asList? (EventFilter.ofJson? lists))
      sorting := ← r.defaulted 3 "sorting" none (Json.asOption? Sorting.ofJson?)
      limit := ← r.defaulted 4 "limit" defaultLimit Json.asNat64?
      offset := ← r.defaulted 5 "offset" none (Json.asOption? Json.asNat64?) }

end SearchRequest

structure SegmentRequest where
  name : String
  tableName : String
  filter : Option Predicate
  eventFilters : List EventFilter
  /-- The time between two refreshes. -/
  interval : Option Span
  deriving Inhabited, Repr

namespace SegmentRequest

def toJson (r : SegmentRequest) : Json :=
  .object
    [("name", .string r.name), ("tableName", .string r.tableName),
      ("filter", Json.ofOption Predicate.toJson r.filter),
      ("eventFilters", Json.ofList EventFilter.toJson r.eventFilters),
      ("interval", Json.ofOption Span.toJson r.interval)]

/-- Decodes a segment; `lists` is for its predicates. -/
def ofJson? (lists : Bool) (j : Json) : Option SegmentRequest := do
  let r ← j.asRecord? ["name", "tableName", "filter", "eventFilters", "interval"]
  some
    { name := ← r.required 0 "name" Json.asString?
      tableName := ← r.required 1 "tableName" Json.asString?
      filter := ← r.defaulted 2 "filter" none (Json.asOption? (Predicate.ofJson? lists))
      eventFilters := ← r.defaulted 3 "eventFilters" [] (Json.asList? (EventFilter.ofJson? lists))
      interval := ← r.defaulted 4 "interval" none (Json.asOption? Span.ofJson?) }

end SegmentRequest

/-- What an engine returns: columns and, for each row, any values. -/
structure Rows where
  columns : List Field
  rows : List (List Json)
  deriving Inhabited

namespace Rows

def empty : Rows := ⟨[], []⟩

def isEmpty (t : Rows) : Bool := t.rows.isEmpty

def toJson (t : Rows) : Json :=
  .object [("columns", Json.ofList Field.toJson t.columns), ("rows", Json.ofList .array t.rows)]

def ofJson? (j : Json) : Option Rows := do
  let r ← j.asRecord? ["columns", "rows"]
  some
    { columns := ← r.required 0 "columns" (Json.asList? Field.ofJson?)
      rows := ← r.required 1 "rows" (Json.asList? (Json.asList? fun j => some j.canonical)) }

end Rows

end Cohort
