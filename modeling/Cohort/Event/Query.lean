import Cohort.Catalog.Basic
import Cohort.Event.Filter
import Cohort.Sql.Filter

/-!
# Queries of event filters

An event filter becomes one selection with a row for each identified user it stands for. With user mapping, on a
collection that records devices, events without a user count for the user that the mapping names for their device.
-/

namespace Cohort

open Sql

/-- The column of the events that carries the user. -/
def userField : String := BuiltIn.user.text

/-- The column of the events that carries the device. -/
def deviceField : String := BuiltIn.deviceId.text

/-- A built-in column of the events. -/
def eventColumn (name : BuiltIn) : Term := .column (some (.builtIn .collection)) (.builtIn name)

/-- A built-in column of the mapping. -/
def mappingColumn (name : BuiltIn) : Term := .column (some (.builtIn .mapping)) (.builtIn name)

namespace EventFilter

/-- The user of an event, with mapping or without. -/
def userItem (mapped : Bool) : Item :=
  if mapped then
    ⟨.coalesce [mappingColumn .user, eventColumn .user, eventColumn .deviceId], some (.builtIn .user)⟩
  else ⟨eventColumn .user, none⟩

/-- The mapping of devices to users, for events without a user. -/
def mappingJoin : Join :=
  { relation := .table [.builtIn .anonymousIds] (some (.builtIn .mapping))
    condition :=
      .binary (.isNull (eventColumn .user)) .and (.binary (mappingColumn .id) .eq (eventColumn .deviceId)) }

/-- The conditions that keep events within the timeframe. -/
def timeConditions (t : Timeframe) : List Term :=
  (t.start.map fun s => Term.binary (eventColumn .time) .gt (.timestamp s)).toList ++
    (t.stop.map fun s => Term.binary (eventColumn .time) .lt (.timestamp s)).toList

/-- The columns that events are grouped by. -/
def groupTerms (mapped : Bool) : List Term :=
  if mapped then [mappingColumn .user, eventColumn .user, eventColumn .deviceId] else [eventColumn .user]

/-- What an aggregation is over. -/
def aggregated (a : Aggregation) : Except QueryError Term :=
  if a.isOfUser then .ok (eventColumn .user)
  else
    match a.field with
    | none => .error (.badRequest ("aggregation " ++ a.function.capitals ++ " requires a field"))
    | some field =>
      ((Identifier.check "aggregation field" field).mapError .request).map (.column (some (.builtIn .collection)))

/-- The bounds of an aggregation. -/
def boundConditions (a : Aggregation) : Except QueryError (List Term) := do
  let value := Term.aggregate a.function (← aggregated a)
  return (a.minimum.map fun n => Term.binary value .gtEq (.literal (.integer n))).toList ++
    (a.maximum.map fun n => Term.binary value .lt (.literal (.integer n))).toList

/-- The clauses that every event filter has. -/
def baseClauses (mapped : Bool) (table : List Identifier) : List Clause :=
  [.projection (userItem mapped), .source (.table table (some (.builtIn .collection)))] ++
    (if mapped then [.join mappingJoin] else []) ++ [.condition (.isNotNull (eventColumn .user))]

/-- The query over the events in the table. -/
def select (mapped : Bool) (table : List Identifier) (f : EventFilter) : Except QueryError Select := do
  let filter ← match f.filter with
    | none => pure []
    | some p => do pure [Clause.condition (← Term.ofPredicate p)]
  let times := match f.timeframe with
    | none => []
    | some t => (timeConditions t).map Clause.condition
  let bounds ← match f.aggregation with
    | none => pure []
    | some a => do pure ((groupTerms mapped).map Clause.group ++ (← boundConditions a).map Clause.groupCondition)
  return Select.ofClauses (baseClauses mapped table ++ filter ++ times ++ bounds)

/-- Whether users are mapped: if that is wanted, and the collection records devices. -/
def isMapped (mapping : Bool) (c : Catalog) (project : String) (f : EventFilter) : Bool :=
  mapping && hasField (c.fieldsOf project f.collection) deviceField

/-- The query over the events of the collection itself. -/
def query (mapping : Bool) (c : Catalog) (project : String) (f : EventFilter) : Except QueryError Select := do
  let table ← (Identifier.check "collection" f.collection).mapError .request
  f.select (f.isMapped mapping c project) [table]

/-- The query over the events of the collection as a table of the project. -/
def queryInProject (mapping : Bool) (c : Catalog) (project : String) (f : EventFilter) :
    Except QueryError Select := do
  let schema ← (Identifier.check "project" project).mapError .request
  let table ← (Identifier.check "collection" f.collection).mapError .request
  f.select (f.isMapped mapping c project) [schema, table]

end EventFilter

end Cohort
