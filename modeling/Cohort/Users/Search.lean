import Cohort.Event.Query
import Cohort.Users.Request

/-!
# Queries about users

A search by attributes reads the table of users; event filters become conditions on it. A search by events alone, and
a segment, collect the distinct users of some queries over events, one branch for each.
-/

namespace Cohort

open Sql

/-- Which storage answers: one that knows the table of users only, or one that knows events too. -/
inductive StorageKind
  | attributes | events
  deriving DecidableEq, Inhabited, Repr

structure StorageSettings where
  kind : StorageKind
  /-- The column that a search by events returns. -/
  identifierColumn : String
  userMapping : Bool
  /-- Where the engine of the events finds the table of users. -/
  userConnector : String
  deriving DecidableEq, Repr

namespace StorageSettings

def default : StorageSettings := ⟨.events, "id", false, "user"⟩

instance : Inhabited StorageSettings := ⟨default⟩

/-- Checks the names in the settings. -/
def validate (s : StorageSettings) : Except RequestError Unit := do
  let _ ← checkName "identifier column" s.identifierColumn
  let _ ← checkName "user connector" s.userConnector

end StorageSettings

namespace Search

/-- The identifier of a name from outside, as an error of queries if it is none. -/
def identifier (kind name : String) : Except QueryError Identifier := (Identifier.check kind name).mapError .request

/-- Sorting, limit and offset; an offset of zero is left out. -/
def pageClauses (r : SearchRequest) : Except QueryError (List Clause) := do
  let order ← match r.sorting with
    | none => pure []
    | some s => do pure [Clause.order ⟨.column none (← identifier "sort column" s.column), s.direction⟩]
  return order ++ [.limit r.limit] ++ ((r.offset.filter (0 < ·)).map Clause.offset).toList

/-- The table of users of a project, which another engine finds under a connector. -/
def userTable (connector : Option String) (project : String) : Except QueryError (List Identifier) := do
  let front ← match connector with
    | none => pure []
    | some c => do pure [← identifier "user connector" c]
  return front ++ [.builtIn .users, ← identifier "project" project]

/-- The attributes to return. -/
def columnClauses : List String → Except QueryError (List Clause)
  | [] => .ok []
  | c :: cs => do
    let i ← identifier "column" c
    let clauses ← columnClauses cs
    return .projection ⟨.column none i, none⟩ :: clauses

/-- A search in the table of users under further conditions. -/
def attributeQuery (table : List Identifier) (r : SearchRequest) (conditions : List Term) :
    Except QueryError Select := do
  let columns ← columnClauses r.columns
  let filter ← match r.filter with
    | none => pure []
    | some p => do pure [Clause.condition (← Term.ofPredicate p)]
  let page ← pageClauses r
  return Select.ofClauses
    (columns ++ [.source (.table table none)] ++ filter ++ conditions.map Clause.condition ++ page)

/-- The users of each event filter, as a condition on the table of users. -/
def eventConditions (mapping : Bool) (c : Catalog) (project : String) :
    List EventFilter → Except QueryError (List Term)
  | [] => .ok []
  | f :: fs => do
    let q ← f.queryInProject mapping c project
    let ts ← eventConditions mapping c project fs
    return .inQuery (.column none (.builtIn .id)) (.select q) :: ts

/-- The query of each event filter. -/
def eventBranches (mapping : Bool) (c : Catalog) (project : String) :
    List EventFilter → Except QueryError (List Query)
  | [] => .ok []
  | f :: fs => do
    let q ← f.query mapping c project
    let qs ← eventBranches mapping c project fs
    return .select q :: qs

/-- The distinct users of some queries, under the given name. -/
def distinctUsers (branches : List Query) (label : Identifier) : Except QueryError Select := do
  let union ← Query.union branches
  return { Select.ofClauses
    [.projection ⟨.column none (.builtIn .user), some label⟩,
      .source (.subquery union (some (.builtIn .distinctUsers)))]
    with distinct := true }

/-- The collections of a project that have users, in the order of their names. -/
def userCollections (c : Catalog) (project : String) : List String :=
  ((c.collectionsOf project).entries.filter fun e => hasField e.2 userField).map Prod.fst

/-- The users of a collection. -/
def collectionBranch (collection : String) : Except QueryError Query := do
  let table ← identifier "collection" collection
  return .select (Select.ofClauses
    [.projection ⟨eventColumn .user, none⟩, .source (.table [table] (some (.builtIn .collection))),
      .condition (.isNotNull (eventColumn .user))])

/-- The users of each collection. -/
def collectionBranches : List String → Except QueryError (List Query)
  | [] => .ok []
  | c :: cs => do
    let q ← collectionBranch c
    let qs ← collectionBranches cs
    return q :: qs

/-- A search by events, or in all collections with users if no event filter is given; nothing if there are none. -/
def eventQuery (s : StorageSettings) (c : Catalog) (project : String) (r : SearchRequest) :
    Except QueryError (Option Select) := do
  let label ← identifier "identifier column" s.identifierColumn
  if r.eventFilters.isEmpty ∧ (userCollections c project).isEmpty then return none
  let branches ←
    if r.eventFilters.isEmpty then collectionBranches (userCollections c project)
    else eventBranches s.userMapping c project r.eventFilters
  let select ← distinctUsers branches label
  return some ((← pageClauses r).foldl Select.push select)

/-- The users of a segment. -/
def segmentQuery (s : StorageSettings) (c : Catalog) (project : String) (r : SegmentRequest) :
    Except QueryError Select := do
  if r.filter.isSome ∨ r.eventFilters.isEmpty then
    throw (.badRequest "user segment must have at least one event filter")
  let branches ← eventBranches s.userMapping c project r.eventFilters
  distinctUsers branches (.builtIn .id)

end Search

end Cohort
