import Cohort.Sql.Rendering
import Cohort.Users.Search

/-!
# Storages of users

A storage answers searches and creates segments. It works on a session: the catalog and two engines, one with the
table of users and one with the events, each of which records the statements it is given. A search sends one
statement at most, to the engine that can answer it.
-/

namespace Cohort

/-- A statement in the schema of a project, or in none. -/
structure Statement where
  project : Option String
  text : String
  deriving DecidableEq, Inhabited, Repr

/-- An engine that always answers in the same way, and the statements that it has been given. -/
structure Engine where
  answer : Except String Rows
  statements : List Statement

namespace Engine

instance : Inhabited Engine := ⟨⟨.ok .empty, []⟩⟩

def record (e : Engine) (s : Statement) : Engine := { e with statements := e.statements ++ [s] }

end Engine

/-- The two engines. -/
inductive Target
  | events | users
  deriving DecidableEq, Inhabited, Repr

structure Session where
  catalog : Catalog
  events : Engine
  users : Engine

/-- An operation on a session that may find an error, and keeps what it did before. -/
abbrev SessionM := ExceptT QueryError (StateM Session)

namespace Session

def engine (s : Session) : Target → Engine
  | .events => s.events
  | .users => s.users

def record (s : Session) (target : Target) (statement : Statement) : Session :=
  match target with
  | .events => { s with events := s.events.record statement }
  | .users => { s with users := s.users.record statement }

/-- Sends a statement to an engine and returns its answer. -/
def execute (target : Target) (statement : Statement) : SessionM Rows := do
  modify (·.record target statement)
  match ((← get).engine target).answer with
  | .ok rows => return rows
  | .error reason => throw (.execution reason)

/-- What does not touch the session. -/
def lift {α : Type} (r : Except QueryError α) : SessionM α :=
  match r with
  | .ok a => return a
  | .error e => throw e

/-- An operation on the catalog of the session. -/
def onCatalog {α : Type} (act : CatalogM α) : SessionM α := do
  let s ← get
  let (r, catalog) := act s.catalog
  set { s with catalog }
  match r with
  | .ok a => return a
  | .error e => throw (.catalog e)

end Session

namespace StorageSettings

open Session

/-- Creates the schema that the table of users is in. -/
def createSchema : SessionM Unit := do
  modify (·.record .users ⟨none, "CREATE SCHEMA IF NOT EXISTS users"⟩)
  match (← get).users.answer with
  | .ok _ => return ()
  | .error reason =>
    throw (.initialization ("unable to create schema for users: " ++ (QueryError.execution reason).message))

/-- Checks the settings and prepares the engines for them. -/
def prepare (s : StorageSettings) : SessionM Unit := do
  lift (s.validate.mapError .request)
  match s.kind with
  | .attributes => return ()
  | .events => createSchema

/-- A search with a predicate over attributes, and event filters as further conditions. -/
def searchAttributes (s : StorageSettings) (project : String) (r : SearchRequest) : SessionM Rows := do
  let c := (← get).catalog
  let withEvents := !r.eventFilters.isEmpty
  let conditions ← lift (Search.eventConditions s.userMapping c project r.eventFilters)
  let table ← lift (Search.userTable (if withEvents then some s.userConnector else none) project)
  let q ← lift (Search.attributeQuery table r conditions)
  execute (if withEvents then .events else .users) ⟨some project, (Sql.Query.select q).text⟩

/-- A search by a storage that knows events. -/
def searchEvents (s : StorageSettings) (project : String) (r : SearchRequest) : SessionM Rows := do
  if r.filter.isSome then s.searchAttributes project r
  else
    match ← lift (Search.eventQuery s (← get).catalog project r) with
    | none => return .empty
    | some q => execute .events ⟨some project, (Sql.Query.select q).text⟩

/-- A search by a storage that knows the table of users only. -/
def searchTable (project : String) (r : SearchRequest) : SessionM Rows := do
  if !r.eventFilters.isEmpty then
    throw (.badRequest "event filters are not supported by this user storage")
  let table ← lift (Search.userTable none project)
  let q ← lift (Search.attributeQuery table r [])
  execute .users ⟨some project, (Sql.Query.select q).text⟩

/-- Searches for users. -/
def search (s : StorageSettings) (project : String) (r : SearchRequest) : SessionM Rows :=
  match s.kind with
  | .attributes => searchTable project r
  | .events => s.searchEvents project r

/-- The view that holds the users of a segment. -/
def segmentView (r : SegmentRequest) (q : Sql.Select) : View :=
  { tableName := r.tableName
    name := r.name
    description := some ("Users who did " ++ r.tableName ++ " event")
    query := (Sql.Query.select q).text
    updateInterval := r.interval
    incremental := false
    options := .empty }

/-- Keeps a segment as a view. -/
def createSegment (s : StorageSettings) (project : String) (r : SegmentRequest) : SessionM Unit :=
  match s.kind with
  | .attributes => throw (.badRequest "segments are not supported by this user storage")
  | .events => do
    let _ ← lift ((checkCollection r.tableName).mapError .request)
    let q ← lift (Search.segmentQuery s (← get).catalog project r)
    onCatalog (Catalog.createView project (segmentView r q))

end StorageSettings

end Cohort
