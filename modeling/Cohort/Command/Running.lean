import Cohort.Catalog.View
import Cohort.Command.Basic
import Cohort.Json.Printer
import Cohort.Settings.Reading
import Cohort.Settings.Seeding
import Cohort.Users.Storage

/-!
# Running commands

A command reads files and writes text, and sends no statement to any engine: it writes the statements instead, each
with the engine and the project it is for, and goes on as if the answer were empty. What has been written before an
error stays written.
-/

namespace Cohort

/-- Reads files by way of `m`, writes text, and may fail. -/
abbrev CommandT (m : Type → Type) := ExceptT CommandError (StateT String m)

/-- What a command has written, and the error that it ended with. -/
structure Report where
  output : String
  error : Option CommandError
  deriving DecidableEq, Inhabited, Repr

namespace Report

def exitCode (r : Report) : UInt8 := if r.error.isNone then 0 else 1

end Report

namespace Command

variable {m : Type → Type} [Monad m]

/-- Writes a line. -/
def say (line : String) : CommandT m Unit := modify (· ++ line ++ "\n")

def lift {α : Type} (r : Except CommandError α) : CommandT m α :=
  match r with
  | .ok a => return a
  | .error e => throw e

/-- The ending of the name of a file, after its last point. -/
def extension (path : String) : List Char :=
  let name := (path.toList.reverse.takeWhile (· != '/')).reverse
  if (name.drop 1).contains '.' then (name.reverse.takeWhile (· != '.')).reverse else []

/-- The text of a settings file. The ending may be left out. -/
def settingsText (readFile : String → m (Option String)) (path : String) : CommandT m String := do
  match ← readFile path with
  | some text => if extension path = "json".toList then return text else throw .settings
  | none =>
    match ← readFile (path ++ ".json") with
    | some text => return text
    | none => throw .settings

/-- The database of user agents in a file. -/
def readDatabase (readFile : String → m (Option String)) (path : String) : CommandT m AgentDatabase := do
  match ← readFile path with
  | some text => lift ((AgentDatabase.read text).mapError .event)
  | none => throw (.event .agentDatabase)

/-- The value that a file holds as JSON. -/
def readDocument {α : Type} (readFile : String → m (Option String)) (decode : Json → Option α) (path : String) :
    CommandT m α := do
  match ← readFile path with
  | none => throw .file
  | some text =>
    match (Json.read? Json.maxDepth text).bind decode with
    | some a => return a
    | none => throw .document

/-- A request from its file or, if it has none, from flags. -/
def request {α : Type} (readFile : String → m (Option String)) (decode : Json → Option α)
    (flags : Except CommandError α) : Option String → CommandT m α
  | none => lift flags
  | some path => readDocument readFile decode path

/-- A statement as it is written instead of being sent. -/
def statementText (engine : String) (s : Statement) : String :=
  "-- " ++ engine ++ (match s.project with
    | some project => " (" ++ project ++ ")"
    | none => "") ++ "\n" ++ s.text ++ ";"

/-- Runs an operation on a session whose engines send nothing, and writes the statements. -/
def dryRun {α : Type} (act : SessionM α) (c : Catalog) : CommandT m (α × Catalog) := do
  let (r, s) := act.run { catalog := c, events := default, users := default }
  for statement in s.users.statements do say (statementText "users" statement)
  for statement in s.events.statements do say (statementText "events" statement)
  match r with
  | .ok a => return (a, s.catalog)
  | .error e => throw (.query e)

/-- Checks the settings, fills the catalog and prepares the storage. -/
def prepare (readFile : String → m (Option String)) (s : Settings) : CommandT m Catalog := do
  let s ← lift s.validated
  let database ← match s.agentDatabase with
    | none => pure none
    | some path => do pure (some (← readDatabase readFile path))
  let c ← lift (s.catalog database)
  let (_, c) ← dryRun s.storage.prepare c
  return c

def sayJson (j : Json) : CommandT m Unit := say j.pretty

/-- Finds the view of a segment after it has been created. -/
def segmentView (c : Catalog) (project tableName : String) : Except CommandError View :=
  ((Catalog.view project tableName).run c).1.mapError .catalog

/-- The command under its settings. -/
def runUnder (readFile : String → m (Option String)) (s : Settings) : Command → CommandT m Unit
  | .search _ project flags file => do
    let _ ← lift ((checkProject project).mapError .request)
    let r ← request readFile (SearchRequest.ofJson? true) flags.request file
    let c ← prepare readFile s
    let (rows, _) ← dryRun (s.storage.search project r) c
    sayJson rows.toJson
  | .segment _ project flags file => do
    let _ ← lift ((checkProject project).mapError .request)
    let r ← request readFile (SegmentRequest.ofJson? true) flags.request file
    let c ← prepare readFile s
    let (_, c) ← dryRun (s.storage.createSegment project r) c
    sayJson (← lift (segmentView c project r.tableName)).toJson
  | .userAgent _ database agent => do
    match database.or s.agentDatabase with
    | none => throw (.badRequest "user agent database path is not set")
    | some path =>
      let d ← readDatabase readFile path
      sayJson (.object (Keyed.ofList (d.resolve agent) |>.map PropertyValue.toJson).entries)

def run (readFile : String → m (Option String)) (c : Option Command) : CommandT m Unit := do
  match c with
  | none => throw (.badRequest "no command specified")
  | some c =>
    let text ← settingsText readFile c.settings
    runUnder readFile (← lift (Settings.read text)) c

/-- Runs a command and reports what it wrote. -/
def report (readFile : String → m (Option String)) (c : Option Command) : m Report := do
  let (r, output) ← (run readFile c).run ""
  match r with
  | .ok _ => return ⟨output, none⟩
  | .error e => return ⟨output, some e⟩

end Command

end Cohort
