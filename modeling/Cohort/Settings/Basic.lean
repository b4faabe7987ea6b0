import Cohort.Catalog.Basic
import Cohort.Users.Search

/-!
# Settings

What a command is told by its settings file: how much to log, which storage serves searches, where the database of
user agents is, and the collections of each project.
-/

namespace Cohort

inductive LogLevel
  | trace | debug | info | warn | error
  deriving DecidableEq, Inhabited, Repr

namespace LogLevel

def name : LogLevel → String
  | .trace => "trace"
  | .debug => "debug"
  | .info => "info"
  | .warn => "warn"
  | .error => "error"

/-- Every level with its name. -/
def table : List (String × LogLevel) := [.trace, .debug, .info, .warn, .error].map fun l => (l.name, l)

end LogLevel

structure Settings where
  level : LogLevel
  storage : StorageSettings
  /-- The path of the database of user agents. -/
  agentDatabase : Option String
  collections : Projects (List Field)

/-- The settings, if those of the storage are valid. -/
def Settings.validated (s : Settings) : Except CommandError Settings :=
  (s.storage.validate.mapError .request).map fun _ => s

end Cohort
