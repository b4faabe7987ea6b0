import Cohort.Schema
import Cohort.Text.Quoted

/-!
# Errors

One type of error for each layer: requests, the catalog, queries, events and commands. An outer layer carries the
errors of the inner ones. Each error has a message, and a description that outer messages embed. A fault inside a
reader of a foreign format has no wording of its own here: a description that reaches one ends with its name.
-/

namespace Cohort

/-- The text of an error inside another one. -/
structure Description where
  text : String
  complete : Bool
  deriving DecidableEq, Repr

namespace Description

def ofText (text : String) : Description := ⟨text, true⟩

/-- The name of a foreign reader, where a description ends. -/
def foreign (name : String) : Description := ⟨name, false⟩

/-- Puts a description into a named pair of brackets, the second of which falls away if it never ends. -/
def within (name : String) (d : Description) : Description :=
  { d with text := name ++ "(" ++ d.text ++ if d.complete then ")" else "" }

/-- A named text. -/
def labelled (name text : String) : Description := ofText (name ++ "(" ++ Text.quoted text ++ ")")

end Description

/-- What is wrong with the text of a predicate. -/
inductive GrammarFault
  | token
  | phrase
  | nesting
  deriving DecidableEq, Repr

inductive RequestError
  | invalidName (kind name : String)
  | badRequest (reason : String)
  | grammar (fault : GrammarFault)
  | malformed
  deriving DecidableEq, Repr

namespace RequestError

def message : RequestError → String
  | .invalidName kind name => "invalid " ++ kind ++ " " ++ Text.quoted name
  | .badRequest reason => "BadRequest: " ++ reason
  | .grammar _ => "sql parser"
  | .malformed => "serde"

def describe : RequestError → Description
  | .invalidName kind name =>
    .ofText ("InvalidIdentifier \x7b kind: " ++ Text.quoted kind ++ ", name: " ++ Text.quoted name ++ " \x7d")
  | .badRequest reason => .labelled "BadRequest" reason
  | .grammar _ => .foreign "SqlParser"
  | .malformed => .foreign "Serde"

/-- Whether the request is to blame. -/
def isBadRequest : RequestError → Bool
  | .invalidName _ _ => true
  | .badRequest _ => true
  | .grammar _ => true
  | .malformed => true

@[simp] theorem isBadRequest_eq_true (e : RequestError) : e.isBadRequest = true := by cases e <;> rfl

end RequestError

inductive CatalogError
  | alreadyExists (reason : String)
  | notFound (reason : String)
  | internal (reason : String)
  | request (e : RequestError)
  deriving DecidableEq, Repr

namespace CatalogError

def message : CatalogError → String
  | .alreadyExists reason => "already exists (" ++ Text.quoted reason ++ ")"
  | .notFound reason => "not found " ++ Text.quoted reason
  | .internal reason => "internal: " ++ Text.quoted reason
  | .request e => "common: " ++ e.message

def describe : CatalogError → Description
  | .alreadyExists reason => .labelled "AlreadyExists" reason
  | .notFound reason => .labelled "NotFound" reason
  | .internal reason => .labelled "Internal" reason
  | .request e => e.describe.within "Common"

end CatalogError

inductive QueryError
  | badRequest (reason : String)
  | execution (reason : String)
  | initialization (reason : String)
  | internal (reason : String)
  | catalog (e : CatalogError)
  | request (e : RequestError)
  deriving DecidableEq, Repr

namespace QueryError

def message : QueryError → String
  | .badRequest reason => "bad request: " ++ reason
  | .execution reason => "execution: " ++ reason
  | .initialization reason => "initialization: " ++ reason
  | .internal reason => "internal " ++ Text.quoted reason
  | .catalog e => "metadata " ++ e.describe.text
  | .request e => "common " ++ e.describe.text

def describe : QueryError → Description
  | .badRequest reason => .labelled "BadRequest" reason
  | .execution reason => .labelled "Execution" reason
  | .initialization reason => .labelled "Init" reason
  | .internal reason => .labelled "Internal" reason
  | .catalog e => e.describe.within "Metadata"
  | .request e => e.describe.within "Common"

/-- The status code of an answer that reports the error. -/
def status : QueryError → Nat
  | .badRequest _ => 400
  | .request e => if e.isBadRequest then 400 else 500
  | .catalog (.request e) => if e.isBadRequest then 400 else 500
  | .catalog (.notFound _) => 404
  | .catalog (.alreadyExists _) => 409
  | .execution _ => 502
  | _ => 500

end QueryError

inductive EventError
  | agentDatabase
  | typeMismatch (field : String) (expected : FieldType) (actual : String)
  | notNullable (field : String)
  | catalog (e : CatalogError)
  deriving DecidableEq, Repr

namespace EventError

def message : EventError → String
  | .agentDatabase => "user agent parser"
  | .typeMismatch field expected actual => "field " ++ field ++ " is " ++ expected.capitals ++ ", got " ++ actual
  | .notNullable field => "field " ++ field ++ " is not nullable"
  | .catalog e => "metadata: " ++ e.describe.text

/-- The name of a type, with a capital. -/
def typeLabel (t : FieldType) : String := t.name.capitalize

def describe : EventError → Description
  | .agentDatabase => .foreign "UserAgentParser"
  | .typeMismatch field expected actual =>
    .ofText ("TypeMismatch \x7b field: " ++ Text.quoted field ++ ", expected: " ++ typeLabel expected ++
      ", actual: " ++ Text.quoted actual ++ " \x7d")
  | .notNullable field => .labelled "NotNullable" field
  | .catalog e => e.describe.within "Metadata"

end EventError

inductive CommandError
  | badRequest (reason : String)
  | settings
  | file
  | span
  | document
  | request (e : RequestError)
  | catalog (e : CatalogError)
  | query (e : QueryError)
  | event (e : EventError)
  deriving DecidableEq, Repr

namespace CommandError

def describe : CommandError → Description
  | .badRequest reason => .labelled "BadRequest" reason
  | .settings => .foreign "Config"
  | .file => .foreign "StdIO"
  | .span => .foreign "ParseDuration"
  | .document => .foreign "SerdeJson"
  | .request e => e.describe.within "Common"
  | .catalog e => e.describe.within "Metadata"
  | .query e => e.describe.within "Query"
  | .event e => e.describe.within "Ingester"

def message : CommandError → String
  | .badRequest reason => "bad request: " ++ reason
  | .settings => "config"
  | .file => "StdIO"
  | .span => "ParseDuration"
  | .document => "serde json"
  | .request e => "common: " ++ e.describe.text
  | .catalog e => "metadata: " ++ e.describe.text
  | .query e => "query: " ++ e.describe.text
  | .event e => "ingester: " ++ e.describe.text

end CommandError

end Cohort
