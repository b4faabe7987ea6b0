import Cohort.Json.Reader
import Cohort.Settings.Basic
import Cohort.Settings.Document

/-!
# Reading settings

Settings are read from a JSON object. Values are taken for what they can stand for: a number or a truth value for
its text, and a text or a number for a truth value. Variants are named without regard to case, and records may be
arrays with the values in order.
-/

namespace Cohort.Settings

/-- Whole numbers beyond 64 bits with a sign are doubles. -/
def asText? : Json → Option String
  | .string s => some s
  | .bool b => some (if b then "true" else "false")
  | .int i => some (if i ≤ maxInt64 then toString i else (Double.ofInt i).plainText)
  | .float x => some x.plainText
  | _ => none

/-- The truth value of a word. -/
def truthOf? (word : String) : Option Bool :=
  if word ∈ ["1", "true", "on", "yes"] then some true
  else if word ∈ ["0", "false", "off", "no"] then some false
  else none

def asTruth? : Json → Option Bool
  | .bool b => some b
  | .int i => some (i != 0)
  | .float x => some !x.isZero
  | .string s => truthOf? (Text.lower s)
  | _ => none

/-- One of some variants: its name, or an object with one member of that name. -/
def asChoice? {α : Type} (table : List (String × α)) (j : Json) : Option α := do
  let (name, _) ← j.asVariant?
  table.lookup (Text.lower name)

def asRecord? : Json → Option Json.Record
  | .object ms => some (.named ms)
  | .array js => some (.listed js)
  | _ => none

def field? (j : Json) : Option Field := do
  let r ← asRecord? j
  some
    { name := ← r.required 0 "name" asText?
      type := ← r.required 1 "type" (asChoice? FieldType.table)
      nullable := ← r.defaulted 2 "nullable" true asTruth? }

def level? (j : Json) : Option LogLevel := do
  (← asRecord? j).required 0 "level" (asChoice? LogLevel.table)

/-- The kinds of storages by their names. -/
def kindTable : List (String × StorageKind) := [("default", .attributes), ("presto", .events)]

def storage? (j : Json) : Option StorageSettings := do
  let r ← asRecord? j
  let usual := StorageSettings.default
  some
    { kind := ← r.defaulted 0 "kind" usual.kind (asChoice? kindTable)
      identifierColumn := ← r.defaulted 1 "identifier_column" usual.identifierColumn asText?
      userMapping := ← r.defaulted 2 "enable_user_mapping" usual.userMapping asTruth?
      userConnector := ← r.defaulted 3 "user_connector" usual.userConnector asText? }

def agentDatabase? (j : Json) : Option (Option String) := do
  (← asRecord? j).optional 0 "ua_db_path" asText?

def collections? (j : Json) : Option (Projects (List Field)) := j.asMap? (Json.asMap? (Json.asList? field?))

def ofDocument? (j : Json) : Option Settings := do
  let r ← asRecord? j
  some
    { level := ← r.required 0 "log" level?
      storage := ← r.defaulted 1 "user_storage" .default storage?
      agentDatabase := ← r.defaulted 2 "data" none agentDatabase?
      collections := ← r.defaulted 3 "collections" .empty collections? }

/-- The settings in a text. -/
def ofText? (text : String) : Option Settings := do
  let j ← Json.read? Json.maxDepth text
  ofDocument? (← document? j.canonical)

def read (text : String) : Except CommandError Settings :=
  match ofText? text with
  | some s => .ok s
  | none => .error .settings

end Cohort.Settings
