import Cohort.Json.Decode

/-!
# Fields of collections

A collection is a list of named, typed fields, each of which admits nulls or not.
-/

namespace Cohort

inductive FieldType
  | string | integer | long | double | decimal | boolean | date | time | timestamp
  deriving DecidableEq, Inhabited, Repr

namespace FieldType

/-- Every type with its name. -/
def table : List (String × FieldType) :=
  [("string", .string), ("integer", .integer), ("long", .long), ("double", .double), ("decimal", .decimal),
    ("boolean", .boolean), ("date", .date), ("time", .time), ("timestamp", .timestamp)]

def name : FieldType → String
  | .string => "string"
  | .integer => "integer"
  | .long => "long"
  | .double => "double"
  | .decimal => "decimal"
  | .boolean => "boolean"
  | .date => "date"
  | .time => "time"
  | .timestamp => "timestamp"

/-- The name in capitals, as messages write it. -/
def capitals (t : FieldType) : String := t.name.toUpper

def ofJson? (j : Json) : Option FieldType := j.asEnum? table

theorem lookup_name (t : FieldType) : table.lookup t.name = some t := by cases t <;> decide

end FieldType

/-- One field of a collection. -/
structure Field where
  name : String
  type : FieldType
  nullable : Bool
  deriving DecidableEq, Inhabited, Repr

namespace Field

def toJson (f : Field) : Json :=
  .object [("name", .string f.name), ("type", .string f.type.name), ("nullable", .bool f.nullable)]

/-- Fields admit nulls unless they say otherwise. -/
def ofJson? (j : Json) : Option Field := do
  let r ← j.asRecord? ["name", "type", "nullable"]
  some
    { name := ← r.required 0 "name" Json.asString?
      type := ← r.required 1 "type" FieldType.ofJson?
      nullable := ← r.defaulted 2 "nullable" true Json.asBool? }

@[simp] theorem ofJson?_toJson (f : Field) : ofJson? f.toJson = some f := by
  obtain ⟨name, type, nullable⟩ := f
  cases type <;> rfl

end Field

/-- Whether some field has that name. -/
def hasField (fields : List Field) (name : String) : Bool := fields.any (·.name == name)

theorem hasField_iff {fields : List Field} {name : String} :
    hasField fields name = true ↔ name ∈ fields.map (·.name) := by
  simp [hasField]

/-- The fields and after them those of the others that have new names, the first of each name. -/
def mergeFields (fields : List Field) : List Field → List Field
  | [] => fields
  | f :: fs => mergeFields (if hasField fields f.name then fields else fields ++ [f]) fs

end Cohort
