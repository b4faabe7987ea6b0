import Cohort.Error
import Cohort.Property.Value

/-!
# Properties of events

The values of the properties of one event, checked against the declared fields as they are written. A property that
is not declared takes any value.
-/

namespace Cohort

structure Properties where
  /-- The declared fields by their names. -/
  schema : Keyed Field
  values : Keyed PropertyValue

/-- An operation on properties that may find an error, and keeps what it did before. -/
abbrev PropertiesM := ExceptT EventError (StateM Properties)

namespace Properties

/-- No values and those declarations, the last of each name. -/
def ofSchema (fields : List Field) : Properties := ⟨.ofList (fields.map fun f => (f.name, f)), .empty⟩

def empty : Properties := ofSchema []

instance : Inhabited Properties := ⟨empty⟩

def declare (p : Properties) (f : Field) : Properties := { p with schema := p.schema.insert f.name f }

def remove (p : Properties) (name : String) : Properties := { p with values := p.values.erase name }

/-- What keeps a value out of a property, if anything does. -/
def conflict? (p : Properties) (name : String) (v : PropertyValue) : Option EventError :=
  match p.schema.get? name with
  | none => none
  | some f =>
    if v.isNull then if f.nullable then none else some (.notNullable name)
    else if v.fits f.type then none
    else some (.typeMismatch name f.type v.kind)

/-- Writes a property, if its declaration admits the value. -/
def put (name : String) (v : PropertyValue) : PropertiesM Unit := do
  match (← get).conflict? name v with
  | some e => throw e
  | none => modify fun p => { p with values := p.values.insert name v }

/-- Writes properties one after the other, up to the first one that is refused. -/
def putAll : List (String × PropertyValue) → PropertiesM Unit
  | [] => return ()
  | (name, v) :: rest => do
    put name v
    putAll rest

end Properties

end Cohort
