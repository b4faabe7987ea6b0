import Cohort.Event.Filter
import Cohort.Schema

/-!
# Property values

The value of one property of an event. In JSON its kind is not written: a value is read as the first kind that
admits it, in the order of declaration, so that text which stands for an instant is read as that instant.
-/

namespace Cohort

inductive PropertyValue
  | null
  | boolean (b : Bool)
  | integer (i : Int)
  | decimal (x : Double)
  | timestamp (t : Instant)
  | text (s : String)
  deriving DecidableEq, Inhabited, Repr

namespace PropertyValue

def isNull (v : PropertyValue) : Bool := v == .null

def asText? : PropertyValue → Option String
  | .text s => some s
  | _ => none

/-- The kind of the value, as messages name it. -/
def kind : PropertyValue → String
  | .null => "NULL"
  | .boolean _ => "BOOLEAN"
  | .integer _ => "LONG"
  | .decimal _ => "DOUBLE"
  | .timestamp _ => "TIMESTAMP"
  | .text _ => "STRING"

/-- Whether a value that is not null can be stored in a field of the type. -/
def fits : PropertyValue → FieldType → Bool
  | .boolean _, .boolean => true
  | .integer _, .integer => true
  | .integer _, .long => true
  | .decimal _, .double => true
  | .decimal _, .decimal => true
  | .timestamp _, .timestamp => true
  | .timestamp _, .date => true
  | .timestamp _, .time => true
  | .text _, .string => true
  | _, _ => false

def toJson : PropertyValue → Json
  | .null => .null
  | .boolean b => .bool b
  | .integer i => .int i
  | .decimal x => .float x
  | .timestamp t => t.toJson
  | .text s => .string s

/-- Whole numbers that do not fit into 64 bits with a sign are read as decimals. -/
def ofJson? : Json → Option PropertyValue
  | .null => some .null
  | .bool b => some (.boolean b)
  | .int i => some (if minInt64 ≤ i ∧ i ≤ maxInt64 then .integer i else .decimal (Double.ofInt i))
  | .float x => some (.decimal x)
  | .string s => some (match Instant.ofText? s with
    | some t => .timestamp t
    | none => .text s)
  | .array _ => none
  | .object _ => none

end PropertyValue

end Cohort
