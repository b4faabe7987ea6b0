import Cohort.Json.Basic

/-!
# Decoding JSON

A decoder accepts a value or refuses it, without a reason. Records are objects, whose unknown members are
ignored and whose known ones come once, or arrays with the values in the order of declaration. Variants are a name,
or an object with one member whose name is the variant's.
-/

namespace Cohort.Json

def asBool? : Json → Option Bool
  | .bool b => some b
  | _ => none

def asString? : Json → Option String
  | .string s => some s
  | _ => none

/-- A whole number in a range. -/
def asIntIn? (low high : Int) : Json → Option Int
  | .int i => if low ≤ i ∧ i ≤ high then some i else none
  | _ => none

/-- Whole numbers of 64 bits with a sign. -/
def asInt64? (j : Json) : Option Int := asIntIn? minInt64 maxInt64 j

/-- Whole numbers of 64 bits without a sign. -/
def asNat64? (j : Json) : Option Nat := (asIntIn? 0 (word64 - 1) j).map Int.toNat

/-- Doubles, and whole numbers rounded to one. -/
def asDouble? : Json → Option Double
  | .float x => some x
  | .int i => some (Double.ofInt i)
  | _ => none

/-- Null is the absent value. -/
def asOption? {α : Type} (decode : Json → Option α) : Json → Option (Option α)
  | .null => some none
  | j => (decode j).map some

def asList? {α : Type} (decode : Json → Option α) : Json → Option (List α)
  | .array js => js.mapM decode
  | _ => none

/-- A map: its values by unique, sorted names, the last of each name. -/
def asMap? {α : Type} (decode : Json → Option α) : Json → Option (Keyed α)
  | .object ms => (ms.mapM fun m : String × Json => (decode m.2).map (m.1, ·)).map Keyed.ofList
  | _ => none

/-- The parts of a record, by name or by place. -/
inductive Record
  | named (members : List (String × Json))
  | listed (values : List Json)

/-- The record that a value holds. Each declared name occurs at most once, and there are no more values than
names. -/
def asRecord? (names : List String) : Json → Option Record
  | .object ms => if names.all fun n => (ms.filter (·.1 == n)).length ≤ 1 then some (.named ms) else none
  | .array js => if js.length ≤ names.length then some (.listed js) else none
  | _ => none

namespace Record

/-- The part of that name, which stands at that place in a list. -/
def find? (r : Record) (place : Nat) (name : String) : Option Json :=
  match r with
  | .named ms => (ms.find? (·.1 == name)).map (·.2)
  | .listed js => js[place]?

/-- A part that has to be there. -/
def required {α : Type} (r : Record) (place : Nat) (name : String) (decode : Json → Option α) : Option α :=
  (r.find? place name).bind decode

/-- A part that may be missing by name, though not by place, and may be null. -/
def optional {α : Type} (r : Record) (place : Nat) (name : String) (decode : Json → Option α) :
    Option (Option α) :=
  match r.find? place name, r with
  | some j, _ => asOption? decode j
  | none, .named _ => some none
  | none, .listed _ => none

/-- A part with a default for when it is missing. -/
def defaulted {α : Type} (r : Record) (place : Nat) (name : String) (value : α) (decode : Json → Option α) :
    Option α :=
  match r.find? place name with
  | some j => decode j
  | none => some value

end Record

/-- The name of a variant and what it carries. -/
def asVariant? : Json → Option (String × Option Json)
  | .string s => some (s, none)
  | .object [(s, j)] => some (s, some j)
  | _ => none

/-- One of some variants that carry nothing; a null may be carried. -/
def asEnum? {α : Type} (table : List (String × α)) (j : Json) : Option α :=
  match asVariant? j with
  | some (s, none) => table.lookup s
  | some (s, some .null) => table.lookup s
  | _ => none

/-- Absent values are written as null. -/
def ofOption {α : Type} (encode : α → Json) : Option α → Json
  | none => .null
  | some a => encode a

/-- Lists are written as arrays. -/
def ofList {α : Type} (encode : α → Json) (xs : List α) : Json := .array (xs.map encode)

end Cohort.Json
