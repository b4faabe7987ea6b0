import Cohort.Json.Decode

/-!
# Sorting

The column to sort by and the direction, which is upwards unless something else is said.
-/

namespace Cohort

inductive Direction
  | asc | desc
  deriving DecidableEq, Inhabited, Repr

namespace Direction

/-- Both directions with their names. -/
def table : List (String × Direction) := [("asc", .asc), ("desc", .desc)]

def name : Direction → String
  | .asc => "asc"
  | .desc => "desc"

/-- The direction in query text. -/
def keyword : Direction → String
  | .asc => "ASC"
  | .desc => "DESC"

def ofJson? (j : Json) : Option Direction := j.asEnum? table

end Direction

structure Sorting where
  column : String
  direction : Direction
  deriving DecidableEq, Inhabited, Repr

namespace Sorting

def toJson (s : Sorting) : Json := .object [("column", .string s.column), ("order", .string s.direction.name)]

def ofJson? (j : Json) : Option Sorting := do
  let r ← j.asRecord? ["column", "order"]
  some
    { column := ← r.required 0 "column" Json.asString?
      direction := ← r.defaulted 1 "order" .asc Direction.ofJson? }

@[simp] theorem ofJson?_toJson (s : Sorting) : ofJson? s.toJson = some s := by
  obtain ⟨column, direction⟩ := s
  cases direction <;> rfl

end Sorting

end Cohort
