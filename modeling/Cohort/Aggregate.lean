import Cohort.Json.Decode

/-!
# Aggregate functions

The functions over the events of a user that event filters may set bounds on.
-/

namespace Cohort

inductive AggregateFunction
  | count | countUnique | sum | min | max | avg
  deriving DecidableEq, Inhabited, Repr

namespace AggregateFunction

/-- Every function with its name. -/
def table : List (String × AggregateFunction) :=
  [("count", .count), ("countUnique", .countUnique), ("sum", .sum), ("min", .min), ("max", .max), ("avg", .avg)]

def name : AggregateFunction → String
  | .count => "count"
  | .countUnique => "countUnique"
  | .sum => "sum"
  | .min => "min"
  | .max => "max"
  | .avg => "avg"

/-- The name in capitals, as messages write it. -/
def capitals (f : AggregateFunction) : String := f.name.toUpper

/-- The function in query text; distinct values are counted by the same function as all of them. -/
def queryName : AggregateFunction → String
  | .count => "count"
  | .countUnique => "count"
  | .sum => "sum"
  | .min => "min"
  | .max => "max"
  | .avg => "avg"

def ofJson? (j : Json) : Option AggregateFunction := j.asEnum? table

theorem ofJson?_name (f : AggregateFunction) : ofJson? (.string f.name) = some f := by cases f <;> rfl

end AggregateFunction

end Cohort
