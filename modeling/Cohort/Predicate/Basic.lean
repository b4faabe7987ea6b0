import Cohort.Number.Double

/-!
# Predicates

A predicate over the columns of a row: comparisons, arithmetic, tests for null, membership, patterns and ranges,
under negation, conjunction and disjunction. Callers hand predicates in as values or as text.
-/

namespace Cohort

inductive Operator
  | eq | notEq | lt | ltEq | gt | gtEq | plus | minus | multiply | divide | modulo | and | or
  deriving DecidableEq, Inhabited, Repr

namespace Operator

/-- Conjunction and disjunction. -/
def isLogical : Operator → Bool
  | .and => true
  | .or => true
  | _ => false

/-- The operator in query text. -/
def symbol : Operator → String
  | .eq => "="
  | .notEq => "<>"
  | .lt => "<"
  | .ltEq => "<="
  | .gt => ">"
  | .gtEq => ">="
  | .plus => "+"
  | .minus => "-"
  | .multiply => "*"
  | .divide => "/"
  | .modulo => "%"
  | .and => "AND"
  | .or => "OR"

end Operator

/-- A constant of a predicate. -/
inductive Literal
  | null
  | boolean (b : Bool)
  | integer (i : Int)
  | decimal (x : Double)
  | string (s : String)
  deriving DecidableEq, Inhabited, Repr

inductive Predicate
  | column (parts : List String)
  | literal (value : Literal)
  | binary (left : Predicate) (op : Operator) (right : Predicate)
  | not (p : Predicate)
  | isNull (p : Predicate)
  | isNotNull (p : Predicate)
  | inList (p : Predicate) (items : List Predicate) (negated : Bool)
  | like (p pattern : Predicate) (negated : Bool)
  | between (p low high : Predicate) (negated : Bool)
  deriving Inhabited, Repr, BEq

end Cohort
