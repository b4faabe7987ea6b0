import Cohort.Json.Decode
import Cohort.Predicate.Basic

/-!
# Predicates as JSON

A predicate is an object with one member, named for its form. The parts of a form with several parts are an object;
in a document of its own they may also be a list, but not inside another value that has been read already.
-/

namespace Cohort

namespace Operator

/-- Every operator with its name. -/
def table : List (String × Operator) :=
  [("eq", .eq), ("notEq", .notEq), ("lt", .lt), ("ltEq", .ltEq), ("gt", .gt), ("gtEq", .gtEq), ("plus", .plus),
    ("minus", .minus), ("multiply", .multiply), ("divide", .divide), ("modulo", .modulo), ("and", .and), ("or", .or)]

def name : Operator → String
  | .eq => "eq"
  | .notEq => "notEq"
  | .lt => "lt"
  | .ltEq => "ltEq"
  | .gt => "gt"
  | .gtEq => "gtEq"
  | .plus => "plus"
  | .minus => "minus"
  | .multiply => "multiply"
  | .divide => "divide"
  | .modulo => "modulo"
  | .and => "and"
  | .or => "or"

def ofJson? (j : Json) : Option Operator := j.asEnum? table

theorem ofJson?_name (op : Operator) : ofJson? (.string op.name) = some op := by cases op <;> rfl

end Operator

namespace Literal

def toJson : Literal → Json
  | .null => .string "null"
  | .boolean b => .object [("boolean", .bool b)]
  | .integer i => .object [("int64", .int i)]
  | .decimal x => .object [("float64", .float x)]
  | .string s => .object [("string", .string s)]

def ofJson? (j : Json) : Option Literal :=
  match j.asVariant? with
  | some ("null", none) => some .null
  | some ("null", some .null) => some .null
  | some ("boolean", some j) => j.asBool?.map .boolean
  | some ("int64", some j) => j.asInt64?.map .integer
  | some ("float64", some j) => j.asDouble?.map .decimal
  | some ("string", some j) => j.asString?.map .string
  | _ => none

end Literal

namespace Predicate

def toJson : Predicate → Json
  | .column parts => .object [("column", Json.ofList .string parts)]
  | .literal value => .object [("literal", value.toJson)]
  | .binary left op right =>
    .object [("binary", .object [("left", left.toJson), ("op", .string op.name), ("right", right.toJson)])]
  | .not p => .object [("not", p.toJson)]
  | .isNull p => .object [("isNull", p.toJson)]
  | .isNotNull p => .object [("isNotNull", p.toJson)]
  | .inList p items negated =>
    .object [("inList",
      .object [("expr", p.toJson), ("list", .array (itemsToJson items)), ("negated", .bool negated)])]
  | .like p pattern negated =>
    .object [("like", .object [("expr", p.toJson), ("pattern", pattern.toJson), ("negated", .bool negated)])]
  | .between p low high negated =>
    .object [("between",
      .object [("expr", p.toJson), ("low", low.toJson), ("high", high.toJson), ("negated", .bool negated)])]
where
  itemsToJson : List Predicate → List Json
    | [] => []
    | p :: ps => p.toJson :: itemsToJson ps

/-- The parts of a form, as a list only if that is allowed. -/
def parts? (lists : Bool) (names : List String) (j : Json) : Option Json.Record :=
  match j with
  | .array _ => if lists then j.asRecord? names else none
  | j => j.asRecord? names

/-- Decodes a value of fewer than `limit` levels. -/
def ofJsonWithin (lists : Bool) : Nat → Json → Option Predicate
  | 0, _ => none
  | limit + 1, j =>
    let inner := ofJsonWithin lists limit
    match j.asVariant? with
    | some ("column", some j) => (j.asList? Json.asString?).map .column
    | some ("literal", some j) => (Literal.ofJson? j).map .literal
    | some ("binary", some j) => do
      let r ← parts? lists ["left", "op", "right"] j
      some (.binary (← r.required 0 "left" inner) (← r.required 1 "op" Operator.ofJson?)
        (← r.required 2 "right" inner))
    | some ("not", some j) => (inner j).map .not
    | some ("isNull", some j) => (inner j).map .isNull
    | some ("isNotNull", some j) => (inner j).map .isNotNull
    | some ("inList", some j) => do
      let r ← parts? lists ["expr", "list", "negated"] j
      some (.inList (← r.required 0 "expr" inner) (← r.required 1 "list" (Json.asList? inner))
        (← r.required 2 "negated" Json.asBool?))
    | some ("like", some j) => do
      let r ← parts? lists ["expr", "pattern", "negated"] j
      some (.like (← r.required 0 "expr" inner) (← r.required 1 "pattern" inner)
        (← r.required 2 "negated" Json.asBool?))
    | some ("between", some j) => do
      let r ← parts? lists ["expr", "low", "high", "negated"] j
      some (.between (← r.required 0 "expr" inner) (← r.required 1 "low" inner) (← r.required 2 "high" inner)
        (← r.required 3 "negated" Json.asBool?))
    | _ => none

/-- Decodes a predicate; `lists` says whether the parts of a form may be a list. -/
def ofJson? (lists : Bool) (j : Json) : Option Predicate := ofJsonWithin lists (j.depth + 1) j

end Predicate

end Cohort
