import Cohort.Aggregate
import Cohort.Name
import Cohort.Predicate.Basic
import Cohort.Sorting
import Cohort.Time.Instant

/-!
# Queries

Queries as trees: terms, the relations that they range over, selections and unions. A name from outside enters a
tree only as a checked identifier, which carries the proof that it keeps the rule for names; all other identifiers
are built in.
-/

namespace Cohort.Sql

/-- The names that queries use of their own accord. -/
inductive BuiltIn
  | collection | mapping | user | deviceId | time | anonymousIds | users | distinctUsers | id
  deriving DecidableEq, Inhabited, Repr

def BuiltIn.text : BuiltIn → String
  | .collection => "collection"
  | .mapping => "mapping"
  | .user => "_user"
  | .deviceId => "_device_id"
  | .time => "_time"
  | .anonymousIds => "_anonymous_id_mapping"
  | .users => "users"
  | .distinctUsers => "t"
  | .id => "id"

inductive Identifier
  | checked (name : String) (valid : isName name = true)
  | builtIn (b : BuiltIn)
  deriving DecidableEq, Repr

namespace Identifier

instance : Inhabited Identifier := ⟨.builtIn default⟩

/-- The identifier of a name from outside; `kind` says what it names. -/
def check (kind name : String) : Except RequestError Identifier :=
  if h : isName name = true then .ok (.checked name h) else .error (.invalidName kind name)

theorem check_eq_ok_iff {kind name : String} {i : Identifier} :
    check kind name = .ok i ↔ ∃ h : isName name = true, i = .checked name h := by
  unfold check
  by_cases h : isName name = true
  · simp only [h, dite_true, Except.ok.injEq, exists_true_left]
    exact eq_comm
  · simp [h]

end Identifier

mutual

inductive Term
  | column (relation : Option Identifier) (name : Identifier)
  /-- A column named by a predicate, one identifier for each part. -/
  | reference (parts : List Identifier)
  | literal (value : Literal)
  | timestamp (t : Instant)
  | coalesce (args : List Term)
  | aggregate (f : AggregateFunction) (arg : Term)
  | binary (left : Term) (op : Operator) (right : Term)
  | not (t : Term)
  | isNull (t : Term)
  | isNotNull (t : Term)
  | inList (t : Term) (items : List Term) (negated : Bool)
  | inQuery (t : Term) (query : Query)
  | like (t pattern : Term) (negated : Bool)
  | between (t low high : Term) (negated : Bool)

/-- A column of the result. -/
structure Item where
  term : Term
  label : Option Identifier

inductive Relation
  | table (name : List Identifier) (label : Option Identifier)
  | subquery (query : Query) (label : Option Identifier)

/-- A relation whose rows are added where the condition holds, and nulls where it holds for none. -/
structure Join where
  relation : Relation
  condition : Term

structure SortKey where
  term : Term
  direction : Direction

structure Select where
  distinct : Bool
  projection : List Item
  source : Option Relation
  joins : List Join
  conditions : List Term
  groups : List Term
  groupConditions : List Term
  order : List SortKey
  limit : Option Nat
  offset : Option Nat

inductive Query
  | select (s : Select)
  | unionAll (branches : List Query)

end

instance : Inhabited Term := ⟨.reference []⟩

namespace Select

/-- The selection of all columns of nothing. -/
def empty : Select := ⟨false, [], none, [], [], [], [], [], none, none⟩

instance : Inhabited Select := ⟨empty⟩

end Select

instance : Inhabited Query := ⟨.select default⟩

/-- One clause of a selection. -/
inductive Clause
  | projection (item : Item)
  | source (relation : Relation)
  | join (j : Join)
  | condition (t : Term)
  | group (t : Term)
  | groupCondition (t : Term)
  | order (key : SortKey)
  | limit (n : Nat)
  | offset (n : Nat)

namespace Select

/-- Adds a clause after those of its kind, or in place of the one that it excludes. -/
def push (s : Select) : Clause → Select
  | .projection item => { s with projection := s.projection ++ [item] }
  | .source relation => { s with source := some relation }
  | .join j => { s with joins := s.joins ++ [j] }
  | .condition t => { s with conditions := s.conditions ++ [t] }
  | .group t => { s with groups := s.groups ++ [t] }
  | .groupCondition t => { s with groupConditions := s.groupConditions ++ [t] }
  | .order key => { s with order := s.order ++ [key] }
  | .limit n => { s with limit := some n }
  | .offset n => { s with offset := some n }

/-- The selection with those clauses, in order. -/
def ofClauses (clauses : List Clause) : Select := clauses.foldl push empty

end Select

namespace Query

/-- All rows of some queries, of which there has to be one. -/
def union : List Query → Except QueryError Query
  | [] => .error (.internal "union requires at least one branch")
  | [q] => .ok q
  | branches => .ok (.unionAll branches)

/-- The number of selections on the top level. -/
def branches : Query → Nat
  | .select _ => 1
  | .unionAll qs => branchesOf qs
where
  branchesOf : List Query → Nat
    | [] => 0
    | q :: qs => branches q + branchesOf qs

end Query

end Cohort.Sql
