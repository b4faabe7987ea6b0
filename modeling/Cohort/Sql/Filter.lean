import Cohort.Number.Decimal
import Cohort.Sql.Query

/-!
# Predicates in queries

A predicate enters a query as a term of the same shape. Every part of every column has to be a name and every
decimal has to be finite; the first offence from the left is reported.
-/

namespace Cohort.Sql

/-- Names as identifiers, in order. -/
def checkAll (kind : String) : List String → Except RequestError (List Identifier)
  | [] => .ok []
  | n :: ns => do
    let i ← Identifier.check kind n
    let is ← checkAll kind ns
    return i :: is

mutual

/-- The term of a predicate. -/
def Term.ofPredicate : Predicate → Except QueryError Term
  | .column parts =>
    if parts.isEmpty then .error (.badRequest "empty column reference")
    else ((checkAll "filter column" parts).mapError .request).map .reference
  | .literal (.decimal x) =>
    if x.isFinite then .ok (.literal (.decimal x)) else .error (.badRequest ("invalid number " ++ x.text))
  | .literal value => .ok (.literal value)
  | .binary left op right => do
    let left ← ofPredicate left
    let right ← ofPredicate right
    return .binary left op right
  | .not p => return .not (← ofPredicate p)
  | .isNull p => return .isNull (← ofPredicate p)
  | .isNotNull p => return .isNotNull (← ofPredicate p)
  | .inList p items negated => do
    let t ← ofPredicate p
    let items ← ofPredicates items
    return .inList t items negated
  | .like p pattern negated => do
    let t ← ofPredicate p
    let pattern ← ofPredicate pattern
    return .like t pattern negated
  | .between p low high negated => do
    let t ← ofPredicate p
    let low ← ofPredicate low
    let high ← ofPredicate high
    return .between t low high negated

/-- The terms of predicates, in order. -/
def Term.ofPredicates : List Predicate → Except QueryError (List Term)
  | [] => .ok []
  | p :: ps => do
    let t ← ofPredicate p
    let ts ← ofPredicates ps
    return t :: ts

end

end Cohort.Sql
