import Cohort.Proofs.Meaning.Query
import Cohort.Proofs.Predicate.Acceptance
import Cohort.Proofs.Predicate.Leftward

/-!
# The meaning of predicates

The value of a predicate for a row, told from the predicate alone. The term that a predicate becomes in a query has
that value, whatever group it stands in.
-/

namespace Cohort

namespace Predicate

variable (e : Dialect)

mutual

/-- The value of a predicate for a row; it holds of the row if that is true. -/
def value : Predicate → Scope → Cell
  | .column parts, s => s.path parts
  | .literal v, _ => .ofLiteral v
  | .binary l op r, s => e.binary op (l.value s) (r.value s)
  | .not p, s => Dialect.not (p.value s)
  | .isNull p, s => .boolean (p.value s = .null)
  | .isNotNull p, s => .boolean (p.value s ≠ .null)
  | .inList p items negated, s => Dialect.tested negated (e.isIn (p.value s) (valuesOf items s))
  | .like p pattern negated, s => Dialect.tested negated (e.like (p.value s) (pattern.value s))
  | .between p low high negated, s =>
    Dialect.tested negated (e.between (p.value s) (low.value s) (high.value s))

def valuesOf : List Predicate → Scope → List Cell
  | [], _ => []
  | p :: ps, s => p.value s :: valuesOf ps s

end

end Predicate

namespace Sql

variable {e : Dialect} {d : Database} {s : Scope} {members : List Scope}

theorem map_text_of_checkAll {kind : String} {names : List String} {parts : List Identifier}
    (h : checkAll kind names = .ok parts) : parts.map Identifier.text = names := by
  have hparts := Term.checkAll_eq_ok h
  clear h
  induction hparts with
  | nil => rfl
  | cons hi _ ih =>
    obtain ⟨valid, rfl⟩ := hi
    exact congrArg _ ih

/-- A predicate means the same in a query. -/
theorem value_of_ofPredicate {p : Predicate} {t : Term} (h : Term.ofPredicate p = .ok t) :
    t.value e d s members = p.value e s := by
  induction p using Predicate.induct generalizing t with
  | column names =>
    obtain ⟨-, parts, hparts, rfl⟩ := Term.ofPredicate_column_eq_ok h
    rw [Term.value, Predicate.value, map_text_of_checkAll hparts]
  | literal v =>
    obtain rfl := Term.ofPredicate_literal_eq_ok h
    rfl
  | binary l op r ihl ihr =>
    obtain ⟨tl, tr, hl, hr, rfl⟩ := Term.ofPredicate_binary_eq_ok h
    rw [Term.value, Predicate.value, ihl hl, ihr hr]
  | not p ih =>
    obtain ⟨tp, hp, rfl⟩ := Term.ofPredicate_not_eq_ok h
    rw [Term.value, Predicate.value, ih hp]
  | isNull p ih =>
    obtain ⟨tp, hp, rfl⟩ := Term.ofPredicate_isNull_eq_ok h
    rw [Term.value, Predicate.value, ih hp]
  | isNotNull p ih =>
    obtain ⟨tp, hp, rfl⟩ := Term.ofPredicate_isNotNull_eq_ok h
    rw [Term.value, Predicate.value, ih hp]
  | inList p items negated ih ihs =>
    obtain ⟨tp, ts, hp, hs, rfl⟩ := Term.ofPredicate_inList_eq_ok h
    have hitems : values e d ts s members = Predicate.valuesOf e items s := by
      have hterms := Term.ofPredicates_eq_ok hs
      clear h hs
      induction hterms with
      | nil => rfl
      | cons ht _ ihrest =>
        obtain ⟨ihfirst, ihlater⟩ := List.forall_mem_cons.1 ihs
        rw [values, Predicate.valuesOf, ihfirst ht, ihrest ihlater]
    rw [Term.value, Predicate.value, ih hp, hitems]
  | like p pattern negated ih ihpattern =>
    obtain ⟨tp, tpattern, hp, hpattern, rfl⟩ := Term.ofPredicate_like_eq_ok h
    rw [Term.value, Predicate.value, ih hp, ihpattern hpattern]
  | between p low high negated ih ihlow ihhigh =>
    obtain ⟨tp, tlow, thigh, hp, hlow, hhigh, rfl⟩ := Term.ofPredicate_between_eq_ok h
    rw [Term.value, Predicate.value, ih hp, ihlow hlow, ihhigh hhigh]

end Sql

end Cohort
