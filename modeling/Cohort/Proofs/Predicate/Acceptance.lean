import Cohort.Proofs.Outcome
import Cohort.Sql.Filter
import Mathlib.Data.List.Forall2

/-!
# Accepted predicates

What a predicate that is accepted into a query consists of: its parts are accepted, its columns have parts, and its
term is built from the terms of its parts.
-/

namespace Cohort.Sql.Term

open Outcome

variable {p q low high pattern : Predicate} {items : List Predicate} {op : Operator} {negated : Bool} {t : Term}

theorem checkAll_eq_ok {kind : String} {names : List String} {parts : List Identifier}
    (h : checkAll kind names = .ok parts) :
    List.Forall₂ (fun name i => ∃ valid, i = .checked name valid) names parts := by
  induction names generalizing parts with
  | nil =>
    cases h
    exact .nil
  | cons n names ih =>
    obtain ⟨i, hi, h⟩ := bind_eq_ok_iff.1 h
    obtain ⟨later, hlater, h⟩ := bind_eq_ok_iff.1 h
    obtain rfl := pure_eq_ok_iff.1 h
    exact .cons (Identifier.check_eq_ok_iff.1 hi) (ih hlater)

theorem ofPredicate_column_eq_ok {names : List String} (h : ofPredicate (.column names) = .ok t) :
    names ≠ [] ∧ ∃ parts, checkAll "filter column" names = .ok parts ∧ t = .reference parts := by
  unfold ofPredicate at h
  split at h
  · cases h
  · rename_i hempty
    obtain ⟨parts, hparts, rfl⟩ := map_eq_ok_iff.1 h
    refine ⟨?_, parts, mapError_eq_ok_iff.1 hparts, rfl⟩
    rintro rfl
    exact hempty rfl

theorem ofPredicate_literal_eq_ok {v : Literal} (h : ofPredicate (.literal v) = .ok t) : t = .literal v := by
  cases v with
  | decimal x =>
    unfold ofPredicate at h
    split at h
    · exact (Except.ok.inj h).symm
    · cases h
  | _ => exact (Except.ok.inj h).symm

theorem ofPredicate_binary_eq_ok (h : ofPredicate (.binary p op q) = .ok t) :
    ∃ tp tq, ofPredicate p = .ok tp ∧ ofPredicate q = .ok tq ∧ t = .binary tp op tq := by
  obtain ⟨tp, hp, h⟩ := bind_eq_ok_iff.1 h
  obtain ⟨tq, hq, h⟩ := bind_eq_ok_iff.1 h
  exact ⟨tp, tq, hp, hq, (pure_eq_ok_iff.1 h).symm⟩

theorem ofPredicate_not_eq_ok (h : ofPredicate (.not p) = .ok t) : ∃ tp, ofPredicate p = .ok tp ∧ t = .not tp := by
  obtain ⟨tp, hp, h⟩ := bind_eq_ok_iff.1 h
  exact ⟨tp, hp, (pure_eq_ok_iff.1 h).symm⟩

theorem ofPredicate_isNull_eq_ok (h : ofPredicate (.isNull p) = .ok t) :
    ∃ tp, ofPredicate p = .ok tp ∧ t = .isNull tp := by
  obtain ⟨tp, hp, h⟩ := bind_eq_ok_iff.1 h
  exact ⟨tp, hp, (pure_eq_ok_iff.1 h).symm⟩

theorem ofPredicate_isNotNull_eq_ok (h : ofPredicate (.isNotNull p) = .ok t) :
    ∃ tp, ofPredicate p = .ok tp ∧ t = .isNotNull tp := by
  obtain ⟨tp, hp, h⟩ := bind_eq_ok_iff.1 h
  exact ⟨tp, hp, (pure_eq_ok_iff.1 h).symm⟩

theorem ofPredicates_eq_ok {ts : List Term} (h : ofPredicates items = .ok ts) :
    List.Forall₂ (fun p t => ofPredicate p = .ok t) items ts := by
  induction items generalizing ts with
  | nil =>
    cases h
    exact .nil
  | cons p items ih =>
    obtain ⟨t, ht, h⟩ := bind_eq_ok_iff.1 h
    obtain ⟨later, hlater, h⟩ := bind_eq_ok_iff.1 h
    obtain rfl := pure_eq_ok_iff.1 h
    exact .cons ht (ih hlater)

theorem exists_ofPredicate_of_mem {ts : List Term} (h : ofPredicates items = .ok ts) :
    ∀ q ∈ items, ∃ t, ofPredicate q = .ok t := by
  have hterms := ofPredicates_eq_ok h
  clear h
  induction hterms with
  | nil => exact List.forall_mem_nil _
  | cons ht _ ih => exact List.forall_mem_cons.2 ⟨⟨_, ht⟩, ih⟩

theorem ofPredicate_inList_eq_ok (h : ofPredicate (.inList p items negated) = .ok t) :
    ∃ tp ts, ofPredicate p = .ok tp ∧ ofPredicates items = .ok ts ∧ t = .inList tp ts negated := by
  obtain ⟨tp, hp, h⟩ := bind_eq_ok_iff.1 h
  obtain ⟨ts, hs, h⟩ := bind_eq_ok_iff.1 h
  exact ⟨tp, ts, hp, hs, (pure_eq_ok_iff.1 h).symm⟩

theorem ofPredicate_like_eq_ok (h : ofPredicate (.like p pattern negated) = .ok t) :
    ∃ tp tpattern, ofPredicate p = .ok tp ∧ ofPredicate pattern = .ok tpattern ∧ t = .like tp tpattern negated := by
  obtain ⟨tp, hp, h⟩ := bind_eq_ok_iff.1 h
  obtain ⟨tpattern, hpattern, h⟩ := bind_eq_ok_iff.1 h
  exact ⟨tp, tpattern, hp, hpattern, (pure_eq_ok_iff.1 h).symm⟩

theorem ofPredicate_between_eq_ok (h : ofPredicate (.between p low high negated) = .ok t) :
    ∃ tp tlow thigh, ofPredicate p = .ok tp ∧ ofPredicate low = .ok tlow ∧ ofPredicate high = .ok thigh ∧
      t = .between tp tlow thigh negated := by
  obtain ⟨tp, hp, h⟩ := bind_eq_ok_iff.1 h
  obtain ⟨tlow, hlow, h⟩ := bind_eq_ok_iff.1 h
  obtain ⟨thigh, hhigh, h⟩ := bind_eq_ok_iff.1 h
  exact ⟨tp, tlow, thigh, hp, hlow, hhigh, (pure_eq_ok_iff.1 h).symm⟩

end Cohort.Sql.Term
