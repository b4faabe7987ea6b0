import Cohort.Event.Query
import Cohort.Proofs.Outcome
import Mathlib.Data.List.Forall2

/-!
# What the query of an event filter consists of

Clauses of one kind add up in the order in which they are pushed, so that the selection of an event filter can be
written down field by field.
-/

namespace Cohort

open Sql Outcome

theorem Sql.Identifier.mapError_check_eq_ok_iff {kind name : String} {i : Identifier} :
    (Identifier.check kind name).mapError QueryError.request = .ok i ↔
      ∃ h : isName name = true, i = .checked name h :=
  mapError_eq_ok_iff.trans check_eq_ok_iff

namespace Sql.Select

/-- Clauses of one kind are pushed as one, if each goes before those that are pushed later. -/
theorem foldl_push_map {clause : Term → Clause} {add : Select → List Term → Select} (hnil : ∀ s, add s [] = s)
    (hcons : ∀ s t ts, add (s.push (clause t)) ts = add s (t :: ts)) (s : Select) (ts : List Term) :
    (ts.map clause).foldl push s = add s ts := by
  induction ts generalizing s with
  | nil => exact (hnil s).symm
  | cons t ts ih => rw [List.map_cons, List.foldl_cons, ih, hcons]

theorem foldl_push_condition (s : Select) (ts : List Term) :
    (ts.map Clause.condition).foldl push s = { s with conditions := s.conditions ++ ts } := by
  apply foldl_push_map
  · intro s
    cases s
    simp
  · intro s t ts
    simp [push]

theorem foldl_push_group (s : Select) (ts : List Term) :
    (ts.map Clause.group).foldl push s = { s with groups := s.groups ++ ts } := by
  apply foldl_push_map
  · intro s
    cases s
    simp
  · intro s t ts
    simp [push]

theorem foldl_push_groupCondition (s : Select) (ts : List Term) :
    (ts.map Clause.groupCondition).foldl push s = { s with groupConditions := s.groupConditions ++ ts } := by
  apply foldl_push_map
  · intro s
    cases s
    simp
  · intro s t ts
    simp [push]

end Sql.Select

namespace EventFilter

/-- The selection of an event filter, given the terms of its predicate and of its bounds. -/
def selection (mapped : Bool) (table : List Identifier) (f : EventFilter) (filters bounds : List Term) : Select :=
  { distinct := false
    projection := [userItem mapped]
    source := some (.table table (some (.builtIn .collection)))
    joins := if mapped then [mappingJoin] else []
    conditions := .isNotNull (eventColumn .user) :: (filters ++ f.timeframe.toList.flatMap timeConditions)
    groups := if f.aggregation.isSome then groupTerms mapped else []
    groupConditions := bounds
    order := []
    limit := none
    offset := none }

theorem ofClauses_eq_selection (mapped : Bool) (table : List Identifier) (f : EventFilter) (filters bounds : List Term) :
    Select.ofClauses (baseClauses mapped table ++ filters.map Clause.condition ++
      (f.timeframe.toList.flatMap timeConditions).map Clause.condition ++
        ((if f.aggregation.isSome then groupTerms mapped else []).map Clause.group ++
          bounds.map Clause.groupCondition)) = f.selection mapped table filters bounds := by
  unfold Select.ofClauses
  rw [List.foldl_append, List.foldl_append, List.foldl_append, List.foldl_append, Select.foldl_push_condition,
    Select.foldl_push_condition, Select.foldl_push_group, Select.foldl_push_groupCondition]
  cases mapped
  · simp [baseClauses, Select.push, Select.empty, selection]
  · simp [baseClauses, Select.push, Select.empty, selection]

theorem map_condition_flatMap_timeConditions (timeframe : Option Timeframe) :
    (timeframe.toList.flatMap timeConditions).map Clause.condition =
      match timeframe with
      | none => []
      | some t => (timeConditions t).map Clause.condition := by
  cases timeframe <;> simp

/-- The term of the predicate, if there is one. -/
def filterTerms (f : EventFilter) : Except QueryError (List Term) :=
  match f.filter with
  | none => .ok []
  | some p => (Term.ofPredicate p).map ([·])

/-- The terms of the bounds, if there are any. -/
def boundTerms (f : EventFilter) : Except QueryError (List Term) :=
  match f.aggregation with
  | none => .ok []
  | some a => boundConditions a

/-- Whether there is a query, and with which terms, depends neither on the table nor on user mapping. -/
theorem select_eq_bind (mapped : Bool) (table : List Identifier) (f : EventFilter) :
    f.select mapped table =
      f.filterTerms >>= fun filters => f.boundTerms.map fun bounds => f.selection mapped table filters bounds := by
  have hparts (filters bounds : List Term) := ofClauses_eq_selection mapped table f filters bounds
  obtain ⟨collection, filter, timeframe, aggregation⟩ := f
  have hbounds (filters : List Term) :
      (do
        let bounds ← match aggregation with
          | none => pure []
          | some a => do pure ((groupTerms mapped).map Clause.group ++ (← boundConditions a).map Clause.groupCondition)
        return Select.ofClauses (baseClauses mapped table ++ filters.map Clause.condition ++
          (timeframe.toList.flatMap timeConditions).map Clause.condition ++ bounds) : Except QueryError Select) =
      (boundTerms ⟨collection, filter, timeframe, aggregation⟩).map fun bounds =>
        selection mapped table ⟨collection, filter, timeframe, aggregation⟩ filters bounds := by
    unfold boundTerms
    dsimp only
    cases aggregation with
    | none => exact congrArg Except.ok (hparts filters [])
    | some a =>
      dsimp only
      cases boundConditions a with
      | error e => rfl
      | ok bounds => exact congrArg Except.ok (hparts filters bounds)
  rw [map_condition_flatMap_timeConditions] at hbounds
  unfold select filterTerms
  dsimp only
  cases filter with
  | none => exact hbounds []
  | some p =>
    dsimp only
    cases Term.ofPredicate p with
    | error e => rfl
    | ok t => exact hbounds [t]

/-- What a query that was built selects. -/
theorem select_eq_ok {mapped : Bool} {table : List Identifier} {f : EventFilter} {s : Select}
    (h : f.select mapped table = .ok s) :
    ∃ filters bounds, List.Forall₂ (fun p t => Term.ofPredicate p = .ok t) f.filter.toList filters ∧
      List.Forall₂ (fun a ts => boundConditions a = .ok ts) f.aggregation.toList bounds ∧
        s = f.selection mapped table filters bounds.flatten := by
  rw [select_eq_bind] at h
  obtain ⟨filters, hfilterTerms, h⟩ := bind_eq_ok_iff.1 h
  obtain ⟨bounds, hboundTerms, rfl⟩ := map_eq_ok_iff.1 h
  have hfilters : List.Forall₂ (fun p t => Term.ofPredicate p = .ok t) f.filter.toList filters := by
    unfold filterTerms at hfilterTerms
    cases hfilter : f.filter with
    | none =>
      rw [hfilter] at hfilterTerms
      cases hfilterTerms
      exact .nil
    | some p =>
      rw [hfilter] at hfilterTerms
      obtain ⟨t, ht, rfl⟩ := map_eq_ok_iff.1 hfilterTerms
      exact .cons ht .nil
  unfold boundTerms at hboundTerms
  cases haggregation : f.aggregation with
  | none =>
    rw [haggregation] at hboundTerms
    cases hboundTerms
    exact ⟨filters, [], hfilters, .nil, rfl⟩
  | some a =>
    rw [haggregation] at hboundTerms
    exact ⟨filters, [bounds], hfilters, .cons hboundTerms .nil, by rw [List.flatten_singleton]⟩

/-- What a query in a catalog selects, with the terms of the predicate and of the bounds. -/
theorem query_eq_ok {mapping : Bool} {c : Catalog} {project : String} {f : EventFilter} {s : Select}
    (h : f.query mapping c project = .ok s) :
    ∃ (hcollection : isName f.collection = true) (filters : List Term) (bounds : List (List Term)),
      List.Forall₂ (fun p t => Term.ofPredicate p = .ok t) f.filter.toList filters ∧
        List.Forall₂ (fun a ts => boundConditions a = .ok ts) f.aggregation.toList bounds ∧
          s = f.selection (f.isMapped mapping c project) [.checked f.collection hcollection] filters
            bounds.flatten := by
  obtain ⟨collection, hcollection, hselect⟩ := bind_eq_ok_iff.1 h
  obtain ⟨hvalid, rfl⟩ := Identifier.mapError_check_eq_ok_iff.1 hcollection
  exact ⟨hvalid, select_eq_ok hselect⟩

end EventFilter

end Cohort
