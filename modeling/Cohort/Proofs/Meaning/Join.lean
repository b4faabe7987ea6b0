import Cohort.Proofs.Meaning.Predicate

/-!
# The meaning of joins

A join puts rows of a relation beside each row, or a row of nulls if its condition is true of none. What is put beside
a row does not change the columns that are named with another relation, and nulls do not change any column.
-/

namespace Cohort

variable {label : String} {columns : List String}

namespace Scope

theorem cell_append_nulls (s : Scope) (relation : Option String) (name : String) :
    cell (s ++ [⟨label, columns, []⟩]) relation name = s.cell relation name := by
  unfold cell
  rw [List.find?_append]
  cases s.find? fun b => relation.all (· == b.label) && b.columns.contains name with
  | some b => rfl
  | none =>
    rw [Option.none_or, List.find?_singleton]
    cases relation.all (· == label) && columns.contains name with
    | true => simp [Table.cell]
    | false => rfl

theorem path_append_nulls (s : Scope) (parts : List String) :
    path (s ++ [⟨label, columns, []⟩]) parts = s.path parts := by
  match parts with
  | [] => rfl
  | [name] => exact cell_append_nulls s none name
  | [relation, name] => exact cell_append_nulls s (some relation) name
  | _ :: _ :: _ :: _ => rfl

theorem cell_append_of_ne (s : Scope) {relation : String} (hne : relation ≠ label) (row : Row) (name : String) :
    cell (s ++ [⟨label, columns, row⟩]) (some relation) name = s.cell (some relation) name := by
  unfold cell
  rw [List.find?_append, List.find?_cons_of_neg (by simp [hne]), List.find?_nil, Option.or_none]

end Scope

/-- Beside nulls, predicates have the value that they have without them. -/
theorem Predicate.value_append_nulls (e : Dialect) (p : Predicate) (s : Scope) :
    p.value e (s ++ [⟨label, columns, []⟩]) = p.value e s := by
  induction p using Predicate.induct with
  | column names => exact s.path_append_nulls names
  | literal v => rfl
  | binary l op r ihl ihr => rw [value, value, ihl, ihr]
  | not p ih => rw [value, value, ih]
  | isNull p ih => rw [value, value, ih]
  | isNotNull p ih => rw [value, value, ih]
  | inList p items negated ih ihs =>
    have hitems : valuesOf e items (s ++ [⟨label, columns, []⟩]) = valuesOf e items s := by
      clear ih
      induction items with
      | nil => rfl
      | cons item items ihrest =>
        obtain ⟨ihfirst, ihlater⟩ := List.forall_mem_cons.1 ihs
        rw [valuesOf, valuesOf, ihfirst, ihrest ihlater]
    rw [value, value, ih, hitems]
  | like p pattern negated ih ihpattern => rw [value, value, ih, ihpattern]
  | between p low high negated ih ihlow ihhigh => rw [value, value, ih, ihlow, ihhigh]

namespace Sql

variable {e : Dialect} {d : Database} {relation : Relation} {condition : Term} {outer s s' : Scope} {t : Table}

/-- Where the condition is true of no row of the relation, there are nulls beside the row. -/
theorem Join.extend_eq_nulls (hnamed : relation.named e d outer = (label, t))
    (hfails : ∀ row, condition.value e d (s ++ [⟨label, t.columns, row⟩] ++ outer) [] ≠ .boolean true) :
    Join.extend e d ⟨relation, condition⟩ outer s = [s ++ [⟨label, t.columns, []⟩]] := by
  have hnone : ((t.rows.map fun row => s ++ [⟨label, t.columns, row⟩]).filter fun s' =>
      condition.value e d (s' ++ outer) [] = .boolean true) = [] := by
    rw [List.filter_eq_nil_iff]
    intro s' hs'
    obtain ⟨row, -, rfl⟩ := List.mem_map.1 hs'
    simpa using hfails row
  rw [Join.extend, hnamed]
  dsimp only
  rw [hnone]
  rfl

/-- Some row of the relation is beside the row, or nulls are. -/
theorem Join.exists_of_mem_extend (hnamed : relation.named e d outer = (label, t))
    (h : s' ∈ Join.extend e d ⟨relation, condition⟩ outer s) : ∃ row, s' = s ++ [⟨label, t.columns, row⟩] := by
  rw [Join.extend, hnamed] at h
  dsimp only at h
  split at h
  · exact ⟨[], List.mem_singleton.1 h⟩
  · obtain ⟨row, -, rfl⟩ := List.mem_map.1 (List.mem_filter.1 h).1
    exact ⟨row, rfl⟩

/-- Rows that are each dropped or changed are the changed ones of those that are not dropped. -/
theorem flatMap_eq_map_filter {α β : Type} {keep : α → Bool} {f : α → List β} {g : α → β}
    (hkeep : ∀ a, keep a = true → f a = [g a]) (hdrop : ∀ a, keep a = false → f a = []) (as : List α) :
    as.flatMap f = (as.filter keep).map g := by
  induction as with
  | nil => rfl
  | cons a as ih =>
    rw [List.flatMap_cons, ih]
    cases ha : keep a with
    | true => rw [hkeep a ha, List.filter_cons_of_pos ha, List.map_cons, List.singleton_append]
    | false => rw [hdrop a ha, List.filter_cons_of_neg (by simp [ha]), List.nil_append]

/-- The rows that a selection with one join keeps, gathered row by row. -/
theorem kept_eq_flatMap {q : Select} {j : Join} (hjoins : q.joins = [j]) :
    q.kept e d outer = (sourceScopes e d q.source outer).flatMap fun own =>
      (j.extend e d outer own).filter fun own' => holdAll e d q.conditions (own' ++ outer) [] := by
  unfold Select.kept
  rw [hjoins]
  exact List.filter_flatMap ..

end Sql

end Cohort
