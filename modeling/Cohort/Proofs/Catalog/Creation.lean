import Cohort.Catalog.Basic

/-!
# Creation of views

A view takes a place in its project, which is its table. The place has to be free, and nothing else changes.
-/

namespace Cohort.Catalog

theorem run_createView (project : String) (v : View) (c : Catalog) :
    (createView project v).run c =
      match checkProject project, checkCollection v.tableName with
      | .error e, _ => (.error (.request e), c)
      | .ok _, .error e => (.error (.request e), c)
      | .ok _, .ok _ =>
        if (c.viewsOf project).contains v.tableName then
          (.error (.alreadyExists ("materialized view " ++ v.tableName ++ " already exists")), c)
        else (.ok (), c.setView project v) := by
  unfold createView check
  cases checkProject project with
  | error e => rfl
  | ok _ =>
    cases checkCollection v.tableName with
    | error e => rfl
    | ok _ =>
      change (ite ((c.viewsOf project).contains v.tableName = true) _ _ : CatalogM Unit) c = _
      split
      · rfl
      · rfl

/-- A view is created in a place that is free, or nothing happens. -/
theorem run_createView_cases (project : String) (v : View) (c : Catalog) :
    (∃ e, (createView project v).run c = (.error e, c)) ∨
      (c.viewsOf project).get? v.tableName = none ∧ (createView project v).run c = (.ok (), c.setView project v) := by
  rw [run_createView]
  split
  · exact .inl ⟨_, rfl⟩
  · exact .inl ⟨_, rfl⟩
  · split
    · exact .inl ⟨_, rfl⟩
    · rename_i hfree
      exact .inr ⟨(Keyed.contains_eq_false_iff _).1 (Bool.not_eq_true _ ▸ hfree), rfl⟩

theorem get?_setView (c : Catalog) (project : String) (v : View) (p t : String) :
    ((c.setView project v).viewsOf p).get? t =
      if (p, t) = (project, v.tableName) then some v else (c.viewsOf p).get? t := by
  by_cases hp : p = project
  · subst p
    simp [Keyed.get?_insert]
  · rw [viewsOf_setView_of_ne _ _ hp, if_neg fun h => hp (congrArg Prod.fst h)]

theorem run_view (project tableName : String) (c : Catalog) :
    (view project tableName).run c =
      match (c.viewsOf project).get? tableName with
      | some v => (.ok v, c)
      | none => (.error (.notFound ("materialized view " ++ tableName ++ " not found")), c) := by
  change (match (c.viewsOf project).get? tableName with
    | some v => return v
    | none => throw (.notFound ("materialized view " ++ tableName ++ " not found")) : CatalogM View) c = _
  cases (c.viewsOf project).get? tableName with
  | none => rfl
  | some v => rfl

end Cohort.Catalog
