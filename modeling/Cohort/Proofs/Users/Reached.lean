import Cohort.Proofs.Users.Isolation
import Cohort.Proofs.Users.Segments

/-!
# Sessions that can be reached

A session begins with an empty catalog. Storages are prepared in it and operations are asked of it, in any order, while
the engines may change how they answer. Whatever has happened, only changes have touched the collections, and so
everything in the catalog bears a proper name.
-/

namespace Cohort

variable {c d : Catalog}

namespace Catalog

/-- Names are those of collections and their fields, not of views. -/
theorem IsWellNamed.of_collections_eq (h : c.IsWellNamed) (hcd : d.collections = c.collections) : d.IsWellNamed := by
  obtain ⟨collections, views⟩ := d
  cases hcd
  exact ⟨h.projects, h.collections, h.fields⟩

theorem IsWellNamed.changed (h : c.IsWellNamed) (a : Change) : (c.changed a).IsWellNamed := by
  by_cases ha : a.IsAllowed c
  · rw [changed_of_isAllowed ha]
    exact isWellNamed_setFields_result h ha
  · rw [changed_of_not_isAllowed ha]
    exact h

end Catalog

theorem StorageSettings.catalog_run_prepare (s : StorageSettings) (σ : Session) :
    (s.prepare.run σ).2.catalog = σ.catalog := by
  unfold prepare
  rw [Session.run_lift_bind]
  split
  · cases s.kind with
    | attributes => rfl
    | events =>
      change (createSchema.run σ).2.catalog = σ.catalog
      rw [run_createSchema]
      rfl
  · rfl

namespace Operation

/-- An operation makes a change of the collections, or none. -/
theorem exists_change_of_run (s : StorageSettings) (ready : Bool) (op : Operation) (σ : Session) :
    (∃ a : Change, (run s ready op σ).2.catalog = σ.catalog.changed a) ∨
      (run s ready op σ).2.catalog.collections = σ.catalog.collections := by
  cases hplace : op.place? with
  | some place =>
    refine .inr ?_
    obtain ⟨v, -, hcreates⟩ | ⟨o, -, hrun⟩ := creates_or_fails s ready σ hplace
    · rw [hcreates.run_eq]
      rfl
    · rw [hrun]
  | none =>
    cases op with
    | search p r =>
      cases ready with
      | false => exact .inr rfl
      | true =>
        refine .inr ?_
        change ((settle .rows (s.search p r)) σ).2.catalog.collections = _
        rw [settle_apply, s.catalog_run_search]
    | createSchema =>
      refine .inr ?_
      rw [run, settle_apply, StorageSettings.run_createSchema]
      rfl
    | view p t =>
      refine .inr ?_
      rw [run, change_apply, Catalog.run_view]
      split
      · rfl
      · rfl
    | createCollection p q fs =>
      refine .inl ⟨.create p q fs, ?_⟩
      rw [run, change_apply]
      rfl
    | addFields p q fs =>
      refine .inl ⟨.add p q fs, ?_⟩
      rw [run, change_apply]
      rfl
    | segment => cases hplace
    | createView => cases hplace
    | _ => exact .inr rfl

theorem isWellNamed_run (s : StorageSettings) (ready : Bool) (op : Operation) {σ : Session}
    (h : σ.catalog.IsWellNamed) : (run s ready op σ).2.catalog.IsWellNamed := by
  obtain ⟨a, ha⟩ | hkept := exists_change_of_run s ready op σ
  · rw [ha]
    exact h.changed a
  · exact h.of_collections_eq hkept

end Operation

namespace Session

/-- The session comes about from an empty catalog, whatever has been prepared and asked, and whatever the engines have
answered. -/
inductive IsReached : Session → Prop
  | start (events users : Engine) : IsReached ⟨.empty, events, users⟩
  | prepare {σ : Session} (s : StorageSettings) (h : IsReached σ) : IsReached (s.prepare.run σ).2
  | run {σ : Session} (s : StorageSettings) (ready : Bool) (op : Operation) (h : IsReached σ) :
    IsReached (op.run s ready σ).2
  | answering {σ : Session} (answers : Target → Except String Rows) (h : IsReached σ) :
    IsReached (σ.answering answers)

theorem IsReached.isWellNamed {σ : Session} (h : σ.IsReached) : σ.catalog.IsWellNamed := by
  induction h with
  | start events users => exact Catalog.isWellNamed_empty
  | prepare s h ih =>
    rw [s.catalog_run_prepare]
    exact ih
  | run s ready op h ih => exact Operation.isWellNamed_run s ready op ih
  | answering answers h ih => exact ih

end Session

end Cohort
