import Cohort.Proofs.Catalog.Change

/-!
# Fields of one name

Fields that are added to a collection have names that it does not have yet. Fields that a collection is created with
are taken as they are, so they are the only way for a collection to have two fields of one name, and then it keeps
them.
-/

namespace Cohort.Catalog

variable {c : Catalog} {p q : String}

/-- A change leaves two fields of one name if and only if they have been there, or it creates them. -/
theorem nodup_changed_iff (c : Catalog) (a : Change) (p q : String) :
    (((c.changed a).fieldsOf p q).map (·.name)).Nodup ↔
      ((c.fieldsOf p q).map (·.name)).Nodup ∧
        ∀ fs, a = .create p q fs → a.Succeeds c → (fs.map (·.name)).Nodup := by
  by_cases ha : a.IsAllowed c
  · rw [changed_of_isAllowed ha]
    by_cases same : (p, q) = (a.project, a.collection)
    · obtain ⟨rfl, rfl⟩ := Prod.mk.inj same
      rw [fieldsOf_setFields]
      cases a with
      | create project collection fs =>
        have hmissing : c.fieldsOf project collection = [] := Change.fieldsOf_of_isAllowed_create ha
        have hsucceeds := Change.succeeds_iff_isAllowed.2 ha
        simp [Change.project, Change.collection, Change.result, hmissing, hsucceeds]
      | add project collection fs => simp [Change.project, Change.collection, Change.result, nodup_mergeFields_iff]
    · have other : ∀ fs, a ≠ .create p q fs := by
        rintro fs rfl
        exact same rfl
      rw [fieldsOf, get?_setFields_of_ne _ _ same, ← fieldsOf]
      exact (and_iff_left fun fs hfs => absurd hfs (other fs)).symm
  · rw [changed_of_not_isAllowed ha]
    exact (and_iff_left fun _ _ hsucceeds => absurd (Change.succeeds_iff_isAllowed.1 hsucceeds) ha).symm

/-- Changes leave two fields of one name if and only if they have been there, or some change creates them. -/
theorem nodup_changedAll_iff (c : Catalog) (as : List Change) (p q : String) :
    (((c.changedAll as).fieldsOf p q).map (·.name)).Nodup ↔
      ((c.fieldsOf p q).map (·.name)).Nodup ∧
        ∀ before fs later, as = before ++ .create p q fs :: later →
          (Change.create p q fs).Succeeds (c.changedAll before) → (fs.map (·.name)).Nodup := by
  induction as generalizing c with
  | nil => simp [changedAll]
  | cons a as ih =>
    rw [changedAll_cons, ih, nodup_changed_iff, and_assoc]
    refine and_congr_right fun _ => ⟨?_, ?_⟩
    · rintro ⟨hfirst, hlater⟩ before fs later hsplit hsucceeds
      -- the creation is the first change or one of the others
      rcases List.cons_eq_append_iff.1 hsplit with ⟨rfl, hcons⟩ | ⟨before, rfl, has⟩
      · obtain ⟨rfl, -⟩ := List.cons.inj hcons
        exact hfirst fs rfl hsucceeds
      · exact hlater before fs later has hsucceeds
    · intro h
      refine ⟨?_, fun before fs later has hsucceeds => h (a :: before) fs later (has ▸ rfl) hsucceeds⟩
      rintro fs rfl hsucceeds
      exact h [] fs as rfl hsucceeds

/-- A collection that is not there is the same when it is created with some fields and when they are added to it, if
and only if their names differ or both are refused. -/
theorem fieldsOf_create_eq_add_iff {fs : List Field} (hmissing : (c.collectionsOf p).get? q = none) :
    (c.changed (.create p q fs)).fieldsOf p q = (c.changed (.add p q fs)).fieldsOf p q ↔
      ((Change.create p q fs).Succeeds c → (fs.map (·.name)).Nodup) := by
  have hadd : (Change.add p q fs).IsAllowed c ↔ (Change.create p q fs).IsAllowed c := by
    refine and_congr_right fun _ => iff_of_true (fun _ _ _ h => nomatch h) ?_
    rintro _ _ _ ⟨⟩
    exact hmissing
  rw [Change.succeeds_iff_isAllowed]
  by_cases ha : (Change.create p q fs).IsAllowed c
  · rw [changed_of_isAllowed ha, changed_of_isAllowed (hadd.2 ha)]
    change (c.setFields p q fs).fieldsOf p q = (c.setFields p q (mergeFields (c.fieldsOf p q) fs)).fieldsOf p q ↔ _
    rw [fieldsOf_setFields, fieldsOf_setFields, Change.fieldsOf_of_isAllowed_create ha, eq_comm,
      mergeFields_nil_eq_self_iff]
    exact ⟨fun h _ => h, fun h => h ha⟩
  · rw [changed_of_not_isAllowed ha, changed_of_not_isAllowed (mt hadd.1 ha)]
    exact iff_of_true rfl fun h => absurd h ha

/-- The fields of a collection have different names if and only if it has not been created with two fields of one
name, and exactly then to create it has the same effect as to add its fields. -/
theorem nodup_names_iff_created_nodup (history : List Change) (p q : String) :
    let c := empty.changedAll history
    (((c.fieldsOf p q).map (·.name)).Nodup ↔
      ∀ before fs later, history = before ++ .create p q fs :: later →
        (Change.create p q fs).Succeeds (empty.changedAll before) → (fs.map (·.name)).Nodup) ∧
      ∀ fs, (c.collectionsOf p).get? q = none →
        ((c.changed (.create p q fs)).fieldsOf p q = (c.changed (.add p q fs)).fieldsOf p q ↔
          ((Change.create p q fs).Succeeds c → (fs.map (·.name)).Nodup)) := by
  refine ⟨?_, fun fs hmissing => fieldsOf_create_eq_add_iff hmissing⟩
  rw [nodup_changedAll_iff]
  exact and_iff_right List.nodup_nil

/-- A device, and another field of that name. -/
def devices : List Field := [⟨"device", .string, true⟩, ⟨"device", .long, true⟩]

/-- Visits that are created with a device and get both devices afterwards have one. -/
theorem nodup_names_visits :
    (((empty.changedAll [.create "shop" "visits" (devices.take 1), .add "shop" "visits" devices]).fieldsOf
      "shop" "visits").map (·.name)).Nodup := by
  refine (nodup_names_iff_created_nodup _ _ _).1.2 fun before fs later hsplit _ => ?_
  have hmem : Change.create "shop" "visits" fs ∈ before ++ .create "shop" "visits" fs :: later :=
    List.mem_append_right before List.mem_cons_self
  rw [← hsplit] at hmem
  obtain rfl : fs = devices.take 1 := by simpa using hmem
  decide

/-- Visits that are created with both devices have them, and have one of them if they are added. -/
theorem not_nodup_names_visits :
    ¬(((empty.changedAll [.create "shop" "visits" devices]).fieldsOf "shop" "visits").map (·.name)).Nodup ∧
      (empty.changed (.create "shop" "visits" devices)).fieldsOf "shop" "visits" ≠
        (empty.changed (.add "shop" "visits" devices)).fieldsOf "shop" "visits" := by
  decide

end Cohort.Catalog
