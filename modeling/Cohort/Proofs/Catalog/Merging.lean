import Cohort.Schema
import Mathlib.Data.List.Nodup

/-!
# Merging fields

Fields that are merged into a list come after it, each new name once. So the list stays in front, it has the names of
both lists, and no name is there twice unless the list itself had it twice. What is there under a name is what came
first.
-/

namespace Cohort

variable {fields fs : List Field}

theorem mergeFields_cons_of_mem {f : Field} (h : f.name ∈ fields.map (·.name)) (fs : List Field) :
    mergeFields fields (f :: fs) = mergeFields fields fs := by
  rw [mergeFields, if_pos (hasField_iff.2 h)]

theorem mergeFields_cons_of_not_mem {f : Field} (h : f.name ∉ fields.map (·.name)) (fs : List Field) :
    mergeFields fields (f :: fs) = mergeFields (fields ++ [f]) fs := by
  rw [mergeFields, if_neg (mt hasField_iff.1 h)]

theorem prefix_mergeFields (fields fs : List Field) : fields <+: mergeFields fields fs := by
  induction fs generalizing fields with
  | nil => exact List.prefix_refl fields
  | cons f fs ih =>
    by_cases h : f.name ∈ fields.map (·.name)
    · rw [mergeFields_cons_of_mem h]
      exact ih fields
    · rw [mergeFields_cons_of_not_mem h]
      exact (List.prefix_append fields [f]).trans (ih (fields ++ [f]))

theorem mem_or_mem_of_mem_mergeFields {f : Field} (h : f ∈ mergeFields fields fs) : f ∈ fields ∨ f ∈ fs := by
  induction fs generalizing fields with
  | nil => exact .inl h
  | cons g fs ih =>
    by_cases hg : g.name ∈ fields.map (·.name)
    · rw [mergeFields_cons_of_mem hg] at h
      exact (ih h).imp_right (List.mem_cons_of_mem g)
    · rw [mergeFields_cons_of_not_mem hg] at h
      have hf := ih h
      rw [List.mem_append, List.mem_singleton, or_assoc, ← List.mem_cons] at hf
      exact hf

/-- Every merged name is there. -/
theorem mem_names_mergeFields {f : Field} (h : f ∈ fs) : f.name ∈ (mergeFields fields fs).map (·.name) := by
  induction fs generalizing fields with
  | nil => cases h
  | cons g fs ih =>
    by_cases hg : g.name ∈ fields.map (·.name)
    · rw [mergeFields_cons_of_mem hg]
      rcases List.mem_cons.1 h with rfl | h
      · exact ((prefix_mergeFields fields fs).map (·.name)).subset hg
      · exact ih h
    · rw [mergeFields_cons_of_not_mem hg]
      rcases List.mem_cons.1 h with rfl | h
      · exact List.mem_map_of_mem ((prefix_mergeFields _ fs).subset (List.mem_append_right fields List.mem_cons_self))
      · exact ih h

theorem mem_names_mergeFields_iff {name : String} :
    name ∈ (mergeFields fields fs).map (·.name) ↔ name ∈ fields.map (·.name) ∨ name ∈ fs.map (·.name) := by
  constructor
  · intro h
    obtain ⟨f, hf, rfl⟩ := List.mem_map.1 h
    exact (mem_or_mem_of_mem_mergeFields hf).imp (List.mem_map_of_mem ·) (List.mem_map_of_mem ·)
  · rintro (h | h)
    · exact ((prefix_mergeFields fields fs).map (·.name)).subset h
    · obtain ⟨f, hf, rfl⟩ := List.mem_map.1 h
      exact mem_names_mergeFields hf

/-- Fields whose names are all there change nothing. -/
theorem mergeFields_eq_self (h : ∀ f ∈ fs, f.name ∈ fields.map (·.name)) : mergeFields fields fs = fields := by
  induction fs with
  | nil => rfl
  | cons f fs ih =>
    obtain ⟨hf, hfs⟩ := List.forall_mem_cons.1 h
    rw [mergeFields_cons_of_mem hf, ih hfs]

theorem find?_name_cons (f : Field) (fs : List Field) (name : String) :
    (f :: fs).find? (·.name == name) = if f.name = name then some f else fs.find? (·.name == name) := by
  by_cases h : f.name = name
  · rw [if_pos h]
    exact List.find?_cons_of_pos (beq_iff_eq.2 h)
  · rw [if_neg h]
    exact List.find?_cons_of_neg (mt beq_iff_eq.1 h)

/-- Of the merged fields, each one that comes after the others is the first with a name that these lack. -/
theorem mem_mergeFields_iff {f : Field} :
    f ∈ mergeFields fields fs ↔
      f ∈ fields ∨ f.name ∉ fields.map (·.name) ∧ fs.find? (·.name == f.name) = some f := by
  induction fs generalizing fields with
  | nil => exact (or_iff_left fun h => nomatch h.2).symm
  | cons g fs ih =>
    rw [find?_name_cons]
    by_cases hg : g.name ∈ fields.map (·.name)
    · rw [mergeFields_cons_of_mem hg, ih]
      refine or_congr_right (and_congr_right fun hf => ?_)
      rw [if_neg fun h : g.name = f.name => hf (h ▸ hg)]
    · rw [mergeFields_cons_of_not_mem hg, ih, List.map_append, List.mem_append, List.mem_append, List.map_singleton,
        List.mem_singleton, List.mem_singleton, or_assoc]
      refine or_congr_right ?_
      by_cases hname : g.name = f.name
      · rw [if_pos hname, Option.some.injEq, ← hname, and_iff_right hg, eq_comm (a := g)]
        exact or_iff_left fun h => h.1 (.inr rfl)
      · have hne : f ≠ g := fun h => hname (h ▸ rfl)
        rw [if_neg hname, or_iff_right hne, or_iff_left (Ne.symm hname)]

theorem mergeFields_append (fields fs gs : List Field) :
    mergeFields fields (fs ++ gs) = mergeFields (mergeFields fields fs) gs := by
  induction fs generalizing fields with
  | nil => rfl
  | cons f fs ih => exact ih _

/-- What comes after the others is left of the merged fields, in their order. -/
theorem mergeFields_eq_append_sublist (fields fs : List Field) :
    ∃ added, mergeFields fields fs = fields ++ added ∧ added.Sublist fs := by
  induction fs generalizing fields with
  | nil => exact ⟨[], (List.append_nil fields).symm, List.nil_sublist []⟩
  | cons f fs ih =>
    by_cases h : f.name ∈ fields.map (·.name)
    · rw [mergeFields_cons_of_mem h]
      obtain ⟨added, heq, hsub⟩ := ih fields
      exact ⟨added, heq, hsub.cons f⟩
    · rw [mergeFields_cons_of_not_mem h]
      obtain ⟨added, heq, hsub⟩ := ih (fields ++ [f])
      exact ⟨f :: added, by rw [heq, List.append_cons fields f added], hsub.cons_cons f⟩

/-- Fields can be merged a second time without a change. -/
theorem mergeFields_mergeFields_self (fields fs : List Field) :
    mergeFields (mergeFields fields fs) fs = mergeFields fields fs :=
  mergeFields_eq_self fun _ => mem_names_mergeFields

theorem nodup_mergeFields_iff : ((mergeFields fields fs).map (·.name)).Nodup ↔ (fields.map (·.name)).Nodup := by
  induction fs generalizing fields with
  | nil => rfl
  | cons f fs ih =>
    by_cases h : f.name ∈ fields.map (·.name)
    · rw [mergeFields_cons_of_mem h, ih]
    · rw [mergeFields_cons_of_not_mem h, ih, List.map_append, List.map_singleton, ← List.concat_eq_append,
        List.nodup_concat, and_iff_right h]

/-- Fields are merged as they stand if all their names are new and differ. -/
theorem mergeFields_eq_append_of_new (hfs : (fs.map (·.name)).Nodup) (h : ∀ f ∈ fs, f.name ∉ fields.map (·.name)) :
    mergeFields fields fs = fields ++ fs := by
  induction fs generalizing fields with
  | nil => exact (List.append_nil fields).symm
  | cons f fs ih =>
    obtain ⟨hf, hothers⟩ := List.forall_mem_cons.1 h
    obtain ⟨hfirst, hrest⟩ := List.nodup_cons.1 hfs
    rw [mergeFields_cons_of_not_mem hf, List.append_cons fields f fs]
    apply ih hrest
    intro g hg hmem
    rw [List.map_append, List.mem_append, List.map_singleton, List.mem_singleton] at hmem
    rcases hmem with hmem | hsame
    · exact hothers g hg hmem
    · exact hfirst (List.mem_map.2 ⟨g, hg, hsame⟩)

/-- Fields are merged as they stand if there are no names to leave out. -/
theorem mergeFields_eq_append (h : ((fields ++ fs).map (·.name)).Nodup) : mergeFields fields fs = fields ++ fs := by
  rw [List.map_append] at h
  apply mergeFields_eq_append_of_new h.of_append_right
  intro f hf hmem
  exact List.disjoint_of_nodup_append h hmem (List.mem_map_of_mem hf)

/-- Fields that are merged into none stay as they are if and only if their names differ. -/
theorem mergeFields_nil_eq_self_iff : mergeFields [] fs = fs ↔ (fs.map (·.name)).Nodup := by
  constructor
  · intro h
    rw [← h, nodup_mergeFields_iff]
    exact List.nodup_nil
  · intro h
    exact mergeFields_eq_append h

/-! ## The first field of a name -/

/-- The fields without those whose name has come before. -/
def firstOfEachName (fs : List Field) : List Field := fs.eraseDupsBy fun f g => f.name == g.name

theorem firstOfEachName_cons (f : Field) (fs : List Field) :
    firstOfEachName (f :: fs) = f :: firstOfEachName (fs.filter fun g => g.name != f.name) := by
  rw [firstOfEachName, List.eraseDupsBy_cons]
  refine congrArg (fun others => f :: firstOfEachName others) (List.filter_congr fun g _ => ?_)
  rw [Bool.decide_eq_false, bne]

/-- What comes after the others are the first fields of the names that these lack. -/
theorem mergeFields_eq_append_firstOfEachName (fields fs : List Field) :
    mergeFields fields fs = fields ++ firstOfEachName (fs.filter fun f => !hasField fields f.name) := by
  induction fs generalizing fields with
  | nil => exact (List.append_nil fields).symm
  | cons f fs ih =>
    by_cases h : f.name ∈ fields.map (·.name)
    · rw [mergeFields_cons_of_mem h, ih, List.filter_cons_of_neg]
      rw [hasField_iff.2 h]
      exact Bool.false_ne_true
    · rw [mergeFields_cons_of_not_mem h, ih, List.filter_cons_of_pos, firstOfEachName_cons, List.filter_filter,
        List.append_assoc, List.singleton_append]
      · refine congrArg (fun others => fields ++ f :: firstOfEachName others) (List.filter_congr fun g _ => ?_)
        simp only [hasField, List.any_append, List.any_cons, List.any_nil, Bool.or_false, Bool.not_or, bne]
        rw [Bool.and_comm, BEq.comm]
      · rw [Bool.eq_false_iff.2 (mt hasField_iff.1 h)]
        rfl

/-- Fields that are merged into none are the first ones of their names. -/
theorem mergeFields_nil (fs : List Field) : mergeFields [] fs = firstOfEachName fs := by
  rw [mergeFields_eq_append_firstOfEachName, List.nil_append]
  exact congrArg firstOfEachName (List.filter_eq_self.2 fun _ _ => rfl)

/-- Under each name there is what has been there first. -/
theorem find?_mergeFields (fields fs : List Field) (name : String) :
    (mergeFields fields fs).find? (·.name == name) = (fields ++ fs).find? (·.name == name) := by
  induction fs generalizing fields with
  | nil => rw [mergeFields, List.append_nil]
  | cons f fs ih =>
    by_cases h : f.name ∈ fields.map (·.name)
    · rw [mergeFields_cons_of_mem h, ih, List.find?_append, List.find?_append, find?_name_cons]
      split
      · rename_i hname
        obtain ⟨g, hg, hgf⟩ := List.mem_map.1 h
        have hfound : (fields.find? (·.name == name)).isSome := by
          rw [List.find?_isSome]
          exact ⟨g, hg, beq_iff_eq.2 (hgf.trans hname)⟩
        rw [Option.or_of_isSome hfound, Option.or_of_isSome hfound]
      · rfl
    · rw [mergeFields_cons_of_not_mem h, ih, List.append_assoc, List.singleton_append]

end Cohort
