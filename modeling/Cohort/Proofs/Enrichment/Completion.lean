import Cohort.Proofs.Enrichment.Declaration
import Cohort.Proofs.Enrichment.Dependency

/-!
# What a collection lacks

Mappers may declare a name more than once, with different types and for several sources. Declarations are merged, the
merged fields are compared with those that a collection has, and what is missing is merged into the collection. No
name is lost on this way and none comes in twice: the collection gains what it lacks, each name as it is declared
first, or nothing at all.
-/

namespace Cohort

variable {d : Dependency} {existing : List Field}

/-- The fields that a collection with those fields needs because of the declaration. -/
def Declaration.needed (existing : List Field) : Declaration → List Field
  | .constant fields => fields
  | .dependent source fields => if hasField existing source then fields else []

namespace Dependency

/-- The fields that are needed because of those that are there, by the names of these. -/
def implied (d : Dependency) (existing : List Field) : List Field :=
  (d.dependent.entries.filter fun e => hasField existing e.1).flatMap Prod.snd

/-- The missing fields are those that a collection lacks, each name once and as it comes first, those that every
collection needs before the others. -/
structure IsLack (d : Dependency) (existing missing : List Field) : Prop where
  nodup : (missing.map (·.name)).Nodup
  new : ∀ f ∈ missing, f.name ∉ existing.map (·.name)
  covers : ∀ name, name ∈ (existing ++ missing).map (·.name) ↔
    name ∈ existing.map (·.name) ∨ name ∈ d.constant.map (·.name) ∨
      ∃ source ∈ existing.map (·.name), name ∈ (d.dependentOn source).map (·.name)
  order : ∃ others, missing = (d.constant.filter fun f => !hasField existing f.name) ++ others ∧
    others.Sublist (d.implied existing)
  first : ∀ f ∈ missing, (d.constant ++ d.implied existing).find? (·.name == f.name) = some f

theorem mem_names_needed_iff {name : String} :
    name ∈ (d.needed existing).map (·.name) ↔
      name ∈ d.constant.map (·.name) ∨
        ∃ source ∈ existing.map (·.name), name ∈ (d.dependentOn source).map (·.name) := by
  constructor
  · intro h
    obtain ⟨f, hf, rfl⟩ := List.mem_map.1 h
    refine (mem_needed_iff.1 hf).imp (List.mem_map_of_mem ·) ?_
    rintro ⟨source, hsource, hdependent⟩
    exact ⟨source, hsource, List.mem_map_of_mem hdependent⟩
  · rintro (h | ⟨source, hsource, h⟩)
    · obtain ⟨f, hf, rfl⟩ := List.mem_map.1 h
      exact List.mem_map_of_mem (mem_needed_iff.2 (.inl hf))
    · obtain ⟨f, hf, rfl⟩ := List.mem_map.1 h
      exact List.mem_map_of_mem (mem_needed_iff.2 (.inr ⟨source, hsource, hf⟩))

/-- No name that is declared is lost, and no other one is needed. -/
theorem mem_names_needed_ofDeclarations_iff {ds : List Declaration} {name : String} :
    name ∈ ((ofDeclarations ds).needed existing).map (·.name) ↔
      ∃ a ∈ ds, name ∈ (a.needed existing).map (·.name) := by
  have hconstant : name ∈ (ofDeclarations ds).constant.map (·.name) ↔ _ := mem_names_ofDeclarations_iff (s := none)
  have hdependent (source : String) : name ∈ ((ofDeclarations ds).dependentOn source).map (·.name) ↔ _ :=
    mem_names_ofDeclarations_iff (s := some source)
  simp only [mem_names_needed_iff, hconstant, hdependent]
  constructor
  · rintro (⟨a, ha, hnone, h⟩ | ⟨source, hsource, a, ha, hsome, h⟩)
    · cases a with
      | constant fields => exact ⟨_, ha, h⟩
      | dependent source fields => cases hnone
    · cases a with
      | constant fields => cases hsome
      | dependent other fields =>
        cases hsome
        refine ⟨_, ha, ?_⟩
        rw [Declaration.needed, if_pos (hasField_iff.2 hsource)]
        exact h
  · rintro ⟨a, ha, h⟩
    cases a with
    | constant fields => exact .inl ⟨_, ha, rfl, h⟩
    | dependent source fields =>
      rw [Declaration.needed] at h
      split at h
      · rename_i hsource
        exact .inr ⟨source, hasField_iff.1 hsource, _, ha, rfl, h⟩
      · cases h

theorem nodup_names_constant_ofDeclarations (ds : List Declaration) :
    ((ofDeclarations ds).constant.map (·.name)).Nodup := by
  have hconstant : (ofDeclarations ds).constant = mergeFields [] (Declaration.declaredFor none ds) :=
    declared_ofDeclarations ds none
  rw [hconstant, nodup_mergeFields_iff]
  exact List.nodup_nil

theorem mem_missing_iff {f : Field} :
    f ∈ d.missing existing ↔
      f.name ∉ existing.map (·.name) ∧ (d.needed existing).find? (·.name == f.name) = some f := by
  rw [missing, mem_mergeFields_iff, or_iff_right List.not_mem_nil, List.map_nil, and_iff_right List.not_mem_nil,
    List.find?_filter]
  by_cases hf : f.name ∈ existing.map (·.name)
  · rw [iff_false_right fun h => h.1 hf]
    intro h
    have hnew := List.find?_some h
    rw [hasField_iff.2 hf] at hnew
    cases hnew
  · rw [and_iff_right hf]
    refine Eq.congr_left (congrArg (List.find? · _) (funext fun g => Bool.eq_iff_iff.2 ?_))
    rw [decide_eq_true_iff, beq_iff_eq]
    refine and_iff_right_of_imp fun hname => ?_
    rw [hname, Bool.eq_false_iff.2 (mt hasField_iff.1 hf)]
    rfl

theorem missing_eq_append_sublist (h : (d.constant.map (·.name)).Nodup) (existing : List Field) :
    ∃ others, d.missing existing = (d.constant.filter fun f => !hasField existing f.name) ++ others ∧
      others.Sublist (d.implied existing) := by
  -- the names of the constants differ, so they are merged into nothing as they stand
  have hconstant : ((d.constant.filter fun f => !hasField existing f.name).map (·.name)).Nodup :=
    h.sublist (List.filter_sublist.map _)
  obtain ⟨others, heq, hsub⟩ := mergeFields_eq_append_sublist
    (d.constant.filter fun f => !hasField existing f.name)
    ((d.implied existing).filter fun f => !hasField existing f.name)
  refine ⟨others, ?_, hsub.trans List.filter_sublist⟩
  rw [missing, show d.needed existing = d.constant ++ d.implied existing from rfl, List.filter_append,
    mergeFields_append, mergeFields_nil_eq_self_iff.2 hconstant, heq]

theorem isLack_missing (h : (d.constant.map (·.name)).Nodup) (existing : List Field) :
    d.IsLack existing (d.missing existing) where
  nodup := d.nodup_names_missing existing
  new f hf := (mem_missing_iff.1 hf).1
  covers name := by
    rw [List.map_append, List.mem_append, mem_names_missing_iff, ← List.mem_map, mem_names_needed_iff]
    by_cases hthere : name ∈ existing.map (·.name)
    · exact iff_of_true (.inl hthere) (.inl hthere)
    · rw [or_iff_right hthere, or_iff_right hthere, and_iff_left hthere]
  order := missing_eq_append_sublist h existing
  first f hf := (mem_missing_iff.1 hf).2

end Dependency

namespace Pipeline

theorem mem_names_needed_dependency_iff (m : Pipeline) {name : String} :
    name ∈ (m.dependency.needed existing).map (·.name) ↔
      ∃ mapper ∈ m, ∃ a ∈ mapper.declarations, name ∈ (a.needed existing).map (·.name) := by
  rw [dependency, Dependency.mem_names_needed_ofDeclarations_iff]
  simp only [List.mem_flatMap]
  constructor
  · rintro ⟨a, ⟨mapper, hmapper, ha⟩, h⟩
    exact ⟨mapper, hmapper, a, ha, h⟩
  · rintro ⟨mapper, hmapper, a, ha, h⟩
    exact ⟨a, ⟨mapper, hmapper, ha⟩, h⟩

/-- Whatever the mappers declare and whatever there is, a call returns the fields that the collection had and after
them those that it lacked, and leaves it with just these and everything else as it was. It is refused if and only if
something is missing and the project, the collection or a missing field has an improper name, and then nothing
changes. -/
theorem applyDependency_completes (m : Pipeline) (p q : String) (c : Catalog) :
    let d := m.dependency
    let existing := c.fieldsOf p q
    let missing := d.missing existing
    let call := (applyDependency d p q).run c
    let isProper := isName p = true ∧ isName q = true ∧ ∀ f ∈ missing, isName f.name = true
    d.IsLack existing missing ∧
      (∀ name, name ∈ (d.constant ++ d.implied existing).map (·.name) ↔
        ∃ mapper ∈ m, ∃ a ∈ mapper.declarations, name ∈ (a.needed existing).map (·.name)) ∧
      ((missing = [] ∧ call = (.ok existing, c)) ∨
        (missing ≠ [] ∧ isProper ∧ ∃ c', call = (.ok (existing ++ missing), c') ∧
          (c'.collectionsOf p).get? q = some (existing ++ missing) ∧
          (∀ p' q', (p', q') ≠ (p, q) → (c'.collectionsOf p').get? q' = (c.collectionsOf p').get? q') ∧
          ∀ p', c'.viewsOf p' = c.viewsOf p') ∨
        (missing ≠ [] ∧ ¬isProper ∧ ∃ e, call = (.error (.request e), c))) := by
  intro d existing missing call isProper
  refine ⟨Dependency.isLack_missing (Dependency.nodup_names_constant_ofDeclarations _) existing,
    fun name => mem_names_needed_dependency_iff m, ?_⟩
  have hcall : call = if missing.isEmpty then (.ok existing, c) else (Catalog.addFields p q missing).run c :=
    run_applyDependency d p q c
  by_cases hmissing : missing = []
  · rw [if_pos (List.isEmpty_iff.2 hmissing)] at hcall
    exact .inl ⟨hmissing, hcall⟩
  · rw [if_neg (mt List.isEmpty_iff.1 hmissing), Catalog.run_addFields, d.mergeFields_missing] at hcall
    have hnames : Catalog.checkNames p q missing = .ok () ↔ isProper := Catalog.checkNames_eq_ok_iff
    cases hcheck : Catalog.checkNames p q missing with
    | error e =>
      rw [hcheck] at hcall hnames
      exact .inr (.inr ⟨hmissing, mt hnames.2 nofun, e, hcall⟩)
    | ok _ =>
      rw [hcheck] at hcall
      refine .inr (.inl ⟨hmissing, hnames.1 hcheck, c.setFields p q (existing ++ missing), hcall, ?_⟩)
      exact ⟨c.get?_setFields_self p q _, fun _ _ hne => c.get?_setFields_of_ne _ hne,
        fun p' => c.viewsOf_setFields p q _ p'⟩

/-- Two mappers declare the same fields with different types. -/
def disagreeing : Pipeline :=
  [⟨pure (), [.dependent "user_agent" [⟨"os", .string, true⟩], .constant [⟨"_time", .timestamp, false⟩]]⟩,
    ⟨pure (), [.dependent "user_agent" [⟨"os", .long, true⟩], .constant [⟨"_time", .long, false⟩]]⟩]

/-- The types are those that are declared first. -/
example :
    disagreeing.dependency.missing [⟨"user_agent", .string, true⟩] =
      [⟨"_time", .timestamp, false⟩, ⟨"os", .string, true⟩] := by
  decide

end Pipeline

end Cohort
