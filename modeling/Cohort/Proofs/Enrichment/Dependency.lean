import Cohort.Enrichment.Pipeline
import Cohort.Proofs.Catalog.Change

/-!
# Fields that a collection gains

A collection gains the fields that it needs because of the ones it has. Whatever it needs because of a field that it
gains is not looked for in the same call. So a second call is without effect if and only if the collection has all of
that anyway; otherwise the second call adds it, or is refused for its names.
-/

namespace Cohort

variable {d : Dependency} {existing : List Field}

namespace Dependency

theorem mem_dependentOn_iff {source : String} {f : Field} :
    f ∈ d.dependentOn source ↔ ∃ fields, d.dependent.get? source = some fields ∧ f ∈ fields := by
  unfold dependentOn
  cases d.dependent.get? source with
  | none => simp
  | some fields => simp

theorem mem_needed_iff {f : Field} :
    f ∈ d.needed existing ↔ f ∈ d.constant ∨ ∃ source ∈ existing.map (·.name), f ∈ d.dependentOn source := by
  unfold needed
  rw [List.mem_append, List.mem_flatMap]
  refine or_congr_right ?_
  simp only [List.mem_filter, mem_dependentOn_iff, hasField_iff]
  constructor
  · rintro ⟨⟨source, fields⟩, ⟨hentry, hsource⟩, hf⟩
    exact ⟨source, hsource, fields, (Keyed.mem_entries_iff _).1 hentry, hf⟩
  · rintro ⟨source, hsource, fields, hfields, hf⟩
    exact ⟨(source, fields), ⟨(Keyed.mem_entries_iff _).2 hfields, hsource⟩, hf⟩

theorem mem_names_missing_iff {name : String} :
    name ∈ (d.missing existing).map (·.name) ↔
      (∃ f ∈ d.needed existing, f.name = name) ∧ name ∉ existing.map (·.name) := by
  rw [missing, mem_names_mergeFields_iff, List.map_nil, or_iff_right List.not_mem_nil, List.mem_map]
  simp only [List.mem_filter, Bool.not_eq_true', ← Bool.not_eq_true, hasField_iff]
  constructor
  · rintro ⟨f, ⟨hf, hnew⟩, rfl⟩
    exact ⟨⟨f, hf, rfl⟩, hnew⟩
  · rintro ⟨⟨f, hf, rfl⟩, hnew⟩
    exact ⟨f, ⟨hf, hnew⟩, rfl⟩

theorem nodup_names_missing (d : Dependency) (existing : List Field) :
    ((d.missing existing).map (·.name)).Nodup :=
  nodup_mergeFields_iff.2 List.nodup_nil

/-- Nothing is missing where all names that are needed are there. -/
theorem missing_eq_nil_iff : d.missing existing = [] ↔ ∀ f ∈ d.needed existing, f.name ∈ existing.map (·.name) := by
  rw [← List.map_eq_nil_iff (f := (·.name)), List.eq_nil_iff_forall_not_mem]
  simp only [mem_names_missing_iff]
  constructor
  · intro h f hf
    exact not_not.1 fun hnew => h f.name ⟨⟨f, hf, rfl⟩, hnew⟩
  · rintro h _ ⟨⟨f, hf, rfl⟩, hnew⟩
    exact hnew (h f hf)

/-- Fields that are missing are put after those that are there. -/
theorem mergeFields_missing (d : Dependency) (existing : List Field) :
    mergeFields existing (d.missing existing) = existing ++ d.missing existing := by
  apply mergeFields_eq_append_of_new (d.nodup_names_missing existing)
  intro f hf
  exact (mem_names_missing_iff.1 (List.mem_map_of_mem hf)).2

/-- With the missing fields, everything that has been needed is there. -/
theorem mem_names_of_mem_needed {f : Field} (h : f ∈ d.needed existing) :
    f.name ∈ (existing ++ d.missing existing).map (·.name) := by
  rw [List.map_append, List.mem_append, mem_names_missing_iff]
  exact or_iff_not_imp_left.2 fun hnew => ⟨⟨f, h, rfl⟩, hnew⟩

/-- Nothing is missing any more just if all that is needed because of the missing fields is there too. -/
theorem missing_append_missing_eq_nil_iff :
    d.missing (existing ++ d.missing existing) = [] ↔
      ∀ source ∈ (d.missing existing).map (·.name), ∀ f ∈ d.dependentOn source,
        f.name ∈ (existing ++ d.missing existing).map (·.name) := by
  rw [missing_eq_nil_iff]
  constructor
  · intro h source hsource f hf
    refine h f (mem_needed_iff.2 (.inr ⟨source, ?_, hf⟩))
    rw [List.map_append]
    exact List.mem_append_right _ hsource
  · intro h f hf
    -- only a source that is gained can make a field needed that has not been so before
    rcases mem_needed_iff.1 hf with hconstant | ⟨source, hsource, hdependent⟩
    · exact mem_names_of_mem_needed (mem_needed_iff.2 (.inl hconstant))
    · rw [List.map_append, List.mem_append] at hsource
      rcases hsource with hthere | hgained
      · exact mem_names_of_mem_needed (mem_needed_iff.2 (.inr ⟨source, hthere, hdependent⟩))
      · exact h source hgained f hdependent

/-- All declared fields have proper names. -/
def IsWellNamed (d : Dependency) : Prop :=
  ∀ fields ∈ d.constant :: d.dependent.values, ∀ f ∈ fields, isName f.name = true

instance : Decidable d.IsWellNamed :=
  inferInstanceAs (Decidable (∀ fields ∈ d.constant :: d.dependent.values, ∀ f ∈ fields, isName f.name = true))

theorem isName_of_mem_missing (hd : d.IsWellNamed) (existing : List Field) :
    ∀ f ∈ d.missing existing, isName f.name = true := by
  intro f hf
  obtain ⟨⟨g, hg, hname⟩, -⟩ := mem_names_missing_iff.1 (List.mem_map_of_mem hf)
  rw [← hname]
  rcases mem_needed_iff.1 hg with hconstant | ⟨source, -, hdependent⟩
  · exact hd _ List.mem_cons_self g hconstant
  · obtain ⟨fields, hfields, hmem⟩ := mem_dependentOn_iff.1 hdependent
    exact hd fields (List.mem_cons_of_mem _ ((Keyed.mem_values_iff _).2 ⟨source, hfields⟩)) g hmem

end Dependency

namespace Pipeline

variable {c : Catalog} {p q : String}

theorem run_applyDependency (d : Dependency) (p q : String) (c : Catalog) :
    (applyDependency d p q).run c =
      if (d.missing (c.fieldsOf p q)).isEmpty then (.ok (c.fieldsOf p q), c)
      else (Catalog.addFields p q (d.missing (c.fieldsOf p q))).run c := by
  change (ite ((d.missing (c.fieldsOf p q)).isEmpty = true) _ _ : CatalogM (List Field)) c = _
  split
  · rfl
  · rfl

/-- A call puts the missing fields at the end of the collection, or is refused for their names. -/
theorem run_applyDependency_cases (d : Dependency) (p q : String) (c : Catalog) :
    (∃ c', (applyDependency d p q).run c = (.ok (c.fieldsOf p q ++ d.missing (c.fieldsOf p q)), c') ∧
      c'.fieldsOf p q = c.fieldsOf p q ++ d.missing (c.fieldsOf p q) ∧
      (d.missing (c.fieldsOf p q) = [] → c' = c)) ∨
    (d.missing (c.fieldsOf p q) ≠ [] ∧ ∃ e, Catalog.checkNames p q (d.missing (c.fieldsOf p q)) = .error e ∧
      (applyDependency d p q).run c = (.error (.request e), c)) := by
  rw [run_applyDependency]
  by_cases hmissing : d.missing (c.fieldsOf p q) = []
  · rw [if_pos (List.isEmpty_iff.2 hmissing), hmissing, List.append_nil]
    exact .inl ⟨c, rfl, rfl, fun _ => rfl⟩
  · rw [if_neg (mt List.isEmpty_iff.1 hmissing), Catalog.run_addFields, d.mergeFields_missing]
    split
    · rename_i e hnames
      exact .inr ⟨hmissing, e, hnames, rfl⟩
    · exact .inl ⟨_, rfl, Catalog.fieldsOf_setFields c p q _, fun h => absurd h hmissing⟩

/-- Under proper names, a call is never refused. -/
theorem exists_run_of_isName (hd : d.IsWellNamed) (hp : isName p = true) (hq : isName q = true) (c : Catalog) :
    ∃ c', (applyDependency d p q).run c = (.ok (c.fieldsOf p q ++ d.missing (c.fieldsOf p q)), c') ∧
      c'.fieldsOf p q = c.fieldsOf p q ++ d.missing (c.fieldsOf p q) ∧
      (d.missing (c.fieldsOf p q) = [] → c' = c) := by
  obtain h | ⟨-, e, hnames, -⟩ := run_applyDependency_cases d p q c
  · exact h
  · rw [Catalog.checkNames_eq_ok_iff.2 ⟨hp, hq, Dependency.isName_of_mem_missing hd _⟩] at hnames
    cases hnames

/-- A call returns the fields of a collection, and leaves them as they are, if and only if nothing is missing. -/
theorem applyDependency_eq_self_iff {fields : List Field} (hfields : c.fieldsOf p q = fields) :
    (((applyDependency d p q).run c).1 = .ok fields ∧ ((applyDependency d p q).run c).2.fieldsOf p q = fields) ↔
      d.missing fields = [] := by
  subst hfields
  obtain ⟨c', hrun, hgained, -⟩ | ⟨hmissing, e, -, hrefused⟩ := run_applyDependency_cases d p q c
  · rw [hrun]
    dsimp only
    rw [hgained, Except.ok.injEq, and_self, List.append_right_eq_self]
  · rw [hrefused]
    exact iff_of_false (fun h => nomatch h.1) hmissing

/-- Whatever the mappers declare, and whatever there is: a second call returns what the first one returned and leaves
the fields as that left them if and only if, in case the first call succeeded, the collection then has all fields that
depend on a field which the call added. -/
theorem second_call_iff (m : Pipeline) (p q : String) (c : Catalog) :
    let apply := (applyDependency m.dependency p q).run
    let first := apply c
    let second := apply first.2
    (second.1 = first.1 ∧ second.2.fieldsOf p q = first.2.fieldsOf p q) ↔
      ∀ fields, first.1 = .ok fields → ∀ source ∈ (m.dependency.missing (c.fieldsOf p q)).map (·.name),
        ∀ f ∈ m.dependency.dependentOn source, f.name ∈ fields.map (·.name) := by
  intro apply first second
  obtain ⟨c', hrun, hgained, -⟩ | ⟨-, e, -, hrefused⟩ := run_applyDependency_cases m.dependency p q c
  · have hfirst : first = (.ok (c.fieldsOf p q ++ m.dependency.missing (c.fieldsOf p q)), c') := hrun
    have hsecond : second = apply c' := by rw [show second = apply first.2 from rfl, hfirst]
    rw [hsecond, hfirst]
    dsimp only
    rw [hgained, applyDependency_eq_self_iff hgained, Dependency.missing_append_missing_eq_nil_iff]
    constructor
    · rintro h fields ⟨⟩
      exact h
    · exact fun h => h _ rfl
  · have hfirst : first = (.error (.request e), c) := hrefused
    have hsecond : second = first := by rw [show second = apply first.2 from rfl, hfirst]; exact hrefused
    rw [hsecond, hfirst]
    exact iff_of_true ⟨rfl, rfl⟩ fun _ h => nomatch h

/-- Every event has a number, and twice that number as soon as there are fields for numbers. -/
def doubling : Pipeline :=
  [⟨Properties.put "a" (.integer 21), [.constant [⟨"a", .long, true⟩]]⟩,
    ⟨Properties.put "b" (.integer 42), [.dependent "a" [⟨"b", .long, true⟩]]⟩]

/-- For a collection without fields, the second call adds what the first one did not. -/
theorem second_call_doubling :
    let apply := (applyDependency doubling.dependency "shop" "clicks").run
    let first := apply (Catalog.empty.changed (.create "shop" "clicks" []))
    first.1 = .ok [⟨"a", .long, true⟩] ∧
      (apply first.2).1 = .ok [⟨"a", .long, true⟩, ⟨"b", .long, true⟩] ∧
      (apply first.2).2.fieldsOf "shop" "clicks" ≠ first.2.fieldsOf "shop" "clicks" := by
  decide

end Pipeline

end Cohort
