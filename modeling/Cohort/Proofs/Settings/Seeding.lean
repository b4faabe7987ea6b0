import Cohort.Proofs.Enrichment.Agent
import Cohort.Settings.Seeding

/-!
# Catalogs that settings give

Settings name each collection once, so a collection that is created has not been there, and neither creating the later
ones nor adding fields to them touches it. So the catalog has the collections of the settings, each with its fields and
those that enrichment needs there, unless one of the names is improper.
-/

namespace Cohort

open Outcome

namespace Projects

variable {α : Type}

theorem mem_items_iff (ps : Projects α) {project name : String} {value : α} :
    (project, name, value) ∈ ps.items ↔ (ps.of project).get? name = some value := by
  unfold items
  rw [List.mem_flatMap]
  constructor
  · rintro ⟨⟨p, held⟩, hp, hitem⟩
    obtain ⟨⟨n, v⟩, hv, heq⟩ := List.mem_map.1 hitem
    cases heq
    rw [of, (Keyed.mem_entries_iff _).1 hp]
    exact (Keyed.mem_entries_iff _).1 hv
  · intro h
    cases hp : ps.get? project with
    | none =>
      rw [of, hp] at h
      cases h
    | some held =>
      rw [of, hp] at h
      refine ⟨(project, held), (Keyed.mem_entries_iff _).2 hp, List.mem_map.2 ⟨(name, value), ?_, rfl⟩⟩
      exact (Keyed.mem_entries_iff _).2 h

/-- No two items are at the same place. -/
theorem pairwise_items (ps : Projects α) : ps.items.Pairwise fun a b => (a.1, a.2.1) ≠ (b.1, b.2.1) := by
  refine List.pairwise_flatMap.2 ⟨fun e _ => ?_, ?_⟩
  · refine List.pairwise_map.2 (e.2.ascending.imp fun {a b} hlt hsame => ?_)
    have hname : a.1 = b.1 := congrArg Prod.snd hsame
    rw [hname] at hlt
    exact String.lt_irrefl b.1 hlt
  · refine ps.ascending.imp fun {d e} hlt a ha b hb hsame => ?_
    obtain ⟨_, -, rfl⟩ := List.mem_map.1 ha
    obtain ⟨_, -, rfl⟩ := List.mem_map.1 hb
    have hproject : d.1 = e.1 := (Prod.mk.inj hsame).1
    rw [hproject] at hlt
    exact String.lt_irrefl e.1 hlt

end Projects

namespace Settings

variable {d : Option Dependency} {c : Catalog} {p q : String} {fields : List Field}
  {entries : List (String × String × List Field)}

/-- The fields that a collection is to have: those of the settings and after them the ones that enrichment needs. -/
def seeded (d : Option Dependency) (fields : List Field) : List Field :=
  match d with
  | none => fields
  | some d => fields ++ d.missing fields

theorem mem_seeded {f : Field} (h : f ∈ fields) : f ∈ seeded d fields := by
  cases d with
  | none => exact h
  | some dependency => exact List.mem_append_left _ h

/-- What keeps a collection out of the catalog: one of its own names, or one of those that it gains. -/
inductive IsRefused (d : Option Dependency) (p q : String) (fields : List Field) : CommandError → Prop
  | own {e : RequestError} (h : Catalog.checkNames p q fields = .error e) :
      IsRefused d p q fields (.catalog (.request e))
  | gained {dependency : Dependency} {e : RequestError} (hd : d = some dependency)
      (hown : Catalog.checkNames p q fields = .ok ())
      (h : Catalog.checkNames p q (dependency.missing fields) = .error e) :
      IsRefused d p q fields (.event (.catalog (.request e)))

theorem run_onCatalog {α : Type} (wrap : CatalogError → CommandError) (act : CatalogM α) (c : Catalog) :
    (onCatalog wrap act).run c = ((act.run c).1.mapError wrap, (act.run c).2) := by
  unfold onCatalog
  rw [run_bind_of_ok (rfl : (get : SeedM Catalog).run c = (.ok c, c))]
  rcases act.run c with ⟨r, after⟩
  cases r with
  | ok a => rfl
  | error e => rfl

/-- A collection that is there with proper names gains what it lacks, or a name that it would gain is improper. -/
theorem run_applyDependency_setFields (dependency : Dependency) (hnames : Catalog.checkNames p q fields = .ok ()) :
    (∃ e, Catalog.checkNames p q (dependency.missing fields) = .error e ∧
      (Pipeline.applyDependency dependency p q).run (c.setFields p q fields) =
        (.error (.request e), c.setFields p q fields)) ∨
    (Catalog.checkNames p q (dependency.missing fields) = .ok () ∧
      (Pipeline.applyDependency dependency p q).run (c.setFields p q fields) =
        (.ok (fields ++ dependency.missing fields), c.setFields p q (fields ++ dependency.missing fields))) := by
  rw [Pipeline.run_applyDependency, Catalog.fieldsOf_setFields]
  by_cases hnone : dependency.missing fields = []
  · obtain ⟨hp, hq, -⟩ := Catalog.checkNames_eq_ok_iff.1 hnames
    rw [hnone, List.append_nil]
    exact .inr ⟨Catalog.checkNames_eq_ok_iff.2 ⟨hp, hq, List.forall_mem_nil _⟩, rfl⟩
  · rw [if_neg (mt List.isEmpty_iff.1 hnone), Catalog.run_addFields, Catalog.fieldsOf_setFields,
      dependency.mergeFields_missing, Catalog.setFields_setFields]
    cases hgained : Catalog.checkNames p q (dependency.missing fields) with
    | error e => exact .inl ⟨e, rfl, rfl⟩
    | ok _ => exact .inr ⟨rfl, rfl⟩

theorem run_createCollection_of_free (hfree : (c.collectionsOf p).get? q = none) :
    (Catalog.createCollection p q fields).run c =
      match Catalog.checkNames p q fields with
      | .error e => (.error (.request e), c)
      | .ok _ => (.ok fields, c.setFields p q fields) := by
  rw [Catalog.run_createCollection, (Keyed.contains_eq_false_iff _).2 hfree]
  rfl

/-- A collection that is not there gets its fields, and then comes the rest, or one of its names is improper. -/
theorem run_seedAll_cons_cases (d : Option Dependency) (fields : List Field)
    (entries : List (String × String × List Field)) (hfree : (c.collectionsOf p).get? q = none) :
    (∃ e c', IsRefused d p q fields e ∧ (seedAll d ((p, q, fields) :: entries)).run c = (.error e, c')) ∨
    (Catalog.checkNames p q (seeded d fields) = .ok () ∧
      (seedAll d ((p, q, fields) :: entries)).run c = (seedAll d entries).run (c.setFields p q (seeded d fields))) := by
  have hcreate := run_onCatalog CommandError.catalog (Catalog.createCollection p q fields) c
  rw [run_createCollection_of_free hfree] at hcreate
  cases hnames : Catalog.checkNames p q fields with
  | error e =>
    rw [hnames] at hcreate
    exact .inl ⟨_, c, .own hnames, run_bind_of_error hcreate _⟩
  | ok _ =>
    rw [hnames] at hcreate
    change _ = (Except.ok fields, c.setFields p q fields) at hcreate
    rw [seedAll, run_bind_of_ok hcreate]
    cases d with
    | none => exact .inr ⟨hnames, rfl⟩
    | some dependency =>
      have happly := run_onCatalog (fun e => .event (.catalog e)) (Pipeline.applyDependency dependency p q)
        (c.setFields p q fields)
      obtain ⟨e, hgained, hrun⟩ | ⟨hgained, hrun⟩ := run_applyDependency_setFields (c := c) dependency hnames
      · rw [hrun] at happly
        exact .inl ⟨_, _, .gained rfl hnames hgained, run_bind_of_error happly _⟩
      · rw [hrun] at happly
        refine .inr ⟨?_, run_bind_of_ok happly _⟩
        obtain ⟨hp, hq, hown⟩ := Catalog.checkNames_eq_ok_iff.1 hnames
        obtain ⟨-, -, hmissing⟩ := Catalog.checkNames_eq_ok_iff.1 hgained
        exact Catalog.checkNames_eq_ok_iff.2 ⟨hp, hq, List.forall_mem_append.2 ⟨hown, hmissing⟩⟩

/-- The catalog with a collection of the settings. -/
def withSeeded (d : Option Dependency) (c : Catalog) (entry : String × String × List Field) : Catalog :=
  c.setFields entry.1 entry.2.1 (seeded d entry.2.2)

/-- Collections that are not there, each at another place, are all created, or one of them is kept out. -/
theorem run_seedAll_cases (hfree : ∀ entry ∈ entries, (c.collectionsOf entry.1).get? entry.2.1 = none)
    (hplaces : entries.Pairwise fun a b => (a.1, a.2.1) ≠ (b.1, b.2.1)) :
    (∃ p q fields e c', (p, q, fields) ∈ entries ∧ IsRefused d p q fields e ∧
      (seedAll d entries).run c = (.error e, c')) ∨
    ((∀ p q fields, (p, q, fields) ∈ entries → Catalog.checkNames p q (seeded d fields) = .ok ()) ∧
      (seedAll d entries).run c = (.ok (), entries.foldl (withSeeded d) c)) := by
  induction entries generalizing c with
  | nil => exact .inr ⟨nofun, rfl⟩
  | cons entry entries ih =>
    obtain ⟨p, q, fields⟩ := entry
    obtain ⟨hfirst, hothers⟩ := List.forall_mem_cons.1 hfree
    obtain ⟨hapart, hrest⟩ := List.pairwise_cons.1 hplaces
    obtain ⟨e, c', hrefused, hrun⟩ | ⟨hnames, hrun⟩ := run_seedAll_cons_cases d fields entries hfirst
    · exact .inl ⟨p, q, fields, e, c', List.mem_cons_self, hrefused, hrun⟩
    · -- the others are not there either after the first has been created
      have hstill : ∀ entry ∈ entries,
          ((c.setFields p q (seeded d fields)).collectionsOf entry.1).get? entry.2.1 = none := by
        intro entry hentry
        rw [Catalog.get?_setFields_of_ne _ _ (hapart entry hentry).symm]
        exact hothers entry hentry
      rw [hrun]
      obtain ⟨p', q', fields', e, c', hmem, hrefused, hlater⟩ | ⟨hlater, hall⟩ := ih hstill hrest
      · exact .inl ⟨p', q', fields', e, c', List.mem_cons_of_mem _ hmem, hrefused, hlater⟩
      · refine .inr ⟨fun p' q' fields' hmem => ?_, hall⟩
        rcases List.mem_cons.1 hmem with heq | hmem
        · cases heq
          exact hnames
        · exact hlater p' q' fields' hmem

theorem get?_foldl_withSeeded_of_not_mem (h : ∀ entry ∈ entries, (p, q) ≠ (entry.1, entry.2.1)) :
    ((entries.foldl (withSeeded d) c).collectionsOf p).get? q = (c.collectionsOf p).get? q := by
  induction entries generalizing c with
  | nil => rfl
  | cons entry entries ih =>
    obtain ⟨hfirst, hothers⟩ := List.forall_mem_cons.1 h
    rw [List.foldl_cons, ih hothers, withSeeded, Catalog.get?_setFields_of_ne _ _ hfirst]

/-- A collection that has been created is not touched when the others are. -/
theorem get?_foldl_withSeeded_of_mem (hplaces : entries.Pairwise fun a b => (a.1, a.2.1) ≠ (b.1, b.2.1))
    (h : (p, q, fields) ∈ entries) :
    ((entries.foldl (withSeeded d) c).collectionsOf p).get? q = some (seeded d fields) := by
  induction entries generalizing c with
  | nil => cases h
  | cons entry entries ih =>
    obtain ⟨hapart, hrest⟩ := List.pairwise_cons.1 hplaces
    rw [List.foldl_cons]
    rcases List.mem_cons.1 h with heq | hmem
    · subst heq
      rw [get?_foldl_withSeeded_of_not_mem hapart]
      exact Catalog.get?_setFields_self c p q _
    · exact ih hrest hmem

theorem views_foldl_withSeeded : (entries.foldl (withSeeded d) c).views = c.views := by
  induction entries generalizing c with
  | nil => rfl
  | cons entry entries ih => rw [List.foldl_cons, ih]; rfl

/-- The collections of projects are those that the projects have been given. -/
theorem collectionsOf_foldl_withSeeded (d : Option Dependency) (ps : Projects (List Field)) (p : String) :
    (ps.items.foldl (withSeeded d) .empty).collectionsOf p = (ps.of p).map (seeded d) := by
  ext q : 1
  rw [Keyed.get?_map]
  cases hq : (ps.of p).get? q with
  | some fields => exact get?_foldl_withSeeded_of_mem ps.pairwise_items (ps.mem_items_iff.2 hq)
  | none =>
    apply get?_foldl_withSeeded_of_not_mem
    rintro ⟨p', q', fields⟩ hmem hsame
    cases hsame
    exact absurd (hq.symm.trans (ps.mem_items_iff.1 hmem)) (Option.some_ne_none _).symm

/-! ## The catalog of the settings -/

variable {s : Settings} {database : Option AgentDatabase}

theorem catalog_of_run_seedAll {r : Except CommandError Unit}
    (h : (seedAll (database.map AgentDatabase.dependency) s.collections.items).run .empty = (r, c)) :
    s.catalog database = r.map fun _ => c := by
  change (seedAll (database.map fun d => Pipeline.dependency [d.mapper]) _).run .empty = _ at h
  simp only [catalog, h]
  cases r with
  | ok _ => rfl
  | error e => rfl

/-- All names in the settings are proper. -/
def IsWellNamed (s : Settings) : Prop :=
  ∀ p q fields, (s.collections.of p).get? q = some fields →
    isName p = true ∧ isName q = true ∧ ∀ f ∈ fields, isName f.name = true

/-- A name in the settings is improper, and the error says so. -/
def IsBlamed (s : Settings) (e : CommandError) : Prop :=
  ∃ p q fields kind name, (s.collections.of p).get? q = some fields ∧
    (name = p ∨ name = q ∨ name ∈ fields.map (·.name)) ∧ isName name = false ∧
    e = .catalog (.request (.invalidName kind name))

theorem IsBlamed.not_isWellNamed {e : CommandError} (h : s.IsBlamed e) : ¬s.IsWellNamed := by
  intro hnames
  obtain ⟨p, q, fields, kind, name, hfields, hname, himproper, -⟩ := h
  obtain ⟨hp, hq, hall⟩ := hnames p q fields hfields
  rw [← Bool.not_eq_true] at himproper
  rcases hname with rfl | rfl | hname
  · exact himproper hp
  · exact himproper hq
  · obtain ⟨f, hf, rfl⟩ := List.mem_map.1 hname
    exact himproper (hall f hf)

/-- Enrichment by user agents adds fields with proper names, so only the names of the settings can be to blame. -/
theorem isBlamed_of_isRefused {e : CommandError} (hfields : (s.collections.of p).get? q = some fields)
    (h : IsRefused (database.map AgentDatabase.dependency) p q fields e) : s.IsBlamed e := by
  cases h with
  | own hnames =>
    obtain ⟨kind, name, rfl, himproper, hname⟩ := Catalog.exists_of_checkNames_eq_error hnames
    exact ⟨p, q, fields, kind, name, hfields, hname, himproper, rfl⟩
  | gained hd hown hnames =>
    obtain ⟨d, -, rfl⟩ := Option.map_eq_some_iff.1 hd
    obtain ⟨hp, hq, -⟩ := Catalog.checkNames_eq_ok_iff.1 hown
    have hgained := Dependency.isName_of_mem_missing d.isWellNamed_dependency fields
    rw [Catalog.checkNames_eq_ok_iff.2 ⟨hp, hq, hgained⟩] at hnames
    cases hnames

/-- Whatever the settings are, and whatever the database of user agents if there is one: if all names in the settings
are proper, the catalog has the collections of each project in the settings and no others, each with its fields and
after them those that enrichment needs there. Otherwise there is no catalog, and the error blames an improper name of
the settings, and never a collection that is there already. -/
theorem catalog_seeded_or_blamed (s : Settings) (database : Option AgentDatabase) :
    let dependency := database.map AgentDatabase.dependency
    (s.IsWellNamed ∧ ∃ c, s.catalog database = .ok c ∧ c.views = .empty ∧
      ∀ p, c.collectionsOf p = (s.collections.of p).map (seeded dependency)) ∨
    (¬s.IsWellNamed ∧ ∃ e, s.catalog database = .error e ∧ s.IsBlamed e) := by
  intro dependency
  obtain ⟨p, q, fields, e, c', hmem, hrefused, hrun⟩ | ⟨hnames, hrun⟩ := run_seedAll_cases (d := dependency)
    (c := .empty) (fun _ _ => rfl) s.collections.pairwise_items
  · have hblamed : s.IsBlamed e := isBlamed_of_isRefused (s.collections.mem_items_iff.1 hmem) hrefused
    exact .inr ⟨hblamed.not_isWellNamed, e, catalog_of_run_seedAll hrun, hblamed⟩
  · refine .inl ⟨fun p q fields hfields => ?_, _, catalog_of_run_seedAll hrun, views_foldl_withSeeded, ?_⟩
    · have hproper := hnames p q fields (s.collections.mem_items_iff.2 hfields)
      obtain ⟨hp, hq, hall⟩ := Catalog.checkNames_eq_ok_iff.1 hproper
      exact ⟨hp, hq, fun f hf => hall f (mem_seeded hf)⟩
    · exact collectionsOf_foldl_withSeeded dependency s.collections

end Settings

end Cohort
