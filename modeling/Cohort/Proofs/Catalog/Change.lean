import Cohort.Catalog.Basic
import Cohort.Proofs.Catalog.Merging
import Cohort.Proofs.Outcome

/-!
# Changes of collections

A change creates a collection with some fields or adds fields to one. It is refused, and then nothing has happened, or
it puts fields at the end of its own collection. So a collection that is there once is there from then on, with all
its fields at their places, and everything in the catalog bears a proper name.
-/

namespace Cohort

open Outcome

namespace Catalog

variable {c d : Catalog} {project collection : String} {fields : List Field}

theorem checkNames_eq_ok_iff :
    checkNames project collection fields = .ok () ↔
      isName project = true ∧ isName collection = true ∧ ∀ f ∈ fields, isName f.name = true := by
  have hfields : (fields.forM fun f => do
      let _ ← checkName "field" f.name) = .ok () ↔ ∀ f ∈ fields, isName f.name = true := by
    rw [forM_eq_ok_iff]
    refine forall₂_congr fun f _ => ?_
    simp only [bind_eq_ok_iff, pure_eq_ok_iff, checkName_eq_ok_iff]
    exact ⟨fun ⟨_, hf, _⟩ => hf.1, fun hf => ⟨_, ⟨hf, rfl⟩, trivial⟩⟩
  unfold checkNames checkProject checkCollection
  simp only [bind_eq_ok_iff, checkName_eq_ok_iff]
  constructor
  · rintro ⟨_, ⟨hproject, rfl⟩, _, ⟨hcollection, rfl⟩, h⟩
    exact ⟨hproject, hcollection, hfields.1 h⟩
  · rintro ⟨hproject, hcollection, h⟩
    exact ⟨_, ⟨hproject, rfl⟩, _, ⟨hcollection, rfl⟩, hfields.2 h⟩

/-- The check blames a name that is improper. -/
theorem exists_of_checkNames_eq_error {e : RequestError} (h : checkNames project collection fields = .error e) :
    ∃ kind name, e = .invalidName kind name ∧ isName name = false ∧
      (name = project ∨ name = collection ∨ name ∈ fields.map (·.name)) := by
  have blamed {kind name : String} (hcheck : checkName kind name = .error e) :
      e = .invalidName kind name ∧ isName name = false := by
    unfold checkName at hcheck
    split at hcheck
    · cases hcheck
    · rename_i himproper
      exact ⟨(Except.error.inj hcheck).symm, Bool.eq_false_iff.2 himproper⟩
  unfold checkNames at h
  cases hproject : checkProject project with
  | error e' =>
    rw [hproject] at h
    cases h
    obtain ⟨he, himproper⟩ := blamed hproject
    exact ⟨_, project, he, himproper, .inl rfl⟩
  | ok _ =>
    cases hcollection : checkCollection collection with
    | error e' =>
      rw [hproject, hcollection] at h
      cases h
      obtain ⟨he, himproper⟩ := blamed hcollection
      exact ⟨_, collection, he, himproper, .inr (.inl rfl)⟩
    | ok _ =>
      rw [hproject, hcollection] at h
      obtain ⟨f, hf, hcheck⟩ := exists_of_forM_eq_error h
      cases hname : checkName "field" f.name with
      | ok _ =>
        rw [hname] at hcheck
        cases hcheck
      | error e' =>
        rw [hname] at hcheck
        cases hcheck
        obtain ⟨he, himproper⟩ := blamed hname
        exact ⟨_, f.name, he, himproper, .inr (.inr (List.mem_map_of_mem hf))⟩

theorem run_createCollection (project collection : String) (fields : List Field) (c : Catalog) :
    (createCollection project collection fields).run c =
      match checkNames project collection fields with
      | .error e => (.error (.request e), c)
      | .ok _ =>
        if (c.collectionsOf project).contains collection then
          (.error (.alreadyExists ("collection " ++ collection ++ " already exists")), c)
        else (.ok fields, c.setFields project collection fields) := by
  unfold createCollection check
  cases checkNames project collection fields with
  | error e => rfl
  | ok _ =>
    change (ite ((c.collectionsOf project).contains collection = true) _ _ : CatalogM (List Field)) c = _
    split
    · rfl
    · rfl

theorem run_addFields (project collection : String) (fields : List Field) (c : Catalog) :
    (addFields project collection fields).run c =
      match checkNames project collection fields with
      | .error e => (.error (.request e), c)
      | .ok _ =>
        (.ok (mergeFields (c.fieldsOf project collection) fields),
          c.setFields project collection (mergeFields (c.fieldsOf project collection) fields)) := by
  unfold addFields check
  cases checkNames project collection fields with
  | error e => rfl
  | ok _ => rfl

theorem get?_setFields_of_ne (c : Catalog) {project collection p q : String} (fields : List Field)
    (h : (p, q) ≠ (project, collection)) :
    ((c.setFields project collection fields).collectionsOf p).get? q = (c.collectionsOf p).get? q := by
  by_cases hp : p = project
  · subst p
    have hq : q ≠ collection := fun hq => h (hq ▸ rfl)
    rw [collectionsOf_setFields_self, Keyed.get?_insert_of_ne _ _ hq]
  · rw [collectionsOf_setFields_of_ne _ _ _ hp]

theorem get?_setFields_self (c : Catalog) (project collection : String) (fields : List Field) :
    ((c.setFields project collection fields).collectionsOf project).get? collection = some fields := by
  rw [collectionsOf_setFields_self, Keyed.get?_insert_self]

end Catalog

/-- A change of the collections of a catalog. -/
inductive Change
  | create (project collection : String) (fields : List Field)
  | add (project collection : String) (fields : List Field)

namespace Change

def project : Change → String
  | .create p _ _ | .add p _ _ => p

def collection : Change → String
  | .create _ c _ | .add _ c _ => c

def fields : Change → List Field
  | .create _ _ fs | .add _ _ fs => fs

def run : Change → CatalogM (List Field)
  | .create p c fs => Catalog.createCollection p c fs
  | .add p c fs => Catalog.addFields p c fs

/-- The names in a change are proper, and it creates no collection that is there. -/
def IsAllowed (c : Catalog) (a : Change) : Prop :=
  Catalog.checkNames a.project a.collection a.fields = .ok () ∧
    ∀ p q fs, a = .create p q fs → (c.collectionsOf p).get? q = none

/-- The change is made, and returns some fields. -/
def Succeeds (c : Catalog) (a : Change) : Prop := ∃ fields, (a.run.run c).1 = .ok fields

/-- The fields that the collection has after a change. -/
def result (c : Catalog) : Change → List Field
  | .create _ _ fs => fs
  | .add p q fs => mergeFields (c.fieldsOf p q) fs

variable {a : Change} {c : Catalog}

/-- A change that is allowed sets the fields of its collection. -/
theorem run_of_isAllowed (h : a.IsAllowed c) :
    a.run.run c = (.ok (a.result c), c.setFields a.project a.collection (a.result c)) := by
  obtain ⟨hnames, hnew⟩ := h
  cases a with
  | create p q fs =>
    change Catalog.checkNames p q fs = .ok () at hnames
    have hmissing : (c.collectionsOf p).contains q = false := (Keyed.contains_eq_false_iff _).2 (hnew p q fs rfl)
    rw [run, Catalog.run_createCollection, hnames]
    dsimp only
    rw [hmissing]
    rfl
  | add p q fs =>
    change Catalog.checkNames p q fs = .ok () at hnames
    rw [run, Catalog.run_addFields, hnames]
    rfl

/-- A change that is not allowed is refused and changes nothing. -/
theorem run_of_not_isAllowed (h : ¬a.IsAllowed c) : ∃ e, a.run.run c = (.error e, c) := by
  cases a with
  | create p q fs =>
    rw [run, Catalog.run_createCollection]
    cases hnames : Catalog.checkNames p q fs with
    | error e => exact ⟨_, rfl⟩
    | ok _ =>
      have hthere : (c.collectionsOf p).contains q = true := by
        rw [← Bool.not_eq_false, Keyed.contains_eq_false_iff]
        intro hmissing
        refine h ⟨hnames, ?_⟩
        rintro _ _ _ ⟨⟩
        exact hmissing
      dsimp only
      rw [hthere]
      exact ⟨_, rfl⟩
  | add p q fs =>
    rw [run, Catalog.run_addFields]
    cases hnames : Catalog.checkNames p q fs with
    | error e => exact ⟨_, rfl⟩
    | ok _ => exact absurd ⟨hnames, fun _ _ _ ha => nomatch ha⟩ h

theorem isAllowed_of_eq_ok {fields : List Field} (h : (a.run.run c).1 = .ok fields) :
    a.IsAllowed c ∧ a.result c = fields := by
  by_cases ha : a.IsAllowed c
  · rw [run_of_isAllowed ha] at h
    exact ⟨ha, Except.ok.inj h⟩
  · obtain ⟨e, he⟩ := run_of_not_isAllowed ha
    rw [he] at h
    cases h

theorem succeeds_iff_isAllowed : a.Succeeds c ↔ a.IsAllowed c := by
  constructor
  · rintro ⟨fields, h⟩
    exact (isAllowed_of_eq_ok h).1
  · intro h
    exact ⟨a.result c, congrArg Prod.fst (run_of_isAllowed h)⟩

theorem fieldsOf_of_isAllowed_create {p q : String} {fs : List Field} (h : (Change.create p q fs).IsAllowed c) :
    c.fieldsOf p q = [] := by
  rw [Catalog.fieldsOf, h.2 p q fs rfl]
  rfl

theorem mem_or_mem_of_mem_result {f : Field} (h : f ∈ a.result c) :
    f ∈ a.fields ∨ f ∈ c.fieldsOf a.project a.collection := by
  cases a with
  | create p q fs => exact .inl h
  | add p q fs => exact (mem_or_mem_of_mem_mergeFields h).symm

/-- The fields that were there stay in front. -/
theorem prefix_result (h : a.IsAllowed c) : c.fieldsOf a.project a.collection <+: a.result c := by
  cases a with
  | create p q fs =>
    change c.fieldsOf p q <+: fs
    rw [fieldsOf_of_isAllowed_create h]
    exact List.nil_prefix
  | add p q fs => exact prefix_mergeFields _ _

/-- Fields that have been added are there when they are added again. -/
theorem run_add_again {p q : String} {fs : List Field} (h : (Change.add p q fs).IsAllowed c) :
    let d := c.setFields p q (mergeFields (c.fieldsOf p q) fs)
    (Change.add p q fs).run.run d = (.ok (mergeFields (c.fieldsOf p q) fs), d) := by
  intro d
  have hd : (Change.add p q fs).IsAllowed d := ⟨h.1, fun _ _ _ ha => nomatch ha⟩
  have hfields : (Change.add p q fs).result d = mergeFields (c.fieldsOf p q) fs := by
    rw [result, Catalog.fieldsOf_setFields, mergeFields_mergeFields_self]
  have hset : d.setFields p q (mergeFields (c.fieldsOf p q) fs) = d :=
    Catalog.setFields_of_get? (Catalog.get?_setFields_self c p q _)
  rw [run_of_isAllowed hd, hfields]
  exact congrArg (Prod.mk _) hset

end Change

namespace Catalog

variable {c d e : Catalog} {a : Change}

/-! ## Runs of changes -/

/-- The catalog after a change. -/
def changed (c : Catalog) (a : Change) : Catalog := (a.run.run c).2

/-- The catalog after some changes, one after the other. -/
def changedAll (c : Catalog) (as : List Change) : Catalog := as.foldl changed c

theorem changedAll_cons (c : Catalog) (a : Change) (as : List Change) :
    c.changedAll (a :: as) = (c.changed a).changedAll as := rfl

theorem changed_of_isAllowed (h : a.IsAllowed c) :
    c.changed a = c.setFields a.project a.collection (a.result c) := congrArg Prod.snd (Change.run_of_isAllowed h)

theorem changed_of_not_isAllowed (h : ¬a.IsAllowed c) : c.changed a = c := by
  obtain ⟨e, he⟩ := Change.run_of_not_isAllowed h
  exact congrArg Prod.snd he

/-- Changes are about collections, and leave all views as they are. -/
theorem viewsOf_changed (c : Catalog) (a : Change) (p : String) : (c.changed a).viewsOf p = c.viewsOf p := by
  by_cases ha : a.IsAllowed c
  · rw [changed_of_isAllowed ha, viewsOf_setFields]
  · rw [changed_of_not_isAllowed ha]

/-- What holds at first, and after every allowed change that it held before, holds after all changes. -/
theorem changedAll_induction {P : Catalog → Prop} (hc : P c)
    (hstep : ∀ (d : Catalog) (a : Change), P d → a.IsAllowed d → P (d.setFields a.project a.collection (a.result d)))
    (as : List Change) : P (c.changedAll as) := by
  induction as generalizing c with
  | nil => exact hc
  | cons a as ih =>
    rw [changedAll_cons]
    by_cases ha : a.IsAllowed c
    · rw [changed_of_isAllowed ha]
      exact ih (hstep c a hc ha)
    · rw [changed_of_not_isAllowed ha]
      exact ih hc

/-- Every collection of the one is in the other, with at least the same fields in front. -/
def IsExtendedBy (c d : Catalog) : Prop :=
  ∀ p q fields, (c.collectionsOf p).get? q = some fields →
    ∃ more, (d.collectionsOf p).get? q = some (fields ++ more)

theorem IsExtendedBy.refl (c : Catalog) : c.IsExtendedBy c :=
  fun _ _ fields h => ⟨[], by rw [h, List.append_nil]⟩

theorem IsExtendedBy.trans (hcd : c.IsExtendedBy d) (hde : d.IsExtendedBy e) : c.IsExtendedBy e := by
  intro p q fields h
  obtain ⟨more, hd⟩ := hcd p q fields h
  obtain ⟨others, he⟩ := hde p q _ hd
  exact ⟨more ++ others, by rw [he, List.append_assoc]⟩

theorem isExtendedBy_setFields_result (h : a.IsAllowed c) :
    c.IsExtendedBy (c.setFields a.project a.collection (a.result c)) := by
  intro p q fields hq
  by_cases same : (p, q) = (a.project, a.collection)
  · obtain ⟨rfl, rfl⟩ := Prod.mk.inj same
    obtain ⟨more, hmore⟩ := Change.prefix_result h
    rw [fieldsOf, hq] at hmore
    rw [get?_setFields_self, ← hmore]
    exact ⟨more, rfl⟩
  · rw [get?_setFields_of_ne _ _ same, hq]
    exact ⟨[], by rw [List.append_nil]⟩

theorem isExtendedBy_changedAll (c : Catalog) (as : List Change) : c.IsExtendedBy (c.changedAll as) :=
  changedAll_induction (.refl c) (fun _ _ hd ha => hd.trans (isExtendedBy_setFields_result ha)) as

/-- Everything in the catalog has a proper name. -/
structure IsWellNamed (c : Catalog) : Prop where
  projects : ∀ p ∈ c.collections.keys, isName p = true
  collections : ∀ p, ∀ q ∈ (c.collectionsOf p).keys, isName q = true
  fields : ∀ p q, ∀ f ∈ c.fieldsOf p q, isName f.name = true

theorem isWellNamed_empty : empty.IsWellNamed :=
  ⟨List.forall_mem_nil _, fun _ => List.forall_mem_nil _, fun _ _ => List.forall_mem_nil _⟩

theorem isWellNamed_setFields_result (hc : c.IsWellNamed) (ha : a.IsAllowed c) :
    (c.setFields a.project a.collection (a.result c)).IsWellNamed := by
  obtain ⟨hproject, hcollection, hfields⟩ := checkNames_eq_ok_iff.1 ha.1
  constructor
  · intro p hp
    rcases (Keyed.mem_keys_insert _ _ _).1 hp with rfl | hp
    · exact hproject
    · exact hc.projects p hp
  · intro p q hq
    by_cases same : p = a.project
    · subst p
      rw [collectionsOf_setFields_self, Keyed.mem_keys_insert] at hq
      rcases hq with rfl | hq
      · exact hcollection
      · exact hc.collections _ q hq
    · rw [collectionsOf_setFields_of_ne _ _ _ same] at hq
      exact hc.collections p q hq
  · intro p q f hf
    by_cases same : (p, q) = (a.project, a.collection)
    · obtain ⟨rfl, rfl⟩ := Prod.mk.inj same
      rw [fieldsOf_setFields] at hf
      rcases Change.mem_or_mem_of_mem_result hf with hf | hf
      · exact hfields f hf
      · exact hc.fields _ _ f hf
    · rw [fieldsOf, get?_setFields_of_ne _ _ same] at hf
      exact hc.fields p q f hf

/-- All names in a catalog that comes about by changes alone are proper. -/
theorem isWellNamed_changedAll_empty (as : List Change) : (empty.changedAll as).IsWellNamed :=
  changedAll_induction isWellNamed_empty (fun _ _ => isWellNamed_setFields_result) as

/-- The names of a collection, and of its project, are proper where everything bears a proper name. -/
theorem IsWellNamed.isName_of_get? {c : Catalog} (hc : c.IsWellNamed) {p q : String} {fields : List Field}
    (h : (c.collectionsOf p).get? q = some fields) : isName p = true ∧ isName q = true := by
  refine ⟨hc.projects p ((Keyed.mem_keys_iff _).2 ?_), hc.collections p q ((Keyed.mem_keys_iff _).2 ⟨fields, h⟩)⟩
  unfold collectionsOf Projects.of at h
  cases hp : c.collections.get? p with
  | none =>
    rw [hp] at h
    cases h
  | some collections => exact ⟨collections, rfl⟩

end Catalog

/-- Whatever has happened before, everything bears a proper name, everything stays where it is in whatever happens
afterwards, and a change is either refused without any effect or it puts fields at the end of its own collection,
which it returns. A collection that it creates has not been there, and fields that it adds are added once. -/
theorem Change.appends_or_refused (history : List Change) (a : Change) :
    let c := Catalog.empty.changedAll history
    let d := c.changed a
    c.IsWellNamed ∧ (∀ later, c.IsExtendedBy (c.changedAll later)) ∧
      ((∃ e, (a.run.run c).1 = .error e) → d = c) ∧
      ∀ fields, (a.run.run c).1 = .ok fields →
        (d.collectionsOf a.project).get? a.collection = some fields ∧
        c.fieldsOf a.project a.collection <+: fields ∧
        (∀ p q, (p, q) ≠ (a.project, a.collection) → (d.collectionsOf p).get? q = (c.collectionsOf p).get? q) ∧
        (∀ p q fs, a = .create p q fs → (c.collectionsOf p).get? q = none) ∧
        (∀ p q fs, a = .add p q fs → a.run.run d = (.ok fields, d)) := by
  intro c d
  refine ⟨Catalog.isWellNamed_changedAll_empty history, Catalog.isExtendedBy_changedAll c, ?_, ?_⟩
  · rintro ⟨e, he⟩
    refine Catalog.changed_of_not_isAllowed fun ha => ?_
    rw [run_of_isAllowed ha] at he
    cases he
  · intro fields hfields
    obtain ⟨ha, rfl⟩ := isAllowed_of_eq_ok hfields
    have hd : d = c.setFields a.project a.collection (a.result c) := Catalog.changed_of_isAllowed ha
    refine ⟨?_, prefix_result ha, fun p q hne => ?_, ha.2, ?_⟩
    · rw [hd, Catalog.get?_setFields_self]
    · rw [hd, Catalog.get?_setFields_of_ne _ _ hne]
    · rintro p q fs rfl
      rw [hd]
      exact run_add_again ha

end Cohort
