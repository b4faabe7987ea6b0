import Cohort.Catalog.View
import Cohort.Name
import Cohort.Schema

/-!
# The catalog

Each project has collections, which are lists of fields, and views. Collections and views are created once, and a
collection can only gain fields at its end. Every name is checked before anything changes.
-/

namespace Cohort

/-- What each project has under each name. -/
abbrev Projects (α : Type) := Keyed (Keyed α)

namespace Projects

variable {α : Type}

/-- What the project has. -/
def of (ps : Projects α) (project : String) : Keyed α := (ps.get? project).getD .empty

def put (ps : Projects α) (project name : String) (value : α) : Projects α :=
  ps.insert project ((ps.of project).insert name value)

@[simp] theorem of_put_self (ps : Projects α) (project name : String) (value : α) :
    (ps.put project name value).of project = (ps.of project).insert name value := by
  simp [of, put]

theorem of_put_of_ne (ps : Projects α) {project other : String} (name : String) (value : α) (h : other ≠ project) :
    (ps.put project name value).of other = ps.of other := by
  simp [of, put, Keyed.get?_insert, h]

/-- What a project has already can be put again. -/
theorem put_of_get? {ps : Projects α} {project name : String} {value : α}
    (h : (ps.of project).get? name = some value) : ps.put project name value = ps := by
  have held : ps.get? project = some (ps.of project) := by
    cases hp : ps.get? project with
    | none => simp [of, hp] at h
    | some m => simp [of, hp]
  rw [put, Keyed.insert_of_get? h, Keyed.insert_of_get? held]

/-- Of two values that are put under a name the later one stays. -/
theorem put_put (ps : Projects α) (project name : String) (value later : α) :
    (ps.put project name value).put project name later = ps.put project name later := by
  rw [put, of_put_self, Keyed.insert_insert, put, Keyed.insert_insert]
  rfl

/-- Everything that the projects have, with its project and its name, in order. -/
def items (ps : Projects α) : List (String × String × α) :=
  ps.entries.flatMap fun (project, of) => of.entries.map fun (name, value) => (project, name, value)

end Projects

structure Catalog where
  collections : Projects (List Field)
  views : Projects View

/-- An operation on the catalog that may find an error, and keeps what it did before. -/
abbrev CatalogM := ExceptT CatalogError (StateM Catalog)

namespace Catalog

def empty : Catalog := ⟨.empty, .empty⟩

instance : Inhabited Catalog := ⟨empty⟩

/-- The collections of a project. -/
def collectionsOf (c : Catalog) (project : String) : Keyed (List Field) := c.collections.of project

/-- The fields of a collection; a collection that is not there has none. -/
def fieldsOf (c : Catalog) (project collection : String) : List Field :=
  ((c.collectionsOf project).get? collection).getD []

def setFields (c : Catalog) (project collection : String) (fields : List Field) : Catalog :=
  { c with collections := c.collections.put project collection fields }

@[simp] theorem fieldsOf_setFields (c : Catalog) (project collection : String) (fields : List Field) :
    (c.setFields project collection fields).fieldsOf project collection = fields := by
  simp [fieldsOf, collectionsOf, setFields]

@[simp] theorem collectionsOf_setFields_self (c : Catalog) (project collection : String) (fields : List Field) :
    (c.setFields project collection fields).collectionsOf project =
      (c.collectionsOf project).insert collection fields := by
  simp [collectionsOf, setFields]

theorem collectionsOf_setFields_of_ne (c : Catalog) {project other : String} (collection : String)
    (fields : List Field) (h : other ≠ project) :
    (c.setFields project collection fields).collectionsOf other = c.collectionsOf other :=
  Projects.of_put_of_ne _ _ _ h

/-- Fields that a collection has already can be set again. -/
theorem setFields_of_get? {c : Catalog} {project collection : String} {fields : List Field}
    (h : (c.collectionsOf project).get? collection = some fields) : c.setFields project collection fields = c := by
  rw [setFields, Projects.put_of_get? h]

/-- Of fields that are set one after the other the later ones stay. -/
theorem setFields_setFields (c : Catalog) (project collection : String) (fields later : List Field) :
    (c.setFields project collection fields).setFields project collection later =
      c.setFields project collection later := by
  rw [setFields, setFields, Projects.put_put]
  rfl

/-- Checks the names of a project, a collection and fields, in that order. -/
def checkNames (project collection : String) (fields : List Field) : Except RequestError Unit := do
  let _ ← checkProject project
  let _ ← checkCollection collection
  fields.forM fun f => do
    let _ ← checkName "field" f.name

/-- Passes over a checked request, or fails with its error. -/
def check {α : Type} (r : Except RequestError α) : CatalogM Unit :=
  match r with
  | .ok _ => pure ()
  | .error e => throw (.request e)

/-- Creates a collection with those fields, which has not been there before. -/
def createCollection (project collection : String) (fields : List Field) : CatalogM (List Field) := do
  check (checkNames project collection fields)
  if ((← get).collectionsOf project).contains collection then
    throw (.alreadyExists ("collection " ++ collection ++ " already exists"))
  modify (·.setFields project collection fields)
  return fields

/-- Adds fields to a collection, which is created if it is not there. -/
def addFields (project collection : String) (fields : List Field) : CatalogM (List Field) := do
  check (checkNames project collection fields)
  let merged := mergeFields ((← get).fieldsOf project collection) fields
  modify (·.setFields project collection merged)
  return merged

/-- The views of a project. -/
def viewsOf (c : Catalog) (project : String) : Keyed View := c.views.of project

def setView (c : Catalog) (project : String) (v : View) : Catalog :=
  { c with views := c.views.put project v.tableName v }

@[simp] theorem viewsOf_setFields (c : Catalog) (project collection : String) (fields : List Field) (p : String) :
    (c.setFields project collection fields).viewsOf p = c.viewsOf p := rfl

@[simp] theorem collectionsOf_setView (c : Catalog) (project : String) (v : View) (p : String) :
    (c.setView project v).collectionsOf p = c.collectionsOf p := rfl

@[simp] theorem viewsOf_setView_self (c : Catalog) (project : String) (v : View) :
    (c.setView project v).viewsOf project = (c.viewsOf project).insert v.tableName v := by
  simp [viewsOf, setView]

theorem viewsOf_setView_of_ne (c : Catalog) {project other : String} (v : View) (h : other ≠ project) :
    (c.setView project v).viewsOf other = c.viewsOf other :=
  Projects.of_put_of_ne _ _ _ h

def view (project tableName : String) : CatalogM View := do
  match ((← get).viewsOf project).get? tableName with
  | some v => return v
  | none => throw (.notFound ("materialized view " ++ tableName ++ " not found"))

/-- Creates a view under its table name, which has not been there before. -/
def createView (project : String) (v : View) : CatalogM Unit := do
  check (checkProject project)
  check (checkCollection v.tableName)
  if ((← get).viewsOf project).contains v.tableName then
    throw (.alreadyExists ("materialized view " ++ v.tableName ++ " already exists"))
  modify (·.setView project v)

end Catalog

end Cohort
