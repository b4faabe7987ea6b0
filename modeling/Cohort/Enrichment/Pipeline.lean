import Cohort.Catalog.Basic
import Cohort.Enrichment.Dependency
import Cohort.Property.Properties

/-!
# Enrichment

Mappers add properties to an event, one after the other, up to the first one that fails. Each of them declares the
fields it may write, and the collection gains those that it lacks.
-/

namespace Cohort

structure Mapper where
  enrich : PropertiesM Unit
  declarations : List Declaration

abbrev Pipeline := List Mapper

namespace Pipeline

/-- What all mappers declare. -/
def dependency (p : Pipeline) : Dependency := .ofDeclarations (p.flatMap Mapper.declarations)

/-- Runs every mapper on the properties of an event. -/
def enrich : Pipeline → PropertiesM Unit
  | [] => return ()
  | m :: ms => do
    m.enrich
    enrich ms

/-- Adds the fields that a collection lacks, and returns its fields. -/
def applyDependency (d : Dependency) (project collection : String) : CatalogM (List Field) := do
  let existing := (← get).fieldsOf project collection
  let missing := d.missing existing
  if missing.isEmpty then return existing else Catalog.addFields project collection missing

end Pipeline

end Cohort
