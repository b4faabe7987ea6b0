import Cohort.Agent.Mapper
import Cohort.Settings.Basic

/-!
# Catalogs from settings

The catalog that a command starts with has the collections of its settings, each with the fields that enrichment
needs there.
-/

namespace Cohort.Settings

/-- An operation on a catalog that a command fails with. -/
abbrev SeedM := ExceptT CommandError (StateM Catalog)

/-- An operation on the catalog, whose errors belong to some part of a command. -/
def onCatalog {α : Type} (wrap : CatalogError → CommandError) (act : CatalogM α) : SeedM α := do
  let (r, c) := act.run (← get)
  set c
  match r with
  | .ok a => return a
  | .error e => throw (wrap e)

/-- Creates collections, one after the other, and adds the fields that a dependency asks for. -/
def seedAll (d : Option Dependency) : List (String × String × List Field) → SeedM Unit
  | [] => return ()
  | (project, collection, fields) :: rest => do
    let _ ← onCatalog .catalog (Catalog.createCollection project collection fields)
    match d with
    | none => pure ()
    | some d =>
      let _ ← onCatalog (fun e => .event (.catalog e)) (Pipeline.applyDependency d project collection)
    seedAll d rest

/-- The catalog with the collections of the settings, for the enrichment by a database of user agents, if there is
one. -/
def catalog (s : Settings) (database : Option AgentDatabase) : Except CommandError Catalog :=
  let dependency := database.map fun d => Pipeline.dependency [d.mapper]
  match (seedAll dependency s.collections.items).run .empty with
  | (.ok _, c) => .ok c
  | (.error e, _) => .error e

end Cohort.Settings
