import Cohort.Schema

/-!
# Dependencies on fields

Enrichment writes properties that a collection may lack fields for. A dependency says which fields every collection
needs, and which ones a collection needs because it has some other field.
-/

namespace Cohort

/-- What one part of an enrichment declares. -/
inductive Declaration
  | constant (fields : List Field)
  | dependent (source : String) (fields : List Field)
  deriving Inhabited, Repr

structure Dependency where
  constant : List Field
  dependent : Keyed (List Field)

namespace Dependency

def empty : Dependency := ⟨[], .empty⟩

instance : Inhabited Dependency := ⟨empty⟩

def isEmpty (d : Dependency) : Bool := d.constant.isEmpty && d.dependent.entries.isEmpty

/-- The fields needed because of the source. -/
def dependentOn (d : Dependency) (source : String) : List Field := (d.dependent.get? source).getD []

/-- Adds a declaration; of two fields with one name the earlier one stays. -/
def declare (d : Dependency) : Declaration → Dependency
  | .constant fields => { d with constant := mergeFields d.constant fields }
  | .dependent source fields =>
    { d with dependent := d.dependent.insert source (mergeFields (d.dependentOn source) fields) }

/-- All declarations together, in order. -/
def ofDeclarations (ds : List Declaration) : Dependency := ds.foldl declare empty

/-- The fields that a collection with those fields needs, which it may have. -/
def needed (d : Dependency) (existing : List Field) : List Field :=
  d.constant ++ (d.dependent.entries.filter fun e => hasField existing e.1).flatMap Prod.snd

/-- The fields that a collection with those fields lacks, each name once. -/
def missing (d : Dependency) (existing : List Field) : List Field :=
  mergeFields [] ((d.needed existing).filter fun f => !hasField existing f.name)

end Dependency

end Cohort
