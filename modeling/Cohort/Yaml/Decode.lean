import Cohort.Yaml.Basic

/-!
# Decoding YAML

Any scalar is text, whether it is quoted or not. Where a value may be absent, a plain null is. A record is a mapping
by the names of its parts, each of which comes once, or a sequence of all its parts in order.
-/

namespace Cohort.Yaml

def asText? : Yaml → Option String
  | .scalar _ text => some text
  | _ => none

/-- Whether a scalar stands for no value. -/
def isNull : Yaml → Bool
  | .scalar true text => text ∈ ["", "~", "null", "Null", "NULL"]
  | _ => false

def asOptionalText? (y : Yaml) : Option (Option String) := if y.isNull then some none else y.asText?.map some

/-- The items of a sequence, of which there are none where nothing is written. -/
def asList? {α : Type} (decode : Yaml → Option α) : Yaml → Option (List α)
  | .sequence items => items.mapM decode
  | .scalar true "" => some []
  | _ => none

/-- The parts of a record with those names, some of which may be missing. -/
def asRecord? (names : List String) : Yaml → Option (List (String × Yaml))
  | .mapping entries => do
    let parts ← entries.mapM fun e => e.1.asText?.map (·, e.2)
    if names.all fun n => (parts.filter (·.1 == n)).length ≤ 1 then some parts else none
  | .sequence items => if items.length = names.length then some (names.zip items) else none
  | .scalar _ _ => none

/-- A part that has to be there. -/
def required {α : Type} (parts : List (String × Yaml)) (name : String) (decode : Yaml → Option α) : Option α :=
  (parts.lookup name).bind decode

/-- A text that may be absent. -/
def optionalText (parts : List (String × Yaml)) (name : String) : Option (Option String) :=
  match parts.lookup name with
  | none => some none
  | some y => y.asOptionalText?

end Cohort.Yaml
