import Cohort.Agent.Rule
import Cohort.Error
import Cohort.Pattern.Reading
import Cohort.Yaml.Decode
import Cohort.Yaml.Reading

/-!
# Databases of user agents

A database is a YAML document with rules for browsers, systems and devices. A rule without a replacement for the
family takes the first group of its pattern; the numbers of the version are in the next two groups. Replacements are
templates, but those for the version of a browser are taken as they are.
-/

namespace Cohort

structure AgentDatabase where
  browsers : List AgentRule
  systems : List AgentRule
  devices : List AgentRule
  deriving Inhabited, Repr

namespace AgentDatabase

/-- The part that a replacement stands for, or else a group. -/
def part (make : String → AgentPart) (index : Nat) (replacement : Option String) : AgentPart :=
  (replacement.map make).getD (.group index)

/-- The texts of a rule: that of its pattern, and those under the names, which may be absent. -/
def texts? (names : List String) (y : Yaml) : Option (String × (String → Option String)) := do
  let r ← y.asRecord? ("regex" :: names)
  let regex ← Yaml.required r "regex" Yaml.asText?
  let texts ← names.mapM fun n => (Yaml.optionalText r n).map (n, ·)
  some (regex, fun n => (texts.lookup n).join)

def browser? (y : Yaml) : Option AgentRule := do
  let (regex, text) ← texts? ["family_replacement", "v1_replacement", "v2_replacement", "v3_replacement"] y
  some
    { pattern := ← Pattern.ofText? regex
      family := part .template 1 (text "family_replacement")
      major := part .fixed 2 (text "v1_replacement")
      minor := part .fixed 3 (text "v2_replacement") }

def system? (y : Yaml) : Option AgentRule := do
  let (regex, text) ← texts? ["os_replacement", "os_v1_replacement", "os_v2_replacement", "os_v3_replacement"] y
  some
    { pattern := ← Pattern.ofText? regex
      family := part .template 1 (text "os_replacement")
      major := part .template 2 (text "os_v1_replacement")
      minor := part .template 3 (text "os_v2_replacement") }

/-- The text of a pattern with flags before it. -/
def withFlags (flags : Option String) (pattern : String) : String :=
  match flags with
  | none => pattern
  | some f => if f.isEmpty then pattern else "(?" ++ f ++ ")" ++ pattern

/-- A rule for devices, which have no version. -/
def device? (y : Yaml) : Option AgentRule := do
  let (regex, text) ← texts? ["regex_flag", "device_replacement", "brand_replacement", "model_replacement"] y
  some
    { pattern := ← Pattern.ofText? (withFlags (text "regex_flag") regex)
      family := part .template 1 (text "device_replacement")
      major := .fixed ""
      minor := .fixed "" }

def ofYaml? (y : Yaml) : Option AgentDatabase := do
  let r ← y.asRecord? ["user_agent_parsers", "os_parsers", "device_parsers"]
  some
    { browsers := ← Yaml.required r "user_agent_parsers" (Yaml.asList? browser?)
      systems := ← Yaml.required r "os_parsers" (Yaml.asList? system?)
      devices := ← Yaml.required r "device_parsers" (Yaml.asList? device?) }

/-- The database in a text. -/
def read (text : String) : Except EventError AgentDatabase :=
  match (Yaml.read? text).bind ofYaml? with
  | some d => .ok d
  | none => .error .agentDatabase

end AgentDatabase

end Cohort
