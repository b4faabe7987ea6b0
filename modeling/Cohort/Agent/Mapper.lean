import Cohort.Agent.Database
import Cohort.Enrichment.Pipeline

/-!
# Enrichment by user agent

A database turns a user agent into properties of an event: the browser, the system and the device. An event that has
a user agent is left as it is; to one that has none, what an empty user agent stands for is added.
-/

namespace Cohort.AgentDatabase

/-- The property that holds the user agent, and then the browser. -/
def agentField : String := "user_agent"

def versionValue (p : Product) : PropertyValue := (p.version.map .text).getD .null

/-- The properties that a user agent stands for. -/
def resolve (d : AgentDatabase) (agent : String) : List (String × PropertyValue) :=
  let browser := AgentRule.resolve d.browsers agent
  let system := AgentRule.resolve d.systems agent
  let device := AgentRule.resolve d.devices agent
  [(agentField, .text browser.family), ("user_agent_version", versionValue browser), ("os", .text system.family),
    ("os_version", versionValue system), ("device_family", .text device.family)]

/-- The names of the properties do not depend on the user agent. -/
theorem resolve_names (d : AgentDatabase) (agent : String) :
    (d.resolve agent).map Prod.fst = [agentField, "user_agent_version", "os", "os_version", "device_family"] := rfl

/-- The fields of a collection that has user agents. -/
def fields : List Field :=
  ["os", "os_version", "user_agent_version", "device_family"].map fun name => ⟨name, .string, true⟩

/-- Whether an event has a user agent. -/
def hasAgent (p : Properties) : Bool := (p.values.get? agentField).any (!·.isNull)

def enrich (d : AgentDatabase) : PropertiesM Unit := do
  if hasAgent (← get) then return ()
  Properties.putAll (d.resolve "")

def mapper (d : AgentDatabase) : Mapper := ⟨d.enrich, [.dependent agentField fields]⟩

end Cohort.AgentDatabase
