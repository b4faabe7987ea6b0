import Cohort.Pattern.Template

/-!
# Rules for user agents

A rule recognizes a user agent by a pattern and says how the name of what it recognizes, and its version, are made
from the match. The first rule of a list that applies decides.
-/

namespace Cohort

/-- How a text is made from a match. -/
inductive AgentPart
  | fixed (text : String)
  | template (text : String)
  | group (index : Nat)
  deriving DecidableEq, Inhabited, Repr

/-- The text, unless it is that of a group that is not part of the match. -/
def AgentPart.text? (part : AgentPart) (p : Pattern) (m : Pattern.Match) : Option String :=
  match part with
  | .fixed text => some text
  | .template text => some (p.fill m text)
  | .group index => m.group? index

structure AgentRule where
  pattern : Pattern
  family : AgentPart
  major : AgentPart
  minor : AgentPart
  deriving Inhabited, Repr

/-- A browser, a system or a device: its family, and the first two numbers of its version if they are known. -/
structure Product where
  family : String
  major : Option String
  minor : Option String
  deriving DecidableEq, Inhabited, Repr

namespace Product

/-- What no rule recognizes. -/
def other : Product := ⟨"Other", none, none⟩

/-- The minor number before the major one, if either is known. -/
def version (p : Product) : Option String :=
  if p.major.isNone && p.minor.isNone then none else some (p.minor.getD "" ++ " / " ++ p.major.getD "")

end Product

namespace AgentRule

/-- What the rule recognizes a user agent as. Numbers without a text are not known. -/
def recognize? (r : AgentRule) (agent : String) : Option Product := do
  let m ← r.pattern.find? agent
  let family ← r.family.text? r.pattern m
  let number (part : AgentPart) : Option String := (part.text? r.pattern m).filter (· ≠ "")
  some { family, major := number r.major, minor := number r.minor }

/-- What the first rule that applies recognizes. -/
def resolve (rules : List AgentRule) (agent : String) : Product := (rules.findSome? (·.recognize? agent)).getD .other

end AgentRule

end Cohort
