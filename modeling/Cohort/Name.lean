import Cohort.Error

/-!
# Names

Projects, collections, fields, columns and tables are named by a letter or underscore and then letters, digits and
underscores, all ASCII, at most 255 of them. Every name from outside passes `checkName` before it enters a query
or the catalog.
-/

namespace Cohort

def isNameStart (c : Char) : Bool := c.isAlpha || c == '_'

def isNamePart (c : Char) : Bool := c.isAlphanum || c == '_'

def maxNameLength : Nat := 255

/-- The rule for names. -/
def isName (s : String) : Bool :=
  match s.toList with
  | [] => false
  | c :: cs => isNameStart c && cs.all isNamePart && cs.length < maxNameLength

/-- Passes a name on if it keeps the rule; `kind` says what it names. -/
def checkName (kind name : String) : Except RequestError String :=
  if isName name then .ok name else .error (.invalidName kind name)

def checkCollection (name : String) : Except RequestError String := checkName "collection" name

def checkProject (name : String) : Except RequestError String := checkName "project" name

theorem checkName_eq_ok_iff {kind name result : String} :
    checkName kind name = .ok result ↔ isName name = true ∧ result = name := by
  unfold checkName
  by_cases h : isName name = true
  · simp only [h, if_true, true_and, Except.ok.injEq]
    exact eq_comm
  · simp [h]

end Cohort
