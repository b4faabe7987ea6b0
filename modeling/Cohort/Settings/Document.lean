import Cohort.Json.Basic
import Cohort.Text.Case

/-!
# Settings documents

A settings file is an object in which names are in lower case, whatever their case was. A name at the top may be a
path into nested values, such as `log.level` or `users[2].name`; what it leads to is made as needed.
-/

namespace Cohort.Settings

/-- A step from a value into one of its parts. -/
inductive Step
  | name (s : String)
  | place (i : Int)
  deriving DecidableEq, Repr

/-- The characters of a name in a path. -/
def isNameChar (c : Char) : Bool := c.isAlphanum || c == '_' || c == '-' || c == ' '

/-- A name at the start and what follows it. -/
def takeName? (cs : List Char) : Option (Step × List Char) :=
  let name := cs.takeWhile isNameChar
  if name.isEmpty then none else some (.name (String.ofList name), cs.dropWhile isNameChar)

/-- A whole number and a closing bracket at the start, and what follows them. -/
def takePlace? (cs : List Char) : Option (Step × List Char) :=
  let (negative, ds) := match cs with
    | '-' :: ds => (true, ds)
    | ds => (false, ds)
  let digits := ds.takeWhile Char.isDigit
  match digits.isEmpty, ds.dropWhile Char.isDigit with
  | false, ']' :: rest => some (.place (if negative then -(digitsValue digits : Int) else digitsValue digits), rest)
  | _, _ => none

/-- The steps after the first, as many as there is fuel for. -/
def readSteps : Nat → List Char → Option (List Step)
  | _, [] => some []
  | 0, _ => none
  | fuel + 1, c :: cs => do
    let (step, rest) ← if c == '.' then takeName? cs else if c == '[' then takePlace? cs else none
    return step :: (← readSteps fuel rest)

/-- The path that a name at the top stands for: the name alone if it is no path. -/
def pathOf (name : String) : List Step :=
  let steps := do
    let (first, rest) ← takeName? name.toList
    return first :: (← readSteps rest.length rest)
  steps.getD [.name name]

/-- The members of an object; other values have none. -/
def membersOf : Json → List (String × Json)
  | .object ms => ms
  | _ => []

/-- The members with one of that name changed, or added at the end. -/
def changeMember (name : String) (change : Option Json → Json) : List (String × Json) → List (String × Json)
  | [] => [(name, change none)]
  | (n, j) :: rest => if n == name then (n, change (some j)) :: rest else (n, j) :: changeMember name change rest

/-- The items with one at that place changed; nulls fill the places before a new one. -/
def changeItem (i : Nat) (change : Json → Json) (items : List Json) : List Json :=
  let items := items ++ List.replicate (i + 1 - items.length) .null
  items.modify i change

/-- The place that counts from the end if it is negative. -/
def placeIn (i : Int) (length : Nat) : Nat := if 0 ≤ i then i.toNat else length - i.natAbs

mutual

/-- Puts a value under a name in lower case. An object joins the object that is there, any other value takes its
place. -/
def put (into : Json) (name : String) : Json → Json
  | .object ms =>
    .object (changeMember (Text.lower name) (fun old => putAll (old.getD (.object [])) ms) (membersOf into))
  | j => .object (changeMember (Text.lower name) (fun _ => j) (membersOf into))

def putAll (into : Json) : List (String × Json) → Json
  | [] => into
  | (n, j) :: rest => putAll (put into n j) rest

end

/-- Puts a value at a path. -/
def putAt (value : Json) : List Step → Json → Json
  | [], into => into
  | [.name n], into => put into n value
  | [.place i], into =>
    let items := match into with
      | .array items => items
      | _ => []
    .array (changeItem (placeIn i items.length) (fun _ => value) items)
  | .name n :: rest, into =>
    .object (changeMember n (fun old => putAt value rest (old.getD .null)) (membersOf into))
  | .place i :: rest, into =>
    let items := match into with
      | .array items => items
      | _ => []
    .array (changeItem (placeIn i items.length) (putAt value rest) items)

/-- The settings in an object, whose names are paths. Other values hold no settings. -/
def document? : Json → Option Json
  | .object ms => some (ms.foldl (fun into m => putAt m.2 (pathOf m.1) into) (.object []))
  | _ => none

end Cohort.Settings
