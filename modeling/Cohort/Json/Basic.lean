import Cohort.Keyed
import Cohort.Number.Decimal

/-!
# JSON values

Whole numbers and doubles are kept apart, because `1` and `1.0` decode differently. An object keeps its members as
they were written, in order and with repetitions; `Json.canonical` is the view in which names are unique and
sorted.
-/

namespace Cohort

inductive Json
  | null
  | bool (b : Bool)
  | int (i : Int)
  | float (x : Double)
  | string (s : String)
  | array (items : List Json)
  | object (members : List (String × Json))
  deriving Inhabited, Repr

namespace Json

/-- The same value with unique, sorted names in every object. -/
def canonical : Json → Json
  | .array items => .array (canonicalItems items)
  | .object members => .object (Keyed.ofList (canonicalMembers members)).entries
  | j => j
where
  canonicalItems : List Json → List Json
    | [] => []
    | j :: rest => canonical j :: canonicalItems rest
  canonicalMembers : List (String × Json) → List (String × Json)
    | [] => []
    | (n, j) :: rest => (n, canonical j) :: canonicalMembers rest

/-- The levels of brackets. -/
def depth : Json → Nat
  | .array items => depthItems items + 1
  | .object members => depthMembers members + 1
  | _ => 0
where
  depthItems : List Json → Nat
    | [] => 0
    | j :: rest => max (depth j) (depthItems rest)
  depthMembers : List (String × Json) → Nat
    | [] => 0
    | (_, j) :: rest => max (depth j) (depthMembers rest)

/-- A missing member reads as null. -/
def field (j : Json) (name : String) : Json :=
  match j with
  | .object members => ((members.find? (·.1 == name)).map (·.2)).getD .null
  | _ => .null

end Json

end Cohort
