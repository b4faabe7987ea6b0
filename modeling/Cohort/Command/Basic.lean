import Cohort.Command.Arguments
import Cohort.Command.Flags

/-!
# Commands

A command searches users, creates a segment or resolves a user agent. Each of them names its settings file; a
request comes from flags, or from a file that takes their place.
-/

namespace Cohort

inductive Command
  | search (settings project : String) (flags : SearchFlags) (request : Option String)
  | segment (settings project : String) (flags : SegmentFlags) (request : Option String)
  | userAgent (settings : String) (database : Option String) (agent : String)
  deriving DecidableEq, Inhabited, Repr

namespace Command

/-- The path of the settings file. -/
def settings : Command → String
  | .search path _ _ _ => path
  | .segment path _ _ _ => path
  | .userAgent path _ _ => path

/-- The path of a file, which is not empty. -/
def readPath (text : String) : Except Usage String := if text.isEmpty then .error .mistake else .ok text

/-- A whole number of 64 bits, with a plus before it or not. -/
def readNumber (text : String) : Except Usage Nat :=
  let ds := match text.toList with
    | '+' :: ds => ds
    | ds => ds
  let n := digitsValue ds
  if !ds.isEmpty && ds.all Char.isDigit && n < word64 then .ok n else .error .mistake

/-- The names in a list with commas. -/
def readList (text : String) : List String := (text.toList.splitOn ',').map String.ofList

def optional {α : Type} (read : String → Except Usage α) : Option String → Except Usage (Option α)
  | none => .ok none
  | some text => (read text).map some

def searchSignature : Signature :=
  { options :=
      [("config", .single), ("project", .single), ("columns", .repeated), ("filter", .single), ("event", .repeated),
        ("event-predicate", .single), ("sort", .single), ("desc", .switch), ("limit", .single),
        ("offset", .single), ("request", .single)]
    operands := 0 }

def segmentSignature : Signature :=
  { options :=
      [("config", .single), ("project", .single), ("name", .single), ("table", .single), ("filter", .single),
        ("event", .repeated), ("event-predicate", .single), ("interval", .single), ("request", .single)]
    operands := 0 }

def userAgentSignature : Signature := { options := [("config", .single), ("ua-db-path", .single)], operands := 1 }

def eventFlags (a : Arguments) : EventFlags :=
  { events := a.values "event", predicate := a.value? "event-predicate" }

def readSearch (a : Arguments) : Except Usage Command := do
  let flags : SearchFlags :=
    { columns := (a.values "columns").flatMap readList
      filter := a.value? "filter"
      events := eventFlags a
      sort := a.value? "sort"
      descending := a.has "desc"
      limit := (← optional readNumber (a.value? "limit")).getD SearchRequest.defaultLimit
      offset := ← optional readNumber (a.value? "offset") }
  return .search (← readPath (← a.required "config")) (← a.required "project") flags
    (← optional readPath (a.value? "request"))

def readSegment (a : Arguments) : Except Usage Command := do
  let flags : SegmentFlags :=
    { name := ← a.required "name"
      table := ← a.required "table"
      filter := a.value? "filter"
      events := eventFlags a
      interval := a.value? "interval" }
  return .segment (← readPath (← a.required "config")) (← a.required "project") flags
    (← optional readPath (a.value? "request"))

def readUserAgent (a : Arguments) : Except Usage Command := do
  let settings ← readPath (← a.required "config")
  let database ← optional readPath (a.value? "ua-db-path")
  match a.operands with
  | [agent] => return .userAgent settings database agent
  | _ => throw .mistake

/-- The command that a line of arguments names, or none if it is empty. -/
def ofLine : List String → Except Usage (Option Command)
  | [] => .ok none
  | name :: rest =>
    match Argument.ofText name with
    | .operand "search" => do return some (← readSearch (← searchSignature.read rest))
    | .operand "segment" => do return some (← readSegment (← segmentSignature.read rest))
    | .operand "user-agent" => do return some (← readUserAgent (← userAgentSignature.read rest))
    | .operand "help" => .error .help
    | _ => do
      let _ ← (Signature.mk [] 0).read (name :: rest)
      return none

end Command

end Cohort
