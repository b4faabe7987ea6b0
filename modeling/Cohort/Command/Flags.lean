import Cohort.Predicate.Reading
import Cohort.Time.SpanReading
import Cohort.Users.Request

/-!
# Requests from flags

The flags of a search or a segment say the same as a request, in text. The predicate of a flag is read first, then
the one for events, then the interval.
-/

namespace Cohort

/-- The flags that name events: one event filter for each collection, all with the same predicate. -/
structure EventFlags where
  events : List String
  predicate : Option String
  deriving DecidableEq, Inhabited, Repr

/-- The predicate of a flag, if the flag is there. -/
def readPredicateFlag : Option String → Except CommandError (Option Predicate)
  | none => .ok none
  | some text => ((Predicate.read text).mapError .request).map some

def EventFlags.filters (f : EventFlags) : Except CommandError (List EventFilter) := do
  let predicate ← readPredicateFlag f.predicate
  return f.events.map fun collection => { collection, filter := predicate, timeframe := none, aggregation := none }

structure SearchFlags where
  columns : List String
  filter : Option String
  events : EventFlags
  sort : Option String
  descending : Bool
  limit : Nat
  offset : Option Nat
  deriving DecidableEq, Inhabited, Repr

def SearchFlags.request (f : SearchFlags) : Except CommandError SearchRequest := do
  let filter ← readPredicateFlag f.filter
  let eventFilters ← f.events.filters
  return {
    columns := f.columns
    filter
    eventFilters
    sorting := f.sort.map fun column => ⟨column, if f.descending then .desc else .asc⟩
    limit := f.limit
    offset := f.offset }

structure SegmentFlags where
  name : String
  table : String
  filter : Option String
  events : EventFlags
  interval : Option String
  deriving DecidableEq, Inhabited, Repr

/-- The span of a flag, if the flag is there. -/
def readSpanFlag : Option String → Except CommandError (Option Span)
  | none => .ok none
  | some text => match Span.ofText? text with
    | some s => .ok (some s)
    | none => .error .span

def SegmentFlags.request (f : SegmentFlags) : Except CommandError SegmentRequest := do
  let filter ← readPredicateFlag f.filter
  let eventFilters ← f.events.filters
  let interval ← readSpanFlag f.interval
  return { name := f.name, tableName := f.table, filter, eventFilters, interval }

end Cohort
