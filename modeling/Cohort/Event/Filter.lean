import Cohort.Aggregate
import Cohort.Predicate.Encoding
import Cohort.Time.Reading

/-!
# Event filters

An event filter stands for the users who did at least one event of a collection, under optional conditions: a
predicate on the event, a timeframe, and bounds on an aggregate over the events of one user.
-/

namespace Cohort

namespace Instant

def toJson (t : Instant) : Json := .string t.text

def ofJson? (j : Json) : Option Instant := j.asString?.bind ofText?

end Instant

/-- Open at both ends, each of which may be missing. -/
structure Timeframe where
  start : Option Instant
  stop : Option Instant
  deriving DecidableEq, Inhabited, Repr

namespace Timeframe

def toJson (t : Timeframe) : Json :=
  .object [("start", Json.ofOption Instant.toJson t.start), ("end", Json.ofOption Instant.toJson t.stop)]

def ofJson? (j : Json) : Option Timeframe := do
  let r ← j.asRecord? ["start", "end"]
  some
    { start := ← r.optional 0 "start" Instant.ofJson?
      stop := ← r.optional 1 "end" Instant.ofJson? }

end Timeframe

/-- Bounds on an aggregate per user, the lower one inclusive and the upper one exclusive. -/
structure Aggregation where
  function : AggregateFunction
  field : Option String
  minimum : Option Int
  maximum : Option Int
  deriving DecidableEq, Inhabited, Repr

namespace Aggregation

/-- Whether it is the user column that is aggregated: a count of no field in particular. -/
def isOfUser (a : Aggregation) : Bool := a.function == .count && a.field.isNone

def toJson (a : Aggregation) : Json :=
  .object
    [("type", .string a.function.name), ("field", Json.ofOption .string a.field),
      ("minimum", Json.ofOption .int a.minimum), ("maximum", Json.ofOption .int a.maximum)]

def ofJson? (j : Json) : Option Aggregation := do
  let r ← j.asRecord? ["type", "field", "minimum", "maximum"]
  some
    { function := ← r.required 0 "type" AggregateFunction.ofJson?
      field := ← r.optional 1 "field" Json.asString?
      minimum := ← r.optional 2 "minimum" Json.asInt64?
      maximum := ← r.optional 3 "maximum" Json.asInt64? }

end Aggregation

structure EventFilter where
  collection : String
  filter : Option Predicate
  timeframe : Option Timeframe
  aggregation : Option Aggregation
  deriving Inhabited, Repr

namespace EventFilter

def toJson (f : EventFilter) : Json :=
  .object
    [("collection", .string f.collection), ("filter", Json.ofOption Predicate.toJson f.filter),
      ("timeframe", Json.ofOption Timeframe.toJson f.timeframe),
      ("aggregation", Json.ofOption Aggregation.toJson f.aggregation)]

/-- Decodes an event filter; `lists` is for its predicate. -/
def ofJson? (lists : Bool) (j : Json) : Option EventFilter := do
  let r ← j.asRecord? ["collection", "filter", "timeframe", "aggregation"]
  some
    { collection := ← r.required 0 "collection" Json.asString?
      filter := ← r.defaulted 1 "filter" none (Json.asOption? (Predicate.ofJson? lists))
      timeframe := ← r.defaulted 2 "timeframe" none (Json.asOption? Timeframe.ofJson?)
      aggregation := ← r.defaulted 3 "aggregation" none (Json.asOption? Aggregation.ofJson?) }

end EventFilter

end Cohort
