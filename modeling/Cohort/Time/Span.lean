import Cohort.Json.Decode

/-!
# Spans of time

Whole seconds and nanoseconds after them.
-/

namespace Cohort

structure Span where
  seconds : Nat
  nanos : Nat
  deriving DecidableEq, Inhabited, Repr

namespace Span

def nanosPerSecond : Nat := 1000000000

def toJson (s : Span) : Json := .object [("secs", .int s.seconds), ("nanos", .int s.nanos)]

/-- Nanoseconds that make up whole seconds count as those, as long as the seconds fit into 64 bits. -/
def ofParts? (seconds nanos : Nat) : Option Span :=
  let total := seconds + nanos / nanosPerSecond
  if total < word64 then some ⟨total, nanos % nanosPerSecond⟩ else none

/-- Both parts by name and nothing else, or both in a list. -/
def ofJson? (j : Json) : Option Span := do
  let r ← j.asRecord? ["secs", "nanos"]
  if let .object ms := j then
    if !ms.all fun m => m.1 == "secs" || m.1 == "nanos" then none
  let seconds ← r.required 0 "secs" Json.asNat64?
  let nanos ← r.required 1 "nanos" (Json.asIntIn? 0 (word32 - 1))
  ofParts? seconds nanos.toNat

end Span

end Cohort
