import Cohort.Event.Query
import Cohort.Proofs.Encoding.Request
import Cohort.Proofs.Lexing.Legibility
import Cohort.Proofs.Meaning.Cell

/-!
# Timeframes in queries

The ends of a timeframe are written in whole milliseconds. For an event at a whole millisecond the cut does no harm to
the start of the timeframe, which stays between the same milliseconds. An end within a millisecond moves to its
beginning, so that an event there is left out.
-/

namespace Cohort

namespace Instant

variable {s t : Instant}

/-- Earlier instants are less. A leap second comes after the second that it follows and before the next one. -/
instance : LT Instant := ⟨fun s t => s.seconds < t.seconds ∨ s.seconds = t.seconds ∧ s.nanos < t.nanos⟩

theorem lt_iff : s < t ↔ s.seconds < t.seconds ∨ s.seconds = t.seconds ∧ s.nanos < t.nanos := Iff.rfl

instance (s t : Instant) : Decidable (s < t) := decidable_of_iff _ lt_iff.symm

/-- The instant is a whole number of milliseconds. -/
def IsWhole (t : Instant) : Prop := t.nanos % 1000000 = 0

theorem eq_cut_iff : t = s.cut ↔ t.seconds = s.seconds ∧ t.nanos = s.nanos / 1000000 * 1000000 := by
  obtain ⟨seconds, nanos⟩ := t
  exact Instant.mk.injEq .. ▸ Iff.rfl

/-- No whole millisecond lies between an instant and where it is cut. -/
theorem cut_lt_iff (ht : t.IsWhole) : s.cut < t ↔ s < t := by
  rw [lt_iff, lt_iff, seconds_cut, nanos_cut]
  unfold IsWhole at ht
  omega

theorem lt_cut_iff (ht : t.IsWhole) : t < s.cut ↔ t < s ∧ t ≠ s.cut := by
  rw [Ne, eq_cut_iff, lt_iff, lt_iff, seconds_cut, nanos_cut]
  unfold IsWhole at ht
  omega

end Instant

namespace Dialect

theorem then_compare_eq_lt_iff {s t : Instant} :
    (compare s.seconds t.seconds).then (compare s.nanos t.nanos) = .lt ↔ s < t := by
  rw [Ordering.then_eq_lt, Int.compare_eq_lt, compare_eq_iff_eq, Nat.compare_eq_lt, Instant.lt_iff]

theorem then_compare_eq_gt_iff {s t : Instant} :
    (compare s.seconds t.seconds).then (compare s.nanos t.nanos) = .gt ↔ t < s := by
  rw [Ordering.then_eq_gt, Int.compare_eq_gt, compare_eq_iff_eq, Nat.compare_eq_gt, Instant.lt_iff, eq_comm]

theorem plain_lt_moment_iff {s t : Instant} :
    plain.binary .lt (.moment s) (.moment t) = .boolean true ↔ s < t := by
  rw [← then_compare_eq_lt_iff]
  simp [binary, plain, holds, Cell.ofTruth]

theorem plain_gt_moment_iff {s t : Instant} :
    plain.binary .gt (.moment s) (.moment t) = .boolean true ↔ t < s := by
  rw [← then_compare_eq_gt_iff]
  simp [binary, plain, holds, Cell.ofTruth]

/-- The text of an instant in queries is read in whole milliseconds. -/
theorem plain_timestamp_queryText {t : Instant} (h : t.IsRepresentable) :
    plain.timestamp t.queryText = .moment t.cut := by
  have hread := Instant.ofText?_queryText h
  simp [plain, hread]

end Dialect

namespace EventFilter

open Sql

/-- The tokens of a comparison of the time of events with the point in time that a text stands for. -/
def timeTokens (op : Operator) (literal : String) : List Token :=
  [.plain "collection", .symbol .period, .plain "_time", op.token, .plain "CAST", .symbol .leftParen, .string literal,
    .plain "AS", .plain "timestamp", .symbol .rightParen]

/-- The condition with that text compares the time of events with a point in time, and is true of an event at `t`. -/
def HoldsAt (t : Instant) (text : String) : Prop :=
  ∃ op literal, tokenize text.toList = .ok (timeTokens op literal) ∧
    Dialect.plain.binary op (.moment t) (Dialect.plain.timestamp literal) = .boolean true

theorem tokenize_timeCondition (op : Operator) (s : Instant) :
    tokenize (Term.binary (eventColumn .time) op (.timestamp s)).text.toList = .ok (timeTokens op s.queryText) := by
  rw [Term.tokenize_text]
  cases op <;> rfl

theorem token_injective : Function.Injective Operator.token := by
  intro op op' h
  cases op <;> cases op' <;> first | rfl | simp [Operator.token, Token.plain] at h

theorem holdsAt_timeCondition_iff {op : Operator} {s t : Instant} (h : s.IsRepresentable) :
    HoldsAt t (Term.binary (eventColumn .time) op (.timestamp s)).text ↔
      Dialect.plain.binary op (.moment t) (.moment s.cut) = .boolean true := by
  unfold HoldsAt
  simp only [tokenize_timeCondition, Except.ok.injEq]
  constructor
  · rintro ⟨op', literal, htokens, hholds⟩
    simp only [timeTokens, List.cons.injEq, Token.string.injEq, true_and, and_true] at htokens
    obtain ⟨hop, rfl⟩ := htokens
    obtain rfl := token_injective hop
    rwa [Dialect.plain_timestamp_queryText h] at hholds
  · intro hholds
    exact ⟨op, s.queryText, rfl, by rwa [Dialect.plain_timestamp_queryText h]⟩

/-- The conditions of a timeframe, as they are written, are true of an event at a whole millisecond if and only if it
is after the start and before the end, other than at the millisecond that the end is cut to. -/
theorem holdsAt_timeConditions_iff {f : Timeframe} (hf : f.IsRepresentable) {t : Instant} (ht : t.IsWhole) :
    (∀ c ∈ timeConditions f, HoldsAt t c.text) ↔
      (∀ s ∈ f.start, s < t) ∧ ∀ s ∈ f.stop, t < s ∧ t ≠ s.cut := by
  have hstart : ∀ s ∈ f.start,
      (HoldsAt t (Term.binary (eventColumn .time) .gt (.timestamp s)).text ↔ s < t) := fun s hs => by
    rw [holdsAt_timeCondition_iff (hf.start s hs), Dialect.plain_gt_moment_iff, Instant.cut_lt_iff ht]
  have hstop : ∀ s ∈ f.stop,
      (HoldsAt t (Term.binary (eventColumn .time) .lt (.timestamp s)).text ↔ t < s ∧ t ≠ s.cut) := fun s hs => by
    rw [holdsAt_timeCondition_iff (hf.stop s hs), Dialect.plain_lt_moment_iff, Instant.lt_cut_iff ht]
  unfold timeConditions
  rw [List.forall_mem_append]
  refine and_congr ?_ ?_
  · cases hs : f.start with
    | none => simp
    | some s => simpa using hstart s hs
  · cases hs : f.stop with
    | none => simp
    | some s => simpa using hstop s hs

/-- From half a millisecond before 2024 to one and a half after its beginning, which is kept. -/
theorem holdsAt_timeConditions_iff_new_year :
    (Timeframe.mk (some ⟨1704067199, 999500000⟩) (some ⟨1704067200, 1500000⟩)).IsRepresentable ∧
      Instant.IsWhole ⟨1704067200, 0⟩ ∧
      ∀ c ∈ timeConditions ⟨some ⟨1704067199, 999500000⟩, some ⟨1704067200, 1500000⟩⟩,
        HoldsAt ⟨1704067200, 0⟩ c.text := by
  have hbefore : Instant.IsRepresentable ⟨1704067199, 999500000⟩ := ⟨by decide +kernel, by decide, by decide⟩
  have hafter : Instant.IsRepresentable ⟨1704067200, 1500000⟩ := ⟨by decide +kernel, by decide, by decide⟩
  have hf : (Timeframe.mk (some ⟨1704067199, 999500000⟩) (some ⟨1704067200, 1500000⟩)).IsRepresentable :=
    ⟨fun s hs => Option.some.inj hs ▸ hbefore, fun s hs => Option.some.inj hs ▸ hafter⟩
  have hwhole : Instant.IsWhole ⟨1704067200, 0⟩ := rfl
  refine ⟨hf, hwhole, (holdsAt_timeConditions_iff hf hwhole).2 ⟨?_, ?_⟩⟩
  · rintro s ⟨⟩
    decide
  · rintro s ⟨⟩
    exact ⟨by decide, by decide⟩

/-- An end half a millisecond after the beginning of 2024 leaves out the beginning. -/
theorem not_holdsAt_before_stop :
    (⟨1704067200, 0⟩ : Instant) < ⟨1704067200, 500000⟩ ∧
      ¬∀ c ∈ timeConditions ⟨none, some ⟨1704067200, 500000⟩⟩, HoldsAt ⟨1704067200, 0⟩ c.text := by
  have hstop : Instant.IsRepresentable ⟨1704067200, 500000⟩ := ⟨by decide +kernel, by decide, by decide⟩
  refine ⟨by decide, fun hholds => ?_⟩
  have hlt := hholds _ (List.mem_singleton_self _)
  rw [holdsAt_timeCondition_iff hstop, Dialect.plain_lt_moment_iff] at hlt
  exact absurd hlt (by decide)

end EventFilter

end Cohort
