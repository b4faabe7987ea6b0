import Cohort.Json.Decode
import Cohort.Proofs.Time.Text
import Cohort.Property.Value

/-!
# Property values from their JSON

A property value is written without its kind, and read as the first kind that admits what is written. The kinds
overlap: whole numbers are numbers, and instants are texts. A value that is written is still read back, unless it is
a text that stands for an instant.
-/

namespace Cohort.PropertyValue

/-- The kinds as they are tried, one after the other. -/
def readers : List (Json → Option PropertyValue) :=
  [fun | .null => some .null
       | _ => none,
    fun j => j.asBool?.map .boolean,
    fun j => j.asInt64?.map .integer,
    fun j => j.asDouble?.map .decimal,
    fun j => (Instant.ofJson? j).map .timestamp,
    fun j => j.asString?.map .text]

/-- A value is read as the first kind that admits it. -/
theorem ofJson?_eq_findSome? (j : Json) : ofJson? j = readers.findSome? fun reader => reader j := by
  cases j with
  | int i =>
    by_cases hrange : minInt64 ≤ i ∧ i ≤ maxInt64
    · simp [ofJson?, readers, Json.asBool?, Json.asInt64?, Json.asIntIn?, hrange]
    · simp [ofJson?, readers, Json.asBool?, Json.asInt64?, Json.asIntIn?, Json.asDouble?, hrange]
  | string s =>
    cases hread : Instant.ofText? s with
    | none =>
      simp [ofJson?, readers, Json.asBool?, Json.asInt64?, Json.asIntIn?, Json.asDouble?, Json.asString?,
        Instant.ofJson?, hread]
    | some t =>
      simp [ofJson?, readers, Json.asBool?, Json.asInt64?, Json.asIntIn?, Json.asDouble?, Json.asString?,
        Instant.ofJson?, hread]
  | _ => rfl

/-- Whole numbers have 64 bits with a sign, decimals are finite, and instants lie in a year that there is. -/
def IsRepresentable : PropertyValue → Prop
  | .integer i => minInt64 ≤ i ∧ i ≤ maxInt64
  | .decimal x => x.isFinite = true
  | .timestamp t => t.IsRepresentable
  | _ => True

theorem ofJson?_int {i : Int} (h : minInt64 ≤ i ∧ i ≤ maxInt64) : ofJson? (.int i) = some (.integer i) :=
  congrArg some (if_pos h)

theorem ofJson?_string_of_ofText? {s : String} {t : Instant} (h : Instant.ofText? s = some t) :
    ofJson? (.string s) = some (.timestamp t) := by
  simp only [ofJson?, h]

theorem ofJson?_string_of_none {s : String} (h : Instant.ofText? s = none) : ofJson? (.string s) = some (.text s) := by
  simp only [ofJson?, h]

theorem ofJson?_toJson_of_ne_instant {p : PropertyValue} (hp : p.IsRepresentable)
    (htext : ∀ s, p = .text s → Instant.ofText? s = none) : ofJson? p.toJson = some p := by
  cases p with
  | null => rfl
  | boolean b => rfl
  | integer i => exact ofJson?_int hp
  | decimal x => rfl
  | timestamp t => exact ofJson?_string_of_ofText? (Instant.ofText?_text hp)
  | text s => exact ofJson?_string_of_none (htext s rfl)

/-- What is read is read again from what it is written as: it is never a text that stands for an instant. -/
theorem ofJson?_toJson_of_ofJson? {j : Json} {p : PropertyValue} (h : ofJson? j = some p) :
    ofJson? p.toJson = some p := by
  cases j with
  | null =>
    cases h
    rfl
  | bool b =>
    cases h
    rfl
  | int i =>
    obtain rfl := Option.some.inj h
    split
    · rename_i hrange
      exact ofJson?_int hrange
    · rfl
  | float x =>
    cases h
    rfl
  | string s =>
    cases hread : Instant.ofText? s with
    | none =>
      obtain rfl := Option.some.inj ((ofJson?_string_of_none hread).symm.trans h)
      exact ofJson?_string_of_none hread
    | some t =>
      obtain rfl := Option.some.inj ((ofJson?_string_of_ofText? hread).symm.trans h)
      exact ofJson?_string_of_ofText? (Instant.ofText?_text (Instant.isRepresentable_of_ofText? hread))
  | array items => cases h
  | object members => cases h

/-- A representable value is read back from what it is written as, unless it is a text that stands for an instant: it
is read as the instant then. Whatever a value has been read from, it is read back. -/
theorem ofJson?_toJson_value :
    (∀ p : PropertyValue, p.IsRepresentable →
      (∀ s t, p = .text s → Instant.ofText? s = some t → ofJson? p.toJson = some (.timestamp t)) ∧
        ((∀ s, p = .text s → Instant.ofText? s = none) → ofJson? p.toJson = some p)) ∧
      ∀ j p, ofJson? j = some p → ofJson? p.toJson = some p := by
  refine ⟨fun p hp => ⟨?_, ofJson?_toJson_of_ne_instant hp⟩, fun j p => ofJson?_toJson_of_ofJson?⟩
  rintro s t rfl hread
  exact ofJson?_string_of_ofText? hread

/-- The first instant of 2024 keeps its kind, and its text loses its own. -/
theorem ofJson?_toJson_value_new_year :
    ofJson? (toJson (.timestamp ⟨1704067200, 0⟩)) = some (.timestamp ⟨1704067200, 0⟩) ∧
      ofJson? (toJson (.text "2024-01-01T00:00:00Z")) = some (.timestamp ⟨1704067200, 0⟩) ∧
      ofJson? (toJson (.text "x")) = some (.text "x") := by
  have hread : Instant.ofText? "2024-01-01T00:00:00Z" = some ⟨1704067200, 0⟩ := by decide +kernel
  have hplain : Instant.ofText? "x" = none := by decide +kernel
  refine ⟨?_, ?_, ?_⟩
  · exact (ofJson?_toJson_value.1 (.timestamp _) (Instant.isRepresentable_of_ofText? hread)).2 nofun
  · exact (ofJson?_toJson_value.1 (.text _) trivial).1 _ _ rfl hread
  · refine (ofJson?_toJson_value.1 (.text "x") trivial).2 ?_
    rintro s ⟨⟩
    exact hplain

end Cohort.PropertyValue
