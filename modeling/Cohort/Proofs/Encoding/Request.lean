import Cohort.Catalog.View
import Cohort.Proofs.Checking
import Cohort.Proofs.Encoding.Predicate
import Cohort.Proofs.Time.Text
import Cohort.Users.Request

/-!
# Requests from their JSON

Event filters, requests about users, tables of rows and views are decoded from the values that they are encoded as. A
part that is absent is written as null, which none of the decoders of these parts takes for a value.
-/

namespace Cohort

open Json (Arranges)
open Json.Record (required_of_find? optional_of_find? defaulted_of_find?)

variable {f : Json → Json}

theorem Instant.ofJson?_toJson (hf : Arranges f) {t : Instant} (h : t.IsRepresentable) :
    ofJson? (f t.toJson) = some t := by
  rw [toJson, ofJson?, hf.asString?_string, Option.bind_some, ofText?_text h]

namespace Timeframe

/-- Both ends are representable. -/
structure IsRepresentable (t : Timeframe) : Prop where
  start : ∀ i ∈ t.start, i.IsRepresentable
  stop : ∀ i ∈ t.stop, i.IsRepresentable

theorem ofJson?_toJson (hf : Arranges f) {t : Timeframe} (h : t.IsRepresentable) : ofJson? (f t.toJson) = some t := by
  obtain ⟨members, hobject, hrecord, -, hfind⟩ :=
    hf.exists_record ["start", "end"] (show t.toJson = _ from rfl) rfl (by decide)
  have hstart := hf.asOption?_ofOption rfl fun i hi => Instant.ofJson?_toJson hf (h.start i hi)
  have hstop := hf.asOption?_ofOption rfl fun i hi => Instant.ofJson?_toJson hf (h.stop i hi)
  rw [hobject, ofJson?, hrecord]
  simp only [Option.bind_eq_bind, Option.bind_some, optional_of_find? (hfind 0 "start" rfl), hstart,
    optional_of_find? (hfind 1 "end" rfl), hstop]

end Timeframe

namespace Aggregation

/-- The bounds are whole numbers of 64 bits with a sign. -/
structure IsRepresentable (a : Aggregation) : Prop where
  minimum : ∀ i ∈ a.minimum, minInt64 ≤ i ∧ i ≤ maxInt64
  maximum : ∀ i ∈ a.maximum, minInt64 ≤ i ∧ i ≤ maxInt64

theorem ofJson?_toJson (hf : Arranges f) {a : Aggregation} (h : a.IsRepresentable) :
    ofJson? (f a.toJson) = some a := by
  obtain ⟨members, hobject, hrecord, -, hfind⟩ :=
    hf.exists_record ["type", "field", "minimum", "maximum"] (show a.toJson = _ from rfl) rfl (by decide)
  have hfunction : AggregateFunction.ofJson? (f (.string a.function.name)) = some a.function := by
    rw [hf.scalar rfl, AggregateFunction.ofJson?_name]
  have hfield := hf.asOption?_ofOption rfl fun field (_ : a.field = some field) => hf.asString?_string field
  have hminimum := hf.asOption?_ofOption rfl fun i hi => hf.asInt64?_int (h.minimum i hi)
  have hmaximum := hf.asOption?_ofOption rfl fun i hi => hf.asInt64?_int (h.maximum i hi)
  rw [hobject, ofJson?, hrecord]
  simp only [Option.bind_eq_bind, Option.bind_some, required_of_find? (hfind 0 "type" rfl), hfunction,
    optional_of_find? (hfind 1 "field" rfl), hfield, optional_of_find? (hfind 2 "minimum" rfl), hminimum,
    optional_of_find? (hfind 3 "maximum" rfl), hmaximum]

end Aggregation

namespace EventFilter

/-- All parts that are there are representable. -/
structure IsRepresentable (e : EventFilter) : Prop where
  filter : ∀ p ∈ e.filter, p.IsRepresentable
  timeframe : ∀ t ∈ e.timeframe, t.IsRepresentable
  aggregation : ∀ a ∈ e.aggregation, a.IsRepresentable

theorem ofJson?_toJson (hf : Arranges f) (lists : Bool) {e : EventFilter} (h : e.IsRepresentable) :
    ofJson? lists (f e.toJson) = some e := by
  obtain ⟨members, hobject, hrecord, -, hfind⟩ := hf.exists_record
    ["collection", "filter", "timeframe", "aggregation"] (show e.toJson = _ from rfl) rfl (by decide)
  have hfilter := hf.asOption?_ofOption rfl fun p hp => Predicate.ofJson?_toJson hf lists (h.filter p hp)
  have htimeframe := hf.asOption?_ofOption rfl fun t ht => Timeframe.ofJson?_toJson hf (h.timeframe t ht)
  have haggregation := hf.asOption?_ofOption rfl fun a ha => Aggregation.ofJson?_toJson hf (h.aggregation a ha)
  rw [hobject, ofJson?, hrecord]
  simp only [Option.bind_eq_bind, Option.bind_some, required_of_find? (hfind 0 "collection" rfl), hf.asString?_string,
    defaulted_of_find? (hfind 1 "filter" rfl), hfilter, defaulted_of_find? (hfind 2 "timeframe" rfl), htimeframe,
    defaulted_of_find? (hfind 3 "aggregation" rfl), haggregation]

end EventFilter

theorem Sorting.ofJson?_arranged (hf : Arranges f) (s : Sorting) : ofJson? (f s.toJson) = some s := by
  obtain ⟨members, hobject, hrecord, -, hfind⟩ :=
    hf.exists_record ["column", "order"] (show s.toJson = _ from rfl) rfl (by decide)
  have hdirection : Direction.ofJson? (f (.string s.direction.name)) = some s.direction := by
    rw [hf.scalar rfl]
    cases s.direction <;> rfl
  rw [hobject, ofJson?, hrecord]
  simp only [Option.bind_eq_bind, Option.bind_some, required_of_find? (hfind 0 "column" rfl), hf.asString?_string,
    defaulted_of_find? (hfind 1 "order" rfl), hdirection]

namespace SearchRequest

/-- All parts that are there are representable, and both numbers have 64 bits. -/
structure IsRepresentable (r : SearchRequest) : Prop where
  filter : ∀ p ∈ r.filter, p.IsRepresentable
  eventFilters : ∀ e ∈ r.eventFilters, e.IsRepresentable
  limit : r.limit < word64
  offset : ∀ n ∈ r.offset, n < word64

theorem ofJson?_toJson (hf : Arranges f) (lists : Bool) {r : SearchRequest} (h : r.IsRepresentable) :
    ofJson? lists (f r.toJson) = some r := by
  obtain ⟨members, hobject, hrecord, -, hfind⟩ := hf.exists_record
    ["columns", "filter", "eventFilters", "sorting", "limit", "offset"] (show r.toJson = _ from rfl) rfl (by decide)
  have hcolumns := hf.asList?_ofList fun column (_ : column ∈ r.columns) => hf.asString?_string column
  have hfilter := hf.asOption?_ofOption rfl fun p hp => Predicate.ofJson?_toJson hf lists (h.filter p hp)
  have heventFilters := hf.asList?_ofList fun e he => EventFilter.ofJson?_toJson hf lists (h.eventFilters e he)
  have hsorting := hf.asOption?_ofOption rfl fun s (_ : r.sorting = some s) => Sorting.ofJson?_arranged hf s
  have hlimit := hf.asNat64?_int h.limit
  have hoffset := hf.asOption?_ofOption rfl fun n hn => hf.asNat64?_int (h.offset n hn)
  rw [hobject, ofJson?, hrecord]
  simp only [Option.bind_eq_bind, Option.bind_some, defaulted_of_find? (hfind 0 "columns" rfl), hcolumns,
    defaulted_of_find? (hfind 1 "filter" rfl), hfilter, defaulted_of_find? (hfind 2 "eventFilters" rfl), heventFilters,
    defaulted_of_find? (hfind 3 "sorting" rfl), hsorting, defaulted_of_find? (hfind 4 "limit" rfl), hlimit,
    defaulted_of_find? (hfind 5 "offset" rfl), hoffset]

end SearchRequest

namespace Span

/-- Seconds have 64 bits, and no whole second is left in the nanoseconds. -/
structure IsRepresentable (s : Span) : Prop where
  seconds : s.seconds < word64
  nanos : s.nanos < nanosPerSecond

theorem ofParts?_eq (s : Span) (h : s.IsRepresentable) : ofParts? s.seconds s.nanos = some s := by
  unfold ofParts?
  dsimp only
  rw [Nat.div_eq_of_lt h.nanos, Nat.add_zero, Nat.mod_eq_of_lt h.nanos, if_pos h.seconds]

theorem ofJson?_toJson (hf : Arranges f) {s : Span} (h : s.IsRepresentable) : ofJson? (f s.toJson) = some s := by
  obtain ⟨members, hobject, hrecord, hnames, hfind⟩ :=
    hf.exists_record ["secs", "nanos"] (show s.toJson = _ from rfl) rfl (by decide)
  have hknown : (members.all fun m => m.1 == "secs" || m.1 == "nanos") = true := by
    refine List.all_eq_true.2 fun m hm => ?_
    simpa using hnames m hm
  have hrange : (0 : Int) ≤ s.nanos ∧ (s.nanos : Int) ≤ word32 - 1 := by
    have hlt : s.nanos < 1000000000 := h.nanos
    rw [word32]
    omega
  rw [hobject, ofJson?, hrecord]
  simp only [Option.bind_eq_bind, Option.bind_some, hknown, Bool.not_true, required_of_find? (hfind 0 "secs" rfl),
    hf.asNat64?_int h.seconds, required_of_find? (hfind 1 "nanos" rfl), hf.asIntIn?_int hrange, Int.toNat_natCast]
  exact ofParts?_eq s h

end Span

namespace SegmentRequest

/-- All parts that are there are representable. -/
structure IsRepresentable (r : SegmentRequest) : Prop where
  filter : ∀ p ∈ r.filter, p.IsRepresentable
  eventFilters : ∀ e ∈ r.eventFilters, e.IsRepresentable
  interval : ∀ s ∈ r.interval, s.IsRepresentable

theorem ofJson?_toJson (hf : Arranges f) (lists : Bool) {r : SegmentRequest} (h : r.IsRepresentable) :
    ofJson? lists (f r.toJson) = some r := by
  obtain ⟨members, hobject, hrecord, -, hfind⟩ := hf.exists_record
    ["name", "tableName", "filter", "eventFilters", "interval"] (show r.toJson = _ from rfl) rfl (by decide)
  have hfilter := hf.asOption?_ofOption rfl fun p hp => Predicate.ofJson?_toJson hf lists (h.filter p hp)
  have heventFilters := hf.asList?_ofList fun e he => EventFilter.ofJson?_toJson hf lists (h.eventFilters e he)
  have hinterval := hf.asOption?_ofOption rfl fun s hs => Span.ofJson?_toJson hf (h.interval s hs)
  rw [hobject, ofJson?, hrecord]
  simp only [Option.bind_eq_bind, Option.bind_some, required_of_find? (hfind 0 "name" rfl), hf.asString?_string,
    required_of_find? (hfind 1 "tableName" rfl), defaulted_of_find? (hfind 2 "filter" rfl), hfilter,
    defaulted_of_find? (hfind 3 "eventFilters" rfl), heventFilters, defaulted_of_find? (hfind 4 "interval" rfl),
    hinterval]

end SegmentRequest

theorem Field.ofJson?_arranged (hf : Arranges f) (field : Field) : ofJson? (f field.toJson) = some field := by
  obtain ⟨members, hobject, hrecord, -, hfind⟩ :=
    hf.exists_record ["name", "type", "nullable"] (show field.toJson = _ from rfl) rfl (by decide)
  have htype : FieldType.ofJson? (f (.string field.type.name)) = some field.type := by
    rw [hf.scalar rfl]
    exact FieldType.lookup_name field.type
  rw [hobject, ofJson?, hrecord]
  simp only [Option.bind_eq_bind, Option.bind_some, required_of_find? (hfind 0 "name" rfl), hf.asString?_string,
    required_of_find? (hfind 1 "type" rfl), htype, defaulted_of_find? (hfind 2 "nullable" rfl), hf.asBool?_bool]

namespace Rows

/-- The members of every cell are unique and sorted. -/
def IsRepresentable (t : Rows) : Prop := ∀ row ∈ t.rows, ∀ j ∈ row, j.canonical = j

theorem ofJson?_toJson (hf : Arranges f) {t : Rows} (h : t.IsRepresentable) : ofJson? (f t.toJson) = some t := by
  obtain ⟨members, hobject, hrecord, -, hfind⟩ :=
    hf.exists_record ["columns", "rows"] (show t.toJson = _ from rfl) rfl (by decide)
  have hcolumns := hf.asList?_ofList fun field (_ : field ∈ t.columns) => Field.ofJson?_arranged hf field
  have hrows := hf.asList?_ofList fun row hrow => hf.asList?_canonical (h row hrow)
  rw [hobject, ofJson?, hrecord]
  simp only [Option.bind_eq_bind, Option.bind_some, required_of_find? (hfind 0 "columns" rfl), hcolumns,
    required_of_find? (hfind 1 "rows" rfl), hrows]

end Rows

namespace View

/-- The interval is representable, and the members of every option are unique and sorted. -/
structure IsRepresentable (v : View) : Prop where
  updateInterval : ∀ s ∈ v.updateInterval, s.IsRepresentable
  options : ∀ j ∈ v.options.values, j.canonical = j

theorem ofJson?_toJson (hf : Arranges f) {v : View} (h : v.IsRepresentable) : ofJson? (f v.toJson) = some v := by
  obtain ⟨members, hobject, hrecord, -, hfind⟩ := hf.exists_record
    ["table_name", "name", "description", "query", "update_interval", "incremental", "options"]
    (show v.toJson = _ from rfl) rfl (by decide)
  have hdescription := hf.asOption?_ofOption rfl fun s (_ : v.description = some s) => hf.asString?_string s
  have hinterval := hf.asOption?_ofOption rfl fun s hs => Span.ofJson?_toJson hf (h.updateInterval s hs)
  have hoptions := hf.asMap?_canonical h.options
  rw [hobject, ofJson?, hrecord]
  simp only [Option.bind_eq_bind, Option.bind_some, required_of_find? (hfind 0 "table_name" rfl), hf.asString?_string,
    required_of_find? (hfind 1 "name" rfl), optional_of_find? (hfind 2 "description" rfl), hdescription,
    required_of_find? (hfind 3 "query" rfl), optional_of_find? (hfind 4 "update_interval" rfl), hinterval,
    required_of_find? (hfind 5 "incremental" rfl), hf.asBool?_bool, required_of_find? (hfind 6 "options" rfl), hoptions]

end View

/-! ## Round trips -/

open Json (RoundTrips roundTrips_of_arranges)

/-- What can be represented is decoded from what it is encoded as, in each format of a request or an answer. -/
theorem formats_round_trip (lists : Bool) :
    (∀ p : Predicate, p.IsRepresentable → RoundTrips Predicate.toJson (Predicate.ofJson? lists) p) ∧
    (∀ e : EventFilter, e.IsRepresentable → RoundTrips EventFilter.toJson (EventFilter.ofJson? lists) e) ∧
    (∀ r : SearchRequest, r.IsRepresentable → RoundTrips SearchRequest.toJson (SearchRequest.ofJson? lists) r) ∧
    (∀ r : SegmentRequest, r.IsRepresentable → RoundTrips SegmentRequest.toJson (SegmentRequest.ofJson? lists) r) ∧
    (∀ field : Field, RoundTrips Field.toJson Field.ofJson? field) ∧
    (∀ t : Rows, t.IsRepresentable → RoundTrips Rows.toJson Rows.ofJson? t) ∧
    ∀ v : View, v.IsRepresentable → RoundTrips View.toJson View.ofJson? v := by
  refine ⟨fun p h => ?_, fun e h => ?_, fun r h => ?_, fun r h => ?_, fun field => ?_, fun t h => ?_, fun v h => ?_⟩
  · exact roundTrips_of_arranges fun hf => Predicate.ofJson?_toJson hf lists h
  · exact roundTrips_of_arranges fun hf => EventFilter.ofJson?_toJson hf lists h
  · exact roundTrips_of_arranges fun hf => SearchRequest.ofJson?_toJson hf lists h
  · exact roundTrips_of_arranges fun hf => SegmentRequest.ofJson?_toJson hf lists h
  · exact roundTrips_of_arranges fun hf => Field.ofJson?_arranged hf field
  · exact roundTrips_of_arranges fun hf => Rows.ofJson?_toJson hf h
  · exact roundTrips_of_arranges fun hf => View.ofJson?_toJson hf h

theorem formats_round_trip_nested :
    let p : Predicate := .binary (.inList (.column ["users", "plan"]) [.literal (.string "free"), .literal .null] true)
      .or (.not (.between (.column ["age"]) (.literal (.integer (-3))) (.literal (.decimal (Double.ofInt 7))) false))
    let e : EventFilter :=
      { collection := "purchase"
        filter := some p
        timeframe := some { start := some ⟨1500000000, 250000000⟩, stop := none }
        aggregation := some { function := .sum, field := some "price", minimum := some 10, maximum := none } }
    RoundTrips Predicate.toJson (Predicate.ofJson? false) p ∧
    RoundTrips EventFilter.toJson (EventFilter.ofJson? false) e ∧
    RoundTrips SearchRequest.toJson (SearchRequest.ofJson? false)
      { columns := ["id"], filter := none, eventFilters := [e], sorting := some ⟨"id", .desc⟩, limit := 10
        offset := some 5 } ∧
    RoundTrips SegmentRequest.toJson (SegmentRequest.ofJson? false)
      { name := "Buyers", tableName := "buyers", filter := some p, eventFilters := [e, e]
        interval := some ⟨3600, 1⟩ } ∧
    RoundTrips Rows.toJson Rows.ofJson?
      { columns := [⟨"id", .string, false⟩]
        rows := [[.string "a"], [.object [("b", .null), ("c", .array [.int 1])]]] } ∧
    RoundTrips View.toJson View.ofJson?
      { tableName := "daily", name := "Daily", description := none, query := "select 1", incremental := true
        updateInterval := some ⟨60, 0⟩, options := Keyed.ofList [("z", .bool true), ("a", .object [("k", .int 1)])] } := by
  intro p e
  have hp : p.IsRepresentable := by
    simp only [p, Predicate.IsRepresentable, Predicate.AreRepresentable, Literal.IsRepresentable]
    decide
  have hstart : Instant.IsRepresentable ⟨1500000000, 250000000⟩ := ⟨by decide, by decide, by decide⟩
  have htimeframe : Timeframe.IsRepresentable { start := some ⟨1500000000, 250000000⟩, stop := none } :=
    ⟨forall_mem_some_iff.2 hstart, by simp⟩
  have haggregation : Aggregation.IsRepresentable ⟨.sum, some "price", some 10, none⟩ :=
    ⟨forall_mem_some_iff.2 (by decide), by simp⟩
  have he : e.IsRepresentable :=
    ⟨forall_mem_some_iff.2 hp, forall_mem_some_iff.2 htimeframe, forall_mem_some_iff.2 haggregation⟩
  obtain ⟨hpredicate, hfilter, hsearch, hsegment, -, hrows, hview⟩ := formats_round_trip false
  refine ⟨hpredicate p hp, hfilter e he, hsearch _ ⟨?_, ?_, ?_, ?_⟩, hsegment _ ⟨?_, ?_, ?_⟩, hrows _ ?_, hview _ ⟨?_, ?_⟩⟩
  · simp
  · simpa using he
  · change 10 < word64
    decide
  · exact forall_mem_some_iff.2 (by decide)
  · exact forall_mem_some_iff.2 hp
  · simpa using he
  · exact forall_mem_some_iff.2 ⟨by decide, by decide⟩
  · refine List.forall_mem_cons.2 ⟨?_, List.forall_mem_singleton.2 ?_⟩
    · exact List.forall_mem_singleton.2 rfl
    · exact List.forall_mem_singleton.2 rfl
  · exact forall_mem_some_iff.2 ⟨by decide, by decide⟩
  · change ∀ j ∈ [Json.object [("k", .int 1)], .bool true], j.canonical = j
    exact List.forall_mem_cons.2 ⟨rfl, List.forall_mem_singleton.2 rfl⟩

end Cohort
