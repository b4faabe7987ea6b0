import Cohort.Proofs.Event.Selection
import Cohort.Proofs.Meaning.Join

/-!
# The users of an event filter

Which users an event filter stands for, told from its events alone, and that its query without user mapping returns
those users and nothing else. With user mapping and without, the query keeps the same events; only how it groups them
differs.
-/

namespace Cohort

open Sql Outcome

/-- The point in time lies within the timeframe, as far as values are compared to the texts of its ends. -/
def Timeframe.Contains (e : Dialect) (t : Timeframe) (time : Cell) : Prop :=
  (∀ i ∈ t.start, e.binary .gt time (e.timestamp i.queryText) = .boolean true) ∧
    ∀ i ∈ t.stop, e.binary .lt time (e.timestamp i.queryText) = .boolean true

instance (e : Dialect) (t : Timeframe) (time : Cell) : Decidable (t.Contains e time) :=
  inferInstanceAs (Decidable (_ ∧ _))

namespace Aggregation

/-- The column that is aggregated; that of the user if no field is given. -/
def column (a : Aggregation) : String := a.field.getD userField

/-- For each bound there is, the aggregate has a value on the right side of it. -/
def IsMet (a : Aggregation) (cells : List Cell) : Prop :=
  (∀ m ∈ a.minimum, ∃ v, a.function.IsValue cells v ∧ m ≤ v) ∧
    ∀ m ∈ a.maximum, ∃ v, a.function.IsValue cells v ∧ v < m

/-- What a dialect makes of the aggregate compares to each bound as it should. -/
def Meets (e : Dialect) (a : Aggregation) (cells : List Cell) : Prop :=
  (∀ m ∈ a.minimum, e.binary .gtEq (e.aggregate a.function cells) (.integer m) = .boolean true) ∧
    ∀ m ∈ a.maximum, e.binary .lt (e.aggregate a.function cells) (.integer m) = .boolean true

theorem meets_iff_isMet {e : Dialect} {a : Aggregation} {cells : List Cell} (h : a.function.IsDefinedOn cells) :
    a.Meets e cells ↔ a.IsMet cells :=
  and_congr (forall₂_congr fun _ _ => Dialect.binary_gtEq_aggregate_iff h)
    (forall₂_congr fun _ _ => Dialect.binary_lt_aggregate_iff h)

/-- The aggregate over those events is within its bounds. -/
def Admits (e : Dialect) (a : Aggregation) (events : Table) (rows : List Row) : Prop :=
  a.Meets e (rows.map fun row => events.cell row a.column)

instance (e : Dialect) (a : Aggregation) (events : Table) (rows : List Row) : Decidable (a.Admits e events rows) :=
  inferInstanceAs (Decidable (_ ∧ _))

end Aggregation

namespace EventFilter

/-- An event as the terms of the query refer to it. -/
def eventScope (events : Table) (row : Row) : Scope := [⟨BuiltIn.collection.text, events.columns, row⟩]

section

variable (e : Dialect) (f : EventFilter) (events : Table)

/-- The predicate is true of the event, and the event lies within the timeframe. -/
def Accepts (row : Row) : Prop :=
  (∀ p ∈ f.filter, p.value e (eventScope events row) = .boolean true) ∧
    ∀ t ∈ f.timeframe, t.Contains e (events.cell row BuiltIn.time.text)

instance (row : Row) : Decidable (f.Accepts e events row) := inferInstanceAs (Decidable (_ ∧ _))

/-- The events of a user that the filter accepts. -/
def eventsOf (u : Cell) : List Row :=
  events.rows.filter fun row => events.cell row userField = u ∧ f.Accepts e events row

/-- The user did an event that the filter accepts, and the aggregate over all of those is within its bounds. -/
def StandsForUser (u : Cell) : Prop :=
  u ≠ .null ∧ f.eventsOf e events u ≠ [] ∧
    ∀ a ∈ f.aggregation, a.IsMet ((f.eventsOf e events u).map fun row => events.cell row a.column)

end

variable {e : Dialect} {d : Database} {mapped : Bool} {f : EventFilter} {events : Table} {row : Row}

/-- An event as the query keeps it: with user mapping, nulls are beside it. -/
def keptScope (mapped : Bool) (d : Database) (events : Table) (row : Row) : Scope :=
  if mapped then eventScope events row ++ [⟨BuiltIn.mapping.text, (d [BuiltIn.anonymousIds.text]).columns, []⟩]
  else eventScope events row

theorem cell_keptScope (relation : Option String) (name : String) :
    (keptScope mapped d events row).cell relation name = (eventScope events row).cell relation name := by
  cases mapped with
  | false => rfl
  | true => exact Scope.cell_append_nulls ..

theorem value_keptScope (p : Predicate) :
    p.value e (keptScope mapped d events row) = p.value e (eventScope events row) := by
  cases mapped with
  | false => rfl
  | true => exact p.value_append_nulls ..

theorem value_eventColumn (b : BuiltIn) (members : List Scope) :
    (eventColumn b).value e d (keptScope mapped d events row) members = events.cell row b.text := by
  unfold eventColumn
  rw [Term.value, cell_keptScope]
  exact cell_single events row b.text rfl

theorem holdAll_iff {ts : List Term} {s : Scope} {members : List Scope} :
    holdAll e d ts s members = true ↔ ∀ t ∈ ts, t.value e d s members = .boolean true := by
  induction ts with
  | nil => simp [holdAll]
  | cons t ts ih => rw [holdAll, Bool.and_eq_true, decide_eq_true_iff, ih, List.forall_mem_cons]

theorem forall_timeConditions_iff {t : Timeframe} :
    (∀ c ∈ timeConditions t, c.value e d (keptScope mapped d events row) [] = .boolean true) ↔
      t.Contains e (events.cell row BuiltIn.time.text) := by
  have hcompare (op : Operator) (i : Instant) :
      (Term.binary (eventColumn .time) op (.timestamp i)).value e d (keptScope mapped d events row) [] =
        e.binary op (events.cell row BuiltIn.time.text) (e.timestamp i.queryText) := by
    rw [Term.value, Term.value, value_eventColumn]
  obtain ⟨start, stop⟩ := t
  unfold timeConditions Timeframe.Contains
  rw [List.forall_mem_append]
  cases start <;> cases stop <;> simp [hcompare]

theorem forall_filters_iff {filters : List Term}
    (h : List.Forall₂ (fun p t => Term.ofPredicate p = .ok t) f.filter.toList filters) :
    (∀ c ∈ filters, c.value e d (keptScope mapped d events row) [] = .boolean true) ↔
      ∀ p ∈ f.filter, p.value e (eventScope events row) = .boolean true := by
  cases hfilter : f.filter with
  | none =>
    rw [hfilter] at h
    cases h
    simp
  | some p =>
    rw [hfilter] at h
    cases h with
    | cons ht hnone =>
      cases hnone
      simp [value_of_ofPredicate ht, value_keptScope]

/-- The conditions of the query keep the events of users that the filter accepts. -/
theorem holdAll_conditions_iff {table : List Identifier} {filters bounds : List Term}
    (h : List.Forall₂ (fun p t => Term.ofPredicate p = .ok t) f.filter.toList filters) :
    holdAll e d (f.selection mapped table filters bounds).conditions (keptScope mapped d events row) [] = true ↔
      events.cell row userField ≠ .null ∧ f.Accepts e events row := by
  rw [holdAll_iff]
  change (∀ c ∈ .isNotNull (eventColumn .user) :: (filters ++ f.timeframe.toList.flatMap timeConditions),
    c.value e d (keptScope mapped d events row) [] = .boolean true) ↔ _
  rw [List.forall_mem_cons, List.forall_mem_append, forall_filters_iff h, Term.value, value_eventColumn]
  refine and_congr ?_ (and_congr Iff.rfl ?_)
  · rw [Cell.boolean.injEq, decide_eq_true_iff]
    rfl
  · rw [List.forall_mem_flatMap]
    simp only [Option.mem_toList]
    exact forall₂_congr fun t _ => forall_timeConditions_iff

theorem value_of_aggregated {a : Aggregation} {t : Term} (h : aggregated a = .ok t) (members : List Scope) :
    t.value e d (keptScope mapped d events row) members = events.cell row a.column := by
  unfold aggregated at h
  by_cases huser : a.isOfUser = true
  · rw [if_pos huser] at h
    cases h
    have hfield : a.field = none := Option.isNone_iff_eq_none.1 (Bool.and_eq_true_iff.1 huser).2
    rw [value_eventColumn, Aggregation.column, hfield]
    rfl
  · rw [if_neg huser] at h
    unfold Aggregation.column
    cases hfield : a.field with
    | none =>
      rw [hfield] at h
      cases h
    | some field =>
      rw [hfield] at h
      obtain ⟨i, hi, rfl⟩ := map_eq_ok_iff.1 h
      obtain ⟨hvalid, rfl⟩ := Identifier.mapError_check_eq_ok_iff.1 hi
      rw [Term.value, cell_keptScope]
      exact cell_single events row field rfl

/-- The group conditions hold of a group of events if the aggregate over them is within its bounds. -/
theorem holdAll_boundConditions_iff {a : Aggregation} {ts : List Term} {own : Scope} {rows : List Row}
    (h : boundConditions a = .ok ts) :
    holdAll e d ts own (rows.map (keptScope mapped d events)) = true ↔ a.Admits e events rows := by
  obtain ⟨t, ht, hts⟩ := bind_eq_ok_iff.1 h
  obtain rfl := pure_eq_ok_iff.1 hts
  have haggregate : (Term.aggregate a.function t).value e d own (rows.map (keptScope mapped d events)) =
      e.aggregate a.function (rows.map fun row => events.cell row a.column) := by
    rw [Term.value, List.map_map]
    exact congrArg _ (List.map_congr_left fun row _ => value_of_aggregated ht [])
  have hbound (op : Operator) (m : Int) :
      (Term.binary (.aggregate a.function t) op (.literal (.integer m))).value e d own
          (rows.map (keptScope mapped d events)) =
        e.binary op (e.aggregate a.function (rows.map fun row => events.cell row a.column)) (.integer m) := by
    rw [Term.value, haggregate]
    rfl
  rw [holdAll_iff, List.forall_mem_append]
  unfold Aggregation.Admits Aggregation.Meets
  refine and_congr ?_ ?_
  · cases a.minimum with
    | none => simp
    | some m => simp [hbound]
  · cases a.maximum with
    | none => simp
    | some m => simp [hbound]

variable {table : List Identifier} {filters bounds : List Term}

/-- The events that the conditions keep. -/
def accepted (e : Dialect) (f : EventFilter) (events : Table) : List Row :=
  events.rows.filter fun row => events.cell row userField ≠ .null ∧ f.Accepts e events row

theorem filter_accepted {u : Cell} (hu : u ≠ .null) :
    ((f.accepted e events).filter fun row => events.cell row userField = u) = f.eventsOf e events u := by
  unfold accepted eventsOf
  rw [List.filter_filter]
  apply List.filter_congr
  intro row _
  rw [← Bool.decide_and, decide_eq_decide]
  constructor
  · rintro ⟨huser, -, haccepts⟩
    exact ⟨huser, haccepts⟩
  · rintro ⟨rfl, haccepts⟩
    exact ⟨rfl, hu, haccepts⟩

/-- Those users did an accepted event that do one of the kept events. -/
theorem exists_accepted_iff {u : Cell} :
    (∃ row ∈ f.accepted e events, events.cell row userField = u) ↔ u ≠ .null ∧ f.eventsOf e events u ≠ [] := by
  constructor
  · rintro ⟨row, hrow, rfl⟩
    obtain ⟨hmem, haccepted⟩ := List.mem_filter.1 hrow
    have haccepts := of_decide_eq_true haccepted
    refine ⟨haccepts.1, List.ne_nil_of_mem (a := row) (List.mem_filter.2 ⟨hmem, ?_⟩)⟩
    exact decide_eq_true ⟨rfl, haccepts.2⟩
  · rintro ⟨hu, hevents⟩
    rw [← filter_accepted hu] at hevents
    obtain ⟨row, hrow⟩ := List.exists_mem_of_ne_nil _ hevents
    obtain ⟨hmem, huser⟩ := List.mem_filter.1 hrow
    exact ⟨row, hmem, of_decide_eq_true huser⟩

theorem value_eventColumn_append (b : BuiltIn) (columns : List String) (entry : Row) (members : List Scope) :
    (eventColumn b).value e d (eventScope events row ++ [⟨BuiltIn.mapping.text, columns, entry⟩]) members =
      events.cell row b.text := by
  unfold eventColumn
  rw [Term.value]
  calc
    _ = (eventScope events row).cell (some BuiltIn.collection.text) b.text :=
      Scope.cell_append_of_ne _ (by decide) _ _
    _ = events.cell row b.text := cell_single events row b.text rfl

/-- The mapping is joined to events without a user only; there are nulls beside those of a user. -/
theorem extend_mappingJoin (huser : events.cell row userField ≠ .null) :
    mappingJoin.extend e d [] (eventScope events row) = [keptScope true d events row] := by
  refine Join.extend_eq_nulls rfl fun entry => ?_
  have hisNull : (Term.isNull (eventColumn .user)).value e d
      (eventScope events row ++ [⟨BuiltIn.mapping.text, (d [BuiltIn.anonymousIds.text]).columns, entry⟩]) [] =
        .boolean false := by
    rw [Term.value, value_eventColumn_append]
    exact congrArg Cell.boolean (decide_eq_false huser)
  rw [List.append_nil, Term.value, hisNull]
  simp [Dialect.binary, Cell.truth, Truth.and, Cell.ofTruth]

/-- An event without a user is dropped, whatever the mapping has for it. -/
theorem not_holdAll_of_no_user (huser : events.cell row userField = .null) {s : Scope}
    (hs : s ∈ mappingJoin.extend e d [] (eventScope events row)) :
    ¬holdAll e d (f.selection true table filters bounds).conditions s [] = true := by
  obtain ⟨entry, rfl⟩ : ∃ entry,
      s = eventScope events row ++ [⟨BuiltIn.mapping.text, (d [BuiltIn.anonymousIds.text]).columns, entry⟩] :=
    Join.exists_of_mem_extend rfl hs
  intro hall
  have hfirst := holdAll_iff.1 hall (.isNotNull (eventColumn .user)) List.mem_cons_self
  rw [Term.value, value_eventColumn_append] at hfirst
  exact of_decide_eq_true (Cell.boolean.inj hfirst) huser

/-- With user mapping or without, the query keeps the events of users that the filter accepts. -/
theorem kept_selection (hevents : d (table.map Identifier.text) = events)
    (h : List.Forall₂ (fun p t => Term.ofPredicate p = .ok t) f.filter.toList filters) :
    (f.selection mapped table filters bounds).kept e d [] = (f.accepted e events).map (keptScope mapped d events) := by
  subst hevents
  cases mapped with
  | false =>
    rw [kept_eq_filter rfl]
    change ((d (table.map Identifier.text)).rows.map (eventScope _)).filter _ = _
    rw [List.filter_map]
    apply congrArg
    apply List.filter_congr
    intro row _
    rw [Function.comp_apply, List.append_nil, Bool.eq_iff_iff, decide_eq_true_iff]
    change holdAll e d _ (keptScope false d _ row) [] = true ↔ _
    exact holdAll_conditions_iff h
  | true =>
    rw [kept_eq_flatMap rfl]
    change ((d (table.map Identifier.text)).rows.map (eventScope _)).flatMap _ = _
    rw [List.flatMap_map]
    simp only [List.append_nil]
    apply flatMap_eq_map_filter
    · intro row haccepted
      have haccepts := of_decide_eq_true haccepted
      rw [extend_mappingJoin haccepts.1]
      exact List.filter_cons_of_pos ((holdAll_conditions_iff h).2 haccepts)
    · intro row hrefused
      rw [List.filter_eq_nil_iff]
      intro s hs
      by_cases huser : (d (table.map Identifier.text)).cell row userField = .null
      · exact not_holdAll_of_no_user huser hs
      · rw [extend_mappingJoin huser] at hs
        obtain rfl := List.mem_singleton.1 hs
        exact fun hall => of_decide_eq_false hrefused ((holdAll_conditions_iff h).1 hall)

/-! ## Rows of the query -/

theorem value_mappingColumn (b : BuiltIn) (members : List Scope) :
    (mappingColumn b).value e d (keptScope mapped d events row) members = .null := by
  unfold mappingColumn
  rw [Term.value, cell_keptScope]
  rfl

theorem value_userItem (huser : events.cell row userField ≠ .null) (members : List Scope) :
    (userItem mapped).value e d (keptScope mapped d events row) members = events.cell row userField := by
  cases mapped with
  | false =>
    change (eventColumn .user).value e d _ members = _
    exact value_eventColumn ..
  | true =>
    change (Term.coalesce [mappingColumn .user, eventColumn .user, eventColumn .deviceId]).value e d _ members = _
    rw [Term.value, values, values, values, values, value_mappingColumn, value_eventColumn, value_eventColumn]
    change Dialect.coalesce [.null, events.cell row userField, events.cell row deviceField] = _
    simp [Dialect.coalesce, huser]

/-- The row of kept events is the user of the first of them. -/
theorem answer_selection {g : Group} (hown : g.own = keptScope mapped d events row)
    (huser : events.cell row userField ≠ .null) :
    (f.selection mapped table filters bounds).answer e d [] g = [events.cell row userField] := by
  change itemValues e d [userItem mapped] (g.own ++ []) _ = _
  rw [itemValues, itemValues, hown, List.append_nil, value_userItem huser]

/-- Without an aggregation, each kept event makes a row. -/
theorem mem_rows_of_not_aggregated (hnone : f.aggregation = none) (hevents : d (table.map Identifier.text) = events)
    (h : List.Forall₂ (fun p t => Term.ofPredicate p = .ok t) f.filter.toList filters) {row : Row} :
    row ∈ ((f.selection mapped table filters []).table e d []).rows ↔
      ∃ u, row = [u] ∧ u ≠ .null ∧ f.eventsOf e events u ≠ [] := by
  have hisGrouped : (f.selection mapped table filters []).isGrouped = false := by
    unfold Select.isGrouped selection
    rw [hnone]
    cases mapped <;> rfl
  have hgrouped : (f.selection mapped table filters []).grouped e d [] =
      (f.accepted e events).map fun event => ⟨keptScope mapped d events event, []⟩ := by
    rw [Select.grouped, hisGrouped, kept_selection hevents h, List.map_map]
    rfl
  rw [mem_rows_table_iff rfl rfl, hgrouped]
  constructor
  · rintro ⟨g, hg, -, rfl⟩
    obtain ⟨event, hevent, rfl⟩ := List.mem_map.1 hg
    have hu := exists_accepted_iff.1 ⟨event, hevent, rfl⟩
    exact ⟨_, answer_selection rfl hu.1, hu⟩
  · rintro ⟨u, rfl, hu⟩
    obtain ⟨event, hevent, rfl⟩ := exists_accepted_iff.2 hu
    exact ⟨_, List.mem_map_of_mem hevent, rfl, (answer_selection rfl hu.1).symm⟩

/-- What a kept event is grouped by. -/
def groupKey (mapped : Bool) (events : Table) (row : Row) : List Cell :=
  if mapped then [.null, events.cell row userField, events.cell row deviceField] else [events.cell row userField]

theorem values_groupTerms :
    values e d (groupTerms mapped) (keptScope mapped d events row) [] = groupKey mapped events row := by
  cases mapped with
  | false =>
    change values e d [eventColumn .user] _ _ = _
    rw [values, values, value_eventColumn]
    rfl
  | true =>
    change values e d [mappingColumn .user, eventColumn .user, eventColumn .deviceId] _ _ = _
    rw [values, values, values, values, value_mappingColumn, value_eventColumn, value_eventColumn]
    rfl

theorem user_eq_of_groupKey_eq {other : Row} (h : groupKey mapped events other = groupKey mapped events row) :
    events.cell other userField = events.cell row userField := by
  cases mapped with
  | false => exact (List.cons.inj h).1
  | true => exact (List.cons.inj (List.cons.inj h).2).1

/-- The kept events with the key of an event. -/
def groupOf (mapped : Bool) (e : Dialect) (f : EventFilter) (events : Table) (event : Row) : List Row :=
  (f.accepted e events).filter fun other => groupKey mapped events other = groupKey mapped events event

/-- The group that they make. -/
def eventGroup (mapped : Bool) (e : Dialect) (d : Database) (f : EventFilter) (events : Table) (event : Row) : Group :=
  ⟨((groupOf mapped e f events event).map (keptScope mapped d events)).headD [],
    (groupOf mapped e f events event).map (keptScope mapped d events)⟩

/-- With an aggregation, the kept events with the key of each of them make a group. -/
theorem mem_grouped_iff (hsome : f.aggregation.isSome) (hevents : d (table.map Identifier.text) = events)
    (h : List.Forall₂ (fun p t => Term.ofPredicate p = .ok t) f.filter.toList filters) {g : Group} :
    g ∈ (f.selection mapped table filters bounds).grouped e d [] ↔
      ∃ event ∈ f.accepted e events, g = eventGroup mapped e d f events event := by
  have hgroups : (f.selection mapped table filters bounds).groups = groupTerms mapped := if_pos hsome
  have hkeyed : (groupTerms mapped).isEmpty = false := by cases mapped <;> rfl
  have hisGrouped : (f.selection mapped table filters bounds).isGrouped = true := by
    unfold Select.isGrouped
    rw [hgroups, hkeyed]
    rfl
  have hmembers (event : Row) : ((f.accepted e events).map (keptScope mapped d events)).filter
      (fun s => values e d (groupTerms mapped) (s ++ []) [] =
        values e d (groupTerms mapped) (keptScope mapped d events event ++ []) []) =
      (groupOf mapped e f events event).map (keptScope mapped d events) := by
    rw [List.filter_map]
    apply congrArg
    apply List.filter_congr
    intro other _
    rw [Function.comp_apply, List.append_nil, List.append_nil, values_groupTerms, values_groupTerms]
  rw [Select.grouped, hisGrouped, kept_selection hevents h, hgroups, hkeyed, if_pos rfl]
  change g ∈ groupsBy true _ _ ↔ _
  rw [mem_groupsBy_true_iff]
  constructor
  · rintro ⟨own, hown, rfl⟩
    obtain ⟨event, hevent, rfl⟩ := List.mem_map.1 hown
    rw [hmembers]
    exact ⟨event, hevent, rfl⟩
  · rintro ⟨event, hevent, rfl⟩
    refine ⟨_, List.mem_map_of_mem hevent, ?_⟩
    rw [hmembers]
    rfl

/-- The row of the group of an event is the user of the event. -/
theorem answer_eventGroup {event : Row} (hevent : event ∈ f.accepted e events) :
    (f.selection mapped table filters bounds).answer e d [] (eventGroup mapped e d f events event) =
      [events.cell event userField] := by
  have hself : event ∈ groupOf mapped e f events event := List.mem_filter.2 ⟨hevent, decide_eq_true rfl⟩
  obtain ⟨first, later, hcons⟩ := List.exists_cons_of_ne_nil (List.ne_nil_of_mem hself)
  have hfirst : first ∈ groupOf mapped e f events event := by
    rw [hcons]
    exact List.mem_cons_self ..
  have hown : (eventGroup mapped e d f events event).own = keptScope mapped d events first := by
    unfold eventGroup
    rw [hcons]
    rfl
  have huser : events.cell first userField = events.cell event userField :=
    user_eq_of_groupKey_eq (of_decide_eq_true (List.mem_filter.1 hfirst).2)
  have hne : events.cell event userField ≠ .null := (exists_accepted_iff.1 ⟨event, hevent, rfl⟩).1
  rw [answer_selection hown (huser ▸ hne), huser]

/-- With an aggregation, each group that is within the bounds makes a row. -/
theorem mem_rows_of_aggregated {a : Aggregation} (hsome : f.aggregation = some a)
    (hbounds : boundConditions a = .ok bounds) (hevents : d (table.map Identifier.text) = events)
    (h : List.Forall₂ (fun p t => Term.ofPredicate p = .ok t) f.filter.toList filters) {row : Row} :
    row ∈ ((f.selection mapped table filters bounds).table e d []).rows ↔
      ∃ event ∈ f.accepted e events, row = [events.cell event userField] ∧
        a.Admits e events (groupOf mapped e f events event) := by
  have hanswers (event : Row) : (f.selection mapped table filters bounds).Answers e d []
      (eventGroup mapped e d f events event) ↔ a.Admits e events (groupOf mapped e f events event) := by
    unfold Select.Answers eventGroup
    simp only [List.append_nil, List.map_id']
    exact holdAll_boundConditions_iff hbounds
  have hisSome : f.aggregation.isSome := by
    rw [hsome]
    rfl
  rw [mem_rows_table_iff rfl rfl]
  constructor
  · rintro ⟨g, hg, hanswer, rfl⟩
    obtain ⟨event, hevent, rfl⟩ := (mem_grouped_iff hisSome hevents h).1 hg
    exact ⟨event, hevent, answer_eventGroup hevent, (hanswers event).1 hanswer⟩
  · rintro ⟨event, hevent, rfl, hmeets⟩
    exact ⟨_, (mem_grouped_iff hisSome hevents h).2 ⟨event, hevent, rfl⟩, (hanswers event).2 hmeets,
      (answer_eventGroup hevent).symm⟩

/-- Without user mapping, the group of an event consists of the events of its user. -/
theorem groupOf_false {event : Row} (hevent : event ∈ f.accepted e events) :
    groupOf false e f events event = f.eventsOf e events (events.cell event userField) := by
  rw [← filter_accepted (exists_accepted_iff.1 ⟨event, hevent, rfl⟩).1]
  apply List.filter_congr
  intro other _
  rw [decide_eq_decide]
  exact List.singleton_inj

/-- Without user mapping, there is one group for each user of a kept event. -/
theorem exists_groupOf_false_iff {P : List Row → Prop} :
    (∃ event ∈ f.accepted e events, row = [events.cell event userField] ∧ P (groupOf false e f events event)) ↔
      ∃ u, row = [u] ∧ u ≠ .null ∧ f.eventsOf e events u ≠ [] ∧ P (f.eventsOf e events u) := by
  constructor
  · rintro ⟨event, hevent, rfl, hP⟩
    obtain ⟨hu, hne⟩ := exists_accepted_iff.1 ⟨event, hevent, rfl⟩
    rw [groupOf_false hevent] at hP
    exact ⟨_, rfl, hu, hne, hP⟩
  · rintro ⟨u, rfl, hu, hne, hP⟩
    obtain ⟨event, hevent, rfl⟩ := exists_accepted_iff.2 ⟨hu, hne⟩
    rw [← groupOf_false hevent] at hP
    exact ⟨event, hevent, rfl, hP⟩

/-- The query over the events in any table, without mapping, returns the users that the filter stands for. -/
theorem mem_rows_of_select {s : Select} (hselect : f.select false table = .ok s)
    (hevents : d (table.map Identifier.text) = events)
    (hdefined : ∀ a ∈ f.aggregation, a.function.IsDefinedOn (events.rows.map fun row => events.cell row a.column))
    {row : Row} : row ∈ (s.table e d []).rows ↔ ∃ u, row = [u] ∧ f.StandsForUser e events u := by
  obtain ⟨filters, bounds, hfilters, hbounds, rfl⟩ := select_eq_ok hselect
  unfold StandsForUser
  cases haggregation : f.aggregation with
  | none =>
    rw [haggregation] at hbounds
    cases hbounds
    rw [List.flatten_nil, mem_rows_of_not_aggregated haggregation hevents hfilters]
    simp
  | some a =>
    rw [haggregation] at hbounds
    cases hbounds with
    | cons ha hnone =>
      cases hnone
      have hmet (u : Cell) : a.Admits e events (f.eventsOf e events u) ↔
          a.IsMet ((f.eventsOf e events u).map fun row => events.cell row a.column) := by
        apply Aggregation.meets_iff_isMet
        apply (hdefined a haggregation).of_subset
        exact List.map_subset _ (List.filter_subset_self _)
      rw [List.flatten_singleton, mem_rows_of_aggregated haggregation ha hevents hfilters, exists_groupOf_false_iff]
      simp [hmet]

/-- Without user mapping, a query that was built returns the users that its event filter stands for. -/
theorem mem_rows_query_iff {c : Catalog} {project : String} {s : Select} (h : f.query false c project = .ok s)
    (hdefined : ∀ a ∈ f.aggregation,
      a.function.IsDefinedOn ((d [f.collection]).rows.map fun row => (d [f.collection]).cell row a.column))
    {row : Row} : row ∈ (s.table e d []).rows ↔ ∃ u, row = [u] ∧ f.StandsForUser e (d [f.collection]) u := by
  obtain ⟨i, hi, hselect⟩ := bind_eq_ok_iff.1 h
  obtain ⟨hvalid, rfl⟩ := Identifier.check_eq_ok_iff.1 (mapError_eq_ok_iff.1 hi)
  exact mem_rows_of_select hselect rfl hdefined

/-- Some purchases, the last by nobody in particular. -/
def purchases : Table where
  columns := ["_user", "_time", "price"]
  rows :=
    [[.string "ann", .moment ⟨100, 0⟩, .integer 2], [.string "ann", .moment ⟨200, 0⟩, .integer 3],
      [.string "bob", .moment ⟨200, 0⟩, .integer 4], [.null, .moment ⟨300, 0⟩, .integer 9]]

/-- The prices add up to five or more, but less than ten. -/
def spent : Aggregation := ⟨.sum, some "price", some 5, some 10⟩

/-- Purchases after the first minute of what was not too cheap. -/
def spending : EventFilter :=
  ⟨"purchases", some (.binary (.column ["price"]) .gt (.literal (.integer 1))), some ⟨some ⟨60, 0⟩, none⟩, some spent⟩

theorem mem_rows_query_spending :
    ∃ s, spending.query false .empty "shop" = .ok s ∧
      spent.function.IsDefinedOn (purchases.rows.map (purchases.cell · "price")) ∧
        [.string "ann"] ∈ (s.table .plain (fun _ => purchases) []).rows ∧
          [.string "bob"] ∉ (s.table .plain (fun _ => purchases) []).rows := by
  have hdefined : spent.function.IsDefinedOn (purchases.rows.map (purchases.cell · "price")) := by
    intro c hc
    have hcells : c ∈ [Cell.integer 2, .integer 3, .integer 4, .integer 9] := hc
    simp only [List.mem_cons, List.not_mem_nil, or_false] at hcells
    rcases hcells with rfl | rfl | rfl | rfl <;> exact .inr ⟨_, rfl⟩
  have hann : (spending.eventsOf .plain purchases (.string "ann")).map (purchases.cell · "price") =
      [.integer 2, .integer 3] := by decide +kernel
  have hbob : (spending.eventsOf .plain purchases (.string "bob")).map (purchases.cell · "price") =
      [.integer 4] := by decide +kernel
  obtain ⟨s, hs⟩ : ∃ s, spending.query false .empty "shop" = .ok s := ⟨_, rfl⟩
  have hrows (u : Cell) : [u] ∈ (s.table .plain (fun _ => purchases) []).rows ↔
      ∃ v, [u] = [v] ∧ spending.StandsForUser .plain purchases v :=
    mem_rows_query_iff hs fun a ha => Option.some_inj.1 ha ▸ hdefined
  refine ⟨s, hs, hdefined, (hrows _).2 ⟨_, rfl, by decide, ?_, fun a ha => ?_⟩, fun h => ?_⟩
  · intro hnone
    rw [hnone] at hann
    cases hann
  · obtain rfl := Option.some_inj.1 ha
    change spent.IsMet ((spending.eventsOf .plain purchases (.string "ann")).map (purchases.cell · "price"))
    rw [hann]
    exact ⟨fun m hm => ⟨5, ⟨by decide, rfl⟩, Option.some_inj.1 hm ▸ by decide⟩,
      fun m hm => ⟨5, ⟨by decide, rfl⟩, Option.some_inj.1 hm ▸ by decide⟩⟩
  · obtain ⟨u, hu, -, -, hmet⟩ := (hrows _).1 h
    obtain rfl := List.singleton_inj.1 hu
    have hbounds : spent.IsMet ((spending.eventsOf .plain purchases (.string "bob")).map (purchases.cell · "price")) :=
      hmet spent rfl
    rw [hbob] at hbounds
    obtain ⟨v, ⟨-, rfl⟩, hle⟩ := hbounds.1 5 rfl
    exact absurd hle (by decide)

end EventFilter

end Cohort
