import Cohort.Proofs.Event.Users

/-!
# The users of an event filter with user mapping

Which users the query of an event filter returns with user mapping. Events without a user are dropped, whatever user
the mapping names for their device. The events of a user are aggregated for each device by itself.
-/

namespace Cohort

open Sql Outcome

namespace EventFilter

section

variable (e : Dialect) (f : EventFilter) (events : Table)

/-- The mapping names the user for the device of an event that the filter accepts and that has no user itself. -/
def IsAttributed (mapping : Table) (u : Cell) : Prop :=
  u ≠ .null ∧ ∃ event ∈ events.rows, events.cell event userField = .null ∧ f.Accepts e events event ∧
    ∃ entry ∈ mapping.rows,
      e.binary .eq (mapping.cell entry BuiltIn.id.text) (events.cell event deviceField) = .boolean true ∧
        mapping.cell entry userField = u

instance (mapping : Table) (u : Cell) : Decidable (f.IsAttributed e events mapping u) :=
  inferInstanceAs (Decidable (_ ∧ _))

/-- The events of a user on a device that the filter accepts. -/
def eventsOn (u device : Cell) : List Row :=
  (f.eventsOf e events u).filter fun row => events.cell row deviceField = device

end

variable {e : Dialect} {d : Database} {f : EventFilter} {events : Table}

/-- Without an aggregation, user mapping does not change which users are returned. -/
theorem mem_rows_query_of_not_aggregated {mapping : Bool} {c : Catalog} {project : String} {s : Select}
    (h : f.query mapping c project = .ok s) (hnone : f.aggregation = none) {row : Row} :
    row ∈ (s.table e d []).rows ↔ ∃ u, row = [u] ∧ f.StandsForUser e (d [f.collection]) u := by
  obtain ⟨hcollection, filters, bounds, hfilters, hbounds, rfl⟩ := query_eq_ok h
  rw [hnone] at hbounds
  cases hbounds
  rw [List.flatten_nil, mem_rows_of_not_aggregated hnone rfl hfilters]
  change (∃ u, row = [u] ∧ u ≠ .null ∧ f.eventsOf e (d [f.collection]) u ≠ []) ↔ _
  simp [StandsForUser, hnone]

/-- With user mapping, those users are returned that did an accepted event themselves: whoever the mapping names for
the device of an event without a user is returned only if they did another one. -/
theorem mem_rows_mapped_iff {c : Catalog} {project : String} {s : Select} (h : f.query true c project = .ok s)
    (hnone : f.aggregation = none) :
    (∀ row, row ∈ (s.table e d []).rows ↔ ∃ u, row = [u] ∧ f.StandsForUser e (d [f.collection]) u) ∧
      ∀ u, f.IsAttributed e (d [f.collection]) (d [BuiltIn.anonymousIds.text]) u →
        ([u] ∈ (s.table e d []).rows ↔ f.eventsOf e (d [f.collection]) u ≠ []) := by
  have hrows (row : Row) : row ∈ (s.table e d []).rows ↔ ∃ u, row = [u] ∧ f.StandsForUser e (d [f.collection]) u :=
    mem_rows_query_of_not_aggregated h hnone
  refine ⟨hrows, fun u hattributed => ?_⟩
  rw [hrows]
  constructor
  · rintro ⟨v, hv, -, hevents, -⟩
    obtain rfl := List.singleton_inj.1 hv
    exact hevents
  · intro hevents
    refine ⟨u, rfl, hattributed.1, hevents, fun a ha => ?_⟩
    rw [hnone] at ha
    cases ha

/-- A catalog with one collection that records devices. -/
def visitCatalog : Catalog :=
  .setFields .empty "shop" "visits" [⟨"_user", .string, true⟩, ⟨"_device_id", .string, true⟩]

/-- Visits of which the first was before logging in, and the users that devices are mapped to. -/
def visitTables : Database
  | ["visits"] => ⟨["_user", "_device_id"], [[.null, .string "phone"], [.string "bob", .string "laptop"]]⟩
  | _ => ⟨["id", "_user"], [[.string "phone", .string "ann"], [.string "laptop", .string "bob"]]⟩

/-- All visits. -/
def visiting : EventFilter := ⟨"visits", none, none, none⟩

theorem mem_rows_mapped_visiting :
    ∃ s, visiting.query true visitCatalog "shop" = .ok s ∧ visiting.isMapped true visitCatalog "shop" = true ∧
      visiting.aggregation = none ∧ [.string "bob"] ∈ (s.table .plain visitTables []).rows ∧
        [.string "ann"] ∉ (s.table .plain visitTables []).rows := by
  obtain ⟨s, hs⟩ : ∃ s, visiting.query true visitCatalog "shop" = .ok s := ⟨_, rfl⟩
  have hrows := mem_rows_mapped_iff (e := .plain) (d := visitTables) hs rfl
  refine ⟨s, hs, by decide +kernel, rfl, (hrows.1 _).2 ⟨_, rfl, by decide, ?_, fun a ha => nomatch ha⟩, ?_⟩
  · decide +kernel
  · rw [hrows.2 _ (by decide +kernel)]
    decide +kernel

/-- A user is not returned for an event on a device that the mapping, in which each device occurs once, has for them. -/
theorem exists_attributed_not_mem :
    ∃ s, visiting.query true visitCatalog "shop" = .ok s ∧
      hasField (visitCatalog.fieldsOf "shop" "visits") deviceField = true ∧
        ((visitTables [BuiltIn.anonymousIds.text]).rows.map fun entry =>
          (visitTables [BuiltIn.anonymousIds.text]).cell entry BuiltIn.id.text).Nodup ∧
          visiting.IsAttributed .plain (visitTables ["visits"]) (visitTables [BuiltIn.anonymousIds.text])
            (.string "ann") ∧
            [.string "ann"] ∉ (s.table .plain visitTables []).rows := by
  obtain ⟨s, hs⟩ : ∃ s, visiting.query true visitCatalog "shop" = .ok s := ⟨_, rfl⟩
  refine ⟨s, hs, by decide +kernel, by decide +kernel, by decide +kernel, fun hmem => ?_⟩
  obtain ⟨u, hu, -, hevents, -⟩ := (mem_rows_query_of_not_aggregated hs rfl).1 hmem
  obtain rfl := List.singleton_inj.1 hu
  exact hevents (by decide +kernel)

/-! ## With an aggregation -/

/-- Whether there is a query does not depend on user mapping. -/
theorem exists_query_of_query {mapping : Bool} (mapping' : Bool) {c : Catalog} {project : String} {s : Select}
    (h : f.query mapping c project = .ok s) : ∃ q, f.query mapping' c project = .ok q := by
  obtain ⟨collection, hcollection, hselect⟩ := bind_eq_ok_iff.1 h
  rw [select_eq_bind] at hselect
  obtain ⟨filters, hfilters, hselect⟩ := bind_eq_ok_iff.1 hselect
  obtain ⟨bounds, hbounds, -⟩ := map_eq_ok_iff.1 hselect
  refine ⟨f.selection (f.isMapped mapping' c project) [collection] filters bounds, ?_⟩
  refine bind_eq_ok_iff.2 ⟨collection, hcollection, ?_⟩
  rw [select_eq_bind]
  exact bind_eq_ok_iff.2 ⟨filters, hfilters, map_eq_ok_iff.2 ⟨bounds, hbounds, rfl⟩⟩

/-- With user mapping, the group of an event consists of the events of its user on its device. -/
theorem groupOf_true {event : Row} (hevent : event ∈ f.accepted e events) :
    groupOf true e f events event =
      f.eventsOn e events (events.cell event userField) (events.cell event deviceField) := by
  unfold groupOf eventsOn
  rw [← filter_accepted (exists_accepted_iff.1 ⟨event, hevent, rfl⟩).1, List.filter_filter]
  apply List.filter_congr
  intro other _
  rw [← Bool.decide_and, decide_eq_decide]
  unfold groupKey
  simp [and_comm]

/-- The events of a user are on a device if one of them is kept. -/
theorem exists_accepted_on_iff {u device : Cell} :
    (∃ event ∈ f.accepted e events, events.cell event userField = u ∧ events.cell event deviceField = device) ↔
      u ≠ .null ∧ f.eventsOn e events u device ≠ [] := by
  constructor
  · rintro ⟨event, hevent, rfl, rfl⟩
    refine ⟨(exists_accepted_iff.1 ⟨event, hevent, rfl⟩).1, List.ne_nil_of_mem (a := event) ?_⟩
    rw [← groupOf_true hevent]
    exact List.mem_filter.2 ⟨hevent, decide_eq_true rfl⟩
  · rintro ⟨hu, hevents⟩
    obtain ⟨event, hevent⟩ := List.exists_mem_of_ne_nil _ hevents
    obtain ⟨hmem, hdevice⟩ := List.mem_filter.1 hevent
    rw [← filter_accepted hu] at hmem
    obtain ⟨haccepted, huser⟩ := List.mem_filter.1 hmem
    exact ⟨event, haccepted, of_decide_eq_true huser, of_decide_eq_true hdevice⟩

/-- With user mapping, there is one group for each user of a kept event and each device of the user. -/
theorem exists_groupOf_true_iff {row : Row} {P : List Row → Prop} :
    (∃ event ∈ f.accepted e events, row = [events.cell event userField] ∧ P (groupOf true e f events event)) ↔
      ∃ u, row = [u] ∧ u ≠ .null ∧ ∃ device, f.eventsOn e events u device ≠ [] ∧ P (f.eventsOn e events u device) := by
  constructor
  · rintro ⟨event, hevent, rfl, hP⟩
    obtain ⟨hu, hne⟩ := exists_accepted_on_iff.1 ⟨event, hevent, rfl, rfl⟩
    rw [groupOf_true hevent] at hP
    exact ⟨_, rfl, hu, _, hne, hP⟩
  · rintro ⟨u, rfl, hu, device, hne, hP⟩
    obtain ⟨event, hevent, rfl, rfl⟩ := exists_accepted_on_iff.2 ⟨hu, hne⟩
    rw [← groupOf_true hevent] at hP
    exact ⟨event, hevent, rfl, hP⟩

/-- With an aggregation, a query in a catalog has a row for each group that is within the bounds. -/
theorem mem_rows_query_of_aggregated {mapping : Bool} {c : Catalog} {project : String} {s : Select} {a : Aggregation}
    (h : f.query mapping c project = .ok s) (hsome : f.aggregation = some a) (hevents : d [f.collection] = events)
    {row : Row} :
    row ∈ (s.table e d []).rows ↔ ∃ event ∈ f.accepted e events, row = [events.cell event userField] ∧
      a.Admits e events (groupOf (f.isMapped mapping c project) e f events event) := by
  obtain ⟨hcollection, filters, bounds, hfilters, hbounds, rfl⟩ := query_eq_ok h
  rw [hsome] at hbounds
  cases hbounds with
  | cons ha hnone =>
    cases hnone
    rw [List.flatten_singleton]
    exact mem_rows_of_aggregated hsome ha hevents hfilters

/-- Without user mapping, those users are returned whose events are within the bounds. -/
theorem mem_rows_query_of_not_mapped {mapping : Bool} {c : Catalog} {project : String} {s : Select} {a : Aggregation}
    (h : f.query mapping c project = .ok s) (hmapped : f.isMapped mapping c project = false)
    (hsome : f.aggregation = some a) (hevents : d [f.collection] = events) (row : Row) :
    row ∈ (s.table e d []).rows ↔ ∃ u, row = [u] ∧ u ≠ .null ∧ f.eventsOf e events u ≠ [] ∧
      a.Admits e events (f.eventsOf e events u) := by
  rw [mem_rows_query_of_aggregated h hsome hevents, hmapped]
  exact exists_groupOf_false_iff

/-- With user mapping, those users are returned whose events on one of their devices are within the bounds. -/
theorem mem_rows_query_of_mapped {mapping : Bool} {c : Catalog} {project : String} {s : Select} {a : Aggregation}
    (h : f.query mapping c project = .ok s) (hmapped : f.isMapped mapping c project = true)
    (hsome : f.aggregation = some a) (hevents : d [f.collection] = events) (row : Row) :
    row ∈ (s.table e d []).rows ↔ ∃ u, row = [u] ∧ u ≠ .null ∧ ∃ device, f.eventsOn e events u device ≠ [] ∧
      a.Admits e events (f.eventsOn e events u device) := by
  rw [mem_rows_query_of_aggregated h hsome hevents, hmapped]
  exact exists_groupOf_true_iff

/-- If all events of a user are on one device, they are the events on that device, and there are none on another. -/
theorem exists_eventsOn_iff {u device : Cell} {P : List Row → Prop}
    (h : ∀ event ∈ f.eventsOf e events u, events.cell event deviceField = device) :
    (∃ device', f.eventsOn e events u device' ≠ [] ∧ P (f.eventsOn e events u device')) ↔
      f.eventsOf e events u ≠ [] ∧ P (f.eventsOf e events u) := by
  have hall : f.eventsOn e events u device = f.eventsOf e events u :=
    List.filter_eq_self.2 fun event hevent => decide_eq_true (h event hevent)
  constructor
  · rintro ⟨device', hne, hP⟩
    obtain ⟨event, hevent⟩ := List.exists_mem_of_ne_nil _ hne
    obtain ⟨hmem, hdevice'⟩ := List.mem_filter.1 hevent
    obtain rfl : device' = device := (of_decide_eq_true hdevice').symm.trans (h event hmem)
    rw [hall] at hne hP
    exact ⟨hne, hP⟩
  · intro hevents
    rw [← hall] at hevents
    exact ⟨device, hevents⟩

/-- With user mapping, the bounds apply to the events of a user on each device by itself, and without user mapping to
all events of the user. The queries agree on the users whose events are all on one device. -/
theorem mem_rows_aggregated_iff {c : Catalog} {project : String} {s : Select} {a : Aggregation}
    (h : f.query true c project = .ok s) (hdevice : hasField (c.fieldsOf project f.collection) deviceField = true)
    (hsome : f.aggregation = some a) (hevents : d [f.collection] = events) :
    ∃ q, f.query false c project = .ok q ∧
      (∀ row, row ∈ (s.table e d []).rows ↔ ∃ u, row = [u] ∧ u ≠ .null ∧ ∃ device, f.eventsOn e events u device ≠ [] ∧
        a.Admits e events (f.eventsOn e events u device)) ∧
      (∀ row, row ∈ (q.table e d []).rows ↔ ∃ u, row = [u] ∧ u ≠ .null ∧ f.eventsOf e events u ≠ [] ∧
        a.Admits e events (f.eventsOf e events u)) ∧
      ∀ u device, (∀ event ∈ f.eventsOf e events u, events.cell event deviceField = device) →
        ([u] ∈ (s.table e d []).rows ↔ [u] ∈ (q.table e d []).rows) := by
  obtain ⟨q, hq⟩ := exists_query_of_query false h
  have hmapped := mem_rows_query_of_mapped (e := e) h hdevice hsome hevents
  have hunmapped := mem_rows_query_of_not_mapped (e := e) hq rfl hsome hevents
  refine ⟨q, hq, hmapped, hunmapped, fun u device hall => ?_⟩
  rw [hmapped, hunmapped]
  apply exists_congr
  intro v
  apply and_congr_right
  intro hv
  obtain rfl := List.singleton_inj.1 hv
  rw [exists_eventsOn_iff hall]

/-- Two visits or more. -/
def frequentVisiting : EventFilter := ⟨"visits", none, none, some ⟨.count, none, some 2, none⟩⟩

/-- Visits of users, one of whom has two devices. -/
def visits : Table where
  columns := ["_user", "_device_id"]
  rows :=
    [[.string "ann", .string "phone"], [.string "ann", .string "laptop"], [.string "bob", .string "tablet"],
      [.string "bob", .string "tablet"]]

theorem not_admits_visits {a : Aggregation} (ha : frequentVisiting.aggregation = some a) {device : Cell}
    (hne : frequentVisiting.eventsOn .plain visits (.string "ann") device ≠ []) :
    ¬a.Admits .plain visits (frequentVisiting.eventsOn .plain visits (.string "ann") device) := by
  have hdevices : (frequentVisiting.eventsOf .plain visits (.string "ann")).map (visits.cell · deviceField) =
      [.string "phone", .string "laptop"] := by decide +kernel
  obtain ⟨event, hevent⟩ := List.exists_mem_of_ne_nil _ hne
  obtain ⟨hmem, hdevice⟩ := List.mem_filter.1 hevent
  have hmemDevices : device ∈ [Cell.string "phone", .string "laptop"] := by
    rw [← hdevices]
    exact List.mem_map.2 ⟨event, hmem, of_decide_eq_true hdevice⟩
  obtain rfl := Option.some_inj.1 ha
  simp only [List.mem_cons, List.not_mem_nil, or_false] at hmemDevices
  rcases hmemDevices with rfl | rfl
  · decide +kernel
  · decide +kernel

theorem mem_rows_aggregated_frequentVisiting :
    ∃ s, frequentVisiting.query true visitCatalog "shop" = .ok s ∧
      hasField (visitCatalog.fieldsOf "shop" "visits") deviceField = true ∧
        [.string "ann"] ∉ (s.table .plain (fun _ => visits) []).rows ∧
          [.string "bob"] ∈ (s.table .plain (fun _ => visits) []).rows := by
  have hdevice : hasField (visitCatalog.fieldsOf "shop" "visits") deviceField = true := by decide +kernel
  obtain ⟨s, hs⟩ : ∃ s, frequentVisiting.query true visitCatalog "shop" = .ok s := ⟨_, rfl⟩
  obtain ⟨q, -, hrows, -, -⟩ := mem_rows_aggregated_iff (e := .plain) (d := fun _ => visits) hs hdevice rfl rfl
  refine ⟨s, hs, hdevice, fun hann => ?_, (hrows _).2 ⟨_, rfl, by decide, .string "tablet", ?_, ?_⟩⟩
  · obtain ⟨u, hu, -, device, hne, hadmits⟩ := (hrows _).1 hann
    obtain rfl := List.singleton_inj.1 hu
    exact not_admits_visits rfl hne hadmits
  · decide +kernel
  · decide +kernel

/-- Though each visit is by a user, a user with two visits on two devices is returned without user mapping only. -/
theorem exists_mem_not_mem_mapped :
    ∃ s q, frequentVisiting.query true visitCatalog "shop" = .ok s ∧
      frequentVisiting.query false visitCatalog "shop" = .ok q ∧
        hasField (visitCatalog.fieldsOf "shop" "visits") deviceField = true ∧
          (∀ visit ∈ visits.rows, visits.cell visit userField ≠ .null) ∧
            [.string "ann"] ∈ (q.table .plain (fun _ => visits) []).rows ∧
              [.string "ann"] ∉ (s.table .plain (fun _ => visits) []).rows := by
  have hdevice : hasField (visitCatalog.fieldsOf "shop" "visits") deviceField = true := by decide +kernel
  obtain ⟨s, hs⟩ : ∃ s, frequentVisiting.query true visitCatalog "shop" = .ok s := ⟨_, rfl⟩
  obtain ⟨q, hq⟩ := exists_query_of_query false hs
  refine ⟨s, q, hs, hq, hdevice, by decide +kernel, ?_, fun hann => ?_⟩
  · rw [mem_rows_query_of_not_mapped hq rfl rfl rfl]
    refine ⟨_, rfl, by decide, ?_, ?_⟩
    · decide +kernel
    · decide +kernel
  · obtain ⟨u, hu, -, device, hne, hadmits⟩ := (mem_rows_query_of_mapped hs hdevice rfl rfl _).1 hann
    obtain rfl := List.singleton_inj.1 hu
    exact not_admits_visits rfl hne hadmits

end EventFilter

end Cohort
