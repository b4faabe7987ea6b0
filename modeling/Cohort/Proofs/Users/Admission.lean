import Cohort.Proofs.Catalog.Change
import Cohort.Proofs.Checking
import Cohort.Proofs.Users.Branches
import Cohort.Proofs.Users.Dispatch

/-!
# What requests have to meet

A search or a segment is built from checks of its parts, one after the other, and nothing else can fail. So whether it
is built can be told from the request: all the names, predicates, event filters and sort columns that it looks at have
to be proper.
-/

namespace Cohort

open Sql Outcome

variable {mapping : Bool} {c : Catalog} {project : String}

/-- The users are counted, or there is a field with a proper name. -/
def Aggregation.IsProper (a : Aggregation) : Prop :=
  a.isOfUser = true ∨ ∃ field, a.field = some field ∧ isName field = true

namespace EventFilter

/-- Its collection, its predicate and its aggregation are proper. -/
def IsProper (f : EventFilter) : Prop :=
  isName f.collection = true ∧ (∀ p ∈ f.filter, p.IsProper) ∧ ∀ a ∈ f.aggregation, a.IsProper

theorem checks_aggregated (a : Aggregation) : Checks a.IsProper (aggregated a) := by
  obtain ⟨function, field, minimum, maximum⟩ := a
  unfold aggregated
  split
  · rename_i huser
    exact (Checks.ok _).congr (iff_of_true trivial (.inl huser))
  · rename_i huser
    refine Checks.congr ?_ (or_iff_right huser).symm
    cases field with
    | none => exact (Checks.error rfl).congr (iff_of_false not_false fun ⟨_, h, _⟩ => nomatch h)
    | some name =>
      refine ((checks_identifier _ name).map _).congr ⟨fun h => ⟨name, rfl, h⟩, ?_⟩
      rintro ⟨_, ⟨⟩, h⟩
      exact h

theorem checks_boundConditions (a : Aggregation) : Checks a.IsProper (boundConditions a) :=
  (checks_aggregated a).bind_ok _

theorem checks_filterTerms (f : EventFilter) : Checks (∀ p ∈ f.filter, p.IsProper) f.filterTerms := by
  unfold filterTerms
  cases f.filter with
  | none => exact (Checks.ok []).congr (iff_of_true trivial (forall_mem_none _))
  | some p => exact (p.checks_ofPredicate.map _).congr forall_mem_some_iff.symm

theorem checks_boundTerms (f : EventFilter) : Checks (∀ a ∈ f.aggregation, a.IsProper) f.boundTerms := by
  unfold boundTerms
  cases f.aggregation with
  | none => exact (Checks.ok []).congr (iff_of_true trivial (forall_mem_none _))
  | some a => exact (checks_boundConditions a).congr forall_mem_some_iff.symm

theorem checks_select (mapped : Bool) (table : List Identifier) (f : EventFilter) :
    Checks ((∀ p ∈ f.filter, p.IsProper) ∧ ∀ a ∈ f.aggregation, a.IsProper) (f.select mapped table) := by
  rw [select_eq_bind]
  exact f.checks_filterTerms.bind fun _ _ => f.checks_boundTerms.map _

/-- An event filter has a query if and only if it is proper. -/
theorem checks_query (f : EventFilter) : Checks f.IsProper (f.query mapping c project) :=
  (checks_identifier _ _).bind fun _ _ => f.checks_select _ _

theorem checks_queryInProject (f : EventFilter) :
    Checks (isName project = true ∧ f.IsProper) (f.queryInProject mapping c project) :=
  (checks_identifier _ _).bind fun _ _ => (checks_identifier _ _).bind fun _ _ => f.checks_select _ _

end EventFilter

namespace SearchRequest

def HasProperSorting (r : SearchRequest) : Prop := ∀ o ∈ r.sorting, isName o.column = true

/-- The project and everything about the attributes of the users is proper. -/
def HasProperAttributes (project : String) (r : SearchRequest) : Prop :=
  isName project = true ∧ (∀ n ∈ r.columns, isName n = true) ∧ (∀ p ∈ r.filter, p.IsProper) ∧ r.HasProperSorting

end SearchRequest

namespace Search

theorem checks_pageClauses (r : SearchRequest) : Checks r.HasProperSorting (pageClauses r) := by
  obtain ⟨columns, filter, eventFilters, sorting, limit, offset⟩ := r
  cases sorting with
  | none => exact (Checks.ok _).congr (iff_of_true trivial (forall_mem_none _))
  | some o =>
    refine Checks.congr ?_ (forall_mem_some_iff (P := fun o : Sorting => isName o.column = true)).symm
    exact (checks_identifier _ o.column).bind_ok _

theorem checks_userTable (connector : Option String) (project : String) :
    Checks ((∀ k ∈ connector, isName k = true) ∧ isName project = true) (userTable connector project) := by
  cases connector with
  | none => exact ((checks_identifier _ _).bind_ok _).congr (and_iff_right (forall_mem_none _)).symm
  | some k =>
    refine Checks.congr ?_ (and_congr_left fun _ => forall_mem_some_iff.symm)
    exact (checks_identifier _ k).bind fun _ _ => (checks_identifier _ project).bind_ok _

theorem checks_columnClauses (columns : List String) :
    Checks (∀ n ∈ columns, isName n = true) (columnClauses columns) := by
  rw [eq_map_mapM columnClauses rfl (fun _ _ => rfl)]
  exact (Checks.mapM fun n _ => checks_identifier _ n).map _

theorem checks_attributeQuery (table : List Identifier) (r : SearchRequest) (conditions : List Term) :
    Checks ((∀ n ∈ r.columns, isName n = true) ∧ (∀ p ∈ r.filter, p.IsProper) ∧ r.HasProperSorting)
      (attributeQuery table r conditions) := by
  unfold attributeQuery
  refine (checks_columnClauses r.columns).bind fun columns _ => ?_
  have hpage := checks_pageClauses r
  cases r.filter with
  | none => exact (hpage.bind_ok _).congr (and_iff_right (forall_mem_none _)).symm
  | some p =>
    refine Checks.congr ?_ (and_congr_left fun _ => forall_mem_some_iff.symm)
    exact p.checks_ofPredicate.bind fun _ _ => hpage.bind_ok _

theorem checks_eventConditions (fs : List EventFilter) :
    Checks (∀ f ∈ fs, isName project = true ∧ f.IsProper) (eventConditions mapping c project fs) := by
  rw [eq_map_mapM (eventConditions mapping c project) rfl (fun _ _ => rfl)]
  exact (Checks.mapM fun f _ => f.checks_queryInProject).map _

theorem checks_queries (fs : List EventFilter) : Checks (∀ f ∈ fs, f.IsProper) (queries mapping c project fs) :=
  Checks.mapM fun f _ => f.checks_query

theorem checks_eventBranches (fs : List EventFilter) :
    Checks (∀ f ∈ fs, f.IsProper) (eventBranches mapping c project fs) := by
  rw [eventBranches_eq_map]
  exact (checks_queries fs).map _

theorem checks_collectionQueries (names : List String) :
    Checks (∀ q ∈ names, isName q = true) (collectionQueries names) :=
  Checks.mapM fun q _ => (checks_identifier _ q).map _

theorem ne_nil_of_eventBranches {fs : List EventFilter} {qs : List Query} (hne : fs ≠ [])
    (h : eventBranches mapping c project fs = .ok qs) : qs ≠ [] := by
  rw [eventBranches_eq_map] at h
  obtain ⟨ss, hss, rfl⟩ := map_eq_ok_iff.1 h
  simpa using ne_nil_of_queries mapping c project hne hss

/-- There is always a union of some branches. -/
theorem checks_distinctUsers {branches : List Query} (hne : branches ≠ []) (label : Identifier) :
    Checks True (distinctUsers branches label) := by
  match branches, hne with
  | [_], _ => exact Checks.ok _
  | _ :: _ :: _, _ => exact Checks.ok _

/-- What the branches of a search by events have to meet. -/
def HasProperBranches (c : Catalog) (project : String) (r : SearchRequest) : Prop :=
  if r.eventFilters.isEmpty then ∀ q ∈ userCollections c project, isName q = true
  else ∀ f ∈ r.eventFilters, f.IsProper

theorem checks_searchQueries (s : StorageSettings) (c : Catalog) (project : String) (r : SearchRequest) :
    Checks (HasProperBranches c project r) (searchQueries s c project r) := by
  unfold HasProperBranches searchQueries
  split
  · exact checks_collectionQueries _
  · exact checks_queries _

/-- A search by events has a query if its branches and its sorting are proper, unless there is nothing to search. -/
theorem checks_eventQuery (s : StorageSettings) (c : Catalog) (project : String) (r : SearchRequest) :
    Checks (isName s.identifierColumn = true ∧
      (r.eventFilters.isEmpty = true ∧ (userCollections c project).isEmpty = true ∨
        HasProperBranches c project r ∧ r.HasProperSorting)) (eventQuery s c project r) := by
  rw [eventQuery_eq_bind]
  refine (checks_identifier _ _).bind fun label _ => ?_
  split
  · rename_i hnothing
    exact (Checks.ok none).congr (iff_of_true trivial (.inl hnothing))
  · rename_i hsome
    refine Checks.congr ?_ (or_iff_right hsome).symm
    refine (checks_searchQueries s c project r).bind fun qs hqs => ?_
    have hne : qs.map Query.select ≠ [] := mt List.map_eq_nil_iff.1 (ne_nil_of_searchQueries hsome hqs)
    exact ((checks_distinctUsers hne label).bind fun _ _ => (checks_pageClauses r).bind_ok _).congr
      (and_iff_right trivial)

/-- There is no query just where there is nothing to search in. -/
theorem eventQuery_eq_none_iff {s : StorageSettings} {r : SearchRequest} :
    eventQuery s c project r = .ok none ↔
      isName s.identifierColumn = true ∧ r.eventFilters.isEmpty = true ∧ (userCollections c project).isEmpty = true := by
  rw [eventQuery_eq_bind]
  constructor
  · intro h
    obtain ⟨label, hlabel, h⟩ := bind_eq_ok_iff.1 h
    obtain ⟨hcolumn, -⟩ := Identifier.mapError_check_eq_ok_iff.1 hlabel
    split at h
    · rename_i hnothing
      exact ⟨hcolumn, hnothing⟩
    · obtain ⟨qs, -, h⟩ := bind_eq_ok_iff.1 h
      obtain ⟨select, -, h⟩ := bind_eq_ok_iff.1 h
      obtain ⟨clauses, -, h⟩ := bind_eq_ok_iff.1 h
      cases h
  · rintro ⟨hcolumn, hnothing⟩
    have hlabel : identifier "identifier column" s.identifierColumn = .ok (.checked s.identifierColumn hcolumn) :=
      Identifier.mapError_check_eq_ok_iff.2 ⟨hcolumn, rfl⟩
    rw [hlabel]
    exact if_pos hnothing

/-- Whatever a search by events finds is a page of the users of its queries. -/
theorem eventQuery_eq_some {s : StorageSettings} {r : SearchRequest} {q : Select}
    (h : eventQuery s c project r = .ok (some q)) :
    ∃ (hcolumn : isName s.identifierColumn = true) (hsorting : r.HasProperSorting) (qs : List Select),
      searchQueries s c project r = .ok qs ∧ qs ≠ [] ∧
        q = page r hsorting (usersOf (.ofSelections qs) (.checked s.identifierColumn hcolumn)) := by
  obtain ⟨⟨hcolumn, hnothing | ⟨-, hsorting⟩⟩, -⟩ | ⟨-, e, he, -⟩ := checks_eventQuery s c project r
  · cases h.symm.trans (eventQuery_eq_none_iff.2 ⟨hcolumn, hnothing⟩)
  · rw [eventQuery_eq_ite hcolumn hsorting] at h
    split at h
    · cases h
    · rename_i hsome
      obtain ⟨qs, hqs, hq⟩ := map_eq_ok_iff.1 h
      exact ⟨hcolumn, hsorting, qs, hqs, ne_nil_of_searchQueries hsome hqs, (Option.some.inj hq).symm⟩
  · cases h.symm.trans he

/-- A segment has a query if it has event filters, all proper, and no predicate besides. -/
theorem checks_segmentQuery (s : StorageSettings) (c : Catalog) (project : String) (r : SegmentRequest) :
    Checks ((r.filter = none ∧ r.eventFilters ≠ []) ∧ ∀ f ∈ r.eventFilters, f.IsProper)
      (segmentQuery s c project r) := by
  have hallowed : ¬(r.filter.isSome = true ∨ r.eventFilters.isEmpty = true) ↔
      r.filter = none ∧ r.eventFilters ≠ [] := by
    simp [List.isEmpty_iff]
  rw [← hallowed]
  unfold segmentQuery
  split
  · rename_i hrefused
    exact (Checks.error rfl).congr (iff_of_false not_false fun h => h.1 hrefused)
  · rename_i hsome
    refine Checks.congr ?_ (and_iff_right hsome).symm
    have hne : r.eventFilters ≠ [] := (hallowed.1 hsome).2
    refine ((checks_eventBranches r.eventFilters).bind fun qs hqs => ?_).congr (and_iff_left trivial)
    exact checks_distinctUsers (ne_nil_of_eventBranches hne hqs) _

end Search

/-- Some collection of the project has users. -/
def Catalog.HasUsers (c : Catalog) (project : String) : Prop :=
  ∃ q fields, (c.collectionsOf project).get? q = some fields ∧ hasField fields userField = true

namespace Search

theorem mem_userCollections_iff {q : String} :
    q ∈ userCollections c project ↔
      ∃ fields, (c.collectionsOf project).get? q = some fields ∧ hasField fields userField = true := by
  simp [userCollections, ← Keyed.mem_entries_iff]

theorem isEmpty_userCollections_iff : (userCollections c project).isEmpty = true ↔ ¬c.HasUsers project := by
  rw [List.isEmpty_iff, List.eq_nil_iff_forall_not_mem]
  unfold Catalog.HasUsers
  simp only [mem_userCollections_iff, not_exists]

/-- Collections with users have proper names where everything has. -/
theorem isName_of_mem_userCollections (hc : c.IsWellNamed) {q : String} (h : q ∈ userCollections c project) :
    isName q = true := by
  obtain ⟨fields, hfields, -⟩ := mem_userCollections_iff.1 h
  exact hc.collections project q ((Keyed.mem_keys_iff _).2 ⟨fields, hfields⟩)

end Search

/-! ## Statements -/

namespace StorageSettings

theorem validate_eq_ok_iff {s : StorageSettings} :
    s.validate = .ok () ↔ isName s.identifierColumn = true ∧ isName s.userConnector = true := by
  unfold validate
  simp only [bind_eq_ok_iff, pure_eq_ok_iff, checkName_eq_ok_iff]
  constructor
  · rintro ⟨_, ⟨hcolumn, -⟩, _, ⟨hconnector, -⟩, -⟩
    exact ⟨hcolumn, hconnector⟩
  · rintro ⟨hcolumn, hconnector⟩
    exact ⟨_, ⟨hcolumn, rfl⟩, _, ⟨hconnector, rfl⟩, trivial⟩

/-- Everything that the search looks at is proper: all about the attributes if it has a predicate, and otherwise its
event filters and, unless there is nothing to search in, its sorting. -/
def Admits (s : StorageSettings) (c : Catalog) (project : String) (r : SearchRequest) : Prop :=
  match s.kind with
  | .attributes => r.eventFilters = [] ∧ r.HasProperAttributes project
  | .events =>
    (∀ f ∈ r.eventFilters, f.IsProper) ∧
      if r.filter.isSome then r.HasProperAttributes project
      else r.eventFilters ≠ [] ∨ c.HasUsers project → r.HasProperSorting

variable (s : StorageSettings) (c : Catalog) (project : String)

theorem checks_attributeStatement (r : SearchRequest) :
    Checks ((∀ f ∈ r.eventFilters, isName project = true ∧ f.IsProper) ∧
      ((∀ k ∈ if !r.eventFilters.isEmpty then some s.userConnector else none, isName k = true) ∧
        isName project = true) ∧
      (∀ n ∈ r.columns, isName n = true) ∧ (∀ p ∈ r.filter, p.IsProper) ∧ r.HasProperSorting)
      (s.attributeStatement c project r) := by
  refine (Search.checks_eventConditions _).bind fun conditions _ => ?_
  refine (Search.checks_userTable _ _).bind fun table _ => ?_
  exact (Search.checks_attributeQuery table r conditions).bind_ok _

theorem checks_eventStatement (r : SearchRequest) :
    Checks (isName s.identifierColumn = true ∧
      (r.eventFilters.isEmpty = true ∧ (Search.userCollections c project).isEmpty = true ∨
        Search.HasProperBranches c project r ∧ r.HasProperSorting)) (s.eventStatement c project r) :=
  (Search.checks_eventQuery s c project r).bind_ok _

/-- Whatever keeps a search from being sent is the fault of the request. -/
theorem status_of_statement {r : SearchRequest} {e : QueryError} (h : s.statement c project r = .error e) :
    e.status = 400 := by
  unfold statement at h
  split at h
  · split at h
    · exact (s.checks_attributeStatement c project r).status_eq h
    · cases h
      rfl
  · split at h
    · exact (s.checks_attributeStatement c project r).status_eq h
    · exact (s.checks_eventStatement c project r).status_eq h

variable {s c}

/-- Under proper settings, the attributes and the event filters of a search decide about its statement. -/
theorem checks_attributeStatement_of_validate (hs : s.validate = .ok ()) (r : SearchRequest) :
    Checks ((∀ f ∈ r.eventFilters, f.IsProper) ∧ r.HasProperAttributes project)
      (s.attributeStatement c project r) := by
  refine (s.checks_attributeStatement c project r).congr ?_
  have hconnector : ∀ k ∈ if !r.eventFilters.isEmpty then some s.userConnector else none, isName k = true := by
    split
    · exact forall_mem_some_iff.2 (validate_eq_ok_iff.1 hs).2
    · exact forall_mem_none _
  constructor
  · rintro ⟨hfilters, ⟨-, hproject⟩, hattributes⟩
    exact ⟨fun f hf => (hfilters f hf).2, hproject, hattributes⟩
  · rintro ⟨hfilters, hproject, hattributes⟩
    exact ⟨fun f hf => ⟨hproject, hfilters f hf⟩, ⟨hconnector, hproject⟩, hattributes⟩

/-- Under proper settings, and with proper names in the catalog, the event filters and the sorting decide. -/
theorem checks_eventStatement_of_validate (hs : s.validate = .ok ()) (hc : c.IsWellNamed) (r : SearchRequest) :
    Checks ((∀ f ∈ r.eventFilters, f.IsProper) ∧
      (r.eventFilters ≠ [] ∨ c.HasUsers project → r.HasProperSorting)) (s.eventStatement c project r) := by
  refine (s.checks_eventStatement c project r).congr ?_
  rw [and_iff_right (validate_eq_ok_iff.1 hs).1, Search.isEmpty_userCollections_iff]
  unfold Search.HasProperBranches
  cases hfilters : r.eventFilters with
  | nil =>
    have hcollections : ∀ q ∈ Search.userCollections c project, isName q = true :=
      fun _ hq => Search.isName_of_mem_userCollections hc hq
    by_cases husers : c.HasUsers project
    · simpa [husers] using fun _ : r.HasProperSorting => hcollections
    · simp [husers]
  | cons f fs => simp

/-- A search has a statement, or nothing to search in, if and only if it is admitted. -/
theorem checks_statement (hs : s.validate = .ok ()) (hc : c.IsWellNamed) (r : SearchRequest) :
    Checks (s.Admits c project r) (s.statement c project r) := by
  unfold Admits statement
  cases s.kind with
  | attributes =>
    dsimp only
    by_cases hfilters : r.eventFilters = []
    · rw [if_pos (List.isEmpty_iff.2 hfilters)]
      refine (checks_attributeStatement_of_validate project hs r).congr (and_congr_left fun _ => ?_)
      rw [hfilters]
      exact iff_of_true (List.forall_mem_nil _) rfl
    · rw [if_neg (mt List.isEmpty_iff.1 hfilters)]
      exact (Checks.error rfl).congr (iff_of_false not_false fun h => hfilters h.1)
  | events =>
    dsimp only
    by_cases hfilter : r.filter.isSome = true
    · rw [if_pos hfilter, if_pos hfilter]
      exact checks_attributeStatement_of_validate project hs r
    · rw [if_neg hfilter, if_neg hfilter]
      exact checks_eventStatement_of_validate project hs hc r

/-- A segment is made into a view if a storage of events is asked, under a proper table name, for the users of some
event filters, all of them proper. -/
theorem checks_newView (r : SegmentRequest) :
    Checks (s.kind = .events ∧ isName r.tableName = true ∧ (r.filter = none ∧ r.eventFilters ≠ []) ∧
      ∀ f ∈ r.eventFilters, f.IsProper) (s.newView c project r) := by
  unfold newView
  cases s.kind with
  | attributes => exact (Checks.error rfl).congr (iff_of_false not_false fun h => nomatch h.1)
  | events =>
    refine Checks.congr ?_ (and_iff_right rfl).symm
    exact (checks_name _ _).bind fun _ _ => (Search.checks_segmentQuery s c project r).bind_ok _

end StorageSettings

end Cohort
