import Cohort.Proofs.Event.Selection
import Cohort.Users.Search

/-!
# Branches of queries about users

Event filters enter queries in three ways: as branches of a search by events, as branches of a segment, and as
conditions of a search by attributes. All of them hold the query of each event filter, and all of them fail as the
first event filter does that has none.
-/

namespace Cohort

open Sql Outcome

namespace Sql

namespace Query

/-- The selections on the top level. -/
def selections : Query → List Select
  | .select s => [s]
  | .unionAll qs => selectionsOf qs
where
  selectionsOf : List Query → List Select
    | [] => []
    | q :: qs => selections q ++ selectionsOf qs

mutual

theorem length_selections (q : Query) : q.selections.length = q.branches := by
  match q with
  | .select s => rfl
  | .unionAll qs => exact length_selectionsOf qs

theorem length_selectionsOf (qs : List Query) : (selections.selectionsOf qs).length = branches.branchesOf qs := by
  match qs with
  | [] => rfl
  | q :: qs =>
    rw [selections.selectionsOf, List.length_append, length_selections q, length_selectionsOf qs]
    rfl

end

/-- All rows of some selections, which are not put into a union if there is only one. -/
def ofSelections : List Select → Query
  | [s] => .select s
  | ss => .unionAll (ss.map .select)

theorem union_map_select {ss : List Select} (h : ss ≠ []) : union (ss.map .select) = .ok (ofSelections ss) := by
  match ss, h with
  | [_], _ => rfl
  | _ :: _ :: _, _ => rfl

theorem selections_ofSelections (ss : List Select) : (ofSelections ss).selections = ss := by
  have hmap (ss : List Select) : selections.selectionsOf (ss.map .select) = ss := by
    induction ss with
    | nil => rfl
    | cons s ss ih => exact congrArg (s :: ·) ih
  match ss with
  | [] => rfl
  | [_] => rfl
  | _ :: _ :: _ => exact hmap _

theorem branches_ofSelections (ss : List Select) : (ofSelections ss).branches = ss.length := by
  rw [← length_selections, selections_ofSelections]

end Query

/-- The same selection from the table of that name in a schema. -/
def Select.inSchema (schema : Identifier) (s : Select) : Select :=
  match s.source with
  | some (.table name label) => { s with source := some (.table (schema :: name) label) }
  | _ => s

end Sql

namespace EventFilter

theorem select_cons (mapped : Bool) (schema : Identifier) (table : List Identifier) (f : EventFilter) :
    f.select mapped (schema :: table) = (f.select mapped table).map (Select.inSchema schema) := by
  rw [select_eq_bind, select_eq_bind]
  cases f.filterTerms with
  | error e => rfl
  | ok filters =>
    change f.boundTerms.map _ = (f.boundTerms.map _).map _
    cases f.boundTerms with
    | error e => rfl
    | ok bounds => rfl

variable {mapping : Bool} {c : Catalog} {project : String} {f : EventFilter}

/-- The query of an event filter in a project is its query from the table in the schema of the project. -/
theorem queryInProject_eq_map (hproject : isName project = true) :
    f.queryInProject mapping c project =
      (f.query mapping c project).map (Select.inSchema (.checked project hproject)) := by
  have hschema : (Identifier.check "project" project).mapError QueryError.request = .ok (.checked project hproject) :=
    Identifier.mapError_check_eq_ok_iff.2 ⟨hproject, rfl⟩
  unfold queryInProject query
  rw [hschema]
  change ((Identifier.check "collection" f.collection).mapError QueryError.request >>= fun table => _) = _
  cases (Identifier.check "collection" f.collection).mapError QueryError.request with
  | error e => rfl
  | ok table => exact select_cons ..

/-- The query reads the table of the collection. -/
theorem source_of_query {s : Select} (h : f.query mapping c project = .ok s) :
    ∃ hcollection : isName f.collection = true,
      s.source = some (.table [.checked f.collection hcollection] (some (.builtIn .collection))) := by
  obtain ⟨hcollection, filters, bounds, -, -, rfl⟩ := query_eq_ok h
  exact ⟨hcollection, rfl⟩

end EventFilter

namespace Search

/-! ## The three uses of event filters -/

/-- The distinct users of a query, under the given name. -/
def usersOf (q : Query) (label : Identifier) : Select :=
  { Select.empty with
    distinct := true
    projection := [⟨.column none (.builtIn .user), some label⟩]
    source := some (.subquery q (some (.builtIn .distinctUsers))) }

/-- The users that a query returns, as a condition on the table of users. -/
def isUserOf (q : Select) : Term := .inQuery (.column none (.builtIn .id)) (.select q)

section

variable (mapping : Bool) (c : Catalog) (project : String)

/-- The queries of event filters, unless one of them has none. -/
def queries (filters : List EventFilter) : Except QueryError (List Select) :=
  filters.mapM fun f => f.query mapping c project

theorem eventBranches_eq_map (filters : List EventFilter) :
    eventBranches mapping c project filters = (queries mapping c project filters).map (List.map Query.select) :=
  eq_map_mapM (eventBranches mapping c project) rfl (fun _ _ => rfl) filters

theorem eventConditions_eq_map (hproject : isName project = true) (filters : List EventFilter) :
    eventConditions mapping c project filters =
      (queries mapping c project filters).map
        (List.map fun q => isUserOf (q.inSchema (.checked project hproject))) := by
  refine eq_map_mapM (eventConditions mapping c project) rfl (fun f fs => ?_) filters
  rw [eventConditions, EventFilter.queryInProject_eq_map hproject]
  cases f.query mapping c project with
  | error e => rfl
  | ok q => rfl

theorem distinctUsers_map_select {qs : List Select} (hne : qs ≠ []) (label : Identifier) :
    distinctUsers (qs.map Query.select) label = .ok (usersOf (.ofSelections qs) label) := by
  rw [distinctUsers, Query.union_map_select hne]
  rfl

theorem ne_nil_of_queries {filters : List EventFilter} {qs : List Select} (hne : filters ≠ [])
    (h : queries mapping c project filters = .ok qs) : qs ≠ [] := ne_nil_of_mapM hne h

end

/-- The users of a segment come from the queries of its event filters. -/
theorem segmentQuery_eq_map {s : StorageSettings} {c : Catalog} {project : String} {r : SegmentRequest}
    (hfilter : r.filter = none) (hne : r.eventFilters ≠ []) :
    segmentQuery s c project r =
      (queries s.userMapping c project r.eventFilters).map fun qs => usersOf (.ofSelections qs) (.builtIn .id) := by
  have hallowed : ¬(r.filter.isSome = true ∨ r.eventFilters.isEmpty = true) := by
    rw [hfilter, List.isEmpty_iff]
    simpa using hne
  rw [segmentQuery, if_neg hallowed]
  change (eventBranches s.userMapping c project r.eventFilters >>= fun branches => _) = _
  rw [eventBranches_eq_map]
  cases hqueries : queries s.userMapping c project r.eventFilters with
  | error e => rfl
  | ok qs => exact distinctUsers_map_select (ne_nil_of_queries _ _ _ hne hqueries) _

/-- What a search with a proper column is sorted by. -/
def sortKeys (sorting : Option Sorting) (h : ∀ o ∈ sorting, isName o.column = true) : List SortKey :=
  (sorting.pmap (fun o hcolumn => ⟨.column none (.checked o.column hcolumn), o.direction⟩) h).toList

/-- The page of the users that a request asks for. -/
def page (r : SearchRequest) (h : ∀ o ∈ r.sorting, isName o.column = true) (s : Select) : Select :=
  { s with
    order := s.order ++ sortKeys r.sorting h
    limit := some r.limit
    offset := (r.offset.filter (0 < ·)).or s.offset }

theorem pageClauses_eq_ok {r : SearchRequest} (h : ∀ o ∈ r.sorting, isName o.column = true) :
    ∃ clauses, pageClauses r = .ok clauses ∧ ∀ s : Select, clauses.foldl Select.push s = page r h s := by
  obtain ⟨columns, filter, eventFilters, sorting, limit, offset⟩ := r
  cases sorting with
  | none =>
    refine ⟨_, rfl, fun s => ?_⟩
    cases hoffset : offset.filter (0 < ·) <;> simp [page, sortKeys, Select.push, hoffset]
  | some o =>
    have hcolumn : identifier "sort column" o.column = .ok (.checked o.column (h o rfl)) :=
      Identifier.mapError_check_eq_ok_iff.2 ⟨h o rfl, rfl⟩
    refine ⟨[.order ⟨.column none (.checked o.column (h o rfl)), o.direction⟩] ++ [.limit limit] ++
      ((offset.filter (0 < ·)).map Clause.offset).toList, ?_, fun s => ?_⟩
    · rw [pageClauses]
      dsimp only
      rw [hcolumn]
      rfl
    · cases hoffset : offset.filter (0 < ·) <;> simp [page, sortKeys, Select.push, hoffset]

/-- The users in the events of a collection. -/
def usersIn (collection : Identifier) : Select :=
  { Select.empty with
    projection := [⟨eventColumn .user, none⟩]
    source := some (.table [collection] (some (.builtIn .collection)))
    conditions := [.isNotNull (eventColumn .user)] }

/-- The query of the users of each collection. -/
def collectionQueries (names : List String) : Except QueryError (List Select) :=
  names.mapM fun q => (identifier "collection" q).map usersIn

theorem collectionBranches_eq_map (names : List String) :
    collectionBranches names = (collectionQueries names).map (List.map Query.select) := by
  refine eq_map_mapM collectionBranches rfl (fun q names => ?_) names
  rw [map_bind, collectionBranches, collectionBranch]
  cases identifier "collection" q with
  | error e => rfl
  | ok table => rfl

section

variable (s : StorageSettings) (c : Catalog) (project : String) (r : SearchRequest)

/-- The queries that a search by events is made of: those of its event filters, or of all collections with users. -/
def searchQueries : Except QueryError (List Select) :=
  if r.eventFilters.isEmpty then collectionQueries (userCollections c project)
  else queries s.userMapping c project r.eventFilters

theorem eventQuery_eq_bind :
    eventQuery s c project r = do
      let label ← identifier "identifier column" s.identifierColumn
      if r.eventFilters.isEmpty ∧ (userCollections c project).isEmpty then return none
      let qs ← searchQueries s c project r
      let select ← distinctUsers (qs.map .select) label
      return some ((← pageClauses r).foldl Select.push select) := by
  unfold eventQuery searchQueries
  refine congrArg (identifier _ _ >>= ·) (funext fun label => ?_)
  cases r.eventFilters.isEmpty with
  | true =>
    refine congrArg (ite _ _) ?_
    change (collectionBranches _ >>= fun branches => _) = (collectionQueries _ >>= fun qs => _)
    rw [collectionBranches_eq_map, map_bind]
  | false =>
    refine congrArg (ite _ _) ?_
    change (eventBranches .. >>= fun branches => _) = (queries .. >>= fun qs => _)
    rw [eventBranches_eq_map, map_bind]

variable {s c project r}

theorem ne_nil_of_searchQueries {qs : List Select}
    (hsome : ¬(r.eventFilters.isEmpty = true ∧ (userCollections c project).isEmpty = true))
    (h : searchQueries s c project r = .ok qs) : qs ≠ [] := by
  unfold searchQueries at h
  split at h
  · rename_i hfilters
    exact ne_nil_of_mapM (fun hnone => hsome ⟨hfilters, List.isEmpty_iff.2 hnone⟩) h
  · rename_i hfilters
    exact ne_nil_of_mapM (mt List.isEmpty_iff.2 hfilters) h

/-- A search by events is a page of the users of its queries, unless there is nothing to search in. -/
theorem eventQuery_eq_ite (hcolumn : isName s.identifierColumn = true)
    (hsorting : ∀ o ∈ r.sorting, isName o.column = true) :
    eventQuery s c project r =
      if r.eventFilters.isEmpty ∧ (userCollections c project).isEmpty then .ok none
      else (searchQueries s c project r).map fun qs =>
        some (page r hsorting (usersOf (.ofSelections qs) (.checked s.identifierColumn hcolumn))) := by
  have hlabel : identifier "identifier column" s.identifierColumn = .ok (.checked s.identifierColumn hcolumn) :=
    Identifier.mapError_check_eq_ok_iff.2 ⟨hcolumn, rfl⟩
  obtain ⟨clauses, hclauses, hpage⟩ := pageClauses_eq_ok hsorting
  rw [eventQuery_eq_bind, hlabel, hclauses]
  change ite (r.eventFilters.isEmpty = true ∧ (userCollections c project).isEmpty = true) _ _ = _
  split
  · rfl
  · rename_i hsome
    cases hqueries : searchQueries s c project r with
    | error e => rfl
    | ok qs =>
      change (distinctUsers (qs.map Query.select) _ >>= fun select => _) = _
      rw [distinctUsers_map_select (ne_nil_of_searchQueries hsome hqueries)]
      exact congrArg (Except.ok ∘ some) (hpage _)

theorem eventQuery_eq_map (hcolumn : isName s.identifierColumn = true)
    (hsorting : ∀ o ∈ r.sorting, isName o.column = true) (hne : r.eventFilters ≠ []) :
    eventQuery s c project r =
      (queries s.userMapping c project r.eventFilters).map fun qs =>
        some (page r hsorting (usersOf (.ofSelections qs) (.checked s.identifierColumn hcolumn))) := by
  have hfilters : ¬r.eventFilters.isEmpty = true := mt List.isEmpty_iff.1 hne
  rw [eventQuery_eq_ite hcolumn hsorting, if_neg fun h => hfilters h.1, searchQueries, if_neg hfilters]

end

/-- A search by events, a segment and the conditions of a search by attributes either all hold the queries of the same
event filters, the first two as the branches of one union, or all fail as the first event filter without a query. -/
theorem branches_agree (s : StorageSettings) (c : Catalog) (project : String) (search : SearchRequest)
    (segment : SegmentRequest) {filters : List EventFilter} (hproject : isName project = true)
    (hcolumn : isName s.identifierColumn = true) (hsorting : ∀ o ∈ search.sorting, isName o.column = true)
    (hsearch : search.eventFilters = filters) (hsegment : segment.eventFilters = filters)
    (hfilter : segment.filter = none) (hne : filters ≠ []) :
    (∃ union qs,
      List.Forall₂ (fun f q => f.query s.userMapping c project = .ok q ∧
        ∃ hcollection : isName f.collection = true,
          q.source = some (.table [.checked f.collection hcollection] (some (.builtIn .collection)))) filters qs ∧
      Query.union (qs.map .select) = .ok union ∧ union.branches = filters.length ∧ union.selections = qs ∧
      eventQuery s c project search =
        .ok (some (page search hsorting (usersOf union (.checked s.identifierColumn hcolumn)))) ∧
      segmentQuery s c project segment = .ok (usersOf union (.builtIn .id)) ∧
      eventConditions s.userMapping c project filters =
        .ok (qs.map fun q => isUserOf (q.inSchema (.checked project hproject)))) ∨
    ∃ before f after e, filters = before ++ f :: after ∧
      (∀ g ∈ before, ∃ q, g.query s.userMapping c project = .ok q) ∧ f.query s.userMapping c project = .error e ∧
      eventQuery s c project search = .error e ∧ segmentQuery s c project segment = .error e ∧
      eventConditions s.userMapping c project filters = .error e := by
  rw [eventQuery_eq_map hcolumn hsorting (hsearch ▸ hne), segmentQuery_eq_map hfilter (hsegment ▸ hne),
    eventConditions_eq_map s.userMapping c project hproject, hsearch, hsegment]
  cases hqueries : queries s.userMapping c project filters with
  | ok qs =>
    have hall := mapM_eq_ok_iff.1 hqueries
    have hunion := Query.union_map_select (ne_nil_of_queries _ _ _ hne hqueries)
    refine .inl ⟨.ofSelections qs, qs, ?_, hunion, ?_, Query.selections_ofSelections qs, rfl, rfl, rfl⟩
    · exact hall.imp fun f q hq => ⟨hq, EventFilter.source_of_query hq⟩
    · rw [Query.branches_ofSelections, hall.length_eq]
  | error e =>
    obtain ⟨before, f, after, hlist, hbefore, hf⟩ := exists_of_mapM_eq_error hqueries
    exact .inr ⟨before, f, after, e, hlist, hbefore, hf, rfl, rfl, rfl⟩

/-- Clicks, and purchases that were not for free. -/
def shopping : List EventFilter :=
  [⟨"clicks", none, none, none⟩,
    ⟨"purchases", some (.binary (.column ["price"]) .gt (.literal (.integer 0))), none, none⟩]

theorem branches_agree_shopping :
    ∃ union, union.branches = 2 ∧
      eventQuery .default .empty "shop" ⟨[], none, shopping, none, 10, none⟩ =
        .ok (some { usersOf union (.checked "id" rfl) with limit := some 10 }) ∧
      segmentQuery .default .empty "shop" ⟨"Shoppers", "shoppers", none, shopping, none⟩ =
        .ok (usersOf union (.builtIn .id)) := by
  have hqueries : ∀ f ∈ shopping, ∃ q, f.query false .empty "shop" = .ok q := by
    exact List.forall_mem_cons.2 ⟨⟨_, rfl⟩, List.forall_mem_cons.2 ⟨⟨_, rfl⟩, List.forall_mem_nil _⟩⟩
  obtain ⟨union, qs, -, -, hbranches, -, hsearch, hsegment, -⟩ | ⟨before, f, after, e, hlist, -, hf, -⟩ :=
    branches_agree .default .empty "shop" ⟨[], none, shopping, none, 10, none⟩
      ⟨"Shoppers", "shoppers", none, shopping, none⟩ rfl rfl (fun _ ho => nomatch ho) rfl rfl rfl (List.cons_ne_nil _ _)
  · exact ⟨union, hbranches, hsearch, hsegment⟩
  · have hmem : f ∈ before ++ f :: after := List.mem_append_right _ List.mem_cons_self
    rw [← hlist] at hmem
    obtain ⟨q, hq⟩ := hqueries f hmem
    cases hq.symm.trans hf

end Search

end Cohort
