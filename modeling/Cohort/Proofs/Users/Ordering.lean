import Cohort.Proofs.Meaning.Query
import Cohort.Proofs.Users.Admission

/-!
# Order of searches by events

The pages of all searches are made in the same way. So a search by events is sorted by whatever column is asked for,
as one by attributes is, although it returns nothing but users under the name of the identifier column. Only the name
of the column is looked at: it has to be proper, and then it has no influence on anything else.
-/

namespace Cohort

open Sql Outcome

namespace Sql.Select

/-- The selection with further keys to sort by. -/
def sortedBy (q : Select) (keys : List SortKey) : Select := { q with order := q.order ++ keys }

/-- All that the rows are sorted by is a column of the result. -/
def IsSortedByOutput (q : Select) : Prop :=
  ∀ k ∈ q.order, ∃ i, k.term = .column none i ∧ i.text ∈ q.projection.map Item.name

end Sql.Select

namespace Search

variable {s : StorageSettings} {c : Catalog} {p : String} {r : SearchRequest} {q : Select}

theorem mem_sortKeys_iff {sorting : Option Sorting} {h : ∀ o ∈ sorting, isName o.column = true} {k : SortKey} :
    k ∈ sortKeys sorting h ↔ ∃ o, ∃ ho : o ∈ sorting, k = ⟨.column none (.checked o.column (h o ho)), o.direction⟩ := by
  cases sorting with
  | none => exact iff_of_false List.not_mem_nil fun ⟨_, ho, _⟩ => nomatch ho
  | some o =>
    refine List.mem_singleton.trans ⟨fun hk => ⟨o, rfl, hk⟩, ?_⟩
    rintro ⟨_, ⟨⟩, hk⟩
    exact hk

/-- The same request without anything to sort by. -/
def unsorted (r : SearchRequest) : SearchRequest := { r with sorting := none }

theorem page_eq_sortedBy (h : r.HasProperSorting) (hunsorted : (unsorted r).HasProperSorting) (q : Select) :
    page r h q = (page (unsorted r) hunsorted q).sortedBy (sortKeys r.sorting h) := by
  unfold page Select.sortedBy
  dsimp only
  rw [show sortKeys (unsorted r).sorting hunsorted = [] from rfl, List.append_nil]
  rfl

/-- A proper column to sort by adds its key to what the search is without it, and nothing else. -/
theorem eventQuery_eq_map_sortedBy (s : StorageSettings) (c : Catalog) (p : String) (h : r.HasProperSorting) :
    eventQuery s c p r =
      (eventQuery s c p (unsorted r)).map (Option.map (Select.sortedBy · (sortKeys r.sorting h))) := by
  have hunsorted : (unsorted r).HasProperSorting := forall_mem_none _
  obtain ⟨clauses, hclauses, hpage⟩ := pageClauses_eq_ok h
  obtain ⟨others, hothers, hpageUnsorted⟩ := pageClauses_eq_ok hunsorted
  rw [eventQuery_eq_bind, eventQuery_eq_bind, hclauses, hothers, map_bind_eq]
  refine congrArg (identifier _ _ >>= ·) (funext fun label => ?_)
  change ite (r.eventFilters.isEmpty = true ∧ (userCollections c p).isEmpty = true) _ _ =
    Except.map _ (ite (r.eventFilters.isEmpty = true ∧ (userCollections c p).isEmpty = true) _ _)
  split
  · rfl
  · rw [map_bind_eq]
    refine congrArg (searchQueries s c p r >>= ·) (funext fun qs => ?_)
    rw [map_bind_eq]
    refine congrArg (distinctUsers _ label >>= ·) (funext fun select => ?_)
    change Except.ok (some _) = Except.ok (some _)
    rw [hpage, hpageUnsorted, page_eq_sortedBy h hunsorted]

theorem isSortedByOutput_page_iff (h : r.HasProperSorting) (union : Query) (label : Identifier) :
    (page r h (usersOf union label)).IsSortedByOutput ↔ ∀ o ∈ r.sorting, o.column = label.text := by
  have horder : (page r h (usersOf union label)).order = sortKeys r.sorting h := List.nil_append _
  unfold Select.IsSortedByOutput
  rw [horder]
  constructor
  · intro hsorted o ho
    obtain ⟨i, hi, hname⟩ := hsorted _ (mem_sortKeys_iff.2 ⟨o, ho, rfl⟩)
    cases hi
    exact List.mem_singleton.1 hname
  · rintro hsame k hk
    obtain ⟨o, ho, rfl⟩ := mem_sortKeys_iff.1 hk
    exact ⟨_, rfl, List.mem_singleton.2 (hsame o ho)⟩

/-- An improper column to sort by is refused, unless there is nothing to search in. -/
theorem eventQuery_of_not_hasProperSorting (s : StorageSettings) (c : Catalog) (p : String)
    (h : ¬r.HasProperSorting) :
    (eventQuery s c p r = .ok none ∧ r.eventFilters = [] ∧ ¬c.HasUsers p) ∨
      ∃ e, eventQuery s c p r = .error e ∧ e.status = 400 := by
  obtain ⟨⟨hcolumn, hnothing | ⟨-, hsorting⟩⟩, -⟩ | ⟨-, hrefused⟩ := checks_eventQuery s c p r
  · have hnone := eventQuery_eq_none_iff.2 ⟨hcolumn, hnothing⟩
    rw [List.isEmpty_iff, isEmpty_userCollections_iff] at hnothing
    exact .inl ⟨hnone, hnothing⟩
  · exact absurd hsorting h
  · exact .inr hrefused

end Search

namespace StorageSettings

open Search Session

variable {s : StorageSettings} {p : String} {r : SearchRequest}

theorem run_search_of_events (hkind : s.kind = .events) (hfilter : r.filter = none) (σ : Session) :
    (s.search p r).run σ =
      match eventQuery s σ.catalog p r with
      | .error e => (.error e, σ)
      | .ok none => (.ok .empty, σ)
      | .ok (some q) =>
        (σ.events.answer.mapError .execution, σ.record .events ⟨some p, (Query.select q).text⟩) := by
  rw [run_search, run_lift_bind]
  unfold statement eventStatement
  rw [hkind, hfilter]
  match eventQuery s σ.catalog p r with
  | .error e => rfl
  | .ok none => rfl
  | .ok (some q) => exact run_execute .events _ σ

/-- Whatever the settings, the catalog and the request are: a query of a search by events returns distinct users in the
one identifier column and is sorted by just what is asked for, so by what it returns if and only if that is the
identifier column. Any proper column is sorted by, and decides about nothing else; an improper one is refused, the
request being to blame, unless there is nothing to search in. A search that is refused sends nothing, and a query is
sent to the engine of the events as it is. -/
theorem event_search_order (s : StorageSettings) (σ : Session) (p : String) (r : SearchRequest) :
    let found := eventQuery s σ.catalog p
    (∀ q, found r = .ok (some q) →
      q.distinct = true ∧ q.projection.map Item.name = [s.identifierColumn] ∧
        (∃ h : r.HasProperSorting, q.order = sortKeys r.sorting h) ∧
        (q.IsSortedByOutput ↔ ∀ o ∈ r.sorting, o.column = s.identifierColumn)) ∧
      (∀ h : r.HasProperSorting,
        found r = (found (unsorted r)).map (Option.map (Select.sortedBy · (sortKeys r.sorting h)))) ∧
      (¬r.HasProperSorting →
        (found r = .ok none ∧ r.eventFilters = [] ∧ ¬σ.catalog.HasUsers p) ∨
          ∃ e, found r = .error e ∧ e.status = 400) ∧
      (s.kind = .events → r.filter = none →
        (s.search p r).run σ =
          match found r with
          | .error e => (.error e, σ)
          | .ok none => (.ok .empty, σ)
          | .ok (some q) =>
            (σ.events.answer.mapError .execution, σ.record .events ⟨some p, (Query.select q).text⟩)) := by
  intro found
  refine ⟨fun q hq => ?_, fun h => eventQuery_eq_map_sortedBy s _ p h,
    fun h => eventQuery_of_not_hasProperSorting s _ p h, fun hkind hfilter => run_search_of_events hkind hfilter σ⟩
  obtain ⟨hcolumn, hsorting, qs, -, -, rfl⟩ := eventQuery_eq_some hq
  exact ⟨rfl, rfl, ⟨hsorting, List.nil_append _⟩, isSortedByOutput_page_iff hsorting _ _⟩

/-- Who visited, by their addresses. -/
def visitorsByEmail : SearchRequest :=
  { columns := []
    filter := none
    eventFilters := [⟨"visits", none, none, none⟩]
    sorting := some ⟨"email", .asc⟩
    limit := SearchRequest.defaultLimit
    offset := none }

/-- The addresses are sorted by, although nothing but the identifiers is returned, and the query is sent. -/
theorem event_search_order_visitorsByEmail :
    let σ : Session := ⟨.empty, Inhabited.default, Inhabited.default⟩
    ∃ q, eventQuery default σ.catalog "shop" visitorsByEmail = .ok (some q) ∧ q.order ≠ [] ∧
      q.projection.map Item.name = ["id"] ∧ ¬q.IsSortedByOutput ∧
      (Query.select q).text = "SELECT DISTINCT _user AS \"id\" FROM (SELECT collection._user FROM \"visits\" AS " ++
        "collection WHERE collection._user IS NOT NULL) AS t ORDER BY \"email\" ASC LIMIT 100" ∧
      (default.search "shop" visitorsByEmail).run σ =
        (.ok .empty, σ.record .events ⟨some "shop", (Query.select q).text⟩) := by
  intro σ
  obtain ⟨q, hq⟩ : ∃ q, eventQuery default σ.catalog "shop" visitorsByEmail = .ok (some q) := ⟨_, rfl⟩
  have hsent := run_search_of_events (p := "shop") (s := default) (r := visitorsByEmail) rfl rfl σ
  rw [hq] at hsent
  obtain ⟨hcolumn, hsorting, qs, -, -, hpage⟩ := eventQuery_eq_some hq
  have hunsorted : ¬q.IsSortedByOutput := by
    rw [hpage, isSortedByOutput_page_iff]
    exact fun hsame => absurd (hsame _ rfl) (by decide : "email" ≠ "id")
  refine ⟨q, hq, ?_, ?_, hunsorted, ?_, hsent⟩
  · rw [hpage]
    exact List.cons_ne_nil _ _
  · rw [hpage]
    rfl
  · cases hq
    decide +kernel

end StorageSettings

end Cohort
