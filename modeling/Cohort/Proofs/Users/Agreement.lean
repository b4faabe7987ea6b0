import Cohort.Proofs.Users.Admission

/-!
# Searches that all storages answer alike

A search by attributes alone reads nothing but the table of users. So the storage that knows events has no part in it
that the other one lacks: under any settings, and with anything in the catalog, the same requests are refused with the
same errors, and the same statement is sent to the engine of the users for the others.
-/

namespace Cohort

open Outcome

variable {p : String} {r : SearchRequest} {σ τ : Session}

namespace StorageSettings

open Session

/-- The statement of a search in the table of users alone. -/
def tableStatement (p : String) (r : SearchRequest) : Except QueryError Statement := do
  let table ← Search.userTable none p
  let q ← Search.attributeQuery table r []
  return ⟨some p, (Sql.Query.select q).text⟩

theorem checks_tableStatement (p : String) (r : SearchRequest) :
    Checks (r.HasProperAttributes p) (tableStatement p r) := by
  have hchecks := (Search.checks_userTable none p).bind fun table _ =>
    (Search.checks_attributeQuery table r []).bind_ok fun q => (⟨some p, (Sql.Query.select q).text⟩ : Statement)
  exact hchecks.congr (and_congr_left fun _ => and_iff_right (forall_mem_none _))

theorem project_of_tableStatement {statement : Statement} (h : tableStatement p r = .ok statement) :
    statement.project = some p := by
  obtain ⟨table, -, h⟩ := bind_eq_ok_iff.1 h
  obtain ⟨q, -, h⟩ := bind_eq_ok_iff.1 h
  cases pure_eq_ok_iff.1 h
  rfl

theorem attributeStatement_eq_map (s : StorageSettings) (c : Catalog) (hfilters : r.eventFilters = []) :
    s.attributeStatement c p r = (tableStatement p r).map fun statement => some (.users, statement) := by
  unfold attributeStatement tableStatement
  rw [hfilters, map_bind_eq]
  refine congrArg (Search.userTable none p >>= ·) (funext fun table => ?_)
  rw [map_bind_eq]
  rfl

/-- Neither the settings nor the catalog have a say in it. -/
theorem statement_eq_map (s : StorageSettings) (c : Catalog) (hfilter : r.filter.isSome = true)
    (hfilters : r.eventFilters = []) :
    s.statement c p r = (tableStatement p r).map fun statement => some (.users, statement) := by
  rw [← s.attributeStatement_eq_map c hfilters]
  unfold statement
  cases s.kind with
  | attributes => exact if_pos (List.isEmpty_iff.2 hfilters)
  | events => exact if_pos hfilter

theorem run_search_of_filter (s : StorageSettings) (σ : Session) (hfilter : r.filter.isSome = true)
    (hfilters : r.eventFilters = []) :
    (s.search p r).run σ =
      match tableStatement p r with
      | .ok statement => (σ.users.answer.mapError .execution, σ.record .users statement)
      | .error e => (.error e, σ) := by
  rw [run_search, s.statement_eq_map _ hfilter hfilters, run_lift_bind]
  cases tableStatement p r with
  | error e => rfl
  | ok statement => exact run_execute .users statement σ

/-- Any two storages, in sessions whose engines of the users answer alike: a search with a predicate and without event
filters has the same result and sends the same one statement in both, to the engine of the users, if the project and
everything about the attributes are proper. Otherwise both refuse it with the same error, the request being to blame,
and neither session changes. -/
theorem attribute_searches_agree (hfilter : r.filter.isSome = true) (hfilters : r.eventFilters = [])
    (hanswer : σ.users.answer = τ.users.answer) (s t : StorageSettings) (p : String) :
    (r.HasProperAttributes p ∧ ∃ text result,
      result = σ.users.answer.mapError .execution ∧
        (s.search p r).run σ = (result, σ.record .users ⟨some p, text⟩) ∧
        (t.search p r).run τ = (result, τ.record .users ⟨some p, text⟩)) ∨
    (¬r.HasProperAttributes p ∧ ∃ e : QueryError, e.status = 400 ∧
      (s.search p r).run σ = (.error e, σ) ∧ (t.search p r).run τ = (.error e, τ)) := by
  rw [s.run_search_of_filter σ hfilter hfilters, t.run_search_of_filter τ hfilter hfilters, ← hanswer]
  obtain ⟨hproper, ⟨project, text⟩, hstatement⟩ | ⟨himproper, e, he, hstatus⟩ := checks_tableStatement p r
  · obtain rfl : project = some p := project_of_tableStatement hstatement
    rw [hstatement]
    exact .inl ⟨hproper, text, _, rfl, rfl, rfl⟩
  · rw [he]
    exact .inr ⟨himproper, e, hstatus, rfl, rfl⟩

/-- The addresses of all users in Germany. -/
def germans : SearchRequest :=
  { columns := ["email"]
    filter := some (.binary (.column ["country"]) .eq (.literal (.string "DE")))
    eventFilters := []
    sorting := none
    limit := SearchRequest.defaultLimit
    offset := none }

/-- A session whose users are out of reach. -/
def withoutUsers : Session := ⟨.empty, Inhabited.default, ⟨.error "unreachable", []⟩⟩

/-- The storage of events has its schema created first, and then both send the same and fail in the same way. -/
theorem attribute_searches_agree_germans :
    let σ := (default.prepare.run withoutUsers).2
    germans.filter.isSome = true ∧ germans.eventFilters = [] ∧ σ.users.answer = withoutUsers.users.answer ∧
      ∃ text,
        (default.search "shop" germans).run σ =
          (.error (.execution "unreachable"), σ.record .users ⟨some "shop", text⟩) ∧
        (search { default with kind := .attributes } "shop" germans).run withoutUsers =
          (.error (.execution "unreachable"), withoutUsers.record .users ⟨some "shop", text⟩) := by
  intro σ
  have hproper : germans.HasProperAttributes "shop" := by
    refine ⟨by decide, by decide, ?_, forall_mem_none _⟩
    exact forall_mem_some_iff.2 ⟨⟨List.cons_ne_nil _ _, by decide⟩, trivial⟩
  refine ⟨rfl, rfl, rfl, ?_⟩
  obtain ⟨-, text, _, rfl, hevents, hattributes⟩ | ⟨himproper, -⟩ :=
    attribute_searches_agree (r := germans) (σ := σ) (τ := withoutUsers) rfl rfl rfl default
      { default with kind := .attributes } "shop"
  · exact ⟨text, hevents, hattributes⟩
  · exact absurd hproper himproper

end StorageSettings

end Cohort
