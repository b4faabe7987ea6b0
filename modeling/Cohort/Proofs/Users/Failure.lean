import Cohort.Proofs.Users.Admission
import Cohort.Proofs.Users.Confinement
import Cohort.Proofs.Users.Segments

/-!
# Whose fault a failure is

The status of an error tells whose fault it is. A search or a segment that is refused is to blame itself; apart from
that, an engine may fail on the statement that it has been sent, and a segment may find its place taken. There are no
faults of the storage, under any settings and in any session.
-/

namespace Cohort

open Outcome

variable {p : String} {c : Catalog} {e : QueryError} {σ : Session}

/-- A view is refused for its names, or for another view in its place. -/
theorem Catalog.status_of_createView {v : View} {e : CatalogError} (h : ((createView p v).run c).1 = .error e) :
    (QueryError.catalog e).status = 400 ∨
      (QueryError.catalog e).status = 409 ∧ isName p = true ∧ (c.viewsOf p).contains v.tableName = true := by
  rw [run_createView] at h
  split at h
  · cases h
    exact .inl (QueryError.status_catalog_request _)
  · cases h
    exact .inl (QueryError.status_catalog_request _)
  · rename_i hproject _
    split at h
    · rename_i htaken
      cases h
      exact .inr ⟨rfl, (checkName_eq_ok_iff.1 hproject).1, htaken⟩
    · cases h

theorem Catalog.run_createView_of_error {v : View} {e : CatalogError} (h : ((createView p v).run c).1 = .error e) :
    ((createView p v).run c).2 = c := by
  obtain ⟨e', he⟩ | ⟨-, hcreate⟩ := run_createView_cases p v c
  · rw [he]
  · rw [hcreate] at h
    cases h

namespace StorageSettings

open Session

variable (s : StorageSettings)

theorem status_of_search {r : SearchRequest} (h : ((s.search p r).run σ).1 = .error e) :
    (e.status = 400 ∧ ((s.search p r).run σ).2 = σ) ∨
      (e.status = 502 ∧ ∃ target text reason, ((s.search p r).run σ).2 = σ.record target ⟨some p, text⟩ ∧
        (σ.engine target).answer = .error reason ∧ e = .execution reason) := by
  obtain ⟨e', hrefused, hrun⟩ | ⟨-, hrun⟩ | ⟨target, text, -, hrun⟩ := s.run_search_cases p r σ
  · rw [hrun] at h ⊢
    cases h
    exact .inl ⟨s.status_of_statement _ p hrefused, rfl⟩
  · rw [hrun] at h
    cases h
  · rw [hrun] at h ⊢
    obtain ⟨reason, hreason, rfl⟩ := mapError_eq_error_iff.1 h
    exact .inr ⟨rfl, target, text, reason, rfl, hreason, rfl⟩

theorem status_of_createSegment {r : SegmentRequest} (h : ((s.createSegment p r).run σ).1 = .error e) :
    ((s.createSegment p r).run σ).2 = σ ∧
      (e.status = 400 ∨
        e.status = 409 ∧ isName p = true ∧ (σ.catalog.viewsOf p).contains r.tableName = true) := by
  rw [run_createSegment, run_lift_bind] at h ⊢
  split at h
  · rename_i v hv
    obtain ⟨q, -, hsegment⟩ := newView_eq_ok hv
    have htable : v.tableName = r.tableName := congrArg View.tableName hsegment
    rw [run_onCatalog] at h ⊢
    obtain ⟨failure, hfailure, rfl⟩ := mapError_eq_error_iff.1 h
    rw [← htable]
    exact ⟨congrArg (fun c => { σ with catalog := c }) (Catalog.run_createView_of_error hfailure),
      Catalog.status_of_createView hfailure⟩
  · rename_i hrefused
    cases h
    exact ⟨rfl, .inl ((checks_newView p r).status_eq hrefused)⟩

/-- Whatever the settings, the session, the project and the request are: a search that fails is refused as a bad
request before anything is sent, or its engine fails on the one statement that it has been sent, and reports its reason.
A segment that fails changes nothing; it is a bad request, or there is a view in its place already, in a project with a
proper name. -/
theorem status_of_failure (σ : Session) (p : String) :
    (∀ (r : SearchRequest) (e : QueryError), ((s.search p r).run σ).1 = .error e →
      (e.status = 400 ∧ ((s.search p r).run σ).2 = σ) ∨
        (e.status = 502 ∧ ∃ target text reason, ((s.search p r).run σ).2 = σ.record target ⟨some p, text⟩ ∧
          (σ.engine target).answer = .error reason ∧ e = .execution reason)) ∧
    ∀ (r : SegmentRequest) (e : QueryError), ((s.createSegment p r).run σ).1 = .error e →
      ((s.createSegment p r).run σ).2 = σ ∧
        (e.status = 400 ∨
          e.status = 409 ∧ isName p = true ∧ (σ.catalog.viewsOf p).contains r.tableName = true) := by
  constructor
  · intro r e h
    exact s.status_of_search h
  · intro r e h
    exact s.status_of_createSegment h

/-- A session whose events cannot be searched. -/
def withoutEvents : Session := ⟨.empty, ⟨.error "unreachable", []⟩, Inhabited.default⟩

/-- A search for everyone who visited a shop. -/
def visitors : SearchRequest := ⟨[], none, [⟨"visits", none, none, none⟩], none, SearchRequest.defaultLimit, none⟩

theorem status_of_failure_visitors :
    ∃ e, ((default.search "shop" visitors).run withoutEvents).1 = .error e ∧ e.status = 502 ∧
      ∃ target text reason, ((default.search "shop" visitors).run withoutEvents).2 =
        withoutEvents.record target ⟨some "shop", text⟩ ∧
        (withoutEvents.engine target).answer = .error reason ∧ e = .execution reason := by
  have hfails : ((default.search "shop" visitors).run withoutEvents).1 = .error (.execution "unreachable") :=
    rfl
  have hstatus := (status_of_failure default withoutEvents "shop").1 visitors _ hfails
  exact ⟨_, hfails, hstatus.resolve_left fun h => absurd h.1 (by decide)⟩

end StorageSettings

end Cohort
