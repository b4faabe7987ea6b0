import Cohort.Name
import Cohort.Proofs.Outcome
import Cohort.Proofs.Predicate.Leftward
import Cohort.Sql.Filter

/-!
# Checks

A check passes just under a condition, and otherwise it blames the request. Checks that are made one after the other
are a check of all their conditions, so that what a request has to meet can be told part by part. Names are checked
in this way, and so are predicates: their columns have to be made of names and their decimals have to be finite.
-/

namespace Cohort

open Outcome

@[simp] theorem QueryError.status_request (e : RequestError) : (QueryError.request e).status = 400 := by
  simp [status]

@[simp] theorem QueryError.status_catalog_request (e : RequestError) :
    (QueryError.catalog (.request e)).status = 400 := by
  simp [status]

variable {α β : Type} {P Q : Prop} {x : Except QueryError α}

/-- It succeeds just under the condition, and otherwise it fails with an error of the request. -/
def Checks (P : Prop) (x : Except QueryError α) : Prop :=
  (P ∧ ∃ a, x = .ok a) ∨ (¬P ∧ ∃ e, x = .error e ∧ e.status = 400)

namespace Checks

theorem ok (a : α) : Checks True (.ok a) := .inl ⟨trivial, a, rfl⟩

theorem error {e : QueryError} (h : e.status = 400) : Checks False (.error e : Except QueryError α) :=
  .inr ⟨not_false, e, rfl, h⟩

theorem congr (hx : Checks P x) (h : P ↔ Q) : Checks Q x := by
  rwa [propext h] at hx

theorem exists_ok (hx : Checks P x) (hP : P) : ∃ a, x = .ok a := by
  obtain ⟨-, hok⟩ | ⟨hnot, -⟩ := hx
  · exact hok
  · exact absurd hP hnot

theorem exists_error (hx : Checks P x) (hP : ¬P) : ∃ e, x = .error e := by
  obtain ⟨hholds, -⟩ | ⟨-, e, he, -⟩ := hx
  · exact absurd hholds hP
  · exact ⟨e, he⟩

theorem status_eq (hx : Checks P x) {e : QueryError} (he : x = .error e) : e.status = 400 := by
  obtain ⟨-, a, ha⟩ | ⟨-, e', he', hstatus⟩ := hx
  · rw [ha] at he
    cases he
  · rw [he'] at he
    exact Except.error.inj he ▸ hstatus

/-- The second check is made with what the first one returns. -/
theorem bind (hx : Checks P x) {f : α → Except QueryError β} (hf : ∀ a, x = .ok a → Checks Q (f a)) :
    Checks (P ∧ Q) (x >>= f) := by
  obtain ⟨hP, a, ha⟩ | ⟨hP, e, he, hstatus⟩ := hx
  · rw [ha]
    exact (hf a ha).congr (and_iff_right hP).symm
  · rw [he]
    exact .inr ⟨fun h => hP h.1, e, rfl, hstatus⟩

theorem map (hx : Checks P x) (f : α → β) : Checks P (x.map f) := by
  obtain ⟨hP, a, ha⟩ | ⟨hP, e, he, hstatus⟩ := hx
  · rw [ha]
    exact .inl ⟨hP, f a, rfl⟩
  · rw [he]
    exact .inr ⟨hP, e, rfl, hstatus⟩

/-- What comes after the check cannot fail. -/
theorem bind_ok (hx : Checks P x) (f : α → β) : Checks P (x >>= fun a => .ok (f a)) :=
  (hx.bind fun a _ => ok (f a)).congr (and_iff_left trivial)

theorem mapM {P : α → Prop} {f : α → Except QueryError β} {as : List α} (hf : ∀ a ∈ as, Checks (P a) (f a)) :
    Checks (∀ a ∈ as, P a) (as.mapM f) := by
  induction as with
  | nil => exact (ok []).congr (iff_of_true trivial (List.forall_mem_nil P))
  | cons a as ih =>
    obtain ⟨ha, has⟩ := List.forall_mem_cons.1 hf
    rw [List.mapM_cons]
    refine Checks.congr ?_ List.forall_mem_cons.symm
    exact ha.bind fun _ _ => (ih has).bind_ok _

/-- A check of a request is one of a query. -/
theorem mapError {x : Except RequestError α} (h : (∃ a, x = .ok a) ↔ P) : Checks P (x.mapError .request) := by
  refine Checks.congr ?_ h
  cases x with
  | ok a => exact .inl ⟨⟨a, rfl⟩, a, rfl⟩
  | error e => exact .inr ⟨fun ⟨_, ha⟩ => (nomatch ha), .request e, rfl, QueryError.status_request e⟩

end Checks

theorem forall_mem_none (P : α → Prop) : ∀ a ∈ (none : Option α), P a := fun _ h => nomatch h

theorem forall_mem_some_iff {P : α → Prop} {a : α} : (∀ b ∈ some a, P b) ↔ P a := by
  simp

theorem checks_identifier (kind name : String) :
    Checks (isName name = true) ((Sql.Identifier.check kind name).mapError .request) := by
  apply Checks.mapError
  constructor
  · rintro ⟨i, hi⟩
    exact (Sql.Identifier.check_eq_ok_iff.1 hi).1
  · intro hname
    exact ⟨.checked name hname, Sql.Identifier.check_eq_ok_iff.2 ⟨hname, rfl⟩⟩

theorem checks_name (kind name : String) : Checks (isName name = true) ((checkName kind name).mapError .request) := by
  apply Checks.mapError
  constructor
  · rintro ⟨result, hresult⟩
    exact (checkName_eq_ok_iff.1 hresult).1
  · intro hname
    exact ⟨name, checkName_eq_ok_iff.2 ⟨hname, rfl⟩⟩

theorem exists_checkAll_iff (kind : String) (names : List String) :
    (∃ is, Sql.checkAll kind names = .ok is) ↔ ∀ n ∈ names, isName n = true := by
  induction names with
  | nil => exact iff_of_true ⟨[], rfl⟩ (List.forall_mem_nil _)
  | cons n names ih =>
    rw [List.forall_mem_cons, ← ih, Sql.checkAll]
    simp only [bind_eq_ok_iff, pure_eq_ok_iff, Sql.Identifier.check_eq_ok_iff]
    constructor
    · rintro ⟨_, _, ⟨hname, -⟩, is, his, -⟩
      exact ⟨hname, is, his⟩
    · rintro ⟨hname, is, his⟩
      exact ⟨_, _, ⟨hname, rfl⟩, is, his, rfl⟩

namespace Predicate

/-- All columns are made of names, at least one for each, and all decimals are finite. -/
def IsProper : Predicate → Prop
  | .column parts => parts ≠ [] ∧ ∀ n ∈ parts, isName n = true
  | .literal (.decimal x) => x.isFinite = true
  | .literal _ => True
  | .binary l _ r => l.IsProper ∧ r.IsProper
  | .not p | .isNull p | .isNotNull p => p.IsProper
  | .inList p items _ => p.IsProper ∧ areProper items
  | .like p pattern _ => p.IsProper ∧ pattern.IsProper
  | .between p low high _ => p.IsProper ∧ low.IsProper ∧ high.IsProper
where
  areProper : List Predicate → Prop
    | [] => True
    | p :: ps => p.IsProper ∧ areProper ps

theorem checks_column (parts : List String) :
    Checks (IsProper (.column parts)) (Sql.Term.ofPredicate (.column parts)) := by
  unfold IsProper Sql.Term.ofPredicate
  split
  · rename_i hempty
    refine (Checks.error rfl).congr (iff_of_false not_false fun h => h.1 ?_)
    exact List.isEmpty_iff.1 hempty
  · rename_i hsome
    have hparts : parts ≠ [] := fun h => hsome (List.isEmpty_iff.2 h)
    refine Checks.congr (Checks.map ?_ _) (and_iff_right hparts).symm
    exact Checks.mapError (exists_checkAll_iff _ parts)

theorem checks_literal (v : Literal) : Checks (IsProper (.literal v)) (Sql.Term.ofPredicate (.literal v)) := by
  cases v with
  | decimal x =>
    unfold IsProper Sql.Term.ofPredicate
    split
    · rename_i hfinite
      exact (Checks.ok _).congr (iff_of_true trivial hfinite)
    · rename_i hinfinite
      exact (Checks.error rfl).congr (iff_of_false not_false hinfinite)
  | _ => exact Checks.ok _

theorem checks_ofPredicates {items : List Predicate}
    (h : ∀ p ∈ items, Checks p.IsProper (Sql.Term.ofPredicate p)) :
    Checks (IsProper.areProper items) (Sql.Term.ofPredicates items) := by
  induction items with
  | nil => exact Checks.ok []
  | cons p items ih =>
    obtain ⟨hp, hitems⟩ := List.forall_mem_cons.1 h
    exact hp.bind fun _ _ => (ih hitems).bind_ok _

/-- A predicate enters queries if and only if it is proper. -/
theorem checks_ofPredicate (p : Predicate) : Checks p.IsProper (Sql.Term.ofPredicate p) := by
  induction p using Predicate.induct with
  | column parts => exact checks_column parts
  | literal v => exact checks_literal v
  | binary l op r hl hr => exact hl.bind fun _ _ => hr.bind_ok _
  | not p hp => exact hp.bind_ok _
  | isNull p hp => exact hp.bind_ok _
  | isNotNull p hp => exact hp.bind_ok _
  | inList p items negated hp hitems => exact hp.bind fun _ _ => (checks_ofPredicates hitems).bind_ok _
  | like p pattern negated hp hpattern => exact hp.bind fun _ _ => hpattern.bind_ok _
  | between p low high negated hp hlow hhigh =>
    exact hp.bind fun _ _ => hlow.bind fun _ _ => hhigh.bind_ok _

end Predicate

end Cohort
