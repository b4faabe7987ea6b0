import Cohort.Proofs.Users.Confinement

/-!
# Isolation of projects

The journal of a run has an entry for each operation: what it returned, and what it sent to which engine. The entries
of one project are the journal of its own operations. So whatever others ask for their projects in between, and
whether it succeeds or not, makes no difference to it.
-/

namespace Cohort

variable {p : String} {σ τ : Session}

namespace Session

/-- The session, with engines that answer in a new way from now on. -/
def answering (σ : Session) (answers : Target → Except String Rows) : Session :=
  { σ with
    events := { σ.events with answer := answers .events }
    users := { σ.users with answer := answers .users } }

/-- How the engines of the session answer. -/
def answers (σ : Session) (target : Target) : Except String Rows := (σ.engine target).answer

@[simp] theorem answering_answers (σ : Session) : σ.answering σ.answers = σ := rfl

@[simp] theorem answers_after (σ : Session) (e : Effect) : (σ.after e).answers = σ.answers := by
  funext target
  rw [answers, engine_after, answers, Engine.receive]

theorem agreesOn_answering (h : σ.catalog.AgreesOn p τ.catalog) (answers : Target → Except String Rows) :
    (σ.answering answers).AgreesOn p (τ.answering answers) :=
  ⟨h, fun target => by cases target <;> rfl⟩

end Session

namespace Operation

/-- What can be seen of an operation. -/
structure Entry where
  operation : Operation
  outcome : Outcome
  sent : Target → List Statement

/-- Runs an operation and tells what could be seen. -/
def entry (s : StorageSettings) (ready : Bool) (op : Operation) (σ : Session) : Entry :=
  let (o, τ) := run s ready op σ
  ⟨op, o, fun target => (τ.engine target).statements.drop (σ.engine target).statements.length⟩

/-- Runs operations one after the other, while the engines may change how they answer. -/
def journal (s : StorageSettings) (ready : Bool) :
    List ((Target → Except String Rows) × Operation) → Session → List Entry
  | [], _ => []
  | (answers, op) :: steps, σ =>
    entry s ready op (σ.answering answers) :: journal s ready steps (run s ready op (σ.answering answers)).2

variable {s : StorageSettings} {ready : Bool}

theorem entry_of_run {op : Operation} {o : Outcome} {e : Effect} (h : run s ready op σ = (o, σ.after e)) :
    entry s ready op σ = ⟨op, o, e.sent⟩ := by
  unfold entry
  rw [h]
  simp [Session.engine_after, Engine.receive]

/-- With engines that never change how they answer, the journal tells what a run returns and sends. -/
theorem runAll_eq_journal (ops : List Operation) (σ : Session) :
    (runAll s ready ops σ).1 = (journal s ready (ops.map (σ.answers, ·)) σ).map (·.outcome) ∧
      ∀ target, ((runAll s ready ops σ).2.engine target).statements =
        (σ.engine target).statements ++ (journal s ready (ops.map (σ.answers, ·)) σ).flatMap (·.sent target) := by
  induction ops generalizing σ with
  | nil => exact ⟨rfl, fun target => (List.append_nil _).symm⟩
  | cons op ops ih =>
    obtain ⟨o, e, -, hrun⟩ := exists_effect_of_run s ready op σ
    have hjournal : journal s ready ((op :: ops).map (σ.answers, ·)) σ =
        ⟨op, o, e.sent⟩ :: journal s ready (ops.map ((σ.after e).answers, ·)) (σ.after e) := by
      rw [List.map_cons, journal, Session.answering_answers, entry_of_run hrun, hrun, Session.answers_after]
    obtain ⟨houtcomes, hsent⟩ := ih (σ.after e)
    rw [runAll_cons, hrun, hjournal]
    refine ⟨congrArg (o :: ·) houtcomes, fun target => ?_⟩
    rw [hsent target, Session.engine_after, List.flatMap_cons, Engine.receive, List.append_assoc]

/-- Whether the operation is one on the project. -/
def isOn (p : String) (op : Operation) : Bool := op.project? == some p

/-- Operations on other projects can be left out, before the run and in between. -/
theorem filter_journal_of_agreesOn (h : σ.catalog.AgreesOn p τ.catalog)
    (steps : List ((Target → Except String Rows) × Operation)) :
    (journal s ready steps σ).filter (·.operation.isOn p) = journal s ready (steps.filter (·.2.isOn p)) τ := by
  induction steps generalizing σ τ with
  | nil => rfl
  | cons step steps ih =>
    obtain ⟨answers, op⟩ := step
    by_cases hop : op.isOn p = true
    · obtain ⟨o, e, -, hσ, hτ⟩ :=
        isConfined_run s ready (eq_of_beq hop) _ _ (Session.agreesOn_answering h answers)
      have hsteps : ((answers, op) :: steps).filter (·.2.isOn p) = (answers, op) :: steps.filter (·.2.isOn p) :=
        List.filter_cons_of_pos hop
      rw [hsteps, journal, journal, entry_of_run hσ, entry_of_run hτ, hσ, hτ]
      refine (List.filter_cons_of_pos ?_).trans (congrArg (_ :: ·) (ih (h.written e.written)))
      exact hop
    · obtain ⟨o, e, he, hσ⟩ := exists_effect_of_run s ready op (σ.answering answers)
      have helse : ∀ w ∈ e.written, w.project ≠ p := by
        rintro w hw rfl
        exact hop (beq_iff_eq.2 (he.written w hw).symm)
      have hsteps : ((answers, op) :: steps).filter (·.2.isOn p) = steps.filter (·.2.isOn p) :=
        List.filter_cons_of_neg hop
      rw [hsteps, journal, entry_of_run hσ, hσ]
      refine (List.filter_cons_of_neg ?_).trans (ih ((Catalog.agreesOn_written σ.catalog helse).trans h))
      exact hop

/-- The part of a project in the journal of any operations, with engines that answer in any way, is the journal of its
own operations from the same session. -/
theorem filter_journal (s : StorageSettings) (ready : Bool) (p : String)
    (steps : List ((Target → Except String Rows) × Operation)) (σ : Session) :
    (journal s ready steps σ).filter (·.operation.isOn p) = journal s ready (steps.filter (·.2.isOn p)) σ :=
  filter_journal_of_agreesOn (.refl p σ.catalog) steps

end Operation

end Cohort
