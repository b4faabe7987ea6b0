import Cohort.Users.Operation

/-!
# What operations come down to

A search comes down to the statement that it sends, if any, and to the engine that the statement is for. A segment
comes down to the view that it is kept as. Both can be told from the settings, the catalog and the request alone,
before anything happens to the session.
-/

namespace Cohort

variable {α β γ : Type}

namespace Session

theorem run_get_bind (f : Session → SessionM α) (σ : Session) : (get >>= f).run σ = (f σ).run σ := rfl

theorem run_lift_bind (x : Except QueryError α) (f : α → SessionM β) (σ : Session) :
    (lift x >>= f).run σ =
      match x with
      | .ok a => (f a).run σ
      | .error e => (.error e, σ) := by
  cases x with
  | ok a => rfl
  | error e => rfl

/-- What is done before the session is touched can be put together. -/
theorem run_lift_bind_assoc {x : Except QueryError α} {f : α → SessionM γ} {g : α → Except QueryError β}
    {k : β → SessionM γ} {σ : Session} (h : ∀ a, (f a).run σ = (lift (g a) >>= k).run σ) :
    (lift x >>= f).run σ = (lift (x >>= g) >>= k).run σ := by
  cases x with
  | ok a => exact h a
  | error e => rfl

/-- Sends a statement to its engine, if there is one. -/
def dispatch : Option (Target × Statement) → SessionM Rows
  | none => return .empty
  | some (target, statement) => execute target statement

theorem run_execute (target : Target) (statement : Statement) (σ : Session) :
    (execute target statement).run σ =
      ((σ.engine target).answer.mapError .execution, σ.record target statement) := by
  obtain ⟨catalog, ⟨events, _⟩, ⟨users, _⟩⟩ := σ
  cases target with
  | events =>
    cases events with
    | ok rows => rfl
    | error reason => rfl
  | users =>
    cases users with
    | ok rows => rfl
    | error reason => rfl

theorem run_onCatalog (act : CatalogM α) (σ : Session) :
    (onCatalog act).run σ =
      ((act.run σ.catalog).1.mapError .catalog, { σ with catalog := (act.run σ.catalog).2 }) := by
  change _ = ((act σ.catalog).1.mapError QueryError.catalog, { σ with catalog := (act σ.catalog).2 })
  unfold onCatalog
  rw [run_get_bind]
  obtain ⟨r, c⟩ := act σ.catalog
  cases r with
  | ok a => rfl
  | error e => rfl

end Session

namespace StorageSettings

open Session

/-- The statement of a search by attributes. -/
def attributeStatement (s : StorageSettings) (c : Catalog) (project : String) (r : SearchRequest) :
    Except QueryError (Option (Target × Statement)) := do
  let withEvents := !r.eventFilters.isEmpty
  let conditions ← Search.eventConditions s.userMapping c project r.eventFilters
  let table ← Search.userTable (if withEvents then some s.userConnector else none) project
  let q ← Search.attributeQuery table r conditions
  return some (if withEvents then .events else .users, ⟨some project, (Sql.Query.select q).text⟩)

/-- The statement of a search by events, unless there is nothing to search in. -/
def eventStatement (s : StorageSettings) (c : Catalog) (project : String) (r : SearchRequest) :
    Except QueryError (Option (Target × Statement)) := do
  let q? ← Search.eventQuery s c project r
  return q?.map fun q => (.events, ⟨some project, (Sql.Query.select q).text⟩)

/-- The statement of a search, and the engine that it is for. -/
def statement (s : StorageSettings) (c : Catalog) (project : String) (r : SearchRequest) :
    Except QueryError (Option (Target × Statement)) :=
  match s.kind with
  | .attributes =>
    if r.eventFilters.isEmpty then s.attributeStatement c project r
    else .error (.badRequest "event filters are not supported by this user storage")
  | .events => if r.filter.isSome then s.attributeStatement c project r else s.eventStatement c project r

variable (s : StorageSettings) (project : String) (σ : Session)

theorem run_searchAttributes (r : SearchRequest) :
    (s.searchAttributes project r).run σ = (lift (s.attributeStatement σ.catalog project r) >>= dispatch).run σ := by
  unfold searchAttributes attributeStatement
  rw [run_get_bind]
  refine run_lift_bind_assoc fun conditions => ?_
  refine run_lift_bind_assoc fun table => ?_
  exact run_lift_bind_assoc fun q => rfl

theorem run_searchEvents (r : SearchRequest) :
    (s.searchEvents project r).run σ =
      (lift (if r.filter.isSome then s.attributeStatement σ.catalog project r
        else s.eventStatement σ.catalog project r) >>= dispatch).run σ := by
  unfold searchEvents
  split
  · exact s.run_searchAttributes project σ r
  · rw [run_get_bind]
    refine run_lift_bind_assoc fun q? => ?_
    cases q? with
    | none => rfl
    | some q => rfl

/-- A search in the table of users is one by attributes, without event filters. -/
theorem run_searchTable (r : SearchRequest) :
    (searchTable project r).run σ =
      (lift (if r.eventFilters.isEmpty then s.attributeStatement σ.catalog project r
        else .error (.badRequest "event filters are not supported by this user storage")) >>= dispatch).run σ := by
  unfold searchTable attributeStatement
  cases r.eventFilters with
  | nil =>
    refine run_lift_bind_assoc fun table => ?_
    exact run_lift_bind_assoc fun q => rfl
  | cons f fs => rfl

theorem run_search (r : SearchRequest) :
    (s.search project r).run σ = (lift (s.statement σ.catalog project r) >>= dispatch).run σ := by
  unfold search statement
  cases s.kind with
  | attributes => exact s.run_searchTable project σ r
  | events => exact s.run_searchEvents project σ r

theorem catalog_run_dispatch (sent : Option (Target × Statement)) (σ : Session) :
    ((dispatch sent).run σ).2.catalog = σ.catalog := by
  match sent with
  | none => rfl
  | some (target, statement) =>
    rw [dispatch, run_execute]
    cases target with
    | events => rfl
    | users => rfl

theorem catalog_run_search (r : SearchRequest) : ((s.search project r).run σ).2.catalog = σ.catalog := by
  rw [run_search, run_lift_bind]
  split
  · exact catalog_run_dispatch _ σ
  · rfl

/-- The statement that creates the schema. -/
def schemaStatement : Statement := ⟨none, "CREATE SCHEMA IF NOT EXISTS users"⟩

theorem run_createSchema :
    createSchema.run σ =
      (match σ.users.answer with
        | .ok _ => .ok ()
        | .error reason => .error (.initialization
          ("unable to create schema for users: " ++ (QueryError.execution reason).message)),
        σ.record .users schemaStatement) := by
  obtain ⟨catalog, events, ⟨users, _⟩⟩ := σ
  cases users with
  | ok rows => rfl
  | error reason => rfl

/-- The view that a segment is kept as. -/
def newView (s : StorageSettings) (c : Catalog) (project : String) (r : SegmentRequest) : Except QueryError View :=
  match s.kind with
  | .attributes => .error (.badRequest "segments are not supported by this user storage")
  | .events => do
    let _ ← (checkCollection r.tableName).mapError .request
    let q ← Search.segmentQuery s c project r
    return segmentView r q

theorem run_createSegment (r : SegmentRequest) :
    (s.createSegment project r).run σ =
      (lift (s.newView σ.catalog project r) >>= fun v => onCatalog (Catalog.createView project v)).run σ := by
  unfold createSegment newView
  cases s.kind with
  | attributes => rfl
  | events =>
    refine run_lift_bind_assoc fun _ => ?_
    rw [run_get_bind]
    exact run_lift_bind_assoc fun q => rfl

end StorageSettings

namespace Operation

theorem settle_apply (encode : α → Outcome) (act : SessionM α) (σ : Session) :
    settle encode act σ = (answer encode (act.run σ).1, (act.run σ).2) := by
  change (match (act.run σ).1 with
    | .ok a => return encode a
    | .error e => return .failed e : StateM Session Outcome) (act.run σ).2 = _
  cases (act.run σ).1 with
  | ok a => rfl
  | error e => rfl

/-- The outcome of what changes the catalog, or leaves it alone. -/
def replied (encode : α → Outcome) : Except CatalogError α → Outcome
  | .ok a => encode a
  | .error e => .refused e

theorem change_apply (encode : α → Outcome) (act : CatalogM α) (σ : Session) :
    change encode act σ =
      (replied encode (act.run σ.catalog).1, { σ with catalog := (act.run σ.catalog).2 }) := by
  change (match (act.run σ.catalog).1 with
    | .ok a => return encode a
    | .error e => return .refused e : StateM Session Outcome) { σ with catalog := (act.run σ.catalog).2 } = _
  cases (act.run σ.catalog).1 with
  | ok a => rfl
  | error e => rfl

theorem runAll_cons (s : StorageSettings) (ready : Bool) (op : Operation) (ops : List Operation) (σ : Session) :
    runAll s ready (op :: ops) σ =
      ((run s ready op σ).1 :: (runAll s ready ops (run s ready op σ).2).1,
        (runAll s ready ops (run s ready op σ).2).2) := by
  unfold runAll
  rw [List.mapM_cons]
  rfl

end Operation

end Cohort
