import Cohort.Proofs.Catalog.Change
import Cohort.Proofs.Catalog.Creation
import Cohort.Proofs.Users.Dispatch

/-!
# Confinement to a project

An operation on a project reads nothing but what that project has: sessions that agree on the project give the same
outcome, are changed in the same way and send the same statements. It changes nothing but that project, and sends its
statements in the schema of the project.
-/

namespace Cohort

open Outcome

variable {α β : Type} {p : String} {c d : Catalog}

namespace Catalog

/-- Both catalogs have the same in the project. -/
structure AgreesOn (p : String) (c d : Catalog) : Prop where
  collections : c.collectionsOf p = d.collectionsOf p
  views : c.viewsOf p = d.viewsOf p

theorem AgreesOn.refl (p : String) (c : Catalog) : c.AgreesOn p c := ⟨rfl, rfl⟩

theorem AgreesOn.trans {e : Catalog} (hcd : c.AgreesOn p d) (hde : d.AgreesOn p e) : c.AgreesOn p e :=
  ⟨hcd.collections.trans hde.collections, hcd.views.trans hde.views⟩

theorem AgreesOn.symm (h : c.AgreesOn p d) : d.AgreesOn p c := ⟨h.collections.symm, h.views.symm⟩

theorem AgreesOn.fieldsOf (h : c.AgreesOn p d) (q : String) : c.fieldsOf p q = d.fieldsOf p q := by
  rw [Catalog.fieldsOf, Catalog.fieldsOf, h.collections]

end Catalog

theorem EventFilter.isMapped_of_agreesOn (h : c.AgreesOn p d) (mapping : Bool) (f : EventFilter) :
    f.isMapped mapping c p = f.isMapped mapping d p := by
  rw [isMapped, isMapped, h.fieldsOf]

theorem EventFilter.query_of_agreesOn (h : c.AgreesOn p d) (mapping : Bool) (f : EventFilter) :
    f.query mapping c p = f.query mapping d p := by
  rw [query, query, isMapped_of_agreesOn h]

namespace Search

theorem eventConditions_of_agreesOn (h : c.AgreesOn p d) (mapping : Bool) (fs : List EventFilter) :
    eventConditions mapping c p fs = eventConditions mapping d p fs := by
  induction fs with
  | nil => rfl
  | cons f fs ih =>
    rw [eventConditions, eventConditions, EventFilter.queryInProject, EventFilter.queryInProject,
      EventFilter.isMapped_of_agreesOn h, ih]

theorem eventBranches_of_agreesOn (h : c.AgreesOn p d) (mapping : Bool) (fs : List EventFilter) :
    eventBranches mapping c p fs = eventBranches mapping d p fs := by
  induction fs with
  | nil => rfl
  | cons f fs ih => rw [eventBranches, eventBranches, EventFilter.query_of_agreesOn h, ih]

theorem userCollections_of_agreesOn (h : c.AgreesOn p d) : userCollections c p = userCollections d p := by
  rw [userCollections, userCollections, h.collections]

theorem eventQuery_of_agreesOn (h : c.AgreesOn p d) (s : StorageSettings) (r : SearchRequest) :
    eventQuery s c p r = eventQuery s d p r := by
  rw [eventQuery, eventQuery, eventBranches_of_agreesOn h, userCollections_of_agreesOn h]

theorem segmentQuery_of_agreesOn (h : c.AgreesOn p d) (s : StorageSettings) (r : SegmentRequest) :
    segmentQuery s c p r = segmentQuery s d p r := by
  rw [segmentQuery, segmentQuery, eventBranches_of_agreesOn h]

end Search

namespace StorageSettings

theorem statement_of_agreesOn (h : c.AgreesOn p d) (s : StorageSettings) (r : SearchRequest) :
    s.statement c p r = s.statement d p r := by
  unfold statement attributeStatement eventStatement
  rw [Search.eventConditions_of_agreesOn h, Search.eventQuery_of_agreesOn h]

theorem newView_of_agreesOn (h : c.AgreesOn p d) (s : StorageSettings) (r : SegmentRequest) :
    s.newView c p r = s.newView d p r := by
  rw [newView, newView, Search.segmentQuery_of_agreesOn h]

end StorageSettings

/-- What an operation puts into the catalog. -/
inductive Write
  | fields (project collection : String) (fields : List Field)
  | view (project : String) (v : View)

def Write.project : Write → String
  | .fields p _ _ | .view p _ => p

namespace Catalog

/-- The catalog after a write, if there is one. -/
def written (c : Catalog) : Option Write → Catalog
  | none => c
  | some (.fields p q fs) => c.setFields p q fs
  | some (.view p v) => c.setView p v

/-- A write elsewhere leaves a project as it is. -/
theorem agreesOn_written (c : Catalog) {w : Option Write} (h : ∀ x ∈ w, x.project ≠ p) :
    (c.written w).AgreesOn p c := by
  cases w with
  | none => exact .refl p c
  | some w =>
    have hne := (h w rfl).symm
    cases w with
    | fields project collection fs =>
      exact ⟨collectionsOf_setFields_of_ne c collection fs hne, viewsOf_setFields c project collection fs p⟩
    | view project v => exact ⟨collectionsOf_setView c project v p, viewsOf_setView_of_ne c v hne⟩

theorem AgreesOn.written (h : c.AgreesOn p d) (w : Option Write) : (c.written w).AgreesOn p (d.written w) := by
  by_cases hw : ∀ x ∈ w, x.project ≠ p
  · exact (agreesOn_written c hw).trans (h.trans (agreesOn_written d hw).symm)
  · push Not at hw
    obtain ⟨w, rfl, rfl⟩ := hw
    cases w with
    | fields p q fs =>
      refine ⟨?_, h.views⟩
      change (c.setFields p q fs).collectionsOf p = (d.setFields p q fs).collectionsOf p
      rw [collectionsOf_setFields_self, collectionsOf_setFields_self]
      exact congrArg (·.insert q fs) h.collections
    | view p v =>
      refine ⟨h.collections, ?_⟩
      change (c.setView p v).viewsOf p = (d.setView p v).viewsOf p
      rw [viewsOf_setView_self, viewsOf_setView_self]
      exact congrArg (·.insert v.tableName v) h.views

/-- In catalogs that agree on the project, it returns the same and writes the same, into that project. -/
def IsConfined (p : String) (act : CatalogM α) : Prop :=
  ∀ c d : Catalog, c.AgreesOn p d →
    ∃ r w, (∀ x ∈ w, x.project = p) ∧ act.run c = (r, c.written w) ∧ act.run d = (r, d.written w)

theorem isConfined_createCollection (p q : String) (fs : List Field) : IsConfined p (createCollection p q fs) := by
  intro c d h
  rw [run_createCollection, run_createCollection, h.collections]
  cases checkNames p q fs with
  | error e => exact ⟨_, none, by simp, rfl, rfl⟩
  | ok _ =>
    dsimp only
    split
    · exact ⟨_, none, by simp, rfl, rfl⟩
    · exact ⟨_, some (.fields p q fs), by simp [Write.project], rfl, rfl⟩

theorem isConfined_addFields (p q : String) (fs : List Field) : IsConfined p (addFields p q fs) := by
  intro c d h
  rw [run_addFields, run_addFields, h.fieldsOf]
  cases checkNames p q fs with
  | error e => exact ⟨_, none, by simp, rfl, rfl⟩
  | ok _ => exact ⟨_, some (.fields p q _), by simp [Write.project], rfl, rfl⟩

theorem isConfined_createView (p : String) (v : View) : IsConfined p (createView p v) := by
  intro c d h
  rw [run_createView, run_createView, h.views]
  split
  · exact ⟨_, none, by simp, rfl, rfl⟩
  · exact ⟨_, none, by simp, rfl, rfl⟩
  · split
    · exact ⟨_, none, by simp, rfl, rfl⟩
    · exact ⟨_, some (.view p v), by simp [Write.project], rfl, rfl⟩

theorem isConfined_view (p tableName : String) : IsConfined p (view p tableName) := by
  intro c d h
  rw [run_view, run_view, h.views]
  split
  · exact ⟨_, none, by simp, rfl, rfl⟩
  · exact ⟨_, none, by simp, rfl, rfl⟩

end Catalog

/-! ## Operations on one project -/

/-- What an operation does besides returning something. -/
structure Effect where
  written : Option Write
  sent : Target → List Statement

namespace Effect

def writing (w : Option Write) : Effect := ⟨w, fun _ => []⟩

def nothing : Effect := writing none

def sending (target : Target) (statement : Statement) : Effect :=
  ⟨none, fun t => if t = target then [statement] else []⟩

/-- Nothing is done outside the project, or outside all projects. -/
structure IsIn (project : Option String) (e : Effect) : Prop where
  written : ∀ w ∈ e.written, some w.project = project
  sent : ∀ target, ∀ statement ∈ e.sent target, statement.project = project

theorem isIn_nothing (project : Option String) : nothing.IsIn project :=
  ⟨fun _ h => (nomatch h), fun _ => List.forall_mem_nil _⟩

theorem isIn_sending (target : Target) (statement : Statement) :
    (sending target statement).IsIn statement.project := by
  refine ⟨fun _ h => (nomatch h), fun t x hx => ?_⟩
  change x ∈ if t = target then [statement] else [] at hx
  split at hx
  · rw [List.mem_singleton.1 hx]
  · cases hx

theorem isIn_writing {w : Option Write} {p : String} (h : ∀ x ∈ w, x.project = p) : (writing w).IsIn (some p) :=
  ⟨fun x hx => congrArg some (h x hx), fun _ => List.forall_mem_nil _⟩

end Effect

namespace Engine

def receive (e : Engine) (ss : List Statement) : Engine := { e with statements := e.statements ++ ss }

@[simp] theorem receive_nil (e : Engine) : e.receive [] = e := by
  simp [receive]

end Engine

namespace Session

/-- The session after an effect. -/
def after (σ : Session) (e : Effect) : Session :=
  { catalog := σ.catalog.written e.written
    events := σ.events.receive (e.sent .events)
    users := σ.users.receive (e.sent .users) }

theorem after_writing (σ : Session) (w : Option Write) :
    σ.after (.writing w) = { σ with catalog := σ.catalog.written w } := by
  simp [after, Effect.writing]

theorem after_nothing (σ : Session) : σ.after .nothing = σ := after_writing σ none

theorem record_eq_after (σ : Session) (target : Target) (statement : Statement) :
    σ.record target statement = σ.after (.sending target statement) := by
  cases target with
  | events => simp [record, after, Effect.sending, Catalog.written, Engine.receive, Engine.record]
  | users => simp [record, after, Effect.sending, Catalog.written, Engine.receive, Engine.record]

theorem engine_after (σ : Session) (e : Effect) (target : Target) :
    (σ.after e).engine target = (σ.engine target).receive (e.sent target) := by
  cases target with
  | events => rfl
  | users => rfl

/-- Both sessions have the same in the project, and engines that answer in the same way. -/
structure AgreesOn (p : String) (σ τ : Session) : Prop where
  catalog : σ.catalog.AgreesOn p τ.catalog
  answer : ∀ target, (σ.engine target).answer = (τ.engine target).answer

theorem AgreesOn.refl (p : String) (σ : Session) : σ.AgreesOn p σ := ⟨.refl p σ.catalog, fun _ => rfl⟩

/-- In sessions that agree on the project, it returns the same and does the same, to that project. -/
def IsConfined (p : String) (f : Session → α × Session) : Prop :=
  ∀ σ τ : Session, σ.AgreesOn p τ → ∃ a e, Effect.IsIn (some p) e ∧ f σ = (a, σ.after e) ∧ f τ = (a, τ.after e)

variable {f : Session → α × Session}

/-- What only reads the project is confined to it. -/
theorem isConfined_of_reads {g : Session → α} (hg : ∀ σ τ : Session, σ.catalog.AgreesOn p τ.catalog → g σ = g τ)
    (hf : ∀ σ, f σ = (g σ, σ)) : IsConfined p f := by
  intro σ τ hagree
  refine ⟨g σ, .nothing, Effect.isIn_nothing _, ?_, ?_⟩
  · rw [hf, after_nothing]
  · rw [hf, after_nothing, hg σ τ hagree.catalog]

/-- What is confined may return something else instead. -/
theorem IsConfined.map {g : Session → β × Session} (hf : IsConfined p f) (encode : α → β)
    (hg : ∀ σ, g σ = (encode (f σ).1, (f σ).2)) : IsConfined p g := by
  intro σ τ hagree
  obtain ⟨a, e, he, hσ, hτ⟩ := hf σ τ hagree
  refine ⟨encode a, e, he, ?_, ?_⟩
  · rw [hg, hσ]
  · rw [hg, hτ]

/-- What is confined on the catalog is confined on the session. -/
theorem isConfined_of_isConfined_catalog {act : CatalogM β} (hact : Catalog.IsConfined p act)
    (encode : Except CatalogError β → α)
    (hf : ∀ σ, f σ = (encode (act.run σ.catalog).1, { σ with catalog := (act.run σ.catalog).2 })) :
    IsConfined p f := by
  intro σ τ hagree
  obtain ⟨r, w, hw, hσ, hτ⟩ := hact _ _ hagree.catalog
  refine ⟨encode r, .writing w, Effect.isIn_writing hw, ?_, ?_⟩
  · rw [hf, hσ, after_writing]
  · rw [hf, hτ, after_writing]

theorem isConfined_execute (target : Target) {statement : Statement} (h : statement.project = some p) :
    IsConfined p (execute target statement).run := by
  intro σ τ hagree
  refine ⟨(τ.engine target).answer.mapError .execution, .sending target statement, ?_, ?_, ?_⟩
  · exact h ▸ Effect.isIn_sending target statement
  · rw [run_execute, record_eq_after, hagree.answer target]
  · rw [run_execute, record_eq_after]

/-- What is checked beforehand, in the same way for all sessions that agree, does not matter. -/
theorem isConfined_lift_bind {x : Session → Except QueryError α} {k : α → SessionM β}
    (hx : ∀ σ τ : Session, σ.catalog.AgreesOn p τ.catalog → x σ = x τ)
    (hk : ∀ σ a, x σ = .ok a → IsConfined p (k a).run) : IsConfined p fun σ => (lift (x σ) >>= k).run σ := by
  intro σ τ hagree
  dsimp only
  rw [run_lift_bind, run_lift_bind, hx σ τ hagree.catalog]
  cases hx : x τ with
  | error e => exact ⟨_, .nothing, Effect.isIn_nothing _, by rw [after_nothing], by rw [after_nothing]⟩
  | ok a => exact hk τ a hx σ τ hagree

end Session

namespace StorageSettings

open Session

theorem project_of_attributeStatement {s : StorageSettings} {r : SearchRequest} {sent : Target × Statement}
    (h : s.attributeStatement c p r = .ok (some sent)) : sent.2.project = some p := by
  obtain ⟨conditions, -, h⟩ := bind_eq_ok_iff.1 h
  obtain ⟨table, -, h⟩ := bind_eq_ok_iff.1 h
  obtain ⟨q, -, h⟩ := bind_eq_ok_iff.1 h
  cases pure_eq_ok_iff.1 h
  rfl

theorem project_of_eventStatement {s : StorageSettings} {r : SearchRequest} {sent : Target × Statement}
    (h : s.eventStatement c p r = .ok (some sent)) : sent.2.project = some p := by
  obtain ⟨q?, -, h⟩ := bind_eq_ok_iff.1 h
  obtain ⟨q, -, rfl⟩ := Option.map_eq_some_iff.1 (pure_eq_ok_iff.1 h)
  rfl

/-- A search sends its statement in the schema of the project. -/
theorem project_of_statement {s : StorageSettings} {r : SearchRequest} {sent : Target × Statement}
    (h : s.statement c p r = .ok (some sent)) : sent.2.project = some p := by
  unfold statement at h
  split at h
  · split at h
    · exact project_of_attributeStatement h
    · cases h
  · split at h
    · exact project_of_attributeStatement h
    · exact project_of_eventStatement h

/-- A search is refused, or it has nothing to search in, or it sends one statement and returns what the engine
answers. -/
theorem run_search_cases (s : StorageSettings) (p : String) (r : SearchRequest) (σ : Session) :
    (∃ e, s.statement σ.catalog p r = .error e ∧ (s.search p r).run σ = (.error e, σ)) ∨
      (s.statement σ.catalog p r = .ok none ∧ (s.search p r).run σ = (.ok .empty, σ)) ∨
      ∃ target text, s.statement σ.catalog p r = .ok (some (target, ⟨some p, text⟩)) ∧
        (s.search p r).run σ =
          ((σ.engine target).answer.mapError .execution, σ.record target ⟨some p, text⟩) := by
  rw [run_search, run_lift_bind]
  cases hsent : s.statement σ.catalog p r with
  | error e => exact .inl ⟨e, rfl, rfl⟩
  | ok sent =>
    cases sent with
    | none => exact .inr (.inl ⟨rfl, rfl⟩)
    | some x =>
      obtain ⟨target, project, text⟩ := x
      obtain rfl : project = some p := project_of_statement hsent
      exact .inr (.inr ⟨target, text, rfl, run_execute target ⟨some p, text⟩ σ⟩)

theorem isConfined_search (s : StorageSettings) (p : String) (r : SearchRequest) :
    Session.IsConfined p (s.search p r).run := by
  have h : (s.search p r).run = fun σ => (lift (s.statement σ.catalog p r) >>= dispatch).run σ :=
    funext fun σ => s.run_search p σ r
  rw [h]
  refine isConfined_lift_bind (fun σ τ hagree => s.statement_of_agreesOn hagree r) fun σ sent hsent => ?_
  cases sent with
  | none => exact isConfined_of_reads (fun _ _ _ => rfl) fun _ => rfl
  | some sent => exact isConfined_execute sent.1 (project_of_statement hsent)

theorem isConfined_createSegment (s : StorageSettings) (p : String) (r : SegmentRequest) :
    Session.IsConfined p (s.createSegment p r).run := by
  have h : (s.createSegment p r).run = fun σ =>
      (lift (s.newView σ.catalog p r) >>= fun v => onCatalog (Catalog.createView p v)).run σ :=
    funext fun σ => s.run_createSegment p σ r
  rw [h]
  refine isConfined_lift_bind (fun σ τ hagree => s.newView_of_agreesOn hagree r) fun σ v hv => ?_
  exact isConfined_of_isConfined_catalog (Catalog.isConfined_createView p v) (·.mapError .catalog) (run_onCatalog _)

end StorageSettings

namespace Operation

open Session

variable (s : StorageSettings) (ready : Bool)

theorem isConfined_settle {act : SessionM α} (h : Session.IsConfined p act.run) (encode : α → Outcome) :
    Session.IsConfined p (settle encode act) :=
  h.map (answer encode) (settle_apply encode act)

theorem isConfined_change {act : CatalogM α} (h : Catalog.IsConfined p act) (encode : α → Outcome) :
    Session.IsConfined p (change encode act) :=
  isConfined_of_isConfined_catalog h (replied encode) (change_apply encode act)

/-- An operation on a project is confined to it. -/
theorem isConfined_run {op : Operation} (hop : op.project? = some p) : Session.IsConfined p (run s ready op) := by
  cases op with
  | search q r =>
    cases hop
    cases ready with
    | false => exact isConfined_of_reads (fun _ _ _ => rfl) fun _ => rfl
    | true => exact isConfined_settle (s.isConfined_search p r) .rows
  | segment q r =>
    cases hop
    cases ready with
    | false => exact isConfined_of_reads (fun _ _ _ => rfl) fun _ => rfl
    | true => exact isConfined_settle (s.isConfined_createSegment p r) fun _ => .done
  | searchQuery q r =>
    cases hop
    refine isConfined_of_reads (fun σ τ h => ?_) fun _ => rfl
    rw [Search.eventQuery_of_agreesOn h]
  | segmentQuery q r =>
    cases hop
    refine isConfined_of_reads (fun σ τ h => ?_) fun _ => rfl
    rw [Search.segmentQuery_of_agreesOn h]
  | filterQuery q f =>
    cases hop
    refine isConfined_of_reads (fun σ τ h => ?_) fun _ => rfl
    rw [EventFilter.query_of_agreesOn h]
  | eventConditions q fs =>
    cases hop
    refine isConfined_of_reads (fun σ τ h => ?_) fun _ => rfl
    rw [Search.eventConditions_of_agreesOn h]
  | userTable q withEvents =>
    cases hop
    exact isConfined_of_reads (fun _ _ _ => rfl) fun _ => rfl
  | createSchema => cases hop
  | createView q v =>
    cases hop
    exact isConfined_change (Catalog.isConfined_createView p v) fun _ => .done
  | view q t =>
    cases hop
    exact isConfined_change (Catalog.isConfined_view p t) .view
  | views q =>
    cases hop
    refine isConfined_of_reads (fun σ τ h => ?_) fun _ => rfl
    rw [h.views]
  | createCollection q c fs =>
    cases hop
    exact isConfined_change (Catalog.isConfined_createCollection p c fs) .fields
  | addFields q c fs =>
    cases hop
    exact isConfined_change (Catalog.isConfined_addFields p c fs) .fields
  | fields q c =>
    cases hop
    refine isConfined_of_reads (fun σ τ h => ?_) fun _ => rfl
    rw [h.fieldsOf]
  | collections q =>
    cases hop
    refine isConfined_of_reads (fun σ τ h => ?_) fun _ => rfl
    rw [h.collections]

/-- What an operation does is confined to its project, or to none if it has none. -/
theorem exists_effect_of_run (op : Operation) (σ : Session) :
    ∃ o e, Effect.IsIn op.project? e ∧ run s ready op σ = (o, σ.after e) := by
  cases hop : op.project? with
  | some p =>
    obtain ⟨o, e, he, hrun, -⟩ := isConfined_run s ready hop σ σ (.refl p σ)
    exact ⟨o, e, he, hrun⟩
  | none =>
    -- the creation of the schema is the only operation on no project
    cases op with
    | createSchema =>
      let statement := StorageSettings.schemaStatement
      refine ⟨answer (fun _ => .done) (StorageSettings.createSchema.run σ).1, .sending .users statement,
        Effect.isIn_sending .users statement, ?_⟩
      rw [run, settle_apply, StorageSettings.run_createSchema, record_eq_after]
    | _ => cases hop

end Operation

end Cohort
