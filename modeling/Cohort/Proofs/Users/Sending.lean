import Cohort.Proofs.Users.Admission
import Cohort.Proofs.Users.Reached

/-!
# What a search sends

A search that is not admitted is refused before anything is sent. One that is admitted sends one statement to the
engine that it is for, in the schema of its project, and returns what that engine answers; if there is nothing to
search in, it sends none and finds no users.
-/

namespace Cohort

open Outcome

variable {s : StorageSettings} {c : Catalog} {p : String} {r : SearchRequest} {σ τ : Session}

namespace Session

theorem record_ne_self (σ : Session) (target : Target) (statement : Statement) : σ.record target statement ≠ σ := by
  intro h
  have hstatements := congrArg (fun τ => (τ.engine target).statements.length) h
  cases target <;> simp [record, engine, Engine.record] at hstatements

theorem eq_of_record_eq_record {target other : Target} {statement x : Statement}
    (h : σ.record target statement = σ.record other x) : target = other := by
  have hstatements := congrArg (fun τ => (τ.engine target).statements.length) h
  cases target <;> cases other <;> simp [record, engine, Engine.record] at hstatements ⊢

end Session

namespace StorageSettings

open Session

/-- The engine that a search is for, unless there is nothing to search in. -/
def recipient (s : StorageSettings) (c : Catalog) (p : String) (r : SearchRequest) : Option Target :=
  match s.kind with
  | .attributes => some .users
  | .events =>
    if r.filter.isSome then some (if r.eventFilters.isEmpty then .users else .events)
    else if r.eventFilters.isEmpty ∧ (Search.userCollections c p).isEmpty then none
    else some .events

theorem recipient_of_attributes (h : s.kind = .attributes) : s.recipient c p r = some .users := by
  unfold recipient
  rw [h]

theorem recipient_of_events (h : s.kind = .events) :
    s.recipient c p r =
      if r.filter.isSome then some (if r.eventFilters.isEmpty then .users else .events)
      else if r.eventFilters.isEmpty ∧ (Search.userCollections c p).isEmpty then none
      else some .events := by
  unfold recipient
  rw [h]

theorem recipient_eq_users_iff (h : s.kind = .events) :
    s.recipient c p r = some .users ↔ r.filter.isSome = true ∧ r.eventFilters = [] := by
  rw [recipient_of_events h]
  cases r.filter <;> cases r.eventFilters <;> simp

theorem recipient_eq_none_iff (h : s.kind = .events) :
    s.recipient c p r = none ↔ r.filter = none ∧ r.eventFilters = [] ∧ ¬c.HasUsers p := by
  rw [recipient_of_events h, ← Search.isEmpty_userCollections_iff]
  cases r.filter <;> cases r.eventFilters <;> simp

theorem recipient_eq_events_iff (h : s.kind = .events) :
    s.recipient c p r = some .events ↔ r.eventFilters ≠ [] ∨ r.filter = none ∧ c.HasUsers p := by
  rw [recipient_of_events h, ← not_not (a := c.HasUsers p), ← Search.isEmpty_userCollections_iff]
  cases r.filter <;> cases r.eventFilters <;> simp

theorem target_of_attributeStatement {sent : Option (Target × Statement)}
    (h : s.attributeStatement c p r = .ok sent) :
    sent.map Prod.fst = some (if r.eventFilters.isEmpty then .users else .events) := by
  obtain ⟨conditions, -, h⟩ := bind_eq_ok_iff.1 h
  obtain ⟨table, -, h⟩ := bind_eq_ok_iff.1 h
  obtain ⟨q, -, h⟩ := bind_eq_ok_iff.1 h
  cases pure_eq_ok_iff.1 h
  cases r.eventFilters with
  | nil => rfl
  | cons f fs => rfl

/-- There is no query only if there is nothing to search in. -/
theorem isNone_of_eventQuery {q? : Option Sql.Select} (h : Search.eventQuery s c p r = .ok q?) :
    q?.isNone = true ↔ r.eventFilters.isEmpty = true ∧ (Search.userCollections c p).isEmpty = true := by
  have hcolumn : isName s.identifierColumn = true := by
    obtain ⟨⟨hcolumn, -⟩, -⟩ | ⟨-, e, he, -⟩ := Search.checks_eventQuery s c p r
    · exact hcolumn
    · cases h.symm.trans he
  have hnone : Search.eventQuery s c p r = .ok none ↔ _ := Search.eventQuery_eq_none_iff
  rw [and_iff_right hcolumn, h, Except.ok.injEq] at hnone
  rw [Option.isNone_iff_eq_none, hnone]

theorem target_of_eventStatement {sent : Option (Target × Statement)} (h : s.eventStatement c p r = .ok sent) :
    sent.map Prod.fst =
      if r.eventFilters.isEmpty ∧ (Search.userCollections c p).isEmpty then none else some .events := by
  obtain ⟨q?, hq, h⟩ := bind_eq_ok_iff.1 h
  cases pure_eq_ok_iff.1 h
  have hnone := isNone_of_eventQuery hq
  cases q? with
  | none => rw [if_pos (hnone.1 rfl)]; rfl
  | some q => rw [if_neg fun h => Bool.false_ne_true (hnone.2 h)]; rfl

/-- A statement is for the engine that the search is for. -/
theorem target_of_statement {sent : Option (Target × Statement)} (h : s.statement c p r = .ok sent) :
    sent.map Prod.fst = s.recipient c p r := by
  unfold statement at h
  split at h
  · rename_i hkind
    split at h
    · rename_i hempty
      rw [recipient_of_attributes hkind, target_of_attributeStatement h, if_pos hempty]
    · cases h
  · rename_i hkind
    rw [recipient_of_events hkind]
    split at h
    · rename_i hfilter
      rw [if_pos hfilter, target_of_attributeStatement h]
    · rename_i hfilter
      rw [if_neg hfilter, target_of_eventStatement h]

/-- Gives one statement to the engine, in the schema of the project, and returns what the engine answers. -/
def SendsTo (s : StorageSettings) (σ : Session) (p : String) (r : SearchRequest) (target : Target) : Prop :=
  ∃ text, (s.search p r).run σ =
    ((σ.engine target).answer.mapError .execution, σ.record target ⟨some p, text⟩)

theorem validate_of_prepare (h : (s.prepare.run τ).1 = .ok ()) : s.validate = .ok () := by
  unfold prepare at h
  rw [run_lift_bind] at h
  split at h
  · rename_i hvalid
    exact mapError_eq_ok_iff.1 hvalid
  · cases h

/-- Nothing happens to a session in which a search is refused. -/
theorem run_search_of_not_admits (hs : s.validate = .ok ()) (hσ : σ.catalog.IsWellNamed)
    (h : ¬s.Admits σ.catalog p r) : ∃ e, (s.search p r).run σ = (.error e, σ) := by
  obtain ⟨e, he⟩ := (checks_statement p hs hσ r).exists_error h
  rw [run_search, run_lift_bind, he]
  exact ⟨e, rfl⟩

theorem run_search_of_admits (hs : s.validate = .ok ()) (hσ : σ.catalog.IsWellNamed)
    (h : s.Admits σ.catalog p r) :
    s.recipient σ.catalog p r = none ∧ (s.search p r).run σ = (.ok .empty, σ) ∨
      ∃ target, s.recipient σ.catalog p r = some target ∧ s.SendsTo σ p r target := by
  obtain ⟨sent, hsent⟩ := (checks_statement p hs hσ r).exists_ok h
  obtain ⟨e, hrefused, -⟩ | ⟨hnone, hrun⟩ | ⟨target, text, hsome, hrun⟩ := s.run_search_cases p r σ
  · rw [hsent] at hrefused
    cases hrefused
  · exact .inl ⟨(target_of_statement hnone).symm, hrun⟩
  · exact .inr ⟨target, (target_of_statement hsome).symm, text, hrun⟩

/-- A search that is admitted sends a statement to the engine that it is for, and to no other one. -/
theorem sendsTo_iff (hs : s.validate = .ok ()) (hσ : σ.catalog.IsWellNamed) (h : s.Admits σ.catalog p r)
    (target : Target) : s.SendsTo σ p r target ↔ s.recipient σ.catalog p r = some target := by
  obtain ⟨hnone, hrun⟩ | ⟨other, hother, text, hrun⟩ := run_search_of_admits hs hσ h
  · rw [hnone]
    refine iff_of_false ?_ (Option.some_ne_none target).symm
    rintro ⟨text, hsends⟩
    rw [hrun] at hsends
    exact σ.record_ne_self target _ (congrArg Prod.snd hsends).symm
  · rw [hother, Option.some.injEq]
    constructor
    · rintro ⟨text', hsends⟩
      rw [hrun] at hsends
      exact eq_of_record_eq_record (congrArg Prod.snd hsends)
    · rintro rfl
      exact ⟨text, hrun⟩

/-- The creation of a segment is of no concern to the engines. -/
theorem engine_run_createSegment (s : StorageSettings) (p : String) (r : SegmentRequest) (σ : Session)
    (target : Target) : ((s.createSegment p r).run σ).2.engine target = σ.engine target := by
  rw [run_createSegment, run_lift_bind]
  split
  · rw [run_onCatalog]
    cases target with
    | events => rfl
    | users => rfl
  · rfl

/-- With a storage that has been prepared, in any session that can be reached: a search that is not admitted is refused
and nothing is sent. One that is admitted sends one statement, and returns what the engine answers: to the engine of
the users if the storage knows no other or if there are a predicate and no event filters, to the engine of the events
if there are event filters, or no predicate but a collection with users. If there is nothing of all this, no users are
found and nothing is sent. A segment never sends anything. -/
theorem search_sends_once (hbuilt : (s.prepare.run τ).1 = .ok ()) (hσ : σ.IsReached) (p : String)
    (r : SearchRequest) :
    (¬s.Admits σ.catalog p r → ∃ e, (s.search p r).run σ = (.error e, σ)) ∧
    (s.Admits σ.catalog p r →
      (s.kind = .attributes → s.SendsTo σ p r .users) ∧
      (s.kind = .events →
        (s.SendsTo σ p r .users ↔ r.filter.isSome = true ∧ r.eventFilters = []) ∧
        (s.SendsTo σ p r .events ↔ r.eventFilters ≠ [] ∨ r.filter = none ∧ σ.catalog.HasUsers p) ∧
        (r.filter = none → r.eventFilters = [] → ¬σ.catalog.HasUsers p →
          (s.search p r).run σ = (.ok .empty, σ)))) ∧
    (s.kind = .attributes → r.eventFilters ≠ [] → ∃ e, (s.search p r).run σ = (.error e, σ)) ∧
    ∀ segment target, ((s.createSegment p segment).run σ).2.engine target = σ.engine target := by
  have hs := validate_of_prepare hbuilt
  have hnames := hσ.isWellNamed
  refine ⟨run_search_of_not_admits hs hnames, fun h => ⟨fun hkind => ?_, fun hkind => ⟨?_, ?_, ?_⟩⟩, ?_, ?_⟩
  · rw [sendsTo_iff hs hnames h, recipient, hkind]
  · rw [sendsTo_iff hs hnames h, recipient_eq_users_iff hkind]
  · rw [sendsTo_iff hs hnames h, recipient_eq_events_iff hkind]
  · intro hfilter hfilters husers
    have hnone := (recipient_eq_none_iff hkind).2 ⟨hfilter, hfilters, husers⟩
    obtain ⟨-, hrun⟩ | ⟨target, htarget, -⟩ := run_search_of_admits hs hnames h
    · exact hrun
    · rw [hnone] at htarget
      cases htarget
  · intro hkind hfilters
    refine run_search_of_not_admits hs hnames fun h => ?_
    unfold Admits at h
    rw [hkind] at h
    exact hfilters h.1
  · exact fun segment target => s.engine_run_createSegment p segment σ target

/-- A session with visits of users in a shop. -/
def withVisits : Session :=
  (Operation.run .default true (.createCollection "shop" "visits" [⟨userField, .string, true⟩])
    ⟨.empty, Inhabited.default, Inhabited.default⟩).2

/-- All users who visited the shop. -/
def anyVisitor : SearchRequest := ⟨[], none, [], none, SearchRequest.defaultLimit, none⟩

theorem search_sends_once_visits :
    (default.prepare.run withVisits).1 = .ok () ∧ withVisits.IsReached ∧
      default.SendsTo withVisits "shop" anyVisitor .events := by
  have hbuilt : (default.prepare.run withVisits).1 = .ok () := by decide +kernel
  have hreached : withVisits.IsReached := .run .default true _ (.start _ _)
  have husers : withVisits.catalog.HasUsers "shop" := ⟨"visits", _, rfl, by decide +kernel⟩
  have hadmits : default.Admits withVisits.catalog "shop" anyVisitor :=
    ⟨List.forall_mem_nil _, fun _ => forall_mem_none _⟩
  have hsent := ((search_sends_once hbuilt hreached "shop" anyVisitor).2.1 hadmits).2 rfl
  exact ⟨hbuilt, hreached, hsent.2.1.2 (.inr ⟨rfl, husers⟩)⟩

end StorageSettings

end Cohort
