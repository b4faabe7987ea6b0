import Cohort.Command.Running
import Cohort.Proofs.Catalog.Change
import Cohort.Proofs.Catalog.Creation
import Cohort.Proofs.Users.Branches
import Cohort.Proofs.Users.Dispatch

/-!
# Segments among views

A segment is kept as a view, and views can be created directly. Both take the place of their table in their project,
if it is free and nothing else is wrong, or they do not do anything. So the views of a project are those that have
been created for it, each of them the first one in its place.
-/

namespace Cohort

open Outcome

variable {p t : String} {s : StorageSettings} {ready : Bool}

theorem StorageSettings.newView_eq_ok {c : Catalog} {r : SegmentRequest} {v : View} (h : s.newView c p r = .ok v) :
    ∃ q, Search.segmentQuery s c p r = .ok q ∧ v = segmentView r q := by
  unfold newView at h
  split at h
  · cases h
  · obtain ⟨_, -, h⟩ := bind_eq_ok_iff.1 h
    obtain ⟨q, hq, h⟩ := bind_eq_ok_iff.1 h
    exact ⟨q, hq, (pure_eq_ok_iff.1 h).symm⟩

/-- What has been asked for has not been done. -/
def Outcome.isFailure : Outcome → Bool
  | .failed _ | .refused _ | .unavailable => true
  | _ => false

namespace Operation

variable {op : Operation} {σ : Session}

/-- The project and the table of the view that the operation is to create. -/
def place? : Operation → Option (String × String)
  | .segment p r => some (p, r.tableName)
  | .createView p v => some (p, v.tableName)
  | _ => none

/-- The view that the operation is to create, with its project. -/
def newView? (s : StorageSettings) (c : Catalog) : Operation → Option (String × View)
  | .segment p r => (s.newView c p r).toOption.map (p, ·)
  | .createView p v => some (p, v)
  | _ => none

/-- The view takes its place, which has been free. -/
structure Creates (s : StorageSettings) (ready : Bool) (op : Operation) (σ : Session) (p : String) (v : View) :
    Prop where
  new : op.newView? s σ.catalog = some (p, v)
  free : (σ.catalog.viewsOf p).get? v.tableName = none
  run_eq : run s ready op σ = (.done, { σ with catalog := σ.catalog.setView p v })

/-- What is to create a view creates it, or it fails and nothing happens. -/
theorem creates_or_fails (s : StorageSettings) (ready : Bool) (σ : Session) (h : op.place? = some (p, t)) :
    (∃ v, v.tableName = t ∧ Creates s ready op σ p v) ∨
      ∃ o : Outcome, o.isFailure = true ∧ run s ready op σ = (o, σ) := by
  cases op with
  | segment q r =>
    cases h
    cases ready with
    | false => exact .inr ⟨.unavailable, rfl, rfl⟩
    | true =>
      have hrun : run s true (.segment p r) σ = settle (fun _ => .done) (s.createSegment p r) σ := rfl
      rw [settle_apply, s.run_createSegment, Session.run_lift_bind] at hrun
      cases hview : s.newView σ.catalog p r with
      | error e =>
        rw [hview] at hrun
        exact .inr ⟨.failed e, rfl, hrun⟩
      | ok v =>
        obtain ⟨q, -, hv⟩ := StorageSettings.newView_eq_ok hview
        have htable : v.tableName = r.tableName := congrArg View.tableName hv
        rw [hview] at hrun
        dsimp only at hrun
        rw [Session.run_onCatalog] at hrun
        rcases Catalog.run_createView_cases p v σ.catalog with ⟨e, he⟩ | ⟨hfree, hcreate⟩
        · rw [he] at hrun
          exact .inr ⟨_, rfl, hrun⟩
        · rw [hcreate] at hrun
          exact .inl ⟨v, htable, by rw [newView?, hview]; rfl, hfree, hrun⟩
  | createView q v =>
    cases h
    have hrun : run s ready (.createView p v) σ = change (fun _ => .done) (Catalog.createView p v) σ := rfl
    rw [change_apply] at hrun
    rcases Catalog.run_createView_cases p v σ.catalog with ⟨e, he⟩ | ⟨hfree, hcreate⟩
    · rw [he] at hrun
      exact .inr ⟨.refused e, rfl, hrun⟩
    · rw [hcreate] at hrun
      exact .inl ⟨v, rfl, rfl, hfree, hrun⟩
  | _ => cases h

/-- In a place that is taken, nothing is created. -/
theorem fails_of_get?_eq_some {v : View} (s : StorageSettings) (ready : Bool) (h : op.place? = some (p, t))
    (hv : (σ.catalog.viewsOf p).get? t = some v) : ∃ o : Outcome, o.isFailure = true ∧ run s ready op σ = (o, σ) := by
  refine (creates_or_fails s ready σ h).resolve_left ?_
  rintro ⟨w, rfl, hcreates⟩
  rw [hcreates.free] at hv
  cases hv

theorem Creates.viewsOf {v : View} (h : Creates s ready op σ p v) (q : String) :
    (run s ready op σ).2.catalog.viewsOf q =
      if q = p then (σ.catalog.viewsOf p).insert v.tableName v else σ.catalog.viewsOf q := by
  rw [h.run_eq]
  split
  · subst q
    exact Catalog.viewsOf_setView_self _ _ _
  · rename_i hq
    exact Catalog.viewsOf_setView_of_ne _ _ hq

/-- A segment is kept with its query, its name and its interval. -/
theorem Creates.eq_segmentView {v : View} {r : SegmentRequest} (h : Creates s ready (.segment p r) σ p v) :
    ∃ q, Search.segmentQuery s σ.catalog p r = .ok q ∧ v = StorageSettings.segmentView r q := by
  have hnew : (s.newView σ.catalog p r).toOption.map (p, ·) = some (p, v) := h.new
  cases hview : s.newView σ.catalog p r with
  | error e =>
    rw [hview] at hnew
    cases hnew
  | ok w =>
    rw [hview] at hnew
    cases hnew
    exact StorageSettings.newView_eq_ok hview

theorem run_view_of_get? {v : View} (s : StorageSettings) (ready : Bool)
    (h : (σ.catalog.viewsOf p).get? t = some v) : run s ready (.view p t) σ = (.view v, σ) := by
  rw [run, change_apply, Catalog.run_view, h]
  rfl

theorem segmentView_of_get? {c : Catalog} {v : View} (h : (c.viewsOf p).get? t = some v) :
    Command.segmentView c p t = .ok v := by
  rw [Command.segmentView, Catalog.run_view, h]
  rfl

/-- What is not to create a view leaves all views as they are. -/
theorem viewsOf_run_of_place?_eq_none (s : StorageSettings) (ready : Bool) (σ : Session) (h : op.place? = none)
    (p : String) : (run s ready op σ).2.catalog.viewsOf p = σ.catalog.viewsOf p := by
  cases op with
  | search q r =>
    cases ready with
    | false => rfl
    | true =>
      change ((settle .rows (s.search q r)) σ).2.catalog.viewsOf p = _
      rw [settle_apply, s.catalog_run_search]
  | createSchema =>
    rw [run, settle_apply, StorageSettings.run_createSchema]
    rfl
  | view q u =>
    rw [run, change_apply, Catalog.run_view]
    split
    · rfl
    · rfl
  | createCollection q c fs =>
    rw [run, change_apply]
    exact σ.catalog.viewsOf_changed (.create q c fs) p
  | addFields q c fs =>
    rw [run, change_apply]
    exact σ.catalog.viewsOf_changed (.add q c fs) p
  | segment => cases h
  | createView => cases h
  | _ => rfl

theorem newView?_eq_none {c : Catalog} (h : op.place? = none) : op.newView? s c = none := by
  cases op with
  | segment => cases h
  | createView => cases h
  | _ => rfl

/-! ## Views that have been created -/

/-- The view that an operation creates, with its project, if it does not fail. -/
def created? (s : StorageSettings) (ready : Bool) (op : Operation) (σ : Session) : Option (String × View) :=
  if (run s ready op σ).1.isFailure then none else op.newView? s σ.catalog

theorem Creates.created?_eq {v : View} (h : Creates s ready op σ p v) : created? s ready op σ = some (p, v) := by
  rw [created?, h.run_eq, h.new]
  rfl

theorem created?_eq_none {o : Outcome} (ho : o.isFailure = true) (h : run s ready op σ = (o, σ)) :
    created? s ready op σ = none := by
  rw [created?, h, if_pos ho]

/-- The views that operations create one after the other, with their projects. -/
def created (s : StorageSettings) (ready : Bool) : List Operation → Session → List (String × View)
  | [], _ => []
  | op :: ops, σ => (created? s ready op σ).toList ++ created s ready ops (run s ready op σ).2

/-- The views in the catalog are these, each in the place of its table. -/
def HasViews (c : Catalog) (vs : List (String × View)) : Prop :=
  ∀ p t v, (c.viewsOf p).get? t = some v ↔ (p, v) ∈ vs ∧ v.tableName = t

variable {c : Catalog} {vs : List (String × View)} {v : View}

theorem HasViews.setView (h : HasViews c vs) (hfree : (c.viewsOf p).get? v.tableName = none) :
    HasViews (c.setView p v) (vs ++ [(p, v)]) := by
  intro q t w
  rw [Catalog.get?_setView, List.mem_append, List.mem_singleton]
  split
  · rename_i hplace
    obtain ⟨rfl, rfl⟩ := Prod.mk.inj hplace
    constructor
    · rintro ⟨⟩
      exact ⟨.inr rfl, rfl⟩
    · rintro ⟨hw | ⟨⟨⟩⟩, htable⟩
      · -- another view in that place would have been there before
        rw [(h q v.tableName w).2 ⟨hw, htable⟩] at hfree
        cases hfree
      · rfl
  · rename_i hplace
    rw [h]
    refine and_congr_left fun htable => (or_iff_left ?_).symm
    rintro ⟨⟩
    exact hplace (htable ▸ rfl)

/-- An operation leaves the views that have been there and those that it creates. -/
theorem HasViews.after_run (s : StorageSettings) (ready : Bool) (op : Operation) (h : HasViews σ.catalog vs) :
    HasViews (run s ready op σ).2.catalog (vs ++ (created? s ready op σ).toList) := by
  cases hplace : op.place? with
  | none =>
    have hnone : created? s ready op σ = none := by
      rw [created?, newView?_eq_none hplace, ite_self]
    intro p t v
    rw [viewsOf_run_of_place?_eq_none s ready σ hplace, hnone, Option.toList_none, List.append_nil]
    exact h p t v
  | some place =>
    obtain ⟨p, t⟩ := place
    obtain ⟨v, -, hcreates⟩ | ⟨o, ho, hrun⟩ := creates_or_fails s ready σ hplace
    · rw [hcreates.created?_eq, hcreates.run_eq]
      exact h.setView hcreates.free
    · rw [created?_eq_none ho hrun, hrun, Option.toList_none, List.append_nil]
      exact h

theorem HasViews.after_runAll (s : StorageSettings) (ready : Bool) (ops : List Operation)
    (h : HasViews σ.catalog vs) : HasViews (runAll s ready ops σ).2.catalog (vs ++ created s ready ops σ) := by
  induction ops generalizing σ vs with
  | nil =>
    rw [created, List.append_nil]
    exact h
  | cons op ops ih =>
    rw [runAll_cons, created, ← List.append_assoc]
    exact ih (h.after_run s ready op)

/-- The list of a project is strictly ascending and has just its views. -/
theorem HasViews.run_views (s : StorageSettings) (ready : Bool) (h : HasViews σ.catalog vs) (p : String) :
    ∃ list, run s ready (.views p) σ = (.views list, σ) ∧
      list.Pairwise (fun v w => v.tableName < w.tableName) ∧ ∀ v, v ∈ list ↔ (p, v) ∈ vs := by
  refine ⟨(σ.catalog.viewsOf p).values, rfl, Keyed.pairwise_values fun t v hv => ((h p t v).1 hv).2, fun v => ?_⟩
  rw [Keyed.mem_values_iff]
  constructor
  · rintro ⟨t, hv⟩
    exact ((h p t v).1 hv).1
  · intro hv
    exact ⟨v.tableName, (h p _ v).2 ⟨hv, rfl⟩⟩

/-- In a place that is taken, an operation fails, and the view stays there whatever is done afterwards. -/
theorem HasViews.taken (s : StorageSettings) (ready : Bool) (h : HasViews σ.catalog vs)
    (hplace : op.place? = some (p, t)) (hv : (p, v) ∈ vs) (htable : v.tableName = t) :
    (run s ready op σ).1.isFailure = true ∧
      ∀ later, ((runAll s ready later (run s ready op σ).2).2.catalog.viewsOf p).get? t = some v := by
  obtain ⟨o, ho, hrun⟩ := fails_of_get?_eq_some s ready hplace ((h p t v).2 ⟨hv, htable⟩)
  rw [hrun]
  refine ⟨ho, fun later => ?_⟩
  exact (h.after_runAll s ready later p t v).2 ⟨List.mem_append_left _ hv, htable⟩

/-- Whatever has been done in a session that had no views, what is to create a view fails without any effect, or it
takes a free place, where the view is found from then on. A segment is kept with its query, its name and its interval.
Nothing is created in a place for the second time, the first view stays. The list of any project is strictly ascending
and has just the views that have been created for it. -/
theorem views_created_once (s : StorageSettings) (ready : Bool) (collections : Projects (List Field))
    (events users : Engine) (history : List Operation) {op : Operation} (hplace : op.place? = some (p, t)) :
    let start : Session := ⟨⟨collections, .empty⟩, events, users⟩
    let σ := (runAll s ready history start).2
    let o := (run s ready op σ).1
    let τ := (run s ready op σ).2
    (o = .done ∨ o.isFailure = true) ∧ (o.isFailure = true → τ = σ) ∧
      (o = .done → ∃ v, v.tableName = t ∧ created? s ready op σ = some (p, v) ∧
        (σ.catalog.viewsOf p).get? t = none ∧ τ.catalog.viewsOf p = (σ.catalog.viewsOf p).insert t v ∧
        (∀ q, q ≠ p → τ.catalog.viewsOf q = σ.catalog.viewsOf q) ∧
        run s ready (.view p t) τ = (.view v, τ) ∧ Command.segmentView τ.catalog p t = .ok v ∧
        (∀ w, op = .createView p w → v = w) ∧
        ∀ r, op = .segment p r → ∃ q, Search.segmentQuery s σ.catalog p r = .ok q ∧
          v.query = queryText q ∧ v.name = r.name ∧ v.updateInterval = r.interval) ∧
      (∀ v, (p, v) ∈ created s ready history start → v.tableName = t →
        o.isFailure = true ∧ ∀ later, ((runAll s ready later τ).2.catalog.viewsOf p).get? t = some v) ∧
      ∀ q, ∃ vs, run s ready (.views q) σ = (.views vs, σ) ∧
        vs.Pairwise (fun v w => v.tableName < w.tableName) ∧
        ∀ v, v ∈ vs ↔ (q, v) ∈ created s ready history start := by
  intro start σ o τ
  have hstart : HasViews start.catalog [] := fun _ _ _ => ⟨fun h => (nomatch h), fun h => (nomatch h.1)⟩
  have hσ : HasViews σ.catalog (created s ready history start) := hstart.after_runAll s ready history
  have htaken (v : View) := hσ.taken (v := v) s ready hplace
  have hlist := hσ.run_views s ready
  obtain ⟨v, rfl, hcreates⟩ | ⟨o', ho', hrun⟩ := creates_or_fails s ready σ hplace
  · have hdone : o = .done := congrArg Prod.fst hcreates.run_eq
    refine ⟨.inl hdone, fun ho => ?_, fun _ => ?_, htaken, hlist⟩
    · rw [hdone] at ho
      cases ho
    · have hself : τ.catalog.viewsOf p = (σ.catalog.viewsOf p).insert v.tableName v := by
        rw [hcreates.viewsOf, if_pos rfl]
      have hget : (τ.catalog.viewsOf p).get? v.tableName = some v := by rw [hself, Keyed.get?_insert_self]
      refine ⟨v, rfl, hcreates.created?_eq, hcreates.free, hself, fun q hq => ?_, run_view_of_get? s ready hget,
        segmentView_of_get? hget, ?_, ?_⟩
      · rw [hcreates.viewsOf, if_neg hq]
      · rintro w rfl
        exact (Prod.mk.inj (Option.some.inj hcreates.new)).2.symm
      · rintro r rfl
        obtain ⟨q, hq, rfl⟩ := hcreates.eq_segmentView
        exact ⟨q, hq, rfl, rfl, rfl⟩
  · have ho : o.isFailure = true := by rw [show o = o' from congrArg Prod.fst hrun, ho']
    refine ⟨.inr ho, fun _ => congrArg Prod.snd hrun, fun hdone => ?_, htaken, hlist⟩
    rw [hdone] at ho
    cases ho

/-- The ones who shop, as a segment. -/
def shoppers : SegmentRequest := ⟨"Shoppers", "shoppers", none, Search.shopping, none⟩

/-- A session in which shoppers have been kept. -/
def withShoppers : Session := (run .default true (.segment "shop" shoppers) ⟨.empty, default, default⟩).2

/-- Shoppers are kept under their name, and another view in their place is refused. -/
theorem shoppers_created_once :
    ∃ v, v.name = "Shoppers" ∧ run .default true (.view "shop" "shoppers") withShoppers = (.view v, withShoppers) ∧
      (run .default true (.createView "shop" { v with name := "Others" }) withShoppers).1.isFailure = true := by
  have hplace : place? (.segment "shop" shoppers) = some ("shop", "shoppers") := rfl
  obtain ⟨-, -, hkept, -⟩ := views_created_once .default true .empty default default [] hplace
  obtain ⟨v, htable, hcreated, -, -, -, hfound, -, -, hsegment⟩ := hkept rfl
  obtain ⟨q, -, -, hname, -⟩ := hsegment shoppers rfl
  have hothers : place? (.createView "shop" { v with name := "Others" }) = some ("shop", v.tableName) := rfl
  obtain ⟨-, -, -, htaken, -⟩ :=
    views_created_once .default true .empty default default [.segment "shop" shoppers] hothers
  have hmem : ("shop", v) ∈ created .default true [.segment "shop" shoppers] ⟨.empty, default, default⟩ :=
    List.mem_append_left _ (Option.mem_toList.2 hcreated)
  exact ⟨v, hname, hfound, (htaken v hmem rfl).1⟩

end Operation

end Cohort
