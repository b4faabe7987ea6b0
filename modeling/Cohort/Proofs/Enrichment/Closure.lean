import Cohort.Proofs.Enrichment.Dependency
import Mathlib.Data.Finset.Card
import Mathlib.Order.Bounds.Basic

/-!
# Fields that a collection ends with

A call looks for what a collection needs because of the fields that it has, so another call may find more. But it
does so only if the call before it has put in a field that is the source of others. Sources run out, so with one call
more than there are sources the collection has all it needs, and it has nothing that it does not need.
-/

namespace Cohort

variable {d : Dependency} {existing fields : List Field} {names : Set String}

namespace Dependency

/-- Names that a collection with those fields may end with: its own, those that every collection needs, and with each
name those that depend on it. -/
structure IsClosed (d : Dependency) (existing : List Field) (names : Set String) : Prop where
  own : ∀ f ∈ existing, f.name ∈ names
  constant : ∀ f ∈ d.constant, f.name ∈ names
  dependent : ∀ source ∈ names, ∀ f ∈ d.dependentOn source, f.name ∈ names

/-- The fields that a collection has after one call. -/
def completed (d : Dependency) (existing : List Field) : List Field := existing ++ d.missing existing

/-- The sources that a collection has. -/
def presentSources (d : Dependency) (existing : List Field) : Finset String :=
  d.dependent.keys.toFinset.filter (· ∈ existing.map (·.name))

theorem completed_of_missing_eq_nil (h : d.missing existing = []) : d.completed existing = existing := by
  rw [completed, h, List.append_nil]

theorem names_subset_completed {name : String} (h : name ∈ existing.map (·.name)) :
    name ∈ (d.completed existing).map (·.name) := by
  rw [completed, List.map_append]
  exact List.mem_append_left _ h

/-- Whatever a collection may end with, it may still end with after a call. -/
theorem IsClosed.completed (h : d.IsClosed existing names) : d.IsClosed (d.completed existing) names where
  own f hf := by
    rcases List.mem_append.1 hf with hthere | hmissing
    · exact h.own f hthere
    · obtain ⟨⟨g, hg, hname⟩, -⟩ := mem_names_missing_iff.1 (List.mem_map_of_mem hmissing)
      rw [← hname]
      rcases mem_needed_iff.1 hg with hconstant | ⟨source, hsource, hdependent⟩
      · exact h.constant g hconstant
      · obtain ⟨s, hs, rfl⟩ := List.mem_map.1 hsource
        exact h.dependent s.name (h.own s hs) g hdependent
  constant := h.constant
  dependent := h.dependent

/-- A collection that lacks nothing may end with what it has. -/
theorem isClosed_of_missing_eq_nil (h : d.missing fields = [])
    (hexisting : ∀ f ∈ existing, f.name ∈ fields.map (·.name)) :
    d.IsClosed existing {name | name ∈ fields.map (·.name)} where
  own := hexisting
  constant f hf := missing_eq_nil_iff.1 h f (mem_needed_iff.2 (.inl hf))
  dependent source hsource f hf := missing_eq_nil_iff.1 h f (mem_needed_iff.2 (.inr ⟨source, hsource, hf⟩))

theorem mem_keys_of_mem_dependentOn {source : String} {f : Field} (h : f ∈ d.dependentOn source) :
    source ∈ d.dependent.keys := by
  obtain ⟨fields, hfields, -⟩ := mem_dependentOn_iff.1 h
  exact (Keyed.mem_keys_iff _).2 ⟨fields, hfields⟩

/-- A collection that lacks something after a call has got a source by that call. -/
theorem card_presentSources_lt (h : d.missing (d.completed existing) ≠ []) :
    (d.presentSources existing).card < (d.presentSources (d.completed existing)).card := by
  obtain ⟨source, hsource, f, hf, -⟩ : ∃ source ∈ (d.missing existing).map (·.name),
      ∃ f ∈ d.dependentOn source, f.name ∉ (d.completed existing).map (·.name) := by
    by_contra hnone
    push Not at hnone
    exact h (missing_append_missing_eq_nil_iff.2 hnone)
  have hkey : source ∈ d.dependent.keys.toFinset := List.mem_toFinset.2 (mem_keys_of_mem_dependentOn hf)
  have hnew : source ∉ existing.map (·.name) := (mem_names_missing_iff.1 hsource).2
  have hgained : source ∈ (d.completed existing).map (·.name) := by
    rw [completed, List.map_append]
    exact List.mem_append_right _ hsource
  apply Finset.card_lt_card
  refine (Finset.ssubset_iff_of_subset ?_).2 ⟨source, Finset.mem_filter.2 ⟨hkey, hgained⟩, ?_⟩
  · exact Finset.monotone_filter_right _ fun _ _ => names_subset_completed
  · exact fun hthere => hnew (Finset.mem_filter.1 hthere).2

/-! ## Many calls -/

theorem names_subset_iterate {name : String} (h : name ∈ existing.map (·.name)) (k : Nat) :
    name ∈ (d.completed^[k] existing).map (·.name) := by
  induction k with
  | zero => exact h
  | succ k ih =>
    rw [Function.iterate_succ_apply']
    exact names_subset_completed ih

theorem IsClosed.iterate (h : d.IsClosed existing names) (k : Nat) :
    d.IsClosed (d.completed^[k] existing) names := by
  induction k with
  | zero => exact h
  | succ k ih =>
    rw [Function.iterate_succ_apply']
    exact ih.completed

/-- As long as something is missing, there are at least as many sources as there have been calls. -/
theorem le_card_presentSources (k : Nat) (h : d.missing (d.completed^[k] existing) ≠ []) :
    k ≤ (d.presentSources (d.completed^[k] existing)).card := by
  induction k with
  | zero => exact Nat.zero_le _
  | succ k ih =>
    rw [Function.iterate_succ_apply'] at h ⊢
    have hbefore : d.missing (d.completed^[k] existing) ≠ [] := by
      intro hnone
      rw [completed_of_missing_eq_nil hnone] at h
      exact h hnone
    exact (ih hbefore).trans_lt (card_presentSources_lt h)

theorem card_presentSources_le (d : Dependency) (existing : List Field) :
    (d.presentSources existing).card ≤ d.dependent.keys.length :=
  (Finset.card_filter_le _ _).trans (List.toFinset_card_le _)

/-- With one call more than there are sources, nothing is missing. -/
theorem missing_iterate_eq_nil (d : Dependency) (existing : List Field) :
    d.missing (d.completed^[d.dependent.keys.length + 1] existing) = [] := by
  by_contra hmissing
  have hcalls := (le_card_presentSources _ hmissing).trans (d.card_presentSources_le _)
  exact Nat.not_succ_le_self _ hcalls

/-- A collection that lacks nothing after some calls has just the names that it has to end with. -/
theorem isLeast_iterate {k : Nat} (h : d.missing (d.completed^[k] existing) = []) :
    IsLeast {names | d.IsClosed existing names} {name | name ∈ (d.completed^[k] existing).map (·.name)} := by
  constructor
  · exact isClosed_of_missing_eq_nil h fun f hf => names_subset_iterate (List.mem_map_of_mem hf) k
  · intro names hnames name hname
    obtain ⟨f, hf, rfl⟩ := List.mem_map.1 hname
    exact (hnames.iterate k).own f hf

end Dependency

namespace Pipeline

variable {c : Catalog} {p q : String}

/-- The catalog after a call, whatever the call returns. -/
def applied (d : Dependency) (p q : String) (c : Catalog) : Catalog := ((applyDependency d p q).run c).2

theorem run_applyDependency_of_isName (hd : d.IsWellNamed) (hp : isName p = true) (hq : isName q = true)
    (c : Catalog) :
    (applyDependency d p q).run c = (.ok (d.completed (c.fieldsOf p q)), applied d p q c) ∧
      (applied d p q c).fieldsOf p q = d.completed (c.fieldsOf p q) ∧
      (d.missing (c.fieldsOf p q) = [] → applied d p q c = c) := by
  obtain ⟨c', hrun, hgained⟩ := exists_run_of_isName hd hp hq c
  have happlied : applied d p q c = c' := congrArg Prod.snd hrun
  rw [happlied]
  exact ⟨hrun, hgained⟩

theorem fieldsOf_iterate_applied (hd : d.IsWellNamed) (hp : isName p = true) (hq : isName q = true) (c : Catalog)
    (k : Nat) : ((applied d p q)^[k] c).fieldsOf p q = d.completed^[k] (c.fieldsOf p q) := by
  induction k with
  | zero => rfl
  | succ k ih =>
    rw [Function.iterate_succ_apply', Function.iterate_succ_apply', ← ih]
    exact (run_applyDependency_of_isName hd hp hq _).2.1

/-- Whatever depends on what, in chains or circles, and whatever there is: under proper names every call returns the
fields that the collection then has. After one call more than there are sources, further calls change nothing, and the
names of the fields are the least ones that the collection may end with. -/
theorem isLeast_applied (d : Dependency) (hd : d.IsWellNamed) {p q : String} (hp : isName p = true)
    (hq : isName q = true) (c : Catalog) :
    let call := (applyDependency d p q).run
    let after (k : Nat) := (applied d p q)^[k] c
    let last := after (d.dependent.keys.length + 1)
    (∀ k, call (after k) = (.ok ((after (k + 1)).fieldsOf p q), after (k + 1))) ∧
      call last = (.ok (last.fieldsOf p q), last) ∧
      (∀ k, d.dependent.keys.length + 1 ≤ k → after k = last) ∧
      IsLeast {names | d.IsClosed (c.fieldsOf p q) names} {name | name ∈ (last.fieldsOf p q).map (·.name)} := by
  intro call after last
  have hfields (k : Nat) : (after k).fieldsOf p q = d.completed^[k] (c.fieldsOf p q) :=
    fieldsOf_iterate_applied hd hp hq c k
  have hcall (k : Nat) : call (after k) = (.ok ((after (k + 1)).fieldsOf p q), after (k + 1)) := by
    have hnext : after (k + 1) = applied d p q (after k) := Function.iterate_succ_apply' _ k c
    obtain ⟨hrun, hgained, -⟩ := run_applyDependency_of_isName hd hp hq (after k)
    rw [hnext, hgained]
    exact hrun
  have hnone : d.missing (last.fieldsOf p q) = [] := by
    rw [hfields]
    exact d.missing_iterate_eq_nil _
  have hstays : applied d p q last = last := (run_applyDependency_of_isName hd hp hq last).2.2 hnone
  refine ⟨hcall, ?_, ?_, ?_⟩
  · have hlast := hcall (d.dependent.keys.length + 1)
    rwa [show after (d.dependent.keys.length + 1 + 1) = last from
      (Function.iterate_succ_apply' _ _ c).trans hstays] at hlast
  · intro k hk
    induction k, hk using Nat.le_induction with
    | base => rfl
    | succ k _ ih =>
      rw [show after (k + 1) = applied d p q (after k) from Function.iterate_succ_apply' _ k c, ih]
      exact hstays
  · rw [hfields] at hnone ⊢
    exact Dependency.isLeast_iterate hnone

/-- Three sources in a circle, the first of which every collection has. -/
def circle : Dependency :=
  let field (name : String) : Field := ⟨name, .string, true⟩
  ⟨[field "a"], .ofList [("a", [field "b"]), ("b", [field "c"]), ("c", [field "a", field "d"])]⟩

/-- It takes four calls to go round. -/
theorem isLeast_applied_circle :
    let clicks : List Field := [⟨"x", .long, true⟩]
    let c := Catalog.empty.changed (.create "shop" "clicks" clicks)
    let after (k : Nat) := (((applied circle "shop" "clicks")^[k] c).fieldsOf "shop" "clicks").map (·.name)
    circle.IsWellNamed ∧ isName "shop" = true ∧ isName "clicks" = true ∧
      circle.dependent.keys.length = 3 ∧ after 3 = ["x", "a", "b", "c"] ∧ after 4 = ["x", "a", "b", "c", "d"] ∧
      IsLeast {names | circle.IsClosed clicks names} {name | name ∈ after 4} := by
  intro clicks c after
  have hd : circle.IsWellNamed := by decide
  have hp : isName "shop" = true := by decide
  have hq : isName "clicks" = true := by decide
  have hleast := (isLeast_applied circle hd hp hq c).2.2.2
  exact ⟨hd, hp, hq, by decide, by decide, by decide, hleast⟩

end Pipeline

end Cohort
