import Mathlib.Data.List.Forall2

/-!
# Outcomes

When a computation of several steps, each of which may fail, succeeds.
-/

namespace Cohort.Outcome

variable {ε ε' α β γ : Type}

theorem bind_eq_ok_iff {x : Except ε α} {f : α → Except ε β} {b : β} :
    x >>= f = .ok b ↔ ∃ a, x = .ok a ∧ f a = .ok b := by
  cases x with
  | error e => simp [bind, Except.bind]
  | ok a => simp [bind, Except.bind]

theorem map_eq_ok_iff {x : Except ε α} {f : α → β} {b : β} : x.map f = .ok b ↔ ∃ a, x = .ok a ∧ f a = b := by
  cases x with
  | error e => simp [Except.map]
  | ok a => simp [Except.map]

theorem mapError_eq_ok_iff {x : Except ε α} {f : ε → ε'} {a : α} : x.mapError f = .ok a ↔ x = .ok a := by
  cases x with
  | error e =>
    constructor
    · intro h
      cases h
    · intro h
      cases h
  | ok a =>
    constructor
    · intro h
      cases h
      rfl
    · intro h
      cases h
      rfl

theorem mapError_eq_error_iff {x : Except ε α} {f : ε → ε'} {e' : ε'} :
    x.mapError f = .error e' ↔ ∃ e, x = .error e ∧ f e = e' := by
  cases x with
  | error e =>
    constructor
    · intro h
      exact ⟨e, rfl, Except.error.inj h⟩
    · rintro ⟨_, ⟨⟩, rfl⟩
      rfl
  | ok a =>
    constructor
    · intro h
      cases h
    · rintro ⟨_, ⟨⟩, -⟩

theorem pure_eq_ok_iff {a b : α} : (pure a : Except ε α) = .ok b ↔ a = b := by
  simp [pure, Except.pure]

/-- What changes the last result can as well be done in the last step. -/
theorem map_bind_eq (x : Except ε α) (f : α → Except ε β) (g : β → γ) :
    (x >>= f).map g = x >>= fun a => (f a).map g := by
  cases x with
  | error e => rfl
  | ok a => rfl

theorem map_bind (x : Except ε α) (f : α → β) (g : β → Except ε γ) : x.map f >>= g = x >>= fun a => g (f a) := by
  cases x with
  | error e => rfl
  | ok a => rfl

theorem mapM_cons_of_ok {f : α → Except ε β} {a : α} {b : β} (h : f a = .ok b) (as : List α) :
    (a :: as).mapM f = (as.mapM f).map (b :: ·) := by
  rw [List.mapM_cons, h]
  cases as.mapM f with
  | error e => rfl
  | ok bs => rfl

theorem mapM_cons_of_error {f : α → Except ε β} {a : α} {e : ε} (h : f a = .error e) (as : List α) :
    (a :: as).mapM f = .error e := by
  rw [List.mapM_cons, h]
  rfl

theorem mapM_eq_ok_iff {f : α → Except ε β} {as : List α} {bs : List β} :
    as.mapM f = .ok bs ↔ List.Forall₂ (fun a b => f a = .ok b) as bs := by
  induction as generalizing bs with
  | nil =>
    rw [List.mapM_nil, pure_eq_ok_iff, List.forall₂_nil_left_iff]
    exact eq_comm
  | cons a as ih =>
    rw [List.forall₂_cons_left_iff]
    cases hfa : f a with
    | error e =>
      rw [mapM_cons_of_error hfa]
      simp
    | ok b =>
      rw [mapM_cons_of_ok hfa, map_eq_ok_iff]
      constructor
      · rintro ⟨later, hlater, rfl⟩
        exact ⟨b, later, rfl, ih.1 hlater, rfl⟩
      · rintro ⟨_, later, hb, hlater, rfl⟩
        cases hb
        exact ⟨later, ih.2 hlater, rfl⟩

theorem ne_nil_of_mapM {f : α → Except ε β} {as : List α} {bs : List β} (hne : as ≠ []) (h : as.mapM f = .ok bs) :
    bs ≠ [] := by
  rintro rfl
  exact hne (List.length_eq_zero_iff.1 (mapM_eq_ok_iff.1 h).length_eq)

/-- Checks of all members succeed if and only if each of them does. -/
theorem forM_eq_ok_iff {f : α → Except ε Unit} {as : List α} : as.forM f = .ok () ↔ ∀ a ∈ as, f a = .ok () := by
  induction as with
  | nil => exact iff_of_true rfl (List.forall_mem_nil _)
  | cons a as ih =>
    rw [List.forall_mem_cons, ← ih]
    exact bind_eq_ok_iff.trans ⟨fun ⟨_, ha, has⟩ => ⟨ha, has⟩, fun ⟨ha, has⟩ => ⟨(), ha, has⟩⟩

/-- What goes through a list, and changes each result, changes the results of going through it. -/
theorem eq_map_mapM {f : α → Except ε β} {g : β → γ} (h : List α → Except ε (List γ)) (hnil : h [] = .ok [])
    (hcons : ∀ a as, h (a :: as) = f a >>= fun b => h as >>= fun cs => .ok (g b :: cs)) (as : List α) :
    h as = (as.mapM f).map (List.map g) := by
  induction as with
  | nil => exact hnil
  | cons a as ih =>
    rw [hcons, ih]
    cases hfa : f a with
    | error e =>
      rw [mapM_cons_of_error hfa]
      rfl
    | ok b =>
      rw [mapM_cons_of_ok hfa]
      cases as.mapM f with
      | error e => rfl
      | ok bs => rfl

/-- A list fails with the error of the first that fails. -/
theorem exists_of_mapM_eq_error {f : α → Except ε β} {as : List α} {e : ε} (h : as.mapM f = .error e) :
    ∃ before a after, as = before ++ a :: after ∧ (∀ x ∈ before, ∃ b, f x = .ok b) ∧ f a = .error e := by
  induction as with
  | nil => cases h
  | cons a as ih =>
    cases hfa : f a with
    | error e' =>
      rw [mapM_cons_of_error hfa] at h
      cases h
      exact ⟨[], a, as, rfl, List.forall_mem_nil _, hfa⟩
    | ok b =>
      rw [mapM_cons_of_ok hfa] at h
      cases has : as.mapM f with
      | ok bs =>
        rw [has] at h
        cases h
      | error e' =>
        rw [has] at h
        cases h
        obtain ⟨before, x, after, rfl, hbefore, hx⟩ := ih has
        exact ⟨a :: before, x, after, rfl, List.forall_mem_cons.2 ⟨⟨b, hfa⟩, hbefore⟩, hx⟩

/-- Checks of all members fail with the error of some member. -/
theorem exists_of_forM_eq_error {f : α → Except ε Unit} {as : List α} {e : ε} (h : as.forM f = .error e) :
    ∃ a ∈ as, f a = .error e := by
  induction as with
  | nil => cases h
  | cons a as ih =>
    cases hfa : f a with
    | error e' =>
      have hfirst : (a :: as).forM f = .error e' := congrArg (· >>= fun _ => as.forM f) hfa
      rw [hfirst] at h
      cases h
      exact ⟨a, List.mem_cons_self, hfa⟩
    | ok _ =>
      have hrest : (a :: as).forM f = as.forM f := congrArg (· >>= fun _ => as.forM f) hfa
      obtain ⟨b, hb, hfb⟩ := ih (hrest.symm.trans h)
      exact ⟨b, List.mem_cons_of_mem a hb, hfb⟩

section State

variable {σ : Type} {s s' : σ} {x : ExceptT ε (StateM σ) α}

theorem run_bind_of_ok {a : α} (h : x.run s = (.ok a, s')) (f : α → ExceptT ε (StateM σ) β) :
    (x >>= f).run s = (f a).run s' := by
  change (ExceptT.bindCont f (x.run s).1 : StateM σ _) (x.run s).2 = _
  rw [h]
  rfl

theorem run_bind_of_error {e : ε} (h : x.run s = (.error e, s')) (f : α → ExceptT ε (StateM σ) β) :
    (x >>= f).run s = (.error e, s') := by
  change (ExceptT.bindCont f (x.run s).1 : StateM σ _) (x.run s).2 = _
  rw [h]
  rfl

end State

end Cohort.Outcome
