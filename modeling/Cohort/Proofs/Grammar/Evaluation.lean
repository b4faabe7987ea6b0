import Cohort.Predicate.Grammar.Expression

/-!
# Following a rule

What a rule reads is followed step by step: a rule that has read something hands its value and the rest on to the
next one. Rules take tokens from the front only, so that what they leave is a suffix of what they were given.
-/

namespace Cohort.Rule

open Sql (Token Symbol)

variable {α β : Type} {ts rest : List Token}

theorem bind_of_eq_ok {r : Rule α} {k : α → Rule β} {a : α} (h : r ts = .ok (a, rest)) : (r >>= k) ts = k a rest := by
  change (r ts >>= fun p => k p.1 p.2) = _
  rw [h]
  rfl

theorem bind_eq_ok_iff {r : Rule α} {k : α → Rule β} {b : β} :
    (r >>= k) ts = .ok (b, rest) ↔ ∃ a mid, r ts = .ok (a, mid) ∧ k a mid = .ok (b, rest) := by
  change (r ts >>= fun p => k p.1 p.2) = _ ↔ _
  cases hr : r ts with
  | error e => simp [bind, Except.bind]
  | ok p =>
    obtain ⟨a, mid⟩ := p
    constructor
    · intro hk
      exact ⟨a, mid, rfl, hk⟩
    · rintro ⟨a', mid', heq, hk⟩
      cases heq
      exact hk

theorem pure_eq_ok_iff {a b : α} : (pure a : Rule α) ts = .ok (b, rest) ↔ a = b ∧ ts = rest := by
  change Except.ok (a, ts) = _ ↔ _
  simp

theorem get_eq_ok (ts : List Token) : (get : Rule (List Token)) ts = .ok (ts, ts) := rfl

theorem refuse_ne_ok {a : α} : (refuse : Rule α) ts ≠ .ok (a, rest) := nofun

theorem takeIf_of_head {p : Token → Bool} {t : Token} (h : p t = true) (ts : List Token) :
    takeIf p (t :: ts) = .ok (true, ts) := by
  rw [takeIf, if_pos h]

theorem takeIf_of_not_head {p : Token → Bool} (h : ∀ t, ts.head? = some t → p t = false) :
    takeIf p ts = .ok (false, ts) := by
  cases ts with
  | nil => rfl
  | cons t ts => rw [takeIf, h t rfl, if_neg Bool.false_ne_true]

theorem expect_of_head {p : Token → Bool} {t : Token} (h : p t = true) (ts : List Token) :
    expect p (t :: ts) = .ok ((), ts) := by
  rw [expect, bind_of_eq_ok (takeIf_of_head h ts)]
  rfl

theorem takeKeyword_of_head {k : String} {t : Token} (h : t.isKeyword k = true) (ts : List Token) :
    takeKeyword k (t :: ts) = .ok (true, ts) := takeIf_of_head h ts

theorem takeKeyword_of_not_head {k : String} (h : ∀ t, ts.head? = some t → t.isKeyword k = false) :
    takeKeyword k ts = .ok (false, ts) := takeIf_of_not_head h

theorem takeSymbol_of_head (s : Symbol) (ts : List Token) : takeSymbol s (.symbol s :: ts) = .ok (true, ts) :=
  takeIf_of_head (beq_self_eq_true _) ts

theorem takeSymbol_of_not_head {s : Symbol} (h : ts.head? ≠ some (.symbol s)) : takeSymbol s ts = .ok (false, ts) := by
  apply takeIf_of_not_head
  intro t ht
  rw [isSymbol, beq_eq_false_iff_ne]
  rintro rfl
  exact h ht

theorem expectSymbol_of_head (s : Symbol) (ts : List Token) : expectSymbol s (.symbol s :: ts) = .ok ((), ts) :=
  expect_of_head (beq_self_eq_true _) ts

theorem isNextSymbol_of_not_head {s : Symbol} (h : ts.head? ≠ some (.symbol s)) :
    isNextSymbol s ts = .ok (false, ts) := by
  cases ts with
  | nil => rfl
  | cons t ts =>
    have ht : isSymbol s t = false := by
      rw [isSymbol, beq_eq_false_iff_ne]
      rintro rfl
      exact h rfl
    change Except.ok (isSymbol s t, t :: ts) = _
    rw [ht]

theorem isNextKeyword_of_not_head {k : String} (h : ∀ t, ts.head? = some t → t.isKeyword k = false) :
    isNextKeyword k ts = .ok (false, ts) := by
  cases ts with
  | nil => rfl
  | cons t ts =>
    change Except.ok (t.isKeyword k, t :: ts) = _
    rw [h t rfl]

theorem takeOneOf_of_not_head {ks : List String} (h : ∀ t, ts.head? = some t → ∀ k ∈ ks, t.isKeyword k = false) :
    takeOneOf ks ts = .ok (none, ts) := by
  cases ts with
  | nil => rfl
  | cons t ts =>
    have hnone : ks.find? (fun k => t.isKeyword k) = none := by
      rw [List.find?_eq_none]
      intro k hk
      rw [h t rfl k hk]
      exact Bool.false_ne_true
    rw [takeOneOf, hnone]

/-- A rule that finds a fault is no obstacle to the alternative. -/
theorem attempt_of_forall_ne_ok {r : Rule α} (h : ∀ a rest, r ts ≠ .ok (a, rest)) :
    attempt r ts = .ok (none, ts) := by
  unfold attempt
  cases hr : r ts with
  | error e => rfl
  | ok p => exact absurd hr (h p.1 p.2)

/-- The tokens of one or more items, with a comma between two of them, before a token that is none. What follows an
item is a suffix of the whole text. -/
theorem commaListWithin_of_forall {r : Rule α} {items : List (List Token × α)} {whole : List Token} (hne : items ≠ [])
    (hwhole : [Token.symbol .comma].intercalate (items.map Prod.fst) ++ rest <:+ whole)
    (hrest : rest.head? ≠ some (.symbol .comma))
    (h : ∀ item ∈ items, ∀ later, later <:+ whole → (later = rest ∨ later.head? = some (.symbol .comma)) →
      r (item.1 ++ later) = .ok (item.2, later)) {limit : Nat} (hlimit : items.length ≤ limit) :
    commaListWithin r limit ([Token.symbol .comma].intercalate (items.map Prod.fst) ++ rest) =
      .ok (items.map Prod.snd, rest) := by
  induction items generalizing limit with
  | nil => exact absurd rfl hne
  | cons item items ih =>
    obtain ⟨hitem, hitems⟩ := List.forall_mem_cons.1 h
    obtain ⟨limit, rfl⟩ : ∃ n, limit = n + 1 := ⟨limit - 1, by rw [List.length_cons] at hlimit; omega⟩
    cases items with
    | nil =>
      rw [List.map_cons, List.map_nil, List.intercalate_singleton] at hwhole ⊢
      have hlater := (List.suffix_append _ _).trans hwhole
      rw [commaListWithin, bind_of_eq_ok (hitem rest hlater (.inl rfl)), bind_of_eq_ok (takeSymbol_of_not_head hrest)]
      rfl
    | cons next items =>
      rw [List.map_cons, List.map_cons, List.intercalate_cons_cons, List.append_assoc, List.append_assoc,
        List.singleton_append] at hwhole ⊢
      rw [← List.map_cons] at hwhole ⊢
      have hcomma := (List.suffix_append _ _).trans hwhole
      have hlater := ih (List.cons_ne_nil _ _) ((List.suffix_cons _ _).trans hcomma) hitems
        (Nat.le_of_succ_le_succ hlimit)
      rw [commaListWithin, bind_of_eq_ok (hitem _ hcomma (.inr rfl)), bind_of_eq_ok (takeSymbol_of_head ..),
        if_pos rfl, bind_of_eq_ok hlater]
      rfl

/-- The rule takes tokens from the front only. -/
def Shrinks (r : Rule α) : Prop := ∀ ts a rest, r ts = .ok (a, rest) → rest <:+ ts

theorem shrinks_pure (a : α) : Shrinks (pure a : Rule α) := by
  intro ts b rest h
  obtain ⟨-, rfl⟩ := pure_eq_ok_iff.1 h
  exact List.suffix_refl _

theorem shrinks_refuse : Shrinks (refuse : Rule α) := fun _ _ _ h => absurd h refuse_ne_ok

theorem Shrinks.bind {r : Rule α} {k : α → Rule β} (hr : Shrinks r) (hk : ∀ a, Shrinks (k a)) :
    Shrinks (r >>= k) := by
  intro ts b rest h
  obtain ⟨a, mid, ha, hb⟩ := bind_eq_ok_iff.1 h
  exact (hk a mid b rest hb).trans (hr ts a mid ha)

theorem shrinks_next : Shrinks next := by
  intro ts a rest h
  cases ts with
  | nil => cases h
  | cons t ts =>
    cases h
    exact List.suffix_cons ..

theorem shrinks_takeIf (p : Token → Bool) : Shrinks (takeIf p) := by
  intro ts a rest h
  cases ts with
  | nil =>
    cases h
    exact List.suffix_refl _
  | cons t ts =>
    by_cases ht : p t = true
    · rw [takeIf_of_head ht] at h
      cases h
      exact List.suffix_cons ..
    · rw [takeIf, if_neg ht] at h
      cases h
      exact List.suffix_refl _

theorem shrinks_get : Shrinks (get : Rule (List Token)) := by
  intro ts a rest h
  cases h
  exact List.suffix_refl _

theorem shrinks_name : Shrinks name := by
  apply shrinks_next.bind
  intro t
  cases t with
  | word text quote => exact shrinks_pure _
  | string content => exact shrinks_pure _
  | _ => exact shrinks_refuse

theorem shrinks_moreNames (limit : Nat) : Shrinks (moreNames limit) := by
  induction limit with
  | zero => exact shrinks_pure _
  | succ limit ih =>
    apply (shrinks_takeIf _).bind
    intro taken
    cases taken with
    | false => exact shrinks_pure _
    | true => exact shrinks_name.bind fun n => ih.bind fun _ => shrinks_pure _

theorem shrinks_modifiers (limit : Nat) : Shrinks (modifiers limit) := by
  induction limit with
  | zero => exact shrinks_refuse
  | succ limit ih =>
    apply shrinks_next.bind
    intro t
    cases t with
    | word text quote => exact ih.bind fun _ => shrinks_pure _
    | number digits long => exact ih.bind fun _ => shrinks_pure _
    | string content => exact ih.bind fun _ => shrinks_pure _
    | symbol s =>
      cases s with
      | comma => exact ih
      | rightParen => exact shrinks_pure _
      | _ => exact shrinks_refuse
    | _ => exact shrinks_refuse

end Cohort.Rule
