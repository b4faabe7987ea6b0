import Cohort.Proofs.Checking
import Cohort.Proofs.Predicate.Acceptance
import Cohort.Proofs.Predicate.Leaves

/-!
# Offences in predicates

A predicate is checked on its way into a query. Only its leaves, the columns and the constants, can offend, and of
several offences the first from the left is reported. A predicate without an offence becomes a term of the same
shape, in which all names of columns are checked identifiers.
-/

namespace Cohort.Predicate

open Outcome

/-- What is wrong with a leaf. In a column it is the first part that is not a name. -/
def Leaf.offence? : Leaf → Option QueryError
  | .column [] => some (.badRequest "empty column reference")
  | .column parts => (parts.find? fun n => !isName n).map fun n => .request (.invalidName "filter column" n)
  | .constant (.decimal x) => if x.isFinite then none else some (.badRequest ("invalid number " ++ x.text))
  | .constant _ => none

theorem Leaf.offence?_column_cons (n : String) (names : List String) :
    (Leaf.column (n :: names)).offence? =
      ((n :: names).find? fun n => !isName n).map fun n => .request (.invalidName "filter column" n) := rfl

variable {α β : Type} {ls later : List Leaf} {x : Except QueryError α}

/-- It fails with the first offence of the leaves, and succeeds if there is none. -/
def Reports (ls : List Leaf) (x : Except QueryError α) : Prop :=
  (ls.findSome? Leaf.offence? = none ∧ ∃ a, x = .ok a) ∨ ∃ e, ls.findSome? Leaf.offence? = some e ∧ x = .error e

namespace Reports

theorem ok (a : α) : Reports [] (.ok a) := .inl ⟨rfl, a, rfl⟩

/-- What is checked first is reported first. -/
theorem bind (hx : Reports ls x) {f : α → Except QueryError β} (hf : ∀ a, x = .ok a → Reports later (f a)) :
    Reports (ls ++ later) (x >>= f) := by
  unfold Reports
  rw [List.findSome?_append]
  obtain ⟨hnone, a, rfl⟩ | ⟨e, hfirst, rfl⟩ := hx
  · rw [hnone]
    exact hf a rfl
  · rw [hfirst]
    exact .inr ⟨e, rfl, rfl⟩

theorem bind_ok (hx : Reports ls x) (f : α → β) : Reports ls (x >>= fun a => .ok (f a)) := by
  have h := hx.bind fun a _ => ok (f a)
  rwa [List.append_nil] at h

theorem findSome?_eq_of_error (hx : Reports ls x) {e : QueryError} (he : x = .error e) :
    ls.findSome? Leaf.offence? = some e := by
  obtain ⟨-, a, ha⟩ | ⟨e', hfirst, he'⟩ := hx
  · rw [ha] at he
    cases he
  · rw [he'] at he
    exact hfirst.trans (congrArg some (Except.error.inj he))

end Reports

theorem checkAll_eq_error {kind : String} {names : List String} {e : RequestError}
    (h : Sql.checkAll kind names = .error e) :
    ∃ n, names.find? (fun n => !isName n) = some n ∧ e = .invalidName kind n := by
  induction names with
  | nil => cases h
  | cons n names ih =>
    unfold Sql.checkAll Sql.Identifier.check at h
    by_cases hname : isName n = true
    · rw [dif_pos hname] at h
      cases hrest : Sql.checkAll kind names with
      | ok is =>
        rw [hrest] at h
        cases h
      | error e' =>
        rw [hrest] at h
        cases h
        obtain ⟨bad, hbad, rfl⟩ := ih hrest
        exact ⟨bad, by rw [List.find?_cons, hname]; exact hbad, rfl⟩
    · rw [dif_neg hname] at h
      cases h
      exact ⟨n, by rw [List.find?_cons, Bool.eq_false_iff.2 hname]; rfl, rfl⟩

theorem reports_column (parts : List String) :
    Reports [.column parts] (Sql.Term.ofPredicate (.column parts)) := by
  cases parts with
  | nil => exact .inr ⟨_, rfl, rfl⟩
  | cons n names =>
    change Reports _ (((Sql.checkAll "filter column" (n :: names)).mapError .request).map Sql.Term.reference)
    cases h : Sql.checkAll "filter column" (n :: names) with
    | ok is =>
      have hnames := (exists_checkAll_iff "filter column" (n :: names)).1 ⟨is, h⟩
      have hnone : (n :: names).find? (fun n => !isName n) = none :=
        List.find?_eq_none.2 fun m hm => by rw [hnames m hm]; exact Bool.false_ne_true
      exact .inl ⟨by rw [List.findSome?_singleton, Leaf.offence?_column_cons, hnone, Option.map_none], _, rfl⟩
    | error e =>
      obtain ⟨bad, hbad, rfl⟩ := checkAll_eq_error h
      exact .inr ⟨_, by rw [List.findSome?_singleton, Leaf.offence?_column_cons, hbad, Option.map_some], rfl⟩

theorem reports_literal (v : Literal) : Reports [.constant v] (Sql.Term.ofPredicate (.literal v)) := by
  cases v with
  | decimal x =>
    by_cases hfinite : x.isFinite = true
    · exact .inl ⟨by simp [Leaf.offence?, hfinite], _, if_pos hfinite⟩
    · exact .inr ⟨_, by simp [Leaf.offence?, hfinite], if_neg hfinite⟩
  | _ => exact .inl ⟨rfl, _, rfl⟩

theorem reports_ofPredicates {items : List Predicate}
    (h : ∀ p ∈ items, Reports p.leaves (Sql.Term.ofPredicate p)) :
    Reports (leavesOf items) (Sql.Term.ofPredicates items) := by
  induction items with
  | nil => exact Reports.ok []
  | cons p items ih =>
    obtain ⟨hp, hitems⟩ := List.forall_mem_cons.1 h
    exact hp.bind fun _ _ => (ih hitems).bind_ok _

/-- The operands of every form are checked from the left. -/
theorem reports_ofPredicate (p : Predicate) : Reports p.leaves (Sql.Term.ofPredicate p) := by
  induction p using Predicate.induct with
  | column parts => exact reports_column parts
  | literal v => exact reports_literal v
  | binary l op r hl hr => exact hl.bind fun _ _ => hr.bind_ok _
  | not p hp => exact hp.bind_ok _
  | isNull p hp => exact hp.bind_ok _
  | isNotNull p hp => exact hp.bind_ok _
  | inList p items negated hp hitems => exact hp.bind fun _ _ => (reports_ofPredicates hitems).bind_ok _
  | like p pattern negated hp hpattern => exact hp.bind fun _ _ => hpattern.bind_ok _
  | between p low high negated hp hlow hhigh =>
    exact hp.bind fun _ _ => hlow.bind fun _ _ => hhigh.bind_ok _

/-- The term has the form, the operators, the negations and the constants of the predicate, and refers to each
column by the identifiers of its parts. -/
inductive Mirrors : Predicate → Sql.Term → Prop
  | column {names : List String} {parts : List Sql.Identifier}
      (h : List.Forall₂ (fun name i => ∃ valid, i = .checked name valid) names parts) :
      Mirrors (.column names) (.reference parts)
  | literal (v : Literal) : Mirrors (.literal v) (.literal v)
  | binary {l r : Predicate} {tl tr : Sql.Term} (op : Operator) (hl : Mirrors l tl) (hr : Mirrors r tr) :
      Mirrors (.binary l op r) (.binary tl op tr)
  | not {p : Predicate} {t : Sql.Term} (h : Mirrors p t) : Mirrors (.not p) (.not t)
  | isNull {p : Predicate} {t : Sql.Term} (h : Mirrors p t) : Mirrors (.isNull p) (.isNull t)
  | isNotNull {p : Predicate} {t : Sql.Term} (h : Mirrors p t) : Mirrors (.isNotNull p) (.isNotNull t)
  | inList {p : Predicate} {t : Sql.Term} {items : List Predicate} {ts : List Sql.Term} (negated : Bool)
      (h : Mirrors p t) (hitems : List.Forall₂ Mirrors items ts) :
      Mirrors (.inList p items negated) (.inList t ts negated)
  | like {p pattern : Predicate} {t tpattern : Sql.Term} (negated : Bool) (h : Mirrors p t)
      (hpattern : Mirrors pattern tpattern) : Mirrors (.like p pattern negated) (.like t tpattern negated)
  | between {p low high : Predicate} {t tlow thigh : Sql.Term} (negated : Bool) (h : Mirrors p t)
      (hlow : Mirrors low tlow) (hhigh : Mirrors high thigh) :
      Mirrors (.between p low high negated) (.between t tlow thigh negated)

open Sql.Term in
theorem mirrors_of_ofPredicate {p : Predicate} {t : Sql.Term} (h : Sql.Term.ofPredicate p = .ok t) : Mirrors p t := by
  induction p using Predicate.induct generalizing t with
  | column names =>
    obtain ⟨-, parts, hparts, rfl⟩ := ofPredicate_column_eq_ok h
    exact .column (checkAll_eq_ok hparts)
  | literal v =>
    obtain rfl := ofPredicate_literal_eq_ok h
    exact .literal v
  | binary l op r ihl ihr =>
    obtain ⟨tl, tr, hl, hr, rfl⟩ := ofPredicate_binary_eq_ok h
    exact .binary op (ihl hl) (ihr hr)
  | not p ih =>
    obtain ⟨tp, hp, rfl⟩ := ofPredicate_not_eq_ok h
    exact .not (ih hp)
  | isNull p ih =>
    obtain ⟨tp, hp, rfl⟩ := ofPredicate_isNull_eq_ok h
    exact .isNull (ih hp)
  | isNotNull p ih =>
    obtain ⟨tp, hp, rfl⟩ := ofPredicate_isNotNull_eq_ok h
    exact .isNotNull (ih hp)
  | inList p items negated ih ihitems =>
    obtain ⟨tp, ts, hp, hitems, rfl⟩ := ofPredicate_inList_eq_ok h
    have hmirrors := (List.forall₂_and_left _ _).2 ⟨fun q hq => @ihitems q hq, ofPredicates_eq_ok hitems⟩
    exact .inList negated (ih hp) (hmirrors.imp fun _ _ hq => hq.1 hq.2)
  | like p pattern negated ih ihpattern =>
    obtain ⟨tp, tpattern, hp, hpattern, rfl⟩ := ofPredicate_like_eq_ok h
    exact .like negated (ih hp) (ihpattern hpattern)
  | between p low high negated ih ihlow ihhigh =>
    obtain ⟨tp, tlow, thigh, hp, hlow, hhigh, rfl⟩ := ofPredicate_between_eq_ok h
    exact .between negated (ih hp) (ihlow hlow) (ihhigh hhigh)

/-- A predicate enters queries if and only if all its columns are made of names and all its decimals are finite. The
term that it becomes mirrors it, and a refusal is the first offence from the left, for which the request is to
blame. -/
theorem ofPredicate_mirrors_or_reports (p : Predicate) :
    ((∃ t, Sql.Term.ofPredicate p = .ok t) ↔ p.IsProper) ∧
      (∀ t, Sql.Term.ofPredicate p = .ok t → Mirrors p t) ∧
      ∀ e, Sql.Term.ofPredicate p = .error e → p.leaves.findSome? Leaf.offence? = some e ∧ e.status = 400 := by
  refine ⟨⟨?_, ?_⟩, fun t ht => mirrors_of_ofPredicate ht, fun e he => ⟨?_, ?_⟩⟩
  · rintro ⟨t, ht⟩
    by_contra hnot
    obtain ⟨e, he⟩ := (checks_ofPredicate p).exists_error hnot
    rw [ht] at he
    cases he
  · exact (checks_ofPredicate p).exists_ok
  · exact (reports_ofPredicate p).findSome?_eq_of_error he
  · exact (checks_ofPredicate p).status_eq he

end Cohort.Predicate
