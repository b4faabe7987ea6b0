import Cohort.Predicate.Basic

/-!
# Chains of logical operators

The text of a predicate does not tell how operands that are joined by one logical operator are grouped. Reading it
back groups them from the left: `Predicate.leftward` is the predicate with all its chains in that form and is
otherwise unchanged.
-/

namespace Cohort.Predicate

/-- Induction on a predicate, where the items of a list are smaller predicates too. -/
theorem induct {P : Predicate → Prop} (column : ∀ parts, P (.column parts)) (literal : ∀ v, P (.literal v))
    (binary : ∀ l op r, P l → P r → P (.binary l op r)) (not : ∀ p, P p → P (.not p))
    (isNull : ∀ p, P p → P (.isNull p)) (isNotNull : ∀ p, P p → P (.isNotNull p))
    (inList : ∀ p items negated, P p → (∀ q ∈ items, P q) → P (.inList p items negated))
    (like : ∀ p pattern negated, P p → P pattern → P (.like p pattern negated))
    (between : ∀ p low high negated, P p → P low → P high → P (.between p low high negated))
    (p : Predicate) : P p :=
  @Predicate.rec P (fun items => ∀ q ∈ items, P q) column literal (fun l op r => binary l op r) not isNull isNotNull
    (fun p items negated => inList p items negated) (fun p pattern negated => like p pattern negated)
    (fun p low high negated => between p low high negated) (List.forall_mem_nil P)
    (fun _ _ hq hqs => List.forall_mem_cons.2 ⟨hq, hqs⟩) p

/-- The operands of a predicate, from the left, as far as the operator joins them. -/
def operands (op : Operator) : Predicate → List Predicate
  | .binary l other r => if other = op then operands op l ++ operands op r else [.binary l other r]
  | p => [p]

/-- The operands of `p` joined to what stands before them, one after the other. -/
def after (op : Operator) (before : Predicate) : Predicate → Predicate
  | .binary l other r =>
    if other = op then .binary (after op before l) op r else .binary before op (.binary l other r)
  | p => .binary before op p

mutual

/-- The predicate with the operands of every logical operator grouped from the left. -/
def leftward : Predicate → Predicate
  | .column parts => .column parts
  | .literal v => .literal v
  | .binary l op r =>
    if op.isLogical then after op l.leftward r.leftward else .binary l.leftward op r.leftward
  | .not p => .not p.leftward
  | .isNull p => .isNull p.leftward
  | .isNotNull p => .isNotNull p.leftward
  | .inList p items negated => .inList p.leftward (leftwards items) negated
  | .like p pattern negated => .like p.leftward pattern.leftward negated
  | .between p low high negated => .between p.leftward low.leftward high.leftward negated

def leftwards : List Predicate → List Predicate
  | [] => []
  | p :: ps => p.leftward :: leftwards ps

end

/-- Joining is associative. -/
theorem after_after (op : Operator) (before p q : Predicate) :
    after op before (after op p q) = after op (after op before p) q := by
  induction q using induct with
  | binary l other r ihl ihr =>
    by_cases h : other = op
    · simp [after, h, ihl]
    · simp [after, h]
  | _ => simp [after]

/-- Predicates that the operator does not join at their top. -/
def IsOperand (op : Operator) : Predicate → Prop
  | .binary _ other _ => other ≠ op
  | _ => True

theorem after_of_isOperand {op : Operator} {p : Predicate} (h : p.IsOperand op) (before : Predicate) :
    after op before p = .binary before op p := by
  cases p with
  | binary l other r => rw [after, if_neg h]
  | _ => rfl

theorem exists_after_eq_binary (op : Operator) (before p : Predicate) : ∃ l r, after op before p = .binary l op r := by
  cases p with
  | binary l other r =>
    by_cases h : other = op
    · exact ⟨_, _, by rw [after, if_pos h]⟩
    · exact ⟨_, _, by rw [after, if_neg h]⟩
  | _ => exact ⟨_, _, rfl⟩

theorem IsOperand.leftward {op : Operator} {p : Predicate} (h : p.IsOperand op) : p.leftward.IsOperand op := by
  cases p with
  | binary l other r =>
    unfold Predicate.leftward
    split
    · obtain ⟨l', r', heq⟩ := exists_after_eq_binary other l.leftward r.leftward
      rw [heq]
      exact h
    · exact h
  | _ => trivial

theorem operands_after (op : Operator) (before p : Predicate) :
    operands op (after op before p) = operands op before ++ operands op p := by
  induction p using induct with
  | binary l other r ihl ihr =>
    by_cases h : other = op
    · simp [after, operands, h, ihl]
    · simp [after, operands, h]
  | _ => simp [after, operands]

/-- The operands stay the same and in the same order. -/
theorem operands_leftward {op : Operator} (hop : op.isLogical = true) (p : Predicate) :
    operands op p.leftward = (operands op p).map leftward := by
  induction p using induct with
  | binary l other r ihl ihr =>
    by_cases h : other = op
    · subst h
      simp [leftward, hop, operands, operands_after, ihl, ihr]
    · have hoperand : IsOperand op (.binary l other r) := h
      have hleftward := hoperand.leftward
      rw [operands, if_neg h, List.map_cons, List.map_nil]
      generalize leftward (.binary l other r) = q at hleftward
      cases q with
      | binary l' other' r' => rw [operands, if_neg hleftward]
      | _ => rfl
  | _ => simp [leftward, operands]

/-- No operand of a logical operator on the right side of one is joined by it again. -/
def IsLeftmost : Predicate → Prop
  | .binary l op r => l.IsLeftmost ∧ r.IsLeftmost ∧ (op.isLogical = true → r.IsOperand op)
  | .not p | .isNull p | .isNotNull p => p.IsLeftmost
  | .inList p items _ => p.IsLeftmost ∧ areLeftmost items
  | .like p pattern _ => p.IsLeftmost ∧ pattern.IsLeftmost
  | .between p low high _ => p.IsLeftmost ∧ low.IsLeftmost ∧ high.IsLeftmost
  | _ => True
where
  areLeftmost : List Predicate → Prop
    | [] => True
    | p :: ps => p.IsLeftmost ∧ areLeftmost ps

theorem isLeftmost_after {op : Operator} (before p : Predicate) (hbefore : before.IsLeftmost) (hp : p.IsLeftmost) :
    (after op before p).IsLeftmost := by
  induction p using induct with
  | binary l other r ihl ihr =>
    by_cases h : other = op
    · subst h
      rw [after, if_pos rfl]
      exact ⟨ihl hp.1, hp.2.1, hp.2.2⟩
    · rw [after, if_neg h]
      exact ⟨hbefore, hp, fun _ => h⟩
  | _ => exact ⟨hbefore, hp, fun _ => trivial⟩

/-- All chains are grouped from the left. -/
theorem isLeftmost_leftward (p : Predicate) : p.leftward.IsLeftmost := by
  induction p using induct with
  | column parts => trivial
  | literal v => trivial
  | binary l op r ihl ihr =>
    unfold leftward
    split
    · exact isLeftmost_after _ _ ihl ihr
    · rename_i hop
      exact ⟨ihl, ihr, fun h => absurd h hop⟩
  | not p ih => exact ih
  | isNull p ih => exact ih
  | isNotNull p ih => exact ih
  | inList p items negated ih ihs =>
    refine ⟨ih, ?_⟩
    induction items with
    | nil => trivial
    | cons q qs ihqs =>
      obtain ⟨hq, hqs⟩ := List.forall_mem_cons.1 ihs
      exact ⟨hq, ihqs hqs⟩
  | like p pattern negated ih ihpattern => exact ⟨ih, ihpattern⟩
  | between p low high negated ih ihlow ihhigh => exact ⟨ih, ihlow, ihhigh⟩

end Cohort.Predicate
