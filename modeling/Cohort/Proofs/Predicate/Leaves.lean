import Cohort.Proofs.Predicate.Leftward

/-!
# Leaves of predicates

The leaves of a predicate are its columns and its constants. They are all that two predicates of the same shape differ
in.
-/

namespace Cohort.Predicate

/-- A part of a predicate that has no predicate inside. -/
inductive Leaf
  | column (parts : List String)
  | constant (v : Literal)
  deriving DecidableEq, Repr

mutual

/-- The columns and the constants of a predicate, from the left. -/
def leaves : Predicate → List Leaf
  | .column parts => [.column parts]
  | .literal v => [.constant v]
  | .binary l _ r => l.leaves ++ r.leaves
  | .not p => p.leaves
  | .isNull p => p.leaves
  | .isNotNull p => p.leaves
  | .inList p items _ => p.leaves ++ leavesOf items
  | .like p pattern _ => p.leaves ++ pattern.leaves
  | .between p low high _ => p.leaves ++ (low.leaves ++ high.leaves)

def leavesOf : List Predicate → List Leaf
  | [] => []
  | p :: ps => p.leaves ++ leavesOf ps

end

theorem mem_leavesOf_iff {items : List Predicate} {leaf : Leaf} :
    leaf ∈ leavesOf items ↔ ∃ p ∈ items, leaf ∈ p.leaves := by
  induction items with
  | nil => simp [leavesOf]
  | cons q items ih => simp [leavesOf, ih]

mutual

/-- The predicate with other constants in the place of its own. -/
def mapConstants (f : Literal → Literal) : Predicate → Predicate
  | .column parts => .column parts
  | .literal v => .literal (f v)
  | .binary l op r => .binary (l.mapConstants f) op (r.mapConstants f)
  | .not p => .not (p.mapConstants f)
  | .isNull p => .isNull (p.mapConstants f)
  | .isNotNull p => .isNotNull (p.mapConstants f)
  | .inList p items negated => .inList (p.mapConstants f) (mapConstantsOf f items) negated
  | .like p pattern negated => .like (p.mapConstants f) (pattern.mapConstants f) negated
  | .between p low high negated =>
    .between (p.mapConstants f) (low.mapConstants f) (high.mapConstants f) negated

def mapConstantsOf (f : Literal → Literal) : List Predicate → List Predicate
  | [] => []
  | p :: ps => p.mapConstants f :: mapConstantsOf f ps

end

theorem mapConstantsOf_eq_map (f : Literal → Literal) (items : List Predicate) :
    mapConstantsOf f items = items.map (mapConstants f) := by
  induction items with
  | nil => rfl
  | cons p items ih => rw [mapConstantsOf, ih, List.map_cons]

@[simp] theorem mapConstants_id (p : Predicate) : p.mapConstants id = p := by
  induction p using induct with
  | inList p items negated ih ihitems =>
    rw [mapConstants, ih, mapConstantsOf_eq_map, List.map_congr_left ihitems, List.map_id']
  | _ => simp_all [mapConstants]

/-- No list is empty. -/
def IsFilled : Predicate → Prop
  | .binary l _ r => l.IsFilled ∧ r.IsFilled
  | .not p | .isNull p | .isNotNull p => p.IsFilled
  | .inList p items _ => p.IsFilled ∧ items ≠ [] ∧ areFilled items
  | .like p pattern _ => p.IsFilled ∧ pattern.IsFilled
  | .between p low high _ => p.IsFilled ∧ low.IsFilled ∧ high.IsFilled
  | _ => True
where
  areFilled : List Predicate → Prop
    | [] => True
    | p :: ps => p.IsFilled ∧ areFilled ps

theorem areFilled_iff {ps : List Predicate} : IsFilled.areFilled ps ↔ ∀ p ∈ ps, p.IsFilled := by
  induction ps with
  | nil => exact ⟨fun _ => List.forall_mem_nil _, fun _ => trivial⟩
  | cons p ps ih => exact (and_congr_right fun _ => ih).trans List.forall_mem_cons.symm

end Cohort.Predicate
