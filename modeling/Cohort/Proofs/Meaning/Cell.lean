import Cohort.Aggregate
import Cohort.Predicate.Basic
import Cohort.Time.Reading
import Mathlib.Algebra.Ring.Int.Defs
import Mathlib.Data.Finset.Card

/-!
# Values in columns

What operators, tests and aggregates make of the values in columns. A null makes an operator or a comparison null, a
condition is true, false or unknown, and aggregates pass over nulls. Whole numbers are compared and added as such; how
a dialect orders other values, what its arithmetic gives and how it matches patterns is left open.
-/

namespace Cohort

/-- A value in a column. -/
inductive Cell
  | null
  | boolean (b : Bool)
  | integer (i : Int)
  | decimal (x : Double)
  | string (s : String)
  | moment (t : Instant)
  deriving DecidableEq, Inhabited, Repr

namespace Cell

def ofLiteral : Literal → Cell
  | .null => .null
  | .boolean b => .boolean b
  | .integer i => .integer i
  | .decimal x => .decimal x
  | .string s => .string s

/-- A truth value, unknown if there is none. -/
def ofTruth : Option Bool → Cell
  | some b => .boolean b
  | none => .null

def truth : Cell → Option Bool
  | .boolean b => some b
  | _ => none

def integer? : Cell → Option Int
  | .integer i => some i
  | _ => none

end Cell

namespace Truth

/-- The opposite of a truth value, which is unknown where a null is. -/
def not : Option Bool → Option Bool := Option.map Bool.not

/-- False if either is, and true if both are. -/
def and : Option Bool → Option Bool → Option Bool
  | some false, _ => some false
  | _, some false => some false
  | some true, some true => some true
  | _, _ => none

/-- True if either is, and false if both are. -/
def or (a b : Option Bool) : Option Bool := not (and (not a) (not b))

end Truth

/-- What dialects decide for themselves, about values other than nulls. -/
structure Dialect where
  /-- The order of two values, if they can be compared. -/
  order : Cell → Cell → Option Ordering
  arithmetic : Operator → Cell → Cell → Cell
  /-- Whether a value fits a pattern. -/
  fits : Cell → Cell → Option Bool
  /-- The value that a text is cast to as a point in time. -/
  timestamp : String → Cell
  average : List Cell → Cell
  order_integer : ∀ m n : Int, order (.integer m) (.integer n) = some (compare m n)
  plus_integer : ∀ m n : Int, arithmetic .plus (.integer m) (.integer n) = .integer (m + n)

namespace Dialect

/-- Compares whole numbers, texts and points in time, which it reads as the data has them, and knows whole numbers. -/
def plain : Dialect where
  order
    | .integer m, .integer n => some (compare m n)
    | .string s, .string t => some (compare s t)
    | .moment s, .moment t => some ((compare s.seconds t.seconds).then (compare s.nanos t.nanos))
    | _, _ => none
  arithmetic
    | .plus, .integer m, .integer n => .integer (m + n)
    | .minus, .integer m, .integer n => .integer (m - n)
    | .multiply, .integer m, .integer n => .integer (m * n)
    | _, _, _ => .null
  fits _ _ := none
  timestamp text := ((Instant.ofText? (text ++ "Z")).map Cell.moment).getD .null
  average _ := .null
  order_integer _ _ := rfl
  plus_integer _ _ := rfl

variable (e : Dialect)

/-- Whether the comparison holds of values in that order. -/
def holds (op : Operator) (o : Ordering) : Bool :=
  match op with
  | .eq => o == .eq
  | .notEq => o != .eq
  | .lt => o == .lt
  | .ltEq => o != .gt
  | .gt => o == .gt
  | .gtEq => o != .lt
  | _ => false

/-- An operator between two values. -/
def binary (op : Operator) (a b : Cell) : Cell :=
  match op with
  | .and => .ofTruth (Truth.and a.truth b.truth)
  | .or => .ofTruth (Truth.or a.truth b.truth)
  | .plus | .minus | .multiply | .divide | .modulo => if a = .null ∨ b = .null then .null else e.arithmetic op a b
  | op => if a = .null ∨ b = .null then .null else .ofTruth ((e.order a b).map (holds op))

def not (a : Cell) : Cell := .ofTruth (Truth.not a.truth)

/-- The opposite of a test if it is negated. -/
def tested (negated : Bool) (a : Cell) : Cell := if negated then not a else a

/-- Whether the value equals one of the items. -/
def isIn (a : Cell) (items : List Cell) : Cell :=
  items.foldr (fun item found => e.binary .or (e.binary .eq a item) found) (.boolean false)

def like (a pattern : Cell) : Cell := if a = .null ∨ pattern = .null then .null else .ofTruth (e.fits a pattern)

def between (a low high : Cell) : Cell := e.binary .and (e.binary .gtEq a low) (e.binary .ltEq a high)

/-- The first of the values that is not null. -/
def coalesce (cells : List Cell) : Cell := (cells.find? fun c => c ≠ .null).getD .null

/-! ## Aggregates -/

/-- The values put together one after the other; null if there are none. -/
def reduce (f : Cell → Cell → Cell) : List Cell → Cell
  | [] => .null
  | c :: cs => cs.foldl f c

/-- The aggregate of the values that are not null. -/
def aggregate (f : AggregateFunction) (cells : List Cell) : Cell :=
  let present := cells.filter fun c => c ≠ .null
  match f with
  | .count => .integer present.length
  | .countUnique => .integer present.dedup.length
  | .sum => reduce (e.arithmetic .plus) present
  | .min => reduce (fun a b => if e.order b a = some .lt then b else a) present
  | .max => reduce (fun a b => if e.order b a = some .gt then b else a) present
  | .avg => if present = [] then .null else e.average present

end Dialect

/-- The whole numbers among the values. -/
def integersOf (cells : List Cell) : List Int := cells.filterMap Cell.integer?

/-- All values are whole numbers or null. -/
def AreIntegers (cells : List Cell) : Prop := ∀ c ∈ cells, c = .null ∨ ∃ i, c = .integer i

namespace AggregateFunction

/-- The number is the aggregate of the values that are not null. There is no sum, least or greatest of none. -/
def IsValue (f : AggregateFunction) (cells : List Cell) (n : Int) : Prop :=
  match f with
  | .count => n = (cells.filter fun c => c ≠ .null).length
  | .countUnique => n = (cells.filter fun c => c ≠ .null).toFinset.card
  | .sum => integersOf cells ≠ [] ∧ n = (integersOf cells).sum
  | .min => n ∈ integersOf cells ∧ ∀ i ∈ integersOf cells, n ≤ i
  | .max => n ∈ integersOf cells ∧ ∀ i ∈ integersOf cells, i ≤ n
  | .avg => False

/-- Anything can be counted; the sum, the least and the greatest are of whole numbers. -/
def IsDefinedOn (f : AggregateFunction) (cells : List Cell) : Prop :=
  match f with
  | .count | .countUnique => True
  | .sum | .min | .max => AreIntegers cells
  | .avg => False

theorem IsDefinedOn.of_subset {f : AggregateFunction} {cells cells' : List Cell} (h : f.IsDefinedOn cells)
    (hsubset : cells' ⊆ cells) : f.IsDefinedOn cells' := by
  have hintegers (hcells : AreIntegers cells) : AreIntegers cells' := fun c hc => hcells c (hsubset hc)
  cases f with
  | count => trivial
  | countUnique => trivial
  | sum => exact hintegers h
  | min => exact hintegers h
  | max => exact hintegers h
  | avg => exact h

end AggregateFunction

namespace Dialect

variable {e : Dialect} {cells : List Cell}

theorem filter_eq_map_integersOf (h : AreIntegers cells) :
    (cells.filter fun c => c ≠ .null) = (integersOf cells).map Cell.integer := by
  induction cells with
  | nil => rfl
  | cons c cells ih =>
    obtain ⟨hc, hcells⟩ := List.forall_mem_cons.1 h
    rcases hc with rfl | ⟨i, rfl⟩
    · exact ih hcells
    · exact congrArg (Cell.integer i :: ·) (ih hcells)

theorem reduce_plus_map_integer (i : Int) (is : List Int) :
    reduce (e.arithmetic .plus) ((i :: is).map Cell.integer) = .integer (i :: is).sum := by
  change (is.map Cell.integer).foldl (e.arithmetic .plus) (.integer i) = _
  induction is generalizing i with
  | nil => simp
  | cons j is ih =>
    rw [List.map_cons, List.foldl_cons, e.plus_integer, ih]
    simp only [List.sum_cons, Int.add_assoc]

/-- Keeping the better of two numbers ends with the best. -/
theorem reduce_better_map_integer {r : Int → Int → Prop} [DecidableRel r]
    (htrans : ∀ i j k, ¬r i j → ¬r j k → ¬r i k) (hself : ∀ i, ¬r i i)
    (hasymm : ∀ i j, r i j → ¬r j i) (f : Cell → Cell → Cell)
    (hf : ∀ i j, f (.integer i) (.integer j) = .integer (if r j i then j else i)) (i : Int) (is : List Int) :
    ∃ n ∈ i :: is, reduce f ((i :: is).map Cell.integer) = .integer n ∧ ∀ j ∈ i :: is, ¬r j n := by
  change ∃ n ∈ i :: is, (is.map Cell.integer).foldl f (.integer i) = _ ∧ _
  induction is generalizing i with
  | nil => exact ⟨i, List.mem_singleton_self i, rfl, List.forall_mem_singleton.2 (hself i)⟩
  | cons j is ih =>
    rw [List.map_cons, List.foldl_cons, hf]
    by_cases h : r j i
    · rw [if_pos h]
      obtain ⟨n, hn, hfold, hbest⟩ := ih j
      refine ⟨n, List.mem_cons_of_mem _ hn, hfold, List.forall_mem_cons.2 ⟨?_, hbest⟩⟩
      exact htrans i j n (hasymm j i h) (hbest j (List.mem_cons_self ..))
    · rw [if_neg h]
      obtain ⟨n, hn, hfold, hbest⟩ := ih i
      obtain ⟨hi, his⟩ := List.forall_mem_cons.1 hbest
      refine ⟨n, ?_, hfold, List.forall_mem_cons.2 ⟨hi, List.forall_mem_cons.2 ⟨htrans j i n h hi, his⟩⟩⟩
      rcases List.mem_cons.1 hn with rfl | hn
      · exact List.mem_cons_self ..
      · exact List.mem_cons_of_mem _ (List.mem_cons_of_mem _ hn)

theorem order_integer_eq_lt_iff (i j : Int) : e.order (.integer i) (.integer j) = some .lt ↔ i < j := by
  rw [e.order_integer, Option.some_inj, Int.compare_eq_lt]

theorem order_integer_eq_gt_iff (i j : Int) : e.order (.integer i) (.integer j) = some .gt ↔ j < i := by
  rw [e.order_integer, Option.some_inj, Int.compare_eq_gt]

/-- Keeping the better of two values ends with the best of the whole numbers, or with null if there are none. -/
theorem reduce_better_of_areIntegers {r : Int → Int → Prop} [DecidableRel r]
    (htrans : ∀ i j k, ¬r i j → ¬r j k → ¬r i k) (hself : ∀ i, ¬r i i)
    (hasymm : ∀ i j, r i j → ¬r j i) (f : Cell → Cell → Cell)
    (hf : ∀ i j, f (.integer i) (.integer j) = .integer (if r j i then j else i)) (h : AreIntegers cells) :
    (integersOf cells = [] ∧ reduce f (cells.filter fun c => c ≠ .null) = .null) ∨
      ∃ n ∈ integersOf cells,
        reduce f (cells.filter fun c => c ≠ .null) = .integer n ∧ ∀ j ∈ integersOf cells, ¬r j n := by
  rw [filter_eq_map_integersOf h]
  cases integersOf cells with
  | nil => exact .inl ⟨rfl, rfl⟩
  | cons i is => exact .inr (reduce_better_map_integer htrans hself hasymm f hf i is)

/-- An aggregate is null, and then there is no such value, or its value. -/
theorem aggregate_of_isDefinedOn {f : AggregateFunction} (h : f.IsDefinedOn cells) :
    (e.aggregate f cells = .null ∧ ∀ n, ¬f.IsValue cells n) ∨
      ∃ n, e.aggregate f cells = .integer n ∧ f.IsValue cells n := by
  cases f with
  | count => exact .inr ⟨_, rfl, rfl⟩
  | countUnique => exact .inr ⟨_, rfl, congrArg Nat.cast (List.card_toFinset _)⟩
  | avg => exact h.elim
  | sum =>
    have hsum : e.aggregate .sum cells = reduce (e.arithmetic .plus) ((integersOf cells).map Cell.integer) :=
      congrArg (reduce (e.arithmetic .plus)) (filter_eq_map_integersOf h)
    cases hcells : integersOf cells with
    | nil => exact .inl ⟨by rw [hsum, hcells]; rfl, fun n hn => hn.1 hcells⟩
    | cons i is =>
      refine .inr ⟨(i :: is).sum, by rw [hsum, hcells, reduce_plus_map_integer], ?_⟩
      change integersOf cells ≠ [] ∧ _ = (integersOf cells).sum
      rw [hcells]
      exact ⟨List.cons_ne_nil _ _, rfl⟩
  | min =>
    have hreduce := reduce_better_of_areIntegers (r := fun j i => j < i)
      (fun i j k hij hjk => by omega) (fun i => Int.lt_irrefl i) (fun i j hij => by omega)
      (fun a b => if e.order b a = some .lt then b else a)
      (fun i j => by simp only [order_integer_eq_lt_iff, apply_ite Cell.integer]) h
    rcases hreduce with ⟨hnone, hnull⟩ | ⟨n, hn, hvalue, hbest⟩
    · exact .inl ⟨hnull, fun n hn => List.ne_nil_of_mem hn.1 hnone⟩
    · exact .inr ⟨n, hvalue, hn, fun j hj => Int.not_lt.1 (hbest j hj)⟩
  | max =>
    have hreduce := reduce_better_of_areIntegers (r := fun j i => i < j)
      (fun i j k hij hjk => by omega) (fun i => Int.lt_irrefl i) (fun i j hij => by omega)
      (fun a b => if e.order b a = some .gt then b else a)
      (fun i j => by simp only [order_integer_eq_gt_iff, apply_ite Cell.integer]) h
    rcases hreduce with ⟨hnone, hnull⟩ | ⟨n, hn, hvalue, hbest⟩
    · exact .inl ⟨hnull, fun n hn => List.ne_nil_of_mem hn.1 hnone⟩
    · exact .inr ⟨n, hvalue, hn, fun j hj => Int.not_lt.1 (hbest j hj)⟩

end Dialect

namespace AggregateFunction

/-- There is at most one value. -/
theorem IsValue.unique {f : AggregateFunction} {cells : List Cell} {m n : Int} (hm : f.IsValue cells m)
    (hn : f.IsValue cells n) : m = n := by
  cases f with
  | count => exact hm.trans hn.symm
  | countUnique => exact hm.trans hn.symm
  | sum => exact hm.2.trans hn.2.symm
  | min => exact Int.le_antisymm (hm.2 n hn.1) (hn.2 m hm.1)
  | max => exact Int.le_antisymm (hn.2 m hm.1) (hm.2 n hn.1)
  | avg => exact hm.elim

end AggregateFunction

namespace Dialect

variable {e : Dialect} {f : AggregateFunction} {cells : List Cell}

theorem binary_gtEq_integer (m n : Int) : e.binary .gtEq (.integer m) (.integer n) = .boolean true ↔ n ≤ m := by
  have hbinary : e.binary .gtEq (.integer m) (.integer n) = .boolean (compare m n != .lt) := by
    simp [binary, e.order_integer, holds, Cell.ofTruth]
  rw [hbinary, Cell.boolean.injEq, bne_iff_ne, ne_eq, Int.compare_eq_lt, Int.not_lt]

theorem binary_lt_integer (m n : Int) : e.binary .lt (.integer m) (.integer n) = .boolean true ↔ m < n := by
  have hbinary : e.binary .lt (.integer m) (.integer n) = .boolean (compare m n == .lt) := by
    simp [binary, e.order_integer, holds, Cell.ofTruth]
  rw [hbinary, Cell.boolean.injEq, beq_iff_eq, Int.compare_eq_lt]

/-- A comparison with an aggregate is true if the aggregate has a value of which it is true; null meets no bound. -/
theorem binary_aggregate_iff {op : Operator} {r : Int → Int → Prop} {n : Int} (h : f.IsDefinedOn cells)
    (hnull : e.binary op .null (.integer n) = .null)
    (hinteger : ∀ m, e.binary op (.integer m) (.integer n) = .boolean true ↔ r m n) :
    e.binary op (e.aggregate f cells) (.integer n) = .boolean true ↔ ∃ v, f.IsValue cells v ∧ r v n := by
  rcases aggregate_of_isDefinedOn (e := e) h with ⟨haggregate, hnone⟩ | ⟨m, haggregate, hm⟩
  · rw [haggregate, hnull]
    constructor
    · intro h
      cases h
    · rintro ⟨v, hv, -⟩
      exact absurd hv (hnone v)
  · rw [haggregate, hinteger]
    constructor
    · intro hr
      exact ⟨m, hm, hr⟩
    · rintro ⟨v, hv, hr⟩
      rwa [hm.unique hv]

theorem binary_gtEq_aggregate_iff {n : Int} (h : f.IsDefinedOn cells) :
    e.binary .gtEq (e.aggregate f cells) (.integer n) = .boolean true ↔ ∃ v, f.IsValue cells v ∧ n ≤ v :=
  binary_aggregate_iff (r := fun v n => n ≤ v) h (by simp [binary]) fun m => binary_gtEq_integer m n

theorem binary_lt_aggregate_iff {n : Int} (h : f.IsDefinedOn cells) :
    e.binary .lt (e.aggregate f cells) (.integer n) = .boolean true ↔ ∃ v, f.IsValue cells v ∧ v < n :=
  binary_aggregate_iff h (by simp [binary]) fun m => binary_lt_integer m n

end Dialect

end Cohort
