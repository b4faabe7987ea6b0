import Cohort.Proofs.Grammar.Reads
import Cohort.Proofs.Predicate.Conversion
import Cohort.Proofs.Predicate.Leaves

/-!
# Predicates read back

The text of an accepted predicate reads back as the predicate, but for the grouping of chains of logical operators,
which becomes leftward. The brackets of the text follow from ranks, and the grammar goes by strengths; what makes the
two fit is that an operand without brackets grips everything in it more strongly than the operator beside it does.
-/

namespace Cohort

open Rule (Reads Climbs Closes Starts Follower Follows)
open Sql (Term Token Slot bracketed bracketed_false operatorRank testRank signSlots)

/-- Whether the constant has a numeral that reads back as it: whole numbers within 64 bits, without the least one. -/
def Literal.IsReadable : Literal → Prop
  | .decimal _ => False
  | .integer n => -(twoPow 63 : Int) < n ∧ n < twoPow 63
  | _ => True

namespace Predicate

/-- All constants can be read back, and no list is empty. -/
def IsReadable : Predicate → Prop
  | .column _ => True
  | .literal v => v.IsReadable
  | .binary l _ r => l.IsReadable ∧ r.IsReadable
  | .not p | .isNull p | .isNotNull p => p.IsReadable
  | .inList p items _ => p.IsReadable ∧ items ≠ [] ∧ areReadable items
  | .like p pattern _ => p.IsReadable ∧ pattern.IsReadable
  | .between p low high _ => p.IsReadable ∧ low.IsReadable ∧ high.IsReadable
where
  areReadable : List Predicate → Prop
    | [] => True
    | p :: ps => p.IsReadable ∧ areReadable ps

theorem areReadable_iff {ps : List Predicate} : IsReadable.areReadable ps ↔ ∀ p ∈ ps, p.IsReadable := by
  induction ps with
  | nil => exact ⟨fun _ => List.forall_mem_nil _, fun _ => trivial⟩
  | cons p ps ih => exact (and_congr_right fun _ => ih).trans List.forall_mem_cons.symm

/-- The strength of the weakest operator outside brackets. -/
def grip : Predicate → Nat
  | .binary _ op _ => op.strength
  | .isNull _ | .isNotNull _ => Rule.isStrength
  | .inList .. | .between .. => Rule.comparisonStrength
  | .like .. => Rule.likeStrength
  | _ => Rule.productStrength + 1

/-- The strength that an operator after the predicate must not exceed. -/
def hold : Predicate → Nat
  | .binary _ op _ => op.strength
  | .not _ => Rule.notStrength
  | .like .. => Rule.likeStrength
  | .between .. => Rule.comparisonStrength
  | _ => Rule.productStrength

/-- The least grip of predicates of that rank or a higher one. -/
def leastGrip (rank : Nat) : Nat :=
  if rank ≤ 1 then Rule.orStrength
  else if rank ≤ 2 then Rule.andStrength
  else if rank ≤ 4 then Rule.isStrength
  else if rank ≤ 5 then Rule.sumStrength
  else if rank ≤ 6 then Rule.productStrength
  else Rule.productStrength + 1

/-- The least hold of predicates of that rank or a higher one. -/
def leastHold (rank : Nat) : Nat :=
  if rank ≤ 1 then Rule.orStrength
  else if rank ≤ 2 then Rule.andStrength
  else if rank ≤ 3 then Rule.notStrength
  else if rank ≤ 4 then Rule.likeStrength
  else if rank ≤ 5 then Rule.sumStrength
  else Rule.productStrength

theorem leastGrip_mono {m n : Nat} (h : m ≤ n) : leastGrip m ≤ leastGrip n := by
  unfold leastGrip Rule.orStrength Rule.andStrength Rule.isStrength Rule.sumStrength Rule.productStrength
  grind

theorem leastHold_mono {m n : Nat} (h : m ≤ n) : leastHold m ≤ leastHold n := by
  unfold leastHold Rule.orStrength Rule.andStrength Rule.notStrength Rule.likeStrength Rule.sumStrength
    Rule.productStrength
  grind

theorem leastGrip_le (p : Predicate) {n : Nat} (h : n ≤ p.rank) : leastGrip n ≤ p.grip := by
  have hrank : leastGrip p.rank ≤ p.grip := by
    cases p with
    | binary l op r => cases op <;> exact Nat.le_of_ble_eq_true rfl
    | _ => exact Nat.le_of_ble_eq_true rfl
  calc
    leastGrip n ≤ leastGrip p.rank := leastGrip_mono h
    _ ≤ p.grip := hrank

theorem leastHold_le (p : Predicate) {n : Nat} (h : n ≤ p.rank) : leastHold n ≤ p.hold := by
  have hrank : leastHold p.rank ≤ p.hold := by
    cases p with
    | binary l op r => cases op <;> exact Nat.le_of_ble_eq_true rfl
    | _ => exact Nat.le_of_ble_eq_true rfl
  calc
    leastHold n ≤ leastHold p.rank := leastHold_mono h
    _ ≤ p.hold := hrank

theorem le_rank_of_isLoose_eq_false {p : Predicate} {outer : Nat} {strict : Bool} (h : p.isLoose outer strict = false) :
    outer + strict.toNat ≤ p.rank := by
  cases strict <;> simp [isLoose] at h <;> simp <;> omega

/-- No token of a query is a square bracket. -/
theorem leftBracket_not_mem_map_token (slots : List Slot) : Token.symbol .leftBracket ∉ slots.map Slot.token := by
  have hslot : ∀ s : Slot, s.token ≠ .symbol .leftBracket := by
    intro s
    cases s with
    | mark m => cases m <;> decide
    | operator op => cases op <;> decide
    | word | numeral | instant | name | content => exact nofun
  intro hmem
  obtain ⟨s, -, hs⟩ := List.mem_map.1 hmem
  exact hslot s hs

theorem leftBracket_not_mem_tokens {p : Predicate} {t : Term} (h : Term.ofPredicate p = .ok t) :
    Token.symbol .leftBracket ∉ p.tokens := by
  rw [← tokens_script_of_ofPredicate h, t.tokens_script]
  exact leftBracket_not_mem_map_token t.slots

theorem leftBracket_not_mem_bracketed {ts : List Token} (h : Token.symbol .leftBracket ∉ ts) (parentheses : Bool) :
    Token.symbol .leftBracket ∉ bracketed parentheses ts := by
  cases parentheses with
  | false => exact h
  | true => simp [h]

theorem starts_bracketed {ts : List Token} (h : Starts ts) (parentheses : Bool) : Starts (bracketed parentheses ts) := by
  cases parentheses with
  | false => exact h
  | true => exact Rule.starts_of_capitals?_eq_none rfl _

theorem starts_slots (v : Literal) : Starts (v.slots.map Slot.token) := by
  have hsign : ∀ negative digits, Starts ((signSlots negative ++ [Slot.numeral digits]).map Slot.token) := by
    intro negative digits
    cases negative <;> exact Rule.starts_of_capitals?_eq_none rfl _
  cases v with
  | null => exact ⟨_, _, rfl, .inr (by decide)⟩
  | boolean b => cases b <;> exact ⟨_, _, rfl, .inr (by decide)⟩
  | integer i => exact hsign _ _
  | decimal x =>
    rw [Literal.slots_decimal]
    split
    · exact hsign _ _
    · exact ⟨_, _, rfl, .inr (by decide)⟩
  | string s => exact Rule.starts_of_capitals?_eq_none rfl _

theorem tokens_column (name : String) (names : List String) :
    (Predicate.column (name :: names)).tokens = .word name (some '"') :: Rule.laterNames names := by
  induction names generalizing name with
  | nil => rfl
  | cons next names ih => exact congrArg (Token.word name (some '"') :: Token.symbol .period :: ·) (ih next)

theorem starts_tokens {p : Predicate} {t : Term} (h : Term.ofPredicate p = .ok t) : Starts p.tokens := by
  induction p using induct generalizing t with
  | column names =>
    obtain ⟨hne, -⟩ := Term.ofPredicate_column_eq_ok h
    match names, hne with
    | name :: names, _ =>
      rw [tokens_column]
      exact Rule.starts_of_capitals?_eq_none rfl _
  | literal v =>
    rw [tokens, v.tokens_script]
    exact starts_slots v
  | binary l op r ihl ihr =>
    obtain ⟨tl, tr, hl, -, -⟩ := Term.ofPredicate_binary_eq_ok h
    exact (starts_bracketed (ihl hl) _).append _
  | not p ih => exact ⟨_, _, rfl, .inr (by decide)⟩
  | isNull p ih =>
    obtain ⟨tp, hp, -⟩ := Term.ofPredicate_isNull_eq_ok h
    exact (starts_bracketed (ih hp) _).append _
  | isNotNull p ih =>
    obtain ⟨tp, hp, -⟩ := Term.ofPredicate_isNotNull_eq_ok h
    exact (starts_bracketed (ih hp) _).append _
  | inList p items negated ih ihitems =>
    obtain ⟨tp, ts, hp, -, -⟩ := Term.ofPredicate_inList_eq_ok h
    exact (starts_bracketed (ih hp) _).append _
  | like p pattern negated ih ihpattern =>
    obtain ⟨tp, tpattern, hp, -, -⟩ := Term.ofPredicate_like_eq_ok h
    exact (starts_bracketed (ih hp) _).append _
  | between p low high negated ih ihlow ihhigh =>
    obtain ⟨tp, tlow, thigh, hp, -, -, -⟩ := Term.ofPredicate_between_eq_ok h
    exact (starts_bracketed (ih hp) _).append _

theorem ofNumeral_toString {n : Nat} (h : n < twoPow 63) : Literal.ofNumeral (toString n) = .ok (.integer n) := by
  have hall : (toString n).toList.all Char.isDigit = true := List.all_eq_true.2 (areDigits_toString n)
  have hvalue := digitsValue_toString n
  have hwhole : wholeNumber? (toString n) = some (n : Int) := by
    unfold wholeNumber?
    dsimp only
    rw [hvalue, if_pos ⟨toList_toString_ne_nil n, hall, h⟩]
  rw [Literal.ofNumeral, hwhole]

theorem standsFor_numeral {n : Nat} (h : n < twoPow 63) :
    StandsFor (.number (toString n) false) (.literal (.integer n)) := by
  exact standsFor_number_iff.2 ⟨_, ofNumeral_toString h, rfl⟩

theorem reads_numeral (digits : String) (grip : Nat) :
    Reads [.number digits false] 0 grip Rule.productStrength (.number digits false) :=
  Rule.reads_of_bareOperand (Rule.starts_of_capitals?_eq_none rfl _) (leftBracket_not_mem_map_token [.numeral digits])
    fun _ _ _ _ _ _ => rfl

theorem reads_minus_numeral (digits : String) (grip : Nat) :
    Reads [.symbol .minus, .number digits false] 0 grip Rule.productStrength (.minus (.number digits false)) := by
  refine Rule.reads_of_bareOperand (Rule.starts_of_capitals?_eq_none rfl _)
    (leftBracket_not_mem_map_token [.mark .minus, .numeral digits]) ?_
  intro fuel levels rest hfuel hlevels hrest
  have hnumeral := reads_numeral digits (Rule.productStrength + 1)
  exact Rule.bareOperand_minus
    (hnumeral.operation_eq_ok hfuel hlevels (Nat.lt_succ_self _) hrest hrest.strength_le)

theorem exists_reads_literal {v : Literal} (hv : v.IsReadable) (grip : Nat) :
    ∃ φ, StandsFor φ (.literal v) ∧ Reads v.script.tokens 0 grip Rule.productStrength φ := by
  have hstart := starts_slots v
  have hflat := leftBracket_not_mem_map_token v.slots
  rw [Literal.tokens_script]
  cases v with
  | null =>
    refine ⟨.null, rfl, Rule.reads_of_bareOperand hstart hflat ?_⟩
    exact fun _ _ rest _ _ _ => Rule.bareOperand_null rest
  | boolean b =>
    refine ⟨.boolean b, rfl, Rule.reads_of_bareOperand hstart hflat ?_⟩
    cases b with
    | false => exact fun _ _ rest _ _ _ => Rule.bareOperand_false rest
    | true => exact fun _ _ rest _ _ _ => Rule.bareOperand_true rest
  | integer i =>
    obtain ⟨hlow, hhigh⟩ := hv
    have hnumeral : StandsFor (.number (toString i.natAbs) false) (.literal (.integer i.natAbs)) :=
      standsFor_numeral (by omega)
    by_cases hi : i < 0
    · have hvalue : -(i.natAbs : Int) = i := by omega
      refine ⟨.minus (.number (toString i.natAbs) false), ?_, ?_⟩
      · have hminus := standsFor_minus_iff.2 ⟨_, hnumeral, rfl⟩
        rwa [negated, hvalue] at hminus
      · rw [Literal.slots, decide_eq_true hi]
        exact reads_minus_numeral _ grip
    · have hvalue : (i.natAbs : Int) = i := by omega
      refine ⟨.number (toString i.natAbs) false, ?_, ?_⟩
      · rwa [hvalue] at hnumeral
      · rw [Literal.slots, decide_eq_false hi]
        exact reads_numeral _ grip
  | decimal x => exact hv.elim
  | string s => exact ⟨.string s, rfl, Rule.reads_of_bareOperand hstart hflat fun _ _ _ _ _ _ => rfl⟩

theorem exists_reads_column {names : List String} {t : Term} (h : Term.ofPredicate (.column names) = .ok t)
    (grip : Nat) :
    ∃ φ, StandsFor φ (.column names) ∧ Reads (Predicate.column names).tokens 0 grip Rule.productStrength φ := by
  have hstart := starts_tokens h
  have hflat := leftBracket_not_mem_tokens h
  obtain ⟨hne, -⟩ := Term.ofPredicate_column_eq_ok h
  match names, hne with
  | [name], _ =>
    refine ⟨.name ⟨name, some '"'⟩, rfl, Rule.reads_of_bareOperand hstart hflat ?_⟩
    exact fun _ _ rest _ _ hrest => Rule.bareOperand_name name hrest.follows
  | name :: next :: names, _ =>
    refine ⟨.path ((name :: next :: names).map fun n => ⟨n, some '"'⟩), ?_,
      Rule.reads_of_bareOperand hstart hflat ?_⟩
    · have htexts : ((name :: next :: names).map fun n => (⟨n, some '"'⟩ : WrittenName)).map WrittenName.text =
          name :: next :: names := by
        rw [List.map_map]
        exact List.map_id _
      exact congrArg (Except.ok ∘ Predicate.column) htexts
    · intro fuel levels rest hfuel hlevels hrest
      rw [tokens_column, List.cons_append]
      exact Rule.bareOperand_path name next names hrest.follows

/-! ## Operands -/

/-- The tokens of the predicate read as a phrase for the leftward form of a predicate, which is itself if its constants
can be read back. -/
def IsReadAs (p q : Predicate) : Prop := ∃ φ, StandsFor φ q.leftward ∧ Reads p.tokens p.depth p.grip p.hold φ

theorem grip_pos (p : Predicate) : 0 < p.grip := by
  cases p with
  | binary l op r => cases op <;> exact Nat.le_of_ble_eq_true rfl
  | _ => exact Nat.le_of_ble_eq_true rfl

theorem leastGrip_le_succ_productStrength (n : Nat) : leastGrip n ≤ Rule.productStrength + 1 := by
  unfold leastGrip Rule.orStrength Rule.andStrength Rule.isStrength Rule.sumStrength Rule.productStrength
  grind

theorem leastHold_le_productStrength (n : Nat) : leastHold n ≤ Rule.productStrength := by
  unfold leastHold Rule.orStrength Rule.andStrength Rule.notStrength Rule.likeStrength Rule.sumStrength
    Rule.productStrength
  grind

/-- An operand, in brackets if its rank says so, is read with at least the grip and hold of the ranks that go
without brackets. -/
theorem IsReadAs.operand {p q : Predicate} {t : Term} (h : p.IsReadAs q) (ht : Term.ofPredicate p = .ok t) {outer : Nat}
    {strict : Bool} {n : Nat} (hn : p.isLoose outer strict = false → n ≤ p.rank) :
    ∃ φ, StandsFor φ q.leftward ∧ Reads (bracketed (p.isLoose outer strict) p.tokens)
      (enclosedDepth (p.isLoose outer strict) p.depth) (leastGrip n) (leastHold n) φ := by
  obtain ⟨φ, hφ, hread⟩ := h
  cases hloose : p.isLoose outer strict with
  | false =>
    exact ⟨φ, hφ, hread.mono (Nat.le_refl _) (leastGrip_le p (hn hloose)) (leastHold_le p (hn hloose))⟩
  | true =>
    have hbracketed : Reads (bracketed true p.tokens) (p.depth + 1) (Rule.productStrength + 1) Rule.productStrength
        (.nested φ) :=
      hread.bracketed_true (starts_tokens ht) (leftBracket_not_mem_tokens ht) p.grip_pos
    exact ⟨.nested φ, standsFor_nested_iff.2 hφ, hbracketed.mono (Nat.le_refl _) (leastGrip_le_succ_productStrength n)
      (leastHold_le_productStrength n)⟩

/-- An operand under the rule for brackets that belongs to its place. -/
theorem IsReadAs.operand' {p q : Predicate} {t : Term} (h : p.IsReadAs q) (ht : Term.ofPredicate p = .ok t)
    (outer : Nat) (strict : Bool) :
    ∃ φ, StandsFor φ q.leftward ∧ Reads (bracketed (p.isLoose outer strict) p.tokens)
      (enclosedDepth (p.isLoose outer strict) p.depth) (leastGrip (outer + strict.toNat))
      (leastHold (outer + strict.toNat)) φ :=
  h.operand ht le_rank_of_isLoose_eq_false

theorem closes_append_of_follower {t : Token} (ht : Follower t) {ts : List Token} {hold : Nat}
    (hflat : Token.symbol .leftBracket ∉ t :: ts) (hstrength : ∀ rest, Rule.strength (t :: ts ++ rest) ≤ hold)
    {rest : List Token} (hrest : Token.symbol .leftBracket ∉ rest) : Closes hold (t :: ts ++ rest) := by
  refine ⟨Rule.follows_cons ht _, ?_, hstrength rest⟩
  intro hmem
  exact (List.mem_append.1 hmem).elim hflat hrest

theorem leftBracket_not_mem_operator_cons (op : Operator) {ts : List Token} (h : Token.symbol .leftBracket ∉ ts) :
    Token.symbol .leftBracket ∉ op.token :: ts := by
  intro hmem
  rcases List.mem_cons.1 hmem with heq | hmem
  · cases op <;> cases heq
  · exact h hmem

theorem closes_operator (op : Operator) {ts : List Token} {hold : Nat} (hflat : Token.symbol .leftBracket ∉ ts)
    (hhold : op.strength ≤ hold) {rest : List Token} (hrest : Token.symbol .leftBracket ∉ rest) :
    Closes hold (op.token :: ts ++ rest) := by
  refine closes_append_of_follower (.operator op) (leftBracket_not_mem_operator_cons op hflat) (fun rest => ?_) hrest
  rw [List.cons_append, Rule.strength_operator]
  exact hhold

/-- Left operands of an operator bind at least as strongly as the operator. -/
theorem strength_le_least (op : Operator) :
    op.strength ≤ leastGrip (operatorRank op + op.isComparison.toNat) ∧
      op.strength ≤ leastHold (operatorRank op + op.isComparison.toNat) := by
  cases op <;> exact ⟨Nat.le_of_ble_eq_true rfl, Nat.le_of_ble_eq_true rfl⟩

/-- What binds more strongly by rank than an operator can be its right operand. -/
theorem strength_lt_least (op : Operator) :
    op.strength < leastGrip (operatorRank op + 1) ∧ op.strength ≤ leastHold (operatorRank op + 1) := by
  cases op <;> exact ⟨Nat.le_of_ble_eq_true rfl, Nat.le_of_ble_eq_true rfl⟩

/-- An operator and its right operand are taken after any phrase. -/
theorem IsReadAs.climbs {p q : Predicate} {t : Term} (h : p.IsReadAs q) (ht : Term.ofPredicate p = .ok t)
    {op : Operator}
    (hrank : p.isLoose (operatorRank op) (!op.isLogical) = false → operatorRank op + 1 ≤ p.rank) :
    ∃ ψ, StandsFor ψ q.leftward ∧
      ∀ φ, Climbs (op.token :: bracketed (p.isLoose (operatorRank op) (!op.isLogical)) p.tokens)
        (enclosedDepth (p.isLoose (operatorRank op) (!op.isLogical)) p.depth) op.strength op.strength φ
        (.binary φ (.known op) ψ) := by
  obtain ⟨ψ, hψ, hread⟩ := h.operand ht hrank
  obtain ⟨hgrip, hhold⟩ := strength_lt_least op
  exact ⟨ψ, hψ, fun φ => Rule.climbs_operator op hread (starts_bracketed (starts_tokens ht) _) hgrip hhold⟩

/-- After a phrase for what stands before, a logical operator and the tokens of the predicate are taken to a phrase
for both, with the operands that the predicate is read as joined one after the other. -/
def IsJoinedAs (op : Operator) (p q : Predicate) : Prop :=
  ∀ φ before, StandsFor φ before → ∃ ψ, StandsFor ψ (after op before q.leftward) ∧
    Climbs (op.token :: bracketed (p.isLoose (operatorRank op) (!op.isLogical)) p.tokens)
      (enclosedDepth (p.isLoose (operatorRank op) (!op.isLogical)) p.depth) op.strength op.strength φ ψ

theorem rank_ne_of_isOperand {p : Predicate} {op : Operator} (hop : op.isLogical = true) (h : p.IsOperand op) :
    p.rank ≠ operatorRank op := by
  cases p with
  | binary l other r => cases op <;> cases hop <;> cases other <;> first | exact absurd rfl h | exact nofun
  | _ => cases op <;> cases hop <;> exact nofun

/-- A predicate that a logical operator does not join is one operand. -/
theorem IsReadAs.isJoinedAs {p q : Predicate} {t : Term} (h : p.IsReadAs q) (ht : Term.ofPredicate p = .ok t)
    {op : Operator} (hop : op.isLogical = true) (hoperand : p.IsOperand op) (hoperand' : q.IsOperand op) :
    IsJoinedAs op p q := by
  intro φ before hφ
  have hrank : p.isLoose (operatorRank op) (!op.isLogical) = false → operatorRank op + 1 ≤ p.rank := by
    intro hloose
    have hle := le_rank_of_isLoose_eq_false hloose
    have hne := rank_ne_of_isOperand hop hoperand
    omega
  obtain ⟨ψ, hψ, hclimbs⟩ := h.climbs ht hrank
  refine ⟨.binary φ (.known op) ψ, ?_, hclimbs φ⟩
  rw [after_of_isOperand hoperand'.leftward]
  exact standsFor_binary_iff.2 ⟨_, op, _, hφ, rfl, hψ, rfl⟩

/-- Without brackets around what a logical operator joins, each part stands after an operator of its own. -/
theorem tokens_and_depth_joined (l r : Predicate) {op : Operator} (hop : op.isLogical = true) :
    op.token :: bracketed ((Predicate.binary l op r).isLoose (operatorRank op) (!op.isLogical))
          (Predicate.binary l op r).tokens =
        op.token :: bracketed (l.isLoose (operatorRank op) (!op.isLogical)) l.tokens ++
          op.token :: bracketed (r.isLoose (operatorRank op) (!op.isLogical)) r.tokens ∧
      enclosedDepth ((Predicate.binary l op r).isLoose (operatorRank op) (!op.isLogical))
          (Predicate.binary l op r).depth =
        max (enclosedDepth (l.isLoose (operatorRank op) (!op.isLogical)) l.depth)
          (enclosedDepth (r.isLoose (operatorRank op) (!op.isLogical)) r.depth) := by
  have hcomparison : op.isComparison = !op.isLogical := by cases op <;> cases hop <;> rfl
  have hloose : (Predicate.binary l op r).isLoose (operatorRank op) (!op.isLogical) = false := by
    rw [hop]
    simp [isLoose, rank]
  rw [hloose, bracketed_false, tokens, enclosedDepth, if_neg Bool.false_ne_true, depth, hcomparison]
  exact ⟨rfl, rfl⟩

/-- What a logical operator joins, it joins one part after the other. -/
theorem isJoinedAs_binary {l l' r r' : Predicate} {op : Operator} {tr : Term} (hop : op.isLogical = true)
    (hl : IsJoinedAs op l l') (hr : IsJoinedAs op r r') (htr : Term.ofPredicate r = .ok tr) :
    IsJoinedAs op (.binary l op r) (.binary l' op r') := by
  intro φ before hφ
  obtain ⟨ψ, hψ, hclimbsLeft⟩ := hl φ before hφ
  obtain ⟨χ, hχ, hclimbsRight⟩ := hr ψ _ hψ
  obtain ⟨htokens, hdepth⟩ := tokens_and_depth_joined l r hop
  refine ⟨χ, ?_, ?_⟩
  · rw [leftward, if_pos hop, after_after]
    exact hχ
  · have hflat := leftBracket_not_mem_bracketed (leftBracket_not_mem_tokens htr)
      (r.isLoose (operatorRank op) (!op.isLogical))
    rw [htokens, hdepth]
    exact hclimbsLeft.trans hclimbsRight fun rest hrest => closes_operator op hflat (Nat.le_refl _) hrest.flat

theorem isReadAs_binary {l l' r r' : Predicate} {op : Operator} {tl tr : Term} (hl : l.IsReadAs l')
    (hr : r.IsReadAs r') (hjoined : op.isLogical = true → IsJoinedAs op r r') (htl : Term.ofPredicate l = .ok tl)
    (htr : Term.ofPredicate r = .ok tr) : (Predicate.binary l op r).IsReadAs (.binary l' op r') := by
  obtain ⟨φ, hφ, hread⟩ := hl.operand' htl (operatorRank op) op.isComparison
  obtain ⟨hgrip, hhold⟩ := strength_le_least op
  have hflat := leftBracket_not_mem_bracketed (leftBracket_not_mem_tokens htr)
    (r.isLoose (operatorRank op) (!op.isLogical))
  have hright : ∃ ψ, StandsFor ψ (Predicate.binary l' op r').leftward ∧
      Climbs (op.token :: bracketed (r.isLoose (operatorRank op) (!op.isLogical)) r.tokens)
        (enclosedDepth (r.isLoose (operatorRank op) (!op.isLogical)) r.depth) op.strength op.strength φ ψ := by
    rw [leftward]
    by_cases hop : op.isLogical = true
    · rw [if_pos hop]
      exact hjoined hop φ l'.leftward hφ
    · rw [if_neg hop]
      have hrank : r.isLoose (operatorRank op) (!op.isLogical) = false → operatorRank op + 1 ≤ r.rank := by
        intro hloose
        have hle := le_rank_of_isLoose_eq_false hloose
        rwa [Bool.eq_false_iff.2 hop] at hle
      obtain ⟨ψ, hψ, hclimbs⟩ := hr.climbs htr hrank
      exact ⟨.binary φ (.known op) ψ, standsFor_binary_iff.2 ⟨_, op, _, hφ, rfl, hψ, rfl⟩, hclimbs φ⟩
  obtain ⟨ψ, hψ, hclimbs⟩ := hright
  refine ⟨ψ, hψ, ?_⟩
  exact (hread.mono (Nat.le_refl _) hgrip (Nat.le_refl _)).climbs hclimbs fun rest hrest =>
    closes_operator op hflat hhold hrest.flat

theorem leftBracket_not_mem_testTokens_append {ts : List Token} (h : Token.symbol .leftBracket ∉ ts) (negated : Bool)
    (w : String) : Token.symbol .leftBracket ∉ testTokens negated w ++ ts := by
  cases negated <;> simp [testTokens, Token.plain, h]

/-- A test that may be negated may follow its operand. -/
theorem closes_test {w : String} (hw : w ∈ ["IN", "LIKE", "BETWEEN"]) (negated : Bool) {ts : List Token}
    (hflat : Token.symbol .leftBracket ∉ ts) {rest : List Token} (hrest : Token.symbol .leftBracket ∉ rest) :
    Closes (leastHold (testRank + true.toNat)) (testTokens negated w ++ ts ++ rest) := by
  have hflat' := leftBracket_not_mem_testTokens_append hflat negated w
  have hstrength : ∀ rest, Rule.strength (testTokens negated w ++ ts ++ rest) ≤ leastHold (testRank + true.toNat) := by
    intro rest
    simp only [List.mem_cons, List.not_mem_nil, or_false] at hw
    rcases hw with rfl | rfl | rfl
    · rw [Rule.strength_in]
      exact Nat.le_of_ble_eq_true rfl
    · rw [Rule.strength_like]
      exact Nat.le_of_ble_eq_true rfl
    · rw [Rule.strength_between]
      exact Nat.le_of_ble_eq_true rfl
  cases negated with
  | false =>
    have hword : w ∈ ["IS", "NOT", "IN", "LIKE", "BETWEEN"] := List.mem_cons_of_mem _ (List.mem_cons_of_mem _ hw)
    exact closes_append_of_follower (.word w hword) hflat' hstrength hrest
  | true => exact closes_append_of_follower (.word "NOT" (by decide)) hflat' hstrength hrest

theorem isReadAs_not {p q : Predicate} {t : Term} (h : p.IsReadAs q) (ht : Term.ofPredicate p = .ok t) :
    (Predicate.not p).IsReadAs (.not q) := by
  obtain ⟨φ, hφ, hread⟩ := h.operand' ht 3 false
  refine ⟨.not φ, standsFor_not_iff.2 ⟨_, hφ, rfl⟩, ?_⟩
  exact Rule.reads_not hread (starts_bracketed (starts_tokens ht) _)
    (leftBracket_not_mem_bracketed (leftBracket_not_mem_tokens ht) _) (Nat.le_of_ble_eq_true rfl)
    (Nat.le_of_ble_eq_true rfl)

theorem isReadAs_isNull {p q : Predicate} {t : Term} (h : p.IsReadAs q) (ht : Term.ofPredicate p = .ok t) :
    (Predicate.isNull p).IsReadAs (.isNull q) := by
  obtain ⟨φ, hφ, hread⟩ := h.operand' ht testRank true
  refine ⟨.isNull φ, standsFor_isNull_iff.2 ⟨_, hφ, rfl⟩, ?_⟩
  have hreads := (hread.mono (Nat.le_refl _) (Nat.le_of_ble_eq_true rfl) (Nat.le_refl _)).climbs Rule.climbs_isNull
    fun rest hrest => closes_append_of_follower (.word "IS" (by decide)) (by simp [Token.plain])
      (fun rest => Nat.le_of_ble_eq_true rfl) hrest.flat
  exact hreads.mono (by rw [Nat.max_zero]; exact Nat.le_refl _) (Nat.le_refl _) (Nat.le_refl _)

theorem isReadAs_isNotNull {p q : Predicate} {t : Term} (h : p.IsReadAs q) (ht : Term.ofPredicate p = .ok t) :
    (Predicate.isNotNull p).IsReadAs (.isNotNull q) := by
  obtain ⟨φ, hφ, hread⟩ := h.operand' ht testRank true
  refine ⟨.isNotNull φ, standsFor_isNotNull_iff.2 ⟨_, hφ, rfl⟩, ?_⟩
  have hreads := (hread.mono (Nat.le_refl _) (Nat.le_of_ble_eq_true rfl) (Nat.le_refl _)).climbs Rule.climbs_isNotNull
    fun rest hrest => closes_append_of_follower (.word "IS" (by decide)) (by simp [Token.plain])
      (fun rest => Nat.le_of_ble_eq_true rfl) hrest.flat
  exact hreads.mono (by rw [Nat.max_zero]; exact Nat.le_refl _) (Nat.le_refl _) (Nat.le_refl _)

theorem isReadAs_like {p p' pattern pattern' : Predicate} {t tpattern : Term} (negated : Bool) (h : p.IsReadAs p')
    (hpattern : pattern.IsReadAs pattern') (ht : Term.ofPredicate p = .ok t)
    (htpattern : Term.ofPredicate pattern = .ok tpattern) :
    (Predicate.like p pattern negated).IsReadAs (.like p' pattern' negated) := by
  obtain ⟨φ, hφ, hread⟩ := h.operand' ht testRank true
  obtain ⟨ψ, hψ, hreadPattern⟩ := hpattern.operand' htpattern testRank true
  refine ⟨.like φ ψ none negated, standsFor_like_iff.2 ⟨_, _, hφ, hψ, rfl⟩, ?_⟩
  have hclimbs := Rule.climbs_like (p := φ) negated hreadPattern (Nat.le_of_ble_eq_true rfl) (Nat.le_of_ble_eq_true rfl)
  exact (hread.mono (Nat.le_refl _) (Nat.le_of_ble_eq_true rfl) (Nat.le_refl _)).climbs hclimbs fun rest hrest =>
    closes_test (by decide) negated (leftBracket_not_mem_bracketed (leftBracket_not_mem_tokens htpattern) _) hrest.flat

theorem isReadAs_between {p p' low low' high high' : Predicate} {t tlow thigh : Term} (negated : Bool)
    (h : p.IsReadAs p') (hlow : low.IsReadAs low') (hhigh : high.IsReadAs high') (ht : Term.ofPredicate p = .ok t)
    (htlow : Term.ofPredicate low = .ok tlow) (hthigh : Term.ofPredicate high = .ok thigh) :
    (Predicate.between p low high negated).IsReadAs (.between p' low' high' negated) := by
  obtain ⟨φ, hφ, hread⟩ := h.operand' ht testRank true
  obtain ⟨ψ, hψ, hreadLow⟩ := hlow.operand' htlow testRank true
  obtain ⟨χ, hχ, hreadHigh⟩ := hhigh.operand' hthigh testRank true
  have hflatLow := leftBracket_not_mem_bracketed (leftBracket_not_mem_tokens htlow) (low.isLoose testRank true)
  have hflatHigh := leftBracket_not_mem_bracketed (leftBracket_not_mem_tokens hthigh) (high.isLoose testRank true)
  refine ⟨.between φ ψ χ negated, standsFor_between_iff.2 ⟨_, _, _, hφ, hψ, hχ, rfl⟩, ?_⟩
  have hclimbs := Rule.climbs_between (p := φ) negated hreadLow hreadHigh (Nat.le_of_ble_eq_true rfl)
    (Nat.le_of_ble_eq_true rfl) hflatHigh
  exact (hread.mono (Nat.le_refl _) (Nat.le_of_ble_eq_true rfl) (Nat.le_refl _)).climbs hclimbs fun rest hrest =>
    closes_test (by decide) negated (by simp [Token.plain, hflatLow, hflatHigh]) hrest.flat

/-- The items of a list are read one by one. -/
theorem exists_reads_items {items : List Predicate} {ts : List Term} {g : Predicate → Predicate}
    (h : ∀ q ∈ items, q.IsReadAs (g q)) (hts : Term.ofPredicates items = .ok ts) :
    ∃ pairs : List (List Token × Phrase), pairs.map Prod.fst = tokensOf items ∧
      StandForAll (pairs.map Prod.snd) (leftwards (items.map g)) ∧
      ∀ pair ∈ pairs, Reads pair.1 (depthOf items) 1 0 pair.2 ∧ Starts pair.1 := by
  have hterms := Term.ofPredicates_eq_ok hts
  clear hts
  induction hterms with
  | nil => exact ⟨[], rfl, rfl, List.forall_mem_nil _⟩
  | @cons q t items ts ht _ ih =>
    obtain ⟨⟨φ, hφ, hread⟩, hlater⟩ := List.forall_mem_cons.1 h
    obtain ⟨pairs, htokens, hphrases, hpairs⟩ := ih hlater
    refine ⟨(q.tokens, φ) :: pairs, ?_, ?_, ?_⟩
    · rw [List.map_cons, htokens, tokensOf]
    · exact standForAll_cons_iff.2 ⟨_, _, hφ, hphrases, rfl⟩
    · refine List.forall_mem_cons.2 ⟨⟨?_, starts_tokens ht⟩, fun pair hpair => ⟨?_, (hpairs pair hpair).2⟩⟩
      · exact hread.mono (Nat.le_max_left ..) q.grip_pos (Nat.zero_le _)
      · exact (hpairs pair hpair).1.mono (Nat.le_max_right ..) (Nat.le_refl _) (Nat.le_refl _)

theorem isReadAs_inList {p p' : Predicate} {items : List Predicate} {g : Predicate → Predicate} {negated : Bool}
    {t : Term} (h : p.IsReadAs p') (hitems : ∀ q ∈ items, q.IsReadAs (g q)) (hne : items ≠ [])
    (ht : Term.ofPredicate (.inList p items negated) = .ok t) :
    (Predicate.inList p items negated).IsReadAs (.inList p' (items.map g) negated) := by
  have hflat := leftBracket_not_mem_tokens ht
  obtain ⟨tp, ts, htp, hts, -⟩ := Term.ofPredicate_inList_eq_ok ht
  obtain ⟨φ, hφ, hread⟩ := h.operand' htp testRank true
  obtain ⟨pairs, htokens, hphrases, hpairs⟩ := exists_reads_items hitems hts
  have hpairsNe : pairs ≠ [] := by
    rintro rfl
    match items, hne with
    | q :: items, _ => cases htokens
  have hflatItems : Token.symbol .leftBracket ∉ bracketed true ([Token.symbol .comma].intercalate (tokensOf items)) :=
    fun hmem => hflat (List.mem_append_right _ (List.mem_append_right _ hmem))
  have hflatInside : Token.symbol .leftBracket ∉ [Token.symbol .comma].intercalate (pairs.map Prod.fst) := by
    rw [htokens]
    exact fun hmem => hflatItems (List.mem_cons_of_mem _ (List.mem_append_left _ hmem))
  have hclimbs := Rule.climbs_in (p := φ) negated hpairsNe hpairs (Nat.lt_succ_self _) hflatInside
  rw [htokens] at hclimbs
  refine ⟨.inList φ (pairs.map Prod.snd) negated, standsFor_inList_iff.2 ⟨_, _, hφ, hphrases, rfl⟩, ?_⟩
  exact (hread.mono (Nat.le_refl _) (Nat.le_of_ble_eq_true rfl) (Nat.le_refl _)).climbs hclimbs fun rest hrest =>
    closes_test (by decide) negated hflatItems hrest.flat

/-! ## All predicates -/

/-- If every constant is read as another one and no list is empty, the predicate is read with those constants in the
place of its own. -/
theorem isReadAs_and_isJoinedAs {f : Literal → Literal} {p : Predicate} {t : Term} (ht : Term.ofPredicate p = .ok t)
    (hp : p.IsFilled) (hf : ∀ v, Leaf.constant v ∈ p.leaves → (Predicate.literal v).IsReadAs (.literal (f v))) :
    p.IsReadAs (p.mapConstants f) ∧ ∀ op, op.isLogical = true → IsJoinedAs op p (p.mapConstants f) := by
  induction p using induct generalizing t with
  | binary l op r ihl ihr =>
    obtain ⟨tl, tr, htl, htr, -⟩ := Term.ofPredicate_binary_eq_ok ht
    obtain ⟨hl, hjoinedLeft⟩ := ihl htl hp.1 fun v hv => hf v (List.mem_append_left _ hv)
    obtain ⟨hr, hjoinedRight⟩ := ihr htr hp.2 fun v hv => hf v (List.mem_append_right _ hv)
    have hread := isReadAs_binary hl hr (hjoinedRight op) htl htr
    refine ⟨hread, fun other hother => ?_⟩
    by_cases heq : op = other
    · subst heq
      exact isJoinedAs_binary hother (hjoinedLeft op hother) (hjoinedRight op hother) htr
    · exact hread.isJoinedAs ht hother heq heq
  | column names =>
    have hread : (Predicate.column names).IsReadAs (.column names) := exists_reads_column ht _
    exact ⟨hread, fun op hop => hread.isJoinedAs ht hop trivial trivial⟩
  | literal v =>
    have hread := hf v (List.mem_singleton_self _)
    exact ⟨hread, fun op hop => hread.isJoinedAs ht hop trivial trivial⟩
  | not p ih =>
    obtain ⟨tp, htp, -⟩ := Term.ofPredicate_not_eq_ok ht
    have hread := isReadAs_not (ih htp hp hf).1 htp
    exact ⟨hread, fun op hop => hread.isJoinedAs ht hop trivial trivial⟩
  | isNull p ih =>
    obtain ⟨tp, htp, -⟩ := Term.ofPredicate_isNull_eq_ok ht
    have hread := isReadAs_isNull (ih htp hp hf).1 htp
    exact ⟨hread, fun op hop => hread.isJoinedAs ht hop trivial trivial⟩
  | isNotNull p ih =>
    obtain ⟨tp, htp, -⟩ := Term.ofPredicate_isNotNull_eq_ok ht
    have hread := isReadAs_isNotNull (ih htp hp hf).1 htp
    exact ⟨hread, fun op hop => hread.isJoinedAs ht hop trivial trivial⟩
  | inList p items negated ih ihitems =>
    obtain ⟨tp, ts, htp, hts, -⟩ := Term.ofPredicate_inList_eq_ok ht
    obtain ⟨hfilled, hne, hitems⟩ := hp
    have hreadItems : ∀ q ∈ items, q.IsReadAs (q.mapConstants f) := by
      intro q hq
      obtain ⟨tq, htq⟩ := Term.exists_ofPredicate_of_mem hts q hq
      exact (ihitems q hq htq (areFilled_iff.1 hitems q hq) fun v hv =>
        hf v (List.mem_append_right _ (mem_leavesOf_iff.2 ⟨q, hq, hv⟩))).1
    have hreadOperand := (ih htp hfilled fun v hv => hf v (List.mem_append_left _ hv)).1
    have hread := isReadAs_inList hreadOperand hreadItems hne ht
    rw [← mapConstantsOf_eq_map] at hread
    exact ⟨hread, fun op hop => hread.isJoinedAs ht hop trivial trivial⟩
  | like p pattern negated ih ihpattern =>
    obtain ⟨tp, tpattern, htp, htpattern, -⟩ := Term.ofPredicate_like_eq_ok ht
    have hreadOperand := (ih htp hp.1 fun v hv => hf v (List.mem_append_left _ hv)).1
    have hreadPattern := (ihpattern htpattern hp.2 fun v hv => hf v (List.mem_append_right _ hv)).1
    have hread := isReadAs_like negated hreadOperand hreadPattern htp htpattern
    exact ⟨hread, fun op hop => hread.isJoinedAs ht hop trivial trivial⟩
  | between p low high negated ih ihlow ihhigh =>
    obtain ⟨tp, tlow, thigh, htp, htlow, hthigh, -⟩ := Term.ofPredicate_between_eq_ok ht
    obtain ⟨hp, hlow, hhigh⟩ := hp
    have hreadOperand := (ih htp hp fun v hv => hf v (List.mem_append_left _ hv)).1
    have hreadLow := (ihlow htlow hlow fun v hv =>
      hf v (List.mem_append_right _ (List.mem_append_left _ hv))).1
    have hreadHigh := (ihhigh hthigh hhigh fun v hv =>
      hf v (List.mem_append_right _ (List.mem_append_right _ hv))).1
    have hread := isReadAs_between negated hreadOperand hreadLow hreadHigh htp htlow hthigh
    exact ⟨hread, fun op hop => hread.isJoinedAs ht hop trivial trivial⟩

/-- Readable predicates have readable constants and no empty list. -/
theorem IsReadable.isFilled_and_forall {p : Predicate} (hp : p.IsReadable) :
    p.IsFilled ∧ ∀ v, Leaf.constant v ∈ p.leaves → v.IsReadable := by
  induction p using Predicate.induct with
  | column names => exact ⟨trivial, nofun⟩
  | literal v => exact ⟨trivial, fun w hw => by cases List.mem_singleton.1 hw; exact hp⟩
  | binary l op r ihl ihr =>
    exact ⟨⟨(ihl hp.1).1, (ihr hp.2).1⟩, fun v hv => (List.mem_append.1 hv).elim ((ihl hp.1).2 v) ((ihr hp.2).2 v)⟩
  | not p ih => exact ih hp
  | isNull p ih => exact ih hp
  | isNotNull p ih => exact ih hp
  | inList p items negated ih ihitems =>
    obtain ⟨hp, hne, hitems⟩ := hp
    rw [areReadable_iff] at hitems
    refine ⟨⟨(ih hp).1, hne, areFilled_iff.2 fun q hq => (ihitems q hq (hitems q hq)).1⟩, fun v hv => ?_⟩
    rcases List.mem_append.1 hv with hv | hv
    · exact (ih hp).2 v hv
    · obtain ⟨q, hq, hv⟩ := mem_leavesOf_iff.1 hv
      exact (ihitems q hq (hitems q hq)).2 v hv
  | like p pattern negated ih ihpattern =>
    exact ⟨⟨(ih hp.1).1, (ihpattern hp.2).1⟩,
      fun v hv => (List.mem_append.1 hv).elim ((ih hp.1).2 v) ((ihpattern hp.2).2 v)⟩
  | between p low high negated ih ihlow ihhigh =>
    obtain ⟨hp, hlow, hhigh⟩ := hp
    refine ⟨⟨(ih hp).1, (ihlow hlow).1, (ihhigh hhigh).1⟩, fun v hv => ?_⟩
    rcases List.mem_append.1 hv with hv | hv
    · exact (ih hp).2 v hv
    · exact (List.mem_append.1 hv).elim ((ihlow hlow).2 v) ((ihhigh hhigh).2 v)

theorem isRead_and_isJoined {p : Predicate} {t : Term} (ht : Term.ofPredicate p = .ok t) (hp : p.IsReadable) :
    p.IsReadAs p ∧ ∀ op, op.isLogical = true → IsJoinedAs op p p := by
  obtain ⟨hfilled, hconstants⟩ := hp.isFilled_and_forall
  have hread := isReadAs_and_isJoinedAs (f := id) ht hfilled fun v hv => exists_reads_literal (hconstants v hv) _
  rwa [mapConstants_id] at hread

theorem phrase_tokens {p : Predicate} {t : Term} (ht : Term.ofPredicate p = .ok t) (hp : p.IsReadable)
    (hdepth : p.depth < Rule.maxNesting) :
    ∃ φ, StandsFor φ p.leftward ∧ Rule.phrase p.tokens = .ok (φ, []) := by
  obtain ⟨⟨φ, hφ, hread⟩, -⟩ := isRead_and_isJoined ht hp
  exact ⟨φ, hφ, hread.phrase_eq_ok hdepth p.grip_pos⟩

/-- Every accepted predicate with readable constants, no empty list and no more than 49 brackets inside each other is
written as text that reads back as the predicate, with its chains of logical operators grouped from the left. -/
theorem read_text_of_ofPredicate {p : Predicate} {t : Term} (ht : Term.ofPredicate p = .ok t) (hp : p.IsReadable)
    (hnesting : nesting t.script.tokens ≤ 49) : Predicate.read t.text = .ok p.leftward := by
  rw [tokens_script_of_ofPredicate ht, nesting_tokens] at hnesting
  obtain ⟨φ, hφ, hphrase⟩ := phrase_tokens ht hp (Nat.lt_succ_of_le hnesting)
  have htokens : Sql.tokenize t.text.toList = .ok p.tokens := by
    rw [t.tokenize_text, tokens_script_of_ofPredicate ht]
  have hread : readPhrase t.text = .ok φ := by
    refine Outcome.bind_eq_ok_iff.2 ⟨p.tokens, Outcome.mapError_eq_ok_iff.2 htokens, ?_⟩
    rw [hphrase]
  unfold Predicate.read
  rw [hread]
  exact hφ

/-- A conjunction grouped from the right, with brackets, a negative number, a quote and a list in it. -/
def rightwardConjunction : Predicate :=
  .binary (.binary (.column ["a"]) .eq (.literal (.integer (-1)))) .and
    (.binary
      (.binary (.not (.like (.column ["b", "c"]) (.literal (.string "x'%")) false)) .or
        (.inList (.column ["a"]) [.literal .null, .literal (.boolean true)] true))
      .and (.isNull (.column ["d"])))

theorem read_text_rightwardConjunction :
    ∃ t, Term.ofPredicate rightwardConjunction = .ok t ∧ rightwardConjunction.IsReadable ∧
      nesting t.script.tokens = 2 ∧ Predicate.read t.text = .ok rightwardConjunction.leftward := by
  have hreadable : rightwardConjunction.IsReadable := by
    refine ⟨⟨trivial, ?_, ?_⟩, ⟨⟨trivial, trivial⟩, trivial, List.cons_ne_nil _ _, trivial, trivial, trivial⟩, trivial⟩
    · decide
    · decide
  obtain ⟨t, ht⟩ : ∃ t, Term.ofPredicate rightwardConjunction = .ok t := ⟨_, rfl⟩
  have hnesting : nesting t.script.tokens = 2 := by
    rw [tokens_script_of_ofPredicate ht, nesting_tokens]
    rfl
  exact ⟨t, ht, hreadable, hnesting, read_text_of_ofPredicate ht hreadable (by omega)⟩

end Predicate

end Cohort
