import Cohort.Proofs.Checking
import Cohort.Proofs.Grammar.Refusal
import Cohort.Proofs.Predicate.Decimals

/-!
# Which accepted predicates have text that can be read

Whether the text of an accepted predicate can be read depends on its lists alone. Without an empty one the text is read
as a predicate of the same shape. An empty one is a pair of brackets with nothing inside, at which the grammar finds a
fault, as everything before it is read.
-/

namespace Cohort

open Rule (Reads Refuses Stalls RefusesItems)
open Sql (Term Token bracketed bracketed_false operatorRank testRank)

namespace Predicate

/-- The constants of a representable predicate are representable. -/
theorem IsRepresentable.of_mem_leaves {p : Predicate} (hp : p.IsRepresentable) {v : Literal}
    (hv : Leaf.constant v ∈ p.leaves) : v.IsRepresentable := by
  induction p using Predicate.induct with
  | column names => exact absurd (List.mem_singleton.1 hv) nofun
  | literal w =>
    cases List.mem_singleton.1 hv
    exact hp
  | binary l op r ihl ihr => exact (List.mem_append.1 hv).elim (ihl hp.1) (ihr hp.2)
  | not p ih => exact ih hp hv
  | isNull p ih => exact ih hp hv
  | isNotNull p ih => exact ih hp hv
  | inList p items negated ih ihitems =>
    rcases List.mem_append.1 hv with hv | hv
    · exact ih hp.1 hv
    · obtain ⟨q, hq, hv⟩ := mem_leavesOf_iff.1 hv
      exact ihitems q hq (areRepresentable_iff.1 hp.2 q hq) hv
  | like p pattern negated ih ihpattern => exact (List.mem_append.1 hv).elim (ih hp.1) (ihpattern hp.2)
  | between p low high negated ih ihlow ihhigh =>
    obtain ⟨hp, hlow, hhigh⟩ := hp
    rcases List.mem_append.1 hv with hv | hv
    · exact ih hp hv
    · exact (List.mem_append.1 hv).elim (ihlow hlow) (ihhigh hhigh)

/-- Without an empty list, a predicate is read as itself, but for constants that are not read as themselves. -/
theorem IsFilled.exists_isReadAs {p : Predicate} {t : Term} (hp : p.IsFilled) (ht : Term.ofPredicate p = .ok t)
    (hrepresentable : p.IsRepresentable) :
    ∃ f, (∀ v : Literal, v.IsReadable → f v = v) ∧ p.IsReadAs (p.mapConstants f) ∧
      ∀ op, op.isLogical = true → IsJoinedAs op p (p.mapConstants f) := by
  have hconstants : ∀ v : Literal, ∃ w, (v.IsReadable → w = v) ∧
      (v.IsRepresentable → (Predicate.literal v).IsReadAs (.literal w)) := by
    intro v
    by_cases hreadable : v.IsReadable
    · exact ⟨v, fun _ => rfl, fun _ => exists_reads_literal hreadable _⟩
    · by_cases hv : v.IsRepresentable
      · obtain ⟨w, hw⟩ := exists_isReadAs_literal hv
        exact ⟨w, fun h => absurd h hreadable, fun _ => hw⟩
      · exact ⟨v, fun _ => rfl, fun h => absurd h hv⟩
  choose f hsame hf using hconstants
  exact ⟨f, hsame, isReadAs_and_isJoinedAs ht hp fun v hv => hf v (hrepresentable.of_mem_leaves hv)⟩

/-- The grammar finds a fault in the tokens of the predicate. -/
def IsRefused (p : Predicate) : Prop := Refuses p.tokens p.depth p.grip

/-- After a phrase for anything, the grammar finds a fault in a logical operator and the tokens of the predicate. -/
def IsStalled (op : Operator) (p : Predicate) : Prop :=
  ∀ φ before, StandsFor φ before →
    Stalls (op.token :: bracketed (p.isLoose (operatorRank op) (!op.isLogical)) p.tokens)
      (enclosedDepth (p.isLoose (operatorRank op) (!op.isLogical)) p.depth) op.strength φ

section

variable {p p' l l' r low low' high pattern : Predicate} {op : Operator} {t tp tl tr tlow thigh tpattern : Term}
variable {negated : Bool}

/-- Brackets around an operand are no way out of a fault in it. -/
theorem IsRefused.operand (h : p.IsRefused) (ht : Term.ofPredicate p = .ok t) {outer : Nat} {strict : Bool} {n : Nat}
    (hn : p.isLoose outer strict = false → n ≤ p.rank) :
    Refuses (bracketed (p.isLoose outer strict) p.tokens) (enclosedDepth (p.isLoose outer strict) p.depth)
      (leastGrip n) := by
  cases hloose : p.isLoose outer strict with
  | false => exact Refuses.mono h (Nat.le_refl _) (leastGrip_le p (hn hloose))
  | true => exact Refuses.bracketed_true h (starts_tokens ht) (leftBracket_not_mem_tokens ht) p.grip_pos

/-- A refused operand under the rule for brackets that belongs to its place. -/
theorem IsRefused.operand' (h : p.IsRefused) (ht : Term.ofPredicate p = .ok t) (outer : Nat) (strict : Bool) :
    Refuses (bracketed (p.isLoose outer strict) p.tokens) (enclosedDepth (p.isLoose outer strict) p.depth)
      (leastGrip (outer + strict.toNat)) :=
  h.operand ht le_rank_of_isLoose_eq_false

theorem leftBracket_not_mem_operand (ht : Term.ofPredicate p = .ok t) (outer : Nat) (strict : Bool) :
    Token.symbol .leftBracket ∉ bracketed (p.isLoose outer strict) p.tokens :=
  leftBracket_not_mem_bracketed (leftBracket_not_mem_tokens ht) _

/-- A right operand that the operator does not join is refused after the operator. -/
theorem IsRefused.stalls (h : p.IsRefused) (ht : Term.ofPredicate p = .ok t)
    (hrank : p.isLoose (operatorRank op) (!op.isLogical) = false → operatorRank op + 1 ≤ p.rank) (φ : Phrase) :
    Stalls (op.token :: bracketed (p.isLoose (operatorRank op) (!op.isLogical)) p.tokens)
      (enclosedDepth (p.isLoose (operatorRank op) (!op.isLogical)) p.depth) op.strength φ :=
  Rule.stalls_operator op (h.operand ht hrank) (starts_bracketed (starts_tokens ht) _) (strength_lt_least op).1

theorem IsRefused.isStalled (h : p.IsRefused) (ht : Term.ofPredicate p = .ok t) (hop : op.isLogical = true)
    (hoperand : p.IsOperand op) : IsStalled op p := by
  have hrank : p.isLoose (operatorRank op) (!op.isLogical) = false → operatorRank op + 1 ≤ p.rank := by
    intro hloose
    have hle := le_rank_of_isLoose_eq_false hloose
    have hne := rank_ne_of_isOperand hop hoperand
    omega
  exact fun φ _ _ => h.stalls ht hrank φ

theorem isRefused_binary_left (hl : l.IsRefused) (htl : Term.ofPredicate l = .ok tl)
    (htr : Term.ofPredicate r = .ok tr) : (Predicate.binary l op r).IsRefused := by
  have hflat := leftBracket_not_mem_operator_cons op
    (leftBracket_not_mem_operand htr (operatorRank op) (!op.isLogical))
  have hleft := hl.operand' htl (operatorRank op) op.isComparison
  exact (hleft.mono (Nat.le_max_left ..) (strength_le_least op).1).append hflat

theorem isRefused_binary_right (hl : l.IsReadAs l') (hr : r.IsRefused)
    (hstalled : op.isLogical = true → IsStalled op r) (htl : Term.ofPredicate l = .ok tl)
    (htr : Term.ofPredicate r = .ok tr) : (Predicate.binary l op r).IsRefused := by
  obtain ⟨φ, hφ, hread⟩ := hl.operand' htl (operatorRank op) op.isComparison
  obtain ⟨hgrip, hhold⟩ := strength_le_least op
  have hflat := leftBracket_not_mem_operand htr (operatorRank op) (!op.isLogical)
  have hstalls : Stalls (op.token :: bracketed (r.isLoose (operatorRank op) (!op.isLogical)) r.tokens)
      (enclosedDepth (r.isLoose (operatorRank op) (!op.isLogical)) r.depth) op.strength φ := by
    by_cases hop : op.isLogical = true
    · exact hstalled hop φ _ hφ
    · refine hr.stalls htr (fun hloose => ?_) φ
      have hle := le_rank_of_isLoose_eq_false hloose
      rwa [Bool.eq_false_iff.2 hop] at hle
  exact (hread.mono (Nat.le_refl _) hgrip (Nat.le_refl _)).refuses hstalls fun rest hrest =>
    closes_operator op hflat hhold hrest

/-- In a chain, a fault in either part is met after the operator before the chain. -/
theorem isStalled_binary_left (hop : op.isLogical = true) (hl : IsStalled op l) (htr : Term.ofPredicate r = .ok tr) :
    IsStalled op (.binary l op r) := by
  intro φ before hφ
  obtain ⟨htokens, hdepth⟩ := tokens_and_depth_joined l r hop
  have hflat := leftBracket_not_mem_operator_cons op
    (leftBracket_not_mem_operand htr (operatorRank op) (!op.isLogical))
  rw [htokens, hdepth]
  exact ((hl φ before hφ).mono (Nat.le_max_left ..) (Nat.le_refl _)).append hflat

theorem isStalled_binary_right (hop : op.isLogical = true) (hl : IsJoinedAs op l l') (hr : IsStalled op r)
    (htr : Term.ofPredicate r = .ok tr) : IsStalled op (.binary l op r) := by
  intro φ before hφ
  obtain ⟨ψ, hψ, hclimbs⟩ := hl φ before hφ
  obtain ⟨htokens, hdepth⟩ := tokens_and_depth_joined l r hop
  have hflat := leftBracket_not_mem_operand htr (operatorRank op) (!op.isLogical)
  rw [htokens, hdepth]
  exact hclimbs.stalls (hr ψ _ hψ) fun rest hrest => closes_operator op hflat (Nat.le_refl _) hrest

/-- A fault in the operand of a test. -/
theorem IsRefused.test (h : p.IsRefused) (ht : Term.ofPredicate p = .ok t) {us : List Token} {depth grip : Nat}
    (hflat : Token.symbol .leftBracket ∉ us) (hgrip : grip ≤ leastGrip (testRank + true.toNat)) :
    Refuses (bracketed (p.isLoose testRank true) p.tokens ++ us)
      (max (enclosedDepth (p.isLoose testRank true) p.depth) depth) grip :=
  ((h.operand' ht testRank true).mono (Nat.le_max_left ..) hgrip).append hflat

/-- A fault in what is tested for, after an operand that is read. -/
theorem IsReadAs.refuses_test (h : p.IsReadAs p') (ht : Term.ofPredicate p = .ok t) {w : String}
    (hw : w ∈ ["IN", "LIKE", "BETWEEN"]) {us : List Token} {depth grip : Nat}
    (hflat : Token.symbol .leftBracket ∉ us) (hgrip : grip ≤ leastGrip (testRank + true.toNat))
    (hstalls : ∀ φ, Stalls (testTokens negated w ++ us) depth grip φ) :
    Refuses (bracketed (p.isLoose testRank true) p.tokens ++ (testTokens negated w ++ us))
      (max (enclosedDepth (p.isLoose testRank true) p.depth) depth) grip := by
  obtain ⟨φ, -, hread⟩ := h.operand' ht testRank true
  exact (hread.mono (Nat.le_refl _) hgrip (Nat.le_refl _)).refuses (hstalls φ) fun rest hrest =>
    closes_test hw negated hflat hrest

theorem isRefused_not (h : p.IsRefused) (ht : Term.ofPredicate p = .ok t) : (Predicate.not p).IsRefused :=
  Rule.refuses_not (h.operand' ht 3 false) (starts_bracketed (starts_tokens ht) _)
    (leftBracket_not_mem_operand ht 3 false) (Nat.le_of_ble_eq_true rfl)

theorem isRefused_isNull (h : p.IsRefused) (ht : Term.ofPredicate p = .ok t) : (Predicate.isNull p).IsRefused := by
  have hrefused : Refuses (bracketed (p.isLoose testRank true) p.tokens ++ [.plain "IS", .plain "NULL"])
      (max (enclosedDepth (p.isLoose testRank true) p.depth) 0) Rule.isStrength :=
    h.test ht (by decide) (Nat.le_of_ble_eq_true rfl)
  rwa [Nat.max_zero] at hrefused

theorem isRefused_isNotNull (h : p.IsRefused) (ht : Term.ofPredicate p = .ok t) :
    (Predicate.isNotNull p).IsRefused := by
  have hrefused : Refuses (bracketed (p.isLoose testRank true) p.tokens ++ [.plain "IS", .plain "NOT", .plain "NULL"])
      (max (enclosedDepth (p.isLoose testRank true) p.depth) 0) Rule.isStrength :=
    h.test ht (by decide) (Nat.le_of_ble_eq_true rfl)
  rwa [Nat.max_zero] at hrefused

theorem isRefused_like_left (h : p.IsRefused) (ht : Term.ofPredicate p = .ok t)
    (htpattern : Term.ofPredicate pattern = .ok tpattern) : (Predicate.like p pattern negated).IsRefused :=
  h.test ht (leftBracket_not_mem_testTokens_append (leftBracket_not_mem_operand htpattern testRank true) _ _)
    (Nat.le_of_ble_eq_true rfl)

theorem isRefused_like_right (h : p.IsReadAs p') (hpattern : pattern.IsRefused) (ht : Term.ofPredicate p = .ok t)
    (htpattern : Term.ofPredicate pattern = .ok tpattern) : (Predicate.like p pattern negated).IsRefused :=
  h.refuses_test ht (by decide) (leftBracket_not_mem_operand htpattern testRank true) (Nat.le_of_ble_eq_true rfl)
    fun _ => Rule.stalls_like negated (hpattern.operand' htpattern testRank true) (Nat.le_of_ble_eq_true rfl)

/-- The bounds of a range stand on both sides of `AND`. -/
theorem leftBracket_not_mem_bounds (htlow : Term.ofPredicate low = .ok tlow)
    (hthigh : Term.ofPredicate high = .ok thigh) :
    Token.symbol .leftBracket ∉ bracketed (low.isLoose testRank true) low.tokens ++
      .plain "AND" :: bracketed (high.isLoose testRank true) high.tokens :=
  Rule.leftBracket_not_mem_append (leftBracket_not_mem_operand htlow testRank true)
    (leftBracket_not_mem_operator_cons .and (leftBracket_not_mem_operand hthigh testRank true))

theorem isRefused_between_operand (h : p.IsRefused) (ht : Term.ofPredicate p = .ok t)
    (htlow : Term.ofPredicate low = .ok tlow) (hthigh : Term.ofPredicate high = .ok thigh) :
    (Predicate.between p low high negated).IsRefused :=
  h.test ht (leftBracket_not_mem_testTokens_append (leftBracket_not_mem_bounds htlow hthigh) _ _)
    (Nat.le_of_ble_eq_true rfl)

theorem isRefused_between_low (h : p.IsReadAs p') (hlow : low.IsRefused) (ht : Term.ofPredicate p = .ok t)
    (htlow : Term.ofPredicate low = .ok tlow) (hthigh : Term.ofPredicate high = .ok thigh) :
    (Predicate.between p low high negated).IsRefused := by
  have hbounds : Refuses (bracketed (low.isLoose testRank true) low.tokens ++
      .plain "AND" :: bracketed (high.isLoose testRank true) high.tokens)
      (max (enclosedDepth (low.isLoose testRank true) low.depth)
        (enclosedDepth (high.isLoose testRank true) high.depth)) (leastGrip (testRank + true.toNat)) :=
    hlow.test htlow (leftBracket_not_mem_operator_cons .and (leftBracket_not_mem_operand hthigh testRank true))
      (Nat.le_refl _)
  exact h.refuses_test ht (by decide) (leftBracket_not_mem_bounds htlow hthigh) (Nat.le_of_ble_eq_true rfl)
    fun _ => Rule.stalls_between_low negated hbounds (Nat.le_of_ble_eq_true rfl)

theorem isRefused_between_high (h : p.IsReadAs p') (hlow : low.IsReadAs low') (hhigh : high.IsRefused)
    (ht : Term.ofPredicate p = .ok t) (htlow : Term.ofPredicate low = .ok tlow)
    (hthigh : Term.ofPredicate high = .ok thigh) : (Predicate.between p low high negated).IsRefused := by
  obtain ⟨ψ, -, hreadLow⟩ := hlow.operand' htlow testRank true
  exact h.refuses_test ht (by decide) (leftBracket_not_mem_bounds htlow hthigh) (Nat.le_of_ble_eq_true rfl) fun _ =>
    Rule.stalls_between_high negated hreadLow (hhigh.operand' hthigh testRank true) (Nat.le_of_ble_eq_true rfl)
      (Nat.le_of_ble_eq_true rfl) (leftBracket_not_mem_operand hthigh testRank true)

/-- The tokens of the items of a list, up to the bracket behind them. -/
def closedItems (items : List Predicate) : List Token :=
  [Token.symbol .comma].intercalate (tokensOf items) ++ [.symbol .rightParen]

theorem closedItems_cons_cons (q next : Predicate) (items : List Predicate) :
    closedItems (q :: next :: items) = q.tokens ++ .symbol .comma :: closedItems (next :: items) := by
  rw [closedItems, tokensOf, tokensOf, List.intercalate_cons_cons, List.append_assoc, List.append_assoc]
  rfl

/-- A comma or the closing bracket stands behind an item. -/
theorem exists_closedItems_cons (q : Predicate) {items : List Predicate}
    (hitems : Token.symbol .leftBracket ∉ closedItems items) :
    ∃ later, closedItems (q :: items) = q.tokens ++ later ∧ Token.symbol .leftBracket ∉ later := by
  cases items with
  | nil =>
    refine ⟨[.symbol .rightParen], ?_, by decide⟩
    rw [closedItems, tokensOf, tokensOf, List.intercalate_singleton]
  | cons next items =>
    exact ⟨_, closedItems_cons_cons q next items, List.not_mem_cons_of_ne_of_not_mem (by decide) hitems⟩

theorem leftBracket_not_mem_closedItems {items : List Predicate} {ts : List Term}
    (hts : List.Forall₂ (fun p t => Term.ofPredicate p = .ok t) items ts) :
    Token.symbol .leftBracket ∉ closedItems items := by
  induction hts with
  | nil => decide
  | @cons q t items ts ht _ ih =>
    obtain ⟨later, heq, hflat⟩ := exists_closedItems_cons q ih
    rw [heq]
    exact Rule.leftBracket_not_mem_append (leftBracket_not_mem_tokens ht) hflat

theorem starts_closedItems {items : List Predicate} {ts : List Term}
    (hts : List.Forall₂ (fun p t => Term.ofPredicate p = .ok t) items ts) : Rule.Starts (closedItems items) := by
  cases hts with
  | nil => exact Rule.starts_of_capitals?_eq_none rfl _
  | @cons q t items ts ht hlater =>
    obtain ⟨later, heq, -⟩ := exists_closedItems_cons q (leftBracket_not_mem_closedItems hlater)
    rw [heq]
    exact (starts_tokens ht).append later

/-- A list is refused if it is empty, as well as for the first of its items that is refused. -/
theorem refusesItems_closedItems {items : List Predicate} {ts : List Term}
    (hts : List.Forall₂ (fun p t => Term.ofPredicate p = .ok t) items ts)
    (hitems : ∀ q ∈ items, q.IsRefused ∨ ∃ q', q.IsReadAs q') (hrefused : items = [] ∨ ∃ q ∈ items, q.IsRefused) :
    RefusesItems (closedItems items) (depthOf items) := by
  induction hts with
  | nil => exact Rule.refuses_rightParen.items (Nat.zero_lt_succ 0)
  | @cons q t items ts ht hlater ih =>
    obtain ⟨hq, hitems⟩ := List.forall_mem_cons.1 hitems
    have hflat := leftBracket_not_mem_closedItems hlater
    by_cases hqRefused : q.IsRefused
    · obtain ⟨later, heq, hflatLater⟩ := exists_closedItems_cons q hflat
      rw [heq]
      exact ((Refuses.append hqRefused hflatLater).items q.grip_pos).mono (Nat.le_max_left ..)
    · obtain ⟨q', φ, -, hread⟩ := hq.resolve_left hqRefused
      obtain ⟨r, hr, hrRefused⟩ : ∃ r ∈ items, r.IsRefused := by
        obtain hnil | ⟨r, hr, hrRefused⟩ := hrefused
        · cases hnil
        · rcases List.mem_cons.1 hr with rfl | hr
          · exact absurd hrRefused hqRefused
          · exact ⟨r, hr, hrRefused⟩
      obtain ⟨next, items, rfl⟩ := List.exists_cons_of_ne_nil (List.ne_nil_of_mem hr)
      have hreads := hread.mono (Nat.le_max_left q.depth (depthOf (next :: items))) (Nat.le_refl _) (Nat.zero_le _)
      rw [closedItems_cons_cons]
      exact hreads.items q.grip_pos ((ih hitems (.inr ⟨r, hr, hrRefused⟩)).mono (Nat.le_max_right ..)) hflat

theorem isRefused_inList_operand {items : List Predicate} {ts : List Term} (h : p.IsRefused)
    (ht : Term.ofPredicate p = .ok t) (hts : List.Forall₂ (fun p t => Term.ofPredicate p = .ok t) items ts) :
    (Predicate.inList p items negated).IsRefused := by
  have hflat : Token.symbol .leftBracket ∉ bracketed true ([Token.symbol .comma].intercalate (tokensOf items)) :=
    List.not_mem_cons_of_ne_of_not_mem (by decide) (leftBracket_not_mem_closedItems hts)
  exact h.test ht (leftBracket_not_mem_testTokens_append hflat _ _) (Nat.le_of_ble_eq_true rfl)

theorem isRefused_inList_items {items : List Predicate} {ts : List Term} (h : p.IsReadAs p')
    (hitems : RefusesItems (closedItems items) (depthOf items)) (ht : Term.ofPredicate p = .ok t)
    (hts : List.Forall₂ (fun p t => Term.ofPredicate p = .ok t) items ts) :
    (Predicate.inList p items negated).IsRefused := by
  have hflat : Token.symbol .leftBracket ∉ bracketed true ([Token.symbol .comma].intercalate (tokensOf items)) :=
    List.not_mem_cons_of_ne_of_not_mem (by decide) (leftBracket_not_mem_closedItems hts)
  exact h.refuses_test ht (by decide) hflat (Nat.le_of_ble_eq_true rfl) fun _ =>
    Rule.stalls_in negated hitems (starts_closedItems hts)

end

/-- With an empty list anywhere, the text of a predicate is refused, alone and after an operator that joins it. -/
theorem isRefused_and_isStalled {p : Predicate} {t : Term} (ht : Term.ofPredicate p = .ok t) (hp : p.IsRepresentable)
    (hempty : ¬p.IsFilled) : p.IsRefused ∧ ∀ op, op.isLogical = true → IsStalled op p := by
  induction p using Predicate.induct generalizing t with
  | column names => exact absurd trivial hempty
  | literal v => exact absurd trivial hempty
  | binary l op r ihl ihr =>
    obtain ⟨tl, tr, htl, htr, -⟩ := Term.ofPredicate_binary_eq_ok ht
    -- the first fault decides: the right operand is reached only if the left one is read
    by_cases hl : l.IsFilled
    · obtain ⟨f, -, hread, hjoined⟩ := hl.exists_isReadAs htl hp.1
      obtain ⟨hrefused, hstalled⟩ := ihr htr hp.2 fun hr => hempty ⟨hl, hr⟩
      have hbinary : (Predicate.binary l op r).IsRefused :=
        isRefused_binary_right hread hrefused (hstalled op) htl htr
      refine ⟨hbinary, fun other hother => ?_⟩
      by_cases heq : op = other
      · subst heq
        exact isStalled_binary_right hother (hjoined op hother) (hstalled op hother) htr
      · exact hbinary.isStalled ht hother heq
    · obtain ⟨hrefused, hstalled⟩ := ihl htl hp.1 hl
      have hbinary : (Predicate.binary l op r).IsRefused := isRefused_binary_left hrefused htl htr
      refine ⟨hbinary, fun other hother => ?_⟩
      by_cases heq : op = other
      · subst heq
        exact isStalled_binary_left hother (hstalled op hother) htr
      · exact hbinary.isStalled ht hother heq
  | not p ih =>
    obtain ⟨tp, htp, -⟩ := Term.ofPredicate_not_eq_ok ht
    have hrefused := isRefused_not (ih htp hp hempty).1 htp
    exact ⟨hrefused, fun op hop => hrefused.isStalled ht hop trivial⟩
  | isNull p ih =>
    obtain ⟨tp, htp, -⟩ := Term.ofPredicate_isNull_eq_ok ht
    have hrefused := isRefused_isNull (ih htp hp hempty).1 htp
    exact ⟨hrefused, fun op hop => hrefused.isStalled ht hop trivial⟩
  | isNotNull p ih =>
    obtain ⟨tp, htp, -⟩ := Term.ofPredicate_isNotNull_eq_ok ht
    have hrefused := isRefused_isNotNull (ih htp hp hempty).1 htp
    exact ⟨hrefused, fun op hop => hrefused.isStalled ht hop trivial⟩
  | inList p items negated ih ihitems =>
    obtain ⟨tp, ts, htp, hts, -⟩ := Term.ofPredicate_inList_eq_ok ht
    have hterms := Term.ofPredicates_eq_ok hts
    have hrefused : (Predicate.inList p items negated).IsRefused := by
      by_cases hfilled : p.IsFilled
      · obtain ⟨f, -, hread, -⟩ := hfilled.exists_isReadAs htp hp.1
        have hsettled : ∀ q ∈ items, (q.IsFilled → ∃ q', q.IsReadAs q') ∧ (¬q.IsFilled → q.IsRefused) := by
          intro q hq
          obtain ⟨tq, htq⟩ := Term.exists_ofPredicate_of_mem hts q hq
          have hrepresentable := areRepresentable_iff.1 hp.2 q hq
          refine ⟨fun hqFilled => ?_, fun hqEmpty => (ihitems q hq htq hrepresentable hqEmpty).1⟩
          obtain ⟨g, -, hqRead, -⟩ := hqFilled.exists_isReadAs htq hrepresentable
          exact ⟨_, hqRead⟩
        have hfault : items = [] ∨ ∃ q ∈ items, ¬q.IsFilled := by
          by_contra hnot
          obtain ⟨hne, hitems⟩ := not_or.1 hnot
          exact hempty ⟨hfilled, hne, areFilled_iff.2 fun q hq => by_contra fun hqEmpty => hitems ⟨q, hq, hqEmpty⟩⟩
        refine isRefused_inList_items hread (refusesItems_closedItems hterms (fun q hq => ?_) ?_) htp hterms
        · by_cases hqFilled : q.IsFilled
          · exact .inr ((hsettled q hq).1 hqFilled)
          · exact .inl ((hsettled q hq).2 hqFilled)
        · exact hfault.imp_right fun ⟨q, hq, hqEmpty⟩ => ⟨q, hq, (hsettled q hq).2 hqEmpty⟩
      · exact isRefused_inList_operand (ih htp hp.1 hfilled).1 htp hterms
    exact ⟨hrefused, fun op hop => hrefused.isStalled ht hop trivial⟩
  | like p pattern negated ih ihpattern =>
    obtain ⟨tp, tpattern, htp, htpattern, -⟩ := Term.ofPredicate_like_eq_ok ht
    have hrefused : (Predicate.like p pattern negated).IsRefused := by
      by_cases hfilled : p.IsFilled
      · obtain ⟨f, -, hread, -⟩ := hfilled.exists_isReadAs htp hp.1
        exact isRefused_like_right hread (ihpattern htpattern hp.2 fun h => hempty ⟨hfilled, h⟩).1 htp htpattern
      · exact isRefused_like_left (ih htp hp.1 hfilled).1 htp htpattern
    exact ⟨hrefused, fun op hop => hrefused.isStalled ht hop trivial⟩
  | between p low high negated ih ihlow ihhigh =>
    obtain ⟨tp, tlow, thigh, htp, htlow, hthigh, -⟩ := Term.ofPredicate_between_eq_ok ht
    obtain ⟨hp, hlow, hhigh⟩ := hp
    have hrefused : (Predicate.between p low high negated).IsRefused := by
      by_cases hfilled : p.IsFilled
      · obtain ⟨f, -, hread, -⟩ := hfilled.exists_isReadAs htp hp
        by_cases hlowFilled : low.IsFilled
        · obtain ⟨g, -, hreadLow, -⟩ := hlowFilled.exists_isReadAs htlow hlow
          have hhighRefused := ihhigh hthigh hhigh fun h => hempty ⟨hfilled, hlowFilled, h⟩
          exact isRefused_between_high hread hreadLow hhighRefused.1 htp htlow hthigh
        · exact isRefused_between_low hread (ihlow htlow hlow hlowFilled).1 htp htlow hthigh
      · exact isRefused_between_operand (ih htp hp hfilled).1 htp htlow hthigh
    exact ⟨hrefused, fun op hop => hrefused.isStalled ht hop trivial⟩

/-! ## Reading the text -/

variable {p : Predicate} {t : Term}

theorem tokenize_text_of_ofPredicate (ht : Term.ofPredicate p = .ok t) :
    Sql.tokenize t.text.toList = .ok p.tokens := by
  rw [t.tokenize_text, tokens_script_of_ofPredicate ht]

theorem depth_lt_of_nesting_le (ht : Term.ofPredicate p = .ok t) (hnesting : nesting t.script.tokens ≤ 49) :
    p.depth < Rule.maxNesting := by
  rw [tokens_script_of_ofPredicate ht, nesting_tokens] at hnesting
  exact Nat.lt_succ_of_le hnesting

/-- Without an empty list, the text is read as the predicate, but for constants that are not read as themselves. -/
theorem IsFilled.exists_read_text (hp : p.IsFilled) (ht : Term.ofPredicate p = .ok t)
    (hrepresentable : p.IsRepresentable) (hnesting : nesting t.script.tokens ≤ 49) :
    ∃ f, (∀ v : Literal, v.IsReadable → f v = v) ∧ Predicate.read t.text = .ok (p.mapConstants f).leftward := by
  obtain ⟨f, hsame, ⟨φ, hφ, hread⟩, -⟩ := hp.exists_isReadAs ht hrepresentable
  have hphrase := hread.phrase_eq_ok (depth_lt_of_nesting_le ht hnesting) p.grip_pos
  exact ⟨f, hsame, (read_eq_ok_iff (readPhrase_of_tokens (tokenize_text_of_ofPredicate ht) hphrase)).2 hφ⟩

/-- With an empty list anywhere, the grammar finds a fault in the text. -/
theorem read_text_of_not_isFilled (hp : ¬p.IsFilled) (ht : Term.ofPredicate p = .ok t)
    (hrepresentable : p.IsRepresentable) (hnesting : nesting t.script.tokens ≤ 49) :
    Predicate.read t.text = .error (.grammar .phrase) := by
  have hrefused := (isRefused_and_isStalled ht hrepresentable hp).1
  have hphrase := Refuses.phrase_eq_error hrefused (depth_lt_of_nesting_le ht hnesting) p.grip_pos
  unfold Predicate.read readPhrase
  rw [tokenize_text_of_ofPredicate ht]
  dsimp only [Except.mapError, Bind.bind, Except.bind]
  rw [hphrase]

/-- A predicate that is not proper is refused, and the request is to blame. The text of a predicate that is accepted,
with whole numbers of 64 bits and no more than 49 brackets inside each other, can be read if and only if no list in it
is empty. It is read as the predicate then, with its chains of logical operators grouped from the left, but for
constants that are not read as themselves. -/
theorem refused_or_read_text_iff_isFilled (p : Predicate) :
    (¬p.IsProper → ∃ e, Term.ofPredicate p = .error e ∧ e.status = 400) ∧
      ∀ t, Term.ofPredicate p = .ok t → p.IsRepresentable → nesting t.script.tokens ≤ 49 →
        (p.IsFilled → ∃ f, (∀ v : Literal, v.IsReadable → f v = v) ∧
          Predicate.read t.text = .ok (p.mapConstants f).leftward) ∧
        (¬p.IsFilled → Predicate.read t.text = .error (.grammar .phrase)) := by
  refine ⟨fun hp => ?_, fun t ht hrepresentable hnesting => ⟨fun hp => ?_, fun hp => ?_⟩⟩
  · obtain ⟨e, he⟩ := (checks_ofPredicate p).exists_error hp
    exact ⟨e, he, (checks_ofPredicate p).status_eq he⟩
  · exact hp.exists_read_text ht hrepresentable hnesting
  · exact read_text_of_not_isFilled hp ht hrepresentable hnesting

/-- That nothing is in a list of the least whole number, nor outside of another list. -/
def memberships (items : List Predicate) : Predicate :=
  .not (.binary (.inList (.column ["a"]) [.literal (.integer minInt64)] false) .or
    (.inList (.column ["b"]) items true))

/-- The text with the null in the other list can be read, and the text without cannot. -/
theorem read_text_memberships :
    (∃ t f, Term.ofPredicate (memberships [.literal .null]) = .ok t ∧
      Predicate.read t.text = .ok ((memberships [.literal .null]).mapConstants f).leftward) ∧
    ∃ t, Term.ofPredicate (memberships []) = .ok t ∧ Predicate.read t.text = .error (.grammar .phrase) := by
  have hleast : minInt64 ≤ minInt64 ∧ minInt64 ≤ maxInt64 := by decide
  have hnesting : ∀ {items t}, Term.ofPredicate (memberships items) = .ok t → (memberships items).depth ≤ 49 →
      nesting t.script.tokens ≤ 49 := by
    intro items t ht hdepth
    rwa [tokens_script_of_ofPredicate ht, nesting_tokens]
  constructor
  · obtain ⟨t, ht⟩ : ∃ t, Term.ofPredicate (memberships [.literal .null]) = .ok t := ⟨_, rfl⟩
    have hrepresentable : (memberships [.literal .null]).IsRepresentable :=
      ⟨⟨trivial, hleast, trivial⟩, trivial, trivial, trivial⟩
    have hfilled : (memberships [.literal .null]).IsFilled :=
      ⟨⟨trivial, List.cons_ne_nil _ _, trivial, trivial⟩, trivial, List.cons_ne_nil _ _, trivial, trivial⟩
    have hread := ((refused_or_read_text_iff_isFilled _).2 t ht hrepresentable (hnesting ht (by decide))).1 hfilled
    obtain ⟨f, -, hread⟩ := hread
    exact ⟨t, f, ht, hread⟩
  · obtain ⟨t, ht⟩ : ∃ t, Term.ofPredicate (memberships []) = .ok t := ⟨_, rfl⟩
    have hrepresentable : (memberships []).IsRepresentable := ⟨⟨trivial, hleast, trivial⟩, trivial, trivial⟩
    have hempty : ¬(memberships []).IsFilled := fun h => h.2.2.1 rfl
    exact ⟨t, ht, ((refused_or_read_text_iff_isFilled _).2 t ht hrepresentable (hnesting ht (by decide))).2 hempty⟩

/-- The predicate that something is in a list of nothing. -/
def emptyMembership : Predicate := .inList (.column ["a"]) [] false

/-- It is accepted, and its text cannot be read. -/
theorem not_read_text_emptyMembership :
    ∃ t, Term.ofPredicate emptyMembership = .ok t ∧ emptyMembership.IsRepresentable ∧
      nesting t.script.tokens ≤ 49 ∧ t.text = "\"a\" IN ()" ∧ ¬∃ q, Predicate.read t.text = .ok q := by
  obtain ⟨t, ht⟩ : ∃ t, Term.ofPredicate emptyMembership = .ok t := ⟨_, rfl⟩
  have hrepresentable : emptyMembership.IsRepresentable := ⟨trivial, trivial⟩
  have hempty : ¬emptyMembership.IsFilled := fun h => h.2.1 rfl
  have hnesting : nesting t.script.tokens ≤ 49 := by
    rw [tokens_script_of_ofPredicate ht, nesting_tokens]
    decide
  have htext : t.text = "\"a\" IN ()" := by
    cases ht
    rfl
  refine ⟨t, ht, hrepresentable, hnesting, htext, ?_⟩
  rintro ⟨q, hq⟩
  rw [read_text_of_not_isFilled hempty ht hrepresentable hnesting] at hq
  cases hq

end Predicate

end Cohort
