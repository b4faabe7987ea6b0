import Cohort.Proofs.Lexing.Slots
import Cohort.Proofs.Predicate.Acceptance
import Cohort.Proofs.Predicate.Leftward

/-!
# The tokens of predicates

A predicate that can stand in a query has the tokens that its own tree determines. This is where the brackets of its
text come from: an operand is enclosed by its rank alone.
-/

namespace Cohort.Predicate

open Sql Sql.Term

/-- How tightly the outermost operator binds. -/
def rank : Predicate → Nat
  | .binary _ op _ => operatorRank op
  | .not _ => 3
  | .isNull _ | .isNotNull _ | .inList .. | .like .. | .between .. => testRank
  | _ => 10

/-- Whether the predicate is enclosed inside something of the given rank. -/
def isLoose (p : Predicate) (outer : Nat) (strict : Bool) : Bool := p.rank < outer || (strict && p.rank == outer)

/-- The words of a test that may be negated. -/
def testTokens (negated : Bool) (w : String) : List Token :=
  if negated then [.plain "NOT", .plain w] else [.plain w]

mutual

def tokens : Predicate → List Token
  | .column parts => [Token.symbol .period].intercalate (parts.map fun n => [.word n (some '"')])
  | .literal v => v.script.tokens
  | .binary l op r =>
    bracketed (l.isLoose (operatorRank op) op.isComparison) l.tokens ++
      op.token :: bracketed (r.isLoose (operatorRank op) (!op.isLogical)) r.tokens
  | .not p => .plain "NOT" :: bracketed (p.isLoose 3 false) p.tokens
  | .isNull p => bracketed (p.isLoose testRank true) p.tokens ++ [.plain "IS", .plain "NULL"]
  | .isNotNull p => bracketed (p.isLoose testRank true) p.tokens ++ [.plain "IS", .plain "NOT", .plain "NULL"]
  | .inList p items negated =>
    bracketed (p.isLoose testRank true) p.tokens ++ (testTokens negated "IN" ++
      bracketed true ([Token.symbol .comma].intercalate (tokensOf items)))
  | .like p pattern negated =>
    bracketed (p.isLoose testRank true) p.tokens ++ (testTokens negated "LIKE" ++
      bracketed (pattern.isLoose testRank true) pattern.tokens)
  | .between p low high negated =>
    bracketed (p.isLoose testRank true) p.tokens ++ (testTokens negated "BETWEEN" ++
      (bracketed (low.isLoose testRank true) low.tokens ++
        .plain "AND" :: bracketed (high.isLoose testRank true) high.tokens))

def tokensOf : List Predicate → List (List Token)
  | [] => []
  | p :: ps => p.tokens :: tokensOf ps

end

theorem tokens_path_of_checkAll {kind : String} {names : List String} {parts : List Identifier}
    (h : checkAll kind names = .ok parts) :
    (Identifier.path parts).tokens =
      [Token.symbol .period].intercalate (names.map fun n => [.word n (some '"')]) := by
  have hparts := checkAll_eq_ok h
  clear h
  rw [Identifier.path, Script.tokens_join, List.map_map]
  congr 1
  induction hparts with
  | nil => rfl
  | cons hi _ ih =>
    obtain ⟨valid, rfl⟩ := hi
    exact List.cons_eq_cons.2 ⟨rfl, ih⟩

theorem isLoose_of_rank_eq {p : Predicate} {t : Term} (h : t.rank = p.rank) (outer : Nat) (strict : Bool) :
    t.isLoose outer strict = p.isLoose outer strict := by
  rw [Term.isLoose, isLoose, h]

@[simp] theorem map_token_negatable (negated : Bool) (w : String) :
    (Slot.negatable negated w).map Slot.token = testTokens negated w := by
  cases negated <;> rfl

theorem rank_of_ofPredicate {p : Predicate} {t : Term} (h : Term.ofPredicate p = .ok t) : t.rank = p.rank := by
  cases p with
  | column names =>
    obtain ⟨-, parts, -, rfl⟩ := ofPredicate_column_eq_ok h
    rfl
  | literal v =>
    obtain rfl := ofPredicate_literal_eq_ok h
    rfl
  | binary l op r =>
    obtain ⟨tl, tr, -, -, rfl⟩ := ofPredicate_binary_eq_ok h
    rfl
  | not p =>
    obtain ⟨tp, -, rfl⟩ := ofPredicate_not_eq_ok h
    rfl
  | isNull p =>
    obtain ⟨tp, -, rfl⟩ := ofPredicate_isNull_eq_ok h
    rfl
  | isNotNull p =>
    obtain ⟨tp, -, rfl⟩ := ofPredicate_isNotNull_eq_ok h
    rfl
  | inList p items negated =>
    obtain ⟨tp, ts, -, -, rfl⟩ := ofPredicate_inList_eq_ok h
    rfl
  | like p pattern negated =>
    obtain ⟨tp, tpattern, -, -, rfl⟩ := ofPredicate_like_eq_ok h
    rfl
  | between p low high negated =>
    obtain ⟨tp, tlow, thigh, -, -, -, rfl⟩ := ofPredicate_between_eq_ok h
    rfl

/-- An operand has its own tokens, in brackets if its rank says so. -/
theorem tokens_enclosed_of_ofPredicate {p : Predicate} {t : Term} (h : Term.ofPredicate p = .ok t)
    (htokens : t.script.tokens = p.tokens) (outer : Nat) (strict : Bool) :
    (enclosed (t.isLoose outer strict) t.script).tokens = bracketed (p.isLoose outer strict) p.tokens := by
  rw [tokens_enclosed, htokens, isLoose_of_rank_eq (rank_of_ofPredicate h)]

/-- A term has the tokens of the predicate that it stands for. -/
theorem tokens_script_of_ofPredicate {p : Predicate} {t : Term} (h : Term.ofPredicate p = .ok t) :
    t.script.tokens = p.tokens := by
  induction p using induct generalizing t with
  | column names =>
    obtain ⟨-, parts, hparts, rfl⟩ := ofPredicate_column_eq_ok h
    exact tokens_path_of_checkAll hparts
  | literal v =>
    obtain rfl := ofPredicate_literal_eq_ok h
    rfl
  | binary l op r ihl ihr =>
    obtain ⟨tl, tr, hl, hr, rfl⟩ := ofPredicate_binary_eq_ok h
    simp [Term.script, tokens, tokens_enclosed_of_ofPredicate hl (ihl hl), tokens_enclosed_of_ofPredicate hr (ihr hr),
      -tokens_enclosed]
  | not p ih =>
    obtain ⟨tp, hp, rfl⟩ := ofPredicate_not_eq_ok h
    simp [Term.script, tokens, tokens_enclosed_of_ofPredicate hp (ih hp), -tokens_enclosed]
  | isNull p ih =>
    obtain ⟨tp, hp, rfl⟩ := ofPredicate_isNull_eq_ok h
    simp [Term.script, tokens, tokens_enclosed_of_ofPredicate hp (ih hp), -tokens_enclosed]
  | isNotNull p ih =>
    obtain ⟨tp, hp, rfl⟩ := ofPredicate_isNotNull_eq_ok h
    simp [Term.script, tokens, tokens_enclosed_of_ofPredicate hp (ih hp), -tokens_enclosed]
  | inList p items negated ih ihitems =>
    obtain ⟨tp, ts, hp, hs, rfl⟩ := ofPredicate_inList_eq_ok h
    have hscripts : (scripts ts).map Script.tokens = tokensOf items := by
      have hterms := ofPredicates_eq_ok hs
      clear hs h
      induction hterms with
      | nil => rfl
      | cons hq _ ihs =>
        obtain ⟨ihq, ihlater⟩ := List.forall_mem_cons.1 ihitems
        exact List.cons_eq_cons.2 ⟨ihq hq, ihs ihlater⟩
    simp [Term.script, tokens, tokens_enclosed_of_ofPredicate hp (ih hp), -tokens_enclosed, hscripts]
  | like p pattern negated ih ihpattern =>
    obtain ⟨tp, tpattern, hp, hpattern, rfl⟩ := ofPredicate_like_eq_ok h
    simp [Term.script, tokens, tokens_enclosed_of_ofPredicate hp (ih hp), -tokens_enclosed,
      tokens_enclosed_of_ofPredicate hpattern (ihpattern hpattern)]
  | between p low high negated ih ihlow ihhigh =>
    obtain ⟨tp, tlow, thigh, hp, hlow, hhigh, rfl⟩ := ofPredicate_between_eq_ok h
    simp [Term.script, tokens, tokens_enclosed_of_ofPredicate hp (ih hp), -tokens_enclosed,
      tokens_enclosed_of_ofPredicate hlow (ihlow hlow),
      tokens_enclosed_of_ofPredicate hhigh (ihhigh hhigh)]

/-! ## Nesting -/

/-- How deep brackets are nested in the tokens, beginning at a depth. -/
def deepest (depth : Nat) : List Token → Nat
  | [] => depth
  | t :: ts =>
    if t = .symbol .leftParen then deepest (depth + 1) ts
    else if t = .symbol .rightParen then max depth (deepest (depth - 1) ts)
    else deepest depth ts

def nesting (ts : List Token) : Nat := deepest 0 ts

theorem le_deepest (depth : Nat) (ts : List Token) : depth ≤ deepest depth ts := by
  induction ts generalizing depth with
  | nil => exact Nat.le_refl _
  | cons t ts ih =>
    have hinner := ih (depth + 1)
    have hsame := ih depth
    unfold deepest
    split
    · omega
    · split <;> omega

/-- The tokens nest brackets that deep and close all of them. -/
def Nests (ts : List Token) (n : Nat) : Prop :=
  ∀ depth rest, deepest depth (ts ++ rest) = max (depth + n) (deepest depth rest)

theorem Nests.append {ts us : List Token} {m n : Nat} (ht : Nests ts m) (hu : Nests us n) :
    Nests (ts ++ us) (max m n) := by
  intro depth rest
  rw [List.append_assoc, ht, hu]
  omega

theorem nests_nil : Nests [] 0 := by
  intro depth rest
  have hle := le_deepest depth rest
  rw [List.nil_append]
  omega

/-- Tokens other than brackets. -/
def IsFlat (t : Token) : Prop := t ≠ .symbol .leftParen ∧ t ≠ .symbol .rightParen

theorem nests_cons {t : Token} (h : IsFlat t) {ts : List Token} {n : Nat} (hts : Nests ts n) : Nests (t :: ts) n := by
  intro depth rest
  rw [List.cons_append, deepest, if_neg h.1, if_neg h.2, hts]

theorem nests_of_forall {ts : List Token} (h : ∀ t ∈ ts, IsFlat t) : Nests ts 0 := by
  induction ts with
  | nil => exact nests_nil
  | cons t ts ih =>
    obtain ⟨ht, hts⟩ := List.forall_mem_cons.1 h
    exact nests_cons ht (ih hts)

/-- The depth of something that may be enclosed. -/
def enclosedDepth (parentheses : Bool) (n : Nat) : Nat := if parentheses then n + 1 else n

theorem Nests.bracketed {ts : List Token} {n : Nat} (h : Nests ts n) (parentheses : Bool) :
    Nests (bracketed parentheses ts) (enclosedDepth parentheses n) := by
  cases parentheses with
  | false => exact h
  | true =>
    intro depth rest
    have hle := le_deepest depth rest
    have hclose : deepest (depth + 1) (.symbol .rightParen :: rest) = max (depth + 1) (deepest depth rest) := by
      rw [deepest, if_neg (by decide), if_pos rfl, Nat.add_sub_cancel]
    rw [bracketed_true, List.cons_append, deepest, if_pos rfl, List.append_assoc, h, List.singleton_append, hclose]
    unfold enclosedDepth
    rw [if_pos rfl]
    omega

mutual

/-- How deep brackets are nested in the text of the predicate. -/
def depth : Predicate → Nat
  | .column _ | .literal _ => 0
  | .binary l op r =>
    max (enclosedDepth (l.isLoose (operatorRank op) op.isComparison) l.depth)
      (enclosedDepth (r.isLoose (operatorRank op) (!op.isLogical)) r.depth)
  | .not p => enclosedDepth (p.isLoose 3 false) p.depth
  | .isNull p | .isNotNull p => enclosedDepth (p.isLoose testRank true) p.depth
  | .inList p items _ => max (enclosedDepth (p.isLoose testRank true) p.depth) (enclosedDepth true (depthOf items))
  | .like p pattern _ =>
    max (enclosedDepth (p.isLoose testRank true) p.depth)
      (enclosedDepth (pattern.isLoose testRank true) pattern.depth)
  | .between p low high _ =>
    max (enclosedDepth (p.isLoose testRank true) p.depth)
      (max (enclosedDepth (low.isLoose testRank true) low.depth)
        (enclosedDepth (high.isLoose testRank true) high.depth))

def depthOf : List Predicate → Nat
  | [] => 0
  | p :: ps => max p.depth (depthOf ps)

end

theorem isFlat_symbol {s : Symbol} (h : s ≠ .leftParen ∧ s ≠ .rightParen) : IsFlat (.symbol s) :=
  ⟨fun heq => h.1 (Token.symbol.inj heq), fun heq => h.2 (Token.symbol.inj heq)⟩

theorem isFlat_plain (w : String) : IsFlat (.plain w) := ⟨nofun, nofun⟩

theorem Nests.testTokens_append {ts : List Token} {n : Nat} (h : Nests ts n) (negated : Bool) (w : String) :
    Nests (testTokens negated w ++ ts) n := by
  cases negated with
  | false => exact nests_cons (isFlat_plain _) h
  | true => exact nests_cons (isFlat_plain _) (nests_cons (isFlat_plain _) h)

theorem Nests.append_words {ts : List Token} {n : Nat} (h : Nests ts n) (words : List String) :
    Nests (ts ++ words.map .plain) n := by
  have hwords : Nests (words.map .plain) 0 := nests_of_forall fun t ht => by
    obtain ⟨w, -, rfl⟩ := List.mem_map.1 ht
    exact isFlat_plain w
  have happend := h.append hwords
  rwa [Nat.max_zero] at happend

theorem nests_path (names : List String) :
    Nests ([Token.symbol .period].intercalate (names.map fun n => [.word n (some '"')])) 0 := by
  have hname : ∀ n, IsFlat (.word n (some '"')) := fun n => ⟨nofun, nofun⟩
  induction names with
  | nil => exact nests_nil
  | cons n names ih =>
    cases names with
    | nil => exact nests_cons (hname n) nests_nil
    | cons m names => exact nests_cons (hname n) (nests_cons (isFlat_symbol (s := .period) (by decide)) ih)

theorem nests_intercalate_comma {items : List Predicate} (h : ∀ q ∈ items, Nests q.tokens q.depth) :
    Nests ([Token.symbol .comma].intercalate (tokensOf items)) (depthOf items) := by
  induction items with
  | nil => exact nests_nil
  | cons q items ih =>
    obtain ⟨hq, hitems⟩ := List.forall_mem_cons.1 h
    cases items with
    | nil =>
      rw [tokensOf, tokensOf, List.intercalate_singleton, depthOf, depthOf, Nat.max_zero]
      exact hq
    | cons r items =>
      have hlater := nests_cons (isFlat_symbol (s := .comma) (by decide)) (ih hitems)
      have happend := hq.append hlater
      rw [tokensOf, tokensOf, List.intercalate_cons_cons, List.append_assoc]
      exact happend

theorem isFlat_token_of_mem_slots {v : Literal} {s : Slot} (h : s ∈ v.slots) : IsFlat s.token := by
  have hsign : ∀ negative, ∀ s ∈ signSlots negative, IsFlat s.token := by
    intro negative s hs
    cases negative with
    | false => cases hs
    | true =>
      obtain rfl := List.mem_singleton.1 hs
      exact ⟨nofun, nofun⟩
  have hnumeral : ∀ negative digits, ∀ s ∈ signSlots negative ++ [.numeral digits], IsFlat s.token := by
    intro negative digits s hs
    rcases List.mem_append.1 hs with hs | hs
    · exact hsign negative s hs
    · obtain rfl := List.mem_singleton.1 hs
      exact ⟨nofun, nofun⟩
  cases v with
  | null =>
    obtain rfl := List.mem_singleton.1 h
    exact isFlat_plain _
  | boolean b =>
    cases b <;> obtain rfl := List.mem_singleton.1 h <;> exact isFlat_plain _
  | integer i => exact hnumeral _ _ s h
  | decimal x =>
    rw [Literal.slots_decimal] at h
    split at h
    · exact hnumeral _ _ s h
    · obtain rfl := List.mem_singleton.1 h
      exact isFlat_plain _
  | string content =>
    obtain rfl := List.mem_singleton.1 h
    exact ⟨nofun, nofun⟩

theorem nests_tokens (p : Predicate) : Nests p.tokens p.depth := by
  induction p using induct with
  | column names => exact nests_path names
  | literal v =>
    apply nests_of_forall
    intro t ht
    rw [tokens, v.tokens_script] at ht
    obtain ⟨s, hs, rfl⟩ := List.mem_map.1 ht
    exact isFlat_token_of_mem_slots hs
  | binary l op r ihl ihr =>
    have hop : IsFlat op.token := by cases op <;> exact ⟨nofun, nofun⟩
    exact (ihl.bracketed _).append (nests_cons hop (ihr.bracketed _))
  | not p ih => exact nests_cons (isFlat_plain _) (ih.bracketed _)
  | isNull p ih => exact (ih.bracketed _).append_words ["IS", "NULL"]
  | isNotNull p ih => exact (ih.bracketed _).append_words ["IS", "NOT", "NULL"]
  | inList p items negated ih ihitems =>
    have hitems := (nests_intercalate_comma ihitems).bracketed true
    exact (ih.bracketed _).append (hitems.testTokens_append negated "IN")
  | like p pattern negated ih ihpattern =>
    exact (ih.bracketed _).append ((ihpattern.bracketed _).testTokens_append negated "LIKE")
  | between p low high negated ih ihlow ihhigh =>
    have hbounds := (ihlow.bracketed (low.isLoose testRank true)).append
      (nests_cons (isFlat_plain "AND") (ihhigh.bracketed (high.isLoose testRank true)))
    exact (ih.bracketed _).append (hbounds.testTokens_append negated "BETWEEN")

/-- The depth of a predicate is the nesting of its tokens. -/
theorem nesting_tokens (p : Predicate) : nesting p.tokens = p.depth := by
  have hnests := nests_tokens p 0 []
  rw [List.append_nil, Nat.zero_add] at hnests
  rw [nesting, hnests]
  exact Nat.max_zero _

end Cohort.Predicate
