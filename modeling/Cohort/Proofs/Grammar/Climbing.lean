import Cohort.Proofs.Grammar.Operand
import Cohort.Proofs.Predicate.Tokens

/-!
# Operators and tests after an operand

One operator or test extends the phrase before it by what it takes. Operators are taken as long as they are stronger
than the floor, so that a phrase ends before the first token that is not.
-/

namespace Cohort

open Predicate (testTokens)
open Sql (Token Symbol)

/-- How strongly the grammar takes an operator to bind. -/
def Operator.strength : Operator → Nat
  | .or => Rule.orStrength
  | .and => Rule.andStrength
  | .eq | .notEq | .lt | .ltEq | .gt | .gtEq => Rule.comparisonStrength
  | .plus | .minus => Rule.sumStrength
  | .multiply | .divide | .modulo => Rule.productStrength

namespace Rule

variable {i : Inner} {ts rest : List Token}

@[simp] theorem strength_operator (op : Operator) (ts : List Token) : strength (op.token :: ts) = op.strength := by
  have hand : wordStrength (.plain "AND") ts = andStrength := rfl
  have hor : wordStrength (.plain "OR") ts = orStrength := rfl
  cases op with
  | and => exact hand
  | or => exact hor
  | _ => rfl

theorem strength_in (negated : Bool) (ts rest : List Token) :
    strength (testTokens negated "IN" ++ ts ++ rest) = comparisonStrength := by
  cases negated <;> rfl

theorem strength_like (negated : Bool) (ts rest : List Token) :
    strength (testTokens negated "LIKE" ++ ts ++ rest) = likeStrength := by
  cases negated <;> rfl

theorem strength_between (negated : Bool) (ts rest : List Token) :
    strength (testTokens negated "BETWEEN" ++ ts ++ rest) = comparisonStrength := by
  cases negated <;> rfl

theorem extend_operator_eq (op : Operator) (left : Phrase) (s : Nat) (ts : List Token) :
    extend i left s (op.token :: ts) = infixRest i left (.known op) s ts := by
  cases op <;> rfl

/-- No operand is taken for a word that makes an operator range over a query. -/
theorem takeOneOf_of_starts (hstart : Starts ts) : takeOneOf ["ANY", "ALL"] ts = .ok (none, ts) := by
  refine takeOneOf_of_not_head fun t ht k hk => hstart.isKeyword ?_ t ht
  rcases List.mem_pair.1 hk with rfl | rfl <;> decide

theorem extend_operator (op : Operator) (left : Phrase) {right : Phrase} {s : Nat} (hstart : Starts ts)
    (h : i.operation s ts = .ok (right, rest)) :
    extend i left s (op.token :: ts) = .ok (.binary left (.known op) right, rest) := by
  rw [extend_operator_eq, infixRest, bind_of_eq_ok (takeOneOf_of_starts hstart)]
  dsimp only
  rw [bind_of_eq_ok h]
  rfl

theorem extend_isNull (left : Phrase) (s : Nat) (rest : List Token) :
    extend i left s (.plain "IS" :: .plain "NULL" :: rest) = .ok (.isNull left, rest) := by
  change isRest i left (.plain "NULL" :: rest) = _
  rw [isRest, bind_of_eq_ok (takeKeyword_of_head (by decide) rest)]
  rfl

theorem extend_isNotNull (left : Phrase) (s : Nat) (rest : List Token) :
    extend i left s (.plain "IS" :: .plain "NOT" :: .plain "NULL" :: rest) = .ok (.isNotNull left, rest) := by
  have hnull : takeKeyword "NULL" (.plain "NOT" :: .plain "NULL" :: rest) =
      .ok (false, .plain "NOT" :: .plain "NULL" :: rest) := rfl
  have hnotNull : takeKeywords ["NOT", "NULL"] (.plain "NOT" :: .plain "NULL" :: rest) = .ok (true, rest) := by
    have hlength : (Token.plain "NOT" :: .plain "NULL" :: rest).length ≥ ["NOT", "NULL"].length := Nat.le_add_left ..
    rw [takeKeywords, if_pos ⟨hlength, rfl⟩]
    rfl
  change isRest i left (.plain "NOT" :: .plain "NULL" :: rest) = _
  rw [isRest, bind_of_eq_ok hnull]
  simp only [Bool.false_eq_true, if_false]
  rw [bind_of_eq_ok hnotNull]
  rfl

theorem extend_in_eq (negated : Bool) (left : Phrase) (s : Nat) (ts : List Token) :
    extend i left s (testTokens negated "IN" ++ ts) = inRest i left negated ts := by
  cases negated <;> rfl

/-- In brackets after `IN`, what begins like an operand is no query. -/
theorem inRest_leftParen (negated : Bool) (left : Phrase) (hstart : Starts ts) :
    inRest i left negated (.symbol .leftParen :: ts) =
      (commaList i.expression >>= fun items => do
        expectSymbol .rightParen
        return .inList left items negated : Rule Phrase) ts := by
  have hunnest : takeKeyword "UNNEST" (.symbol .leftParen :: ts) = .ok (false, .symbol .leftParen :: ts) := rfl
  rw [inRest, bind_of_eq_ok hunnest]
  simp only [Bool.false_eq_true, if_false]
  rw [parenthesized, bind_of_eq_ok (expectSymbol_of_head ..), bind_assoc,
    bind_of_eq_ok (isNextKeyword_of_not_head (hstart.isKeyword (by decide))), bind_assoc,
    bind_of_eq_ok (isNextKeyword_of_not_head (hstart.isKeyword (by decide)))]
  simp only [Bool.or_self, Bool.false_eq_true, if_false, bind_assoc, pure_bind]

theorem extend_in (negated : Bool) (left : Phrase) (s : Nat) (hstart : Starts ts) {items : List Phrase}
    (h : commaList i.expression ts = .ok (items, .symbol .rightParen :: rest)) :
    extend i left s (testTokens negated "IN" ++ .symbol .leftParen :: ts) = .ok (.inList left items negated, rest) := by
  rw [extend_in_eq, inRest_leftParen negated left hstart, bind_of_eq_ok h, bind_of_eq_ok (expectSymbol_of_head ..)]
  rfl

theorem optionalEscape_of_follows (h : Follows rest) : optionalEscape rest = .ok (none, rest) := by
  rw [optionalEscape, bind_of_eq_ok (takeKeyword_of_not_head (h.isKeyword (by decide)))]
  rfl

theorem extend_like_eq (negated : Bool) (left : Phrase) (s : Nat) (ts : List Token) :
    extend i left s (testTokens negated "LIKE" ++ ts) = likeRest i left negated ts := by
  cases negated <;> rfl

theorem extend_like (negated : Bool) (left : Phrase) (s : Nat) {pattern : Phrase} {escape : Option String}
    {later : List Token} (h : i.operation likeStrength ts = .ok (pattern, rest))
    (hescape : optionalEscape rest = .ok (escape, later)) :
    extend i left s (testTokens negated "LIKE" ++ ts) = .ok (.like left pattern escape negated, later) := by
  rw [extend_like_eq, likeRest, bind_of_eq_ok h, bind_of_eq_ok hescape]
  rfl

theorem extend_between_eq (negated : Bool) (left : Phrase) (s : Nat) (ts : List Token) :
    extend i left s (testTokens negated "BETWEEN" ++ ts) = betweenRest i left negated ts := by
  cases negated <;> rfl

theorem expectKeyword_and (ts : List Token) : expectKeyword "AND" (.plain "AND" :: ts) = .ok ((), ts) :=
  expect_of_head (by decide) ts

theorem extend_between (negated : Bool) (left : Phrase) (s : Nat) {us : List Token} {low high : Phrase}
    (hlow : i.operation comparisonStrength ts = .ok (low, .plain "AND" :: us))
    (hhigh : i.operation comparisonStrength us = .ok (high, rest)) :
    extend i left s (testTokens negated "BETWEEN" ++ ts) = .ok (.between left low high negated, rest) := by
  rw [extend_between_eq, betweenRest, bind_of_eq_ok hlow, bind_of_eq_ok (expectKeyword_and us), bind_of_eq_ok hhigh]
  rfl

theorem climbBy_of_strength_le {floor : Nat} (h : strength ts ≤ floor) (limit : Nat) (p : Phrase) :
    climbBy strength i floor limit p ts = .ok (p, ts) := by
  cases limit with
  | zero => rfl
  | succ limit =>
    rw [climbBy, bind_of_eq_ok (get_eq_ok ts), if_neg (Nat.not_lt_of_le h)]
    rfl

theorem climbBy_succ {floor : Nat} (h : floor < strength ts) {p q : Phrase}
    (hextend : extend i p (strength ts) ts = .ok (q, rest)) (limit : Nat) :
    climbBy strength i floor (limit + 1) p ts = climbBy strength i floor limit q rest := by
  rw [climbBy, bind_of_eq_ok (get_eq_ok ts), if_pos h, bind_of_eq_ok hextend]

end Rule

end Cohort
