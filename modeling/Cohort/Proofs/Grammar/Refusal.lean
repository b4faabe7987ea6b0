import Cohort.Proofs.Grammar.Reads

/-!
# Tokens that are refused

The counterpart of reading: the grammar finds a fault in the tokens, whatever stands behind them. A fault in one part
is one of everything that the grammar reads up to that part, so that refusal spreads outwards, from an operand or from
what stands after it.
-/

namespace Cohort.Rule

open Predicate (testTokens)
open Sql (Token Symbol bracketed)

variable {α β : Type} {i : Inner} {ts us rest : List Token} {depth depth' grip hold : Nat} {p q : Phrase}

theorem bind_of_eq_error {r : Rule α} {k : α → Rule β} {fault : GrammarFault} (h : r ts = .error fault) :
    (r >>= k) ts = .error fault := by
  change (r ts >>= fun p => k p.1 p.2) = _
  rw [h]
  rfl

/-- No operand is taken for a string of a type, so that a fault in it stays one. -/
theorem operand_of_bareOperand_eq_error (hstart : Starts ts) (hflat : Token.symbol .leftBracket ∉ ts)
    {fault : GrammarFault} (h : bareOperand i ts = .error fault) : operand i ts = .error fault := by
  rw [operand, bind_of_eq_ok (attempt_typedString hstart hflat)]
  exact bind_of_eq_error h

theorem bareOperand_not_eq_error (hstart : Starts ts) {fault : GrammarFault}
    (h : i.operation notStrength ts = .error fault) : bareOperand i (.plain "NOT" :: ts) = .error fault := by
  have hcapitals : Sql.inCapitals "NOT" = "NOT" := by decide
  change wordRest i "NOT" ts = _
  unfold wordRest
  rw [hcapitals]
  change notRest i ts = _
  rw [notRest, bind_of_eq_ok (takeKeyword_of_not_head (hstart.isKeyword (by decide)))]
  simp only [Bool.false_eq_true, if_false]
  exact bind_of_eq_error h

theorem bareOperand_nested_eq_error (hstart : Starts ts) {fault : GrammarFault}
    (h : commaList i.expression ts = .error fault) : bareOperand i (.symbol .leftParen :: ts) = .error fault := by
  change bracketRest i ts = _
  rw [bracketRest, bind_of_eq_ok (isNextKeyword_of_not_head (hstart.isKeyword (by decide))),
    bind_of_eq_ok (isNextKeyword_of_not_head (hstart.isKeyword (by decide)))]
  simp only [Bool.or_self, Bool.false_eq_true, if_false]
  exact bind_of_eq_error h

/-- The grammar, at an operand, finds a fault in the tokens. -/
def Refuses (ts : List Token) (depth grip : Nat) : Prop :=
  ∀ fuel levels floor rest, ts.length ≤ fuel → depth ≤ levels → floor < grip → Token.symbol .leftBracket ∉ rest →
    operation (inner fuel levels) (operand (inner fuel levels)) floor (ts ++ rest) = .error .phrase

/-- The grammar, after a phrase, finds a fault in the tokens. -/
def Stalls (ts : List Token) (depth grip : Nat) (p : Phrase) : Prop :=
  ∀ fuel levels floor limit rest, ts.length ≤ fuel → depth ≤ levels → floor < grip → Token.symbol .leftBracket ∉ rest →
    (ts ++ rest).length ≤ limit →
    climbBy strength (inner fuel levels) floor limit p (ts ++ rest) = .error .phrase

/-- The grammar, at an item of a list in brackets, finds a fault in the tokens. -/
def RefusesItems (ts : List Token) (depth : Nat) : Prop :=
  ∀ fuel levels limit rest, ts.length < fuel → depth < levels → Token.symbol .leftBracket ∉ rest →
    commaListWithin (inner fuel levels).expression limit (ts ++ rest) = .error .phrase

theorem Refuses.mono {grip' : Nat} (h : Refuses ts depth grip) (hdepth : depth ≤ depth') (hgrip : grip' ≤ grip) :
    Refuses ts depth' grip' :=
  fun fuel levels floor rest hfuel hlevels hfloor hrest =>
    h fuel levels floor rest hfuel (Nat.le_trans hdepth hlevels) (Nat.lt_of_lt_of_le hfloor hgrip) hrest

theorem Stalls.mono {grip' : Nat} (h : Stalls ts depth grip p) (hdepth : depth ≤ depth') (hgrip : grip' ≤ grip) :
    Stalls ts depth' grip' p :=
  fun fuel levels floor limit rest hfuel hlevels hfloor hrest hlimit =>
    h fuel levels floor limit rest hfuel (Nat.le_trans hdepth hlevels) (Nat.lt_of_lt_of_le hfloor hgrip) hrest hlimit

theorem RefusesItems.mono (h : RefusesItems ts depth) (hdepth : depth ≤ depth') : RefusesItems ts depth' :=
  fun fuel levels limit rest hfuel hlevels hrest =>
    h fuel levels limit rest hfuel (Nat.lt_of_le_of_lt hdepth hlevels) hrest

theorem Refuses.append (h : Refuses ts depth grip) (hflat : Token.symbol .leftBracket ∉ us) :
    Refuses (ts ++ us) depth grip := by
  intro fuel levels floor rest hfuel hlevels hfloor hrest
  rw [List.length_append] at hfuel
  rw [List.append_assoc]
  exact h fuel levels floor (us ++ rest) (by omega) hlevels hfloor (leftBracket_not_mem_append hflat hrest)

theorem Stalls.append (h : Stalls ts depth grip p) (hflat : Token.symbol .leftBracket ∉ us) :
    Stalls (ts ++ us) depth grip p := by
  intro fuel levels floor limit rest hfuel hlevels hfloor hrest hlimit
  rw [List.length_append] at hfuel
  rw [List.append_assoc] at hlimit ⊢
  exact h fuel levels floor limit (us ++ rest) (by omega) hlevels hfloor (leftBracket_not_mem_append hflat hrest) hlimit

/-- What stalls after a phrase makes all of it refused. -/
theorem Reads.refuses (h : Reads ts depth grip hold p) (hstalls : Stalls us depth' grip p)
    (hcloses : ∀ rest, Token.symbol .leftBracket ∉ rest → Closes hold (us ++ rest)) :
    Refuses (ts ++ us) (max depth depth') grip := by
  intro fuel levels floor rest hfuel hlevels hfloor hrest
  rw [List.length_append] at hfuel
  obtain ⟨limit, hlimit, hread⟩ := h fuel levels floor (us ++ rest) (by omega) (by omega) hfloor (hcloses rest hrest)
  rw [List.append_assoc, hread]
  exact hstalls fuel levels floor limit rest (by omega) (by omega) hfloor hrest hlimit

theorem Climbs.stalls (h : Climbs ts depth grip hold p q) (hstalls : Stalls us depth' grip q)
    (hcloses : ∀ rest, Token.symbol .leftBracket ∉ rest → Closes hold (us ++ rest)) :
    Stalls (ts ++ us) (max depth depth') grip p := by
  intro fuel levels floor limit rest hfuel hlevels hfloor hrest hlimit
  rw [List.length_append] at hfuel
  rw [List.append_assoc] at hlimit ⊢
  obtain ⟨limit', hlimit', hclimb⟩ :=
    h fuel levels floor limit (us ++ rest) (by omega) (by omega) hfloor (hcloses rest hrest) hlimit
  rw [hclimb]
  exact hstalls fuel levels floor limit' rest (by omega) (by omega) hfloor hrest hlimit'

theorem Refuses.operation_eq_error (h : Refuses ts depth grip) {fuel levels floor : Nat} (hfuel : ts.length < fuel)
    (hlevels : depth ≤ levels) (hfloor : floor < grip) (hrest : Token.symbol .leftBracket ∉ rest) :
    (inner fuel levels).operation floor (ts ++ rest) = .error .phrase := by
  obtain ⟨fuel, rfl⟩ : ∃ n, fuel = n + 1 := ⟨fuel - 1, by omega⟩
  exact h fuel levels floor rest (by omega) hlevels hfloor hrest

theorem Refuses.expression_eq_error (h : Refuses ts depth grip) {fuel levels : Nat} (hfuel : ts.length < fuel)
    (hlevels : depth < levels) (hgrip : 0 < grip) (hrest : Token.symbol .leftBracket ∉ rest) :
    (inner fuel levels).expression (ts ++ rest) = .error .phrase := by
  obtain ⟨fuel, rfl⟩ : ∃ n, fuel = n + 1 := ⟨fuel - 1, by omega⟩
  obtain ⟨levels, rfl⟩ : ∃ n, levels = n + 1 := ⟨levels - 1, by omega⟩
  exact h fuel levels 0 rest (by omega) (by omega) hgrip hrest

theorem Refuses.phrase_eq_error (h : Refuses ts depth grip) (hdepth : depth < maxNesting) (hgrip : 0 < grip) :
    phrase ts = .error .phrase := by
  have hexpression : (inner (ts.length + 2) maxNesting).expression (ts ++ []) = .error .phrase :=
    h.expression_eq_error (by omega) hdepth hgrip List.not_mem_nil
  rw [List.append_nil] at hexpression
  exact hexpression

theorem refuses_of_bareOperand (hstart : Starts ts) (hflat : Token.symbol .leftBracket ∉ ts)
    (h : ∀ fuel levels rest, ts.length ≤ fuel → depth ≤ levels → Token.symbol .leftBracket ∉ rest →
      bareOperand (inner fuel levels) (ts ++ rest) = .error .phrase) : Refuses ts depth grip := by
  intro fuel levels floor rest hfuel hlevels _ hrest
  rw [operation]
  exact bind_of_eq_error (operand_of_bareOperand_eq_error (hstart.append rest) (leftBracket_not_mem_append hflat hrest)
    (h fuel levels rest hfuel hlevels hrest))

theorem refuses_rightParen : Refuses [.symbol .rightParen] 0 grip :=
  refuses_of_bareOperand (starts_of_capitals?_eq_none rfl _) (by decide) fun _ _ _ _ _ _ => rfl

theorem refuses_not (h : Refuses ts depth grip) (hstart : Starts ts) (hflat : Token.symbol .leftBracket ∉ ts)
    (hgrip : notStrength < grip) {grip' : Nat} : Refuses (.plain "NOT" :: ts) depth grip' := by
  refine refuses_of_bareOperand ⟨_, ts, rfl, .inr (by decide)⟩
    (List.not_mem_cons_of_ne_of_not_mem (by decide) hflat) ?_
  intro fuel levels rest hfuel hlevels hrest
  exact bareOperand_not_eq_error (hstart.append rest) (h.operation_eq_error hfuel hlevels hgrip hrest)

theorem Refuses.items (h : Refuses ts depth grip) (hgrip : 0 < grip) : RefusesItems ts depth := by
  intro fuel levels limit rest hfuel hlevels hrest
  -- without room for an item the list is refused as well, so that its length does not matter
  cases limit with
  | zero => rfl
  | succ limit =>
    rw [commaListWithin]
    exact bind_of_eq_error (h.expression_eq_error hfuel hlevels hgrip hrest)

/-- A fault after an item that can be read is one of the list. -/
theorem Reads.items (h : Reads ts depth grip 0 p) (hgrip : 0 < grip) (hitems : RefusesItems us depth)
    (hflat : Token.symbol .leftBracket ∉ us) : RefusesItems (ts ++ .symbol .comma :: us) depth := by
  intro fuel levels limit rest hfuel hlevels hrest
  rw [List.length_append, List.length_cons] at hfuel
  cases limit with
  | zero => rfl
  | succ limit =>
    have hitem : (inner fuel levels).expression (ts ++ .symbol .comma :: (us ++ rest)) =
        .ok (p, .symbol .comma :: (us ++ rest)) :=
      h.expression_eq_ok (by omega) hlevels hgrip (closes_zero_cons (.inl rfl) (leftBracket_not_mem_append hflat hrest))
    rw [List.append_assoc, List.cons_append, commaListWithin, bind_of_eq_ok hitem,
      bind_of_eq_ok (takeSymbol_of_head ..), if_pos rfl]
    exact bind_of_eq_error (hitems fuel levels limit rest (by omega) hlevels hrest)

/-- A phrase in brackets is refused at any strength. -/
theorem RefusesItems.bracketed (h : RefusesItems ts depth) (hstart : Starts ts)
    (hflat : Token.symbol .leftBracket ∉ ts) : Refuses (.symbol .leftParen :: ts) (depth + 1) grip := by
  refine refuses_of_bareOperand (starts_of_capitals?_eq_none rfl _)
    (List.not_mem_cons_of_ne_of_not_mem (by decide) hflat) ?_
  intro fuel levels rest hfuel hlevels hrest
  exact bareOperand_nested_eq_error (hstart.append rest) (h fuel levels _ rest hfuel hlevels hrest)

theorem Refuses.bracketed_true (h : Refuses ts depth grip) (hstart : Starts ts) (hflat : Token.symbol .leftBracket ∉ ts)
    (hgrip : 0 < grip) {grip' : Nat} : Refuses (bracketed true ts) (depth + 1) grip' := by
  have hbracketed : Refuses (.symbol .leftParen :: ts) (depth + 1) grip' := (h.items hgrip).bracketed hstart hflat
  have hclose : Token.symbol .leftBracket ∉ [Token.symbol .rightParen] := by decide
  exact hbracketed.append hclose

/-- One operator or test, given that it has a fault. -/
theorem stalls_of_extend (hne : ts ≠ []) (hstrength : ∀ rest, grip ≤ strength (ts ++ rest))
    (h : ∀ fuel levels rest, ts.length ≤ fuel → depth ≤ levels → Token.symbol .leftBracket ∉ rest →
      extend (inner fuel levels) p (strength (ts ++ rest)) (ts ++ rest) = .error .phrase) :
    Stalls ts depth grip p := by
  intro fuel levels floor limit rest hfuel hlevels hfloor hrest hlimit
  have hpositive : 0 < ts.length := List.length_pos_iff.2 hne
  rw [List.length_append] at hlimit
  obtain ⟨limit, rfl⟩ : ∃ n, limit = n + 1 := ⟨limit - 1, by omega⟩
  rw [climbBy, bind_of_eq_ok (get_eq_ok _), if_pos (Nat.lt_of_lt_of_le hfloor (hstrength rest))]
  exact bind_of_eq_error (h fuel levels rest hfuel hlevels hrest)

theorem stalls_operator (op : Operator) (h : Refuses ts depth grip) (hstart : Starts ts) (hgrip : op.strength < grip) :
    Stalls (op.token :: ts) depth op.strength p := by
  refine stalls_of_extend (List.cons_ne_nil _ _) (fun rest => ?_) ?_
  · have hstrength : strength (op.token :: ts ++ rest) = op.strength := by
      rw [List.cons_append, strength_operator]
    exact Nat.le_of_eq hstrength.symm
  · intro fuel levels rest hfuel hlevels hrest
    rw [List.cons_append, strength_operator, extend_operator_eq, infixRest,
      bind_of_eq_ok (takeOneOf_of_starts (hstart.append rest))]
    exact bind_of_eq_error (h.operation_eq_error hfuel hlevels hgrip hrest)

theorem stalls_like (negated : Bool) (h : Refuses ts depth grip) (hgrip : likeStrength < grip) :
    Stalls (testTokens negated "LIKE" ++ ts) depth likeStrength p := by
  refine stalls_of_extend (testTokens_append_ne_nil _ _ _)
    (fun rest => Nat.le_of_eq (strength_like negated _ rest).symm) ?_
  intro fuel levels rest hfuel hlevels hrest
  have hlength := length_lt_length_testTokens_append negated "LIKE" ts
  rw [List.append_assoc, extend_like_eq, likeRest]
  exact bind_of_eq_error (h.operation_eq_error (by omega) hlevels hgrip hrest)

/-- A test for a range, given that its bounds are refused together. -/
theorem stalls_between (negated : Bool)
    (h : ∀ fuel levels rest, ts.length < fuel → depth ≤ levels → Token.symbol .leftBracket ∉ rest →
      betweenRest (inner fuel levels) p negated (ts ++ rest) = .error .phrase) :
    Stalls (testTokens negated "BETWEEN" ++ ts) depth comparisonStrength p := by
  refine stalls_of_extend (testTokens_append_ne_nil _ _ _)
    (fun rest => Nat.le_of_eq (strength_between negated _ rest).symm) ?_
  intro fuel levels rest hfuel hlevels hrest
  have hlength := length_lt_length_testTokens_append negated "BETWEEN" ts
  rw [List.append_assoc, extend_between_eq]
  exact h fuel levels rest (by omega) hlevels hrest

theorem stalls_between_low (negated : Bool) (h : Refuses ts depth grip) (hgrip : comparisonStrength < grip) :
    Stalls (testTokens negated "BETWEEN" ++ ts) depth comparisonStrength p := by
  refine stalls_between negated ?_
  intro fuel levels rest hfuel hlevels hrest
  rw [betweenRest]
  exact bind_of_eq_error (h.operation_eq_error hfuel hlevels hgrip hrest)

theorem stalls_between_high (negated : Bool) (hlow : Reads ts depth grip hold q) (hhigh : Refuses us depth' grip)
    (hgrip : comparisonStrength < grip) (hhold : comparisonStrength ≤ hold)
    (hflat : Token.symbol .leftBracket ∉ us) :
    Stalls (testTokens negated "BETWEEN" ++ (ts ++ .plain "AND" :: us)) (max depth depth') comparisonStrength p := by
  refine stalls_between negated ?_
  intro fuel levels rest hfuel hlevels hrest
  rw [List.length_append, List.length_cons] at hfuel
  have hand : Closes hold (.plain "AND" :: (us ++ rest)) :=
    closes_and hhold (leftBracket_not_mem_append hflat hrest)
  have hlow' : (inner fuel levels).operation comparisonStrength (ts ++ .plain "AND" :: (us ++ rest)) =
      .ok (q, .plain "AND" :: (us ++ rest)) :=
    hlow.operation_eq_ok (by omega) (by omega) hgrip hand (Nat.le_of_ble_eq_true rfl)
  rw [List.append_assoc, List.cons_append, betweenRest, bind_of_eq_ok hlow', bind_of_eq_ok (expectKeyword_and _)]
  exact bind_of_eq_error (hhigh.operation_eq_error (by omega) (by omega) hgrip hrest)

/-- A list stands in brackets, so that a fault in it is met after the first of them. -/
theorem stalls_in (negated : Bool) (h : RefusesItems ts depth) (hstart : Starts ts) :
    Stalls (testTokens negated "IN" ++ .symbol .leftParen :: ts) (depth + 1) comparisonStrength p := by
  refine stalls_of_extend (testTokens_append_ne_nil _ _ _)
    (fun rest => Nat.le_of_eq (strength_in negated _ rest).symm) ?_
  intro fuel levels rest hfuel hlevels hrest
  have hlength := length_lt_length_testTokens_append negated "IN" (.symbol .leftParen :: ts)
  rw [List.length_cons] at hlength
  rw [List.append_assoc, extend_in_eq, List.cons_append, inRest_leftParen _ _ (hstart.append rest)]
  exact bind_of_eq_error (h fuel levels _ rest (by omega) hlevels hrest)

end Cohort.Rule
