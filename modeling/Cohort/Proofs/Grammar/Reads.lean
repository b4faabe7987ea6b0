import Cohort.Proofs.Grammar.Climbing

/-!
# Tokens read as a phrase

Tokens read as a phrase if the grammar, given them and something that may follow, arrives at the phrase with that
left. How much of the grammar this needs is kept with it: the depth of the brackets, the strength of the weakest
operator that has to be taken on the way, and the strength that what follows must not exceed.
-/

namespace Cohort.Rule

open Predicate (testTokens enclosedDepth)
open Sql (Token Symbol bracketed)

/-- What may follow tokens that hold on to their last operand up to the given strength. -/
structure Closes (hold : Nat) (rest : List Token) : Prop where
  follows : Follows rest
  flat : Token.symbol .leftBracket ∉ rest
  strength_le : strength rest ≤ hold

theorem Closes.mono {m n : Nat} (hle : m ≤ n) {rest : List Token} (h : Closes m rest) : Closes n rest :=
  ⟨h.follows, h.flat, Nat.le_trans h.strength_le hle⟩

theorem leftBracket_not_mem_append {ts us : List Token} (h : Token.symbol .leftBracket ∉ ts)
    (h' : Token.symbol .leftBracket ∉ us) : Token.symbol .leftBracket ∉ ts ++ us :=
  fun hmem => (List.mem_append.1 hmem).elim h h'

/-- The grammar, at an operand, reads the tokens as the phrase and goes on with operators. -/
def Reads (ts : List Token) (depth grip hold : Nat) (p : Phrase) : Prop :=
  ∀ fuel levels floor rest, ts.length ≤ fuel → depth ≤ levels → floor < grip → Closes hold rest →
    ∃ limit, rest.length ≤ limit ∧
      operation (inner fuel levels) (operand (inner fuel levels)) floor (ts ++ rest) =
        climbBy strength (inner fuel levels) floor limit p rest

/-- The grammar, after a phrase, takes the tokens to another phrase and goes on with operators. -/
def Climbs (ts : List Token) (depth grip hold : Nat) (p q : Phrase) : Prop :=
  ∀ fuel levels floor limit rest, ts.length ≤ fuel → depth ≤ levels → floor < grip → Closes hold rest →
    (ts ++ rest).length ≤ limit →
    ∃ limit', rest.length ≤ limit' ∧
      climbBy strength (inner fuel levels) floor limit p (ts ++ rest) =
        climbBy strength (inner fuel levels) floor limit' q rest

section

variable {ts us : List Token} {depth depth' grip hold hold' : Nat} {p q r : Phrase}

theorem Reads.mono {grip' : Nat} (h : Reads ts depth grip hold p) (hdepth : depth ≤ depth') (hgrip : grip' ≤ grip)
    (hhold : hold' ≤ hold) : Reads ts depth' grip' hold' p :=
  fun fuel levels floor rest hfuel hlevels hfloor hrest =>
    h fuel levels floor rest hfuel (Nat.le_trans hdepth hlevels) (Nat.lt_of_lt_of_le hfloor hgrip) (hrest.mono hhold)

/-- Tokens that may follow a phrase extend what is read. -/
theorem Reads.climbs (h : Reads ts depth grip hold p) (hclimbs : Climbs us depth' grip hold' p q)
    (hcloses : ∀ rest, Closes hold' rest → Closes hold (us ++ rest)) :
    Reads (ts ++ us) (max depth depth') grip hold' q := by
  intro fuel levels floor rest hfuel hlevels hfloor hrest
  rw [List.length_append] at hfuel
  obtain ⟨limit, hlimit, hread⟩ := h fuel levels floor (us ++ rest) (by omega) (by omega) hfloor (hcloses rest hrest)
  obtain ⟨limit', hlimit', hclimb⟩ :=
    hclimbs fuel levels floor limit rest (by omega) (by omega) hfloor hrest hlimit
  refine ⟨limit', hlimit', ?_⟩
  rw [List.append_assoc, hread, hclimb]

theorem Climbs.trans (h : Climbs ts depth grip hold p q) (h' : Climbs us depth' grip hold' q r)
    (hcloses : ∀ rest, Closes hold' rest → Closes hold (us ++ rest)) :
    Climbs (ts ++ us) (max depth depth') grip hold' p r := by
  intro fuel levels floor limit rest hfuel hlevels hfloor hrest hlimit
  rw [List.length_append] at hfuel
  rw [List.append_assoc] at hlimit ⊢
  obtain ⟨limit₁, hlimit₁, hclimb₁⟩ :=
    h fuel levels floor limit (us ++ rest) (by omega) (by omega) hfloor (hcloses rest hrest) hlimit
  obtain ⟨limit₂, hlimit₂, hclimb₂⟩ := h' fuel levels floor limit₁ rest (by omega) (by omega) hfloor hrest hlimit₁
  refine ⟨limit₂, hlimit₂, ?_⟩
  calc
    climbBy strength (inner fuel levels) floor limit p (ts ++ (us ++ rest)) =
        climbBy strength (inner fuel levels) floor limit₁ q (us ++ rest) := hclimb₁
    _ = climbBy strength (inner fuel levels) floor limit₂ r rest := hclimb₂

/-- Inside a phrase, an operand with the operators after it that are stronger than the floor. -/
theorem Reads.operation_eq_ok (h : Reads ts depth grip hold p) {fuel levels floor : Nat} {rest : List Token}
    (hfuel : ts.length < fuel) (hlevels : depth ≤ levels) (hfloor : floor < grip) (hrest : Closes hold rest)
    (hstop : strength rest ≤ floor) : (inner fuel levels).operation floor (ts ++ rest) = .ok (p, rest) := by
  obtain ⟨fuel, rfl⟩ : ∃ n, fuel = n + 1 := ⟨fuel - 1, by omega⟩
  obtain ⟨limit, -, hread⟩ := h fuel levels floor rest (by omega) hlevels hfloor hrest
  calc
    operation (inner fuel levels) (operand (inner fuel levels)) floor (ts ++ rest) =
        climbBy strength (inner fuel levels) floor limit p rest := hread
    _ = .ok (p, rest) := climbBy_of_strength_le hstop limit p

/-- Inside a phrase, a whole phrase between brackets or commas. -/
theorem Reads.expression_eq_ok (h : Reads ts depth grip hold p) {fuel levels : Nat} {rest : List Token}
    (hfuel : ts.length < fuel) (hlevels : depth < levels) (hgrip : 0 < grip) (hrest : Closes 0 rest) :
    (inner fuel levels).expression (ts ++ rest) = .ok (p, rest) := by
  obtain ⟨fuel, rfl⟩ : ∃ n, fuel = n + 1 := ⟨fuel - 1, by omega⟩
  obtain ⟨levels, rfl⟩ : ∃ n, levels = n + 1 := ⟨levels - 1, by omega⟩
  obtain ⟨limit, -, hread⟩ :=
    h fuel levels 0 rest (by omega) (by omega) hgrip (hrest.mono (Nat.zero_le _))
  calc
    operation (inner fuel levels) (operand (inner fuel levels)) 0 (ts ++ rest) =
        climbBy strength (inner fuel levels) 0 limit p rest := hread
    _ = .ok (p, rest) := climbBy_of_strength_le hrest.strength_le limit p

/-- Nothing else than the phrase. -/
theorem Reads.phrase_eq_ok (h : Reads ts depth grip hold p) (hdepth : depth < maxNesting) (hgrip : 0 < grip) :
    phrase ts = .ok (p, []) := by
  have hend : Closes 0 [] := ⟨follows_nil, List.not_mem_nil, Nat.le_refl _⟩
  have hexpression : (inner (ts.length + 2) maxNesting).expression (ts ++ []) = .ok (p, []) :=
    h.expression_eq_ok (by omega) hdepth hgrip hend
  rw [List.append_nil] at hexpression
  exact hexpression

theorem reads_of_bareOperand (hstart : Starts ts) (hflat : Token.symbol .leftBracket ∉ ts)
    (h : ∀ fuel levels rest, ts.length ≤ fuel → depth ≤ levels → Closes hold rest →
      bareOperand (inner fuel levels) (ts ++ rest) = .ok (p, rest)) : Reads ts depth grip hold p := by
  intro fuel levels floor rest hfuel hlevels hfloor hrest
  refine ⟨rest.length, Nat.le_refl _, ?_⟩
  have hoperand := operand_of_bareOperand (hstart.append rest) (leftBracket_not_mem_append hflat hrest.flat)
    (h fuel levels rest hfuel hlevels hrest) hrest.follows
  rw [operation, bind_of_eq_ok hoperand, bind_of_eq_ok (get_eq_ok rest)]

theorem starts_of_capitals?_eq_none {t : Token} (h : t.capitals? = none) (ts : List Token) : Starts (t :: ts) :=
  ⟨t, ts, rfl, .inl h⟩

theorem closes_zero_cons {s : Symbol} (h : s = .comma ∨ s = .rightParen) {rest : List Token}
    (hflat : Token.symbol .leftBracket ∉ rest) : Closes 0 (.symbol s :: rest) := by
  refine ⟨follows_cons ?_ _, ?_, ?_⟩
  · rcases h with rfl | rfl
    · exact .comma
    · exact .close
  · intro hmem
    rcases List.mem_cons.1 hmem with heq | hmem
    · rcases h with rfl | rfl <;> cases heq
    · exact hflat hmem
  · rcases h with rfl | rfl <;> exact Nat.le_refl _

/-- A phrase in brackets is read at any strength and holds on to nothing. -/
theorem Reads.bracketed_true (h : Reads ts depth grip hold p) (hstart : Starts ts)
    (hflat : Token.symbol .leftBracket ∉ ts) (hgrip : 0 < grip) {grip' : Nat} :
    Reads (bracketed true ts) (depth + 1) grip' productStrength (.nested p) := by
  have hflat' : Token.symbol .leftBracket ∉ bracketed true ts := by
    rw [Sql.bracketed_true]
    intro hmem
    rcases List.mem_cons.1 hmem with heq | hmem
    · cases heq
    · rcases List.mem_append.1 hmem with hmem | hmem
      · exact hflat hmem
      · cases List.mem_singleton.1 hmem
  refine reads_of_bareOperand (starts_of_capitals?_eq_none rfl _) hflat' ?_
  intro fuel levels rest hfuel hlevels hrest
  have hlength : ts.length < fuel := by
    rw [Sql.bracketed_true, List.length_cons, List.length_append] at hfuel
    omega
  have hexpression := h.expression_eq_ok hlength hlevels hgrip (closes_zero_cons (.inr rfl) hrest.flat)
  have htokens : bracketed true ts ++ rest = .symbol .leftParen :: (ts ++ .symbol .rightParen :: rest) := by
    rw [Sql.bracketed_true, List.cons_append, List.append_assoc, List.singleton_append]
  rw [htokens]
  exact bareOperand_nested (hstart.append _) hexpression hrest.follows

theorem reads_not (h : Reads ts depth grip hold p) (hstart : Starts ts) (hflat : Token.symbol .leftBracket ∉ ts)
    (hgrip : notStrength < grip) (hhold : notStrength ≤ hold) {grip' : Nat} :
    Reads (.plain "NOT" :: ts) depth grip' notStrength (.not p) := by
  refine reads_of_bareOperand ⟨_, ts, rfl, .inr (by decide)⟩ ?_ ?_
  · intro hmem
    rcases List.mem_cons.1 hmem with heq | hmem
    · cases heq
    · exact hflat hmem
  · intro fuel levels rest hfuel hlevels hrest
    exact bareOperand_not (hstart.append rest)
      (h.operation_eq_ok hfuel hlevels hgrip (hrest.mono hhold) hrest.strength_le)

/-! ## Operators and tests -/

/-- One operator or test, given what it extends the phrase before it to. -/
theorem climbs_of_extend (hne : ts ≠ []) (hstrength : ∀ rest, grip ≤ strength (ts ++ rest))
    (h : ∀ fuel levels rest, ts.length ≤ fuel → depth ≤ levels → Closes hold rest →
      extend (inner fuel levels) p (strength (ts ++ rest)) (ts ++ rest) = .ok (q, rest)) :
    Climbs ts depth grip hold p q := by
  intro fuel levels floor limit rest hfuel hlevels hfloor hrest hlimit
  have hpositive : 0 < ts.length := List.length_pos_iff.2 hne
  rw [List.length_append] at hlimit
  obtain ⟨limit, rfl⟩ : ∃ n, limit = n + 1 := ⟨limit - 1, by omega⟩
  refine ⟨limit, by omega, ?_⟩
  exact climbBy_succ (Nat.lt_of_lt_of_le hfloor (hstrength rest)) (h fuel levels rest hfuel hlevels hrest) limit

theorem climbs_operator (op : Operator) (h : Reads ts depth grip hold q) (hstart : Starts ts)
    (hgrip : op.strength < grip) (hhold : op.strength ≤ hold) :
    Climbs (op.token :: ts) depth op.strength op.strength p (.binary p (.known op) q) := by
  refine climbs_of_extend (List.cons_ne_nil _ _) (fun rest => ?_) ?_
  · have hstrength : strength (op.token :: ts ++ rest) = op.strength := by
      rw [List.cons_append, strength_operator]
    exact Nat.le_of_eq hstrength.symm
  · intro fuel levels rest hfuel hlevels hrest
    rw [List.cons_append, strength_operator]
    exact extend_operator op p (hstart.append rest)
      (h.operation_eq_ok hfuel hlevels hgrip (hrest.mono hhold) hrest.strength_le)

theorem climbs_isNull : Climbs [.plain "IS", .plain "NULL"] 0 isStrength productStrength p (.isNull p) :=
  climbs_of_extend (List.cons_ne_nil _ _) (fun _ => Nat.le_refl _) fun _ _ rest _ _ _ => extend_isNull p _ rest

theorem climbs_isNotNull :
    Climbs [.plain "IS", .plain "NOT", .plain "NULL"] 0 isStrength productStrength p (.isNotNull p) :=
  climbs_of_extend (List.cons_ne_nil _ _) (fun _ => Nat.le_refl _) fun _ _ rest _ _ _ => extend_isNotNull p _ rest

theorem testTokens_append_ne_nil (negated : Bool) (w : String) (ts : List Token) : testTokens negated w ++ ts ≠ [] := by
  cases negated <;> exact List.cons_ne_nil _ _

theorem length_lt_length_testTokens_append (negated : Bool) (w : String) (ts : List Token) :
    ts.length < (testTokens negated w ++ ts).length := by
  cases negated
  · exact Nat.lt_succ_self _
  · exact Nat.lt_succ_of_lt (Nat.lt_succ_self _)

theorem climbs_like (negated : Bool) (h : Reads ts depth grip hold q) (hgrip : likeStrength < grip)
    (hhold : likeStrength ≤ hold) :
    Climbs (testTokens negated "LIKE" ++ ts) depth likeStrength likeStrength p (.like p q none negated) := by
  refine climbs_of_extend (testTokens_append_ne_nil _ _ _)
    (fun rest => Nat.le_of_eq (strength_like negated _ rest).symm) ?_
  intro fuel levels rest hfuel hlevels hrest
  have hlength := length_lt_length_testTokens_append negated "LIKE" ts
  rw [List.append_assoc]
  exact extend_like negated p _ (h.operation_eq_ok (by omega) hlevels hgrip (hrest.mono hhold) hrest.strength_le)
    (optionalEscape_of_follows hrest.follows)

/-- The `AND` between the bounds of a range ends the lower one. -/
theorem closes_and (hhold : comparisonStrength ≤ hold) (hflat : Token.symbol .leftBracket ∉ ts) :
    Closes hold (.plain "AND" :: ts) :=
  ⟨follows_cons (.operator .and) _, List.not_mem_cons_of_ne_of_not_mem (by decide) hflat,
    Nat.le_trans (Nat.le_of_ble_eq_true rfl) hhold⟩

theorem climbs_between (negated : Bool) (hlow : Reads ts depth grip hold q) (hhigh : Reads us depth' grip hold r)
    (hgrip : comparisonStrength < grip) (hhold : comparisonStrength ≤ hold)
    (hflat : Token.symbol .leftBracket ∉ us) :
    Climbs (testTokens negated "BETWEEN" ++ (ts ++ .plain "AND" :: us)) (max depth depth') comparisonStrength
      comparisonStrength p (.between p q r negated) := by
  refine climbs_of_extend (testTokens_append_ne_nil _ _ _)
    (fun rest => Nat.le_of_eq (strength_between negated _ rest).symm) ?_
  intro fuel levels rest hfuel hlevels hrest
  have hlength := length_lt_length_testTokens_append negated "BETWEEN" (ts ++ .plain "AND" :: us)
  rw [List.length_append, List.length_cons] at hlength
  have hand : Closes hold (.plain "AND" :: (us ++ rest)) :=
    closes_and hhold (leftBracket_not_mem_append hflat hrest.flat)
  have hlow' : (inner fuel levels).operation comparisonStrength (ts ++ .plain "AND" :: (us ++ rest)) =
      .ok (q, .plain "AND" :: (us ++ rest)) :=
    hlow.operation_eq_ok (by omega) (by omega) hgrip hand (Nat.le_of_ble_eq_true rfl)
  have hhigh' : (inner fuel levels).operation comparisonStrength (us ++ rest) = .ok (r, rest) :=
    hhigh.operation_eq_ok (by omega) (by omega) hgrip (hrest.mono hhold) hrest.strength_le
  rw [List.append_assoc, List.append_assoc, List.cons_append]
  exact extend_between negated p _ hlow' hhigh'

theorem length_le_length_intercalate (separator : List Token) {parts : List (List Token)} (h : ts ∈ parts) :
    ts.length ≤ (separator.intercalate parts).length := by
  induction parts with
  | nil => cases h
  | cons part parts ih =>
    cases parts with
    | nil =>
      have hpart : separator.intercalate [part] = ts := by
        rw [List.mem_singleton.1 h, List.intercalate_singleton]
      exact Nat.le_of_eq (congrArg List.length hpart.symm)
    | cons next parts =>
      rw [List.intercalate_cons_cons, List.length_append, List.length_append]
      rcases List.mem_cons.1 h with rfl | h
      · omega
      · have hlater := ih h
        omega

theorem length_le_length_intercalate_singleton (separator : Token) {parts : List (List Token)}
    (h : ∀ part ∈ parts, part ≠ []) : parts.length ≤ ([separator].intercalate parts).length := by
  induction parts with
  | nil => exact Nat.le_refl _
  | cons part parts ih =>
    obtain ⟨hpart, hparts⟩ := List.forall_mem_cons.1 h
    have hpositive := List.length_pos_iff.2 hpart
    have hlater := ih hparts
    cases parts with
    | nil =>
      rw [List.intercalate_singleton, List.length_singleton]
      exact hpositive
    | cons next parts =>
      rw [List.intercalate_cons_cons, List.length_append, List.length_append, List.length_singleton, List.length_cons]
      omega

theorem starts_intercalate (separator : List Token) {parts : List (List Token)} (hne : parts ≠ [])
    (h : ∀ part ∈ parts, Starts part) : Starts (separator.intercalate parts) := by
  obtain ⟨part, later, rfl⟩ := List.exists_cons_of_ne_nil hne
  have hpart := h part (List.mem_cons_self ..)
  cases later with
  | nil =>
    rw [List.intercalate_singleton]
    exact hpart
  | cons next later =>
    rw [List.intercalate_cons_cons, List.append_assoc]
    exact hpart.append _

/-- Items between commas are read one after the other, up to the bracket that closes the list. -/
theorem commaList_eq_ok {items : List (List Token × Phrase)} (hne : items ≠ [])
    (h : ∀ item ∈ items, Reads item.1 depth grip 0 item.2 ∧ Starts item.1) (hgrip : 0 < grip)
    (hflat : Token.symbol .leftBracket ∉ [Token.symbol .comma].intercalate (items.map Prod.fst)) {fuel levels : Nat}
    {rest : List Token} (hfuel : ([Token.symbol .comma].intercalate (items.map Prod.fst)).length < fuel)
    (hlevels : depth < levels) (hrest : Token.symbol .leftBracket ∉ rest) :
    commaList (inner fuel levels).expression
        ([Token.symbol .comma].intercalate (items.map Prod.fst) ++ .symbol .rightParen :: rest) =
      .ok (items.map Prod.snd, .symbol .rightParen :: rest) := by
  have hparts : ∀ part ∈ items.map Prod.fst, part ≠ [] := by
    intro part hpart
    obtain ⟨item, hitem, rfl⟩ := List.mem_map.1 hpart
    obtain ⟨t, later, heq, -⟩ := (h item hitem).2
    rw [heq]
    exact List.cons_ne_nil _ _
  have hcount := length_le_length_intercalate_singleton (.symbol .comma) hparts
  rw [List.length_map] at hcount
  apply commaListWithin_of_forall hne (List.suffix_refl _) (by simp)
  · intro item hitem later hsuffix hlater
    have hitemLength := length_le_length_intercalate [.symbol .comma] (List.mem_map_of_mem (f := Prod.fst) hitem)
    have hflatLater : Token.symbol .leftBracket ∉ later := by
      intro hmem
      rcases List.mem_append.1 (hsuffix.mem hmem) with hmem | hmem
      · exact hflat hmem
      · rcases List.mem_cons.1 hmem with heq | hmem
        · cases heq
        · exact hrest hmem
    have hcloses : Closes 0 later := by
      rcases hlater with rfl | hcomma
      · exact closes_zero_cons (.inr rfl) hrest
      · obtain ⟨more, rfl⟩ := List.head?_eq_some_iff.1 hcomma
        exact closes_zero_cons (.inl rfl) fun hmem => hflatLater (List.mem_cons_of_mem _ hmem)
    exact (h item hitem).1.expression_eq_ok (by omega) hlevels hgrip hcloses
  · rw [List.length_append]
    omega

/-- The items of a list stand between commas and the brackets around them. -/
theorem climbs_in (negated : Bool) {items : List (List Token × Phrase)} (hne : items ≠ [])
    (h : ∀ item ∈ items, Reads item.1 depth grip 0 item.2 ∧ Starts item.1) (hgrip : 0 < grip)
    (hflat : Token.symbol .leftBracket ∉ [Token.symbol .comma].intercalate (items.map Prod.fst)) :
    Climbs (testTokens negated "IN" ++ bracketed true ([Token.symbol .comma].intercalate (items.map Prod.fst)))
      (depth + 1) comparisonStrength productStrength p (.inList p (items.map Prod.snd) negated) := by
  have hstart : Starts ([Token.symbol .comma].intercalate (items.map Prod.fst)) := by
    apply starts_intercalate
    · exact fun hnone => hne (List.map_eq_nil_iff.1 hnone)
    · exact List.forall_mem_map.2 fun item hitem => (h item hitem).2
  refine climbs_of_extend (testTokens_append_ne_nil _ _ _)
    (fun rest => Nat.le_of_eq (strength_in negated _ rest).symm) ?_
  intro fuel levels rest hfuel hlevels hrest
  have hlength := length_lt_length_testTokens_append negated "IN"
    (bracketed true ([Token.symbol .comma].intercalate (items.map Prod.fst)))
  have hinside : ([Token.symbol .comma].intercalate (items.map Prod.fst)).length <
      (bracketed true ([Token.symbol .comma].intercalate (items.map Prod.fst))).length := by
    rw [Sql.bracketed_true, List.length_cons, List.length_append]
    omega
  have htokens : testTokens negated "IN" ++ bracketed true ([Token.symbol .comma].intercalate (items.map Prod.fst)) ++
      rest = testTokens negated "IN" ++ .symbol .leftParen ::
        ([Token.symbol .comma].intercalate (items.map Prod.fst) ++ .symbol .rightParen :: rest) := by
    rw [Sql.bracketed_true, List.append_assoc, List.cons_append, List.append_assoc, List.singleton_append]
  rw [htokens]
  apply extend_in negated p _ (hstart.append _)
  exact commaList_eq_ok hne h hgrip hflat (by omega) hlevels hrest.flat

end

end Cohort.Rule
