import Cohort.Predicate.Reading
import Cohort.Proofs.Grammar.Evaluation
import Cohort.Sql.Rendering

/-!
# Operands

What the grammar makes of the tokens that operands of predicates are written with. Such an operand begins with a
quoted name, the relation of the events, a constant, a sign, a bracket or `NOT`, and only brackets, commas, operators
and tests follow it.
-/

namespace Cohort.Rule

open Sql (Token Symbol)

variable {i : Inner} {ts rest : List Token}

/-- The tokens that may follow an operand. -/
inductive Follower : Token → Prop
  | close : Follower (.symbol .rightParen)
  | comma : Follower (.symbol .comma)
  | operator (op : Operator) : Follower op.token
  | word (w : String) (h : w ∈ ["IS", "NOT", "IN", "LIKE", "BETWEEN"]) : Follower (.plain w)

def Follows (ts : List Token) : Prop := ∀ t, ts.head? = some t → Follower t

theorem follows_nil : Follows [] := fun _ h => nomatch h

theorem follows_cons {t : Token} (h : Follower t) (ts : List Token) : Follows (t :: ts) := by
  intro u hu
  rw [← Option.some.inj hu]
  exact h

/-- The plain words that an operand may begin with; the last is the name of the relation of events. -/
def starters : List String := ["NULL", "TRUE", "FALSE", "NOT", "COLLECTION"]

/-- The tokens that an operand may begin with: those that are no plain words, and some words. -/
def Starter (t : Token) : Prop := t.capitals? = none ∨ ∃ w ∈ starters, t.capitals? = some w

def Starts (ts : List Token) : Prop := ∃ t later, ts = t :: later ∧ Starter t

theorem Starts.append (h : Starts ts) (later : List Token) : Starts (ts ++ later) := by
  obtain ⟨t, more, rfl, ht⟩ := h
  exact ⟨t, more ++ later, rfl, ht⟩

theorem isKeyword_of_starter {t : Token} (h : Starter t) {k : String} (hk : k ∉ starters) :
    t.isKeyword k = false := by
  rcases h with h | ⟨w, hw, h⟩
  · simp [Token.isKeyword, h]
  · rw [Token.isKeyword, h, beq_eq_false_iff_ne]
    intro heq
    exact hk (Option.some.inj heq ▸ hw)

theorem Starts.isKeyword (h : Starts ts) {k : String} (hk : k ∉ starters) :
    ∀ t, ts.head? = some t → t.isKeyword k = false := by
  obtain ⟨t, later, rfl, ht⟩ := h
  intro u hu
  rw [← Option.some.inj hu]
  exact isKeyword_of_starter ht hk

/-- A plain follower is one of these keywords. -/
theorem isKeyword_of_follower {t : Token} (h : Follower t) {k : String}
    (hk : k ∉ ["AND", "OR", "IS", "NOT", "IN", "LIKE", "BETWEEN"]) : t.isKeyword k = false := by
  have hwords : ∀ w ∈ ["AND", "OR", "IS", "NOT", "IN", "LIKE", "BETWEEN"], (Token.plain w).capitals? = some w := by
    decide
  have hplain : ∀ w ∈ ["AND", "OR", "IS", "NOT", "IN", "LIKE", "BETWEEN"], (Token.plain w).isKeyword k = false := by
    intro w hw
    rw [Token.isKeyword, hwords w hw, beq_eq_false_iff_ne]
    intro heq
    exact hk (Option.some.inj heq ▸ hw)
  cases h with
  | close => rfl
  | comma => rfl
  | operator op =>
    cases op with
    | and => exact hplain "AND" (by decide)
    | or => exact hplain "OR" (by decide)
    | _ => rfl
  | word w hw => exact hplain w (List.mem_cons_of_mem _ (List.mem_cons_of_mem _ hw))

theorem Follows.isKeyword (h : Follows ts) {k : String}
    (hk : k ∉ ["AND", "OR", "IS", "NOT", "IN", "LIKE", "BETWEEN"]) :
    ∀ t, ts.head? = some t → t.isKeyword k = false :=
  fun t ht => isKeyword_of_follower (h t ht) hk

theorem Follows.head?_ne_symbol (h : Follows ts) {s : Symbol} (hs : ¬ Follower (.symbol s)) :
    ts.head? ≠ some (.symbol s) :=
  fun hhead => hs (h _ hhead)

theorem not_follower_period : ¬ Follower (.symbol .period) := by
  intro h
  generalize ht : Token.symbol .period = t at h
  cases h with
  | operator op => cases op <;> cases ht
  | _ => cases ht

theorem not_follower_leftParen : ¬ Follower (.symbol .leftParen) := by
  intro h
  generalize ht : Token.symbol .leftParen = t at h
  cases h with
  | operator op => cases op <;> cases ht
  | _ => cases ht

/-- Without square brackets no type has dimensions. -/
theorem dimensions_of_not_mem (h : Token.symbol .leftBracket ∉ ts) (limit : Nat) :
    dimensions limit ts = .ok ("", ts) := by
  cases limit with
  | zero => rfl
  | succ limit =>
    have hhead : ts.head? ≠ some (.symbol .leftBracket) := fun hhead => h (List.mem_of_head? hhead)
    rw [dimensions, bind_of_eq_ok (takeSymbol_of_not_head hhead)]
    rfl

theorem defined_eq_ok {t : Token} {a : TypeName} (h : singleType.defined t ts = .ok (a, rest)) :
    (∃ text, a = .defined text) ∧ rest <:+ ts := by
  cases t with
  | word text quote =>
    obtain ⟨_, _, hget, h⟩ := bind_eq_ok_iff.1 h
    obtain ⟨names, afterNames, hnames, h⟩ := bind_eq_ok_iff.1 h
    obtain ⟨taken, afterParen, htaken, h⟩ := bind_eq_ok_iff.1 h
    have hsuffix := (shrinks_takeIf _ _ _ _ htaken).trans
      ((shrinks_moreNames _ _ _ _ hnames).trans (shrinks_get _ _ _ hget))
    cases taken with
    | false =>
      obtain ⟨rfl, rfl⟩ := pure_eq_ok_iff.1 h
      exact ⟨⟨_, rfl⟩, hsuffix⟩
    | true =>
      obtain ⟨_, _, hget', h⟩ := bind_eq_ok_iff.1 h
      obtain ⟨items, afterItems, hitems, h⟩ := bind_eq_ok_iff.1 h
      obtain ⟨rfl, rfl⟩ := pure_eq_ok_iff.1 h
      exact ⟨⟨_, rfl⟩, (shrinks_modifiers _ _ _ _ hitems).trans ((shrinks_get _ _ _ hget').trans hsuffix)⟩
  | _ => cases h

theorem singleType_eq_ok (hstart : Starts ts) {a : TypeName} (h : singleType ts = .ok (a, rest)) :
    (∃ text, a = .defined text) ∧ rest <:+ ts := by
  obtain ⟨t, later, rfl, ht⟩ := hstart
  have hdefined : singleType (t :: later) = singleType.defined t later := by
    rw [singleType, bind_of_eq_ok (show next (t :: later) = .ok (t, later) from rfl)]
    rcases ht with ht | ⟨w, hw, ht⟩
    · rw [ht]
    · rw [ht]
      have hunknown : ∀ w ∈ starters, (w ∉ bareTypes ∧ w ∉ sizedTypes) ∧
          (w ∉ wholeTypes ∧ w ∉ exactTypes) ∧
          w ∉ ["DOUBLE", "VARCHAR", "NVARCHAR", "CHAR", "CHARACTER", "TIMESTAMP", "TIME", "TIMESTAMPTZ", "TIMETZ",
            "INTERVAL", "ENUM", "SET"] := by decide
      obtain ⟨⟨hbare, hsized⟩, ⟨hwhole, hexact⟩, hsingle⟩ := hunknown w hw
      simp only [List.mem_cons, List.not_mem_nil, or_false, not_or] at hsingle
      simp only [hbare, hsized, hwhole, hexact, hsingle, or_self, if_false]
  rw [hdefined] at h
  obtain ⟨htext, hsuffix⟩ := defined_eq_ok h
  exact ⟨htext, hsuffix.trans (List.suffix_cons ..)⟩

theorem typeName_eq_ok (hstart : Starts ts) (hflat : Token.symbol .leftBracket ∉ ts) {a : TypeName}
    (h : typeName ts = .ok (a, rest)) : ∃ text, a = .defined text := by
  obtain ⟨_, _, hget, h⟩ := bind_eq_ok_iff.1 h
  cases hget
  obtain ⟨⟨t, closed⟩, afterType, htype, h⟩ := bind_eq_ok_iff.1 h
  rw [typeNameWithin, bind_of_eq_ok (takeKeyword_of_not_head (hstart.isKeyword (by decide)))] at htype
  simp only [Bool.false_eq_true, if_false] at htype
  rw [bind_of_eq_ok (takeKeyword_of_not_head (hstart.isKeyword (by decide)))] at htype
  simp only [Bool.false_eq_true, if_false] at htype
  obtain ⟨single, afterSingle, hsingle, htype⟩ := bind_eq_ok_iff.1 htype
  obtain ⟨⟨text, rfl⟩, hsuffix⟩ := singleType_eq_ok hstart hsingle
  obtain ⟨_, _, hpure, htype⟩ := bind_eq_ok_iff.1 htype
  obtain ⟨rfl, rfl⟩ := pure_eq_ok_iff.1 hpure
  obtain ⟨_, _, hget, htype⟩ := bind_eq_ok_iff.1 htype
  cases hget
  rw [bind_of_eq_ok (dimensions_of_not_mem (fun hmem => hflat (hsuffix.mem hmem)) _)] at htype
  obtain ⟨heq, rfl⟩ := pure_eq_ok_iff.1 htype
  cases heq
  obtain ⟨rfl, -⟩ := pure_eq_ok_iff.1 h
  exact ⟨text, rfl⟩

/-- No operand is taken for a type with a string after it. -/
theorem attempt_typedString (hstart : Starts ts) (hflat : Token.symbol .leftBracket ∉ ts) :
    attempt (typedString i) ts = .ok (none, ts) := by
  apply attempt_of_forall_ne_ok
  intro p rest h
  obtain ⟨a, mid, ha, h⟩ := bind_eq_ok_iff.1 h
  obtain ⟨text, rfl⟩ := typeName_eq_ok hstart hflat ha
  exact refuse_ne_ok h

/-- An operand is what its tokens are without the forms that have a type in front or a collation behind. -/
theorem operand_of_bareOperand (hstart : Starts ts) (hflat : Token.symbol .leftBracket ∉ ts) {p : Phrase}
    (h : bareOperand i ts = .ok (p, rest)) (hrest : Follows rest) : operand i ts = .ok (p, rest) := by
  rw [operand, bind_of_eq_ok (attempt_typedString hstart hflat)]
  dsimp only
  rw [bind_of_eq_ok h, bind_of_eq_ok (takeKeyword_of_not_head (hrest.isKeyword (by decide)))]
  rfl

/-! ## Reading operands -/

theorem bareOperand_name (n : String) (hrest : Follows rest) :
    bareOperand i (.word n (some '"') :: rest) = .ok (.name ⟨n, some '"'⟩, rest) := by
  change nameRest i ⟨n, some '"'⟩ rest = _
  cases rest with
  | nil => rfl
  | cons t rest =>
    cases hrest t rfl with
    | operator op => cases op <;> rfl
    | _ => rfl

/-- The tokens of names that follow a name. -/
def laterNames (names : List String) : List Token :=
  names.flatMap fun n => [.symbol .period, .word n (some '"')]

theorem moreNames_laterNames (names : List String) {limit : Nat} (hlimit : names.length ≤ limit)
    (hrest : Follows rest) :
    moreNames limit (laterNames names ++ rest) = .ok (names.map fun n => ⟨n, some '"'⟩, rest) := by
  induction names generalizing limit with
  | nil =>
    cases limit with
    | zero => rfl
    | succ limit =>
      have hhead := hrest.head?_ne_symbol not_follower_period
      rw [moreNames]
      change (takeSymbol .period >>= _) rest = _
      rw [bind_of_eq_ok (takeSymbol_of_not_head hhead)]
      rfl
  | cons n names ih =>
    obtain ⟨limit, rfl⟩ : ∃ m, limit = m + 1 := ⟨limit - 1, by rw [List.length_cons] at hlimit; omega⟩
    have hlater := ih (Nat.le_of_succ_le_succ hlimit)
    have hname : name (.word n (some '"') :: (laterNames names ++ rest)) =
        .ok (⟨n, some '"'⟩, laterNames names ++ rest) := rfl
    change moreNames (limit + 1) (.symbol .period :: .word n (some '"') :: (laterNames names ++ rest)) = _
    rw [moreNames, bind_of_eq_ok (takeSymbol_of_head ..), if_pos rfl, bind_of_eq_ok hname, bind_of_eq_ok hlater]
    rfl

theorem bareOperand_path (n m : String) (names : List String) (hrest : Follows rest) :
    bareOperand i (.word n (some '"') :: (laterNames (m :: names) ++ rest)) =
      .ok (.path ((n :: m :: names).map fun n => ⟨n, some '"'⟩), rest) := by
  have hlength : (m :: names).length ≤ (laterNames (m :: names) ++ rest).length := by
    have hlater : (laterNames (m :: names)).length = 2 * (m :: names).length := by
      unfold laterNames
      induction m :: names with
      | nil => rfl
      | cons k ks ih =>
        rw [List.flatMap_cons, List.length_append, ih, List.length_cons, List.length_cons, List.length_cons,
          List.length_nil]
        omega
    rw [List.length_append, hlater]
    omega
  have hmore := moreNames_laterNames (m :: names) hlength hrest
  have hhead := hrest.head?_ne_symbol not_follower_leftParen
  change (do
    let more ← moreNames (← get).length
    if ← isNextSymbol .leftParen then call i (WrittenName.path (⟨n, some '"'⟩ :: more))
    else return .path (⟨n, some '"'⟩ :: more) : Rule Phrase) (laterNames (m :: names) ++ rest) = _
  rw [bind_of_eq_ok (get_eq_ok _), bind_of_eq_ok hmore,
    bind_of_eq_ok (isNextSymbol_of_not_head hhead)]
  rfl

/-- A column of the events goes by the name of their relation. -/
theorem bareOperand_eventColumn (b : Sql.BuiltIn) (hrest : Follows rest) :
    bareOperand i (.plain Sql.BuiltIn.collection.text :: .symbol .period :: .plain b.text :: rest) =
      .ok (.path [⟨Sql.BuiltIn.collection.text, none⟩, ⟨b.text, none⟩], rest) := by
  have hcapitals : Sql.inCapitals Sql.BuiltIn.collection.text = "COLLECTION" := by decide
  have hmore : moreNames (Token.symbol .period :: .plain b.text :: rest).length
      (.symbol .period :: .plain b.text :: rest) = .ok ([⟨b.text, none⟩], rest) := by
    have hnone : moreNames (rest.length + 1) rest = .ok ([], rest) := by
      rw [moreNames, bind_of_eq_ok (takeSymbol_of_not_head (hrest.head?_ne_symbol not_follower_period))]
      rfl
    have hname : name (.plain b.text :: rest) = .ok (⟨b.text, none⟩, rest) := rfl
    rw [List.length_cons, List.length_cons, moreNames, bind_of_eq_ok (takeSymbol_of_head ..), if_pos rfl,
      bind_of_eq_ok hname, bind_of_eq_ok hnone]
    rfl
  change wordRest i Sql.BuiltIn.collection.text (.symbol .period :: .plain b.text :: rest) = _
  unfold wordRest
  rw [hcapitals]
  change (do
    let more ← moreNames (← get).length
    if ← isNextSymbol .leftParen then call i (WrittenName.path (⟨Sql.BuiltIn.collection.text, none⟩ :: more))
    else return .path (⟨Sql.BuiltIn.collection.text, none⟩ :: more) : Rule Phrase)
      (.symbol .period :: .plain b.text :: rest) = _
  rw [bind_of_eq_ok (get_eq_ok _), bind_of_eq_ok hmore,
    bind_of_eq_ok (isNextSymbol_of_not_head (hrest.head?_ne_symbol not_follower_leftParen))]
  rfl

theorem bareOperand_null (rest : List Token) : bareOperand i (.plain "NULL" :: rest) = .ok (.null, rest) := by
  have hcapitals : Sql.inCapitals "NULL" = "NULL" := by decide
  change wordRest i "NULL" rest = _
  unfold wordRest
  rw [hcapitals]
  rfl

theorem bareOperand_true (rest : List Token) : bareOperand i (.plain "TRUE" :: rest) = .ok (.boolean true, rest) := by
  have hcapitals : Sql.inCapitals "TRUE" = "TRUE" := by decide
  change wordRest i "TRUE" rest = _
  unfold wordRest
  rw [hcapitals]
  rfl

theorem bareOperand_false (rest : List Token) :
    bareOperand i (.plain "FALSE" :: rest) = .ok (.boolean false, rest) := by
  have hcapitals : Sql.inCapitals "FALSE" = "FALSE" := by decide
  change wordRest i "FALSE" rest = _
  unfold wordRest
  rw [hcapitals]
  rfl

theorem bareOperand_not (hstart : Starts ts) {p : Phrase} (h : i.operation notStrength ts = .ok (p, rest)) :
    bareOperand i (.plain "NOT" :: ts) = .ok (.not p, rest) := by
  have hcapitals : Sql.inCapitals "NOT" = "NOT" := by decide
  change wordRest i "NOT" ts = _
  unfold wordRest
  rw [hcapitals]
  change notRest i ts = _
  rw [notRest, bind_of_eq_ok (takeKeyword_of_not_head (hstart.isKeyword (by decide)))]
  simp only [Bool.false_eq_true, if_false]
  rw [bind_of_eq_ok h]
  rfl

theorem bareOperand_minus {p : Phrase} (h : i.operation productStrength ts = .ok (p, rest)) :
    bareOperand i (.symbol .minus :: ts) = .ok (.minus p, rest) := by
  change (do return .minus (← i.operation productStrength) : Rule Phrase) ts = _
  rw [bind_of_eq_ok h]
  rfl

theorem bareOperand_nested (hstart : Starts ts) {p : Phrase}
    (h : i.expression ts = .ok (p, .symbol .rightParen :: rest)) (hrest : Follows rest) :
    bareOperand i (.symbol .leftParen :: ts) = .ok (.nested p, rest) := by
  have hlist : commaList i.expression ts = .ok ([p], .symbol .rightParen :: rest) := by
    change commaListWithin i.expression (ts.length + 1) ts = _
    rw [commaListWithin, bind_of_eq_ok h, bind_of_eq_ok (takeSymbol_of_not_head (by simp))]
    rfl
  have hperiod := takeSymbol_of_not_head (hrest.head?_ne_symbol not_follower_period)
  change bracketRest i ts = _
  rw [bracketRest, bind_of_eq_ok (isNextKeyword_of_not_head (hstart.isKeyword (by decide))),
    bind_of_eq_ok (isNextKeyword_of_not_head (hstart.isKeyword (by decide)))]
  simp only [Bool.or_self, Bool.false_eq_true, if_false]
  rw [bind_of_eq_ok hlist]
  apply (bind_of_eq_ok (r := pure (Phrase.nested p)) rfl).trans
  rw [bind_of_eq_ok (expectSymbol_of_head ..), bind_of_eq_ok hperiod]
  rfl

end Cohort.Rule
