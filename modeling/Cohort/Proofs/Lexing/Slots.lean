import Cohort.Proofs.Lexing.Legibility

/-!
# The slots of a query

What the tokens of a query are is determined by its tree. A slot is one token together with where it comes from: the
words and marks of the language, numbers and instants, and the two kinds of text that callers supply, which are names
and the contents of strings. The script of a query has the tokens of its slots.
-/

namespace Cohort

open Sql

namespace Sql

namespace Script

@[simp] theorem tokens_blank : tokens blank = [] := rfl

@[simp] theorem tokens_ofToken (t : Token) : tokens (ofToken t) = [t] := rfl

@[simp] theorem tokens_ofSymbol (s : Symbol) : tokens (ofSymbol s) = [.symbol s] := rfl

@[simp] theorem tokens_commaBlank : tokens commaBlank = [.symbol .comma] := rfl

@[simp] theorem tokens_ofWords (words : List String) : tokens (ofWords words) = words.map .plain := by
  induction words with
  | nil => rfl
  | cons w words ih =>
    cases words with
    | nil => rfl
    | cons v words => exact congrArg (Token.plain w :: ·) ih

@[simp] theorem tokens_spaced (words : List String) : tokens (spaced words) = words.map .plain := by
  simp [spaced]

@[simp] theorem tokens_parenthesized (s : Script) :
    tokens (parenthesized s) = .symbol .leftParen :: (tokens s ++ [.symbol .rightParen]) := by
  simp [parenthesized]

@[simp] theorem tokens_join (separator : Script) (scripts : List Script) :
    tokens (join separator scripts) = (tokens separator).intercalate (scripts.map tokens) := by
  induction scripts with
  | nil => rfl
  | cons s scripts ih =>
    cases scripts with
    | nil => simp [join]
    | cons t scripts => simpa [join] using ih

end Script

/-- Tokens, in parentheses if that is so. -/
def bracketed (parentheses : Bool) (ts : List Token) : List Token :=
  if parentheses then .symbol .leftParen :: (ts ++ [.symbol .rightParen]) else ts

@[simp] theorem bracketed_false (ts : List Token) : bracketed false ts = ts := rfl

@[simp] theorem bracketed_true (ts : List Token) :
    bracketed true ts = .symbol .leftParen :: (ts ++ [.symbol .rightParen]) := rfl

@[simp] theorem tokens_enclosed (parentheses : Bool) (s : Script) :
    (enclosed parentheses s).tokens = bracketed parentheses s.tokens := by
  cases parentheses with
  | false => rfl
  | true => exact Script.tokens_parenthesized s

/-- The punctuation that queries use. -/
inductive Mark
  | leftParen | rightParen | comma | period | asterisk | minus
  deriving DecidableEq, Repr

def Mark.symbol : Mark → Symbol
  | .leftParen => .leftParen
  | .rightParen => .rightParen
  | .comma => .comma
  | .period => .period
  | .asterisk => .mul
  | .minus => .minus

/-- A token of a query by where it comes from. -/
inductive Slot
  | word (text : String)
  | numeral (digits : String)
  | mark (m : Mark)
  | operator (op : Operator)
  | instant (t : Instant)
  /-- A name from outside. -/
  | name (text : String)
  /-- The content of a string from outside. -/
  | content (text : String)

namespace Slot

def token : Slot → Token
  | .word text => .plain text
  | .numeral digits => .number digits false
  | .mark m => .symbol m.symbol
  | .operator op => op.token
  | .instant t => .string t.queryText
  | .name text => .word text (some '"')
  | .content text => .string text

/-- No slot ends a statement. -/
theorem token_ne_semicolon (s : Slot) : s.token ≠ .symbol .semicolon := by
  cases s with
  | mark m => cases m <;> decide
  | operator op => cases op <;> decide
  | word | numeral | instant | name | content => exact nofun

def words (ws : List String) : List Slot := ws.map .word

def enclosed (parentheses : Bool) (s : List Slot) : List Slot :=
  if parentheses then .mark .leftParen :: (s ++ [.mark .rightParen]) else s

def commas (parts : List (List Slot)) : List Slot := [Slot.mark .comma].intercalate parts

/-- The word of a test that may be negated. -/
def negatable (negated : Bool) (w : String) : List Slot := words (if negated then ["NOT", w] else [w])

/-- The parts of a clause after its words, if there are any. -/
def clause (ws : List String) (separator : Slot) (parts : List (List Slot)) : List Slot :=
  if parts.isEmpty then [] else words ws ++ [separator].intercalate parts

def count (w : String) : Option Nat → List Slot
  | none => []
  | some n => [.word w, .numeral (toString n)]

@[simp] theorem map_token_words (ws : List String) : (words ws).map token = ws.map .plain := by
  simp [words, Function.comp_def, token]

@[simp] theorem map_token_enclosed (parentheses : Bool) (slots : List Slot) :
    (enclosed parentheses slots).map token = bracketed parentheses (slots.map token) := by
  cases parentheses with
  | false => rfl
  | true => simp [enclosed, bracketed, token, Mark.symbol]

theorem map_intercalate {α : Type} (f : Slot → α) (separator : List Slot) (parts : List (List Slot)) :
    (separator.intercalate parts).map f = (separator.map f).intercalate (parts.map (·.map f)) := by
  induction parts with
  | nil => rfl
  | cons s parts ih =>
    cases parts with
    | nil => simp
    | cons t parts => simpa using ih

end Slot

end Sql

/-- The digits of a finite number, without its sign. -/
def Double.digits (x : Double) : String := String.ofList (x.text.toList.drop x.signText.length)

namespace Sql

def signSlots (negative : Bool) : List Slot := if negative then [.mark .minus] else []

end Sql

def Literal.slots : Literal → List Slot
  | .null => [.word "NULL"]
  | .boolean true => [.word "TRUE"]
  | .boolean false => [.word "FALSE"]
  | .integer i => signSlots (i < 0) ++ [.numeral (toString i.natAbs)]
  | .decimal x => if x.isFinite then signSlots x.negative ++ [.numeral x.digits] else [.word "NULL"]
  | .string s => [.content s]

theorem Literal.slots_decimal (x : Double) :
    (Literal.decimal x).slots =
      if x.isFinite then signSlots x.negative ++ [.numeral x.digits] else [.word "NULL"] := rfl

namespace Sql

namespace Identifier

def slot : Identifier → Slot
  | .checked name _ => .name name
  | .builtIn b => .word b.text

def pathSlots (parts : List Identifier) : List Slot := [Slot.mark .period].intercalate (parts.map fun i => [i.slot])

def aliasSlots : Option Identifier → List Slot
  | none => []
  | some i => [.word "AS", i.slot]

end Identifier

mutual

/-- The tokens of a term, from its tree alone. -/
def Term.slots : Term → List Slot
  | .column none name => [name.slot]
  | .column (some relation) name => [relation.slot, .mark .period, name.slot]
  | .reference parts => Identifier.pathSlots parts
  | .literal value => value.slots
  | .timestamp t =>
    [.word "CAST", .mark .leftParen, .instant t, .word "AS", .word "timestamp", .mark .rightParen]
  | .coalesce args => .word "coalesce" :: Slot.enclosed true (Slot.commas (slotsOf args))
  | .aggregate f arg =>
    .word f.queryName ::
      Slot.enclosed true ((if f = .countUnique then [.word "DISTINCT"] else []) ++ arg.slots)
  | .binary left op right =>
    Slot.enclosed (left.isLoose (operatorRank op) op.isComparison) left.slots ++
      .operator op :: Slot.enclosed (right.isLoose (operatorRank op) (!op.isLogical)) right.slots
  | .not t => .word "NOT" :: Slot.enclosed (t.isLoose 3 false) t.slots
  | .isNull t => Slot.enclosed (t.isLoose testRank true) t.slots ++ Slot.words ["IS", "NULL"]
  | .isNotNull t => Slot.enclosed (t.isLoose testRank true) t.slots ++ Slot.words ["IS", "NOT", "NULL"]
  | .inList t items negated =>
    Slot.enclosed (t.isLoose testRank true) t.slots ++ Slot.negatable negated "IN" ++
      Slot.enclosed true (Slot.commas (slotsOf items))
  | .inQuery t query =>
    Slot.enclosed (t.isLoose testRank true) t.slots ++ .word "IN" :: Slot.enclosed true query.slots
  | .like t pattern negated =>
    Slot.enclosed (t.isLoose testRank true) t.slots ++ Slot.negatable negated "LIKE" ++
      Slot.enclosed (pattern.isLoose testRank true) pattern.slots
  | .between t low high negated =>
    Slot.enclosed (t.isLoose testRank true) t.slots ++ Slot.negatable negated "BETWEEN" ++
      Slot.enclosed (low.isLoose testRank true) low.slots ++
      .word "AND" :: Slot.enclosed (high.isLoose testRank true) high.slots

def slotsOf : List Term → List (List Slot)
  | [] => []
  | t :: ts => t.slots :: slotsOf ts

/-- The slots of each term as part of a conjunction. -/
def conjunctSlots : List Term → List (List Slot)
  | [] => []
  | t :: ts => Slot.enclosed (t.isLoose (operatorRank .and) false) t.slots :: conjunctSlots ts

def Item.slots : Item → List Slot
  | ⟨term, label⟩ => term.slots ++ Identifier.aliasSlots label

def itemSlots : List Item → List (List Slot)
  | [] => []
  | i :: is => i.slots :: itemSlots is

def Relation.slots : Relation → List Slot
  | .table name label => Identifier.pathSlots name ++ Identifier.aliasSlots label
  | .subquery query label => Slot.enclosed true query.slots ++ Identifier.aliasSlots label

def sourceSlots : Option Relation → List Slot
  | none => []
  | some r => .word "FROM" :: r.slots

def Join.slots : Join → List Slot
  | ⟨relation, condition⟩ =>
    Slot.words ["LEFT", "JOIN"] ++ relation.slots ++ .word "ON" :: Slot.enclosed true condition.slots

def joinSlots : List Join → List Slot
  | [] => []
  | j :: js => j.slots ++ joinSlots js

def SortKey.slots : SortKey → List Slot
  | ⟨term, direction⟩ => term.slots ++ [.word direction.keyword]

def sortSlots : List SortKey → List (List Slot)
  | [] => []
  | k :: ks => k.slots :: sortSlots ks

def Select.slots : Select → List Slot
  | ⟨distinct, projection, source, joins, conditions, groups, groupConditions, order, limit, offset⟩ =>
    .word "SELECT" :: (if distinct then [.word "DISTINCT"] else []) ++
      (if projection.isEmpty then [.mark .asterisk] else Slot.commas (itemSlots projection)) ++
      sourceSlots source ++ joinSlots joins ++
      Slot.clause ["WHERE"] (.word "AND") (conjunctSlots conditions) ++
      Slot.clause ["GROUP", "BY"] (.mark .comma) (slotsOf groups) ++
      Slot.clause ["HAVING"] (.word "AND") (conjunctSlots groupConditions) ++
      Slot.clause ["ORDER", "BY"] (.mark .comma) (sortSlots order) ++
      Slot.count "LIMIT" limit ++ Slot.count "OFFSET" offset

def Query.slots : Query → List Slot
  | .select s => s.slots
  | .unionAll branches => (Slot.words ["UNION", "ALL"]).intercalate (branchSlots branches)

def branchSlots : List Query → List (List Slot)
  | [] => []
  | q :: qs => q.slots :: branchSlots qs

end

end Sql

/-! ## Scripts have the tokens of their slots -/

theorem Double.tokens_script (x : Double) : x.script.tokens = (Literal.decimal x).slots.map Slot.token := by
  rw [Literal.slots_decimal]
  unfold Double.script
  by_cases hx : x.isFinite = true
  · obtain ⟨cs, hcs, htext⟩ := Double.toList_text_of_isFinite hx
    have hdigits : x.digits = String.ofList cs := by rw [Double.digits, htext, List.drop_left]
    rw [if_pos hx, if_pos hx, hdigits, htext, Double.signText]
    by_cases hnegative : x.negative = true
    · rw [if_pos hnegative, hnegative]
      rfl
    · rw [if_neg hnegative, Bool.eq_false_iff.2 hnegative, List.nil_append]
      split
      · exact absurd hcs not_isNumeral_minus
      · rfl
  · rw [if_neg hx, if_neg hx]
    rfl

theorem Literal.tokens_script (v : Literal) : v.script.tokens = v.slots.map Slot.token := by
  cases v with
  | null => rfl
  | boolean b => cases b <;> rfl
  | integer i =>
    change (Literal.integerScript i).tokens = _
    unfold Literal.integerScript Literal.slots
    by_cases hi : i < 0 <;> simp [hi, signSlots, Script.tokens, Slot.token, Mark.symbol]
  | decimal x => exact x.tokens_script
  | string s => rfl

namespace Sql

open Script

namespace Identifier

@[simp] theorem tokens_script (i : Identifier) : i.script.tokens = [i.slot.token] := by cases i <;> rfl

@[simp] theorem tokens_path (parts : List Identifier) : (path parts).tokens = (pathSlots parts).map Slot.token := by
  rw [path, pathSlots, tokens_join, Slot.map_intercalate, List.map_map, List.map_map]
  congr 1
  exact List.map_congr_left fun i _ => i.tokens_script

@[simp] theorem tokens_aliasScript (label : Option Identifier) :
    (aliasScript label).tokens = (aliasSlots label).map Slot.token := by
  cases label with
  | none => rfl
  | some i => simp [aliasScript, aliasSlots, Slot.token]

end Identifier

@[simp] theorem tokens_testWords (negated : Bool) (w : String) :
    (testWords negated [w]).tokens = (Slot.negatable negated w).map Slot.token := by
  cases negated <;> simp [testWords, Slot.negatable]

theorem tokens_commas {scripts : List Script} {parts : List (List Slot)}
    (h : scripts.map tokens = parts.map (·.map Slot.token)) :
    (join commaBlank scripts).tokens = (Slot.commas parts).map Slot.token := by
  rw [tokens_join, Slot.commas, Slot.map_intercalate, h]
  rfl

theorem tokens_clauseOf {words : List String} {separator : Script} {slot : Slot} {scripts : List Script}
    {parts : List (List Slot)} (hseparator : separator.tokens = [slot.token])
    (h : scripts.map tokens = parts.map (·.map Slot.token)) :
    (Select.script.clauseOf words separator scripts).tokens = (Slot.clause words slot parts).map Slot.token := by
  have hempty : scripts.isEmpty = parts.isEmpty := by
    have hlength := congrArg List.length h
    rw [List.length_map, List.length_map] at hlength
    rw [Bool.eq_iff_iff, List.isEmpty_iff_length_eq_zero, List.isEmpty_iff_length_eq_zero, hlength]
  unfold Select.script.clauseOf Slot.clause
  rw [hempty]
  split
  · rfl
  · rw [tokens_append, tokens_spaced, tokens_join, List.map_append, Slot.map_token_words, Slot.map_intercalate,
      h, hseparator]
    rfl

@[simp] theorem tokens_numberOf (w : String) (n : Option Nat) :
    (Select.script.numberOf [w] n).tokens = (Slot.count w n).map Slot.token := by
  cases n with
  | none => rfl
  | some n => simp [Select.script.numberOf, Slot.count, numberScript, Slot.token]

mutual

theorem Term.tokens_script (t : Term) : t.script.tokens = t.slots.map Slot.token := by
  match t with
  | .column none name => exact name.tokens_script
  | .column (some relation) name => simp [Term.script, Term.slots, Slot.token, Mark.symbol]
  | .reference parts => exact Identifier.tokens_path parts
  | .literal value => exact value.tokens_script
  | .timestamp t => simp [Term.script, Term.slots, Slot.token, Mark.symbol]
  | .coalesce args =>
    have hargs := tokens_commas (tokens_scripts args)
    simp only [Term.script, Term.slots, tokens_append, tokens_ofWords, tokens_parenthesized, hargs, List.map_cons,
      Slot.map_token_enclosed, bracketed_true]
    rfl
  | .aggregate f arg =>
    have harg := arg.tokens_script
    by_cases hf : f = .countUnique <;> simp [Term.script, Term.slots, Slot.token, harg, hf]
  | .binary left op right =>
    have hleft := left.tokens_script
    have hright := right.tokens_script
    simp [Term.script, Term.slots, Slot.token, hleft, hright]
  | .not t =>
    have ht := t.tokens_script
    simp [Term.script, Term.slots, Slot.token, ht]
  | .isNull t =>
    have ht := t.tokens_script
    simp [Term.script, Term.slots, ht]
  | .isNotNull t =>
    have ht := t.tokens_script
    simp [Term.script, Term.slots, ht]
  | .inList t items negated =>
    have ht := t.tokens_script
    have hitems := tokens_commas (tokens_scripts items)
    simp only [Term.script, Term.slots, tokens_append, tokens_enclosed, tokens_testWords, tokens_parenthesized, ht,
      hitems, List.map_append, Slot.map_token_enclosed, bracketed_true]
  | .inQuery t query =>
    have ht := t.tokens_script
    have hquery := query.tokens_script
    simp [Term.script, Term.slots, Slot.token, Slot.negatable, ht, hquery]
  | .like t pattern negated =>
    have ht := t.tokens_script
    have hpattern := pattern.tokens_script
    simp [Term.script, Term.slots, ht, hpattern]
  | .between t low high negated =>
    have ht := t.tokens_script
    have hlow := low.tokens_script
    have hhigh := high.tokens_script
    simp [Term.script, Term.slots, Slot.token, ht, hlow, hhigh]

theorem tokens_scripts (ts : List Term) : (scripts ts).map tokens = (slotsOf ts).map (·.map Slot.token) := by
  match ts with
  | [] => rfl
  | t :: ts => exact List.cons_eq_cons.2 ⟨t.tokens_script, tokens_scripts ts⟩

theorem tokens_conjuncts (ts : List Term) :
    (conjuncts ts).map tokens = (conjunctSlots ts).map (·.map Slot.token) := by
  match ts with
  | [] => rfl
  | t :: ts =>
    refine List.cons_eq_cons.2 ⟨?_, tokens_conjuncts ts⟩
    calc
      (enclosed (t.isLoose (operatorRank .and) false) t.script).tokens =
          bracketed (t.isLoose (operatorRank .and) false) t.script.tokens := tokens_enclosed ..
      _ = bracketed (t.isLoose (operatorRank .and) false) (t.slots.map Slot.token) := by rw [t.tokens_script]
      _ = (Slot.enclosed (t.isLoose (operatorRank .and) false) t.slots).map Slot.token :=
          (Slot.map_token_enclosed ..).symm

theorem Item.tokens_script (i : Item) : i.script.tokens = i.slots.map Slot.token := by
  match i with
  | ⟨term, label⟩ => rw [Item.script, Item.slots, tokens_append, List.map_append, term.tokens_script,
      Identifier.tokens_aliasScript]

theorem tokens_itemScripts (is : List Item) :
    (itemScripts is).map tokens = (itemSlots is).map (·.map Slot.token) := by
  match is with
  | [] => rfl
  | i :: is => exact List.cons_eq_cons.2 ⟨i.tokens_script, tokens_itemScripts is⟩

theorem Relation.tokens_script (r : Relation) : r.script.tokens = r.slots.map Slot.token := by
  match r with
  | .table name label => simp [Relation.script, Relation.slots]
  | .subquery query label =>
    have hquery := query.tokens_script
    simp [Relation.script, Relation.slots, hquery]

theorem tokens_sourceScript (source : Option Relation) :
    (sourceScript source).tokens = (sourceSlots source).map Slot.token := by
  match source with
  | none => rfl
  | some r => exact List.cons_eq_cons.2 ⟨rfl, r.tokens_script⟩

theorem Join.tokens_script (j : Join) : j.script.tokens = j.slots.map Slot.token := by
  match j with
  | ⟨relation, condition⟩ =>
    have hrelation := relation.tokens_script
    have hcondition := condition.tokens_script
    simp [Join.script, Join.slots, Slot.token, hrelation, hcondition]

theorem tokens_joinScripts (js : List Join) :
    tokens (joinScripts js).flatten = (joinSlots js).map Slot.token := by
  match js with
  | [] => rfl
  | j :: js =>
    have hlater := tokens_joinScripts js
    simp [joinScripts, joinSlots, j.tokens_script, hlater]

theorem SortKey.tokens_script (k : SortKey) : k.script.tokens = k.slots.map Slot.token := by
  match k with
  | ⟨term, direction⟩ =>
    have hterm := term.tokens_script
    simp [SortKey.script, SortKey.slots, Slot.token, hterm]

theorem tokens_sortScripts (ks : List SortKey) :
    (sortScripts ks).map tokens = (sortSlots ks).map (·.map Slot.token) := by
  match ks with
  | [] => rfl
  | k :: ks => exact List.cons_eq_cons.2 ⟨k.tokens_script, tokens_sortScripts ks⟩

theorem Select.tokens_script (s : Select) : s.script.tokens = s.slots.map Slot.token := by
  match s with
  | ⟨distinct, projection, source, joins, conditions, groups, groupConditions, order, limit, offset⟩ =>
    have hprojection : (if projection.isEmpty then ofSymbol .mul else join commaBlank (itemScripts projection)).tokens =
        (if projection.isEmpty then [.mark .asterisk] else Slot.commas (itemSlots projection)).map Slot.token := by
      split
      · rfl
      · exact tokens_commas (tokens_itemScripts projection)
    have hdistinct : (if distinct then ofWords ["DISTINCT"] ++ blank else []).tokens =
        (if distinct then [.word "DISTINCT"] else []).map Slot.token := by
      cases distinct <;> rfl
    have hand : (spaced ["AND"]).tokens = [(Slot.word "AND").token] := rfl
    have hcomma : commaBlank.tokens = [(Slot.mark .comma).token] := rfl
    simp only [Select.script, Select.slots, tokens_append, List.map_append, List.map_cons, hprojection, hdistinct,
      tokens_sourceScript source, tokens_joinScripts joins, tokens_clauseOf hand (tokens_conjuncts conditions),
      tokens_clauseOf hcomma (tokens_scripts groups), tokens_clauseOf hand (tokens_conjuncts groupConditions),
      tokens_clauseOf hcomma (tokens_sortScripts order), tokens_numberOf]
    rfl

theorem Query.tokens_script (q : Query) : q.script.tokens = q.slots.map Slot.token := by
  match q with
  | .select s => exact s.tokens_script
  | .unionAll branches =>
    rw [Query.script, Query.slots, tokens_join, Slot.map_intercalate, tokens_queryScripts branches]
    rfl

theorem tokens_queryScripts (qs : List Query) :
    (queryScripts qs).map tokens = (branchSlots qs).map (·.map Slot.token) := by
  match qs with
  | [] => rfl
  | q :: qs => exact List.cons_eq_cons.2 ⟨q.tokens_script, tokens_queryScripts qs⟩

end

end Sql

end Cohort
