import Cohort.Proofs.Lexing.Slots
import Mathlib.Algebra.Ring.Nat

/-!
# Outlines

The outline of a text is what stands outside of all its brackets and quotes. A query that is put together by unions
has as many branches as its outline has the word that begins a selection, and one more than the outline has the words
between two branches: the queries inside a branch stand in brackets, and the names and strings of callers in quotes.
-/

namespace Cohort.Sql

namespace Token

def opens : Token → Bool
  | .symbol .leftParen | .symbol .leftBracket | .symbol .leftBrace => true
  | _ => false

def closes : Token → Bool
  | .symbol .rightParen | .symbol .rightBracket | .symbol .rightBrace => true
  | _ => false

/-- The tokens outside of brackets and the outermost brackets themselves, where so many brackets are open before. -/
def outside : Nat → List Token → List Token
  | _, [] => []
  | depth, t :: ts =>
    if t.opens then (if depth = 0 then [t] else []) ++ outside (depth + 1) ts
    else if t.closes then (if depth ≤ 1 then [t] else []) ++ outside (depth - 1) ts
    else (if depth = 0 then [t] else []) ++ outside depth ts

/-- How often the word that begins a selection occurs. -/
def selectCount (ts : List Token) : Nat := ts.countP (isKeyword "SELECT")

/-- How often the words that stand between two branches occur, one right after the other. -/
def unionCount : List Token → Nat
  | t :: u :: ts => (if t.isKeyword "UNION" && u.isKeyword "ALL" then 1 else 0) + unionCount (u :: ts)
  | _ => 0

end Token

/-- The tokens of a text that stand outside of its brackets. What stands in quotes is part of a token. -/
def outline (text : String) : Except GrammarFault (List Token) := (tokenize text.toList).map (Token.outside 0)

namespace Token

/-- Every bracket is closed and no other one, so that the tokens around see nothing of it. -/
structure IsBalanced (ts : List Token) : Prop where
  outside_append (rest : List Token) : outside 0 (ts ++ rest) = outside 0 ts ++ outside 0 rest
  outside_succ_append (depth : Nat) (rest : List Token) : outside (depth + 1) (ts ++ rest) = outside (depth + 1) rest

theorem isBalanced_nil : IsBalanced [] := ⟨fun _ => rfl, fun _ _ => rfl⟩

theorem isBalanced_singleton {t : Token} (hopens : t.opens = false) (hcloses : t.closes = false) : IsBalanced [t] :=
  ⟨fun rest => by simp [outside, hopens, hcloses], fun depth rest => by simp [outside, hopens, hcloses]⟩

theorem IsBalanced.append {ts us : List Token} (hts : IsBalanced ts) (hus : IsBalanced us) : IsBalanced (ts ++ us) := by
  constructor
  · intro rest
    rw [List.append_assoc, hts.outside_append, hus.outside_append, hts.outside_append, List.append_assoc]
  · intro depth rest
    rw [List.append_assoc, hts.outside_succ_append, hus.outside_succ_append]

/-- Of what stands in brackets, only the brackets are seen from outside. -/
theorem outside_bracketed {ts : List Token} (h : IsBalanced ts) (depth : Nat) (rest : List Token) :
    outside depth (bracketed true ts ++ rest) =
      (if depth = 0 then [.symbol .leftParen, .symbol .rightParen] else []) ++ outside depth rest := by
  rw [bracketed_true, List.cons_append, List.append_assoc]
  cases depth with
  | zero => simp [outside, opens, closes, h.outside_succ_append]
  | succ depth => simp [outside, opens, closes, h.outside_succ_append]

theorem isBalanced_bracketed {ts : List Token} (h : IsBalanced ts) : IsBalanced (bracketed true ts) := by
  have hself := outside_bracketed h 0 []
  rw [List.append_nil] at hself
  constructor
  · intro rest
    rw [outside_bracketed h, hself]
    simp [outside]
  · intro depth rest
    rw [outside_bracketed h]
    rfl

/-- What holds of nothing, and of two lists in a row as soon as it holds of both, holds of lists with separators. -/
theorem intercalate_of_append {P : List Token → Prop} (hnil : P [])
    (happend : ∀ {ts us : List Token}, P ts → P us → P (ts ++ us)) {separator : List Token} {parts : List (List Token)}
    (hseparator : P separator) (hparts : ∀ ts ∈ parts, P ts) : P (separator.intercalate parts) := by
  induction parts with
  | nil => exact hnil
  | cons ts parts ih =>
    obtain ⟨hts, hlater⟩ := List.forall_mem_cons.1 hparts
    cases parts with
    | nil =>
      rw [List.intercalate_singleton]
      exact hts
    | cons us parts =>
      rw [List.intercalate_cons_cons]
      exact happend (happend hts hseparator) (ih hlater)

theorem isBalanced_intercalate {separator : List Token} {parts : List (List Token)} (hseparator : IsBalanced separator)
    (hparts : ∀ ts ∈ parts, IsBalanced ts) : IsBalanced (separator.intercalate parts) :=
  intercalate_of_append isBalanced_nil IsBalanced.append hseparator hparts

/-- What is written between two branches. -/
def unionWords : List Token := [.plain "UNION", .plain "ALL"]

theorem isBalanced_unionWords : IsBalanced unionWords :=
  (isBalanced_singleton rfl rfl).append (isBalanced_singleton rfl rfl)

/-! ## Quiet tokens -/

/-- Whether the token begins a selection or joins two. -/
def isBranchWord (t : Token) : Bool := t.isKeyword "SELECT" || t.isKeyword "UNION"

/-- Balanced tokens, none of which begins or joins selections as seen from outside. -/
structure AreQuiet (ts : List Token) : Prop where
  isBalanced : IsBalanced ts
  isBranchWord_eq_false : ∀ t ∈ outside 0 ts, t.isBranchWord = false

theorem areQuiet_nil : AreQuiet [] := ⟨isBalanced_nil, List.forall_mem_nil _⟩

theorem areQuiet_singleton {t : Token} (hopens : t.opens = false) (hcloses : t.closes = false)
    (hword : t.isBranchWord = false) : AreQuiet [t] := by
  refine ⟨isBalanced_singleton hopens hcloses, ?_⟩
  have houtside : outside 0 [t] = [t] := by simp [outside, hopens, hcloses]
  rw [houtside]
  exact List.forall_mem_singleton.2 hword

theorem AreQuiet.append {ts us : List Token} (hts : AreQuiet ts) (hus : AreQuiet us) : AreQuiet (ts ++ us) := by
  refine ⟨hts.isBalanced.append hus.isBalanced, ?_⟩
  rw [hts.isBalanced.outside_append]
  exact List.forall_mem_append.2 ⟨hts.isBranchWord_eq_false, hus.isBranchWord_eq_false⟩

theorem areQuiet_bracketed {ts : List Token} (h : IsBalanced ts) : AreQuiet (bracketed true ts) := by
  refine ⟨isBalanced_bracketed h, ?_⟩
  have hself := outside_bracketed h 0 []
  rw [List.append_nil] at hself
  rw [hself]
  decide

theorem areQuiet_intercalate {separator : List Token} {parts : List (List Token)} (hseparator : AreQuiet separator)
    (hparts : ∀ ts ∈ parts, AreQuiet ts) : AreQuiet (separator.intercalate parts) :=
  intercalate_of_append areQuiet_nil AreQuiet.append hseparator hparts

end Token

namespace Slot

open Token

/-- The tokens of the slots are quiet. -/
def AreQuiet (slots : List Slot) : Prop := Token.AreQuiet (slots.map token)

theorem areQuiet_nil : AreQuiet [] := Token.areQuiet_nil

theorem AreQuiet.append {slots later : List Slot} (hslots : AreQuiet slots) (hlater : AreQuiet later) :
    AreQuiet (slots ++ later) := by
  unfold AreQuiet
  rw [List.map_append]
  exact Token.AreQuiet.append hslots hlater

theorem areQuiet_singleton {s : Slot} (hopens : s.token.opens = false) (hcloses : s.token.closes = false)
    (hword : s.token.isBranchWord = false) : AreQuiet [s] :=
  Token.areQuiet_singleton hopens hcloses hword

theorem areQuiet_word {w : String} (h : (Token.plain w).isBranchWord = false) : AreQuiet [.word w] :=
  areQuiet_singleton rfl rfl h

theorem areQuiet_words {ws : List String} (h : ∀ w ∈ ws, (Token.plain w).isBranchWord = false) :
    AreQuiet (words ws) := by
  induction ws with
  | nil => exact areQuiet_nil
  | cons w ws ih =>
    obtain ⟨hw, hws⟩ := List.forall_mem_cons.1 h
    exact (areQuiet_word hw).append (ih hws)

theorem areQuiet_intercalate {separator : List Slot} {parts : List (List Slot)} (hseparator : AreQuiet separator)
    (hparts : ∀ s ∈ parts, AreQuiet s) : AreQuiet (separator.intercalate parts) := by
  unfold AreQuiet
  rw [map_intercalate]
  exact Token.areQuiet_intercalate hseparator (List.forall_mem_map.2 hparts)

theorem areQuiet_commas {parts : List (List Slot)} (h : ∀ s ∈ parts, AreQuiet s) : AreQuiet (commas parts) :=
  areQuiet_intercalate (areQuiet_singleton rfl rfl rfl) h

/-- Balanced slots in brackets are quiet, whatever they are. -/
theorem areQuiet_enclosed_true {slots : List Slot} (h : IsBalanced (slots.map token)) :
    AreQuiet (enclosed true slots) := by
  unfold AreQuiet
  rw [map_token_enclosed]
  exact areQuiet_bracketed h

theorem AreQuiet.enclosed {slots : List Slot} (h : AreQuiet slots) (parentheses : Bool) :
    AreQuiet (enclosed parentheses slots) := by
  cases parentheses with
  | false => exact h
  | true => exact areQuiet_enclosed_true h.isBalanced

theorem areQuiet_negatable (negated : Bool) {w : String} (h : (Token.plain w).isBranchWord = false) :
    AreQuiet (negatable negated w) := by
  have hnot : (Token.plain "NOT").isBranchWord = false := by decide
  cases negated with
  | false => exact areQuiet_word h
  | true => exact (areQuiet_word hnot).append (areQuiet_word h)

theorem areQuiet_clause (ws : List String) (hws : ∀ w ∈ ws, (Token.plain w).isBranchWord = false) {separator : Slot}
    (hseparator : AreQuiet [separator]) {parts : List (List Slot)} (hparts : ∀ s ∈ parts, AreQuiet s) :
    AreQuiet (clause ws separator parts) := by
  unfold clause
  split
  · exact areQuiet_nil
  · exact (areQuiet_words hws).append (areQuiet_intercalate hseparator hparts)

theorem areQuiet_count {w : String} (h : (Token.plain w).isBranchWord = false) (n : Option Nat) :
    AreQuiet (count w n) := by
  cases n with
  | none => exact areQuiet_nil
  | some n => exact (areQuiet_word h).append (areQuiet_singleton rfl rfl rfl)

end Slot

theorem BuiltIn.isBranchWord_text (b : BuiltIn) : (Token.plain b.text).isBranchWord = false := by cases b <;> decide

namespace Identifier

theorem areQuiet_slot (i : Identifier) : Slot.AreQuiet [i.slot] := by
  cases i with
  | checked name valid => exact Slot.areQuiet_singleton rfl rfl rfl
  | builtIn b => exact Slot.areQuiet_word b.isBranchWord_text

theorem areQuiet_pathSlots (parts : List Identifier) : Slot.AreQuiet (pathSlots parts) :=
  Slot.areQuiet_intercalate (Slot.areQuiet_singleton rfl rfl rfl)
    (List.forall_mem_map.2 fun i _ => i.areQuiet_slot)

theorem areQuiet_aliasSlots (label : Option Identifier) : Slot.AreQuiet (aliasSlots label) := by
  cases label with
  | none => exact Slot.areQuiet_nil
  | some i => exact (Slot.areQuiet_word (by decide)).append i.areQuiet_slot

end Identifier

theorem areQuiet_signSlots (negative : Bool) : Slot.AreQuiet (signSlots negative) := by
  cases negative with
  | false => exact Slot.areQuiet_nil
  | true => exact Slot.areQuiet_singleton rfl rfl rfl

end Cohort.Sql

namespace Cohort

open Sql

theorem Literal.areQuiet_slots (v : Literal) : Slot.AreQuiet v.slots := by
  have hnumber (negative : Bool) (digits : String) : Slot.AreQuiet (signSlots negative ++ [.numeral digits]) :=
    (areQuiet_signSlots negative).append (Slot.areQuiet_singleton rfl rfl rfl)
  cases v with
  | null => exact Slot.areQuiet_word (by decide)
  | boolean b => cases b <;> exact Slot.areQuiet_word (by decide)
  | integer i => exact hnumber _ _
  | decimal x =>
    rw [Literal.slots_decimal]
    split
    · exact hnumber _ _
    · exact Slot.areQuiet_word (by decide)
  | string s => exact Slot.areQuiet_singleton rfl rfl rfl

end Cohort

namespace Cohort.Sql

open Slot (AreQuiet areQuiet_nil areQuiet_word areQuiet_words areQuiet_singleton areQuiet_commas areQuiet_clause
  areQuiet_count areQuiet_negatable areQuiet_enclosed_true)

theorem areQuiet_operator (op : Operator) : AreQuiet [.operator op] := by
  cases op <;> exact areQuiet_singleton (by decide) (by decide) (by decide)

mutual

/-- No selection in a term is seen from outside. -/
theorem Term.areQuiet_slots (t : Term) : AreQuiet t.slots := by
  match t with
  | .column none name => exact name.areQuiet_slot
  | .column (some relation) name =>
    have hperiod : AreQuiet [.mark .period] := areQuiet_singleton rfl rfl rfl
    exact relation.areQuiet_slot.append (hperiod.append name.areQuiet_slot)
  | .reference parts => exact Identifier.areQuiet_pathSlots parts
  | .literal value => exact value.areQuiet_slots
  | .timestamp t =>
    have hinstant : AreQuiet [.instant t] := areQuiet_singleton rfl rfl rfl
    have hwords : AreQuiet (Slot.words ["AS", "timestamp"]) := areQuiet_words (by decide)
    exact (areQuiet_word (by decide)).append ((hinstant.append hwords).enclosed true)
  | .coalesce args =>
    exact (areQuiet_word (by decide)).append ((areQuiet_commas (areQuiet_slotsOf args)).enclosed true)
  | .aggregate f arg =>
    have hname : AreQuiet [.word f.queryName] := areQuiet_word (by cases f <;> decide)
    have hdistinct : AreQuiet (if f = .countUnique then [.word "DISTINCT"] else []) := by
      split
      · exact areQuiet_word (by decide)
      · exact areQuiet_nil
    exact hname.append ((hdistinct.append arg.areQuiet_slots).enclosed true)
  | .binary left op right =>
    exact (left.areQuiet_slots.enclosed _).append ((areQuiet_operator op).append (right.areQuiet_slots.enclosed _))
  | .not t => exact (areQuiet_word (by decide)).append (t.areQuiet_slots.enclosed _)
  | .isNull t => exact (t.areQuiet_slots.enclosed _).append (areQuiet_words (by decide))
  | .isNotNull t => exact (t.areQuiet_slots.enclosed _).append (areQuiet_words (by decide))
  | .inList t items negated =>
    exact ((t.areQuiet_slots.enclosed _).append (areQuiet_negatable negated (by decide))).append
      ((areQuiet_commas (areQuiet_slotsOf items)).enclosed true)
  | .inQuery t query =>
    exact (t.areQuiet_slots.enclosed _).append
      ((areQuiet_word (by decide)).append (areQuiet_enclosed_true query.isBalanced_slots))
  | .like t pattern negated =>
    exact ((t.areQuiet_slots.enclosed _).append (areQuiet_negatable negated (by decide))).append
      (pattern.areQuiet_slots.enclosed _)
  | .between t low high negated =>
    exact (((t.areQuiet_slots.enclosed _).append (areQuiet_negatable negated (by decide))).append
      (low.areQuiet_slots.enclosed _)).append ((areQuiet_word (by decide)).append (high.areQuiet_slots.enclosed _))

theorem areQuiet_slotsOf (ts : List Term) : ∀ s ∈ slotsOf ts, AreQuiet s := by
  match ts with
  | [] => exact List.forall_mem_nil _
  | t :: ts => exact List.forall_mem_cons.2 ⟨t.areQuiet_slots, areQuiet_slotsOf ts⟩

theorem areQuiet_conjunctSlots (ts : List Term) : ∀ s ∈ conjunctSlots ts, AreQuiet s := by
  match ts with
  | [] => exact List.forall_mem_nil _
  | t :: ts => exact List.forall_mem_cons.2 ⟨t.areQuiet_slots.enclosed _, areQuiet_conjunctSlots ts⟩

theorem Item.areQuiet_slots (i : Item) : AreQuiet i.slots := by
  match i with
  | ⟨term, label⟩ => exact term.areQuiet_slots.append (Identifier.areQuiet_aliasSlots label)

theorem areQuiet_itemSlots (is : List Item) : ∀ s ∈ itemSlots is, AreQuiet s := by
  match is with
  | [] => exact List.forall_mem_nil _
  | i :: is => exact List.forall_mem_cons.2 ⟨i.areQuiet_slots, areQuiet_itemSlots is⟩

theorem Relation.areQuiet_slots (r : Relation) : AreQuiet r.slots := by
  match r with
  | .table name label => exact (Identifier.areQuiet_pathSlots name).append (Identifier.areQuiet_aliasSlots label)
  | .subquery query label =>
    exact (areQuiet_enclosed_true query.isBalanced_slots).append (Identifier.areQuiet_aliasSlots label)

theorem areQuiet_sourceSlots (source : Option Relation) : AreQuiet (sourceSlots source) := by
  match source with
  | none => exact areQuiet_nil
  | some r => exact (areQuiet_word (by decide)).append r.areQuiet_slots

theorem Join.areQuiet_slots (j : Join) : AreQuiet j.slots := by
  match j with
  | ⟨relation, condition⟩ =>
    exact ((areQuiet_words (by decide)).append relation.areQuiet_slots).append
      ((areQuiet_word (by decide)).append (condition.areQuiet_slots.enclosed true))

theorem areQuiet_joinSlots (js : List Join) : AreQuiet (joinSlots js) := by
  match js with
  | [] => exact areQuiet_nil
  | j :: js => exact j.areQuiet_slots.append (areQuiet_joinSlots js)

theorem SortKey.areQuiet_slots (k : SortKey) : AreQuiet k.slots := by
  match k with
  | ⟨term, direction⟩ => exact term.areQuiet_slots.append (areQuiet_word (by cases direction <;> decide))

theorem areQuiet_sortSlots (ks : List SortKey) : ∀ s ∈ sortSlots ks, AreQuiet s := by
  match ks with
  | [] => exact List.forall_mem_nil _
  | k :: ks => exact List.forall_mem_cons.2 ⟨k.areQuiet_slots, areQuiet_sortSlots ks⟩

/-- A selection is seen from outside by its first word alone. -/
theorem Select.exists_slots_eq_cons (s : Select) : ∃ later, s.slots = .word "SELECT" :: later ∧ AreQuiet later := by
  match s with
  | ⟨distinct, projection, source, joins, conditions, groups, groupConditions, order, limit, offset⟩ =>
    have hand : AreQuiet [.word "AND"] := areQuiet_word (by decide)
    have hcomma : AreQuiet [.mark .comma] := areQuiet_singleton rfl rfl rfl
    have hdistinct : AreQuiet (if distinct then [.word "DISTINCT"] else []) := by
      split
      · exact areQuiet_word (by decide)
      · exact areQuiet_nil
    have hprojection :
        AreQuiet (if projection.isEmpty then [.mark .asterisk] else Slot.commas (itemSlots projection)) := by
      split
      · exact areQuiet_singleton rfl rfl rfl
      · exact areQuiet_commas (areQuiet_itemSlots projection)
    have hfront := ((hdistinct.append hprojection).append (areQuiet_sourceSlots source)).append
      (areQuiet_joinSlots joins)
    have hwhere := areQuiet_clause ["WHERE"] (by decide) hand (areQuiet_conjunctSlots conditions)
    have hgroups := areQuiet_clause ["GROUP", "BY"] (by decide) hcomma (areQuiet_slotsOf groups)
    have hhaving := areQuiet_clause ["HAVING"] (by decide) hand (areQuiet_conjunctSlots groupConditions)
    have horder := areQuiet_clause ["ORDER", "BY"] (by decide) hcomma (areQuiet_sortSlots order)
    have hlimit := areQuiet_count (w := "LIMIT") (by decide) limit
    have hoffset := areQuiet_count (w := "OFFSET") (by decide) offset
    exact ⟨_, rfl, (((((hfront.append hwhere).append hgroups).append hhaving).append horder).append hlimit).append
      hoffset⟩

theorem Select.isBalanced_slots (s : Select) : Token.IsBalanced (s.slots.map Slot.token) := by
  obtain ⟨later, hslots, hlater⟩ := s.exists_slots_eq_cons
  have hselect : Token.IsBalanced [.plain "SELECT"] := Token.isBalanced_singleton rfl rfl
  rw [hslots]
  exact hselect.append hlater.isBalanced

theorem Query.isBalanced_slots (q : Query) : Token.IsBalanced (q.slots.map Slot.token) := by
  match q with
  | .select s => exact s.isBalanced_slots
  | .unionAll branches =>
    rw [Query.slots, Slot.map_intercalate]
    exact Token.isBalanced_intercalate Token.isBalanced_unionWords (isBalanced_branchSlots branches)

theorem isBalanced_branchSlots (qs : List Query) :
    ∀ ts ∈ (branchSlots qs).map (·.map Slot.token), Token.IsBalanced ts := by
  match qs with
  | [] => exact List.forall_mem_nil _
  | q :: qs => exact List.forall_mem_cons.2 ⟨q.isBalanced_slots, isBalanced_branchSlots qs⟩

end

/-! ## Counting -/

namespace Token

theorem outside_intercalate {separator : List Token} {parts : List (List Token)} (hseparator : IsBalanced separator)
    (hparts : ∀ ts ∈ parts, IsBalanced ts) :
    outside 0 (separator.intercalate parts) = (outside 0 separator).intercalate (parts.map (outside 0)) := by
  induction parts with
  | nil => rfl
  | cons ts parts ih =>
    obtain ⟨hts, hlater⟩ := List.forall_mem_cons.1 hparts
    cases parts with
    | nil => simp
    | cons us parts =>
      rw [List.intercalate_cons_cons, (hts.append hseparator).outside_append, hts.outside_append, ih hlater,
        List.map_cons, List.map_cons, List.map_cons, List.intercalate_cons_cons]

theorem selectCount_intercalate_unionWords (parts : List (List Token)) :
    selectCount (unionWords.intercalate parts) = (parts.map selectCount).sum := by
  have hunion : unionWords.countP (isKeyword "SELECT") = 0 := by decide
  induction parts with
  | nil => rfl
  | cons ts parts ih =>
    cases parts with
    | nil => simp
    | cons us parts =>
      rw [List.intercalate_cons_cons, List.map_cons, List.sum_cons, ← ih]
      simp [selectCount, hunion]

theorem unionCount_eq_zero {ts : List Token} (h : ∀ t ∈ ts, t.isKeyword "UNION" = false) : unionCount ts = 0 := by
  induction ts with
  | nil => rfl
  | cons t ts ih =>
    obtain ⟨ht, hlater⟩ := List.forall_mem_cons.1 h
    cases ts with
    | nil => rfl
    | cons u ts => simp [unionCount, ht, ih hlater]

/-- Neither of the two words makes another pair with what stands before or after them. -/
theorem unionCount_append_unionWords (ts us : List Token) :
    unionCount (ts ++ unionWords ++ us) = unionCount ts + 1 + unionCount us := by
  have hpair : (isKeyword "UNION" (.plain "UNION") && isKeyword "ALL" (.plain "ALL")) = true := by decide
  have hfirst : isKeyword "ALL" (.plain "UNION") = false := by decide
  have hsecond : isKeyword "UNION" (.plain "ALL") = false := by decide
  have hafter : unionCount (unionWords ++ us) = 1 + unionCount us := by
    cases us with
    | nil => simp [unionWords, unionCount, hpair]
    | cons u us => simp [unionWords, unionCount, hpair, hsecond]
  rw [List.append_assoc]
  induction ts with
  | nil => simpa [unionCount] using hafter
  | cons t ts ih =>
    cases ts with
    | nil =>
      have hself : unionCount [t] = 0 := rfl
      rw [hself, Nat.zero_add, ← hafter]
      simp [unionWords, unionCount, hfirst]
    | cons u ts =>
      rw [List.cons_append, List.cons_append, unionCount, ← List.cons_append, ih, unionCount]
      omega

theorem unionCount_intercalate_unionWords {parts : List (List Token)} (h : parts ≠ []) :
    unionCount (unionWords.intercalate parts) + 1 = (parts.map fun ts => unionCount ts + 1).sum := by
  induction parts with
  | nil => exact absurd rfl h
  | cons ts parts ih =>
    cases parts with
    | nil => simp
    | cons us parts =>
      have hlater := ih (List.cons_ne_nil us parts)
      rw [List.intercalate_cons_cons, unionCount_append_unionWords, List.map_cons, List.sum_cons, ← hlater]
      omega

end Token

open Token (outside selectCount unionCount unionWords)

theorem branchSlots_eq_map (qs : List Query) : branchSlots qs = qs.map Query.slots := by
  induction qs with
  | nil => rfl
  | cons q qs ih => rw [branchSlots, ih, List.map_cons]

theorem Select.outside_slots (s : Select) :
    ∃ later, outside 0 (s.slots.map Slot.token) = .plain "SELECT" :: later ∧ ∀ t ∈ later, t.isBranchWord = false := by
  obtain ⟨later, hslots, hlater⟩ := s.exists_slots_eq_cons
  exact ⟨_, by rw [hslots]; rfl, hlater.isBranchWord_eq_false⟩

namespace Query

/-- The tokens of the query that are seen from outside. -/
def outer (q : Query) : List Token := outside 0 (q.slots.map Slot.token)

theorem outline_text (q : Query) : outline q.text = .ok q.outer := by
  have htokens : tokenize q.text.toList = .ok q.script.tokens := by
    rw [text, Script.text, String.toList_ofList]
    exact Script.tokenize_chars (q.clear_script [] (boundary_nil _))
  rw [outline, htokens, q.tokens_script]
  rfl

theorem outer_unionAll (qs : List Query) : (unionAll qs).outer = unionWords.intercalate (qs.map outer) := by
  have hbranches := isBalanced_branchSlots qs
  rw [outer, slots, Slot.map_intercalate]
  change outside 0 (unionWords.intercalate _) = _
  rw [Token.outside_intercalate Token.isBalanced_unionWords hbranches, branchSlots_eq_map, List.map_map, List.map_map]
  rfl

theorem branches_unionAll (qs : List Query) : (unionAll qs).branches = (qs.map branches).sum := by
  change branches.branchesOf qs = _
  induction qs with
  | nil => rfl
  | cons q qs ih => rw [branches.branchesOf, ih, List.map_cons, List.sum_cons]

theorem selectCount_outer_select (s : Select) : selectCount (select s).outer = 1 := by
  obtain ⟨later, houtside, hlater⟩ := s.outside_slots
  have hquiet : later.countP (Token.isKeyword "SELECT") = 0 := by
    rw [List.countP_eq_zero]
    intro t ht hselect
    have hword := hlater t ht
    rw [Token.isBranchWord, hselect] at hword
    cases hword
  have hselect : Token.isKeyword "SELECT" (.plain "SELECT") = true := by decide
  change selectCount (outside 0 (s.slots.map Slot.token)) = 1
  rw [houtside, selectCount, List.countP_cons, hquiet, hselect]
  rfl

theorem unionCount_outer_select (s : Select) : unionCount (select s).outer = 0 := by
  obtain ⟨later, houtside, hlater⟩ := s.outside_slots
  change unionCount (outside 0 (s.slots.map Slot.token)) = 0
  rw [houtside]
  apply Token.unionCount_eq_zero
  refine List.forall_mem_cons.2 ⟨by decide, fun t ht => ?_⟩
  exact (Bool.or_eq_false_iff.1 (hlater t ht)).2

mutual

/-- Every branch is one selection as seen from outside. -/
theorem selectCount_outer (q : Query) : selectCount q.outer = q.branches := by
  match q with
  | .select s => exact selectCount_outer_select s
  | .unionAll qs =>
    rw [outer_unionAll, Token.selectCount_intercalate_unionWords, branches_unionAll, List.map_map]
    exact congrArg List.sum (map_selectCount_outer qs)

theorem map_selectCount_outer (qs : List Query) : qs.map (selectCount ∘ outer) = qs.map branches := by
  match qs with
  | [] => rfl
  | q :: qs => exact List.cons_eq_cons.2 ⟨selectCount_outer q, map_selectCount_outer qs⟩

end

/-- Queries that are put together from selections by unions. -/
inductive IsBuilt : Query → Prop
  | select (s : Select) : IsBuilt (.select s)
  | union {qs : List Query} {q : Query} (hqs : ∀ b ∈ qs, IsBuilt b) (h : union qs = .ok q) : IsBuilt q

theorem isBuilt_unionAll {q r : Query} {qs : List Query} (hq : q.IsBuilt) (hlater : ∀ b ∈ r :: qs, b.IsBuilt) :
    (unionAll (q :: r :: qs)).IsBuilt :=
  .union (List.forall_mem_cons.2 ⟨hq, hlater⟩) rfl

theorem union_eq_ok {qs : List Query} {q : Query} (h : union qs = .ok q) :
    qs = [q] ∨ (qs ≠ [] ∧ q = .unionAll qs) := by
  match qs with
  | [] => cases h
  | [_] =>
    cases h
    exact .inl rfl
  | _ :: _ :: _ =>
    cases h
    exact .inr ⟨List.cons_ne_nil _ _, rfl⟩

theorem unionCount_outer {q : Query} (h : q.IsBuilt) : unionCount q.outer + 1 = q.branches := by
  induction h with
  | select s =>
    rw [unionCount_outer_select]
    rfl
  | @union qs q _ hq ih =>
    obtain rfl | ⟨hne, rfl⟩ := union_eq_ok hq
    · exact ih q (List.mem_singleton.2 rfl)
    · have hparts : qs.map outer ≠ [] := fun hnil => hne (List.map_eq_nil_iff.1 hnil)
      rw [outer_unionAll, Token.unionCount_intercalate_unionWords hparts, branches_unionAll, List.map_map]
      exact congrArg List.sum (List.map_congr_left ih)

theorem exists_union {qs : List Query} (h : qs ≠ []) :
    ∃ q, union qs = .ok q ∧ q.branches = (qs.map branches).sum := by
  match qs, h with
  | [q], _ => exact ⟨q, rfl, by simp⟩
  | q :: r :: qs, _ => exact ⟨_, rfl, branches_unionAll (q :: r :: qs)⟩

/-- Every query has as many branches as the outline of its text has selections. If it is put together by unions, that
is one more than there are unions between them; and a union has the branches of all its parts together. -/
theorem branches_eq_selectCount :
    (∀ q : Query, ∃ ts, outline q.text = .ok ts ∧ selectCount ts = q.branches ∧
      (q.IsBuilt → unionCount ts + 1 = q.branches)) ∧
    ∀ qs : List Query, qs ≠ [] → ∃ q, union qs = .ok q ∧ q.branches = (qs.map branches).sum :=
  ⟨fun q => ⟨q.outer, q.outline_text, q.selectCount_outer, unionCount_outer⟩, fun _ => exists_union⟩

/-- All rows of a table. -/
def wholeTable (name : String) (valid : isName name = true) : Query :=
  .select (.ofClauses [.source (.table [.checked name valid] none)])

/-- Users of two tables and then those of a third one, where a table and a string are named like parts of a query. -/
def nestedUnion : Query :=
  let selects := wholeTable "SELECT" (by decide)
  let visits := wholeTable "visits" (by decide)
  let told := Term.binary (.column none (.builtIn .user)) .eq (.literal (.string ") UNION ALL (SELECT"))
  let users := Term.inQuery (.column none (.builtIn .user)) (.unionAll [visits, selects])
  .unionAll [
    .select (.ofClauses [.source (.subquery (.unionAll [selects, visits]) none), .condition told]),
    .unionAll [visits, .select (.ofClauses [.source (.table [.builtIn .users] none), .condition users])]]

theorem branches_eq_selectCount_nestedUnion :
    nestedUnion.IsBuilt ∧ nestedUnion.branches = 3 ∧
      ∃ ts, outline nestedUnion.text = .ok ts ∧ selectCount ts = 3 ∧ unionCount ts + 1 = 3 := by
  have hbuilt : nestedUnion.IsBuilt := by
    refine isBuilt_unionAll (.select _) (List.forall_mem_singleton.2 ?_)
    exact isBuilt_unionAll (.select _) (List.forall_mem_singleton.2 (.select _))
  obtain ⟨ts, houtline, hselects, hunions⟩ := branches_eq_selectCount.1 nestedUnion
  exact ⟨hbuilt, rfl, ts, houtline, hselects, hunions hbuilt⟩

end Query

end Cohort.Sql
