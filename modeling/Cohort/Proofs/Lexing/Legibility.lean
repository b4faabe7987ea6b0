import Cohort.Proofs.Lexing.Script

/-!
# Queries are legible

The script of every term is legible before whatever may follow a term, and so is the script of every query. Nothing
is asked of the contents of string literals, and of names only what their type says already.
-/

namespace Cohort

open Sql Sql.Script

/-- A minus and a numeral. -/
theorem legible_minus_numeral {digits : String} (hd : IsNumeral digits.toList) {rest : List Char}
    (h : Boundary isClosing rest) :
    Legible [some (.symbol .minus), some (.number digits false)] rest := by
  refine ⟨reads_minus ?_, legible_single (reads_number hd h)⟩
  have hspelling : chars [some (.number digits false)] = digits.toList := by
    simp [chars, Token.spelling]
  obtain ⟨whole, fraction, exponent, ⟨hne, hwhole⟩, -, -, hcs⟩ := hd
  rw [hspelling, hcs]
  obtain ⟨d, whole, rfl⟩ := List.exists_cons_of_ne_nil hne
  have hdigit : d.isDigit = true := hwhole d (List.mem_cons_self ..)
  refine boundary_cons ?_ _
  rw [Bool.and_eq_true, bne_iff_ne, bne_iff_ne]
  constructor <;> rintro rfl <;> revert hdigit <;> decide

theorem Double.clear_script (x : Double) : Clear x.script := by
  intro rest h
  unfold Double.script
  by_cases hx : x.isFinite = true
  · obtain ⟨cs, hcs, htext⟩ := Double.toList_text_of_isFinite hx
    have hnumeral : IsNumeral (String.ofList cs).toList := by rwa [String.toList_ofList]
    rw [if_pos hx, htext, Double.signText]
    by_cases hnegative : x.negative = true
    · rw [if_pos hnegative]
      exact legible_minus_numeral hnumeral h
    · rw [if_neg hnegative, List.nil_append]
      split
      · exact absurd hcs not_isNumeral_minus
      · exact legible_single (reads_number hnumeral h)
  · rw [if_neg hx]
    exact clear_ofWords (by decide) rest h

theorem Literal.clear_script (v : Literal) : Clear v.script := by
  intro rest h
  cases v with
  | null => exact clear_ofWords (by decide) rest h
  | boolean b => cases b <;> exact clear_ofWords (by decide) rest h
  | integer i =>
    change Legible (Literal.integerScript i) rest
    unfold Literal.integerScript
    split
    · exact legible_minus_numeral (isNumeral_toString _) h
    · exact legible_single (reads_number (isNumeral_toString _) h)
  | decimal x => exact x.clear_script rest h
  | string s => exact clear_string s rest h

namespace Sql

theorem BuiltIn.isName_text (b : BuiltIn) : isName b.text = true := by cases b <;> decide

namespace Identifier

theorem legible_script (i : Identifier) {rest : List Char} (h : Boundary isBreak rest) : Legible i.script rest := by
  cases i with
  | builtIn b => exact legible_single (reads_plain b.isName_text h)
  | checked name valid =>
    refine legible_single (reads_quotedWord name (h.mono fun c hc => ?_))
    rcases eq_of_isBreak hc with rfl | rfl | rfl | rfl | rfl <;> decide

theorem clear_script (i : Identifier) : Clear i.script := fun _ h => i.legible_script (h.mono isBreak_of_isClosing)

/-- No identifier begins with a digit. -/
theorem boundary_chars_script (i : Identifier) (rest : List Char) :
    Boundary (fun c => !c.isDigit) (chars i.script ++ rest) := by
  cases i with
  | builtIn b => cases b <;> exact boundary_cons (by decide) _
  | checked name valid => exact boundary_cons (by decide) _

/-- A period after an identifier, before another one. -/
theorem legible_period_append (i : Identifier) {s : Script} {rest : List Char} (h : Legible (i.script ++ s) rest) :
    Legible (ofSymbol .period ++ (i.script ++ s)) rest := by
  refine legible_append (legible_single (reads_period ?_)) h
  rw [chars_append, List.append_assoc]
  exact i.boundary_chars_script _

/-- A path is an identifier and then nothing or a period before the rest of it. -/
theorem clear_path (parts : List Identifier) : Clear (path parts) := by
  induction parts with
  | nil => exact clear_nil
  | cons i parts ih =>
    cases parts with
    | nil => exact i.clear_script
    | cons j parts =>
      intro rest h
      have hlater := ih rest h
      obtain ⟨s, hs⟩ : ∃ s, path (j :: parts) = j.script ++ s := by
        cases parts with
        | nil => exact ⟨[], (List.append_nil _).symm⟩
        | cons k parts => exact ⟨_, List.append_assoc ..⟩
      rw [hs] at hlater
      change Legible (i.script ++ ofSymbol .period ++ path (j :: parts)) rest
      rw [hs, List.append_assoc]
      exact legible_append (i.legible_script (boundary_cons (by decide) _)) (j.legible_period_append hlater)

theorem clear_aliasScript (label : Option Identifier) : Clear (aliasScript label) := by
  cases label with
  | none => exact clear_nil
  | some i =>
    have hfront : Clear (blank ++ ofWords ["AS"]) := fun rest h =>
      legible_append (legible_blank _) (clear_ofWords (by decide) rest h)
    exact clear_append_blank_append hfront i.clear_script

theorem detached_aliasScript (label : Option Identifier) : Detached (aliasScript label) := by
  cases label with
  | none => exact detached_nil
  | some i => exact detached_blank_append _

end Identifier

/-! ## Terms and queries -/

theorem clear_testWords {s t : Script} (hs : Clear s) (negated : Bool) (words : List String)
    (hwords : ∀ w ∈ "NOT" :: words, isName w = true) (ht : Clear t) : Clear (s ++ testWords negated words ++ t) := by
  have hused : ∀ w ∈ if negated then "NOT" :: words else words, isName w = true := by
    cases negated with
    | false => exact fun w hw => hwords w (List.mem_cons_of_mem _ hw)
    | true => exact hwords
  exact clear_append_spaced_append hs hused ht

theorem clear_clauseOf (words : List String) (hwords : ∀ w ∈ words, isName w = true) {separator : Script}
    {parts : List Script} (h : Clear (join separator parts)) : Clear (Select.script.clauseOf words separator parts) := by
  unfold Select.script.clauseOf
  split
  · exact clear_nil
  · exact fun rest hrest => legible_append (legible_spaced hwords _) (h rest hrest)

theorem detached_clauseOf (words : List String) (separator : Script) (parts : List Script) :
    Detached (Select.script.clauseOf words separator parts) := by
  unfold Select.script.clauseOf
  split
  · exact detached_nil
  · exact detached_spaced_append words _

theorem clear_numberOf {words : List String} (hwords : ∀ w ∈ words, isName w = true) (n : Option Nat) :
    Clear (Select.script.numberOf words n) := by
  cases n with
  | none => exact clear_nil
  | some n =>
    exact fun rest h => legible_append (legible_spaced hwords _)
      (legible_single (reads_number (isNumeral_toString n) h))

theorem detached_numberOf (words : List String) (n : Option Nat) : Detached (Select.script.numberOf words n) := by
  cases n with
  | none => exact detached_nil
  | some n => exact detached_spaced_append words _

theorem detached_sourceScript (source : Option Relation) : Detached (sourceScript source) := by
  cases source with
  | none => exact detached_nil
  | some r => exact detached_spaced_append _ _

theorem Join.detached_script (j : Join) : Detached j.script := by
  cases j with
  | mk relation condition =>
    rw [Join.script, List.append_assoc, List.append_assoc]
    exact detached_spaced_append _ _

theorem detached_joinScripts (js : List Join) : ∀ s ∈ joinScripts js, Detached s := by
  induction js with
  | nil => exact List.forall_mem_nil _
  | cons j js ih => exact List.forall_mem_cons.2 ⟨j.detached_script, ih⟩

/-- The words at the beginning of a selection. -/
theorem legible_selectWords (distinct : Bool) (rest : List Char) :
    Legible (ofWords ["SELECT"] ++ blank ++ (if distinct then ofWords ["DISTINCT"] ++ blank else [])) rest := by
  refine legible_append (legible_append (legible_ofWords (by decide) ?_) (legible_blank _)) ?_
  · exact boundary_cons (by decide) _
  · cases distinct with
    | false => trivial
    | true => exact legible_append (legible_ofWords (by decide) (boundary_cons (by decide) _)) (legible_blank _)

mutual

theorem Term.clear_script (t : Term) : Clear t.script := by
  match t with
  | .column none name => exact name.clear_script
  | .column (some relation) name =>
    intro rest h
    have hlater : Legible (name.script ++ []) rest := by
      rw [List.append_nil]
      exact name.clear_script rest h
    have hperiod := name.legible_period_append hlater
    rw [List.append_nil] at hperiod
    change Legible (relation.script ++ ofSymbol .period ++ name.script) rest
    rw [List.append_assoc]
    exact legible_append (relation.legible_script (boundary_cons (by decide) _)) hperiod
  | .reference parts => exact Identifier.clear_path parts
  | .literal value => exact value.clear_script
  | .timestamp t =>
    apply clear_word_parenthesized (by decide)
    exact clear_append_spaced_append (clear_string _) (by decide) (clear_ofWords (by decide))
  | .coalesce args => exact clear_word_parenthesized (by decide) (clear_join_comma (clear_scripts args))
  | .aggregate f arg =>
    apply clear_word_parenthesized (by cases f <;> decide)
    have harg := arg.clear_script
    by_cases hf : f = .countUnique
    · rw [if_pos hf]
      exact clear_append_blank_append (clear_ofWords (by decide)) harg
    · rw [if_neg hf]
      exact harg
  | .binary left op right =>
    have hleft := clear_enclosed (left.isLoose (operatorRank op) op.isComparison) left.clear_script
    have hright := clear_enclosed (right.isLoose (operatorRank op) (!op.isLogical)) right.clear_script
    intro rest h
    refine legible_append (legible_append (legible_append (legible_append (hleft _ ?_) (legible_blank _)) ?_)
      (legible_blank _)) (hright rest h)
    · exact boundary_cons (by decide) _
    · exact legible_single (reads_operator op _)
  | .not t =>
    exact clear_append_blank_append (clear_ofWords (by decide)) (clear_enclosed _ t.clear_script)
  | .isNull t =>
    exact clear_append_blank_append (clear_enclosed _ t.clear_script) (clear_ofWords (by decide))
  | .isNotNull t =>
    exact clear_append_blank_append (clear_enclosed _ t.clear_script) (clear_ofWords (by decide))
  | .inList t items negated =>
    apply clear_testWords (clear_enclosed _ t.clear_script) negated _ (by decide)
    intro rest _
    exact legible_parenthesized (clear_join_comma (clear_scripts items)) rest
  | .inQuery t query =>
    apply clear_testWords (clear_enclosed _ t.clear_script) false _ (by decide)
    intro rest _
    exact legible_parenthesized query.clear_script rest
  | .like t pattern negated =>
    exact clear_testWords (clear_enclosed _ t.clear_script) negated _ (by decide)
      (clear_enclosed _ pattern.clear_script)
  | .between t low high negated =>
    have hlow := clear_testWords (clear_enclosed (t.isLoose testRank true) t.clear_script) negated ["BETWEEN"]
      (by decide) (clear_enclosed (low.isLoose testRank true) low.clear_script)
    exact clear_append_spaced_append hlow (by decide) (clear_enclosed _ high.clear_script)

theorem clear_scripts (ts : List Term) : ∀ s ∈ scripts ts, Clear s := by
  match ts with
  | [] => exact List.forall_mem_nil _
  | t :: ts => exact List.forall_mem_cons.2 ⟨t.clear_script, clear_scripts ts⟩

theorem clear_conjuncts (ts : List Term) : ∀ s ∈ conjuncts ts, Clear s := by
  match ts with
  | [] => exact List.forall_mem_nil _
  | t :: ts => exact List.forall_mem_cons.2 ⟨clear_enclosed _ t.clear_script, clear_conjuncts ts⟩

theorem Item.clear_script (i : Item) : Clear i.script := by
  match i with
  | ⟨term, label⟩ =>
    exact clear_append term.clear_script (Identifier.clear_aliasScript label)
      (Identifier.detached_aliasScript label)

theorem clear_itemScripts (is : List Item) : ∀ s ∈ itemScripts is, Clear s := by
  match is with
  | [] => exact List.forall_mem_nil _
  | i :: is => exact List.forall_mem_cons.2 ⟨i.clear_script, clear_itemScripts is⟩

theorem Relation.clear_script (r : Relation) : Clear r.script := by
  match r with
  | .table name label =>
    exact clear_append (Identifier.clear_path name) (Identifier.clear_aliasScript label)
      (Identifier.detached_aliasScript label)
  | .subquery query label =>
    refine clear_append (fun rest _ => ?_) (Identifier.clear_aliasScript label)
      (Identifier.detached_aliasScript label)
    exact legible_parenthesized query.clear_script rest

theorem clear_sourceScript (source : Option Relation) : Clear (sourceScript source) := by
  match source with
  | none => exact clear_nil
  | some r => exact fun rest h => legible_append (legible_spaced (by decide) _) (r.clear_script rest h)

theorem Join.clear_script (j : Join) : Clear j.script := by
  match j with
  | ⟨relation, condition⟩ =>
    have hrelation : Clear (spaced ["LEFT", "JOIN"] ++ relation.script) := fun rest h =>
      legible_append (legible_spaced (by decide) _) (relation.clear_script rest h)
    apply clear_append_spaced_append hrelation (by decide)
    intro rest _
    exact legible_parenthesized condition.clear_script rest

theorem clear_joinScripts (js : List Join) : ∀ s ∈ joinScripts js, Clear s := by
  match js with
  | [] => exact List.forall_mem_nil _
  | j :: js => exact List.forall_mem_cons.2 ⟨j.clear_script, clear_joinScripts js⟩

theorem SortKey.clear_script (k : SortKey) : Clear k.script := by
  match k with
  | ⟨term, direction⟩ =>
    exact clear_append_blank_append term.clear_script (clear_ofWords (by cases direction <;> decide))

theorem clear_sortScripts (ks : List SortKey) : ∀ s ∈ sortScripts ks, Clear s := by
  match ks with
  | [] => exact List.forall_mem_nil _
  | k :: ks => exact List.forall_mem_cons.2 ⟨k.clear_script, clear_sortScripts ks⟩

/-- The clauses after the first are detached, so that each may follow what is before it. -/
theorem Select.clear_script (s : Select) : Clear s.script := by
  match s with
  | ⟨distinct, projection, source, joins, conditions, groups, groupConditions, order, limit, offset⟩ =>
    have hitems := clear_join_comma (clear_itemScripts projection)
    have hprojection : Clear (if projection.isEmpty then ofSymbol .mul else join commaBlank (itemScripts projection)) := by
      split
      · exact fun rest _ => legible_single (reads_mul rest)
      · exact hitems
    have hfront : Clear (ofWords ["SELECT"] ++ blank ++ (if distinct then ofWords ["DISTINCT"] ++ blank else []) ++
        (if projection.isEmpty then ofSymbol .mul else join commaBlank (itemScripts projection))) :=
      fun rest h => legible_append (legible_selectWords distinct _) (hprojection rest h)
    have hsource := clear_append hfront (clear_sourceScript source) (detached_sourceScript source)
    have hjoins := clear_flatten fun s hs => ⟨clear_joinScripts joins s hs, detached_joinScripts joins s hs⟩
    have hwhere := clear_clauseOf ["WHERE"] (by decide)
      (clear_join_spaced ["AND"] (by decide) (clear_conjuncts conditions))
    have hgroups := clear_clauseOf ["GROUP", "BY"] (by decide) (clear_join_comma (clear_scripts groups))
    have hhaving := clear_clauseOf ["HAVING"] (by decide)
      (clear_join_spaced ["AND"] (by decide) (clear_conjuncts groupConditions))
    have horder := clear_clauseOf ["ORDER", "BY"] (by decide) (clear_join_comma (clear_sortScripts order))
    have hbeforeGroups := clear_append (clear_append hsource hjoins.1 hjoins.2) hwhere (detached_clauseOf _ _ _)
    have hbeforeOrder := clear_append (clear_append hbeforeGroups hgroups (detached_clauseOf _ _ _)) hhaving
      (detached_clauseOf _ _ _)
    exact clear_append (clear_append (clear_append hbeforeOrder horder (detached_clauseOf _ _ _))
      (clear_numberOf (by decide) limit) (detached_numberOf _ _)) (clear_numberOf (by decide) offset)
      (detached_numberOf _ _)

theorem Query.clear_script (q : Query) : Clear q.script := by
  match q with
  | .select s => exact s.clear_script
  | .unionAll branches => exact clear_join_spaced _ (by decide) (clear_queryScripts branches)

theorem clear_queryScripts (qs : List Query) : ∀ s ∈ queryScripts qs, Clear s := by
  match qs with
  | [] => exact List.forall_mem_nil _
  | q :: qs => exact List.forall_mem_cons.2 ⟨q.clear_script, clear_queryScripts qs⟩

end

/-- The text of a term has the tokens of its script. -/
theorem Term.tokenize_text (t : Term) : tokenize t.text.toList = .ok t.script.tokens := by
  rw [Term.text, Script.text, String.toList_ofList]
  exact tokenize_chars (t.clear_script [] (boundary_nil _))

/-- The text of a query consists of the tokens and blanks of its script. -/
theorem Query.lexemes_text (q : Query) : lexemes q.text.toList = .ok (q.script.map Lexeme.ofPart) := by
  rw [Query.text, Script.text, String.toList_ofList]
  exact lexemes_chars (q.clear_script [] (boundary_nil _))

end Sql

end Cohort
