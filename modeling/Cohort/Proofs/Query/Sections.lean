import Cohort.Sql.Rendering

/-!
# Sections of a selection

A selection is put together clause by clause. Clauses of some kinds add up, and of the others the last one holds.
What has been pushed of one kind says all about what the selection holds of it, so that clauses of different kinds
may be pushed in any order. The text is one section for each kind, in an order that never changes.
-/

namespace Cohort.Sql

namespace Clause

/-- The kinds of clauses, in the order in which they are written. -/
inductive Kind
  | projection | source | join | condition | group | groupCondition | order | limit | offset
  deriving DecidableEq, Repr

def kind : Clause → Kind
  | .projection _ => .projection
  | .source _ => .source
  | .join _ => .join
  | .condition _ => .condition
  | .group _ => .group
  | .groupCondition _ => .groupCondition
  | .order _ => .order
  | .limit _ => .limit
  | .offset _ => .offset

/-- A clause without the words that open its section. -/
def text : Clause → String
  | .projection item => item.script.text
  | .source relation => relation.script.text
  | .join j => "LEFT JOIN " ++ j.relation.script.text ++ " ON (" ++ j.condition.script.text ++ ")"
  | .condition t | .groupCondition t => (enclosed (t.isLoose (operatorRank .and) false) t.script).text
  | .group t => t.text
  | .order key => key.script.text
  | .limit n | .offset n => toString n

namespace Kind

/-- Every kind, in the order in which the sections are written. -/
def inOrder : List Kind :=
  [.projection, .source, .join, .condition, .group, .groupCondition, .order, .limit, .offset]

/-- Whether clauses of the kind add up; of those that do not, the last one holds. -/
def accumulates : Kind → Bool
  | .source | .limit | .offset => false
  | _ => true

/-- What holds of clauses of the kind that are pushed one after the other. -/
def keep (k : Kind) (cs : List Clause) : List Clause := if k.accumulates then cs else cs.getLast?.toList

/-- What holds of clauses of the kind, where those of others are pushed as well. -/
def kept (k : Kind) (cs : List Clause) : List Clause := k.keep (cs.filter fun c => c.kind = k)

/-- What a section begins with. -/
def opening : Kind → String
  | .projection => "SELECT "
  | .source => " FROM "
  | .join => " "
  | .condition => " WHERE "
  | .group => " GROUP BY "
  | .groupCondition => " HAVING "
  | .order => " ORDER BY "
  | .limit => " LIMIT "
  | .offset => " OFFSET "

/-- What stands between two clauses of a section. -/
def separator : Kind → String
  | .condition | .groupCondition => " AND "
  | .join => " "
  | _ => ", "

/-- What is written where there are no clauses of the kind. -/
def absent : Kind → String
  | .projection => "SELECT *"
  | _ => ""

/-- The section that lists some clauses of the kind. -/
def sectionText (k : Kind) (cs : List Clause) : String :=
  if cs.isEmpty then k.absent else k.opening ++ k.separator.intercalate (cs.map text)

/-- What no longer holds has no part in what holds later. -/
theorem keep_keep_append (k : Kind) (cs ds : List Clause) : k.keep (k.keep cs ++ ds) = k.keep (cs ++ ds) := by
  have hlast (o : Option Clause) : o.toList.getLast? = o := by cases o <;> rfl
  unfold keep
  split
  · rfl
  · rw [List.getLast?_append, List.getLast?_append, hlast]

end Kind

end Clause

open Clause (Kind)

namespace Select

/-- The clauses of one kind that the selection consists of. -/
def clausesOf (s : Select) : Kind → List Clause
  | .projection => s.projection.map .projection
  | .source => s.source.toList.map .source
  | .join => s.joins.map .join
  | .condition => s.conditions.map .condition
  | .group => s.groups.map .group
  | .groupCondition => s.groupConditions.map .groupCondition
  | .order => s.order.map .order
  | .limit => s.limit.toList.map .limit
  | .offset => s.offset.toList.map .offset

theorem keep_clausesOf (s : Select) (k : Kind) : k.keep (s.clausesOf k) = s.clausesOf k := by
  have hoption {α : Type} (f : α → Clause) (o : Option α) : (o.toList.map f).getLast?.toList = o.toList.map f := by
    cases o <;> rfl
  cases k with
  | source => exact hoption _ _
  | limit => exact hoption _ _
  | offset => exact hoption _ _
  | _ => rfl

theorem clausesOf_push_self (s : Select) (c : Clause) :
    (s.push c).clausesOf c.kind = c.kind.keep (s.clausesOf c.kind ++ [c]) := by
  cases c <;> simp [push, clausesOf, Clause.kind, Kind.keep, Kind.accumulates]

/-- A clause leaves alone what the selection holds of other kinds. -/
theorem clausesOf_push_of_ne (s : Select) {c : Clause} {k : Kind} (h : c.kind ≠ k) :
    (s.push c).clausesOf k = s.clausesOf k := by
  cases c <;> cases k <;> first | rfl | exact absurd rfl h

theorem clausesOf_foldl_push (s : Select) (cs : List Clause) (k : Kind) :
    (cs.foldl push s).clausesOf k = k.keep (s.clausesOf k ++ cs.filter fun c => c.kind = k) := by
  induction cs generalizing s with
  | nil => rw [List.filter_nil, List.append_nil, keep_clausesOf, List.foldl_nil]
  | cons c cs ih =>
    rw [List.foldl_cons, ih]
    by_cases hc : c.kind = k
    · subst hc
      rw [clausesOf_push_self, Kind.keep_keep_append, List.append_assoc, List.singleton_append,
        List.filter_cons_of_pos (by simp)]
    · rw [clausesOf_push_of_ne s hc, List.filter_cons_of_neg (by simpa using hc)]

theorem clausesOf_ofClauses (cs : List Clause) (k : Kind) : (ofClauses cs).clausesOf k = k.kept cs := by
  have hempty : empty.clausesOf k = [] := by cases k <;> rfl
  rw [ofClauses, clausesOf_foldl_push, hempty, List.nil_append, Kind.kept]

/-- No clause asks for distinct rows. -/
theorem distinct_foldl_push (s : Select) (cs : List Clause) : (cs.foldl push s).distinct = s.distinct := by
  induction cs generalizing s with
  | nil => rfl
  | cons c cs ih =>
    rw [List.foldl_cons, ih]
    cases c <;> rfl

theorem distinct_ofClauses (cs : List Clause) : (ofClauses cs).distinct = false := distinct_foldl_push empty cs

/-- A selection is told by its clauses, kind by kind. -/
theorem eq_of_clausesOf_eq {s t : Select} (hdistinct : s.distinct = t.distinct)
    (h : ∀ k, s.clausesOf k = t.clausesOf k) : s = t := by
  have hlist {α : Type} {f : α → Clause} {as bs : List α} (hf : ∀ a b, f a = f b → a = b)
      (hmap : as.map f = bs.map f) : as = bs := (List.map_inj_right hf).1 hmap
  have hoption {α : Type} {f : α → Clause} {o p : Option α} (hf : ∀ a b, f a = f b → a = b)
      (hmap : o.toList.map f = p.toList.map f) : o = p := by
    have hhead := congrArg List.head? (hlist hf hmap)
    rwa [Option.head?_toList, Option.head?_toList] at hhead
  cases s
  cases t
  rw [Select.mk.injEq]
  exact ⟨hdistinct, hlist (fun _ _ => Clause.projection.inj) (h .projection),
    hoption (fun _ _ => Clause.source.inj) (h .source), hlist (fun _ _ => Clause.join.inj) (h .join),
    hlist (fun _ _ => Clause.condition.inj) (h .condition), hlist (fun _ _ => Clause.group.inj) (h .group),
    hlist (fun _ _ => Clause.groupCondition.inj) (h .groupCondition),
    hlist (fun _ _ => Clause.order.inj) (h .order), hoption (fun _ _ => Clause.limit.inj) (h .limit),
    hoption (fun _ _ => Clause.offset.inj) (h .offset)⟩

/-- Two orders of pushing come to the same just if they agree on every kind alone. -/
theorem ofClauses_eq_ofClauses_iff {cs ds : List Clause} :
    ofClauses cs = ofClauses ds ↔ ∀ k : Kind, k.kept cs = k.kept ds := by
  constructor
  · intro heq k
    rw [← clausesOf_ofClauses, heq, clausesOf_ofClauses]
  · intro hkept
    apply eq_of_clausesOf_eq
    · rw [distinct_ofClauses, distinct_ofClauses]
    · intro k
      rw [clausesOf_ofClauses, clausesOf_ofClauses, hkept]

end Select

/-! ## Sections of the text -/

theorem Script.text_join (separator : Script) (parts : List Script) :
    (join separator parts).text = separator.text.intercalate (parts.map text) := by
  induction parts with
  | nil => rfl
  | cons s parts ih =>
    cases parts with
    | nil => rw [join, List.map_singleton, String.intercalate_singleton]
    | cons t parts =>
      have hjoin : join separator (s :: t :: parts) = s ++ separator ++ join separator (t :: parts) := rfl
      rw [hjoin, text_append, text_append, ih]
      simp only [List.map_cons, String.intercalate_cons_cons]

theorem text_numberScript (n : Nat) : (numberScript n).text = toString n := by
  have hchars : (numberScript n).chars = (toString n).toList := by
    rw [numberScript, Script.ofToken, Script.chars, List.flatMap_singleton]
    exact List.append_nil _
  rw [Script.text, hchars, String.ofList_toList]

theorem eq_map_of_cons {α β : Type} {f : List α → List β} {g : α → β} (hnil : f [] = [])
    (hcons : ∀ a as, f (a :: as) = g a :: f as) (as : List α) : f as = as.map g := by
  induction as with
  | nil => exact hnil
  | cons a as ih => rw [hcons, ih, List.map_cons]

theorem itemScripts_eq_map (is : List Item) : itemScripts is = is.map Item.script :=
  eq_map_of_cons rfl (fun _ _ => rfl) is

theorem scripts_eq_map (ts : List Term) : scripts ts = ts.map Term.script := eq_map_of_cons rfl (fun _ _ => rfl) ts

theorem conjuncts_eq_map (ts : List Term) :
    conjuncts ts = ts.map fun t => enclosed (t.isLoose (operatorRank .and) false) t.script :=
  eq_map_of_cons rfl (fun _ _ => rfl) ts

theorem sortScripts_eq_map (ks : List SortKey) : sortScripts ks = ks.map SortKey.script :=
  eq_map_of_cons rfl (fun _ _ => rfl) ks

namespace Clause

theorem Kind.sectionText_cons (k : Kind) (c : Clause) (cs : List Clause) :
    k.sectionText (c :: cs) = k.opening ++ k.separator.intercalate ((c :: cs).map text) := rfl

theorem Kind.sectionText_singleton (k : Kind) (c : Clause) : k.sectionText [c] = k.opening ++ c.text := by
  rw [sectionText_cons, List.map_singleton, String.intercalate_singleton]

theorem Kind.text_join_map {k : Kind} {separator : Script} (hseparator : separator.text = k.separator) {α : Type}
    {clause : α → Clause} {script : α → Script} (htext : ∀ a, (clause a).text = (script a).text) (as : List α) :
    (Script.join separator (as.map script)).text = k.separator.intercalate ((as.map clause).map text) := by
  have htexts : (as.map script).map Script.text = (as.map clause).map text := by
    rw [List.map_map, List.map_map]
    exact List.map_congr_left fun a _ => (htext a).symm
  rw [Script.text_join, hseparator, htexts]

/-- The section of a kind that is written only where there are clauses of it. -/
theorem Kind.text_clauseOf {k : Kind} (habsent : k.absent = "") {words : List String}
    (hopening : (spaced words).text = k.opening) {separator : Script} (hseparator : separator.text = k.separator)
    {α : Type} {clause : α → Clause} {script : α → Script} (htext : ∀ a, (clause a).text = (script a).text)
    (as : List α) :
    (Select.script.clauseOf words separator (as.map script)).text = k.sectionText (as.map clause) := by
  cases as with
  | nil => exact habsent.symm
  | cons a as =>
    have hclause : Select.script.clauseOf words separator ((a :: as).map script) =
        spaced words ++ Script.join separator ((a :: as).map script) := rfl
    rw [hclause, Script.text_append, hopening, text_join_map hseparator htext]
    rfl

theorem text_script_join (j : Join) : j.script.text = " " ++ (Clause.join j).text := by
  have hleft : (spaced ["LEFT", "JOIN"]).text = " " ++ "LEFT JOIN " := by decide
  have hon : " ON (" = (spaced ["ON"]).text ++ (Script.ofSymbol .leftParen).text := by decide
  have hright : ")" = (Script.ofSymbol .rightParen).text := by decide
  obtain ⟨relation, condition⟩ := j
  rw [Join.script, Clause.text, hon, hright]
  simp only [Script.parenthesized, Script.text_append, hleft, String.append_assoc]

theorem text_joinScripts (js : List Join) :
    Script.text (joinScripts js).flatten = Kind.join.sectionText (js.map .join) := by
  induction js with
  | nil => rfl
  | cons j js ih =>
    rw [joinScripts, List.flatten_cons, Script.text_append, text_script_join, ih, List.map_cons]
    cases js with
    | nil =>
      rw [List.map_nil, Kind.sectionText_singleton]
      exact String.append_empty
    | cons _ js =>
      rw [List.map_cons, Kind.sectionText_cons, Kind.sectionText_cons]
      simp only [List.map_cons, String.intercalate_cons_cons, String.append_assoc]
      rfl

theorem text_sourceScript (source : Option Relation) :
    (sourceScript source).text = Kind.source.sectionText (source.toList.map .source) := by
  cases source with
  | none => rfl
  | some relation =>
    have hword : (spaced ["FROM"]).text = " FROM " := by decide
    rw [sourceScript, Script.text_append, hword]
    exact (Kind.sectionText_singleton .source (.source relation)).symm

/-- The section of a kind whose clauses are numbers. -/
theorem text_numberOf {k : Kind} {words : List String} (habsent : k.absent = "")
    (hopening : (spaced words).text = k.opening) {clause : Nat → Clause} (htext : ∀ n, (clause n).text = toString n)
    (count : Option Nat) :
    (Select.script.numberOf words count).text = k.sectionText (count.toList.map clause) := by
  cases count with
  | none => exact habsent.symm
  | some n =>
    rw [Select.script.numberOf, Script.text_append, hopening, text_numberScript, ← htext]
    exact (k.sectionText_singleton (clause n)).symm

theorem text_projection (projection : List Item) :
    (Script.ofWords ["SELECT"] ++ Script.blank ++
      (if projection.isEmpty then Script.ofSymbol .mul
        else Script.join Script.commaBlank (itemScripts projection))).text =
      Kind.projection.sectionText (projection.map .projection) := by
  have hword : (Script.ofWords ["SELECT"] ++ Script.blank).text = "SELECT " := by decide
  have hcomma : Script.commaBlank.text = Kind.projection.separator := by decide
  have htext (item : Item) : (Clause.projection item).text = item.script.text := rfl
  cases projection with
  | nil => decide
  | cons item projection =>
    rw [List.isEmpty_cons, if_neg Bool.false_ne_true, Script.text_append, hword, itemScripts_eq_map,
      Kind.text_join_map hcomma htext]
    rfl

theorem text_conditions (ts : List Term) :
    (Select.script.clauseOf ["WHERE"] (spaced ["AND"]) (conjuncts ts)).text =
      Kind.condition.sectionText (ts.map .condition) := by
  rw [conjuncts_eq_map]
  exact Kind.text_clauseOf rfl (by decide) (by decide) (fun _ => rfl) ts

theorem text_groups (ts : List Term) :
    (Select.script.clauseOf ["GROUP", "BY"] Script.commaBlank (scripts ts)).text =
      Kind.group.sectionText (ts.map .group) := by
  rw [scripts_eq_map]
  exact Kind.text_clauseOf rfl (by decide) (by decide) (fun _ => rfl) ts

theorem text_groupConditions (ts : List Term) :
    (Select.script.clauseOf ["HAVING"] (spaced ["AND"]) (conjuncts ts)).text =
      Kind.groupCondition.sectionText (ts.map .groupCondition) := by
  rw [conjuncts_eq_map]
  exact Kind.text_clauseOf rfl (by decide) (by decide) (fun _ => rfl) ts

theorem text_order (ks : List SortKey) :
    (Select.script.clauseOf ["ORDER", "BY"] Script.commaBlank (sortScripts ks)).text =
      Kind.order.sectionText (ks.map .order) := by
  rw [sortScripts_eq_map]
  exact Kind.text_clauseOf rfl (by decide) (by decide) (fun _ => rfl) ks

theorem text_limit (limit : Option Nat) :
    (Select.script.numberOf ["LIMIT"] limit).text = Kind.limit.sectionText (limit.toList.map .limit) :=
  text_numberOf rfl (by decide) (fun _ => rfl) limit

theorem text_offset (offset : Option Nat) :
    (Select.script.numberOf ["OFFSET"] offset).text = Kind.offset.sectionText (offset.toList.map .offset) :=
  text_numberOf rfl (by decide) (fun _ => rfl) offset

end Clause

namespace Select

open Clause in
/-- The text of a selection is one section for each kind of clause, in their fixed order. -/
theorem text_eq_join {s : Select} (h : s.distinct = false) :
    (Query.select s).text = String.join (Kind.inOrder.map fun k => k.sectionText (s.clausesOf k)) := by
  obtain ⟨_, projection, source, joins, conditions, groups, groupConditions, order, limit, offset⟩ := s
  obtain rfl := h
  simp only [Kind.inOrder, List.map_cons, List.map_nil, String.join_cons, String.join_nil, String.append_empty, clausesOf,
    ← text_projection, ← text_sourceScript, ← text_joinScripts, ← text_conditions, ← text_groups,
    ← text_groupConditions, ← text_order, ← text_limit, ← text_offset, ← Script.text_append]
  rw [Query.text, Query.script, script, if_neg Bool.false_ne_true, List.append_nil]
  simp only [List.append_assoc]

/-- Two lists of clauses that agree kind by kind make the same selection, with the same text; and that text is the
concatenation of a section for each kind, with all clauses of it that hold, in the order in which they were pushed. -/
theorem ofClauses_eq_of_kept_eq {cs ds : List Clause} (h : ∀ k : Kind, k.kept cs = k.kept ds) :
    ofClauses cs = ofClauses ds ∧
      (Query.select (ofClauses cs)).text = (Query.select (ofClauses ds)).text ∧
      (Query.select (ofClauses cs)).text = String.join (Kind.inOrder.map fun k => k.sectionText (k.kept cs)) := by
  have heq : ofClauses cs = ofClauses ds := ofClauses_eq_ofClauses_iff.2 h
  refine ⟨heq, congrArg (fun s => (Query.select s).text) heq, ?_⟩
  rw [text_eq_join (distinct_ofClauses cs)]
  simp only [clausesOf_ofClauses]

/-- Conditions, tables and limits, pushed here and there. -/
def scatteredClauses : List Clause :=
  let user := Term.column none (.builtIn .user)
  [.limit 5, .condition (.isNotNull user), .source (.table [.builtIn .collection] none), .order ⟨user, .asc⟩,
    .condition (.binary (.isNull user) .or (.not user)), .limit 10, .projection ⟨user, none⟩,
    .source (.table [.builtIn .users] none)]

/-- The same clauses kind by kind, but for a limit and a table that do not hold. -/
def sortedClauses : List Clause :=
  let user := Term.column none (.builtIn .user)
  [.projection ⟨user, none⟩, .source (.table [.builtIn .users] none), .condition (.isNotNull user),
    .condition (.binary (.isNull user) .or (.not user)), .order ⟨user, .asc⟩, .limit 10]

theorem ofClauses_eq_of_kept_eq_scatteredClauses :
    (∀ k : Kind, k.kept scatteredClauses = k.kept sortedClauses) ∧
      ofClauses scatteredClauses = ofClauses sortedClauses ∧
      (Query.select (ofClauses scatteredClauses)).text =
        "SELECT _user FROM users WHERE _user IS NOT NULL AND (_user IS NULL OR NOT _user) " ++
          "ORDER BY _user ASC LIMIT 10" := by
  have hkept (k : Kind) : k.kept scatteredClauses = k.kept sortedClauses := by cases k <;> rfl
  obtain ⟨heq, _, hsections⟩ := ofClauses_eq_of_kept_eq hkept
  refine ⟨hkept, heq, ?_⟩
  rw [hsections]
  decide +kernel

end Select

end Cohort.Sql
