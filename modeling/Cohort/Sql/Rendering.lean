import Cohort.Number.Decimal
import Cohort.Sql.Query
import Cohort.Sql.Token

/-!
# The text of queries

A query is written as a script, from its tree alone; its text is the text of the script. Terms are put into
parentheses where they bind more loosely than what they stand in, and where two of equal strength would be read in
another way.
-/

namespace Cohort

namespace Double

/-- A finite number; others are written as null. -/
def script (x : Double) : Sql.Script :=
  if x.isFinite then
    match x.text.toList with
    | '-' :: digits => [some (.symbol .minus), some (.number (String.ofList digits) false)]
    | digits => [some (.number (String.ofList digits) false)]
  else Sql.Script.ofWords ["NULL"]

end Double

namespace Literal

def integerScript (i : Int) : Sql.Script :=
  if i < 0 then [some (.symbol .minus), some (.number (toString i.natAbs) false)]
  else [some (.number (toString i.natAbs) false)]

def script : Literal → Sql.Script
  | .null => Sql.Script.ofWords ["NULL"]
  | .boolean true => Sql.Script.ofWords ["TRUE"]
  | .boolean false => Sql.Script.ofWords ["FALSE"]
  | .integer i => integerScript i
  | .decimal x => x.script
  | .string s => Sql.Script.ofToken (.string s)

end Literal

namespace Operator

def isComparison : Operator → Bool
  | .eq | .notEq | .lt | .ltEq | .gt | .gtEq => true
  | _ => false

/-- The token of the operator. -/
def token : Operator → Sql.Token
  | .eq => .symbol .eq
  | .notEq => .symbol .neq
  | .lt => .symbol .lt
  | .ltEq => .symbol .ltEq
  | .gt => .symbol .gt
  | .gtEq => .symbol .gtEq
  | .plus => .symbol .plus
  | .minus => .symbol .minus
  | .multiply => .symbol .mul
  | .divide => .symbol .div
  | .modulo => .symbol .mod
  | .and => .plain "AND"
  | .or => .plain "OR"

end Operator

namespace Sql

open Script

/-- The strength of a test or comparison. -/
def testRank : Nat := 4

/-- How tightly an operator binds; a higher rank binds more tightly. -/
def operatorRank : Operator → Nat
  | .or => 1
  | .and => 2
  | .eq | .notEq | .lt | .ltEq | .gt | .gtEq => testRank
  | .plus | .minus => 5
  | .multiply | .divide | .modulo => 6

namespace Term

def rank : Term → Nat
  | .binary _ op _ => operatorRank op
  | .not _ => 3
  | .isNull _ | .isNotNull _ | .inList .. | .inQuery .. | .like .. | .between .. => testRank
  | _ => 10

/-- Whether the term needs parentheses inside something of the given rank; `strict` says that those of the same rank
do. -/
def isLoose (t : Term) (outer : Nat) (strict : Bool) : Bool := t.rank < outer || (strict && t.rank == outer)

end Term

/-- The script, in parentheses if that is so. -/
def enclosed (parentheses : Bool) (s : Script) : Script := if parentheses then s.parenthesized else s

namespace Identifier

def script : Identifier → Script
  | .checked name _ => ofToken (.word name (some '"'))
  | .builtIn b => ofToken (.plain b.text)

/-- Identifiers with periods between them. -/
def path (parts : List Identifier) : Script := join (ofSymbol .period) (parts.map script)

/-- The other name of something, if it has one. -/
def aliasScript : Option Identifier → Script
  | none => []
  | some i => blank ++ ofWords ["AS"] ++ blank ++ i.script

end Identifier

/-- Words with blanks around them. -/
def spaced (words : List String) : Script := blank ++ ofWords words ++ blank

/-- The beginning of a test that may be negated. -/
def testWords (negated : Bool) (words : List String) : Script :=
  blank ++ ofWords (if negated then "NOT" :: words else words) ++ blank

def numberScript (n : Nat) : Script := ofToken (.number (toString n) false)

mutual

/-- The script of a term. -/
def Term.script : Term → Script
  | .column none name => name.script
  | .column (some relation) name => relation.script ++ ofSymbol .period ++ name.script
  | .reference parts => Identifier.path parts
  | .literal value => value.script
  | .timestamp t =>
    ofWords ["CAST"] ++
      parenthesized (ofToken (.string t.queryText) ++ spaced ["AS"] ++ ofWords ["timestamp"])
  | .coalesce args => ofWords ["coalesce"] ++ parenthesized (join commaBlank (scripts args))
  | .aggregate f arg =>
    ofWords [f.queryName] ++
      parenthesized ((if f = .countUnique then ofWords ["DISTINCT"] ++ blank else []) ++ arg.script)
  | .binary left op right =>
    enclosed (left.isLoose (operatorRank op) (op.isComparison)) left.script ++
      blank ++ ofToken op.token ++ blank ++
      enclosed (right.isLoose (operatorRank op) (!op.isLogical)) right.script
  | .not t => ofWords ["NOT"] ++ blank ++ enclosed (t.isLoose 3 false) t.script
  | .isNull t => enclosed (t.isLoose testRank true) t.script ++ blank ++ ofWords ["IS", "NULL"]
  | .isNotNull t => enclosed (t.isLoose testRank true) t.script ++ blank ++ ofWords ["IS", "NOT", "NULL"]
  | .inList t items negated =>
    enclosed (t.isLoose testRank true) t.script ++ testWords negated ["IN"] ++
      parenthesized (join commaBlank (scripts items))
  | .inQuery t query =>
    enclosed (t.isLoose testRank true) t.script ++ testWords false ["IN"] ++ parenthesized query.script
  | .like t pattern negated =>
    enclosed (t.isLoose testRank true) t.script ++ testWords negated ["LIKE"] ++
      enclosed (pattern.isLoose testRank true) pattern.script
  | .between t low high negated =>
    enclosed (t.isLoose testRank true) t.script ++ testWords negated ["BETWEEN"] ++
      enclosed (low.isLoose testRank true) low.script ++ spaced ["AND"] ++
      enclosed (high.isLoose testRank true) high.script

/-- The script of each term. -/
def scripts : List Term → List Script
  | [] => []
  | t :: ts => t.script :: scripts ts

/-- The script of each term as part of a conjunction. -/
def conjuncts : List Term → List Script
  | [] => []
  | t :: ts => enclosed (t.isLoose (operatorRank .and) false) t.script :: conjuncts ts

def Item.script : Item → Script
  | ⟨term, label⟩ => term.script ++ Identifier.aliasScript label

def itemScripts : List Item → List Script
  | [] => []
  | i :: is => i.script :: itemScripts is

def Relation.script : Relation → Script
  | .table name label => Identifier.path name ++ Identifier.aliasScript label
  | .subquery query label => parenthesized query.script ++ Identifier.aliasScript label

def sourceScript : Option Relation → Script
  | none => []
  | some r => spaced ["FROM"] ++ r.script

def Join.script : Join → Script
  | ⟨relation, condition⟩ =>
    spaced ["LEFT", "JOIN"] ++ relation.script ++ spaced ["ON"] ++ parenthesized condition.script

def joinScripts : List Join → List Script
  | [] => []
  | j :: js => j.script :: joinScripts js

def SortKey.script : SortKey → Script
  | ⟨term, direction⟩ => term.script ++ blank ++ ofWords [direction.keyword]

def sortScripts : List SortKey → List Script
  | [] => []
  | k :: ks => k.script :: sortScripts ks

/-- The clauses in their fixed order, each with a blank before it. -/
def Select.script : Select → Script
  | ⟨distinct, projection, source, joins, conditions, groups, groupConditions, order, limit, offset⟩ =>
    ofWords ["SELECT"] ++ blank ++ (if distinct then ofWords ["DISTINCT"] ++ blank else []) ++
      (if projection.isEmpty then ofSymbol .mul else join commaBlank (itemScripts projection)) ++
      sourceScript source ++ (joinScripts joins).flatten ++
      clauseOf ["WHERE"] (spaced ["AND"]) (conjuncts conditions) ++
      clauseOf ["GROUP", "BY"] commaBlank (scripts groups) ++
      clauseOf ["HAVING"] (spaced ["AND"]) (conjuncts groupConditions) ++
      clauseOf ["ORDER", "BY"] commaBlank (sortScripts order) ++
      numberOf ["LIMIT"] limit ++ numberOf ["OFFSET"] offset
where
  /-- The parts of a section after its words, if there are any. -/
  clauseOf (words : List String) (separator : Script) (parts : List Script) : Script :=
    if parts.isEmpty then [] else spaced words ++ join separator parts
  numberOf (words : List String) : Option Nat → Script
    | none => []
    | some n => spaced words ++ numberScript n

def Query.script : Query → Script
  | .select s => s.script
  | .unionAll branches => join (spaced ["UNION", "ALL"]) (queryScripts branches)

def queryScripts : List Query → List Script
  | [] => []
  | q :: qs => q.script :: queryScripts qs

end

/-- The text of a term. -/
def Term.text (t : Term) : String := t.script.text

/-- The text of a query. -/
def Query.text (q : Query) : String := q.script.text

end Sql

end Cohort
