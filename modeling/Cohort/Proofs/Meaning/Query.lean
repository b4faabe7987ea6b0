import Cohort.Proofs.Meaning.Cell
import Cohort.Sql.Query

/-!
# The meaning of queries

What rows a query has over the tables of a database. The rows of the source are extended by the joins and filtered by
the conditions; if the query groups, each group of rows makes one row if the conditions on groups hold. A condition
keeps what it is true of, not what it is unknown of. Terms read columns by the innermost relation that has them; a
column that no relation has reads as null.
-/

namespace Cohort

abbrev Row := List Cell

structure Table where
  columns : List String
  rows : List Row

/-- The value of a row in a column; null if there is none. -/
def Table.cell (t : Table) (row : Row) (name : String) : Cell := ((t.columns.zip row).lookup name).getD .null

/-- The tables by their names, which may have a schema. -/
abbrev Database := List String → Table

/-- A row of a relation under the name of the relation. -/
structure Binding where
  label : String
  columns : List String
  row : Row
  deriving DecidableEq

/-- The rows that terms may refer to, the innermost first. -/
abbrev Scope := List Binding

namespace Scope

/-- The value of a column, of the given relation if there is one. -/
def cell (s : Scope) (relation : Option String) (name : String) : Cell :=
  match s.find? fun b => relation.all (· == b.label) && b.columns.contains name with
  | some b => Table.cell ⟨b.columns, [b.row]⟩ b.row name
  | none => .null

/-- The value of a column by its own name or with that of its relation. -/
def path (s : Scope) : List String → Cell
  | [name] => s.cell none name
  | [relation, name] => s.cell (some relation) name
  | _ => .null

end Scope

namespace Sql

def Identifier.text : Identifier → String
  | .checked name _ => name
  | .builtIn b => b.text

/-- The name of a column of the result. -/
def Item.name : Item → String
  | ⟨_, some label⟩ => label.text
  | ⟨.column _ name, none⟩ => name.text
  | ⟨.reference parts, none⟩ => (parts.getLast?.map Identifier.text).getD ""
  | ⟨_, none⟩ => ""

mutual

/-- Whether the term takes an aggregate of a group. -/
def Term.hasAggregate : Term → Bool
  | .aggregate _ _ => true
  | .coalesce args => haveAggregate args
  | .binary l _ r => l.hasAggregate || r.hasAggregate
  | .not t => t.hasAggregate
  | .isNull t => t.hasAggregate
  | .isNotNull t => t.hasAggregate
  | .inList t items _ => t.hasAggregate || haveAggregate items
  | .inQuery t _ => t.hasAggregate
  | .like t pattern _ => t.hasAggregate || pattern.hasAggregate
  | .between t low high _ => t.hasAggregate || low.hasAggregate || high.hasAggregate
  | _ => false

def haveAggregate : List Term → Bool
  | [] => false
  | t :: ts => t.hasAggregate || haveAggregate ts

end

/-- The rows that make one row of the result, and those that its aggregates are taken over. -/
structure Group where
  own : Scope
  members : List Scope

/-- The groups of scopes with the same key; without keys, all scopes are one group. -/
def groupsBy (keyed : Bool) (key : Scope → List Cell) (scopes : List Scope) : List Group :=
  let keys := if keyed then (scopes.map key).dedup else [[]]
  keys.map fun k =>
    let members := if keyed then scopes.filter fun s => key s = k else scopes
    ⟨members.headD [], members⟩

/-- Whether a row with the first keys may stand before one with the second. Nulls come last. -/
def mayPrecede (e : Dialect) : List Direction → List Cell → List Cell → Bool
  | d :: ds, a :: as, b :: bs =>
    if a = b then mayPrecede e ds as bs
    else if b = .null then true
    else if a = .null then false
    else
      match e.order a b, d with
      | some .lt, .asc => true
      | some .gt, .desc => true
      | some .eq, _ => mayPrecede e ds as bs
      | _, _ => false
  | _, _, _ => true

section

variable (e : Dialect) (d : Database)

mutual

/-- The value of a term for a row, and for the group that the row stands for. -/
def Term.value : Term → Scope → List Scope → Cell
  | .column relation name, s, _ => s.cell (relation.map Identifier.text) name.text
  | .reference parts, s, _ => s.path (parts.map Identifier.text)
  | .literal v, _, _ => .ofLiteral v
  | .timestamp t, _, _ => e.timestamp t.queryText
  | .coalesce args, s, members => Dialect.coalesce (values args s members)
  | .aggregate f arg, _, members => e.aggregate f (members.map fun s => arg.value s [])
  | .binary l op r, s, members => e.binary op (l.value s members) (r.value s members)
  | .not t, s, members => Dialect.not (t.value s members)
  | .isNull t, s, members => .boolean (t.value s members = .null)
  | .isNotNull t, s, members => .boolean (t.value s members ≠ .null)
  | .inList t items negated, s, members =>
    Dialect.tested negated (e.isIn (t.value s members) (values items s members))
  | .inQuery t q, s, members => e.isIn (t.value s members) ((q.table s).rows.map fun row => row.headD .null)
  | .like t pattern negated, s, members => Dialect.tested negated (e.like (t.value s members) (pattern.value s members))
  | .between t low high negated, s, members =>
    Dialect.tested negated (e.between (t.value s members) (low.value s members) (high.value s members))

def values : List Term → Scope → List Scope → List Cell
  | [], _, _ => []
  | t :: ts, s, members => t.value s members :: values ts s members

/-- All of the conditions are true. -/
def holdAll : List Term → Scope → List Scope → Bool
  | [], _, _ => true
  | t :: ts, s, members => t.value s members = .boolean true && holdAll ts s members

def Item.value : Item → Scope → List Scope → Cell
  | ⟨term, _⟩, s, members => term.value s members

def itemValues : List Item → Scope → List Scope → List Cell
  | [], _, _ => []
  | i :: is, s, members => i.value s members :: itemValues is s members

/-- The table of a relation with the name that the relation goes by. -/
def Relation.named : Relation → Scope → String × Table
  | .table name label, _ => (((label <|> name.getLast?).map Identifier.text).getD "", d (name.map Identifier.text))
  | .subquery q label, outer => ((label.map Identifier.text).getD "", q.table outer)

/-- The rows of the source, one for each row of the result if there is none. -/
def sourceScopes : Option Relation → Scope → List Scope
  | none, _ => [[]]
  | some r, outer =>
    let (label, t) := r.named outer
    t.rows.map fun row => [⟨label, t.columns, row⟩]

/-- A row with every row of the relation that the condition is true of, or with nulls if it is true of none. -/
def Join.extend : Join → Scope → Scope → List Scope
  | ⟨relation, condition⟩, outer, s =>
    let (label, t) := relation.named outer
    let extended := (t.rows.map fun row => s ++ [⟨label, t.columns, row⟩]).filter fun s' =>
      condition.value (s' ++ outer) [] = .boolean true
    if extended.isEmpty then [s ++ [⟨label, t.columns, []⟩]] else extended

def joinedScopes : List Join → Scope → List Scope → List Scope
  | [], _, scopes => scopes
  | j :: js, outer, scopes => joinedScopes js outer (scopes.flatMap (j.extend outer))

def sortValues : List SortKey → Scope → List Scope → List Cell
  | [], _, _ => []
  | ⟨term, _⟩ :: ks, s, members => term.value s members :: sortValues ks s members

/-- The table of a selection inside a scope. -/
def Select.table : Select → Scope → Table
  | ⟨distinct, projection, source, joins, conditions, groups, groupConditions, order, limit, offset⟩, outer =>
    let scopes := joinedScopes joins outer (sourceScopes source outer)
    let kept := scopes.filter fun s => holdAll conditions (s ++ outer) []
    let grouped : List Group :=
      if !groups.isEmpty || !groupConditions.isEmpty || projection.any fun i => i.term.hasAggregate then
        groupsBy (!groups.isEmpty) (fun s => values groups (s ++ outer) []) kept
      else kept.map fun s => ⟨s, []⟩
    let answering := grouped.filter fun g =>
      holdAll groupConditions (g.own ++ outer) (g.members.map (· ++ outer))
    let sorted := (answering.map fun g =>
      (if projection.isEmpty then g.own.flatMap Binding.row
        else itemValues projection (g.own ++ outer) (g.members.map (· ++ outer)),
      sortValues order (g.own ++ outer) (g.members.map (· ++ outer)))).mergeSort
        fun a b => mayPrecede e (order.map SortKey.direction) a.2 b.2
    let rows := if distinct then (sorted.map Prod.fst).dedup else sorted.map Prod.fst
    let rest := rows.drop (offset.getD 0)
    { columns := if projection.isEmpty then (scopes.headD []).flatMap Binding.columns else projection.map Item.name
      rows := match limit with
        | none => rest
        | some n => rest.take n }

/-- The table of a query inside a scope. -/
def Query.table : Query → Scope → Table
  | .select s, outer => s.table outer
  | .unionAll branches, outer => unionTable branches outer

/-- The rows of all branches under the names of the first. -/
def unionTable : List Query → Scope → Table
  | [], _ => ⟨[], []⟩
  | [q], outer => q.table outer
  | q :: qs, outer => ⟨(q.table outer).columns, (q.table outer).rows ++ (unionTable qs outer).rows⟩

end

end

theorem lookup_zip_eq_none {columns : List String} {row : Row} {name : String} (h : name ∉ columns) :
    (columns.zip row).lookup name = none := by
  rw [List.lookup_eq_none_iff]
  intro p hp
  rw [bne_iff_ne]
  rintro rfl
  exact h (List.of_mem_zip hp).1

/-- In the scope of one row, a column reads as the row has it. -/
theorem cell_single {label : String} (t : Table) (row : Row) {relation : Option String} (name : String)
    (h : relation.all (· == label) = true) :
    Scope.cell [⟨label, t.columns, row⟩] relation name = t.cell row name := by
  unfold Scope.cell
  by_cases hname : name ∈ t.columns
  · rw [List.find?_cons_of_pos (by simp [h, hname])]
    rfl
  · rw [List.find?_cons_of_neg (by simp [hname]), List.find?_nil]
    unfold Table.cell
    rw [lookup_zip_eq_none hname]
    rfl

/-! ## Rows of queries -/

section

variable (e : Dialect) (d : Database) (s : Select) (outer : Scope)

/-- The rows that the conditions keep. -/
def Select.kept : List Scope :=
  (joinedScopes e d s.joins outer (sourceScopes e d s.source outer)).filter fun own =>
    holdAll e d s.conditions (own ++ outer) []

/-- Whether rows are taken together. -/
def Select.isGrouped : Bool := !s.groups.isEmpty || !s.groupConditions.isEmpty || s.projection.any fun i => i.term.hasAggregate

def Select.grouped : List Group :=
  if s.isGrouped then groupsBy (!s.groups.isEmpty) (fun own => values e d s.groups (own ++ outer) []) (s.kept e d outer)
  else (s.kept e d outer).map fun own => ⟨own, []⟩

/-- The group has a row in the result. -/
def Select.Answers (g : Group) : Prop :=
  holdAll e d s.groupConditions (g.own ++ outer) (g.members.map (· ++ outer)) = true

/-- The row of the group. -/
def Select.answer (g : Group) : Row :=
  if s.projection.isEmpty then g.own.flatMap Binding.row
  else itemValues e d s.projection (g.own ++ outer) (g.members.map (· ++ outer))

variable {e d s outer}

/-- Where no rows are cut off, each row is that of a group; order and repetition do not matter. -/
theorem mem_rows_table_iff (hlimit : s.limit = none) (hoffset : s.offset = none) {row : Row} :
    row ∈ (s.table e d outer).rows ↔ ∃ g ∈ s.grouped e d outer, s.Answers e d outer g ∧ row = s.answer e d outer g := by
  obtain ⟨distinct, projection, source, joins, conditions, groups, groupConditions, order, limit, offset⟩ := s
  cases hlimit
  cases hoffset
  rw [Select.table]
  have hdistinct (rows : List Row) : (row ∈ if distinct then rows.dedup else rows) ↔ row ∈ rows := by
    cases distinct with
    | false => exact Iff.rfl
    | true => exact List.mem_dedup
  simp only [Option.getD_none, List.drop_zero]
  rw [hdistinct]
  simp only [List.mem_map, List.mem_mergeSort, List.mem_filter]
  constructor
  · rintro ⟨_, ⟨g, ⟨hg, hanswers⟩, rfl⟩, rfl⟩
    exact ⟨g, hg, hanswers, rfl⟩
  · rintro ⟨g, hg, hanswers, rfl⟩
    exact ⟨_, ⟨g, ⟨hg, hanswers⟩, rfl⟩, rfl⟩

/-- The columns of a query that names them. -/
theorem columns_table (hne : s.projection ≠ []) : (s.table e d outer).columns = s.projection.map Item.name := by
  obtain ⟨distinct, projection, source, joins, conditions, groups, groupConditions, order, limit, offset⟩ := s
  exact if_neg (mt List.isEmpty_iff.1 hne)

theorem kept_eq_filter (hjoins : s.joins = []) :
    s.kept e d outer =
      (sourceScopes e d s.source outer).filter fun own => holdAll e d s.conditions (own ++ outer) [] := by
  unfold Select.kept
  rw [hjoins]
  rfl

end

section

variable {e : Dialect} {d : Database} {outer : Scope}

theorem mem_rows_unionTable_iff {qs : List Query} {row : Row} :
    row ∈ (unionTable e d qs outer).rows ↔ ∃ q ∈ qs, row ∈ (q.table e d outer).rows := by
  induction qs with
  | nil => exact iff_of_false List.not_mem_nil fun ⟨_, h, _⟩ => nomatch h
  | cons q qs ih =>
    rw [List.exists_mem_cons_iff, ← ih]
    cases qs with
    | nil => exact (or_iff_left List.not_mem_nil).symm
    | cons other qs => exact List.mem_append

/-- A union has the columns that all of its branches have. -/
theorem columns_unionTable {qs : List Query} {columns : List String} (hne : qs ≠ [])
    (h : ∀ q ∈ qs, (q.table e d outer).columns = columns) : (unionTable e d qs outer).columns = columns := by
  match qs, hne with
  | [q], _ => exact h q List.mem_cons_self
  | q :: _ :: _, _ => exact h q List.mem_cons_self

end

variable {key : Scope → List Cell} {scopes : List Scope} {g : Group}

/-- A group consists of all rows with the key of one of them, which stands for the group. -/
theorem mem_groupsBy_true_iff :
    g ∈ groupsBy true key scopes ↔
      ∃ own ∈ scopes, g = ⟨(scopes.filter fun s => key s = key own).headD [], scopes.filter fun s => key s = key own⟩ := by
  simp only [groupsBy, if_true, List.mem_map, List.mem_dedup]
  constructor
  · rintro ⟨_, ⟨own, hown, rfl⟩, rfl⟩
    exact ⟨own, hown, rfl⟩
  · rintro ⟨own, hown, rfl⟩
    exact ⟨_, ⟨own, hown, rfl⟩, rfl⟩

end Sql

end Cohort
