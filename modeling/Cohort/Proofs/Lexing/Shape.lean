import Cohort.Proofs.Lexing.Slots

/-!
# Queries of one shape

The shape of a query is the query with one name in place of all names from outside and one string in place of all
strings. Whatever names and strings callers supply, the text of a query consists of the tokens that its tree
determines, and queries of one shape differ in nothing but the names and strings themselves.
-/

namespace Cohort

open Sql

def Literal.shape : Literal → Literal
  | .string _ => .string ""
  | v => v

namespace Sql

def Identifier.shape : Identifier → Identifier
  | .checked _ _ => .checked "x" (by decide)
  | .builtIn b => .builtIn b

mutual

/-- The term with one name and one string in place of those from outside. -/
def Term.shape : Term → Term
  | .column relation name => .column (relation.map Identifier.shape) name.shape
  | .reference parts => .reference (parts.map Identifier.shape)
  | .literal value => .literal value.shape
  | .timestamp t => .timestamp t
  | .coalesce args => .coalesce (shapes args)
  | .aggregate f arg => .aggregate f arg.shape
  | .binary left op right => .binary left.shape op right.shape
  | .not t => .not t.shape
  | .isNull t => .isNull t.shape
  | .isNotNull t => .isNotNull t.shape
  | .inList t items negated => .inList t.shape (shapes items) negated
  | .inQuery t query => .inQuery t.shape query.shape
  | .like t pattern negated => .like t.shape pattern.shape negated
  | .between t low high negated => .between t.shape low.shape high.shape negated

def shapes : List Term → List Term
  | [] => []
  | t :: ts => t.shape :: shapes ts

def Item.shape : Item → Item
  | ⟨term, label⟩ => ⟨term.shape, label.map Identifier.shape⟩

def itemShapes : List Item → List Item
  | [] => []
  | i :: is => i.shape :: itemShapes is

def Relation.shape : Relation → Relation
  | .table name label => .table (name.map Identifier.shape) (label.map Identifier.shape)
  | .subquery query label => .subquery query.shape (label.map Identifier.shape)

def sourceShape : Option Relation → Option Relation
  | none => none
  | some r => some r.shape

def Join.shape : Join → Join
  | ⟨relation, condition⟩ => ⟨relation.shape, condition.shape⟩

def joinShapes : List Join → List Join
  | [] => []
  | j :: js => j.shape :: joinShapes js

def SortKey.shape : SortKey → SortKey
  | ⟨term, direction⟩ => ⟨term.shape, direction⟩

def sortShapes : List SortKey → List SortKey
  | [] => []
  | k :: ks => k.shape :: sortShapes ks

def Select.shape : Select → Select
  | ⟨distinct, projection, source, joins, conditions, groups, groupConditions, order, limit, offset⟩ =>
    ⟨distinct, itemShapes projection, sourceShape source, joinShapes joins, shapes conditions, shapes groups,
      shapes groupConditions, sortShapes order, limit, offset⟩

def Query.shape : Query → Query
  | .select s => .select s.shape
  | .unionAll branches => .unionAll (branchShapes branches)

def branchShapes : List Query → List Query
  | [] => []
  | q :: qs => q.shape :: branchShapes qs

end

namespace Slot

/-- The slot without any text from outside. -/
def mask : Slot → Slot
  | .name _ => .name ""
  | .content _ => .content ""
  | s => s

@[simp] theorem map_mask_enclosed (parentheses : Bool) (slots : List Slot) :
    (enclosed parentheses slots).map mask = enclosed parentheses (slots.map mask) := by
  cases parentheses with
  | false => rfl
  | true => simp [enclosed, mask]

@[simp] theorem map_mask_commas (parts : List (List Slot)) :
    (commas parts).map mask = commas (parts.map (·.map mask)) :=
  map_intercalate mask ..

@[simp] theorem map_mask_clause (ws : List String) (separator : Slot) (parts : List (List Slot)) :
    (clause ws separator parts).map mask = clause ws separator.mask (parts.map (·.map mask)) := by
  cases parts with
  | nil => rfl
  | cons s parts => simp [clause, map_intercalate, words, Function.comp_def, mask]

end Slot

theorem Identifier.mask_slot_shape (i : Identifier) : i.shape.slot.mask = i.slot.mask := by cases i <;> rfl

theorem Identifier.pathSlots_shape (parts : List Identifier) :
    (pathSlots (parts.map shape)).map Slot.mask = (pathSlots parts).map Slot.mask := by
  simp [pathSlots, Slot.map_intercalate, Function.comp_def, mask_slot_shape]

@[simp] theorem Identifier.aliasSlots_shape (label : Option Identifier) :
    (aliasSlots (label.map shape)).map Slot.mask = (aliasSlots label).map Slot.mask := by
  cases label with
  | none => rfl
  | some i => simp [aliasSlots, mask_slot_shape]

@[simp] theorem Term.rank_shape (t : Term) : t.shape.rank = t.rank := by cases t <;> rfl

@[simp] theorem Term.isLoose_shape (t : Term) (outer : Nat) (strict : Bool) :
    t.shape.isLoose outer strict = t.isLoose outer strict := by
  simp [Term.isLoose]

mutual

/-- Terms and their shapes have the same slots but for the names and strings. -/
theorem Term.mask_slots_shape (t : Term) : t.shape.slots.map Slot.mask = t.slots.map Slot.mask := by
  match t with
  | .column none name => simp [Term.shape, Term.slots, Identifier.mask_slot_shape]
  | .column (some relation) name => simp [Term.shape, Term.slots, Identifier.mask_slot_shape]
  | .reference parts => exact Identifier.pathSlots_shape parts
  | .literal value => cases value <;> rfl
  | .timestamp t => rfl
  | .coalesce args => simp [Term.shape, Term.slots, mask_slotsOf_shapes args]
  | .aggregate f arg => simp [Term.shape, Term.slots, arg.mask_slots_shape]
  | .binary left op right => simp [Term.shape, Term.slots, left.mask_slots_shape, right.mask_slots_shape]
  | .not t => simp [Term.shape, Term.slots, t.mask_slots_shape]
  | .isNull t => simp [Term.shape, Term.slots, t.mask_slots_shape]
  | .isNotNull t => simp [Term.shape, Term.slots, t.mask_slots_shape]
  | .inList t items negated => simp [Term.shape, Term.slots, t.mask_slots_shape, mask_slotsOf_shapes items]
  | .inQuery t query => simp [Term.shape, Term.slots, t.mask_slots_shape, query.mask_slots_shape]
  | .like t pattern negated => simp [Term.shape, Term.slots, t.mask_slots_shape, pattern.mask_slots_shape]
  | .between t low high negated =>
    simp [Term.shape, Term.slots, t.mask_slots_shape, low.mask_slots_shape, high.mask_slots_shape]

theorem mask_slotsOf_shapes (ts : List Term) :
    (slotsOf (shapes ts)).map (·.map Slot.mask) = (slotsOf ts).map (·.map Slot.mask) := by
  match ts with
  | [] => rfl
  | t :: ts => exact List.cons_eq_cons.2 ⟨t.mask_slots_shape, mask_slotsOf_shapes ts⟩

theorem mask_conjunctSlots_shapes (ts : List Term) :
    (conjunctSlots (shapes ts)).map (·.map Slot.mask) = (conjunctSlots ts).map (·.map Slot.mask) := by
  match ts with
  | [] => rfl
  | t :: ts => simp [shapes, conjunctSlots, t.mask_slots_shape, mask_conjunctSlots_shapes ts]

theorem Item.mask_slots_shape (i : Item) : i.shape.slots.map Slot.mask = i.slots.map Slot.mask := by
  match i with
  | ⟨term, label⟩ => simp [Item.shape, Item.slots, term.mask_slots_shape]

theorem mask_itemSlots_shapes (is : List Item) :
    (itemSlots (itemShapes is)).map (·.map Slot.mask) = (itemSlots is).map (·.map Slot.mask) := by
  match is with
  | [] => rfl
  | i :: is => exact List.cons_eq_cons.2 ⟨i.mask_slots_shape, mask_itemSlots_shapes is⟩

theorem Relation.mask_slots_shape (r : Relation) : r.shape.slots.map Slot.mask = r.slots.map Slot.mask := by
  match r with
  | .table name label => simp [Relation.shape, Relation.slots, Identifier.pathSlots_shape]
  | .subquery query label => simp [Relation.shape, Relation.slots, query.mask_slots_shape]

theorem mask_sourceSlots_shape (source : Option Relation) :
    (sourceSlots (sourceShape source)).map Slot.mask = (sourceSlots source).map Slot.mask := by
  match source with
  | none => rfl
  | some r => exact List.cons_eq_cons.2 ⟨rfl, r.mask_slots_shape⟩

theorem Join.mask_slots_shape (j : Join) : j.shape.slots.map Slot.mask = j.slots.map Slot.mask := by
  match j with
  | ⟨relation, condition⟩ =>
    simp [Join.shape, Join.slots, relation.mask_slots_shape, condition.mask_slots_shape]

theorem mask_joinSlots_shapes (js : List Join) :
    (joinSlots (joinShapes js)).map Slot.mask = (joinSlots js).map Slot.mask := by
  match js with
  | [] => rfl
  | j :: js => simp [joinShapes, joinSlots, j.mask_slots_shape, mask_joinSlots_shapes js]

theorem SortKey.mask_slots_shape (k : SortKey) : k.shape.slots.map Slot.mask = k.slots.map Slot.mask := by
  match k with
  | ⟨term, direction⟩ => simp [SortKey.shape, SortKey.slots, term.mask_slots_shape]

theorem mask_sortSlots_shapes (ks : List SortKey) :
    (sortSlots (sortShapes ks)).map (·.map Slot.mask) = (sortSlots ks).map (·.map Slot.mask) := by
  match ks with
  | [] => rfl
  | k :: ks => exact List.cons_eq_cons.2 ⟨k.mask_slots_shape, mask_sortSlots_shapes ks⟩

theorem Select.mask_slots_shape (s : Select) : s.shape.slots.map Slot.mask = s.slots.map Slot.mask := by
  match s with
  | ⟨distinct, projection, source, joins, conditions, groups, groupConditions, order, limit, offset⟩ =>
    have hprojection :
        (if (itemShapes projection).isEmpty then [.mark .asterisk]
          else Slot.commas (itemSlots (itemShapes projection))).map Slot.mask =
        (if projection.isEmpty then [.mark .asterisk] else Slot.commas (itemSlots projection)).map Slot.mask := by
      cases projection with
      | nil => rfl
      | cons i is =>
        have hitems := mask_itemSlots_shapes (i :: is)
        calc
          (Slot.commas (itemSlots (itemShapes (i :: is)))).map Slot.mask =
              Slot.commas ((itemSlots (itemShapes (i :: is))).map (·.map Slot.mask)) := Slot.map_mask_commas _
          _ = Slot.commas ((itemSlots (i :: is)).map (·.map Slot.mask)) := by rw [hitems]
          _ = (Slot.commas (itemSlots (i :: is))).map Slot.mask := (Slot.map_mask_commas _).symm
    simp [-List.isEmpty_iff, Select.shape, Select.slots, hprojection, mask_sourceSlots_shape source, mask_joinSlots_shapes joins,
      mask_conjunctSlots_shapes conditions, mask_slotsOf_shapes groups, mask_conjunctSlots_shapes groupConditions,
      mask_sortSlots_shapes order]

theorem Query.mask_slots_shape (q : Query) : q.shape.slots.map Slot.mask = q.slots.map Slot.mask := by
  match q with
  | .select s => exact s.mask_slots_shape
  | .unionAll branches =>
    simp [Query.shape, Query.slots, Slot.map_intercalate, mask_branchSlots_shapes branches]

theorem mask_branchSlots_shapes (qs : List Query) :
    (branchSlots (branchShapes qs)).map (·.map Slot.mask) = (branchSlots qs).map (·.map Slot.mask) := by
  match qs with
  | [] => rfl
  | q :: qs => exact List.cons_eq_cons.2 ⟨q.mask_slots_shape, mask_branchSlots_shapes qs⟩

end

/-! ## Text from outside stays where it is -/

/-- The text of a query is read without fault as the tokens that its tree determines, each name and each string being
one token, with nothing but blanks between them: no comment and no end of a statement. Queries of one shape differ
only in the text of these names and strings. -/
theorem Query.lexemes_text_eq_slots (q : Query) :
    (∃ ls, lexemes q.text.toList = .ok ls ∧ Lexeme.comment ∉ ls ∧
      ls.filterMap Lexeme.token? = q.slots.map Slot.token) ∧
    tokenize q.text.toList = .ok (q.slots.map Slot.token) ∧
    Token.symbol .semicolon ∉ q.slots.map Slot.token ∧
    ∀ r : Query, r.shape = q.shape → r.slots.map Slot.mask = q.slots.map Slot.mask := by
  have htokens : (q.script.map Lexeme.ofPart).filterMap Lexeme.token? = q.slots.map Slot.token := by
    rw [← q.tokens_script, List.filterMap_map]
    exact congrArg (List.filterMap · q.script) (funext Lexeme.token?_ofPart)
  refine ⟨⟨_, q.lexemes_text, ?_, htokens⟩, ?_, ?_, ?_⟩
  · intro hcomment
    obtain ⟨p, -, hp⟩ := List.mem_map.1 hcomment
    exact Lexeme.ofPart_ne_comment p hp
  · rw [tokenize_eq_lexemes, q.lexemes_text]
    exact congrArg Except.ok htokens
  · intro hsemicolon
    obtain ⟨s, -, hs⟩ := List.mem_map.1 hsemicolon
    exact s.token_ne_semicolon hs
  · intro r hr
    calc r.slots.map Slot.mask
      _ = r.shape.slots.map Slot.mask := r.mask_slots_shape.symm
      _ = q.shape.slots.map Slot.mask := by rw [hr]
      _ = q.slots.map Slot.mask := q.mask_slots_shape

end Sql

end Cohort
