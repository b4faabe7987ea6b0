import Cohort.Proofs.Outcome
import Cohort.Predicate.Reading
import Mathlib.Data.List.Forall2

/-!
# Phrases that differ in spelling only

Brackets that group nothing else, the quotes of names, the spelling of numbers and the minus signs before them make no
difference to what a phrase means, and a minus sign before anything but a number is a difference from zero. Two
phrases are alike if one comes from the other by such changes anywhere in it. What counts as two spellings of one
number is left open.
-/

namespace Cohort

/-- A number as it is written. Two minus signs before it make none. -/
structure Numeral where
  negative : Bool
  digits : String

namespace Literal

/-- The number with the other sign. -/
def opposite : Literal → Literal
  | .integer n => .integer (-n)
  | .decimal x => .decimal (-x)
  | v => v

end Literal

namespace Numeral

def opposite (n : Numeral) : Numeral := { n with negative := !n.negative }

/-- The constant that the number is read as, if it is finite. -/
def literal? (n : Numeral) : Option Literal :=
  match Literal.ofNumeral n.digits with
  | .ok v => some (if n.negative then v.opposite else v)
  | .error _ => none

/-- Both numbers are read as the same constant. -/
def SameLiteral (m n : Numeral) : Prop := m.literal? = n.literal?

end Numeral

namespace Phrase

/-- The number that the phrase is, under brackets and minus signs. -/
def numeral? : Phrase → Option Numeral
  | .number digits _ => some ⟨false, digits⟩
  | .nested p => p.numeral?
  | .minus p => p.numeral?.map Numeral.opposite
  | _ => none

mutual

/-- The escape characters of the patterns in the phrase, from the left. -/
def escapes : Phrase → List (Option String)
  | .nested p => p.escapes
  | .binary l _ r => l.escapes ++ r.escapes
  | .not p => p.escapes
  | .minus p => p.escapes
  | .isNull p => p.escapes
  | .isNotNull p => p.escapes
  | .inList p items _ => p.escapes ++ escapesOf items
  | .like p pattern escape _ => p.escapes ++ (pattern.escapes ++ [escape])
  | .between p low high _ => p.escapes ++ (low.escapes ++ high.escapes)
  | _ => []

def escapesOf : List Phrase → List (Option String)
  | [] => []
  | p :: ps => p.escapes ++ escapesOf ps

end

mutual

/-- The numbers in the phrase, from the left, with the zero that a minus sign before another phrase stands for. -/
def numerals : Phrase → List Numeral
  | .number digits _ => [⟨false, digits⟩]
  | .nested p => p.numerals
  | .binary l _ r => l.numerals ++ r.numerals
  | .not p => p.numerals
  | .minus p =>
    match p.numeral? with
    | some n => [n.opposite]
    | none => ⟨false, "0"⟩ :: p.numerals
  | .isNull p => p.numerals
  | .isNotNull p => p.numerals
  | .inList p items _ => p.numerals ++ numeralsOf items
  | .like p pattern _ _ => p.numerals ++ pattern.numerals
  | .between p low high _ => p.numerals ++ (low.numerals ++ high.numerals)
  | _ => []

def numeralsOf : List Phrase → List Numeral
  | [] => []
  | p :: ps => p.numerals ++ numeralsOf ps

end

theorem numerals_of_numeral? {p : Phrase} {n : Numeral} (h : p.numeral? = some n) :
    p.numerals = [n] ∧ p.escapes = [] := by
  induction p using numeral?.induct generalizing n with
  | case1 digits long =>
    cases h
    exact ⟨rfl, rfl⟩
  | case2 p ih => exact ih h
  | case3 p ih =>
    obtain ⟨m, hm, rfl⟩ := Option.map_eq_some_iff.1 h
    refine ⟨?_, (ih hm).2⟩
    rw [numerals, hm]
  | case4 p _ _ _ =>
    unfold numeral? at h
    split at h <;> simp_all

theorem escapesOf_append (ps qs : List Phrase) : escapesOf (ps ++ qs) = escapesOf ps ++ escapesOf qs := by
  induction ps with
  | nil => rfl
  | cons p ps ih => rw [List.cons_append, escapesOf, escapesOf, ih, List.append_assoc]

theorem numeralsOf_append (ps qs : List Phrase) : numeralsOf (ps ++ qs) = numeralsOf ps ++ numeralsOf qs := by
  induction ps with
  | nil => rfl
  | cons p ps ih => rw [List.cons_append, numeralsOf, numeralsOf, ih, List.append_assoc]

/-- The phrases differ in spelling only, where `same` says which numbers are spelled differently only. -/
inductive Alike (same : Numeral → Numeral → Prop) : Phrase → Phrase → Prop
  | refl (p : Phrase) : Alike same p p
  | symm {p q : Phrase} (h : Alike same p q) : Alike same q p
  | trans {p q r : Phrase} (h : Alike same p q) (h' : Alike same q r) : Alike same p r
  | nested (p : Phrase) : Alike same (.nested p) p
  | name {m n : WrittenName} (h : m.text = n.text) : Alike same (.name m) (.name n)
  | path {ms ns : List WrittenName} (h : ms.map WrittenName.text = ns.map WrittenName.text) :
    Alike same (.path ms) (.path ns)
  | number {p q : Phrase} {m n : Numeral} (hp : p.numeral? = some m) (hq : q.numeral? = some n) (h : same m n) :
    Alike same p q
  | minus {p : Phrase} (h : p.numeral? = none) :
    Alike same (.minus p) (.binary (.number "0" false) (.known .minus) p)
  | binary {l l' r r' : Phrase} (op : Connective) (hl : Alike same l l') (hr : Alike same r r') :
    Alike same (.binary l op r) (.binary l' op r')
  | not {p q : Phrase} (h : Alike same p q) : Alike same (.not p) (.not q)
  | isNull {p q : Phrase} (h : Alike same p q) : Alike same (.isNull p) (.isNull q)
  | isNotNull {p q : Phrase} (h : Alike same p q) : Alike same (.isNotNull p) (.isNotNull q)
  | inList {p q : Phrase} (items : List Phrase) (negated : Bool) (h : Alike same p q) :
    Alike same (.inList p items negated) (.inList q items negated)
  | item {q r : Phrase} (p : Phrase) (before after : List Phrase) (negated : Bool) (h : Alike same q r) :
    Alike same (.inList p (before ++ q :: after) negated) (.inList p (before ++ r :: after) negated)
  | like {p q pattern pattern' : Phrase} (escape : Option String) (negated : Bool) (h : Alike same p q)
    (h' : Alike same pattern pattern') : Alike same (.like p pattern escape negated) (.like q pattern' escape negated)
  | between {p q low low' high high' : Phrase} (negated : Bool) (h : Alike same p q) (hlow : Alike same low low')
    (hhigh : Alike same high high') : Alike same (.between p low high negated) (.between q low' high' negated)

namespace Alike

variable {same : Numeral → Numeral → Prop} {p q : Phrase}

instance : Trans (Alike same) (Alike same) (Alike same) := ⟨Alike.trans⟩

/-- The items of a list may be spelled differently one by one. -/
theorem items (p : Phrase) (negated : Bool) {ps qs : List Phrase} (h : List.Forall₂ (Alike same) ps qs)
    (before : List Phrase) : Alike same (.inList p (before ++ ps) negated) (.inList p (before ++ qs) negated) := by
  induction h generalizing before with
  | nil => exact .refl _
  | @cons q r qs rs h _ ih =>
    have hrest := ih (before ++ [r])
    rw [List.append_assoc, List.append_assoc, List.singleton_append, List.singleton_append] at hrest
    exact (item p before qs negated h).trans hrest

/-- Phrases that are alike have the same escape characters. -/
theorem escapes_eq (h : Alike same p q) : p.escapes = q.escapes := by
  induction h with
  | refl => rfl
  | symm _ ih => exact ih.symm
  | trans _ _ ih ih' => exact ih.trans ih'
  | nested => rfl
  | name => rfl
  | path => rfl
  | number hp hq => rw [(numerals_of_numeral? hp).2, (numerals_of_numeral? hq).2]
  | minus => rfl
  | binary op _ _ ihl ihr => rw [escapes, escapes, ihl, ihr]
  | not _ ih => exact ih
  | isNull _ ih => exact ih
  | isNotNull _ ih => exact ih
  | inList items negated _ ih => rw [escapes, escapes, ih]
  | item p before after negated _ ih =>
    rw [escapes, escapes, escapesOf_append, escapesOf_append, escapesOf, escapesOf, ih]
  | like escape negated _ _ ih ih' => rw [escapes, escapes, ih, ih']
  | between negated _ _ _ ih ihlow ihhigh => rw [escapes, escapes, ih, ihlow, ihhigh]

theorem forall₂_trans (hsame : Equivalence same) {ls ms ns : List Numeral} (h : List.Forall₂ same ls ms)
    (h' : List.Forall₂ same ms ns) : List.Forall₂ same ls ns := by
  induction h generalizing ns with
  | nil => exact h'
  | cons hlm _ ih =>
    cases h' with
    | cons hmn hrest => exact .cons (hsame.trans hlm hmn) (ih hrest)

/-- Phrases that are alike have the same numbers in the same order. -/
theorem forall₂_numerals (hsame : Equivalence same) (h : Alike same p q) :
    List.Forall₂ same p.numerals q.numerals := by
  have hrefl (ns : List Numeral) : List.Forall₂ same ns ns := List.forall₂_same.2 fun n _ => hsame.refl n
  induction h with
  | refl => exact hrefl _
  | symm _ ih => exact ih.flip.imp fun _ _ => hsame.symm
  | trans _ _ ih ih' => exact forall₂_trans hsame ih ih'
  | nested => exact hrefl _
  | name => exact .nil
  | path => exact .nil
  | number hp hq hmn =>
    rw [(numerals_of_numeral? hp).1, (numerals_of_numeral? hq).1]
    exact .cons hmn .nil
  | @minus p h =>
    have hminus : (Phrase.minus p).numerals = ⟨false, "0"⟩ :: p.numerals := by rw [numerals, h]
    rw [hminus]
    exact hrefl _
  | binary op _ _ ihl ihr => exact List.rel_append ihl ihr
  | not _ ih => exact ih
  | isNull _ ih => exact ih
  | isNotNull _ ih => exact ih
  | inList items negated _ ih => exact List.rel_append ih (hrefl _)
  | item p before after negated _ ih =>
    rw [numerals, numerals, numeralsOf_append, numeralsOf_append]
    exact List.rel_append (hrefl _) (List.rel_append (hrefl _) (List.rel_append ih (hrefl _)))
  | like escape negated _ _ ih ih' => exact List.rel_append ih ih'
  | between negated _ _ _ ih ihlow ihhigh => exact List.rel_append ih (List.rel_append ihlow ihhigh)

end Alike

end Phrase

end Cohort
