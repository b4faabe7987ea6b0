import Cohort.Proofs.Grammar.Climbing
import Cohort.Proofs.Grammar.Returning
import Cohort.Proofs.Predicate.Conversion
import Cohort.Proofs.Predicate.Leftward
import Cohort.Proofs.Predicate.Likeness

/-!
# What reading keeps

A predicate tells its phrase up to spelling, but for the escape characters of patterns: those are read and dropped.
Every phrase is alike to one in normal form, and the normal form can be built from the predicate once the escape
characters and the numerals are given.
-/

namespace Cohort

open Phrase (Alike)

namespace Literal

def IsNumber : Literal → Prop
  | .integer _ => True
  | .decimal _ => True
  | _ => False

theorem opposite_opposite (v : Literal) : v.opposite.opposite = v := by
  cases v with
  | integer n => exact congrArg Literal.integer (Int.neg_neg n)
  | decimal x => exact congrArg Literal.decimal (Double.neg_neg x)
  | _ => rfl

theorem IsNumber.opposite {v : Literal} (h : v.IsNumber) : v.opposite.IsNumber := by
  cases v with
  | integer n => exact trivial
  | decimal x => exact trivial
  | _ => exact h.elim

theorem isNumber_of_ofNumeral {digits : String} {v : Literal} (h : ofNumeral digits = .ok v) : v.IsNumber := by
  unfold ofNumeral at h
  split at h
  · cases h
    exact trivial
  · split at h
    · split at h
      · cases h
        exact trivial
      · cases h
    · cases h

end Literal

namespace Numeral

theorem literal?_opposite (n : Numeral) : n.opposite.literal? = n.literal?.map Literal.opposite := by
  obtain ⟨negative, digits⟩ := n
  simp only [literal?, opposite]
  cases Literal.ofNumeral digits with
  | error e => rfl
  | ok v =>
    cases negative with
    | false => rfl
    | true => exact congrArg some v.opposite_opposite.symm

theorem isNumber_of_literal? {n : Numeral} {v : Literal} (h : n.literal? = some v) : v.IsNumber := by
  unfold literal? at h
  split at h
  · next w hw =>
    have hnumber := Literal.isNumber_of_ofNumeral hw
    cases h
    split
    · exact hnumber.opposite
    · exact hnumber
  · cases h

end Numeral

namespace Predicate

theorem negated_literal {v : Literal} (h : v.IsNumber) : (Predicate.literal v).negated = .literal v.opposite := by
  cases v with
  | integer n => rfl
  | decimal x => rfl
  | _ => exact h.elim

variable {φ ψ : Phrase} {p q : Predicate}

/-- A number stands for its constant. -/
theorem standsFor_iff_of_numeral? {n : Numeral} (h : φ.numeral? = some n) :
    StandsFor φ p ↔ ∃ v, n.literal? = some v ∧ p = .literal v := by
  induction φ using Phrase.numeral?.induct generalizing n p with
  | case1 digits long =>
    cases h
    rw [standsFor_number_iff]
    unfold Numeral.literal?
    cases Literal.ofNumeral digits with
    | error e => simp
    | ok v => simp
  | case2 φ ih => exact standsFor_nested_iff.trans (ih h)
  | case3 φ ih =>
    obtain ⟨m, hm, rfl⟩ := Option.map_eq_some_iff.1 h
    rw [standsFor_minus_iff, Numeral.literal?_opposite]
    constructor
    · rintro ⟨q, hq, rfl⟩
      obtain ⟨v, hv, rfl⟩ := (ih hm).1 hq
      exact ⟨v.opposite, by rw [hv]; rfl, negated_literal (Numeral.isNumber_of_literal? hv)⟩
    · rintro ⟨w, hw, rfl⟩
      obtain ⟨v, hv, rfl⟩ := Option.map_eq_some_iff.1 hw
      exact ⟨.literal v, (ih hm).2 ⟨v, hv, rfl⟩, (negated_literal (Numeral.isNumber_of_literal? hv)).symm⟩
  | case4 φ hnumber hnested hminus =>
    unfold Phrase.numeral? at h
    split at h <;> simp_all

theorem standsFor_zero_iff : StandsFor (.number "0" false) p ↔ p = .literal (.integer 0) := by
  have hzero : Literal.ofNumeral "0" = .ok (.integer 0) := by decide
  rw [standsFor_number_iff, hzero]
  simp

/-- A minus sign before anything but a number stands for a difference from zero. -/
theorem negated_of_numeral?_eq_none (h : φ.numeral? = none) (hp : StandsFor φ p) :
    p.negated = .binary (.literal (.integer 0)) .minus p := by
  induction φ using Phrase.numeral?.induct generalizing p with
  | case1 digits long => cases h
  | case2 φ ih => exact ih h (standsFor_nested_iff.1 hp)
  | case3 φ ih =>
    obtain ⟨q, hq, rfl⟩ := standsFor_minus_iff.1 hp
    rw [ih (Option.map_eq_none_iff.1 h) hq]
    rfl
  | case4 φ hnumber hnested hminus =>
    cases φ with
    | name => obtain rfl := standsFor_name_iff.1 hp; rfl
    | path => obtain rfl := standsFor_path_iff.1 hp; rfl
    | null => obtain rfl := standsFor_null_iff.1 hp; rfl
    | boolean => obtain rfl := standsFor_boolean_iff.1 hp; rfl
    | string => obtain rfl := standsFor_string_iff.1 hp; rfl
    | number digits long => exact absurd rfl (hnumber digits long)
    | nested φ => exact absurd rfl (hnested φ)
    | binary => obtain ⟨_, _, _, _, _, _, rfl⟩ := standsFor_binary_iff.1 hp; rfl
    | not => obtain ⟨_, _, rfl⟩ := standsFor_not_iff.1 hp; rfl
    | minus φ => exact absurd rfl (hminus φ)
    | isNull => obtain ⟨_, _, rfl⟩ := standsFor_isNull_iff.1 hp; rfl
    | isNotNull => obtain ⟨_, _, rfl⟩ := standsFor_isNotNull_iff.1 hp; rfl
    | inList => obtain ⟨_, _, _, _, rfl⟩ := standsFor_inList_iff.1 hp; rfl
    | like => obtain ⟨_, _, _, _, rfl⟩ := standsFor_like_iff.1 hp; rfl
    | between => obtain ⟨_, _, _, _, _, _, rfl⟩ := standsFor_between_iff.1 hp; rfl
    | other => exact (not_standsFor_other hp).elim

theorem standForAll_append_iff {φs ψs : List Phrase} {ps : List Predicate} :
    StandForAll (φs ++ ψs) ps ↔ ∃ qs rs, StandForAll φs qs ∧ StandForAll ψs rs ∧ ps = qs ++ rs := by
  induction φs generalizing ps with
  | nil => simp [standForAll_nil_iff]
  | cons φ φs ih =>
    rw [List.cons_append, standForAll_cons_iff]
    simp only [ih, standForAll_cons_iff]
    constructor
    · rintro ⟨q, _, hq, ⟨qs, rs, hqs, hrs, rfl⟩, rfl⟩
      exact ⟨q :: qs, rs, ⟨q, qs, hq, hqs, rfl⟩, hrs, rfl⟩
    · rintro ⟨_, rs, ⟨q, qs, hq, hqs, rfl⟩, hrs, rfl⟩
      exact ⟨q, qs ++ rs, hq, ⟨qs, rs, hqs, hrs, rfl⟩, rfl⟩

/-- Phrases that are alike stand for the same predicate, if any. -/
theorem standsFor_iff_of_alike (h : Alike Numeral.SameLiteral φ ψ) : StandsFor φ p ↔ StandsFor ψ p := by
  induction h generalizing p with
  | refl => exact Iff.rfl
  | symm _ ih => exact ih.symm
  | trans _ _ ih ih' => exact ih.trans ih'
  | nested => exact standsFor_nested_iff
  | name h => rw [standsFor_name_iff, standsFor_name_iff, h]
  | path h => rw [standsFor_path_iff, standsFor_path_iff, h]
  | number hp hq h => rw [standsFor_iff_of_numeral? hp, standsFor_iff_of_numeral? hq, h]
  | minus h =>
    rw [standsFor_minus_iff, standsFor_binary_iff]
    constructor
    · rintro ⟨q, hq, rfl⟩
      exact ⟨_, .minus, q, standsFor_zero_iff.2 rfl, rfl, hq, negated_of_numeral?_eq_none h hq⟩
    · rintro ⟨l, op, r, hl, hop, hr, rfl⟩
      cases hop
      obtain rfl := standsFor_zero_iff.1 hl
      exact ⟨r, hr, (negated_of_numeral?_eq_none h hr).symm⟩
  | binary op _ _ ihl ihr => simp only [standsFor_binary_iff, ihl, ihr]
  | not _ ih => simp only [standsFor_not_iff, ih]
  | isNull _ ih => simp only [standsFor_isNull_iff, ih]
  | isNotNull _ ih => simp only [standsFor_isNotNull_iff, ih]
  | inList items negated _ ih => simp only [standsFor_inList_iff, ih]
  | item q before after negated _ ih =>
    simp only [standsFor_inList_iff, standForAll_append_iff, standForAll_cons_iff, ih]
  | like escape negated _ _ ih ih' => simp only [standsFor_like_iff, ih, ih']
  | between negated _ _ _ ih ihlow ihhigh => simp only [standsFor_between_iff, ih, ihlow, ihhigh]

/-! ## Normal form -/

end Predicate

namespace Numeral

/-- The number as a phrase. -/
def phrase (n : Numeral) : Phrase := if n.negative then .minus (.number n.digits false) else .number n.digits false

theorem numeral?_phrase (n : Numeral) : n.phrase.numeral? = some n := by
  obtain ⟨negative, digits⟩ := n
  cases negative <;> rfl

end Numeral

namespace Phrase

mutual

/-- The phrase without brackets and quotes, with one minus sign at most before a number and none elsewhere. -/
def normal : Phrase → Phrase
  | .name n => .name ⟨n.text, none⟩
  | .path names => .path (names.map fun n => ⟨n.text, none⟩)
  | .null => .null
  | .boolean b => .boolean b
  | .string s => .string s
  | .number digits _ => .number digits false
  | .nested p => p.normal
  | .binary l op r => .binary l.normal op r.normal
  | .not p => .not p.normal
  | .minus p =>
    match p.numeral? with
    | some n => n.opposite.phrase
    | none => .binary (.number "0" false) (.known .minus) p.normal
  | .isNull p => .isNull p.normal
  | .isNotNull p => .isNotNull p.normal
  | .inList p items negated => .inList p.normal (normals items) negated
  | .like p pattern escape negated => .like p.normal pattern.normal escape negated
  | .between p low high negated => .between p.normal low.normal high.normal negated
  | .other text => .other text

def normals : List Phrase → List Phrase
  | [] => []
  | p :: ps => p.normal :: normals ps

end

variable {same : Numeral → Numeral → Prop}

mutual

theorem alike_normal (hsame : Equivalence same) : ∀ p : Phrase, Alike same p p.normal
  | .name n => .name rfl
  | .path names => .path (by simp)
  | .null => .refl _
  | .boolean b => .refl _
  | .string s => .refl _
  | .number digits long => .number rfl rfl (hsame.refl _)
  | .nested p => (Alike.nested p).trans (alike_normal hsame p)
  | .binary l op r => .binary op (alike_normal hsame l) (alike_normal hsame r)
  | .not p => .not (alike_normal hsame p)
  | .minus p => by
    have hp := alike_normal hsame p
    rw [normal]
    split
    · next n hn =>
      have hminus : (Phrase.minus p).numeral? = some n.opposite := by rw [numeral?, hn, Option.map_some]
      exact .number hminus n.opposite.numeral?_phrase (hsame.refl _)
    · next hnone => exact (Alike.minus hnone).trans (.binary _ (.refl _) hp)
  | .isNull p => .isNull (alike_normal hsame p)
  | .isNotNull p => .isNotNull (alike_normal hsame p)
  | .inList p items negated =>
    (Alike.inList items negated (alike_normal hsame p)).trans (.items _ negated (alike_normals hsame items) [])
  | .like p pattern escape negated => .like escape negated (alike_normal hsame p) (alike_normal hsame pattern)
  | .between p low high negated =>
    .between negated (alike_normal hsame p) (alike_normal hsame low) (alike_normal hsame high)
  | .other text => .refl _

theorem alike_normals (hsame : Equivalence same) : ∀ ps : List Phrase, List.Forall₂ (Alike same) ps (normals ps)
  | [] => .nil
  | p :: ps => .cons (alike_normal hsame p) (alike_normals hsame ps)

end

end Phrase

/-- Escape characters and numbers in the order in which a phrase has them. -/
structure Spelling where
  escapes : List (Option String)
  numerals : List Numeral

namespace Spelling

/-- The same escape characters, and numbers that differ in spelling only. -/
structure Agrees (same : Numeral → Numeral → Prop) (s t : Spelling) : Prop where
  escapes : s.escapes = t.escapes
  numerals : List.Forall₂ same s.numerals t.numerals

/-- The phrase of a constant, with its number taken from the spelling. -/
def takeLiteral : Literal → Spelling → Phrase × Spelling
  | .null, s => (.null, s)
  | .boolean b, s => (.boolean b, s)
  | .string text, s => (.string text, s)
  | _, ⟨escapes, n :: numerals⟩ => (n.phrase, ⟨escapes, numerals⟩)
  | _, s => (.null, s)

/-- The next escape character of a pattern. -/
def takeEscape : Spelling → Option String × Spelling
  | ⟨e :: escapes, numerals⟩ => (e, ⟨escapes, numerals⟩)
  | s => (none, s)

end Spelling

namespace Predicate

open Spelling (takeLiteral takeEscape)

mutual

/-- The phrase in normal form that stands for the predicate, and what it leaves of the spelling. -/
def spelled : Predicate → Spelling → Phrase × Spelling
  | .column [name], s => (.name ⟨name, none⟩, s)
  | .column names, s => (.path (names.map fun name => ⟨name, none⟩), s)
  | .literal v, s => takeLiteral v s
  | .binary l op r, s =>
    let left := spelled l s
    let right := spelled r left.2
    (.binary left.1 (.known op) right.1, right.2)
  | .not p, s => (.not (spelled p s).1, (spelled p s).2)
  | .isNull p, s => (.isNull (spelled p s).1, (spelled p s).2)
  | .isNotNull p, s => (.isNotNull (spelled p s).1, (spelled p s).2)
  | .inList p items negated, s =>
    let operand := spelled p s
    let later := spelledAll items operand.2
    (.inList operand.1 later.1 negated, later.2)
  | .like p pattern negated, s =>
    let operand := spelled p s
    let later := spelled pattern operand.2
    let escape := takeEscape later.2
    (.like operand.1 later.1 escape.1 negated, escape.2)
  | .between p low high negated, s =>
    let operand := spelled p s
    let lower := spelled low operand.2
    let upper := spelled high lower.2
    (.between operand.1 lower.1 upper.1 negated, upper.2)

def spelledAll : List Predicate → Spelling → List Phrase × Spelling
  | [], s => ([], s)
  | p :: ps, s =>
    let first := spelled p s
    let later := spelledAll ps first.2
    (first.1 :: later.1, later.2)

end

theorem takeLiteral_of_isNumber {v : Literal} (hv : v.IsNumber) (escapes : List (Option String)) (n : Numeral)
    (numerals : List Numeral) :
    takeLiteral v ⟨escapes, n :: numerals⟩ = (n.phrase, ⟨escapes, numerals⟩) := by
  cases v with
  | integer i => rfl
  | decimal x => rfl
  | _ => exact hv.elim

open Phrase (HasLongPaths HaveLongPaths)

mutual

/-- A phrase's normal form is built from what it stands for and its own spelling. -/
theorem spelled_of_standsFor (es : List (Option String)) (ns : List Numeral) : ∀ {φ : Phrase} {p : Predicate},
    StandsFor φ p → φ.HasLongPaths → spelled p ⟨φ.escapes ++ es, φ.numerals ++ ns⟩ = (φ.normal, ⟨es, ns⟩)
  | .name n, p, h, _ => by
    obtain rfl := standsFor_name_iff.1 h
    rfl
  | .path names, p, h, hlong => by
    obtain rfl := standsFor_path_iff.1 h
    match names, hlong with
    | m :: n :: names, _ =>
      rw [Phrase.normal, List.map_cons, List.map_cons, List.map_cons, List.map_cons, spelled]
      · simp [Phrase.escapes, Phrase.numerals]
      · simp
  | .null, p, h, _ => by
    obtain rfl := standsFor_null_iff.1 h
    rfl
  | .boolean b, p, h, _ => by
    obtain rfl := standsFor_boolean_iff.1 h
    rfl
  | .string s, p, h, _ => by
    obtain rfl := standsFor_string_iff.1 h
    rfl
  | .number digits long, p, h, _ => by
    obtain ⟨v, hv, rfl⟩ := standsFor_number_iff.1 h
    exact takeLiteral_of_isNumber (Literal.isNumber_of_ofNumeral hv) es ⟨false, digits⟩ ns
  | .nested φ, p, h, hlong => spelled_of_standsFor es ns (φ := φ) (standsFor_nested_iff.1 h) hlong
  | .binary l c r, p, h, hlong => by
    obtain ⟨q, op, q', hl, rfl, hr, rfl⟩ := standsFor_binary_iff.1 h
    have ihl := spelled_of_standsFor (r.escapes ++ es) (r.numerals ++ ns) hl hlong.1
    have ihr := spelled_of_standsFor es ns hr hlong.2
    rw [Phrase.escapes, Phrase.numerals, List.append_assoc, List.append_assoc, spelled, ihl, ihr, Phrase.normal]
  | .not φ, p, h, hlong => by
    obtain ⟨q, hq, rfl⟩ := standsFor_not_iff.1 h
    have ih := spelled_of_standsFor es ns hq hlong
    rw [Phrase.escapes, Phrase.numerals, spelled, ih, Phrase.normal]
  | .minus φ, p, h, hlong => by
    obtain ⟨q, hq, rfl⟩ := standsFor_minus_iff.1 h
    have ih := spelled_of_standsFor es ns hq hlong
    cases hnumeral : φ.numeral? with
    | some n =>
      have hminus : (Phrase.minus φ).numeral? = some n.opposite := by
        rw [Phrase.numeral?, hnumeral, Option.map_some]
      obtain ⟨v, hv, hp⟩ := (standsFor_iff_of_numeral? hminus).1 h
      rw [hp, (Phrase.numerals_of_numeral? hminus).1, (Phrase.numerals_of_numeral? hminus).2, Phrase.normal, hnumeral]
      exact takeLiteral_of_isNumber (Numeral.isNumber_of_literal? hv) es n.opposite ns
    | none =>
      rw [negated_of_numeral?_eq_none hnumeral hq, Phrase.escapes, Phrase.numerals, hnumeral, Phrase.normal, hnumeral]
      have hzero := takeLiteral_of_isNumber (v := .integer 0) trivial (φ.escapes ++ es) ⟨false, "0"⟩ (φ.numerals ++ ns)
      rw [spelled, spelled, List.cons_append, hzero, ih]
      rfl
  | .isNull φ, p, h, hlong => by
    obtain ⟨q, hq, rfl⟩ := standsFor_isNull_iff.1 h
    have ih := spelled_of_standsFor es ns hq hlong
    rw [Phrase.escapes, Phrase.numerals, spelled, ih, Phrase.normal]
  | .isNotNull φ, p, h, hlong => by
    obtain ⟨q, hq, rfl⟩ := standsFor_isNotNull_iff.1 h
    have ih := spelled_of_standsFor es ns hq hlong
    rw [Phrase.escapes, Phrase.numerals, spelled, ih, Phrase.normal]
  | .inList φ items negated, p, h, hlong => by
    obtain ⟨q, qs, hq, hqs, rfl⟩ := standsFor_inList_iff.1 h
    have ih := spelled_of_standsFor (Phrase.escapesOf items ++ es) (Phrase.numeralsOf items ++ ns) hq hlong.1
    have ihs := spelledAll_of_standForAll es ns hqs hlong.2
    rw [Phrase.escapes, Phrase.numerals, List.append_assoc, List.append_assoc, spelled, ih, ihs, Phrase.normal]
  | .like φ ψ escape negated, p, h, hlong => by
    obtain ⟨q, r, hq, hr, rfl⟩ := standsFor_like_iff.1 h
    have ih := spelled_of_standsFor (ψ.escapes ++ escape :: es) (ψ.numerals ++ ns) hq hlong.1
    have ih' := spelled_of_standsFor (escape :: es) ns hr hlong.2
    rw [Phrase.escapes, Phrase.numerals, List.append_assoc, List.append_assoc, List.append_assoc,
      List.singleton_append, spelled, ih, ih', takeEscape, Phrase.normal]
  | .between φ ψ χ negated, p, h, hlong => by
    obtain ⟨q, low, high, hq, hlow, hhigh, rfl⟩ := standsFor_between_iff.1 h
    have ih := spelled_of_standsFor (ψ.escapes ++ (χ.escapes ++ es)) (ψ.numerals ++ (χ.numerals ++ ns)) hq hlong.1
    have ihlow := spelled_of_standsFor (χ.escapes ++ es) (χ.numerals ++ ns) hlow hlong.2.1
    have ihhigh := spelled_of_standsFor es ns hhigh hlong.2.2
    rw [Phrase.escapes, Phrase.numerals, List.append_assoc, List.append_assoc, List.append_assoc, List.append_assoc,
      spelled, ih, ihlow, ihhigh, Phrase.normal]
  | .other text, p, h, _ => (not_standsFor_other h).elim

theorem spelledAll_of_standForAll (es : List (Option String)) (ns : List Numeral) : ∀ {φs : List Phrase}
    {ps : List Predicate}, StandForAll φs ps → HaveLongPaths φs →
      spelledAll ps ⟨Phrase.escapesOf φs ++ es, Phrase.numeralsOf φs ++ ns⟩ = (Phrase.normals φs, ⟨es, ns⟩)
  | [], ps, h, _ => by
    obtain rfl := standForAll_nil_iff.1 h
    rfl
  | φ :: φs, ps, h, hlong => by
    obtain ⟨q, qs, hq, hqs, rfl⟩ := standForAll_cons_iff.1 h
    have ih := spelled_of_standsFor (Phrase.escapesOf φs ++ es) (Phrase.numeralsOf φs ++ ns) hq hlong.1
    have ihs := spelledAll_of_standForAll es ns hqs hlong.2
    rw [Phrase.escapesOf, Phrase.numeralsOf, List.append_assoc, List.append_assoc, spelledAll, ih, ihs, Phrase.normals]

end

variable {same : Numeral → Numeral → Prop}

theorem agrees_takeLiteral {s t : Spelling} (h : s.Agrees same t) (v : Literal) :
    Alike same (takeLiteral v s).1 (takeLiteral v t).1 ∧ (takeLiteral v s).2.Agrees same (takeLiteral v t).2 := by
  obtain ⟨escapes, numerals⟩ := s
  obtain ⟨escapes', numerals'⟩ := t
  obtain ⟨rfl, hnumerals⟩ := h
  have hnumber {m n : Numeral} (hmn : same m n) : Alike same m.phrase n.phrase :=
    .number m.numeral?_phrase n.numeral?_phrase hmn
  cases hnumerals with
  | nil => cases v <;> exact ⟨.refl _, rfl, .nil⟩
  | cons hmn hrest =>
    cases v with
    | integer i => exact ⟨hnumber hmn, rfl, hrest⟩
    | decimal x => exact ⟨hnumber hmn, rfl, hrest⟩
    | _ => exact ⟨.refl _, rfl, .cons hmn hrest⟩

theorem agrees_takeEscape {s t : Spelling} (h : s.Agrees same t) :
    (takeEscape s).1 = (takeEscape t).1 ∧ (takeEscape s).2.Agrees same (takeEscape t).2 := by
  obtain ⟨escapes, numerals⟩ := s
  obtain ⟨escapes', numerals'⟩ := t
  obtain ⟨rfl, hnumerals⟩ := h
  cases escapes with
  | nil => exact ⟨rfl, rfl, hnumerals⟩
  | cons e escapes => exact ⟨rfl, rfl, hnumerals⟩

mutual

/-- What is built from spellings that agree is alike. -/
theorem alike_spelled {s t : Spelling} (h : s.Agrees same t) : ∀ p : Predicate,
    Alike same (spelled p s).1 (spelled p t).1 ∧ (spelled p s).2.Agrees same (spelled p t).2
  | .column [] => ⟨.refl _, h⟩
  | .column [name] => ⟨.refl _, h⟩
  | .column (name :: next :: names) => ⟨.refl _, h⟩
  | .literal v => agrees_takeLiteral h v
  | .binary l op r => by
    obtain ⟨hl, hleft⟩ := alike_spelled h l
    obtain ⟨hr, hright⟩ := alike_spelled hleft r
    exact ⟨.binary _ hl hr, hright⟩
  | .not p => by
    obtain ⟨hp, hrest⟩ := alike_spelled h p
    exact ⟨.not hp, hrest⟩
  | .isNull p => by
    obtain ⟨hp, hrest⟩ := alike_spelled h p
    exact ⟨.isNull hp, hrest⟩
  | .isNotNull p => by
    obtain ⟨hp, hrest⟩ := alike_spelled h p
    exact ⟨.isNotNull hp, hrest⟩
  | .inList p items negated => by
    obtain ⟨hp, hrest⟩ := alike_spelled h p
    obtain ⟨hitems, hlater⟩ := alike_spelledAll hrest items
    exact ⟨(Alike.inList _ _ hp).trans (.items _ _ hitems []), hlater⟩
  | .like p pattern negated => by
    obtain ⟨hp, hrest⟩ := alike_spelled h p
    obtain ⟨hpattern, hlater⟩ := alike_spelled hrest pattern
    obtain ⟨hescape, hlast⟩ := agrees_takeEscape hlater
    rw [spelled, spelled, hescape]
    exact ⟨.like _ _ hp hpattern, hlast⟩
  | .between p low high negated => by
    obtain ⟨hp, hrest⟩ := alike_spelled h p
    obtain ⟨hlow, hlater⟩ := alike_spelled hrest low
    obtain ⟨hhigh, hlast⟩ := alike_spelled hlater high
    exact ⟨.between _ hp hlow hhigh, hlast⟩

theorem alike_spelledAll {s t : Spelling} (h : s.Agrees same t) : ∀ ps : List Predicate,
    List.Forall₂ (Alike same) (spelledAll ps s).1 (spelledAll ps t).1 ∧
      (spelledAll ps s).2.Agrees same (spelledAll ps t).2
  | [] => ⟨.nil, h⟩
  | p :: ps => by
    obtain ⟨hp, hrest⟩ := alike_spelled h p
    obtain ⟨hps, hlater⟩ := alike_spelledAll hrest ps
    exact ⟨.cons hp hps, hlater⟩

end

/-- Two phrases that stand for the same predicate differ in spelling, escape characters and numbers only. -/
theorem alike_iff_of_standsFor (hsame : Equivalence same) (hφ : StandsFor φ p) (hψ : StandsFor ψ p)
    (hφlong : φ.HasLongPaths) (hψlong : ψ.HasLongPaths) :
    Alike same φ ψ ↔ φ.escapes = ψ.escapes ∧ List.Forall₂ same φ.numerals ψ.numerals := by
  constructor
  · intro h
    exact ⟨h.escapes_eq, h.forall₂_numerals hsame⟩
  · rintro ⟨hescapes, hnumerals⟩
    have hφspelled := spelled_of_standsFor [] [] hφ hφlong
    have hψspelled := spelled_of_standsFor [] [] hψ hψlong
    have hagrees : Spelling.Agrees same ⟨φ.escapes ++ [], φ.numerals ++ []⟩ ⟨ψ.escapes ++ [], ψ.numerals ++ []⟩ := by
      simp only [List.append_nil]
      exact ⟨hescapes, hnumerals⟩
    have hnormal := (alike_spelled hagrees p).1
    rw [hφspelled, hψspelled] at hnormal
    calc
      Alike same φ φ.normal := Phrase.alike_normal hsame φ
      Alike same φ.normal ψ.normal := hnormal
      Alike same ψ.normal ψ := (Phrase.alike_normal hsame ψ).symm

mutual

/-- The numbers of a predicate, from the left. -/
def numbers : Predicate → List Literal
  | .literal (.integer n) => [.integer n]
  | .literal (.decimal x) => [.decimal x]
  | .binary l _ r => l.numbers ++ r.numbers
  | .not p => p.numbers
  | .isNull p => p.numbers
  | .isNotNull p => p.numbers
  | .inList p items _ => p.numbers ++ numbersOf items
  | .like p pattern _ => p.numbers ++ pattern.numbers
  | .between p low high _ => p.numbers ++ (low.numbers ++ high.numbers)
  | _ => []

def numbersOf : List Predicate → List Literal
  | [] => []
  | p :: ps => p.numbers ++ numbersOf ps

end

theorem numbers_literal {v : Literal} (hv : v.IsNumber) : (Predicate.literal v).numbers = [v] := by
  cases v with
  | integer n => rfl
  | decimal x => rfl
  | _ => exact hv.elim

mutual

/-- The numbers in a phrase are read as the numbers of its predicate. -/
theorem map_literal?_numerals : ∀ {φ : Phrase} {p : Predicate}, StandsFor φ p →
    φ.numerals.map Numeral.literal? = p.numbers.map some
  | .name n, p, h => by
    obtain rfl := standsFor_name_iff.1 h
    rfl
  | .path names, p, h => by
    obtain rfl := standsFor_path_iff.1 h
    rfl
  | .null, p, h => by
    obtain rfl := standsFor_null_iff.1 h
    rfl
  | .boolean b, p, h => by
    obtain rfl := standsFor_boolean_iff.1 h
    rfl
  | .string s, p, h => by
    obtain rfl := standsFor_string_iff.1 h
    rfl
  | .number digits long, p, h => by
    obtain ⟨v, hv, rfl⟩ := (standsFor_iff_of_numeral? (φ := .number digits long) rfl).1 h
    rw [numbers_literal (Numeral.isNumber_of_literal? hv), Phrase.numerals, List.map_singleton, hv, List.map_singleton]
  | .nested φ, p, h => map_literal?_numerals (φ := φ) (standsFor_nested_iff.1 h)
  | .binary l c r, p, h => by
    obtain ⟨q, op, q', hl, rfl, hr, rfl⟩ := standsFor_binary_iff.1 h
    rw [Phrase.numerals, numbers, List.map_append, List.map_append, map_literal?_numerals hl, map_literal?_numerals hr]
  | .not φ, p, h => by
    obtain ⟨q, hq, rfl⟩ := standsFor_not_iff.1 h
    rw [Phrase.numerals, numbers, map_literal?_numerals hq]
  | .minus φ, p, h => by
    obtain ⟨q, hq, rfl⟩ := standsFor_minus_iff.1 h
    have ih := map_literal?_numerals hq
    cases hnumeral : φ.numeral? with
    | some n =>
      have hminus : (Phrase.minus φ).numeral? = some n.opposite := by
        rw [Phrase.numeral?, hnumeral, Option.map_some]
      obtain ⟨v, hv, hp⟩ := (standsFor_iff_of_numeral? hminus).1 h
      rw [hp, numbers_literal (Numeral.isNumber_of_literal? hv), (Phrase.numerals_of_numeral? hminus).1,
        List.map_singleton, hv, List.map_singleton]
    | none =>
      have hzero : Numeral.literal? ⟨false, "0"⟩ = some (.integer 0) := by decide
      rw [negated_of_numeral?_eq_none hnumeral hq, Phrase.numerals, hnumeral, numbers, numbers, List.map_cons, hzero,
        ih, List.singleton_append, List.map_cons]
  | .isNull φ, p, h => by
    obtain ⟨q, hq, rfl⟩ := standsFor_isNull_iff.1 h
    rw [Phrase.numerals, numbers, map_literal?_numerals hq]
  | .isNotNull φ, p, h => by
    obtain ⟨q, hq, rfl⟩ := standsFor_isNotNull_iff.1 h
    rw [Phrase.numerals, numbers, map_literal?_numerals hq]
  | .inList φ items negated, p, h => by
    obtain ⟨q, qs, hq, hqs, rfl⟩ := standsFor_inList_iff.1 h
    rw [Phrase.numerals, numbers, List.map_append, List.map_append, map_literal?_numerals hq,
      map_literal?_numeralsOf hqs]
  | .like φ ψ escape negated, p, h => by
    obtain ⟨q, r, hq, hr, rfl⟩ := standsFor_like_iff.1 h
    rw [Phrase.numerals, numbers, List.map_append, List.map_append, map_literal?_numerals hq, map_literal?_numerals hr]
  | .between φ ψ χ negated, p, h => by
    obtain ⟨q, low, high, hq, hlow, hhigh, rfl⟩ := standsFor_between_iff.1 h
    rw [Phrase.numerals, numbers, List.map_append, List.map_append, List.map_append, List.map_append,
      map_literal?_numerals hq, map_literal?_numerals hlow, map_literal?_numerals hhigh]
  | .other text, p, h => (not_standsFor_other h).elim

theorem map_literal?_numeralsOf : ∀ {φs : List Phrase} {ps : List Predicate}, StandForAll φs ps →
    (Phrase.numeralsOf φs).map Numeral.literal? = (numbersOf ps).map some
  | [], ps, h => by
    obtain rfl := standForAll_nil_iff.1 h
    rfl
  | φ :: φs, ps, h => by
    obtain ⟨q, qs, hq, hqs, rfl⟩ := standForAll_cons_iff.1 h
    rw [Phrase.numeralsOf, numbersOf, List.map_append, List.map_append, map_literal?_numerals hq,
      map_literal?_numeralsOf hqs]

end

theorem sameLiteral_equivalence : Equivalence Numeral.SameLiteral :=
  ⟨fun _ => rfl, fun h => Eq.symm h, fun h h' => Eq.trans h h'⟩

theorem forall₂_sameLiteral (hφ : StandsFor φ p) (hψ : StandsFor ψ p) :
    List.Forall₂ Numeral.SameLiteral φ.numerals ψ.numerals := by
  have hmap : List.Forall₂ (· = ·) (φ.numerals.map Numeral.literal?) (ψ.numerals.map Numeral.literal?) := by
    rw [List.forall₂_eq_eq_eq, map_literal?_numerals hφ, map_literal?_numerals hψ]
  have hleft := List.forall₂_map_left_iff.1 hmap
  have hboth := List.forall₂_map_right_iff.1 hleft
  exact hboth

end Predicate

/-! ## Refusing and reading -/

namespace Phrase

mutual

/-- Predicates can express the phrase but for its escape characters: it has no other forms, no other operators and
finite numbers only. -/
def IsExpressible : Phrase → Prop
  | .name _ => True
  | .path _ => True
  | .null => True
  | .boolean _ => True
  | .string _ => True
  | .number digits _ => ∃ v, Literal.ofNumeral digits = .ok v
  | .nested p => p.IsExpressible
  | .binary l c r => l.IsExpressible ∧ (∃ op, c = .known op) ∧ r.IsExpressible
  | .not p => p.IsExpressible
  | .minus p => p.IsExpressible
  | .isNull p => p.IsExpressible
  | .isNotNull p => p.IsExpressible
  | .inList p items _ => p.IsExpressible ∧ AreExpressible items
  | .like p pattern _ _ => p.IsExpressible ∧ pattern.IsExpressible
  | .between p low high _ => p.IsExpressible ∧ low.IsExpressible ∧ high.IsExpressible
  | .other _ => False

def AreExpressible : List Phrase → Prop
  | [] => True
  | p :: ps => p.IsExpressible ∧ AreExpressible ps

end

end Phrase

namespace Predicate

mutual

theorem exists_standsFor_iff : ∀ φ : Phrase, (∃ p, StandsFor φ p) ↔ φ.IsExpressible
  | .name n => iff_of_true ⟨_, standsFor_name_iff.2 rfl⟩ trivial
  | .path names => iff_of_true ⟨_, standsFor_path_iff.2 rfl⟩ trivial
  | .null => iff_of_true ⟨_, standsFor_null_iff.2 rfl⟩ trivial
  | .boolean b => iff_of_true ⟨_, standsFor_boolean_iff.2 rfl⟩ trivial
  | .string s => iff_of_true ⟨_, standsFor_string_iff.2 rfl⟩ trivial
  | .number digits long => by simp [standsFor_number_iff, Phrase.IsExpressible]
  | .nested φ => exists_standsFor_iff φ
  | .binary l c r => by
    rw [Phrase.IsExpressible, ← exists_standsFor_iff l, ← exists_standsFor_iff r]
    simp only [standsFor_binary_iff]
    grind
  | .not φ => by simp [standsFor_not_iff, Phrase.IsExpressible, ← exists_standsFor_iff φ]
  | .minus φ => by simp [standsFor_minus_iff, Phrase.IsExpressible, ← exists_standsFor_iff φ]
  | .isNull φ => by simp [standsFor_isNull_iff, Phrase.IsExpressible, ← exists_standsFor_iff φ]
  | .isNotNull φ => by simp [standsFor_isNotNull_iff, Phrase.IsExpressible, ← exists_standsFor_iff φ]
  | .inList φ items negated => by
    rw [Phrase.IsExpressible, ← exists_standsFor_iff φ, ← exists_standForAll_iff items]
    simp only [standsFor_inList_iff]
    grind
  | .like φ ψ escape negated => by
    rw [Phrase.IsExpressible, ← exists_standsFor_iff φ, ← exists_standsFor_iff ψ]
    simp only [standsFor_like_iff]
    grind
  | .between φ ψ χ negated => by
    rw [Phrase.IsExpressible, ← exists_standsFor_iff φ, ← exists_standsFor_iff ψ, ← exists_standsFor_iff χ]
    simp only [standsFor_between_iff]
    grind
  | .other text => iff_of_false (fun ⟨_, h⟩ => not_standsFor_other h) not_false

theorem exists_standForAll_iff : ∀ φs : List Phrase, (∃ ps, StandForAll φs ps) ↔ Phrase.AreExpressible φs
  | [] => iff_of_true ⟨[], rfl⟩ trivial
  | φ :: φs => by
    rw [Phrase.AreExpressible, ← exists_standsFor_iff φ, ← exists_standForAll_iff φs]
    simp only [standForAll_cons_iff]
    grind

end

theorem hasLongPaths_of_readPhrase {s : String} (h : readPhrase s = .ok φ) : φ.HasLongPaths := by
  obtain ⟨tokens, -, h⟩ := Outcome.bind_eq_ok_iff.1 h
  split at h
  · cases h
  · next p hphrase =>
    cases h
    exact Rule.returns_phrase tokens φ [] hphrase
  · cases h

theorem read_eq_ok_iff {s : String} (h : readPhrase s = .ok φ) : read s = .ok p ↔ StandsFor φ p := by
  unfold read
  rw [h]
  exact Iff.rfl

/-- A text is read as a predicate just if predicates can express its phrase, escape characters apart; and what two
texts of one predicate differ in, other than spelling, is exactly the escape characters. This holds whatever counts as
spellings of one number, provided that the numbers of the texts are such spellings, one by one; numbers that are read
as the same constant always are. -/
theorem alike_iff_escapes_eq_of_read {s t : String} {φ ψ : Phrase} (hφ : readPhrase s = .ok φ)
    (hψ : readPhrase t = .ok ψ) :
    ((∃ p, read s = .ok p) ↔ φ.IsExpressible) ∧
      ∀ p, read s = .ok p → read t = .ok p →
        (Alike Numeral.SameLiteral φ ψ ↔ φ.escapes = ψ.escapes) ∧
          ∀ same, Equivalence same →
            (Alike same φ ψ ↔ φ.escapes = ψ.escapes ∧ List.Forall₂ same φ.numerals ψ.numerals) := by
  have hφlong := hasLongPaths_of_readPhrase hφ
  have hψlong := hasLongPaths_of_readPhrase hψ
  refine ⟨?_, fun p hs ht => ?_⟩
  · simp only [read_eq_ok_iff hφ]
    exact exists_standsFor_iff φ
  · rw [read_eq_ok_iff hφ] at hs
    rw [read_eq_ok_iff hψ] at ht
    refine ⟨?_, fun same hsame => alike_iff_of_standsFor hsame hs ht hφlong hψlong⟩
    rw [alike_iff_of_standsFor sameLiteral_equivalence hs ht hφlong hψlong]
    exact and_iff_left (forall₂_sameLiteral hs ht)

open Sql (Token)

/-- A column in quotes against a pattern, with or without an escape character. -/
theorem phrase_like (column pattern : String) {later : List Token} {escape : Option String}
    (h : later = [] ∧ escape = none ∨ ∃ e, later = [.plain "ESCAPE", .string e] ∧ escape = some e) :
    Rule.phrase (.word column (some '"') :: .plain "LIKE" :: .string pattern :: later) =
      .ok (.like (.name ⟨column, some '"'⟩) (.string pattern) escape false, []) := by
  have hpattern (fuel levels : Nat) : (Rule.inner (fuel + 1) levels).operation Rule.likeStrength
      (.string pattern :: later) = .ok (.string pattern, later) := by
    rcases h with ⟨rfl, -⟩ | ⟨e, rfl, -⟩ <;> rfl
  have hescape : Rule.optionalEscape later = .ok (escape, []) := by
    rcases h with ⟨rfl, rfl⟩ | ⟨e, rfl, rfl⟩ <;> rfl
  have hoperand (i : Inner) : Rule.operand i (.word column (some '"') :: .plain "LIKE" :: .string pattern :: later) =
      .ok (.name ⟨column, some '"'⟩, .plain "LIKE" :: .string pattern :: later) := rfl
  have hextend (fuel levels : Nat) :
      Rule.extend (Rule.inner (fuel + 1) levels) (.name ⟨column, some '"'⟩)
          (Rule.strength (.plain "LIKE" :: .string pattern :: later)) (.plain "LIKE" :: .string pattern :: later) =
        .ok (.like (.name ⟨column, some '"'⟩) (.string pattern) escape false, []) :=
    Rule.extend_like false _ _ (hpattern fuel levels) hescape
  unfold Rule.phrase
  -- the operand, then the test, after which there is nothing left
  apply (Rule.bind_of_eq_ok (hoperand _)).trans
  apply (Rule.bind_of_eq_ok (Rule.get_eq_ok _)).trans
  apply (Rule.climbBy_succ (Nat.le_of_ble_eq_true rfl) (hextend _ _) _).trans
  exact Rule.climbBy_of_strength_le (Nat.le_refl 0) _ _

/-- The column `a` against a pattern. -/
def pattern (escape : Option String) : Phrase := .like (.name ⟨"a", some '"'⟩) (.string "x!%") escape false

theorem readPhrase_pattern : readPhrase "\"a\" LIKE 'x!%'" = .ok (pattern none) := by
  have htokens : Sql.tokenize "\"a\" LIKE 'x!%'".toList =
      .ok [.word "a" (some '"'), .plain "LIKE", .string "x!%"] := rfl
  have hphrase := phrase_like "a" "x!%" (.inl ⟨rfl, rfl⟩)
  refine Outcome.bind_eq_ok_iff.2 ⟨_, Outcome.mapError_eq_ok_iff.2 htokens, ?_⟩
  rw [hphrase]
  rfl

theorem readPhrase_pattern_escape : readPhrase "\"a\" LIKE 'x!%' ESCAPE '!'" = .ok (pattern (some "!")) := by
  have htokens : Sql.tokenize "\"a\" LIKE 'x!%' ESCAPE '!'".toList =
      .ok [.word "a" (some '"'), .plain "LIKE", .string "x!%", .plain "ESCAPE", .string "!"] := rfl
  have hphrase := phrase_like "a" "x!%" (.inr ⟨"!", rfl, rfl⟩)
  refine Outcome.bind_eq_ok_iff.2 ⟨_, Outcome.mapError_eq_ok_iff.2 htokens, ?_⟩
  rw [hphrase]
  rfl

theorem standsFor_pattern (escape : Option String) :
    StandsFor (pattern escape) (.like (.column ["a"]) (.literal (.string "x!%")) false) := rfl

/-- A pattern with an escape character and the same pattern without one are read as one predicate. -/
theorem alike_iff_escapes_eq_pattern :
    ∃ p, read "\"a\" LIKE 'x!%' ESCAPE '!'" = .ok p ∧ read "\"a\" LIKE 'x!%'" = .ok p ∧
      (Alike Numeral.SameLiteral (pattern (some "!")) (pattern none) ↔
        (pattern (some "!")).escapes = (pattern none).escapes) := by
  have hescape := (read_eq_ok_iff readPhrase_pattern_escape).2 (standsFor_pattern (some "!"))
  have hplain := (read_eq_ok_iff readPhrase_pattern).2 (standsFor_pattern none)
  exact ⟨_, hescape, hplain,
    ((alike_iff_escapes_eq_of_read readPhrase_pattern_escape readPhrase_pattern).2 _ hescape hplain).1⟩

/-- Reading drops an escape character instead of refusing it. -/
theorem exists_read_eq_of_not_alike :
    ∃ s t φ ψ p, readPhrase s = .ok φ ∧ readPhrase t = .ok ψ ∧ read s = .ok p ∧ read t = .ok p ∧
      ¬Alike Numeral.SameLiteral φ ψ := by
  refine ⟨_, _, _, _, _, readPhrase_pattern_escape, readPhrase_pattern,
    (read_eq_ok_iff readPhrase_pattern_escape).2 (standsFor_pattern (some "!")),
    (read_eq_ok_iff readPhrase_pattern).2 (standsFor_pattern none), fun h => ?_⟩
  have hescapes : [some "!"] = [none] := h.escapes_eq
  cases hescapes

end Predicate

end Cohort
