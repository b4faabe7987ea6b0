import Cohort.Proofs.Predicate.Numbers
import Cohort.Proofs.Predicate.Offences
import Mathlib.Tactic.Ring

/-!
# Negation in 64 bits

Reading folds minus signs into the numbers after them. The numbers of a text are read as integers of 63 bits or as
finite decimals, so that each has an opposite of the same kind and no sign is lost to overflow. Together with the
columns, which all have parts, this leaves names as all that can keep a predicate that was read out of a query.
-/

namespace Cohort

namespace Literal

/-- Other than perhaps a number that has no opposite of its kind: the opposite of an integer fits into 64 bits with a
sign as well, and a decimal is finite. -/
def IsNegatable : Literal → Prop
  | .integer i => -maxInt64 ≤ i ∧ i ≤ maxInt64
  | .decimal x => x.isFinite = true
  | _ => True

theorem IsNegatable.opposite {v : Literal} (h : v.IsNegatable) : v.opposite.IsNegatable := by
  cases v with
  | integer i => exact ⟨Int.neg_le_neg h.2, Int.neg_le_of_neg_le h.1⟩
  | decimal x => exact (Double.isFinite_neg x).trans h
  | _ => trivial

/-- Digits have no sign, so that the least integer is not among the numbers that are kept exactly. -/
theorem isNegatable_of_ofNumeral {digits : String} {v : Literal} (h : ofNumeral digits = .ok v) : v.IsNegatable := by
  unfold ofNumeral at h
  split at h
  · next n hn =>
    cases h
    unfold wholeNumber? at hn
    dsimp only at hn
    split at hn
    · next hwhole =>
      cases hn
      have hsmall : digitsValue digits.toList < 0x8000000000000000 := hwhole.2.2
      unfold IsNegatable maxInt64
      omega
    · cases hn
  · split at h
    · split at h
      · next hfinite =>
        cases h
        exact hfinite
      · cases h
    · cases h

end Literal

theorem Numeral.isNegatable_of_literal? {n : Numeral} {v : Literal} (h : n.literal? = some v) : v.IsNegatable := by
  unfold literal? at h
  split at h
  · next w hw =>
    have hnegatable := Literal.isNegatable_of_ofNumeral hw
    cases h
    split
    · exact hnegatable.opposite
    · exact hnegatable
  · cases h

namespace Predicate

theorem mem_numbersOf_iff {items : List Predicate} {v : Literal} :
    v ∈ numbersOf items ↔ ∃ p ∈ items, v ∈ p.numbers := by
  induction items with
  | nil => simp [numbersOf]
  | cons p items ih => simp [numbersOf, ih]

theorem mem_numbers_of_mem_leaves {p : Predicate} {v : Literal} (hv : v.IsNumber) (h : Leaf.constant v ∈ p.leaves) :
    v ∈ p.numbers := by
  induction p using Predicate.induct with
  | column parts => cases List.mem_singleton.1 h
  | literal w =>
    cases List.mem_singleton.1 h
    rw [numbers_literal hv]
    exact List.mem_singleton.2 rfl
  | binary l op r ihl ihr => exact List.mem_append.2 ((List.mem_append.1 h).imp ihl ihr)
  | not p ih => exact ih h
  | isNull p ih => exact ih h
  | isNotNull p ih => exact ih h
  | inList p items negated ih ihitems =>
    refine List.mem_append.2 ((List.mem_append.1 h).imp ih fun hitems => mem_numbersOf_iff.2 ?_)
    obtain ⟨q, hq, hleaf⟩ := mem_leavesOf_iff.1 hitems
    exact ⟨q, hq, ihitems q hq hleaf⟩
  | like p pattern negated ih ihpattern => exact List.mem_append.2 ((List.mem_append.1 h).imp ih ihpattern)
  | between p low high negated ih ihlow ihhigh =>
    refine List.mem_append.2 ((List.mem_append.1 h).imp ih fun hbounds => ?_)
    exact List.mem_append.2 ((List.mem_append.1 hbounds).imp ihlow ihhigh)

variable {φ : Phrase} {p : Predicate}

theorem isNegatable_of_standsFor (h : StandsFor φ p) {v : Literal} (hv : Leaf.constant v ∈ p.leaves) :
    v.IsNegatable := by
  have hnumber (hnumber : v.IsNumber) : v.IsNegatable := by
    have hmem : some v ∈ φ.numerals.map Numeral.literal? := by
      rw [map_literal?_numerals h]
      exact List.mem_map_of_mem (mem_numbers_of_mem_leaves hnumber hv)
    obtain ⟨n, -, hn⟩ := List.mem_map.1 hmem
    exact Numeral.isNegatable_of_literal? hn
  cases v with
  | integer i => exact hnumber trivial
  | decimal x => exact hnumber trivial
  | _ => trivial

/-- The predicate times minus one, as far as words of 64 bits can tell: the least integer stays what it is. -/
def negatedInWord : Predicate → Predicate
  | .literal (.integer i) => .literal (.integer (-Int64.ofInt i).toInt)
  | p => p.negated

example : negatedInWord (.literal (.integer minInt64)) = .literal (.integer minInt64) := rfl

theorem toInt_neg_ofInt {i : Int} (h : -maxInt64 ≤ i ∧ i ≤ maxInt64) : (-Int64.ofInt i).toInt = -i := by
  unfold maxInt64 at h
  have hword : (Int64.ofInt i).toInt = i := Int64.toInt_ofInt_of_le (by omega) (by omega)
  rw [Int64.toInt_neg, hword]
  apply Int.bmod_eq_of_le <;> omega

theorem negatedInWord_integer {i : Int} (h : -maxInt64 ≤ i ∧ i ≤ maxInt64) :
    negatedInWord (.literal (.integer i)) = .literal (.integer (-i)) := by
  rw [negatedInWord, toInt_neg_ofInt h]

/-- However often it is negated, the integer comes back or its opposite does. -/
theorem iterate_negatedInWord {i : Int} (h : -maxInt64 ≤ i ∧ i ≤ maxInt64) (k : Nat) :
    negatedInWord^[k] (.literal (.integer i)) = .literal (.integer ((-1) ^ k * i)) := by
  induction k generalizing i with
  | zero => simp
  | succ k ih =>
    have hopposite : -maxInt64 ≤ -i ∧ -i ≤ maxInt64 := by omega
    rw [Function.iterate_succ_apply, negatedInWord_integer h, ih hopposite]
    congr 2
    ring

theorem negatedInWord_eq_negated (h : StandsFor φ p) : p.negatedInWord = p.negated := by
  cases p with
  | literal v =>
    cases v with
    | integer i => exact negatedInWord_integer (isNegatable_of_standsFor h (List.mem_singleton.2 rfl))
    | _ => rfl
  | _ => rfl

end Predicate

namespace Phrase

mutual

/-- The parts of the phrase with a minus sign right before them. -/
def negatedParts : Phrase → List Phrase
  | .nested p => p.negatedParts
  | .binary l _ r => l.negatedParts ++ r.negatedParts
  | .not p => p.negatedParts
  | .minus p => p :: p.negatedParts
  | .isNull p => p.negatedParts
  | .isNotNull p => p.negatedParts
  | .inList p items _ => p.negatedParts ++ negatedPartsOf items
  | .like p pattern _ _ => p.negatedParts ++ pattern.negatedParts
  | .between p low high _ => p.negatedParts ++ (low.negatedParts ++ high.negatedParts)
  | _ => []

def negatedPartsOf : List Phrase → List Phrase
  | [] => []
  | p :: ps => p.negatedParts ++ negatedPartsOf ps

end

mutual

/-- Predicates can express a phrase only if they can express what its signs are folded into. -/
theorem isExpressible_negatedParts : ∀ φ : Phrase, φ.IsExpressible → ∀ ψ ∈ φ.negatedParts, ψ.IsExpressible
  | .nested φ, h => φ.isExpressible_negatedParts h
  | .binary l _ r, h =>
    List.forall_mem_append.2 ⟨l.isExpressible_negatedParts h.1, r.isExpressible_negatedParts h.2.2⟩
  | .not φ, h => φ.isExpressible_negatedParts h
  | .minus φ, h => List.forall_mem_cons.2 ⟨h, φ.isExpressible_negatedParts h⟩
  | .isNull φ, h => φ.isExpressible_negatedParts h
  | .isNotNull φ, h => φ.isExpressible_negatedParts h
  | .inList φ items _, h =>
    List.forall_mem_append.2 ⟨φ.isExpressible_negatedParts h.1, isExpressible_negatedPartsOf items h.2⟩
  | .like φ pattern _ _, h =>
    List.forall_mem_append.2 ⟨φ.isExpressible_negatedParts h.1, pattern.isExpressible_negatedParts h.2⟩
  | .between φ low high _, h =>
    List.forall_mem_append.2 ⟨φ.isExpressible_negatedParts h.1,
      List.forall_mem_append.2 ⟨low.isExpressible_negatedParts h.2.1, high.isExpressible_negatedParts h.2.2⟩⟩
  | .name _, _ | .path _, _ | .null, _ | .boolean _, _ | .string _, _ | .number _ _, _ | .other _, _ =>
    List.forall_mem_nil _

theorem isExpressible_negatedPartsOf : ∀ φs : List Phrase, AreExpressible φs →
    ∀ ψ ∈ negatedPartsOf φs, ψ.IsExpressible
  | [], _ => List.forall_mem_nil _
  | φ :: φs, h =>
    List.forall_mem_append.2 ⟨φ.isExpressible_negatedParts h.1, isExpressible_negatedPartsOf φs h.2⟩

end

end Phrase

namespace Predicate

variable {φ : Phrase} {p : Predicate}

/-- Every minus sign of a phrase that stands for a predicate is computed without overflow. -/
theorem negatedInWord_negatedParts (h : StandsFor φ p) :
    ∀ ψ ∈ φ.negatedParts, ∃ q, StandsFor ψ q ∧ q.negatedInWord = q.negated := by
  intro ψ hψ
  have hexpressible := (exists_standsFor_iff φ).1 ⟨p, h⟩
  obtain ⟨q, hq⟩ := (exists_standsFor_iff ψ).2 (φ.isExpressible_negatedParts hexpressible ψ hψ)
  exact ⟨q, hq, negatedInWord_eq_negated hq⟩

/-! ## Columns and refusals -/

theorem mem_leaves_negated {parts : List String} (h : Leaf.column parts ∈ p.negated.leaves) :
    Leaf.column parts ∈ p.leaves := by
  have hdifference (q : Predicate)
      (h : Leaf.column parts ∈ leaves (.binary (.literal (.integer 0)) .minus q)) : Leaf.column parts ∈ q.leaves := by
    simpa [leaves] using h
  cases p with
  | literal v =>
    cases v with
    | integer i => simp [negated, leaves] at h
    | decimal x => simp [negated, leaves] at h
    | _ => exact hdifference _ h
  | _ => exact hdifference _ h

mutual

/-- Every column has a part: a path has two names or more, and a name is a part. -/
theorem ne_nil_of_mem_leaves : ∀ (φ : Phrase) {p : Predicate}, φ.HasLongPaths → StandsFor φ p →
    ∀ parts, Leaf.column parts ∈ p.leaves → parts ≠ []
  | .name n, p, _, h, parts, hparts => by
    obtain rfl := standsFor_name_iff.1 h
    cases List.mem_singleton.1 hparts
    exact List.cons_ne_nil _ _
  | .path names, p, hpaths, h, parts, hparts => by
    obtain rfl := standsFor_path_iff.1 h
    cases List.mem_singleton.1 hparts
    have hlength : 2 ≤ names.length := hpaths
    exact List.ne_nil_of_length_pos (by rw [List.length_map]; omega)
  | .null, p, _, h, parts, hparts => by
    obtain rfl := standsFor_null_iff.1 h
    cases List.mem_singleton.1 hparts
  | .boolean b, p, _, h, parts, hparts => by
    obtain rfl := standsFor_boolean_iff.1 h
    cases List.mem_singleton.1 hparts
  | .string s, p, _, h, parts, hparts => by
    obtain rfl := standsFor_string_iff.1 h
    cases List.mem_singleton.1 hparts
  | .number digits long, p, _, h, parts, hparts => by
    obtain ⟨v, -, rfl⟩ := standsFor_number_iff.1 h
    cases List.mem_singleton.1 hparts
  | .nested φ, _, hpaths, h, parts, hparts =>
    ne_nil_of_mem_leaves φ hpaths (standsFor_nested_iff.1 h) parts hparts
  | .binary l c r, p, hpaths, h, parts, hparts => by
    obtain ⟨q, op, q', hl, rfl, hr, rfl⟩ := standsFor_binary_iff.1 h
    obtain hleft | hright := List.mem_append.1 hparts
    · exact ne_nil_of_mem_leaves l hpaths.1 hl parts hleft
    · exact ne_nil_of_mem_leaves r hpaths.2 hr parts hright
  | .not φ, p, hpaths, h, parts, hparts => by
    obtain ⟨q, hq, rfl⟩ := standsFor_not_iff.1 h
    exact ne_nil_of_mem_leaves φ hpaths hq parts hparts
  | .minus φ, p, hpaths, h, parts, hparts => by
    obtain ⟨q, hq, rfl⟩ := standsFor_minus_iff.1 h
    exact ne_nil_of_mem_leaves φ hpaths hq parts (mem_leaves_negated hparts)
  | .isNull φ, p, hpaths, h, parts, hparts => by
    obtain ⟨q, hq, rfl⟩ := standsFor_isNull_iff.1 h
    exact ne_nil_of_mem_leaves φ hpaths hq parts hparts
  | .isNotNull φ, p, hpaths, h, parts, hparts => by
    obtain ⟨q, hq, rfl⟩ := standsFor_isNotNull_iff.1 h
    exact ne_nil_of_mem_leaves φ hpaths hq parts hparts
  | .inList φ items negated, p, hpaths, h, parts, hparts => by
    obtain ⟨q, qs, hq, hqs, rfl⟩ := standsFor_inList_iff.1 h
    obtain hoperand | hitems := List.mem_append.1 hparts
    · exact ne_nil_of_mem_leaves φ hpaths.1 hq parts hoperand
    · exact ne_nil_of_mem_leavesOf items hpaths.2 hqs parts hitems
  | .like φ ψ escape negated, p, hpaths, h, parts, hparts => by
    obtain ⟨q, r, hq, hr, rfl⟩ := standsFor_like_iff.1 h
    obtain hoperand | hpattern := List.mem_append.1 hparts
    · exact ne_nil_of_mem_leaves φ hpaths.1 hq parts hoperand
    · exact ne_nil_of_mem_leaves ψ hpaths.2 hr parts hpattern
  | .between φ ψ χ negated, p, hpaths, h, parts, hparts => by
    obtain ⟨q, low, high, hq, hlow, hhigh, rfl⟩ := standsFor_between_iff.1 h
    obtain hoperand | hbounds := List.mem_append.1 hparts
    · exact ne_nil_of_mem_leaves φ hpaths.1 hq parts hoperand
    obtain hlowest | hhighest := List.mem_append.1 hbounds
    · exact ne_nil_of_mem_leaves ψ hpaths.2.1 hlow parts hlowest
    · exact ne_nil_of_mem_leaves χ hpaths.2.2 hhigh parts hhighest
  | .other text, _, _, h, _, _ => (not_standsFor_other h).elim

theorem ne_nil_of_mem_leavesOf : ∀ (φs : List Phrase) {ps : List Predicate}, Phrase.HaveLongPaths φs →
    StandForAll φs ps → ∀ parts, Leaf.column parts ∈ leavesOf ps → parts ≠ []
  | [], ps, _, h, parts, hparts => by
    obtain rfl := standForAll_nil_iff.1 h
    cases hparts
  | φ :: φs, ps, hpaths, h, parts, hparts => by
    obtain ⟨q, qs, hq, hqs, rfl⟩ := standForAll_cons_iff.1 h
    obtain hfirst | hlater := List.mem_append.1 hparts
    · exact ne_nil_of_mem_leaves φ hpaths.1 hq parts hfirst
    · exact ne_nil_of_mem_leavesOf φs hpaths.2 hqs parts hlater

end

theorem Leaf.exists_of_offence?_column {parts : List String} {e : QueryError} (hne : parts ≠ [])
    (h : (Leaf.column parts).offence? = some e) :
    ∃ n ∈ parts, isName n = false ∧ e = .request (.invalidName "filter column" n) := by
  obtain ⟨first, later, rfl⟩ := List.exists_cons_of_ne_nil hne
  rw [Leaf.offence?_column_cons] at h
  obtain ⟨n, hn, rfl⟩ := Option.map_eq_some_iff.1 h
  have hbad := List.find?_some hn
  exact ⟨n, List.mem_of_find?_eq_some hn, by simpa using hbad, rfl⟩

theorem Leaf.offence?_constant {v : Literal} (h : v.IsNegatable) : (Leaf.constant v).offence? = none := by
  cases v with
  | decimal x => exact if_pos h
  | _ => rfl

/-- The columns of a predicate that is read from a text have parts, its decimals are finite, and its integers have
opposites: no minus sign overflows in 64 bits, neither those of the text nor any number of further ones. The predicate
is kept out of queries only by a part of a column that is no name. -/
theorem read_negatable {s : String} {p : Predicate} (h : read s = .ok p) :
    (∀ parts, Leaf.column parts ∈ p.leaves → parts ≠ []) ∧
      (∀ x, Leaf.constant (.decimal x) ∈ p.leaves → x.isFinite = true) ∧
      (∀ i, Leaf.constant (.integer i) ∈ p.leaves → (-maxInt64 ≤ i ∧ i ≤ maxInt64) ∧
        ∀ k, negatedInWord^[k] (.literal (.integer i)) = .literal (.integer ((-1) ^ k * i))) ∧
      (∃ φ, readPhrase s = .ok φ ∧ ∀ ψ ∈ φ.negatedParts, ∃ q, StandsFor ψ q ∧ q.negatedInWord = q.negated) ∧
      ∀ e, Sql.Term.ofPredicate p = .error e → ∃ parts, Leaf.column parts ∈ p.leaves ∧
        ∃ n ∈ parts, isName n = false ∧ e = .request (.invalidName "filter column" n) := by
  obtain ⟨φ, hφ, hp⟩ := Outcome.bind_eq_ok_iff.1 h
  have hcolumns := ne_nil_of_mem_leaves φ (hasLongPaths_of_readPhrase hφ) hp
  have hconstants {v : Literal} (hv : Leaf.constant v ∈ p.leaves) := isNegatable_of_standsFor hp hv
  refine ⟨hcolumns, fun x hx => hconstants hx, fun i hi => ⟨hconstants hi, iterate_negatedInWord (hconstants hi)⟩,
    ⟨φ, hφ, negatedInWord_negatedParts hp⟩, fun e he => ?_⟩
  obtain ⟨leaf, hleaf, hoffence⟩ :=
    List.exists_of_findSome?_eq_some ((reports_ofPredicate p).findSome?_eq_of_error he)
  cases leaf with
  | column parts => exact ⟨parts, hleaf, Leaf.exists_of_offence?_column (hcolumns parts hleaf) hoffence⟩
  | constant v =>
    rw [Leaf.offence?_constant (hconstants hleaf)] at hoffence
    cases hoffence

theorem readPhrase_opposites : readPhrase "-(-9223372036854775807)" =
    .ok (.minus (.nested (.minus (.number "9223372036854775807" false)))) :=
  readPhrase_of_tokens (show Sql.tokenize _ = .ok [.symbol .minus, .symbol .leftParen, .symbol .minus,
    .number "9223372036854775807" false, .symbol .rightParen] from rfl) rfl

/-- The greatest integer of 64 bits is read from its opposite, and no further sign overflows. -/
theorem read_negatable_greatest :
    read "-(-9223372036854775807)" = .ok (.literal (.integer maxInt64)) ∧
      ∀ k, negatedInWord^[k] (.literal (.integer maxInt64)) = .literal (.integer ((-1) ^ k * maxInt64)) := by
  have hread : read "-(-9223372036854775807)" = .ok (.literal (.integer maxInt64)) :=
    (read_eq_ok_iff readPhrase_opposites).2 rfl
  obtain ⟨-, -, hintegers, -, -⟩ := read_negatable hread
  exact ⟨hread, (hintegers maxInt64 (List.mem_singleton.2 rfl)).2⟩

end Predicate

end Cohort
