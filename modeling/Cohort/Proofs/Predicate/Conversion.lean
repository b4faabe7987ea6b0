import Cohort.Predicate.Reading
import Cohort.Proofs.Outcome

/-!
# What phrases stand for

When a phrase stands for a predicate, constructor by constructor: its parts stand for the parts of the predicate, and
nothing else does.
-/

namespace Cohort.Predicate

open Outcome

def StandsFor (φ : Phrase) (p : Predicate) : Prop := ofPhrase φ = .ok p

/-- One phrase after the other. -/
def StandForAll (φs : List Phrase) (ps : List Predicate) : Prop := ofPhrases φs = .ok ps

variable {φ ψ χ : Phrase} {φs : List Phrase} {p q r : Predicate} {ps : List Predicate}

theorem standsFor_name_iff {n : WrittenName} : StandsFor (.name n) p ↔ p = .column [n.text] :=
  ⟨fun h => (Except.ok.inj h).symm, fun h => congrArg Except.ok h.symm⟩

theorem standsFor_path_iff {names : List WrittenName} :
    StandsFor (.path names) p ↔ p = .column (names.map WrittenName.text) :=
  ⟨fun h => (Except.ok.inj h).symm, fun h => congrArg Except.ok h.symm⟩

theorem standsFor_null_iff : StandsFor .null p ↔ p = .literal .null :=
  ⟨fun h => (Except.ok.inj h).symm, fun h => congrArg Except.ok h.symm⟩

theorem standsFor_boolean_iff {b : Bool} : StandsFor (.boolean b) p ↔ p = .literal (.boolean b) :=
  ⟨fun h => (Except.ok.inj h).symm, fun h => congrArg Except.ok h.symm⟩

theorem standsFor_string_iff {s : String} : StandsFor (.string s) p ↔ p = .literal (.string s) :=
  ⟨fun h => (Except.ok.inj h).symm, fun h => congrArg Except.ok h.symm⟩

theorem standsFor_number_iff {digits : String} {long : Bool} :
    StandsFor (.number digits long) p ↔ ∃ v, Literal.ofNumeral digits = .ok v ∧ p = .literal v := by
  change (Literal.ofNumeral digits).map Predicate.literal = .ok p ↔ _
  simp only [map_eq_ok_iff, @eq_comm _ p]

theorem standsFor_nested_iff : StandsFor (.nested φ) p ↔ StandsFor φ p := Iff.rfl

theorem ofConnective_eq_ok_iff {c : Connective} {op : Operator} : ofConnective c = .ok op ↔ c = .known op := by
  cases c with
  | known other =>
    change Except.ok other = Except.ok op ↔ _
    simp
  | foreign text =>
    change Except.error _ = Except.ok op ↔ _
    simp

theorem standsFor_binary_iff {c : Connective} :
    StandsFor (.binary φ c ψ) p ↔
      ∃ q op r, StandsFor φ q ∧ c = .known op ∧ StandsFor ψ r ∧ p = .binary q op r := by
  unfold StandsFor
  rw [ofPhrase]
  simp only [bind_eq_ok_iff, pure_eq_ok_iff, ofConnective_eq_ok_iff, @eq_comm _ p, exists_and_left]

theorem standsFor_not_iff : StandsFor (.not φ) p ↔ ∃ q, StandsFor φ q ∧ p = .not q := by
  unfold StandsFor
  rw [ofPhrase]
  simp only [bind_eq_ok_iff, pure_eq_ok_iff, @eq_comm _ p]

theorem standsFor_minus_iff : StandsFor (.minus φ) p ↔ ∃ q, StandsFor φ q ∧ p = q.negated := by
  unfold StandsFor
  rw [ofPhrase]
  simp only [bind_eq_ok_iff, pure_eq_ok_iff, @eq_comm _ p]

theorem standsFor_isNull_iff : StandsFor (.isNull φ) p ↔ ∃ q, StandsFor φ q ∧ p = .isNull q := by
  unfold StandsFor
  rw [ofPhrase]
  simp only [bind_eq_ok_iff, pure_eq_ok_iff, @eq_comm _ p]

theorem standsFor_isNotNull_iff : StandsFor (.isNotNull φ) p ↔ ∃ q, StandsFor φ q ∧ p = .isNotNull q := by
  unfold StandsFor
  rw [ofPhrase]
  simp only [bind_eq_ok_iff, pure_eq_ok_iff, @eq_comm _ p]

theorem standsFor_inList_iff {negated : Bool} :
    StandsFor (.inList φ φs negated) p ↔
      ∃ q ps, StandsFor φ q ∧ StandForAll φs ps ∧ p = .inList q ps negated := by
  unfold StandsFor StandForAll
  rw [ofPhrase]
  simp only [bind_eq_ok_iff, pure_eq_ok_iff, @eq_comm _ p, exists_and_left]

theorem standsFor_like_iff {escape : Option String} {negated : Bool} :
    StandsFor (.like φ ψ escape negated) p ↔
      ∃ q r, StandsFor φ q ∧ StandsFor ψ r ∧ p = .like q r negated := by
  unfold StandsFor
  rw [ofPhrase]
  simp only [bind_eq_ok_iff, pure_eq_ok_iff, @eq_comm _ p, exists_and_left]

theorem standsFor_between_iff {negated : Bool} :
    StandsFor (.between φ ψ χ negated) p ↔
      ∃ q low high, StandsFor φ q ∧ StandsFor ψ low ∧ StandsFor χ high ∧ p = .between q low high negated := by
  unfold StandsFor
  rw [ofPhrase]
  simp only [bind_eq_ok_iff, pure_eq_ok_iff, @eq_comm _ p, exists_and_left]

theorem not_standsFor_other {text : String} : ¬StandsFor (.other text) p := nofun

theorem standForAll_nil_iff : StandForAll [] ps ↔ ps = [] :=
  ⟨fun h => (Except.ok.inj h).symm, fun h => congrArg Except.ok h.symm⟩

theorem standForAll_cons_iff :
    StandForAll (φ :: φs) ps ↔ ∃ q qs, StandsFor φ q ∧ StandForAll φs qs ∧ ps = q :: qs := by
  unfold StandsFor StandForAll
  rw [ofPhrases]
  simp only [bind_eq_ok_iff, pure_eq_ok_iff, @eq_comm _ ps, exists_and_left]

end Cohort.Predicate
