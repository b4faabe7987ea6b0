import Cohort.Proofs.Number.Numeral
import Cohort.Proofs.Number.Rounding
import Cohort.Proofs.Predicate.Faithfulness
import Mathlib.Data.List.TakeWhile

/-!
# What numbers are read as

A number in digits is read as itself, with the minus signs before it, as long as its size fits into 63 bits. Larger
ones are read as the nearest doubles, and those that would be infinite are refused. A minus sign only changes the sign
of what its number has been read as, so that the least number of 64 bits with a sign is among the larger ones.
-/

namespace Cohort

namespace Double

theorem neg_ofRatio (negative : Bool) (num den : Nat) : -ofRatio negative num den = ofRatio (!negative) num den := by
  unfold ofRatio
  split <;> rfl

theorem ofDecimal_zero (negative : Bool) (digits : Nat) : ofDecimal negative digits 0 = ofRatio negative digits 1 := by
  by_cases h : digits = 0
  · unfold ofDecimal ofRatio
    rw [if_pos h, if_pos h]
  · rw [ofDecimal, if_neg h, if_neg (by decide), if_neg (by omega), if_neg (by decide)]
    rw [show (0 : Int).toNat = 0 from rfl, tenPow_zero, Nat.mul_one]

theorem ofInt_natCast (m : Nat) : ofInt m = ofRatio false m 1 := by
  have hsign : ¬((m : Int) < 0) := by omega
  rw [ofInt, Int.natAbs_natCast, decide_eq_false hsign]

theorem ofInt_neg {i : Int} (h : i ≠ 0) : ofInt (-i) = -ofInt i := by
  have hsign : decide (-i < 0) = !decide (i < 0) := by
    rw [← decide_not]
    apply decide_eq_decide.2
    omega
  rw [ofInt, ofInt, neg_ofRatio, Int.natAbs_neg, hsign]

theorem toLower_of_isDigit {c : Char} (h : c.isDigit = true) : c.toLower = c := by
  have hdigit : c.val ≤ 57 := by
    simp only [Char.isDigit, Bool.and_eq_true, decide_eq_true_eq] at h
    exact h.2
  unfold Char.toLower
  rw [dif_neg]
  rintro ⟨hlow, -⟩
  exact absurd (UInt32.le_trans hlow hdigit) (by decide)

theorem map_toLower_of_areDigits {cs : List Char} (h : AreDigits cs) : cs.map Char.toLower = cs := by
  apply (List.map_congr_left fun c hc => toLower_of_isDigit (h c hc)).trans
  exact List.map_id' cs

/-- Digits alone are no name of a value. -/
theorem ne_toList_of_areDigits {cs : List Char} (h : AreDigits cs) (word : String)
    (hword : ∃ c ∈ word.toList, c.isDigit = false) : cs ≠ word.toList := by
  rintro rfl
  obtain ⟨c, hc, hdigit⟩ := hword
  rw [h c hc] at hdigit
  cases hdigit

theorem takeSign_of_areDigits {cs : List Char} (h : AreDigits cs) : takeSign cs = (false, cs) := by
  unfold takeSign
  split
  · exact absurd (h '-' (List.mem_cons_self ..)) (by decide)
  · exact absurd (h '+' (List.mem_cons_self ..)) (by decide)
  · rfl

/-- The double that digits alone are read as. -/
theorem ofText?_of_areDigits {digits : String} (hne : digits.toList ≠ []) (h : AreDigits digits.toList) :
    ofText? digits = some (ofInt (digitsValue digits.toList)) := by
  have hwhole : digits.toList.takeWhile Char.isDigit = digits.toList := List.takeWhile_eq_self_iff.2 h
  have hrest : digits.toList.dropWhile Char.isDigit = [] := List.dropWhile_eq_nil_iff.2 h
  have hinf := ne_toList_of_areDigits h "inf" ⟨'i', by decide, by decide⟩
  have hinfinity := ne_toList_of_areDigits h "infinity" ⟨'i', by decide, by decide⟩
  have hnan := ne_toList_of_areDigits h "nan" ⟨'n', by decide, by decide⟩
  unfold ofText?
  rw [takeSign_of_areDigits h]
  dsimp only
  rw [map_toLower_of_areDigits h, if_neg (not_or.2 ⟨hinf, hinfinity⟩), if_neg hnan, hwhole, hrest]
  dsimp only
  rw [if_neg fun hnil => hne hnil.1, List.append_nil, ofInt_natCast, ← ofDecimal_zero]
  rfl

end Double

namespace Numeral

/-- The number is written in digits alone. -/
def IsWhole (n : Numeral) : Prop := n.digits.toList ≠ [] ∧ AreDigits n.digits.toList

/-- The whole number that digits and their sign stand for. -/
def value (n : Numeral) : Int :=
  if n.negative then -(digitsValue n.digits.toList : Int) else digitsValue n.digits.toList

/-- The number can be read at all. -/
def IsReadable (n : Numeral) : Prop := ∃ v, n.literal? = some v

variable {n : Numeral}

theorem isReadable_iff : n.IsReadable ↔ ∃ v, Literal.ofNumeral n.digits = .ok v := by
  unfold IsReadable literal?
  cases Literal.ofNumeral n.digits <;> simp

theorem isReadable_opposite_iff : n.opposite.IsReadable ↔ n.IsReadable := by
  rw [isReadable_iff, isReadable_iff]
  exact Iff.rfl

theorem natAbs_value : n.value.natAbs = digitsValue n.digits.toList := by
  unfold value
  split <;> omega

end Numeral

namespace Literal

/-- What a number in digits is read as, if at all. -/
theorem ofNumeral_of_isWhole {digits : String} (h : Numeral.IsWhole ⟨false, digits⟩) :
    ofNumeral digits =
      if digitsValue digits.toList < twoPow 63 then .ok (.integer (digitsValue digits.toList))
      else if digitsValue digits.toList < Double.finiteLimit then
        .ok (.decimal (Double.ofInt (digitsValue digits.toList)))
      else .error (.badRequest ("invalid number " ++ digits)) := by
  obtain ⟨hne, hdigits⟩ := h
  have hall : digits.toList.all Char.isDigit = true := List.all_eq_true.2 hdigits
  by_cases hsmall : digitsValue digits.toList < twoPow 63
  · have hwhole : wholeNumber? digits = some (digitsValue digits.toList : Int) := if_pos ⟨hne, hall, hsmall⟩
    rw [ofNumeral, hwhole, if_pos hsmall]
  · have hwhole : wholeNumber? digits = none := if_neg fun hwhole => hsmall hwhole.2.2
    have hbits : twoPow 52 ≤ (digitsValue digits.toList : Int).natAbs := by
      rw [Int.natAbs_natCast]
      exact Nat.le_trans (by decide) (Nat.not_lt.1 hsmall)
    have hfinite := Double.isFinite_ofInt_iff hbits
    rw [Int.natAbs_natCast] at hfinite
    rw [ofNumeral, hwhole, if_neg hsmall, Double.ofText?_of_areDigits hne hdigits]
    exact if_congr hfinite rfl rfl

/-- The constant is the whole number itself where its size fits into 63 bits, and otherwise the finite double that the
number is rounded to, the even one of two, than which none is nearer. -/
inductive Rounds (i : Int) : Literal → Prop
  | exactly (h : i.natAbs < twoPow 63) : Rounds i (.integer i)
  | nearly (h : twoPow 63 ≤ i.natAbs) (hfinite : (Double.ofInt i).isFinite = true)
    (hnearest : ∀ y : Double,
      ((Double.ofInt i).units - i * twoPow 1074).natAbs ≤ (y.units - i * twoPow 1074).natAbs) :
    Rounds i (.decimal (Double.ofInt i))

end Literal

namespace Numeral

variable {n : Numeral}

theorem literal?_of_isWhole (h : n.IsWhole) :
    n.literal? =
      if n.value.natAbs < twoPow 63 then some (.integer n.value)
      else if n.value.natAbs < Double.finiteLimit then some (.decimal (Double.ofInt n.value))
      else none := by
  obtain ⟨negative, digits⟩ := n
  rw [natAbs_value, literal?, Literal.ofNumeral_of_isWhole h]
  by_cases hsmall : digitsValue digits.toList < twoPow 63
  · rw [if_pos hsmall, if_pos hsmall]
    cases negative <;> rfl
  · rw [if_neg hsmall, if_neg hsmall]
    by_cases hfinite : digitsValue digits.toList < Double.finiteLimit
    · rw [if_pos hfinite, if_pos hfinite]
      cases negative with
      | false => rfl
      | true =>
        have hne : (digitsValue digits.toList : Int) ≠ 0 := by
          have := twoPow_pos 63
          omega
        exact congrArg (fun x => some (Literal.decimal x)) (Double.ofInt_neg hne).symm
    · rw [if_neg hfinite, if_neg hfinite]

/-- A whole number can be read unless it is too large for any finite double. -/
theorem isReadable_iff_of_isWhole (h : n.IsWhole) : n.IsReadable ↔ n.value.natAbs < Double.finiteLimit := by
  unfold IsReadable
  rw [literal?_of_isWhole h]
  by_cases hsmall : n.value.natAbs < twoPow 63
  · rw [if_pos hsmall]
    exact iff_of_true ⟨_, rfl⟩ (Nat.lt_trans hsmall (Double.lt_finiteLimit (by decide)))
  · rw [if_neg hsmall]
    by_cases hfinite : n.value.natAbs < Double.finiteLimit
    · rw [if_pos hfinite]
      exact iff_of_true ⟨_, rfl⟩ hfinite
    · rw [if_neg hfinite]
      exact iff_of_false (fun ⟨_, hv⟩ => nomatch hv) hfinite

/-- Reading rounds whole numbers, the small ones not at all. -/
theorem rounds_of_isWhole (h : n.IsWhole) {v : Literal} (hv : n.literal? = some v) : v.Rounds n.value := by
  have hlimit := (isReadable_iff_of_isWhole h).1 ⟨v, hv⟩
  rw [literal?_of_isWhole h] at hv
  by_cases hsmall : n.value.natAbs < twoPow 63
  · rw [if_pos hsmall] at hv
    cases hv
    exact .exactly hsmall
  · rw [if_neg hsmall, if_pos hlimit] at hv
    cases hv
    have hlarge := Nat.not_lt.1 hsmall
    have hbits : twoPow 52 ≤ n.value.natAbs := Nat.le_trans (by decide) hlarge
    have hfinite := (Double.isFinite_ofInt_iff hbits).2 hlimit
    exact .nearly hlarge hfinite (Double.ofInt_nearest hbits hfinite)

end Numeral

/-! ## Numbers in phrases -/

namespace Phrase

mutual

/-- Predicates can express the phrase but for its escape characters and perhaps its numbers. -/
def HasForms : Phrase → Prop
  | .name _ => True
  | .path _ => True
  | .null => True
  | .boolean _ => True
  | .string _ => True
  | .number _ _ => True
  | .nested p => p.HasForms
  | .binary l c r => l.HasForms ∧ (∃ op, c = .known op) ∧ r.HasForms
  | .not p => p.HasForms
  | .minus p => p.HasForms
  | .isNull p => p.HasForms
  | .isNotNull p => p.HasForms
  | .inList p items _ => p.HasForms ∧ HaveForms items
  | .like p pattern _ _ => p.HasForms ∧ pattern.HasForms
  | .between p low high _ => p.HasForms ∧ low.HasForms ∧ high.HasForms
  | .other _ => False

def HaveForms : List Phrase → Prop
  | [] => True
  | p :: ps => p.HasForms ∧ HaveForms ps

end

theorem isReadable_zero : Numeral.IsReadable ⟨false, "0"⟩ := ⟨.integer 0, by decide⟩

mutual

/-- What remains to be asked of a phrase of the right forms is that its numbers can be read. -/
theorem isExpressible_iff : ∀ φ : Phrase, φ.IsExpressible ↔ φ.HasForms ∧ ∀ n ∈ φ.numerals, n.IsReadable
  | .name n => by simp [IsExpressible, HasForms, numerals]
  | .path names => by simp [IsExpressible, HasForms, numerals]
  | .null => by simp [IsExpressible, HasForms, numerals]
  | .boolean b => by simp [IsExpressible, HasForms, numerals]
  | .string s => by simp [IsExpressible, HasForms, numerals]
  | .number digits long => by simp [IsExpressible, HasForms, numerals, Numeral.isReadable_iff]
  | .nested φ => isExpressible_iff φ
  | .binary l c r => by
    rw [IsExpressible, HasForms, numerals, List.forall_mem_append, isExpressible_iff l, isExpressible_iff r]
    grind
  | .not φ => isExpressible_iff φ
  | .minus φ => by
    rw [IsExpressible, HasForms, isExpressible_iff φ, numerals]
    split
    · next n hn =>
      rw [(numerals_of_numeral? hn).1, List.forall_mem_singleton, List.forall_mem_singleton,
        Numeral.isReadable_opposite_iff]
    · rw [List.forall_mem_cons, and_iff_right isReadable_zero]
  | .isNull φ => isExpressible_iff φ
  | .isNotNull φ => isExpressible_iff φ
  | .inList φ items negated => by
    rw [IsExpressible, HasForms, numerals, List.forall_mem_append, isExpressible_iff φ, areExpressible_iff items]
    grind
  | .like φ ψ escape negated => by
    rw [IsExpressible, HasForms, numerals, List.forall_mem_append, isExpressible_iff φ, isExpressible_iff ψ]
    grind
  | .between φ ψ χ negated => by
    rw [IsExpressible, HasForms, numerals, List.forall_mem_append, List.forall_mem_append, isExpressible_iff φ,
      isExpressible_iff ψ, isExpressible_iff χ]
    grind
  | .other text => by simp [IsExpressible, HasForms]

theorem areExpressible_iff : ∀ φs : List Phrase,
    AreExpressible φs ↔ HaveForms φs ∧ ∀ n ∈ numeralsOf φs, n.IsReadable
  | [] => by simp [AreExpressible, HaveForms, numeralsOf]
  | φ :: φs => by
    rw [AreExpressible, HaveForms, numeralsOf, List.forall_mem_append, isExpressible_iff φ, areExpressible_iff φs]
    grind

end

end Phrase

/-- What the computation fails with is a bad request. -/
def Blames {α : Type} (x : Except RequestError α) : Prop := ∀ e, x = .error e → ∃ reason, e = .badRequest reason

namespace Blames

variable {α β : Type} {x : Except RequestError α} {f : α → Except RequestError β}

theorem ok (a : α) : Blames (.ok a) := nofun

theorem error (reason : String) : Blames (.error (.badRequest reason) : Except RequestError α) := by
  intro e he
  cases he
  exact ⟨reason, rfl⟩

theorem bind (hx : Blames x) (hf : ∀ a, Blames (f a)) : Blames (x >>= f) := by
  intro e he
  cases x with
  | error e' =>
    cases he
    exact hx e rfl
  | ok a => exact hf a e he

end Blames

theorem Literal.blames_ofNumeral (digits : String) : Blames (ofNumeral digits) := by
  unfold ofNumeral
  split
  · exact .ok _
  · split
    · split
      · exact .ok _
      · exact .error _
    · exact .error _

namespace Predicate

theorem blames_ofConnective : ∀ c : Connective, Blames (ofConnective c)
  | .known op => .ok op
  | .foreign _ => .error _

mutual

/-- A phrase that is no predicate is a bad request. -/
theorem blames_ofPhrase : ∀ φ : Phrase, Blames (ofPhrase φ)
  | .name _ => .ok _
  | .path _ => .ok _
  | .null => .ok _
  | .boolean _ => .ok _
  | .string _ => .ok _
  | .number digits _ => by
    have hdigits := (Literal.blames_ofNumeral digits).bind fun v => .ok (Predicate.literal v)
    intro e he
    apply hdigits e
    rw [← he, ofPhrase]
    cases Literal.ofNumeral digits <;> rfl
  | .nested φ => blames_ofPhrase φ
  | .binary l c r =>
    (blames_ofPhrase l).bind fun _ => (blames_ofConnective c).bind fun _ => (blames_ofPhrase r).bind fun _ => .ok _
  | .not φ => (blames_ofPhrase φ).bind fun _ => .ok _
  | .minus φ => (blames_ofPhrase φ).bind fun _ => .ok _
  | .isNull φ => (blames_ofPhrase φ).bind fun _ => .ok _
  | .isNotNull φ => (blames_ofPhrase φ).bind fun _ => .ok _
  | .inList φ items _ => (blames_ofPhrase φ).bind fun _ => (blames_ofPhrases items).bind fun _ => .ok _
  | .like φ ψ _ _ => (blames_ofPhrase φ).bind fun _ => (blames_ofPhrase ψ).bind fun _ => .ok _
  | .between φ ψ χ _ =>
    (blames_ofPhrase φ).bind fun _ => (blames_ofPhrase ψ).bind fun _ => (blames_ofPhrase χ).bind fun _ => .ok _
  | .other _ => .error _

theorem blames_ofPhrases : ∀ φs : List Phrase, Blames (ofPhrases φs)
  | [] => .ok _
  | φ :: φs => (blames_ofPhrase φ).bind fun _ => (blames_ofPhrases φs).bind fun _ => .ok _

end

variable {s : String} {φ : Phrase}

theorem exists_read_iff (h : readPhrase s = .ok φ) :
    (∃ p, read s = .ok p) ↔ φ.HasForms ∧ ∀ n ∈ φ.numerals, n.IsReadable := by
  rw [← Phrase.isExpressible_iff, ← exists_standsFor_iff]
  simp only [read_eq_ok_iff h]

theorem forall₂_numbers {p : Predicate} (h : StandsFor φ p) :
    List.Forall₂ (fun n v => n.literal? = some v) φ.numerals p.numbers := by
  have hmap : List.Forall₂ (· = ·) (φ.numerals.map Numeral.literal?) (p.numbers.map some) := by
    rw [List.forall₂_eq_eq_eq, map_literal?_numerals h]
  exact List.forall₂_map_right_iff.1 (List.forall₂_map_left_iff.1 hmap)

/-- A text is read as a predicate just if it has the forms of one and all its numbers can be read, where a number in
digits can be read unless it would be rounded to infinity. The numbers of the predicate are then those of the text, one
by one: a number in digits is kept exactly if its size fits into 63 bits, and otherwise as the nearest double. A text
with a larger number is a bad request. -/
theorem read_whole_numbers (h : readPhrase s = .ok φ) :
    ((∃ p, read s = .ok p) ↔ φ.HasForms ∧ ∀ n ∈ φ.numerals, n.IsReadable) ∧
      (∀ p, read s = .ok p →
        List.Forall₂ (fun n v => n.literal? = some v ∧ (n.IsWhole → v.Rounds n.value)) φ.numerals p.numbers) ∧
      ∀ n ∈ φ.numerals, n.IsWhole →
        (n.IsReadable ↔ n.value.natAbs < Double.finiteLimit) ∧
          (Double.finiteLimit ≤ n.value.natAbs → ∃ reason, read s = .error (.badRequest reason)) := by
  refine ⟨exists_read_iff h, fun p hp => ?_, fun n hn hwhole => ⟨Numeral.isReadable_iff_of_isWhole hwhole, ?_⟩⟩
  · apply (forall₂_numbers ((read_eq_ok_iff h).1 hp)).imp
    exact fun n v hv => ⟨hv, fun hwhole => Numeral.rounds_of_isWhole hwhole hv⟩
  · intro hlarge
    have hread : read s = ofPhrase φ := by
      unfold read
      rw [h]
      rfl
    have hfails : ¬∃ p, read s = .ok p := by
      rw [exists_read_iff h]
      exact fun hreadable =>
        Nat.not_lt.2 hlarge ((Numeral.isReadable_iff_of_isWhole hwhole).1 (hreadable.2 n hn))
    cases hp : read s with
    | ok p => exact absurd ⟨p, hp⟩ hfails
    | error e =>
      obtain ⟨reason, rfl⟩ := blames_ofPhrase φ e (hread.symm.trans hp)
      exact ⟨reason, rfl⟩

theorem readPhrase_of_tokens {tokens : List Sql.Token} (htokens : Sql.tokenize s.toList = .ok tokens)
    (hphrase : Rule.phrase tokens = .ok (φ, [])) : readPhrase s = .ok φ := by
  refine Outcome.bind_eq_ok_iff.2 ⟨tokens, Outcome.mapError_eq_ok_iff.2 htokens, ?_⟩
  rw [hphrase]

theorem readPhrase_least :
    readPhrase "-9223372036854775808" = .ok (.minus (.number "9223372036854775808" false)) :=
  readPhrase_of_tokens (show Sql.tokenize _ = .ok [.symbol .minus, .number "9223372036854775808" false] from rfl) rfl

/-- The least number of 64 bits with a sign is read as a double. -/
theorem read_whole_numbers_least :
    ∃ x, read "-9223372036854775808" = .ok (.literal (.decimal x)) ∧
      (Literal.decimal x).Rounds (-9223372036854775808) := by
  obtain ⟨hreads, hrounds, hlimit⟩ := read_whole_numbers readPhrase_least
  have hnumerals : (Phrase.minus (.number "9223372036854775808" false)).numerals =
      [⟨true, "9223372036854775808"⟩] := rfl
  have hvalue : Numeral.value ⟨true, "9223372036854775808"⟩ = -twoPow 63 := rfl
  have hwhole : Numeral.IsWhole ⟨true, "9223372036854775808"⟩ := ⟨by decide, List.all_eq_true.1 rfl⟩
  rw [hnumerals] at hreads hrounds hlimit
  have hreadable := (hlimit _ (List.mem_singleton.2 rfl) hwhole).1
  rw [hvalue, Int.natAbs_neg, Int.natAbs_natCast] at hreadable
  obtain ⟨p, hp⟩ := hreads.2 ⟨trivial, List.forall_mem_singleton.2 (hreadable.2 (Double.lt_finiteLimit (by decide)))⟩
  obtain ⟨v, hv, rfl⟩ := (standsFor_iff_of_numeral? rfl).1 ((read_eq_ok_iff readPhrase_least).1 hp)
  have hnumbers := hrounds _ hp
  rw [numbers_literal (Numeral.isNumber_of_literal? hv)] at hnumbers
  have hrounded := (List.forall₂_cons.1 hnumbers).1.2 hwhole
  rw [hvalue] at hrounded
  cases hrounded with
  | exactly hsmall => exact absurd hsmall (Nat.lt_irrefl (twoPow 63))
  | nearly hlarge hfinite hnearest => exact ⟨_, hp, .nearly hlarge hfinite hnearest⟩

theorem readPhrase_above : readPhrase "9223372036854775809" = .ok (.number "9223372036854775809" false) :=
  readPhrase_of_tokens (show Sql.tokenize _ = .ok [.number "9223372036854775809" false] from rfl) rfl

theorem literal?_above :
    Numeral.literal? ⟨false, "9223372036854775809"⟩ = some (.decimal ⟨false, 1086 * twoPow 52⟩) := by
  have hvalue : Numeral.value ⟨false, "9223372036854775809"⟩ = 9223372036854775809 := rfl
  have hround : Double.ofInt 9223372036854775809 = ⟨false, 1086 * twoPow 52⟩ := by decide
  have hlimit : (9223372036854775809 : Int).natAbs < Double.finiteLimit :=
    Nat.lt_trans (by decide) (Double.lt_finiteLimit (show 64 ≤ 970 by decide))
  rw [Numeral.literal?_of_isWhole ⟨by decide, List.all_eq_true.1 rfl⟩, hvalue, hround]
  rw [if_neg (by decide), if_pos hlimit]

/-- A number beyond 64 bits with a sign is not refused, and read as another number. -/
theorem exists_read_ne_of_above :
    ∃ i x, maxInt64 < i ∧ read (toString i) = .ok (.literal (.decimal x)) ∧ x.units ≠ i * twoPow 1074 := by
  refine ⟨9223372036854775809, ⟨false, 1086 * twoPow 52⟩, by decide, ?_, ?_⟩
  · exact (read_eq_ok_iff readPhrase_above).2 ((standsFor_iff_of_numeral? rfl).2 ⟨_, literal?_above, rfl⟩)
  · have hcoefficient : Double.coefficient ⟨false, 1086 * twoPow 52⟩ = twoPow 52 := by decide
    have hshift : Double.shift ⟨false, 1086 * twoPow 52⟩ = 11 + 1074 := by decide
    have hpos := twoPow_pos 1074
    have hten : twoPow 11 = 2048 := rfl
    rw [Double.units, Double.size, hcoefficient, hshift, twoPow_add, Double.twoPow_52, hten]
    generalize twoPow 1074 = smallest at hpos
    dsimp only
    omega

end Predicate

end Cohort
