import Cohort.Number.Decimal

/-!
# Numerals

Numbers are written as numerals: digits, perhaps a fraction, perhaps an exponent. A whole number is written in digits
alone, and those digits stand for it.
-/

namespace Cohort

def AreDigits (cs : List Char) : Prop := ∀ c ∈ cs, c.isDigit = true

theorem AreDigits.append {cs ds : List Char} (hc : AreDigits cs) (hd : AreDigits ds) : AreDigits (cs ++ ds) := by
  intro c hmem
  rcases List.mem_append.1 hmem with h | h
  · exact hc c h
  · exact hd c h

theorem areDigits_toDigits (n : Nat) : AreDigits (Nat.toDigits 10 n) :=
  fun _ hc => Nat.isDigit_of_mem_toDigits (by decide) (by decide) hc

theorem areDigits_zeros (n : Nat) : AreDigits (Double.zeros n) := by
  intro c hc
  rw [List.eq_of_mem_replicate hc]
  rfl

/-- The part of a numeral from its point on. -/
inductive IsFraction : List Char → Prop
  | absent : IsFraction []
  | point (ds : List Char) : AreDigits ds → IsFraction ('.' :: ds)

/-- The part of a numeral from the letter of its exponent on. -/
inductive IsExponent : List Char → Prop
  | absent : IsExponent []
  | positive (ds : List Char) : ds ≠ [] → AreDigits ds → IsExponent ('e' :: ds)
  | negative (ds : List Char) : ds ≠ [] → AreDigits ds → IsExponent ('e' :: '-' :: ds)

/-- Whether the characters are a numeral without a sign. -/
def IsNumeral (cs : List Char) : Prop :=
  ∃ whole fraction exponent, (whole ≠ [] ∧ AreDigits whole) ∧ IsFraction fraction ∧ IsExponent exponent ∧
    cs = whole ++ (fraction ++ exponent)

theorem digitsValue_eq_ofDigitChars (cs : List Char) : digitsValue cs = Nat.ofDigitChars 10 cs 0 := by
  rw [digitsValue, Nat.ofDigitChars_eq_foldl]

/-- The digits of a number stand for it. -/
theorem digitsValue_toString (n : Nat) : digitsValue (toString n).toList = n := by
  rw [Nat.toString_eq_repr, Nat.toList_repr, digitsValue_eq_ofDigitChars, Nat.ofDigitChars_ten_toDigits]

theorem areDigits_toString (n : Nat) : AreDigits (toString n).toList := by
  rw [Nat.toString_eq_repr, Nat.toList_repr]
  exact areDigits_toDigits n

theorem toList_toString_ne_nil (n : Nat) : (toString n).toList ≠ [] := by
  rw [Nat.toString_eq_repr, Nat.toList_repr]
  exact Nat.toDigits_ne_nil

theorem isNumeral_toString (n : Nat) : IsNumeral (toString n).toList :=
  ⟨_, [], [], ⟨toList_toString_ne_nil n, areDigits_toString n⟩, .absent, .absent, by simp⟩

/-- A numeral begins with a digit. -/
theorem not_isNumeral_minus {cs : List Char} : ¬ IsNumeral ('-' :: cs) := by
  rintro ⟨whole, fraction, exponent, ⟨hne, hwhole⟩, -, -, hcs⟩
  match whole, hne, hwhole with
  | d :: whole, _, hwhole =>
    have hdigit : d.isDigit = true := hwhole d (List.mem_cons_self ..)
    rw [← (List.cons.inj hcs).1] at hdigit
    exact absurd hdigit (by decide)

namespace Double

theorem isNumeral_positional {ds : List Char} (hd : AreDigits ds) (point : Int) : IsNumeral (positional ds point) := by
  unfold positional
  split
  · exact ⟨['0'], '.' :: (zeros (-point).toNat ++ ds), [], ⟨by simp, by simp [AreDigits]⟩,
      .point _ ((areDigits_zeros _).append hd), .absent, by simp⟩
  · rename_i hpoint
    dsimp only
    split
    · rename_i hlt
      refine ⟨ds.take point.toNat, '.' :: ds.drop point.toNat, [], ⟨?_, ?_⟩, .point _ ?_, .absent, by simp⟩
      · intro hnil
        have hlength := congrArg List.length hnil
        rw [List.length_take, List.length_nil] at hlength
        omega
      · exact fun c hc => hd c (List.mem_of_mem_take hc)
      · exact fun c hc => hd c (List.mem_of_mem_drop hc)
    · rename_i hge
      refine ⟨ds ++ zeros (point.toNat - ds.length), ['.', '0'], [], ⟨?_, hd.append (areDigits_zeros _)⟩,
        .point _ (by simp [AreDigits]), .absent, by simp⟩
      intro hnil
      have hlength := congrArg List.length hnil
      rw [List.length_append, zeros, List.length_replicate, List.length_nil] at hlength
      omega

theorem isExponent_toString (power : Int) : IsExponent ('e' :: (toString power).toList) := by
  rw [Int.toString_eq_repr, Int.repr_eq_if]
  split
  · rw [← Nat.toString_eq_repr]
    exact .positive _ (toList_toString_ne_nil _) (areDigits_toString _)
  · rw [← Nat.toString_eq_repr, String.toList_append]
    exact .negative _ (toList_toString_ne_nil _) (areDigits_toString _)

theorem isNumeral_scientific {ds : List Char} (hd : AreDigits ds) (power : Int) : IsNumeral (scientific ds power) := by
  have hexponent := isExponent_toString power
  match ds, hd with
  | [], _ => exact ⟨['0'], [], _, ⟨by simp, by simp [AreDigits]⟩, .absent, hexponent, rfl⟩
  | [d], hd => exact ⟨[d], [], _, ⟨by simp, hd⟩, .absent, hexponent, rfl⟩
  | d :: e :: rest, hd =>
    exact ⟨[d], '.' :: e :: rest, _, ⟨by simp, fun c hc => hd c (by simp_all)⟩,
      .point _ (fun c hc => hd c (List.mem_cons_of_mem d hc)), hexponent, rfl⟩

theorem isNumeral_magnitudeText (x : Double) : IsNumeral x.magnitudeText := by
  unfold magnitudeText
  dsimp only
  split
  · exact isNumeral_scientific (areDigits_toDigits _) _
  · exact isNumeral_positional (areDigits_toDigits _) _

/-- A finite number is written as a numeral, after a minus if it is negative. -/
theorem toList_text_of_isFinite {x : Double} (hx : x.isFinite = true) :
    ∃ cs, IsNumeral cs ∧ x.text.toList = x.signText ++ cs := by
  have hnan : x.isNaN = false := by
    simp only [isFinite, isNaN, decide_eq_true_eq, decide_eq_false_iff_not] at hx ⊢
    omega
  unfold text
  rw [String.toList_ofList]
  simp only [hnan, hx, Bool.false_eq_true, if_false, Bool.not_true]
  by_cases hzero : x.isZero = true
  · exact ⟨['0', '.', '0'], ⟨['0'], ['.', '0'], [], ⟨by simp, by simp [AreDigits]⟩,
      .point _ (by simp [AreDigits]), .absent, rfl⟩, by simp [hzero]⟩
  · exact ⟨_, x.isNumeral_magnitudeText, by simp [hzero]⟩

end Double

end Cohort
