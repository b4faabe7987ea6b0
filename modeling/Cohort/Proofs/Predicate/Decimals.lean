import Cohort.Proofs.Encoding.Predicate
import Cohort.Proofs.Number.Finite
import Cohort.Proofs.Predicate.Numbers
import Cohort.Proofs.Predicate.RoundTrip
import Cohort.Proofs.Time.Text

/-!
# What decimals are read as

The numeral of a finite number may have a point and an exponent. It is read as digits with a power of ten, which stand
for what was written, so that the number that is read is finite as well.
-/

namespace Cohort

open Sql (Boundary boundary_nil boundary_cons takeWhile_append_of_boundary dropWhile_append_of_boundary)

theorem digitsValue_append_zeros (cs : List Char) (k : Nat) :
    digitsValue (cs ++ Double.zeros k) = digitsValue cs * tenPow k := by
  have hfold (n k : Nat) :
      (Double.zeros k).foldl (fun n c => 10 * n + (c.toNat - '0'.toNat)) n = n * tenPow k := by
    induction k generalizing n with
    | zero => rw [tenPow_zero, Nat.mul_one]; rfl
    | succ k ih =>
      change (Double.zeros k).foldl _ (10 * n + 0) = _
      rw [ih, tenPow_succ, Nat.add_zero, Nat.mul_comm 10, Nat.mul_assoc, Nat.mul_comm 10]
  rw [digitsValue, List.foldl_append, hfold]
  rfl

theorem digitsValue_toDigits (n : Nat) : digitsValue (Nat.toDigits 10 n) = n := by
  rw [← Nat.toList_repr, ← Nat.toString_eq_repr, digitsValue_toString]

namespace Double

variable {whole part rest : List Char} {e : Int}

/-- A numeral is no name of a value, and has no sign. -/
theorem head_digit {c : Char} (h : c.isDigit = true) (cs : List Char) :
    takeSign (c :: cs) = (false, c :: cs) ∧
      ∀ word ∈ ["inf", "infinity", "nan"], (c :: cs).map Char.toLower ≠ word.toList := by
  refine ⟨?_, fun word hword heq => ?_⟩
  · unfold takeSign
    split
    · rename_i hminus
      rw [(List.cons.inj hminus).1] at h
      exact absurd h (by decide)
    · rename_i hplus
      rw [(List.cons.inj hplus).1] at h
      exact absurd h (by decide)
    · rfl
  · have hletters : ∀ word ∈ ["inf", "infinity", "nan"], word.toList.head?.all Char.isDigit = false := by decide
    have hdigit := hletters word hword
    rw [← heq, List.map_cons, toLower_of_isDigit h, List.head?_cons, Option.all_some, h] at hdigit
    cases hdigit

/-- The parts of a numeral: digits, a point with digits after it, and an exponent. -/
theorem ofText?_of_parts (hne : whole ≠ []) (hwhole : AreDigits whole) (hpart : AreDigits part)
    (hrest : exponent? rest = some e) (hend : EndsDigits rest) :
    ofText? (String.ofList (whole ++ '.' :: (part ++ rest))) =
      some (ofDecimal false (digitsValue (whole ++ part)) (e - part.length)) := by
  obtain ⟨c, cs, rfl⟩ := List.exists_cons_of_ne_nil hne
  obtain ⟨hsign, hwords⟩ := head_digit (hwhole c (List.mem_cons_self ..)) (cs ++ '.' :: (part ++ rest))
  have hpoint : EndsDigits ('.' :: (part ++ rest)) := boundary_cons rfl _
  unfold ofText?
  rw [String.toList_ofList, List.cons_append, hsign]
  dsimp only
  rw [if_neg (not_or.2 ⟨hwords "inf" (by decide), hwords "infinity" (by decide)⟩),
    if_neg (hwords "nan" (by decide)), ← List.cons_append, takeWhile_append_of_boundary hwhole hpoint,
    dropWhile_append_of_boundary hwhole hpoint]
  simp only [takeWhile_append_of_boundary hpart hend, dropWhile_append_of_boundary hpart hend, hrest]
  exact if_neg fun h => hne h.1

/-- A numeral with an exponent and without a point. -/
theorem ofText?_of_whole (hne : whole ≠ []) (hwhole : AreDigits whole) (hrest : exponent? ('e' :: rest) = some e) :
    ofText? (String.ofList (whole ++ 'e' :: rest)) = some (ofDecimal false (digitsValue whole) e) := by
  obtain ⟨c, cs, rfl⟩ := List.exists_cons_of_ne_nil hne
  obtain ⟨hsign, hwords⟩ := head_digit (hwhole c (List.mem_cons_self ..)) (cs ++ 'e' :: rest)
  have hletter : EndsDigits ('e' :: rest) := boundary_cons rfl _
  unfold ofText?
  rw [String.toList_ofList, List.cons_append, hsign]
  dsimp only
  rw [if_neg (not_or.2 ⟨hwords "inf" (by decide), hwords "infinity" (by decide)⟩),
    if_neg (hwords "nan" (by decide)), ← List.cons_append, takeWhile_append_of_boundary hwhole hletter,
    dropWhile_append_of_boundary hwhole hletter]
  split
  · rename_i hpoint
    exact absurd (List.cons.inj hpoint).1 (by decide)
  · rw [if_neg fun h => hne h.1, hrest, List.append_nil, Option.map_some, List.length_nil, Int.natCast_zero,
      Int.sub_zero]

theorem exponent?_toString (power : Int) : exponent? ('e' :: (toString power).toList) = some power := by
  have hdigits (n : Nat) : ¬((toString n).toList = [] ∨ !(toString n).toList.all Char.isDigit) := by
    rintro (hnil | hall)
    · exact toList_toString_ne_nil n hnil
    · rw [List.all_eq_true.2 (areDigits_toString n)] at hall
      cases hall
  rw [exponent?, if_pos (Or.inl rfl), Int.toString_eq_repr, Int.repr_eq_if]
  by_cases hsign : 0 ≤ power
  · obtain ⟨c, cs, hcs⟩ := List.exists_cons_of_ne_nil (toList_toString_ne_nil power.toNat)
    have hc : c.isDigit = true := areDigits_toString power.toNat c (hcs ▸ List.mem_cons_self ..)
    have htake : takeSign (toString power.toNat).toList = (false, (toString power.toNat).toList) := by
      rw [hcs]
      exact (head_digit hc cs).1
    rw [if_pos hsign, ← Nat.toString_eq_repr, htake]
    dsimp only
    rw [if_neg (hdigits _), digitsValue_toString, if_neg Bool.false_ne_true, Int.toNat_of_nonneg hsign]
  · have htake (ds : List Char) : takeSign ("-".toList ++ ds) = (true, ds) := rfl
    have hvalue : -((-power).toNat : Int) = power := by omega
    rw [if_neg hsign, ← Nat.toString_eq_repr, String.toList_append, htake]
    dsimp only
    rw [if_neg (hdigits _), digitsValue_toString, if_pos rfl, hvalue]

/-- The text is read as digits with a power of ten that stand for the value. -/
def IsNumeralOf (cs : List Char) (value : ℚ) : Prop :=
  ∃ digits exponent, decimalValue digits exponent = value ∧
    ofText? (String.ofList cs) = some (ofDecimal false digits exponent)

variable {ds : List Char}

theorem isNumeralOf_positional (hne : ds ≠ []) (hds : AreDigits ds) (point : Int) :
    IsNumeralOf (positional ds point) (decimalValue (digitsValue ds) (point - ds.length)) := by
  have hend : EndsDigits [] := boundary_nil _
  have hnone : exponent? [] = some 0 := rfl
  have hzero : AreDigits ['0'] := by simp [AreDigits]
  unfold positional
  split
  · have hread := ofText?_of_parts (List.cons_ne_nil _ _) hzero ((areDigits_zeros (-point).toNat).append hds) hnone hend
    rw [List.append_nil] at hread
    have hvalue : digitsValue (['0'] ++ (zeros (-point).toNat ++ ds)) = digitsValue ds :=
      digitsValue_zeros_append ((-point).toNat + 1) ds
    rw [hvalue] at hread
    refine ⟨_, _, ?_, hread⟩
    congr 1
    rw [List.length_append, zeros, List.length_replicate]
    omega
  · rename_i hpoint
    dsimp only
    split
    · rename_i hinside
      have hwhole : ds.take point.toNat ≠ [] := by
        intro hnil
        have hlength := congrArg List.length hnil
        rw [List.length_take, List.length_nil] at hlength
        omega
      have hpart : AreDigits (ds.drop point.toNat) := fun c hc => hds c (List.mem_of_mem_drop hc)
      have hread := ofText?_of_parts hwhole (fun c hc => hds c (List.mem_of_mem_take hc)) hpart hnone hend
      rw [List.append_nil, List.take_append_drop] at hread
      refine ⟨_, _, ?_, hread⟩
      congr 1
      rw [List.length_drop]
      omega
    · rename_i hbeyond
      have hwhole : ds ++ zeros (point.toNat - ds.length) ≠ [] := List.append_ne_nil_of_left_ne_nil hne _
      have hread := ofText?_of_parts hwhole (hds.append (areDigits_zeros _)) hzero hnone hend
      have hvalue : digitsValue (ds ++ zeros (point.toNat - ds.length) ++ ['0']) =
          digitsValue ds * tenPow (point.toNat - ds.length + 1) := by
        have hzeros : zeros (point.toNat - ds.length) ++ ['0'] = zeros (point.toNat - ds.length + 1) :=
          List.replicate_succ'.symm
        rw [List.append_assoc, hzeros, digitsValue_append_zeros]
      rw [hvalue] at hread
      refine ⟨_, _, ?_, hread⟩
      rw [decimalValue_mul_tenPow]
      congr 1
      rw [List.length_singleton]
      omega

theorem isNumeralOf_scientific (hne : ds ≠ []) (hds : AreDigits ds) (power : Int) :
    IsNumeralOf (scientific ds power) (decimalValue (digitsValue ds) (power + 1 - ds.length)) := by
  have hexponent := exponent?_toString power
  match ds, hne, hds with
  | [d], _, hd =>
    refine ⟨_, _, ?_, ofText?_of_whole (List.cons_ne_nil _ _) hd hexponent⟩
    congr 1
    rw [List.length_singleton]
    omega
  | d :: next :: later, _, hds =>
    have hfirst : AreDigits [d] := fun c hc => hds c (by rw [List.mem_singleton.1 hc]; exact List.mem_cons_self ..)
    have hpart : AreDigits (next :: later) := fun c hc => hds c (List.mem_cons_of_mem d hc)
    have hread := ofText?_of_parts (List.cons_ne_nil _ _) hfirst hpart hexponent (boundary_cons rfl _)
    refine ⟨_, _, ?_, hread⟩
    rw [List.singleton_append]
    congr 1
    rw [List.length_cons (a := d), Int.natCast_succ]
    omega

/-- A size is read as the digits that it is written with. -/
theorem isNumeralOf_magnitudeText (x : Double) :
    IsNumeralOf x.magnitudeText (decimalValue x.shortest.1 x.shortest.2) := by
  have hstrip := decimalValue_stripZeros 20 x.shortest.1 x.shortest.2
  unfold magnitudeText
  dsimp only
  generalize stripZeros 20 x.shortest.1 x.shortest.2 = stripped at hstrip ⊢
  obtain ⟨digits, exponent⟩ := stripped
  have hne : Nat.toDigits 10 digits ≠ [] := Nat.toDigits_ne_nil
  have hds := areDigits_toDigits digits
  have hvalue := digitsValue_toDigits digits
  generalize Nat.toDigits 10 digits = ds at hne hds hvalue ⊢
  subst hvalue
  rw [← hstrip]
  dsimp only
  split
  · have hread := isNumeralOf_scientific hne hds (exponent + ds.length - 1)
    rwa [show exponent + ds.length - 1 + 1 - ds.length = exponent by omega] at hread
  · have hread := isNumeralOf_positional hne hds (exponent + ds.length - 1 + 1)
    rwa [show exponent + ds.length - 1 + 1 - ds.length = exponent by omega] at hread

/-- The numeral of a finite number, without its sign, is read as a finite number. -/
theorem exists_ofText?_digits {x : Double} (hx : x.isFinite = true) :
    ∃ y, ofText? x.digits = some y ∧ y.isFinite = true := by
  have hnan : x.isNaN = false := by
    simp only [isFinite, isNaN, decide_eq_true_eq, decide_eq_false_iff_not] at hx ⊢
    omega
  have hdigits : x.digits = String.ofList (if x.isZero then "0.0".toList else x.magnitudeText) := by
    rw [digits, text, String.toList_ofList]
    simp [hnan, hx]
  rw [hdigits]
  split
  · exact ⟨⟨false, 0⟩, by decide +kernel, by decide +kernel⟩
  · obtain ⟨digits, exponent, hvalue, hread⟩ := isNumeralOf_magnitudeText x
    exact ⟨_, hread, isFinite_ofDecimal false (hvalue ▸ decimalValue_shortest_lt hx)⟩

end Double

namespace Numeral

theorem isReadable_digits (negative : Bool) {x : Double} (hx : x.isFinite = true) :
    IsReadable ⟨negative, x.digits⟩ := by
  obtain ⟨y, hread, hfinite⟩ := Double.exists_ofText?_digits hx
  rw [isReadable_iff]
  unfold Literal.ofNumeral
  split
  · exact ⟨_, rfl⟩
  · rw [hread]
    exact ⟨_, if_pos hfinite⟩

/-- The size of a whole number of 64 bits with a sign may take all of them, and can be read as a decimal then. -/
theorem isReadable_natAbs (negative : Bool) {i : Int} (hi : minInt64 ≤ i ∧ i ≤ maxInt64) :
    IsReadable ⟨negative, toString i.natAbs⟩ := by
  have hwhole : IsWhole ⟨negative, toString i.natAbs⟩ := ⟨toList_toString_ne_nil _, areDigits_toString _⟩
  have hsize : i.natAbs ≤ twoPow 63 := by
    unfold minInt64 maxInt64 at hi
    change i.natAbs ≤ 9223372036854775808
    omega
  rw [isReadable_iff_of_isWhole hwhole, natAbs_value, digitsValue_toString]
  exact Nat.lt_of_le_of_lt hsize (Double.lt_finiteLimit (by decide))

end Numeral

namespace Predicate

open Sql (Slot signSlots)

/-- A constant that is written as a numeral is read as the number of the numeral. -/
theorem exists_isReadAs_of_numeral {v : Literal} {n : Numeral} (hn : n.IsReadable)
    (hslots : v.slots = signSlots n.negative ++ [.numeral n.digits]) :
    ∃ w, (Predicate.literal v).IsReadAs (.literal w) := by
  obtain ⟨w, hw⟩ := hn
  refine ⟨w, n.phrase, (standsFor_iff_of_numeral? n.numeral?_phrase).2 ⟨w, hw, rfl⟩, ?_⟩
  rw [tokens, v.tokens_script, hslots]
  obtain ⟨negative, digits⟩ := n
  cases negative with
  | false => exact reads_numeral digits _
  | true => exact reads_minus_numeral digits _

/-- Every constant of a query is read as a constant. -/
theorem exists_isReadAs_literal {v : Literal} (hv : v.IsRepresentable) :
    ∃ w, (Predicate.literal v).IsReadAs (.literal w) := by
  cases v with
  | null => exact ⟨_, exists_reads_literal (v := .null) trivial _⟩
  | boolean b => exact ⟨_, exists_reads_literal (v := .boolean b) trivial _⟩
  | integer i => exact exists_isReadAs_of_numeral (Numeral.isReadable_natAbs (decide (i < 0)) hv) rfl
  | decimal x =>
    refine exists_isReadAs_of_numeral (Numeral.isReadable_digits x.negative hv) ?_
    exact if_pos hv
  | string s => exact ⟨_, exists_reads_literal (v := .string s) trivial _⟩

end Predicate

end Cohort
