import Cohort.Number.Double

/-!
# Rounding of whole numbers

A whole number of at least 53 bits is rounded to a double whose coefficient counts in the unit of its 53rd bit. No
finite double is nearer to it, and there is one as long as the number is below `2¹⁰²⁴` by at least half of the last
unit.
-/

namespace Cohort.Double

/-- The exponent of the unit of the coefficient, over that of the smallest unit `2⁻¹⁰⁷⁴`. -/
def shift (x : Double) : Nat := max 1 x.exponentField - 1

/-- The size of a finite number in smallest units. -/
def size (x : Double) : Nat := x.coefficient * twoPow x.shift

/-- A finite number in smallest units. -/
def units (x : Double) : Int := if x.negative then -(x.size : Int) else x.size

theorem twoPow_52 : twoPow 52 = 4503599627370496 := rfl

theorem coefficient_lt (x : Double) : x.coefficient < 2 * twoPow 52 := by
  have hfraction : x.fraction < twoPow 52 := Nat.mod_lt _ (twoPow_pos 52)
  unfold coefficient
  split <;> omega

theorem roundHalfEven_bounds (num : Nat) {den : Nat} (h : 0 < den) :
    2 * num ≤ 2 * (roundHalfEven num den * den) + den ∧ 2 * (roundHalfEven num den * den) ≤ 2 * num + den := by
  have hdiv : num / den * den + num % den = num := by rw [Nat.mul_comm]; exact Nat.div_add_mod num den
  have hmod := Nat.mod_lt num h
  have hsucc : (num / den + 1) * den = num / den * den + den := Nat.succ_mul _ _
  unfold roundHalfEven
  dsimp only
  split
  · omega
  · split
    · omega
    · -- in the middle, either neighbour is as near as the other
      rcases Nat.mod_two_eq_zero_or_one (num / den) with hparity | hparity
      · rw [hparity, Nat.add_zero]
        omega
      · rw [hparity]
        omega

/-- No multiple of the denominator is nearer. -/
theorem natAbs_roundHalfEven_sub_le (num k : Nat) {den : Nat} (h : 0 < den) :
    ((roundHalfEven num den * den : Nat) - num : Int).natAbs ≤ ((k * den : Nat) - num : Int).natAbs := by
  obtain ⟨hlow, hhigh⟩ := roundHalfEven_bounds num h
  rcases Nat.lt_trichotomy k (roundHalfEven num den) with hk | rfl | hk
  · have hstep : (k + 1) * den ≤ roundHalfEven num den * den := Nat.mul_le_mul_right den hk
    rw [Nat.succ_mul] at hstep
    omega
  · exact Nat.le_refl _
  · have hstep : (roundHalfEven num den + 1) * den ≤ k * den := Nat.mul_le_mul_right den hk
    rw [Nat.succ_mul] at hstep
    omega

/-- Below an even multiple of an even denominator the middle belongs to that multiple. -/
theorem roundHalfEven_lt_iff (num k : Nat) {half : Nat} (h : 0 < half) :
    roundHalfEven num (2 * half) < 2 * k ↔ num < (4 * k - 1) * half := by
  obtain ⟨hlow, hhigh⟩ := roundHalfEven_bounds num (show 0 < 2 * half by omega)
  constructor
  · intro hlt
    have hk : (4 * k - 1) * half = (2 * k - 1) * (2 * half) + half := by
      rw [← Nat.mul_assoc, ← Nat.succ_mul]
      congr 1
      omega
    have hstep : roundHalfEven num (2 * half) * (2 * half) ≤ (2 * k - 1) * (2 * half) :=
      Nat.mul_le_mul_right _ (by omega)
    refine Nat.lt_of_le_of_ne (by omega) fun heq => ?_
    -- the number is in the middle, and the multiple below it is odd
    have hdiv : num / (2 * half) = 2 * k - 1 := by
      rw [heq, hk]
      exact Nat.div_eq_of_lt_le (by omega) (by rw [Nat.succ_mul (2 * k - 1)]; omega)
    have hmod : num % (2 * half) = half := by
      rw [heq, hk, Nat.mul_comm, Nat.mul_add_mod]
      exact Nat.mod_eq_of_lt (by omega)
    have hround : roundHalfEven num (2 * half) = 2 * k := by
      unfold roundHalfEven
      dsimp only
      rw [hdiv, hmod, if_neg (Nat.lt_irrefl _), if_neg (Nat.lt_irrefl _)]
      omega
    omega
  · intro hlt
    refine Nat.not_le.1 fun hle => ?_
    have hstep : 2 * k * (2 * half) ≤ roundHalfEven num (2 * half) * (2 * half) := Nat.mul_le_mul_right _ hle
    have hk : 2 * k * (2 * half) = 4 * k * half := by
      rw [← Nat.mul_assoc]
      congr 1
      omega
    rw [Nat.sub_mul] at hlt
    omega

variable {m : Nat}

theorem log2_lt_iff (h : m ≠ 0) (k : Nat) : m.log2 < k ↔ m < twoPow k := Nat.log2_lt h

theorem le_log2_iff (h : m ≠ 0) (k : Nat) : k ≤ m.log2 ↔ twoPow k ≤ m := Nat.le_log2 h

/-- The unit of the 53rd bit of a number. -/
def lastUnit (m : Nat) : Nat := twoPow (m.log2 - 52)

theorem lastUnit_bounds (h : twoPow 52 ≤ m) : twoPow 52 * lastUnit m ≤ m ∧ m < 2 * twoPow 52 * lastUnit m := by
  have hm : m ≠ 0 := by have := twoPow_pos 52; omega
  have hlog : 52 ≤ m.log2 := (le_log2_iff hm 52).2 h
  have hlow : twoPow m.log2 ≤ m := Nat.log2_self_le hm
  have hhigh : m < twoPow (m.log2 + 1) := Nat.lt_log2_self
  have hunit : twoPow m.log2 = twoPow 52 * lastUnit m := by
    rw [lastUnit, ← twoPow_add, Nat.add_sub_cancel' hlog]
  rw [twoPow_succ, hunit] at hhigh
  rw [hunit] at hlow
  refine ⟨hlow, ?_⟩
  rw [Nat.mul_assoc, Nat.mul_comm 2]
  exact hhigh

theorem unitExponent_of_le (h : twoPow 52 ≤ m) : unitExponent m 1 = (m.log2 - 52 : Nat) := by
  have hm : m ≠ 0 := by have := twoPow_pos 52; omega
  have hlog : 52 ≤ m.log2 := (le_log2_iff hm 52).2 h
  have hexponent : max (-1074) ((m.log2 : Int) - (Nat.log2 1 : Nat) - 52) = (m.log2 - 52 : Nat) := by
    have hone : Nat.log2 1 = 0 := by decide
    omega
  have hquotient : ¬m / (1 * twoPow (m.log2 - 52)) < twoPow 52 := by
    rw [Nat.one_mul, Nat.not_lt, Nat.le_div_iff_mul_le (twoPow_pos _)]
    exact (lastUnit_bounds h).1
  have hsign : ¬((m.log2 - 52 : Nat) : Int) < 0 := by omega
  unfold unitExponent scaled
  dsimp only
  rw [hexponent, if_neg hsign, Int.toNat_natCast, if_neg hquotient]

/-- The magnitude of the number that `m` is rounded to, with the carry of a coefficient of 54 bits. -/
def roundedMagnitude (m : Nat) : Nat := (m.log2 + 1022) * twoPow 52 + roundHalfEven m (lastUnit m)

theorem ofRatio_one (negative : Bool) (h : twoPow 52 ≤ m) :
    ofRatio negative m 1 = ⟨negative, min infiniteMagnitude (roundedMagnitude m)⟩ := by
  have hm : m ≠ 0 := by have := twoPow_pos 52; omega
  have hlog : 52 ≤ m.log2 := (le_log2_iff hm 52).2 h
  have hsign : ¬((m.log2 - 52 : Nat) : Int) < 0 := by omega
  have hfield : (((m.log2 - 52 : Nat) : Int) + 1074).toNat = m.log2 + 1022 := by omega
  unfold ofRatio scaled
  rw [if_neg hm, unitExponent_of_le h]
  dsimp only
  rw [if_neg hsign, hfield, Int.toNat_natCast, Nat.one_mul]
  rfl

/-- The rounded coefficient has 53 bits, or is the least one of 54 bits. -/
theorem roundHalfEven_lastUnit_bounds (h : twoPow 52 ≤ m) :
    twoPow 52 ≤ roundHalfEven m (lastUnit m) ∧ roundHalfEven m (lastUnit m) ≤ 2 * twoPow 52 := by
  have hpos : 0 < lastUnit m := twoPow_pos _
  obtain ⟨hlow, hhigh⟩ := lastUnit_bounds h
  obtain ⟨hbelow, habove⟩ := roundHalfEven_bounds m hpos
  constructor
  · refine Nat.not_lt.1 fun hlt => ?_
    have hstep : (roundHalfEven m (lastUnit m) + 1) * lastUnit m ≤ twoPow 52 * lastUnit m :=
      Nat.mul_le_mul_right _ (by omega)
    rw [Nat.succ_mul] at hstep
    omega
  · refine Nat.not_lt.1 fun hlt => ?_
    have hstep : (2 * twoPow 52 + 1) * lastUnit m ≤ roundHalfEven m (lastUnit m) * lastUnit m :=
      Nat.mul_le_mul_right _ (by omega)
    rw [Nat.succ_mul] at hstep
    omega

/-- A number that is rounded to a finite one has the rounded coefficient, also where that is carried. -/
theorem size_of_magnitude {x : Double} (h : twoPow 52 ≤ m) (hx : x.magnitude = roundedMagnitude m) :
    x.size = roundHalfEven m (lastUnit m) * lastUnit m * twoPow 1074 := by
  have hm : m ≠ 0 := by have := twoPow_pos 52; omega
  have hlog : 52 ≤ m.log2 := (le_log2_iff hm 52).2 h
  obtain ⟨hlow, hhigh⟩ := roundHalfEven_lastUnit_bounds h
  have hunit : lastUnit m * twoPow 1074 = twoPow (m.log2 + 1022) := by
    rw [lastUnit, ← twoPow_add]
    congr 1
    omega
  rw [Nat.mul_assoc, hunit]
  unfold size coefficient shift exponentField fraction
  rw [hx, roundedMagnitude]
  rw [twoPow_52] at hlow hhigh ⊢
  generalize roundHalfEven m (lastUnit m) = q at hlow hhigh
  by_cases hcarry : q = 2 * 4503599627370496
  · subst hcarry
    have hfield : ((m.log2 + 1022) * 4503599627370496 + 2 * 4503599627370496) / 4503599627370496 = m.log2 + 1024 := by
      omega
    have hrest : ((m.log2 + 1022) * 4503599627370496 + 2 * 4503599627370496) % 4503599627370496 = 0 := by omega
    have hshift : max 1 (m.log2 + 1024) - 1 = m.log2 + 1022 + 1 := by omega
    rw [hfield, hrest, hshift, if_neg (by omega), twoPow_succ]
    omega
  · have hfield : ((m.log2 + 1022) * 4503599627370496 + q) / 4503599627370496 = m.log2 + 1023 := by omega
    have hrest : 4503599627370496 + ((m.log2 + 1022) * 4503599627370496 + q) % 4503599627370496 = q := by omega
    have hshift : max 1 (m.log2 + 1023) - 1 = m.log2 + 1022 := by omega
    rw [hfield, if_neg (by omega), hrest, hshift]

/-! ## Nearest doubles -/

/-- The size of a double is a multiple of a unit, or below every number of 53 bits in that unit. -/
theorem size_cases (y : Double) (n : Nat) :
    (∃ k, y.size = k * twoPow n) ∨ y.size ≤ twoPow 52 * twoPow n := by
  unfold size
  rcases Nat.lt_or_ge y.shift n with hlt | hge
  · refine .inr ?_
    have hn : n = y.shift + 1 + (n - y.shift - 1) := by omega
    have hpow : 2 * twoPow y.shift ≤ twoPow n := by
      rw [hn, twoPow_add, twoPow_succ, Nat.mul_comm 2]
      exact Nat.le_mul_of_pos_right _ (twoPow_pos _)
    calc
      y.coefficient * twoPow y.shift ≤ 2 * twoPow 52 * twoPow y.shift :=
        Nat.mul_le_mul_right _ (Nat.le_of_lt y.coefficient_lt)
      _ = twoPow 52 * (2 * twoPow y.shift) := by rw [Nat.mul_comm 2, Nat.mul_assoc]
      _ ≤ twoPow 52 * twoPow n := Nat.mul_le_mul_left _ hpow
  · refine .inl ⟨y.coefficient * twoPow (y.shift - n), ?_⟩
    rw [Nat.mul_assoc, ← twoPow_add, Nat.sub_add_cancel hge]

theorem natAbs_mul_sub_mul (a b c : Nat) :
    ((a * c : Nat) - (b * c : Nat) : Int).natAbs = ((a : Int) - b).natAbs * c := by
  rw [Int.natCast_mul, Int.natCast_mul, ← Int.sub_mul, Int.natAbs_mul, Int.natAbs_natCast]

/-- No double is nearer to the number than the one with the rounded coefficient. -/
theorem natAbs_size_sub_le (h : twoPow 52 ≤ m) (y : Double) :
    ((roundHalfEven m (lastUnit m) * lastUnit m * twoPow 1074 : Nat) - (m * twoPow 1074 : Nat) : Int).natAbs ≤
      ((y.size : Int) - (m * twoPow 1074 : Nat)).natAbs := by
  have hpos : 0 < lastUnit m := twoPow_pos _
  have hcases := y.size_cases (m.log2 - 52 + 1074)
  rw [show twoPow (m.log2 - 52 + 1074) = lastUnit m * twoPow 1074 from twoPow_add _ _] at hcases
  generalize twoPow 1074 = smallest at hcases ⊢
  rcases hcases with ⟨k, hk⟩ | hle
  · rw [hk, ← Nat.mul_assoc, natAbs_mul_sub_mul, natAbs_mul_sub_mul]
    exact Nat.mul_le_mul_right _ (natAbs_roundHalfEven_sub_le m k hpos)
  · -- the least number of 53 bits is a multiple of the unit that lies between
    have hleast := Nat.mul_le_mul_right smallest (natAbs_roundHalfEven_sub_le m (twoPow 52) hpos)
    rw [← natAbs_mul_sub_mul, ← natAbs_mul_sub_mul] at hleast
    have hbetween := Nat.mul_le_mul_right smallest (lastUnit_bounds h).1
    rw [← Nat.mul_assoc] at hle
    omega

/-- Whole numbers below this one are rounded to finite doubles. -/
def finiteLimit : Nat := (twoPow 54 - 1) * twoPow 970

theorem finiteLimit_eq : finiteLimit = (4 * twoPow 52 - 1) * twoPow 970 := by
  rw [finiteLimit, twoPow_succ 53, twoPow_succ 52, Nat.mul_assoc, Nat.mul_comm (twoPow 52)]

theorem lt_finiteLimit {n : Nat} (h : n ≤ 970) : twoPow n < finiteLimit := by
  have hpos : 0 < twoPow 970 := twoPow_pos 970
  calc
    twoPow n ≤ twoPow n * twoPow (970 - n) := Nat.le_mul_of_pos_right _ (twoPow_pos _)
    _ = twoPow 970 := by rw [← twoPow_add, Nat.add_sub_cancel' h]
    _ < finiteLimit := by
      rw [finiteLimit_eq, twoPow_52]
      generalize twoPow 970 = half at hpos
      omega

-- a number of 1024 bits, which no comparison should compute
attribute [irreducible] finiteLimit

theorem roundedMagnitude_lt_iff (h : twoPow 52 ≤ m) : roundedMagnitude m < infiniteMagnitude ↔ m < finiteLimit := by
  have hm : m ≠ 0 := by have := twoPow_pos 52; omega
  obtain ⟨hlow, hhigh⟩ := roundHalfEven_lastUnit_bounds h
  have hpos : 0 < twoPow 970 := twoPow_pos 970
  have htop : twoPow 1023 = 2 * twoPow 52 * twoPow 970 := by
    rw [Nat.mul_comm 2, ← twoPow_succ, ← twoPow_add]
  have hover : twoPow 1024 = 4 * twoPow 52 * twoPow 970 := by
    rw [twoPow_succ 1023, htop, Nat.mul_right_comm, Nat.mul_right_comm 2]
  have hunit : twoPow 971 = 2 * twoPow 970 := by rw [twoPow_succ, Nat.mul_comm]
  unfold roundedMagnitude infiniteMagnitude
  rcases Nat.lt_trichotomy m.log2 1023 with hlog | hlog | hlog
  · have hsmall : m < twoPow 1023 := (log2_lt_iff hm 1023).1 hlog
    rw [htop, twoPow_52] at hsmall
    rw [twoPow_52] at hhigh
    rw [finiteLimit_eq, twoPow_52]
    generalize twoPow 970 = half at hpos hsmall
    omega
  · have hlast : lastUnit m = 2 * twoPow 970 := by rw [lastUnit, hlog, ← hunit]
    rw [hlog, finiteLimit_eq, ← roundHalfEven_lt_iff m (twoPow 52) hpos, ← hlast, twoPow_52]
    generalize roundHalfEven m (lastUnit m) = q
    omega
  · have hlarge : twoPow 1024 ≤ m := (le_log2_iff hm 1024).1 hlog
    rw [hover, twoPow_52] at hlarge
    rw [twoPow_52] at hlow
    rw [finiteLimit_eq, twoPow_52]
    generalize twoPow 970 = half at hpos hlarge
    omega

theorem isFinite_ofInt_iff {i : Int} (h : twoPow 52 ≤ i.natAbs) :
    (ofInt i).isFinite = true ↔ i.natAbs < finiteLimit := by
  unfold ofInt isFinite
  rw [ofRatio_one _ h, decide_eq_true_iff, ← roundedMagnitude_lt_iff h]
  dsimp only
  omega

/-- The distance of two sizes is at most that of the numbers. -/
theorem natAbs_size_sub_natAbs_le (x : Double) (j : Int) :
    ((x.size : Int) - j.natAbs).natAbs ≤ (x.units - j).natAbs := by
  unfold units
  split <;> omega

theorem natAbs_units_sub {x : Double} {j : Int} (h : x.negative = decide (j < 0)) :
    (x.units - j).natAbs = ((x.size : Int) - j.natAbs).natAbs := by
  unfold units
  rw [h]
  split <;> rename_i hsign <;> rw [decide_eq_true_iff] at hsign <;> omega

/-- No double is nearer to a whole number of at least 53 bits than the finite one that it is rounded to. -/
theorem ofInt_nearest {i : Int} (h : twoPow 52 ≤ i.natAbs) (hfinite : (ofInt i).isFinite = true) (y : Double) :
    ((ofInt i).units - i * twoPow 1074).natAbs ≤ (y.units - i * twoPow 1074).natAbs := by
  have hlt : roundedMagnitude i.natAbs < infiniteMagnitude :=
    (roundedMagnitude_lt_iff h).2 ((isFinite_ofInt_iff h).1 hfinite)
  have hround : ofInt i = ⟨decide (i < 0), roundedMagnitude i.natAbs⟩ := by
    rw [ofInt, ofRatio_one _ h, Nat.min_eq_right (Nat.le_of_lt hlt)]
  have hsize := size_of_magnitude (x := ofInt i) h (by rw [hround])
  have hpos := twoPow_pos 1074
  generalize hsmallest : twoPow 1074 = smallest at hpos
  have habs : (i * smallest).natAbs = i.natAbs * smallest := by rw [Int.natAbs_mul, Int.natAbs_natCast]
  have hsign : (ofInt i).negative = decide (i * smallest < 0) := by
    rw [hround]
    apply decide_eq_decide.2
    constructor
    · exact fun hneg => Int.mul_neg_of_neg_of_pos hneg (Int.natCast_pos.2 hpos)
    · exact fun hneg => Int.not_le.1 fun hle => Int.not_lt.2 (Int.mul_nonneg hle (Int.natCast_nonneg _)) hneg
  calc
    ((ofInt i).units - i * smallest).natAbs
        = (((ofInt i).size : Int) - (i.natAbs * smallest : Nat)).natAbs := by rw [natAbs_units_sub hsign, habs]
    _ ≤ ((y.size : Int) - (i.natAbs * smallest : Nat)).natAbs := by
      rw [hsize, ← hsmallest]
      exact natAbs_size_sub_le h y
    _ ≤ (y.units - i * smallest).natAbs := by
      rw [← habs]
      exact natAbs_size_sub_natAbs_le y _

end Cohort.Double
