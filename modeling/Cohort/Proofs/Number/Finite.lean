import Cohort.Proofs.Number.Numeral
import Cohort.Proofs.Number.Rounding
import Mathlib.Algebra.Order.Field.Power
import Mathlib.Algebra.Order.Ring.Rat
import Mathlib.Tactic.Linarith
import Mathlib.Tactic.NormNum
import Mathlib.Tactic.Positivity
import Mathlib.Tactic.Ring

/-!
# Numerals of finite numbers

Whatever is below half a unit over the greatest finite double is rounded to a finite one. The numeral of a finite
number stands for a value between the half-way points to its neighbours, so that it can be read as a finite number
again.
-/

namespace Cohort.Double

variable {num den : Nat} {e : Int}

theorem twoPow_mono {m n : Nat} (h : m ≤ n) : twoPow m ≤ twoPow n := Nat.pow_le_pow_right (by decide) h

theorem cast_twoPow (n : Nat) : (twoPow n : ℚ) = 2 ^ n := Nat.cast_pow 2 n

theorem cast_tenPow (n : Nat) : (tenPow n : ℚ) = 10 ^ n := Nat.cast_pow 10 n

theorem scaled_den_pos (hden : 0 < den) : 0 < (scaled num den e).2 := by
  unfold scaled
  split
  · exact hden
  · exact Nat.mul_pos hden (twoPow_pos _)

/-- A ratio in units of `2 ^ e` is a multiple of the unit just as the ratio is. -/
theorem scaled_lt_iff (k : Nat) :
    (scaled num den e).1 < k * (scaled num den e).2 ↔ (num : ℚ) < k * den * 2 ^ e := by
  unfold scaled
  split
  · rename_i hneg
    have hpos : (0 : ℚ) < 2 ^ (-e).toNat := by positivity
    have hunit : (2 : ℚ) ^ e * 2 ^ (-e).toNat = 1 := by
      rw [← zpow_natCast, ← zpow_add₀ (by norm_num), show e + ((-e).toNat : Int) = 0 by omega, zpow_zero]
    rw [← mul_lt_mul_iff_of_pos_right hpos, mul_assoc, hunit, mul_one, ← cast_twoPow]
    exact_mod_cast Iff.rfl
  · rename_i hnonneg
    have hunit : (2 : ℚ) ^ e = 2 ^ e.toNat := by
      rw [← zpow_natCast, Int.toNat_of_nonneg (by omega)]
    rw [hunit, ← cast_twoPow, mul_assoc]
    exact_mod_cast Iff.rfl

/-- The quotient of two numbers lies between powers of two that follow from their bits. -/
theorem ratio_bounds (hnum : num ≠ 0) (hden : den ≠ 0) :
    (den : ℚ) * 2 ^ ((num.log2 : Int) - den.log2 - 1) < num ∧
      (num : ℚ) < den * 2 ^ ((num.log2 : Int) - den.log2 + 1) := by
  have hlog (n : Nat) (hn : n ≠ 0) : (2 : ℚ) ^ (n.log2 : Int) ≤ n ∧ (n : ℚ) < 2 ^ ((n.log2 : Int) + 1) := by
    rw [← Nat.cast_succ, zpow_natCast, zpow_natCast]
    exact ⟨by exact_mod_cast Nat.log2_self_le hn, by exact_mod_cast Nat.lt_log2_self⟩
  obtain ⟨hnumLow, hnumHigh⟩ := hlog num hnum
  obtain ⟨hdenLow, hdenHigh⟩ := hlog den hden
  generalize (num.log2 : Int) = i at *
  generalize (den.log2 : Int) = j at *
  have htwo : (2 : ℚ) ≠ 0 := by norm_num
  constructor
  · calc
      (den : ℚ) * 2 ^ (i - j - 1) < 2 ^ (j + 1) * 2 ^ (i - j - 1) :=
        mul_lt_mul_of_pos_right hdenHigh (by positivity)
      _ = 2 ^ i := by rw [← zpow_add₀ htwo]; congr 1; omega
      _ ≤ num := hnumLow
  · calc
      (num : ℚ) < 2 ^ (i + 1) := hnumHigh
      _ = 2 ^ j * 2 ^ (i - j + 1) := by rw [← zpow_add₀ htwo]; congr 1; omega
      _ ≤ den * 2 ^ (i - j + 1) := mul_le_mul_of_nonneg_right hdenLow (by positivity)

/-- In its unit in the last place a ratio has at most 53 bits, and that many unless it is subnormal. -/
theorem unitExponent_bounds (hnum : num ≠ 0) (hden : 0 < den) :
    (num : ℚ) < 2 ^ 53 * den * 2 ^ unitExponent num den ∧
      (unitExponent num den = -1074 ∨
        -1074 < unitExponent num den ∧ 2 ^ 52 * (den : ℚ) * 2 ^ unitExponent num den ≤ num) := by
  obtain ⟨hlow, hhigh⟩ := ratio_bounds hnum hden.ne'
  have htwo : (2 : ℚ) ≠ 0 := by norm_num
  have hmono {m n : Int} (h : m ≤ n) : (den : ℚ) * 2 ^ m ≤ den * 2 ^ n :=
    mul_le_mul_of_nonneg_left (zpow_le_zpow_right₀ (by norm_num) h) (by positivity)
  have hbits (k : Nat) (n : Int) : (2 : ℚ) ^ k * den * 2 ^ n = den * 2 ^ (n + k) := by
    rw [zpow_add₀ htwo, zpow_natCast]
    ring
  unfold unitExponent
  dsimp only
  generalize hfirst : max (-1074) ((num.log2 : Int) - den.log2 - 52) = e
  have hdiv : (scaled num den e).1 / (scaled num den e).2 < twoPow 52 ↔ (num : ℚ) < 2 ^ 52 * den * 2 ^ e := by
    rw [Nat.div_lt_iff_lt_mul (scaled_den_pos hden), scaled_lt_iff, cast_twoPow]
  split
  · rename_i hsmall
    have hsmall := hdiv.1 hsmall
    rw [hbits] at hsmall ⊢
    rw [hbits]
    refine ⟨lt_of_lt_of_le hsmall (hmono (by omega)), ?_⟩
    rcases Int.lt_or_le (-1074) (e - 1) with hnormal | hsubnormal
    · refine .inr ⟨by omega, le_of_lt (lt_of_le_of_lt (hmono (by omega)) hlow)⟩
    · exact .inl (by omega)
  · rename_i hlarge
    have hlarge := not_lt.1 (mt hdiv.2 hlarge)
    rw [hbits] at hlarge ⊢
    rw [hbits]
    refine ⟨lt_of_lt_of_le hhigh (hmono (by omega)), ?_⟩
    rcases Int.lt_or_le (-1074) e with hnormal | hsubnormal
    · exact .inr ⟨hnormal, hlarge⟩
    · exact .inl (by omega)

theorem cast_finiteLimit : (finiteLimit : ℚ) = (2 ^ 54 - 1) * 2 ^ 970 := by
  rw [finiteLimit_eq, Nat.cast_mul, cast_twoPow, twoPow_52]
  norm_num

/-- The exponent of the unit of a number below the limit is in the range of the format. -/
theorem unitExponent_le (hnum : num ≠ 0) (hden : 0 < den) (h : num < finiteLimit * den) :
    unitExponent num den ≤ 971 := by
  obtain ⟨-, hsubnormal | ⟨-, hle⟩⟩ := unitExponent_bounds hnum hden
  · omega
  · refine Int.not_lt.1 fun hlarge => ?_
    have hpos : (0 : ℚ) < den := Nat.cast_pos.2 hden
    have hlt : (num : ℚ) < (2 ^ 54 - 1) * 2 ^ 970 * den := by
      rw [← cast_finiteLimit]
      exact_mod_cast h
    have hpow : (2 : ℚ) ^ (972 : Int) ≤ 2 ^ unitExponent num den := zpow_le_zpow_right₀ (by norm_num) hlarge
    have hover : (2 : ℚ) ^ 52 * den * 2 ^ (972 : Int) ≤ num :=
      le_trans (mul_le_mul_of_nonneg_left hpow (by positivity)) hle
    have hsplit : (2 : ℚ) ^ (972 : Int) = 4 * 2 ^ 970 := by
      rw [show (972 : Int) = ((2 + 970 : Nat) : Int) from rfl, zpow_natCast, pow_add]
      norm_num
    rw [hsplit] at hover
    have hunit : (0 : ℚ) < 2 ^ 970 := by positivity
    generalize (2 : ℚ) ^ 970 = unit at *
    linarith [mul_pos hpos hunit]

/-- The rounded coefficient has 53 bits, or is the least one of 54 bits. -/
theorem roundHalfEven_le (hden : 0 < den) (h : num < 2 * twoPow 52 * den) :
    roundHalfEven num den ≤ 2 * twoPow 52 := by
  obtain ⟨-, hhigh⟩ := roundHalfEven_bounds num hden
  refine Nat.not_lt.1 fun hlt => ?_
  have hstep : (2 * twoPow 52 + 1) * den ≤ roundHalfEven num den * den := Nat.mul_le_mul_right _ hlt
  rw [Nat.succ_mul] at hstep
  omega

theorem isFinite_ofRatio (negative : Bool) (hden : 0 < den) (h : num < finiteLimit * den) :
    (ofRatio negative num den).isFinite = true := by
  by_cases hnum : num = 0
  · rw [ofRatio, if_pos hnum]
    exact decide_eq_true (Nat.mul_pos (by decide) (twoPow_pos 52))
  obtain ⟨hhigh, -⟩ := unitExponent_bounds hnum hden
  have hlow : -1074 ≤ unitExponent num den := by
    obtain ⟨-, hsubnormal | ⟨hnormal, -⟩⟩ := unitExponent_bounds hnum hden
    · omega
    · omega
  have hle := unitExponent_le hnum hden h
  have hscaled : 0 < (scaled num den (unitExponent num den)).2 := scaled_den_pos hden
  have hcoefficient := roundHalfEven_le hscaled
    ((scaled_lt_iff _).2 (by rw [Nat.cast_mul, cast_twoPow]; norm_num at hhigh ⊢; exact hhigh))
  rw [ofRatio, if_neg hnum]
  refine decide_eq_true ?_
  dsimp only
  refine Nat.lt_of_le_of_lt (Nat.min_le_right _ _) ?_
  rcases Int.lt_or_eq_of_le hle with hlt | heq
  · unfold infiniteMagnitude
    rw [twoPow_52] at hcoefficient ⊢
    omega
  · -- in the greatest unit, the middle before the least coefficient of 54 bits is the limit
    have hscaled : scaled num den 971 = (num, 2 * (den * twoPow 970)) := by
      have hunit : twoPow (Int.toNat 971) = twoPow 970 * 2 := twoPow_succ 970
      rw [scaled, if_neg (by decide), hunit, ← Nat.mul_assoc, Nat.mul_comm 2]
    have hmiddle : num < (4 * twoPow 52 - 1) * (den * twoPow 970) := by
      rwa [finiteLimit_eq, Nat.mul_right_comm, Nat.mul_assoc] at h
    have hround := (roundHalfEven_lt_iff num (twoPow 52) (Nat.mul_pos hden (twoPow_pos 970))).2 hmiddle
    rw [heq, hscaled]
    dsimp only
    unfold infiniteMagnitude
    rw [twoPow_52] at hround ⊢
    omega

/-! ## Decimals -/

/-- What digits with a power of ten stand for. -/
def decimalValue (digits : Nat) (exponent : Int) : ℚ := digits * 10 ^ exponent

theorem decimalValue_mul_tenPow (digits k : Nat) (exponent : Int) :
    decimalValue (digits * tenPow k) exponent = decimalValue digits (exponent + k) := by
  unfold decimalValue
  rw [Nat.cast_mul, cast_tenPow, zpow_add₀ (by norm_num), zpow_natCast]
  ring

theorem decimalValue_lt_iff_of_neg {digits limit : Nat} {exponent : Int} (h : exponent < 0) :
    decimalValue digits exponent < limit ↔ digits < limit * tenPow (-exponent).toNat := by
  have hpos : (0 : ℚ) < 10 ^ (-exponent).toNat := by positivity
  have hunit : (10 : ℚ) ^ exponent * 10 ^ (-exponent).toNat = 1 := by
    rw [← zpow_natCast, ← zpow_add₀ (by norm_num), show exponent + ((-exponent).toNat : Int) = 0 by omega, zpow_zero]
  rw [decimalValue, ← mul_lt_mul_iff_of_pos_right hpos, mul_assoc, hunit, mul_one, ← cast_tenPow]
  exact_mod_cast Iff.rfl

theorem decimalValue_lt_iff_of_nonneg {digits limit : Nat} {exponent : Int} (h : 0 ≤ exponent) :
    decimalValue digits exponent < limit ↔ digits * tenPow exponent.toNat < limit := by
  have hunit : (10 : ℚ) ^ exponent = 10 ^ exponent.toNat := by
    rw [← zpow_natCast, Int.toNat_of_nonneg h]
  rw [decimalValue, hunit, ← cast_tenPow]
  exact_mod_cast Iff.rfl

theorem finiteLimit_le_tenPow : finiteLimit ≤ tenPow 311 := by
  rw [finiteLimit_eq]
  decide +kernel

/-- A decimal below the limit is rounded to a finite double. -/
theorem isFinite_ofDecimal (negative : Bool) {digits : Nat} {exponent : Int}
    (h : decimalValue digits exponent < finiteLimit) : (ofDecimal negative digits exponent).isFinite = true := by
  have hzero : (Double.mk negative 0).isFinite = true := decide_eq_true (Nat.mul_pos (by decide) (twoPow_pos 52))
  unfold ofDecimal
  split
  · exact hzero
  · rename_i hdigits
    split
    · rename_i hlarge
      -- such a power of ten alone is above the limit
      exfalso
      have hone : (1 : ℚ) ≤ digits := by exact_mod_cast Nat.one_le_iff_ne_zero.2 hdigits
      have hpow : (10 : ℚ) ^ (311 : Int) ≤ 10 ^ exponent := zpow_le_zpow_right₀ (by norm_num) hlarge
      have hover : (finiteLimit : ℚ) ≤ 10 ^ (311 : Int) := by
        rw [show (10 : ℚ) ^ (311 : Int) = 10 ^ 311 from zpow_natCast 10 311, ← cast_tenPow]
        exact_mod_cast finiteLimit_le_tenPow
      have hle : (10 : ℚ) ^ exponent ≤ decimalValue digits exponent :=
        le_mul_of_one_le_left (by positivity) hone
      exact absurd (lt_of_le_of_lt (hpow.trans hle) h) (not_lt.2 hover)
    · split
      · exact hzero
      · split
        · rename_i hneg
          exact isFinite_ofRatio negative (tenPow_pos _) ((decimalValue_lt_iff_of_neg hneg).1 h)
        · rename_i hnonneg
          refine isFinite_ofRatio negative Nat.one_pos ?_
          rw [Nat.mul_one]
          exact (decimalValue_lt_iff_of_nonneg (Int.not_lt.1 hnonneg)).1 h

theorem scale_le {x : Double} (hx : x.isFinite = true) : x.scale ≤ 971 := by
  have hmagnitude : x.magnitude < infiniteMagnitude := of_decide_eq_true hx
  have hfield : x.exponentField < 0x7ff := Nat.div_lt_of_lt_mul (by rwa [Nat.mul_comm])
  unfold scale
  omega

theorem Interval.le_high_of_contains {i : Interval} (h : i.contains num den = true) :
    num * i.den ≤ i.high * den ∧ (i.closed = false → num * i.den < i.high * den) := by
  unfold contains at h
  split at h
  · rename_i hclosed
    rw [Bool.and_eq_true, decide_eq_true_iff, decide_eq_true_iff] at h
    exact ⟨h.2, fun hopen => absurd hclosed (by rw [hopen]; exact Bool.false_ne_true)⟩
  · rw [Bool.and_eq_true, decide_eq_true_iff, decide_eq_true_iff] at h
    exact ⟨Nat.le_of_lt h.2, fun _ => h.2⟩

/-- What rounds to a finite number is below the limit. -/
theorem lt_finiteLimit_of_contains {x : Double} (hx : x.isFinite = true) (hden : 0 < den)
    (h : x.roundingInterval.contains num den = true) : num < finiteLimit * den := by
  have hcoefficient := x.coefficient_lt
  have hscale := scale_le hx
  obtain ⟨hle, hlt⟩ := Interval.le_high_of_contains h
  unfold roundingInterval at hle hlt
  by_cases hsmall : x.scale < 2
  · simp only [if_pos hsmall, Nat.mul_one] at hle
    have hhigh : 4 * x.coefficient + 2 < finiteLimit := by
      have hbits := lt_finiteLimit (show 56 ≤ 970 by decide)
      have hpow : twoPow 56 = 16 * twoPow 52 := rfl
      rw [twoPow_52] at hcoefficient hpow
      omega
    calc
      num ≤ num * twoPow (2 - x.scale).toNat := Nat.le_mul_of_pos_right num (twoPow_pos _)
      _ ≤ (4 * x.coefficient + 2) * den := hle
      _ < finiteLimit * den := Nat.mul_lt_mul_of_pos_right hhigh hden
  · simp only [if_neg hsmall, Nat.mul_one] at hle hlt
    have hlimit : finiteLimit = (8 * twoPow 52 - 2) * twoPow 969 := by
      have hunit : twoPow 970 = twoPow 969 * 2 := twoPow_succ 969
      rw [finiteLimit_eq, hunit]
      generalize twoPow 969 = up
      change 18014398509481983 * (up * 2) = 36028797018963966 * up
      omega
    have hup : twoPow (x.scale - 2).toNat ≤ twoPow 969 := twoPow_mono (by omega)
    have hmono {k : Nat} (hk : 4 * x.coefficient + 2 ≤ k) :
        (4 * x.coefficient + 2) * twoPow (x.scale - 2).toNat * den ≤ k * twoPow 969 * den :=
      Nat.mul_le_mul_right den (Nat.mul_le_mul hk hup)
    rw [hlimit]
    rcases Nat.mod_two_eq_zero_or_one x.coefficient with heven | hodd
    · -- the greatest coefficient is odd
      refine Nat.lt_of_le_of_lt (hle.trans (hmono (k := 8 * twoPow 52 - 3) ?_)) ?_
      · rw [twoPow_52] at hcoefficient ⊢
        omega
      · exact Nat.mul_lt_mul_of_pos_right (Nat.mul_lt_mul_of_pos_right (by decide) (twoPow_pos 969)) hden
    · refine Nat.lt_of_lt_of_le (hlt (by rw [hodd]; rfl)) (hmono ?_)
      rw [twoPow_52] at hcoefficient ⊢
      omega

theorem eq_true_of_first {hits : Nat → Bool} {near far n : Nat}
    (h : (if hits near then some near else if hits far then some far else none) = some n) : hits n = true := by
  split at h
  · rename_i hnear
    exact Option.some.inj h ▸ hnear
  · obtain ⟨hfar, h⟩ := Option.ite_none_right_eq_some.1 h
    exact Option.some.inj h ▸ hfar

theorem decimalValue_lt_of_nearest? {x : Double} (hx : x.isFinite = true) {digits : Nat} {exponent : Int}
    (h : x.roundingInterval.nearest? exponent = some digits) : decimalValue digits exponent < finiteLimit := by
  have hhits := @eq_true_of_first (fun n =>
    if exponent < 0 then x.roundingInterval.contains n (tenPow (-exponent).toNat)
    else x.roundingInterval.contains (n * tenPow exponent.toNat) 1) _ _ _ h
  by_cases hneg : exponent < 0
  · rw [if_pos hneg] at hhits
    exact (decimalValue_lt_iff_of_neg hneg).2 (lt_finiteLimit_of_contains hx (tenPow_pos _) hhits)
  · rw [if_neg hneg] at hhits
    have hlt := lt_finiteLimit_of_contains hx Nat.one_pos hhits
    rw [Nat.mul_one] at hlt
    exact (decimalValue_lt_iff_of_nonneg (Int.not_lt.1 hneg)).2 hlt

/-- The digits that are written for a finite number are below the limit. -/
theorem decimalValue_shortest_lt {x : Double} (hx : x.isFinite = true) :
    decimalValue x.shortest.1 x.shortest.2 < finiteLimit := by
  unfold shortest
  dsimp only
  generalize hfound : List.findSome? _ _ = found
  cases found with
  | none =>
    have hpos : 0 < finiteLimit := Nat.lt_of_le_of_lt (Nat.zero_le _) (lt_finiteLimit (Nat.zero_le 970))
    have hzero : decimalValue 0 0 = 0 := by simp [decimalValue]
    exact hzero ▸ Nat.cast_pos.2 hpos
  | some pair =>
    obtain ⟨k, -, hk⟩ := List.exists_of_findSome?_eq_some hfound
    obtain ⟨digits, hdigits, rfl⟩ := Option.map_eq_some_iff.1 hk
    exact decimalValue_lt_of_nearest? hx hdigits

theorem decimalValue_stripZeros (fuel digits : Nat) (exponent : Int) :
    decimalValue (stripZeros fuel digits exponent).1 (stripZeros fuel digits exponent).2 =
      decimalValue digits exponent := by
  induction fuel generalizing digits exponent with
  | zero => rfl
  | succ fuel ih =>
    unfold stripZeros
    split
    · rename_i hzero
      have hdigits : digits / 10 * tenPow 1 = digits := Nat.div_mul_cancel (Nat.dvd_of_mod_eq_zero hzero)
      rw [ih, ← Nat.cast_one, ← decimalValue_mul_tenPow, hdigits]
    · rfl

end Cohort.Double
