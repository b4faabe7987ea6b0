/-!
# Powers and words

Powers of two and ten, and the limits of words of 32 and 64 bits.
-/

namespace Cohort

def twoPow (n : Nat) : Nat := Nat.pow 2 n

def tenPow (n : Nat) : Nat := Nat.pow 10 n

@[simp] theorem tenPow_zero : tenPow 0 = 1 := rfl

theorem twoPow_succ (n : Nat) : twoPow (n + 1) = twoPow n * 2 := rfl

theorem tenPow_succ (n : Nat) : tenPow (n + 1) = tenPow n * 10 := rfl

theorem twoPow_add (m n : Nat) : twoPow (m + n) = twoPow m * twoPow n := Nat.pow_add 2 m n

theorem twoPow_pos (n : Nat) : 0 < twoPow n := by
  induction n with
  | zero => exact Nat.one_pos
  | succ n ih => rw [twoPow_succ]; omega

theorem tenPow_pos (n : Nat) : 0 < tenPow n := by
  induction n with
  | zero => exact Nat.one_pos
  | succ n ih => rw [tenPow_succ]; omega

/-- How many values a word of 32 bits has. -/
def word32 : Nat := 0x100000000

/-- How many values a word of 64 bits has. -/
def word64 : Nat := 0x10000000000000000

/-- The least number of 64 bits with a sign. -/
def minInt64 : Int := -0x8000000000000000

/-- The greatest number of 64 bits with a sign. -/
def maxInt64 : Int := 0x7fffffffffffffff

end Cohort
