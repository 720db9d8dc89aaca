import Mathlib.Algebra.Order.Field.Power
import Msm8660.Lib.Printf

/-!
# Whole numbers as binary32

A whole number that is converted to the type `float` is rounded to 24 significant bits, to
the even one of two numbers that are equally near (`natToFloat`). Rounding keeps the order
with the numbers of the type (`IsBinary32.le_natToFloat`, `IsBinary32.natToFloat_le`), so that a
comparison of such a number with a converted one goes wrong only where the two are the same
(`IsBinary32.natToFloat_lt_iff`).
-/

set_option autoImplicit false

namespace Msm8660

/-- The value of the last of the 24 bits that are kept of a whole number. -/
def lastPlace (n : ℕ) : ℕ := 2 ^ (n.log2 - 23)

/-- A whole number as a `float`. -/
def natToFloat (n : ℕ) : ℕ := roundEven (n / lastPlace n) * lastPlace n

example : natToFloat 16777219 = 16777220 := by decide +kernel

/-- The numbers of 24 bits, whatever the exponent; all finite numbers of type `float` are
among them. -/
def IsBinary32 (q : ℚ) : Prop :=
  ∃ digits place : ℤ, |digits| < 2 ^ 24 ∧ q = digits * 2 ^ place

theorem lastPlace_pos (n : ℕ) : (0 : ℚ) < lastPlace n := by
  unfold lastPlace
  positivity

/-- A number of at most 24 bits keeps all of them. -/
theorem natToFloat_of_small {n : ℕ} (small : n.log2 ≤ 23) : natToFloat n = n := by
  have place : lastPlace n = 1 := by
    rw [lastPlace, Nat.sub_eq_zero_of_le small, pow_zero]
  rw [natToFloat, place, Nat.cast_one, div_one, mul_one]
  exact le_antisymm (roundEven_le (Nat.cast_nonneg n) le_rfl) (le_roundEven le_rfl)

/-- A longer one fills its 24 bits. -/
theorem lastPlace_mul_le {n : ℕ} (large : ¬ n.log2 ≤ 23) : 2 ^ 23 * lastPlace n ≤ n := by
  have nonzero : n ≠ 0 := by
    rintro rfl
    exact large (by decide)
  rw [lastPlace, ← pow_add, Nat.add_sub_cancel' (by omega)]
  exact Nat.log2_self_le nonzero

namespace IsBinary32

variable {q : ℚ} {n : ℕ}

/-- A number of the type that is as large as 24 bits can be is a multiple of the last. -/
theorem exists_eq_mul (float : IsBinary32 q) {place : ℕ} (large : 2 ^ 23 * 2 ^ place ≤ q) :
    ∃ multiple : ℕ, q = multiple * 2 ^ place := by
  obtain ⟨digits, exponent, few, rfl⟩ := float
  have under : (2 : ℚ) ^ ((23 + place : ℕ) : ℤ) < 2 ^ (24 + exponent) := by
    calc (2 : ℚ) ^ ((23 + place : ℕ) : ℤ) = 2 ^ 23 * 2 ^ place := by
          rw [zpow_natCast, pow_add]
      _ ≤ digits * 2 ^ exponent := large
      _ < 2 ^ 24 * 2 ^ exponent := by
          have cast : (digits : ℚ) < 2 ^ 24 := by exact_mod_cast (abs_lt.mp few).2
          exact mul_lt_mul_of_pos_right cast (by positivity)
      _ = 2 ^ (24 + exponent) := by
          rw [zpow_add₀ two_ne_zero]
          rfl
  have fits : (place : ℤ) ≤ exponent := by
    have exponents := (zpow_lt_zpow_iff_right₀ (one_lt_two : (1 : ℚ) < 2)).mp under
    push_cast at exponents
    omega
  have positive : (0 : ℚ) < digits * 2 ^ exponent :=
    lt_of_lt_of_le (by positivity : (0 : ℚ) < 2 ^ 23 * 2 ^ place) large
  have nonneg : 0 ≤ digits := by
    have sign := pos_of_mul_pos_left positive (by positivity)
    exact_mod_cast sign.le
  obtain ⟨digits, rfl⟩ := Int.eq_ofNat_of_zero_le nonneg
  obtain ⟨more, rfl⟩ := Int.le.dest fits
  refine ⟨digits * 2 ^ more, ?_⟩
  rw [zpow_add₀ two_ne_zero, zpow_natCast, zpow_natCast]
  push_cast
  ring

/-- Rounding does not lead below a number of the type. -/
theorem le_natToFloat (float : IsBinary32 q) (below : q ≤ n) : q ≤ natToFloat n := by
  by_cases small : n.log2 ≤ 23
  · rwa [natToFloat_of_small small]
  · have full : (2 ^ 23 * lastPlace n : ℚ) ≤ n := by exact_mod_cast lastPlace_mul_le small
    have kept : ∀ multiple : ℕ, (multiple * lastPlace n : ℚ) ≤ n →
        (multiple * lastPlace n : ℚ) ≤ natToFloat n := by
      intro multiple least
      have rounded := le_roundEven ((le_div_iff₀ (lastPlace_pos n)).mpr least)
      exact_mod_cast Nat.mul_le_mul_right (lastPlace n) rounded
    rcases le_total q (2 ^ 23 * lastPlace n) with less | more
    · have least := kept (2 ^ 23) (by rwa [Nat.cast_pow])
      rw [Nat.cast_pow] at least
      exact less.trans least
    · have large : (2 ^ 23 * 2 ^ (n.log2 - 23) : ℚ) ≤ q := by simpa [lastPlace] using more
      obtain ⟨multiple, rfl⟩ := float.exists_eq_mul large
      simpa [lastPlace] using kept multiple (by simpa [lastPlace] using below)

/-- Nor above one. -/
theorem natToFloat_le (float : IsBinary32 q) (above : n ≤ q) : natToFloat n ≤ q := by
  by_cases small : n.log2 ≤ 23
  · rwa [natToFloat_of_small small]
  · have full : (2 ^ 23 * lastPlace n : ℚ) ≤ n := by exact_mod_cast lastPlace_mul_le small
    have large : (2 ^ 23 * 2 ^ (n.log2 - 23) : ℚ) ≤ q := by
      simpa [lastPlace] using full.trans above
    obtain ⟨multiple, rfl⟩ := float.exists_eq_mul large
    have quotient : (n / lastPlace n : ℚ) ≤ multiple :=
      (div_le_iff₀ (lastPlace_pos n)).mpr (by simpa [lastPlace] using above)
    have rounded := roundEven_le (by positivity) quotient
    have product : (natToFloat n : ℚ) ≤ multiple * lastPlace n := by
      exact_mod_cast Nat.mul_le_mul_right (lastPlace n) rounded
    simpa [lastPlace] using product

/-- **A comparison with a converted number goes wrong only at that number.** -/
theorem natToFloat_lt_iff (float : IsBinary32 q) :
    (natToFloat n : ℚ) < q ↔ (n : ℚ) < q ∧ q ≠ natToFloat n := by
  constructor
  · intro less
    refine ⟨?_, less.ne'⟩
    by_contra below
    exact absurd (float.le_natToFloat (not_lt.mp below)) (not_le.mpr less)
  · rintro ⟨less, other⟩
    exact lt_of_le_of_ne (float.natToFloat_le less.le) other.symm

end IsBinary32

end Msm8660
