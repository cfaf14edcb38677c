import Mathlib.Algebra.Order.Archimedean.Basic
import Mathlib.Data.Rat.Floor

/-!
# Decimal fractions

A decimal fraction is a rational number.  `Decimal.Fits k q` says that `k` digits after the point
are enough for `q`, and `Decimal.scaled k q` is then the integer that those digits make.
`Decimal.roundTo k` rounds to `k` digits.
-/

namespace Decimal

variable {k : ℕ} {p q : ℚ}

/-! ## Digits after the point -/

/-- `q` has at most `k` digits after the point. -/
def Fits (k : ℕ) (q : ℚ) : Prop := (q * 10 ^ k).den = 1

instance (k : ℕ) (q : ℚ) : Decidable (Fits k q) := inferInstanceAs (Decidable (_ = _))

/-- `q` in units of the `k`-th digit. -/
def scaled (k : ℕ) (q : ℚ) : ℤ := (q * 10 ^ k).num

theorem Fits.scaled_eq (h : Fits k q) : (scaled k q : ℚ) = q * 10 ^ k :=
  Rat.coe_int_num_of_den_eq_one h

theorem fits_of_eq {n : ℤ} (h : q * 10 ^ k = n) : Fits k q := by
  rw [Fits, h]
  exact Rat.den_intCast n

/-- A number that is an integer over `m` in units of the `k`-th digit. -/
theorem fits_iff_dvd {m n : ℤ} (hm : m ≠ 0) (h : q * 10 ^ k * m = n) : Fits k q ↔ m ∣ n := by
  have hm' : (m : ℚ) ≠ 0 := Int.cast_ne_zero.mpr hm
  constructor
  · intro hfits
    refine ⟨scaled k q, ?_⟩
    have hcast : (n : ℚ) = m * scaled k q := by rw [hfits.scaled_eq, ← h, mul_comm]
    exact_mod_cast hcast
  · rintro ⟨c, rfl⟩
    refine fits_of_eq (n := c) (mul_right_cancel₀ hm' ?_)
    rw [h, Int.cast_mul, mul_comm]

theorem scaled_le_scaled (hp : Fits k p) (hq : Fits k q) : scaled k p ≤ scaled k q ↔ p ≤ q := by
  rw [← Int.cast_le (R := ℚ), hp.scaled_eq, hq.scaled_eq]
  simp

/-! ## Rounding -/

/-- The nearest number with `k` digits after the point. -/
def roundTo (k : ℕ) (q : ℚ) : ℚ := ⌊q * 10 ^ k + 1 / 2⌋ / 10 ^ k

theorem roundTo_mono (k : ℕ) : Monotone (roundTo k) := by
  intro p q hle
  have hfloor : ⌊p * 10 ^ k + 1 / 2⌋ ≤ ⌊q * 10 ^ k + 1 / 2⌋ := by
    refine Int.floor_mono ?_
    gcongr
  rw [roundTo, roundTo]
  gcongr

end Decimal
