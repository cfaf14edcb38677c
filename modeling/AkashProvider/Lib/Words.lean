import Mathlib

/-!
# Words of 64 bits

What the conversion of an integer to 64 bits and a sum in 64 bits are, as numbers.
-/

namespace Words

theorem toNat_ofInt (v : Int) : ((UInt64.ofInt v).toNat : Int) = v % 2 ^ 64 := by
  simp only [UInt64.ofInt, UInt64.toNat_ofNat']
  omega

theorem toNat_ofInt_of_nonneg {v : Int} (hnonneg : 0 ≤ v) (hlt : v < 2 ^ 64) :
    ((UInt64.ofInt v).toNat : Int) = v := by
  rw [toNat_ofInt, Int.emod_eq_of_lt hnonneg hlt]

theorem toNat_sum (l : List UInt64) : l.sum.toNat = (l.map UInt64.toNat).sum % 2 ^ 64 := by
  induction l with
  | nil => rfl
  | cons x l ih =>
    rw [List.sum_cons, List.map_cons, List.sum_cons, UInt64.toNat_add, ih, Nat.add_mod_mod]

theorem toNat_sum_eq_iff (l : List UInt64) :
    l.sum.toNat = (l.map UInt64.toNat).sum ↔ (l.map UInt64.toNat).sum < 2 ^ 64 := by
  rw [toNat_sum]
  exact Nat.mod_eq_iff_lt (by decide)

end Words
