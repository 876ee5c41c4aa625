import Mathlib.Algebra.Order.Floor.Div
import Mathlib.Order.Bounds.Basic

/-! # Rounding up to a multiple

A program rounds `n` up to a multiple of `d` by adding `d - 1` and dropping the remainder.  What
comes out is the least multiple that is not below `n` (`roundUp_isLeast`), and the other facts about
it are read off that.
-/
namespace LocationStack

/-- `n` rounded up to a multiple of `d`. -/
def roundUp (d n : Nat) : Nat := (n + (d - 1)) / d * d

variable {d : Nat} (hd : 0 < d)
include hd

theorem roundUp_eq_ceilDiv (n : Nat) : roundUp d n = d • (n ⌈/⌉ d) := by
  rw [Nat.ceilDiv_eq_add_pred_div, roundUp, smul_eq_mul, Nat.mul_comm, Nat.add_sub_assoc hd]

theorem roundUp_isLeast (n : Nat) : IsLeast {m | d ∣ m ∧ n ≤ m} (roundUp d n) := by
  rw [roundUp_eq_ceilDiv hd]
  constructor
  · exact ⟨Nat.dvd_mul_right _ _, le_smul_ceilDiv hd⟩
  · rintro m ⟨⟨k, rfl⟩, hle⟩
    have hk : n ⌈/⌉ d ≤ k := (ceilDiv_le_iff_le_smul hd).mpr hle
    exact Nat.mul_le_mul_left d hk

theorem dvd_roundUp (n : Nat) : d ∣ roundUp d n := (roundUp_isLeast hd n).1.1

theorem le_roundUp (n : Nat) : n ≤ roundUp d n := (roundUp_isLeast hd n).1.2

theorem roundUp_le {n m : Nat} (hm : d ∣ m) (hle : n ≤ m) : roundUp d n ≤ m :=
  (roundUp_isLeast hd n).2 ⟨hm, hle⟩

theorem roundUp_of_dvd {n : Nat} (hn : d ∣ n) : roundUp d n = n :=
  Nat.le_antisymm (roundUp_le hd hn (Nat.le_refl n)) (le_roundUp hd n)

theorem roundUp_monotone : Monotone (roundUp d) := by
  intro n m hnm
  exact roundUp_le hd (dvd_roundUp hd m) (Nat.le_trans hnm (le_roundUp hd m))

end LocationStack
