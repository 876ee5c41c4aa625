import Mathlib.Algebra.Group.Nat.Defs
import Mathlib.Data.List.Basic

/-! # Loops over the words of an interval

`for (j = low; j <= high; j++)` over words of 32 bits.  The loop is run with so much fuel, one unit
for each time that its head is come to.  The increment wraps: where `high` is the greatest word the
guard never fails and no amount of fuel is enough; for any other `high` the body is run on the
words of the interval, in increasing order.
-/
namespace LocationStack
namespace WordLoop

variable {σ : Type} (body : σ → UInt32 → σ)

/-- `for (j = low; j <= high; j++)` -/
def loop (high : UInt32) : Nat → UInt32 → σ → Option σ
  | 0, _, _ => none
  | fuel + 1, j, s => if j ≤ high then loop high fuel (j + 1) (body s j) else some s

/-- The words from `low` to `high`, in increasing order; there are none if `low` is greater. -/
def between (low high : UInt32) : List UInt32 :=
  (List.range' low.toNat (high.toNat + 1 - low.toNat)).map UInt32.ofNat

@[simp] theorem length_between (low high : UInt32) :
    (between low high).length = high.toNat + 1 - low.toNat := by
  simp [between]

theorem between_eq_nil {low high : UInt32} (h : high < low) : between low high = [] := by
  rw [UInt32.lt_iff_toNat_lt] at h
  rw [← List.length_eq_zero_iff, length_between]
  omega

theorem between_eq_cons {low high : UInt32} (h : low ≤ high) (hmax : high.toNat + 1 < 2 ^ 32) :
    between low high = low :: between (low + 1) high := by
  rw [UInt32.le_iff_toNat_le] at h
  have hnext : (low + 1).toNat = low.toNat + 1 := by
    rw [UInt32.toNat_add, UInt32.toNat_one]
    omega
  have hlength : high.toNat + 1 - low.toNat = (high.toNat + 1 - (low.toNat + 1)) + 1 := by omega
  rw [between, between, hnext, hlength, List.range'_succ, List.map_cons, UInt32.ofNat_toNat]

/-- **Up to the greatest word** the loop does not end. -/
theorem loop_max (fuel : Nat) (j : UInt32) (s : σ) {high : UInt32}
    (hmax : high.toNat + 1 = 2 ^ 32) : loop body high fuel j s = none := by
  induction fuel generalizing j s with
  | zero => rfl
  | succ fuel ih =>
    have hle : j ≤ high := by
      have hj := j.toNat_lt
      rw [UInt32.le_iff_toNat_le]
      omega
    rw [loop, if_pos hle, ih]

/-- **When the loop ends**: up to any other word, with more fuel than there are words left; it is
then the fold of its body over the interval. -/
theorem loop_eq_some_iff {fuel : Nat} {low high : UInt32} {s t : σ} :
    loop body high fuel low s = some t ↔
      (high.toNat + 1 < 2 ^ 32 ∧ high.toNat + 1 - low.toNat < fuel) ∧
        (between low high).foldl body s = t := by
  by_cases hmax : high.toNat + 1 < 2 ^ 32
  · induction fuel generalizing low s with
    | zero => simp [loop]
    | succ fuel ih =>
      rw [loop]
      by_cases hle : low ≤ high
      · have hnext : high.toNat + 1 - (low + 1).toNat < fuel ↔
            high.toNat + 1 - low.toNat < fuel + 1 := by
          rw [UInt32.le_iff_toNat_le] at hle
          rw [UInt32.toNat_add, UInt32.toNat_one]
          omega
        rw [if_pos hle, ih, hnext, between_eq_cons hle hmax, List.foldl_cons]
      · have hfuel : high.toNat + 1 - low.toNat < fuel + 1 := by
          rw [UInt32.le_iff_toNat_le] at hle
          omega
        rw [if_neg hle, between_eq_nil (UInt32.not_le.mp hle), List.foldl_nil, Option.some_inj]
        exact ⟨fun h => ⟨⟨hmax, hfuel⟩, h⟩, fun h => h.2⟩
  · have hlast : high.toNat + 1 = 2 ^ 32 := by
      have hhigh := high.toNat_lt
      omega
    rw [loop_max body fuel low s hlast]
    exact ⟨nofun, fun h => absurd h.1.1 hmax⟩

end WordLoop
end LocationStack
