import Mathlib.Data.Nat.Notation

/-! # One bit of a mask

A mask records a set of small numbers, bit by bit.  The lemmas say what the three idioms for a
single bit, `m & (1 << k)`, `m | (1 << k)` and `m & ~(1 << k)`, mean for the bits.
-/
namespace LocationStack
namespace BitMask

variable {w : Nat}

/-- Testing a bit. -/
theorem and_shiftLeft_eq_zero (m : BitVec w) {k : Nat} (hk : k < w) :
    m &&& (1#w <<< k) = 0#w ↔ m.getLsbD k = false := by
  constructor
  · intro h
    have hbit := congrArg (BitVec.getLsbD · k) h
    simpa [BitVec.getLsbD_and, BitVec.getLsbD_shiftLeft, hk, Nat.zero_lt_of_lt hk] using hbit
  · intro h
    apply BitVec.eq_of_getLsbD_eq
    intro j hj
    rw [BitVec.getLsbD_and, BitVec.getLsbD_shiftLeft, BitVec.getLsbD_one]
    rcases Nat.lt_trichotomy j k with hlt | rfl | hgt
    · simp [hlt]
    · simp [h]
    · have hne : j - k ≠ 0 := by omega
      simp [hne]

/-- Setting a bit. -/
theorem getLsbD_or_shiftLeft (m : BitVec w) {k : Nat} (hk : k < w) (j : Nat) :
    (m ||| (1#w <<< k)).getLsbD j = (m.getLsbD j || decide (j = k)) := by
  rw [BitVec.getLsbD_or, BitVec.getLsbD_shiftLeft, BitVec.getLsbD_one]
  rcases Nat.lt_trichotomy j k with hlt | rfl | hgt
  · have hne : j ≠ k := by omega
    simp [hlt, hne]
  · simp [hk, Nat.zero_lt_of_lt hk]
  · have hne : j ≠ k := by omega
    have hsub : j - k ≠ 0 := by omega
    simp [hne, hsub]

/-- What a loop that sets bits leaves. -/
theorem getLsbD_foldl_or {α : Type} (f : α → BitVec w) (l : List α) (m : BitVec w) (k : Nat) :
    (l.foldl (fun m a => m ||| f a) m).getLsbD k =
      (m.getLsbD k || l.any fun a => (f a).getLsbD k) := by
  induction l generalizing m with
  | nil => simp
  | cons a l ih => rw [List.foldl_cons, ih, BitVec.getLsbD_or, List.any_cons, Bool.or_assoc]

/-- Clearing a bit; one that the mask does not have is not there to clear. -/
theorem getLsbD_and_not_shiftLeft (m : BitVec w) (k j : Nat) :
    (m &&& ~~~(1#w <<< k)).getLsbD j = (m.getLsbD j && !decide (j = k)) := by
  rw [BitVec.getLsbD_and, BitVec.getLsbD_not, BitVec.getLsbD_shiftLeft, BitVec.getLsbD_one]
  by_cases hj : j < w
  · rcases Nat.lt_trichotomy j k with hlt | rfl | hgt
    · have hne : j ≠ k := by omega
      simp [hj, hlt, hne]
    · simp [hj, Nat.zero_lt_of_lt hj]
    · have hne : j ≠ k := by omega
      have hsub : j - k ≠ 0 := by omega
      simp [hj, hne, hsub]
  · simp [BitVec.getLsbD_of_ge m j (Nat.le_of_not_lt hj)]

end BitMask
end LocationStack
