import Mathlib.Data.Rat.Floor
import Mathlib.Tactic.Linarith

/-! # Signed 64-bit arithmetic

A program adds, subtracts and multiplies in 64 bits with a sign, where a result that does not fit
is undefined, and converts a real number to such an integer by dropping what is behind the point.
`checked` and `toInt64` give no value there.  A sum with an unsigned operand is taken modulo
`2 ^ 64` instead.
-/
namespace LocationStack

/-- What 64 bits with a sign can hold. -/
def InInt64 (x : Int) : Prop := -9223372036854775808 ≤ x ∧ x ≤ 9223372036854775807

instance (x : Int) : Decidable (InInt64 x) := inferInstanceAs (Decidable (_ ∧ _))

/-- The result of an operation. -/
def checked (x : Int) : Option Int := if InInt64 x then some x else none

/-- Modulo `2 ^ 64`. -/
def wrapInt64 (x : Int) : Int := x.bmod (2 ^ 64)

/-- What is before the point. -/
def truncate (x : ℚ) : Int := if 0 ≤ x then ⌊x⌋ else ⌈x⌉

/-- The conversion of a real number. -/
def toInt64 (x : ℚ) : Option Int := checked (truncate x)

/-- What is dropped is less than one. -/
theorem abs_sub_truncate_lt (x : ℚ) : |x - truncate x| < 1 := by
  unfold truncate
  rw [abs_lt]
  split
  next h =>
    have hle := Int.floor_le x
    have hlt := Int.lt_floor_add_one x
    constructor <;> linarith
  next h =>
    have hle := Int.le_ceil x
    have hlt := Int.ceil_lt_add_one x
    constructor <;> linarith

@[simp] theorem checked_eq_some {x y : Int} : checked x = some y ↔ InInt64 x ∧ x = y := by
  unfold checked
  split
  next h => exact ⟨fun heq => ⟨h, Option.some.inj heq⟩, fun heq => congrArg some heq.2⟩
  next h => exact ⟨nofun, fun heq => absurd heq.1 h⟩

@[simp] theorem toInt64_eq_some {x : ℚ} {y : Int} :
    toInt64 x = some y ↔ InInt64 (truncate x) ∧ truncate x = y := checked_eq_some

theorem wrapInt64_inInt64 (x : Int) : InInt64 (wrapInt64 x) := by
  have hlow := @Int.le_bmod x (2 ^ 64) (by decide)
  have hhigh := @Int.bmod_lt x (2 ^ 64) (by decide)
  unfold InInt64 wrapInt64
  omega

/-- Modulo `2 ^ 64` a result that fits is kept. -/
theorem wrapInt64_of_inInt64 {x : Int} (h : InInt64 x) : wrapInt64 x = x := by
  unfold InInt64 at h
  exact Int.bmod_eq_of_le_mul_two (by omega) (by omega)

/-- One that does not fit is off by at least `2 ^ 64`. -/
theorem wrapInt64_off {x : Int} (h : ¬InInt64 x) :
    wrapInt64 x - x ≤ -18446744073709551616 ∨ 18446744073709551616 ≤ wrapInt64 x - x := by
  have hne : wrapInt64 x ≠ x := fun heq => h (heq ▸ wrapInt64_inInt64 x)
  have hdvd : (18446744073709551616 : Int) ∣ wrapInt64 x - x := by
    unfold wrapInt64
    exact Int.dvd_bmod_sub_self
  obtain ⟨k, hk⟩ := hdvd
  have hk0 : k ≠ 0 := by
    rintro rfl
    omega
  omega

end LocationStack
