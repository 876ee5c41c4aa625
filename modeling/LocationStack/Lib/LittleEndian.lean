import Mathlib.Algebra.Group.Nat.Defs
import Mathlib.Data.List.Basic

/-! # Little-endian integers

The bytes of an unsigned integer in memory, least significant first, and back.
`leBytes width v` keeps the low `width` bytes of `v`, as a conversion to an unsigned
type of that width does; `toInt` is the conversion to a signed type of four bytes.
-/
namespace LocationStack.LittleEndian

/-- The low `width` bytes of `v`. -/
def leBytes : Nat → Nat → List UInt8
  | 0, _ => []
  | width + 1, v => UInt8.ofNat v :: leBytes width (v / 256)

/-- The integer these bytes are. -/
def ofLeBytes : List UInt8 → Nat
  | [] => 0
  | b :: bs => b.toNat + 256 * ofLeBytes bs

@[simp] theorem leBytes_length (width v : Nat) : (leBytes width v).length = width := by
  induction width generalizing v with
  | zero => rfl
  | succ width ih => simp [leBytes, ih]

theorem ofLeBytes_leBytes (width v : Nat) : ofLeBytes (leBytes width v) = v % 256 ^ width := by
  induction width generalizing v with
  | zero => simp [leBytes, ofLeBytes, Nat.mod_one]
  | succ width ih =>
    have hb : (UInt8.ofNat v).toNat = v % 256 := by simp
    rw [leBytes, ofLeBytes, ih, hb, Nat.pow_succ', Nat.mod_mul]

theorem ofLeBytes_leBytes_of_lt {width v : Nat} (h : v < 256 ^ width) :
    ofLeBytes (leBytes width v) = v := by
  rw [ofLeBytes_leBytes, Nat.mod_eq_of_lt h]

theorem ofLeBytes_lt (bs : List UInt8) : ofLeBytes bs < 256 ^ bs.length := by
  induction bs with
  | nil => simp [ofLeBytes]
  | cons b bs ih =>
    have hb := b.toNat_lt
    rw [ofLeBytes, List.length_cons, Nat.pow_succ']
    omega

/-- The conversion to an `int`. -/
def toInt (n : Nat) : Int := (n : Int).bmod (2 ^ 32)

theorem toInt_of_lt {n : Nat} (h : n < 2 ^ 31) : toInt n = n :=
  Int.bmod_eq_of_le (by omega) (by omega)

theorem toInt_ne_zero {n : Nat} (hpos : 0 < n) (hlt : n < 2 ^ 32) : toInt n ≠ 0 := by
  intro h
  have hdvd : ((2 ^ 32 : Nat) : Int) ∣ n := Int.dvd_iff_bmod_eq_zero.mpr h
  have := Nat.le_of_dvd hpos (Int.natCast_dvd_natCast.mp hdvd)
  omega

attribute [irreducible] toInt

end LocationStack.LittleEndian
