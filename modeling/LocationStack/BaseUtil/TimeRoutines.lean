import LocationStack.Lib.EventRun
import Mathlib.Tactic.Ring

/-! # Time routines

`TimeDiff` and `Timestamp` keep seconds and nanoseconds in a `timespec`, whose members are 64
bits wide here.  The additions and differences carry and borrow in loops of their own, some
upwards only, and a difference of timestamps is put together with `add_sec` and `add_nsec`,
which take an `int`.  An operator that is applied to an invalid operand exits.

`Registers` is a difference and a timestamp that are worked with, and beside each the number of
nanoseconds that it should be.
-/
namespace LocationStack

/-- `NANO_PER_SEC`. -/
def nanoPerSec : Int := 1000000000

/-- What a `time_t` or a `long` keeps of a value. -/
def toLong (x : Int) : Int := x.bmod (2 ^ 64)

/-- The values of a `time_t`. -/
def InLong (x : Int) : Prop := -2 ^ 63 ≤ x ∧ x < 2 ^ 63

/-- The values of an `int`. -/
def InInt (x : Int) : Prop := -2 ^ 31 ≤ x ∧ x < 2 ^ 31

instance (x : Int) : Decidable (InLong x) := inferInstanceAs (Decidable (_ ∧ _))

instance (x : Int) : Decidable (InInt x) := inferInstanceAs (Decidable (_ ∧ _))

/-- `struct timespec`. -/
structure Timespec where
  tv_sec : Int
  tv_nsec : Int
  deriving DecidableEq, Repr

namespace Timespec

/-- `while (tv_nsec >= NANO_PER_SEC)`, a second up. -/
def carry (t : Timespec) : Timespec :=
  if nanoPerSec ≤ t.tv_nsec then carry ⟨toLong (t.tv_sec + 1), t.tv_nsec - nanoPerSec⟩ else t
termination_by t.tv_nsec.toNat
decreasing_by
  rename_i h
  simp only [nanoPerSec] at h ⊢
  omega

/-- `while (tv_nsec < 0)`, a second down. -/
def borrow (t : Timespec) : Timespec :=
  if t.tv_nsec < 0 then borrow ⟨toLong (t.tv_sec - 1), t.tv_nsec + nanoPerSec⟩ else t
termination_by (-t.tv_nsec).toNat
decreasing_by
  rename_i h
  simp only [nanoPerSec]
  omega

/-- The time in nanoseconds. -/
def nanos (t : Timespec) : Int := t.tv_sec * nanoPerSec + t.tv_nsec

/-- The nanoseconds are less than a second. -/
def Normalized (t : Timespec) : Prop := 0 ≤ t.tv_nsec ∧ t.tv_nsec < nanoPerSec

/-- The time of a timestamp: seconds that are not negative, and nanoseconds. -/
def Valid (t : Timespec) : Prop := (0 ≤ t.tv_sec ∧ t.tv_sec < 2 ^ 63) ∧ t.Normalized

end Timespec

/-! ## The classes -/

structure TimeDiff where
  m_is_valid : Bool
  m_timediff : Timespec
  deriving DecidableEq, Repr

namespace TimeDiff

def reset (validity : Bool) : TimeDiff := ⟨validity, ⟨0, 0⟩⟩

variable (d : TimeDiff)

def add_sec (sec : Int32) : TimeDiff × Int :=
  if !d.m_is_valid then (d, 2)
  else
    ({ d with m_timediff := ⟨toLong (d.m_timediff.tv_sec + sec.toInt), d.m_timediff.tv_nsec⟩ }, 0)

/-- Seconds and milliseconds have the sign of `msec`; the loop counts in the seconds that are
added. -/
def add_msec (msec : Int32) : TimeDiff × Int :=
  if !d.m_is_valid then (d, 2)
  else
    let sec := msec.toInt.tdiv 1000
    let msec_modified := msec.toInt - sec * 1000
    let t := Timespec.carry ⟨sec, toLong (d.m_timediff.tv_nsec + msec_modified * 1000000)⟩
    ({ d with m_timediff := ⟨toLong (d.m_timediff.tv_sec + t.tv_sec), t.tv_nsec⟩ }, 0)

def add_nsec (nsec : Int32) : TimeDiff × Int :=
  if !d.m_is_valid then (d, 2)
  else
    ({ d with
        m_timediff := Timespec.carry
          ⟨d.m_timediff.tv_sec, toLong (d.m_timediff.tv_nsec + nsec.toInt)⟩ }, 0)

end TimeDiff

structure Timestamp where
  m_is_valid : Bool
  m_clock_id : Int
  m_timestamp : Timespec
  deriving DecidableEq, Repr

namespace Timestamp

variable (a : Timestamp)

/-- `operator -(const TimeDiff &)`; `none` is an exit. -/
def minusDiff (rhs : TimeDiff) : Option Timestamp :=
  if !a.m_is_valid then none
  else if !rhs.m_is_valid then none
  else
    some ⟨true, a.m_clock_id,
      (Timespec.borrow ⟨toLong (a.m_timestamp.tv_sec - rhs.m_timediff.tv_sec),
        toLong (a.m_timestamp.tv_nsec - rhs.m_timediff.tv_nsec)⟩).carry⟩

/-- `operator +`. -/
def plusDiff (rhs : TimeDiff) : Option Timestamp :=
  if !a.m_is_valid then none
  else if !rhs.m_is_valid then none
  else
    some ⟨true, a.m_clock_id,
      Timespec.carry ⟨toLong (a.m_timestamp.tv_sec + rhs.m_timediff.tv_sec),
        toLong (a.m_timestamp.tv_nsec + rhs.m_timediff.tv_nsec)⟩⟩

/-- `operator -(const Timestamp &)`.  Seconds and nanoseconds become the `int`s that `add_sec`
and `add_nsec` take; these succeed, for `delta` is valid. -/
def minus (rhs : Timestamp) : Option TimeDiff :=
  if !a.m_is_valid then none
  else if !rhs.m_is_valid then none
  else if a.m_clock_id ≠ rhs.m_clock_id then none
  else
    let time_delta := (Timespec.borrow
      ⟨toLong (a.m_timestamp.tv_sec - rhs.m_timestamp.tv_sec),
        toLong (a.m_timestamp.tv_nsec - rhs.m_timestamp.tv_nsec)⟩).carry
    let delta := (TimeDiff.reset true).add_sec (Int32.ofInt time_delta.tv_sec)
    some (delta.1.add_nsec (Int32.ofInt time_delta.tv_nsec)).1

/-- `operator >=`. -/
def ge (rhs : Timestamp) : Option Bool :=
  if !a.m_is_valid then none
  else if !rhs.m_is_valid then none
  else if a.m_clock_id ≠ rhs.m_clock_id then none
  else
    let time_delta := (Timespec.borrow
      ⟨toLong (a.m_timestamp.tv_sec - rhs.m_timestamp.tv_sec),
        toLong (a.m_timestamp.tv_nsec - rhs.m_timestamp.tv_nsec)⟩).carry
    some (decide (0 ≤ time_delta.tv_sec))

/-- `reset_to_clock_id`, with what `clock_gettime` reads, if it succeeds. -/
def reset_to_clock_id (clock_id : Int) (read : Option Timespec) : Timestamp :=
  match read with
  | some t => ⟨true, clock_id, t⟩
  | none => ⟨false, -1, ⟨0, 0⟩⟩

end Timestamp

/-! ## Normal forms -/

theorem toLong_eq {x : Int} (h : InLong x) : toLong x = x := by
  obtain ⟨hlo, hhi⟩ := h
  exact Int.bmod_eq_of_le_mul_two (by norm_num; omega) (by norm_num; omega)

@[simp] theorem toLong_toLong_add (x y : Int) : toLong (toLong x + y) = toLong (x + y) :=
  Int.bmod_add_bmod

@[simp] theorem toLong_add_toLong (x y : Int) : toLong (x + toLong y) = toLong (x + y) :=
  Int.add_bmod_bmod

@[simp] theorem toLong_toLong_sub (x y : Int) : toLong (toLong x - y) = toLong (x - y) :=
  Int.bmod_sub_bmod

@[simp] theorem toLong_sub_toLong (x y : Int) : toLong (x - toLong y) = toLong (x - y) :=
  Int.sub_bmod_bmod

namespace Timespec

/-- The time of a number of nanoseconds. -/
def ofNanos (x : Int) : Timespec := ⟨toLong (x / nanoPerSec), x % nanoPerSec⟩

/-- The seconds of a number of nanoseconds fit. -/
def Fits (x : Int) : Prop := InLong (x / nanoPerSec)

instance (x : Int) : Decidable (Fits x) := inferInstanceAs (Decidable (InLong _))

theorem emod_nanoPerSec (x : Int) : 0 ≤ x % nanoPerSec ∧ x % nanoPerSec < nanoPerSec :=
  ⟨Int.emod_nonneg x (by decide), Int.emod_lt_of_pos x (by decide)⟩

theorem normalized_ofNanos (x : Int) : (ofNanos x).Normalized := emod_nanoPerSec x

theorem nanos_ofNanos {x : Int} (h : Fits x) : (ofNanos x).nanos = x := by
  unfold nanos ofNanos
  rw [toLong_eq h]
  exact Int.mul_comm _ nanoPerSec ▸ Int.mul_ediv_add_emod x nanoPerSec

/-- A normalised time is that of its nanoseconds. -/
theorem Normalized.eq_ofNanos {t : Timespec} (h : t.Normalized) (hsec : InLong t.tv_sec) :
    t = ofNanos t.nanos := by
  obtain ⟨hlo, hhi⟩ := h
  have hdiv : t.nanos / nanoPerSec = t.tv_sec := by
    unfold nanos nanoPerSec at *
    omega
  have hmod : t.nanos % nanoPerSec = t.tv_nsec := by
    unfold nanos nanoPerSec at *
    omega
  unfold ofNanos
  rw [hdiv, hmod, toLong_eq hsec]

/-- The loop carries all the seconds there are in nanoseconds that are not negative. -/
theorem carry_of_nonneg (sec nsec : Int) (h : 0 ≤ nsec) :
    carry ⟨toLong sec, nsec⟩ = ofNanos (sec * nanoPerSec + nsec) := by
  obtain ⟨k, hk⟩ : ∃ k : Nat, nsec / nanoPerSec = k :=
    ⟨(nsec / nanoPerSec).toNat, (Int.toNat_of_nonneg (Int.ediv_nonneg h (by decide))).symm⟩
  -- on the number of seconds to carry
  induction k generalizing sec nsec with
  | zero =>
    rw [carry, if_neg (by unfold nanoPerSec at *; dsimp only; omega)]
    unfold ofNanos
    congr 1
    · congr 1
      unfold nanoPerSec at *
      omega
    · unfold nanoPerSec at *
      omega
  | succ k ih =>
    rw [carry, if_pos (by unfold nanoPerSec at *; dsimp only; omega)]
    dsimp only
    rw [toLong_toLong_add, ih (sec + 1) (nsec - nanoPerSec) (by unfold nanoPerSec at *; omega)
      (by unfold nanoPerSec at *; omega)]
    congr 1
    ring

/-- It leaves negative nanoseconds. -/
theorem carry_of_neg {t : Timespec} (h : t.tv_nsec < 0) : carry t = t := by
  rw [carry, if_neg (by unfold nanoPerSec; omega)]

/-- Borrowing leaves nanoseconds that are not negative, and the time as it is. -/
theorem borrow_eq (sec nsec : Int) :
    ∃ sec' nsec', borrow ⟨toLong sec, nsec⟩ = ⟨toLong sec', nsec'⟩ ∧ 0 ≤ nsec' ∧
      sec' * nanoPerSec + nsec' = sec * nanoPerSec + nsec := by
  obtain ⟨k, hk⟩ : ∃ k : Nat, (-nsec).toNat / 1000000000 = k := ⟨_, rfl⟩
  -- on the number of seconds to borrow
  induction k generalizing sec nsec with
  | zero =>
    by_cases hneg : nsec < 0
    · rw [borrow, if_pos hneg]
      dsimp only
      rw [toLong_toLong_sub, borrow, if_neg (by unfold nanoPerSec; dsimp only; omega)]
      refine ⟨sec - 1, _, rfl, by unfold nanoPerSec; omega, by ring⟩
    · rw [borrow, if_neg hneg]
      exact ⟨sec, nsec, rfl, by omega, rfl⟩
  | succ k ih =>
    rw [borrow, if_pos (by dsimp only; omega)]
    dsimp only
    rw [toLong_toLong_sub]
    obtain ⟨sec', nsec', heq, hnonneg, hval⟩ :=
      ih (sec - 1) (nsec + nanoPerSec) (by unfold nanoPerSec; omega)
    exact ⟨sec', nsec', heq, hnonneg, hval.trans (by ring)⟩

theorem borrow_carry (sec nsec : Int) :
    (borrow ⟨toLong sec, nsec⟩).carry = ofNanos (sec * nanoPerSec + nsec) := by
  obtain ⟨sec', nsec', heq, hnonneg, hval⟩ := borrow_eq sec nsec
  rw [heq, carry_of_nonneg sec' nsec' hnonneg, hval]

/-- The time is normalised and of so many nanoseconds. -/
def Is (t : Timespec) (x : Int) : Prop := t.Normalized ∧ t.nanos = x

theorem is_ofNanos {x : Int} (h : Fits x) : (ofNanos x).Is x :=
  ⟨normalized_ofNanos x, nanos_ofNanos h⟩

theorem Is.eq {t : Timespec} {x : Int} (h : t.Is x) (hfits : Fits x) : t = ofNanos x := by
  obtain ⟨hnorm, rfl⟩ := h
  refine hnorm.eq_ofNanos ?_
  have hdiv : t.nanos / nanoPerSec = t.tv_sec := by
    obtain ⟨hlo, hhi⟩ := hnorm
    unfold nanos nanoPerSec at *
    omega
  rw [← hdiv]
  exact hfits

/-- Seconds and nanoseconds put together. -/
theorem ofNanos_mk (sec nsec : Int) (h : 0 ≤ nsec ∧ nsec < nanoPerSec) :
    (⟨toLong sec, nsec⟩ : Timespec) = ofNanos (sec * nanoPerSec + nsec) := by
  unfold ofNanos
  congr 1
  · congr 1
    unfold nanoPerSec at *
    omega
  · unfold nanoPerSec at *
    omega

end Timespec

open Timespec

/-! ## What the operations compute -/

namespace TimeDiff

theorem add_sec_eq (x : Int) (sec : Int32) :
    ((⟨true, ofNanos x⟩ : TimeDiff).add_sec sec).1 =
      ⟨true, ofNanos (x + sec.toInt * nanoPerSec)⟩ := by
  show (⟨true, ⟨toLong (toLong (x / nanoPerSec) + sec.toInt), x % nanoPerSec⟩⟩ : TimeDiff) = _
  rw [toLong_toLong_add, ofNanos_mk _ _ (emod_nanoPerSec x)]
  congr 2
  unfold nanoPerSec
  omega

/-- An `int` and less than a second of nanoseconds do not overflow. -/
theorem toLong_small {x : Int} (hlo : -2 ^ 40 ≤ x) (hhi : x ≤ 2 ^ 40) : toLong x = x :=
  toLong_eq ⟨by omega, by omega⟩

theorem add_nsec_carry (x : Int) (nsec : Int32) :
    ((⟨true, ofNanos x⟩ : TimeDiff).add_nsec nsec).1 =
      ⟨true, carry ⟨toLong (x / nanoPerSec), x % nanoPerSec + nsec.toInt⟩⟩ := by
  have hlo := nsec.le_toInt
  have hhi := nsec.toInt_lt
  have hsmall : toLong (x % nanoPerSec + nsec.toInt) = x % nanoPerSec + nsec.toInt := by
    refine toLong_small ?_ ?_ <;> unfold nanoPerSec <;> omega
  show (⟨true, carry ⟨toLong (x / nanoPerSec), toLong (x % nanoPerSec + nsec.toInt)⟩⟩ :
    TimeDiff) = _
  rw [hsmall]

theorem add_nsec_eq {x : Int} {nsec : Int32} (h : 0 ≤ x % nanoPerSec + nsec.toInt) :
    ((⟨true, ofNanos x⟩ : TimeDiff).add_nsec nsec).1 = ⟨true, ofNanos (x + nsec.toInt)⟩ := by
  rw [add_nsec_carry, carry_of_nonneg _ _ h]
  congr 2
  unfold nanoPerSec
  omega

/-- Nanoseconds that would have to be borrowed stay negative. -/
theorem add_nsec_neg {x : Int} {nsec : Int32} (h : x % nanoPerSec + nsec.toInt < 0) :
    ¬ ((⟨true, ofNanos x⟩ : TimeDiff).add_nsec nsec).1.m_timediff.Normalized := by
  rw [add_nsec_carry, carry_of_neg h]
  rintro ⟨hnonneg, -⟩
  exact absurd hnonneg (by dsimp only; omega)

/-- The part of `msec` that is added to the nanoseconds. -/
def nsecOf (msec : Int32) : Int := (msec.toInt - msec.toInt.tdiv 1000 * 1000) * 1000000

theorem nsecOf_bounds (msec : Int32) :
    -nanoPerSec < nsecOf msec ∧ nsecOf msec < nanoPerSec ∧
      msec.toInt.tdiv 1000 * nanoPerSec + nsecOf msec = msec.toInt * 1000000 ∧
      toLong (msec.toInt.tdiv 1000) = msec.toInt.tdiv 1000 := by
  have hlo := msec.le_toInt
  have hhi := msec.toInt_lt
  have hmod := Int.tmod_add_mul_tdiv msec.toInt 1000
  have hlt := Int.tmod_lt_of_pos msec.toInt (show (0 : Int) < 1000 by decide)
  have hgt := Int.lt_tmod_of_pos msec.toInt (show (0 : Int) < 1000 by decide)
  have hquot : toLong (msec.toInt.tdiv 1000) = msec.toInt.tdiv 1000 := by
    refine toLong_small ?_ ?_ <;> omega
  refine ⟨?_, ?_, ?_, hquot⟩ <;> unfold nsecOf nanoPerSec <;> omega

theorem add_msec_carry (x : Int) (msec : Int32) :
    ((⟨true, ofNanos x⟩ : TimeDiff).add_msec msec).1 =
      ⟨true, ⟨toLong (toLong (x / nanoPerSec) +
          (carry ⟨msec.toInt.tdiv 1000, x % nanoPerSec + nsecOf msec⟩).tv_sec),
        (carry ⟨msec.toInt.tdiv 1000, x % nanoPerSec + nsecOf msec⟩).tv_nsec⟩⟩ := by
  obtain ⟨hlo, hhi, -, -⟩ := nsecOf_bounds msec
  have hsmall : toLong (x % nanoPerSec + nsecOf msec) = x % nanoPerSec + nsecOf msec := by
    refine toLong_small ?_ ?_ <;> unfold nanoPerSec at * <;> omega
  rw [← hsmall]
  rfl

theorem add_msec_eq {x : Int} {msec : Int32} (h : 0 ≤ x % nanoPerSec + nsecOf msec) :
    ((⟨true, ofNanos x⟩ : TimeDiff).add_msec msec).1 =
      ⟨true, ofNanos (x + msec.toInt * 1000000)⟩ := by
  obtain ⟨-, -, hsplit, hint⟩ := nsecOf_bounds msec
  rw [add_msec_carry, ← hint, carry_of_nonneg _ _ h]
  show (⟨true, ⟨toLong (toLong _ + toLong _), _ % nanoPerSec⟩⟩ : TimeDiff) = _
  rw [toLong_toLong_add, toLong_add_toLong,
    ofNanos_mk _ _ (emod_nanoPerSec _)]
  congr 2
  unfold nanoPerSec at *
  omega

theorem add_msec_neg {x : Int} {msec : Int32} (h : x % nanoPerSec + nsecOf msec < 0) :
    ¬ ((⟨true, ofNanos x⟩ : TimeDiff).add_msec msec).1.m_timediff.Normalized := by
  rw [add_msec_carry, carry_of_neg h]
  rintro ⟨hnonneg, -⟩
  exact absurd hnonneg (by dsimp only; omega)

end TimeDiff

namespace Timestamp

variable (clock_id : Int) (x y : Int)

theorem plusDiff_eq : (⟨true, clock_id, ofNanos x⟩ : Timestamp).plusDiff ⟨true, ofNanos y⟩ =
    some ⟨true, clock_id, ofNanos (x + y)⟩ := by
  have hx := emod_nanoPerSec x
  have hy := emod_nanoPerSec y
  have hsmall : toLong (x % nanoPerSec + y % nanoPerSec) = x % nanoPerSec + y % nanoPerSec := by
    refine TimeDiff.toLong_small ?_ ?_ <;> unfold nanoPerSec <;> omega
  show some (⟨true, clock_id, carry ⟨toLong (toLong (x / nanoPerSec) + toLong (y / nanoPerSec)),
    toLong (x % nanoPerSec + y % nanoPerSec)⟩⟩ : Timestamp) = _
  rw [toLong_toLong_add, toLong_add_toLong, hsmall,
    carry_of_nonneg _ _ (Int.add_nonneg hx.1 hy.1)]
  congr 3
  unfold nanoPerSec
  omega

theorem minusDiff_eq : (⟨true, clock_id, ofNanos x⟩ : Timestamp).minusDiff ⟨true, ofNanos y⟩ =
    some ⟨true, clock_id, ofNanos (x - y)⟩ := by
  have hsmall : toLong (x % nanoPerSec - y % nanoPerSec) = x % nanoPerSec - y % nanoPerSec := by
    refine TimeDiff.toLong_small ?_ ?_ <;> unfold nanoPerSec <;> omega
  show some (⟨true, clock_id, (borrow ⟨toLong (toLong (x / nanoPerSec) - toLong (y / nanoPerSec)),
    toLong (x % nanoPerSec - y % nanoPerSec)⟩).carry⟩ : Timestamp) = _
  rw [toLong_toLong_sub, toLong_sub_toLong, hsmall, borrow_carry]
  congr 3
  unfold nanoPerSec
  omega

/-- What becomes of a difference whose seconds pass through an `int`. -/
def narrowed (x : Int) : Int :=
  (x / nanoPerSec).bmod (2 ^ 32) * nanoPerSec + x % nanoPerSec

theorem inInt_bmod (q : Int) : InInt (q.bmod (2 ^ 32)) :=
  ⟨le_trans (by decide) (Int.le_bmod (by decide)),
    lt_of_lt_of_le (Int.bmod_lt (by decide)) (by decide)⟩

theorem fits_narrowed : Fits (narrowed x) := by
  obtain ⟨hlo, hhi⟩ := inInt_bmod (x / nanoPerSec)
  have hdiv : narrowed x / nanoPerSec = (x / nanoPerSec).bmod (2 ^ 32) := by
    have hmod := emod_nanoPerSec x
    unfold narrowed nanoPerSec at *
    omega
  unfold Fits
  rw [hdiv]
  exact ⟨by omega, by omega⟩

theorem narrowed_eq_iff : narrowed x = x ↔ InInt (x / nanoPerSec) := by
  constructor
  · intro h
    have hdiv : (x / nanoPerSec).bmod (2 ^ 32) = x / nanoPerSec := by
      unfold narrowed nanoPerSec at *
      omega
    exact hdiv ▸ inInt_bmod (x / nanoPerSec)
  · rintro ⟨hmin, hmax⟩
    have hdiv : (x / nanoPerSec).bmod (2 ^ 32) = x / nanoPerSec :=
      Int.bmod_eq_of_le_mul_two (by norm_num; omega) (by norm_num; omega)
    unfold narrowed
    rw [hdiv]
    unfold nanoPerSec
    omega

/-- It is the difference if its seconds are an `int`. -/
theorem is_narrowed_iff : (ofNanos (narrowed x)).Is x ↔ InInt (x / nanoPerSec) := by
  rw [← narrowed_eq_iff]
  constructor
  · rintro ⟨-, hnanos⟩
    rwa [nanos_ofNanos (fits_narrowed x)] at hnanos
  · intro heq
    have his := is_ofNanos (fits_narrowed x)
    rwa [heq] at his ⊢

theorem minus_eq : (⟨true, clock_id, ofNanos x⟩ : Timestamp).minus ⟨true, clock_id, ofNanos y⟩ =
    some ⟨true, ofNanos (narrowed (x - y))⟩ := by
  have hsmall : toLong (x % nanoPerSec - y % nanoPerSec) = x % nanoPerSec - y % nanoPerSec := by
    refine TimeDiff.toLong_small ?_ ?_ <;> unfold nanoPerSec <;> omega
  -- the difference before it is put together again
  have hdelta : (borrow ⟨toLong (toLong (x / nanoPerSec) - toLong (y / nanoPerSec)),
      toLong (x % nanoPerSec - y % nanoPerSec)⟩).carry = ofNanos (x - y) := by
    rw [toLong_toLong_sub, toLong_sub_toLong, hsmall, borrow_carry]
    congr 1
    unfold nanoPerSec
    omega
  have hsec : (Int32.ofInt (ofNanos (x - y)).tv_sec).toInt =
      ((x - y) / nanoPerSec).bmod (2 ^ 32) := by
    rw [Int32.toInt_ofInt]
    exact Int.bmod_bmod_of_dvd (by decide)
  have hnsec : (Int32.ofInt (ofNanos (x - y)).tv_nsec).toInt = (x - y) % nanoPerSec := by
    have hmod := emod_nanoPerSec (x - y)
    refine Int32.toInt_ofInt_of_le ?_ ?_ <;> unfold ofNanos nanoPerSec at * <;> dsimp only <;>
      omega
  unfold minus
  rw [if_neg (by simp), if_neg (by simp), if_neg (by simp)]
  show some (((TimeDiff.reset true).add_sec (Int32.ofInt (carry _).tv_sec)).1.add_nsec
    (Int32.ofInt (carry _).tv_nsec)).1 = _
  have hreset : TimeDiff.reset true = ⟨true, ofNanos 0⟩ := rfl
  rw [show (carry (borrow ⟨toLong ((ofNanos x).tv_sec - (ofNanos y).tv_sec),
    toLong ((ofNanos x).tv_nsec - (ofNanos y).tv_nsec)⟩)) = ofNanos (x - y) from hdelta,
    hreset, TimeDiff.add_sec_eq, TimeDiff.add_nsec_eq, hsec, hnsec, Int.zero_add]
  · rfl
  · rw [hnsec]
    exact Int.add_nonneg (emod_nanoPerSec _).1 (emod_nanoPerSec _).1

end Timestamp

/-! ## Valid operands -/

namespace Timestamp

variable {a b : Timestamp} {d : TimeDiff}

theorem plusDiff_some (ha : a.m_is_valid = true) (hd : d.m_is_valid = true) :
    ∃ t, a.plusDiff d = some ⟨true, a.m_clock_id, t⟩ := by
  rw [plusDiff, if_neg (by simp [ha]), if_neg (by simp [hd])]
  exact ⟨_, rfl⟩

theorem minusDiff_some (ha : a.m_is_valid = true) (hd : d.m_is_valid = true) :
    ∃ t, a.minusDiff d = some ⟨true, a.m_clock_id, t⟩ := by
  rw [minusDiff, if_neg (by simp [ha]), if_neg (by simp [hd])]
  exact ⟨_, rfl⟩

theorem minus_some (ha : a.m_is_valid = true) (hb : b.m_is_valid = true)
    (hclock : a.m_clock_id = b.m_clock_id) : ∃ t, a.minus b = some ⟨true, t⟩ := by
  rw [minus, if_neg (by simp [ha]), if_neg (by simp [hb]), if_neg (by simp [hclock])]
  exact ⟨_, rfl⟩

end Timestamp

/-! ## Registers -/

/-- The time of a valid timestamp. -/
abbrev ValidTime := { t : Timespec // t.Valid }

theorem ValidTime.eq (t : ValidTime) : t.1 = ofNanos t.1.nanos := by
  obtain ⟨⟨hlo, hhi⟩, hnorm⟩ := t.2
  exact hnorm.eq_ofNanos ⟨by omega, hhi⟩

/-- A difference and a timestamp, and how many nanoseconds each should be. -/
structure Registers where
  diff : TimeDiff
  diffNanos : Int
  stamp : Timestamp
  stampNanos : Int

namespace Registers

def init (clock_id : Int) : Registers := ⟨.reset true, 0, ⟨true, clock_id, ⟨0, 0⟩⟩, 0⟩

inductive Event
  | reset
  | add_sec (sec : Int32)
  | add_msec (msec : Int32)
  | add_nsec (nsec : Int32)
  /-- The timestamp is set. -/
  | set (t : ValidTime)
  /-- `stamp = stamp + diff`. -/
  | plus
  /-- `stamp = stamp - diff`. -/
  | minus
  /-- `diff = stamp - t`, of a timestamp of the same clock. -/
  | since (t : ValidTime)
  /-- `diff = t - stamp`. -/
  | upTo (t : ValidTime)

variable (s : Registers)

/-- Only results that fit the members are considered. -/
def setDiff (diff : TimeDiff) (diffNanos : Int) : Registers :=
  if Fits diffNanos then { s with diff := diff, diffNanos := diffNanos } else s

def setStamp (stamp : Timestamp) (stampNanos : Int) : Registers :=
  if Fits stampNanos then { s with stamp := stamp, stampNanos := stampNanos } else s

/-- A timestamp of the same clock. -/
def stampOf (t : ValidTime) : Timestamp := ⟨true, s.stamp.m_clock_id, t.1⟩

/-- An operator that exits leaves nothing to consider. -/
def step : Event → Registers
  | .reset => s.setDiff (.reset true) 0
  | .add_sec sec => s.setDiff (s.diff.add_sec sec).1 (s.diffNanos + sec.toInt * nanoPerSec)
  | .add_msec msec => s.setDiff (s.diff.add_msec msec).1 (s.diffNanos + msec.toInt * 1000000)
  | .add_nsec nsec => s.setDiff (s.diff.add_nsec nsec).1 (s.diffNanos + nsec.toInt)
  | .set t => s.setStamp (s.stampOf t) t.1.nanos
  | .plus => (s.stamp.plusDiff s.diff).elim s (s.setStamp · (s.stampNanos + s.diffNanos))
  | .minus => (s.stamp.minusDiff s.diff).elim s (s.setStamp · (s.stampNanos - s.diffNanos))
  | .since t => (s.stamp.minus (s.stampOf t)).elim s (s.setDiff · (s.stampNanos - t.1.nanos))
  | .upTo t => ((s.stampOf t).minus s.stamp).elim s (s.setDiff · (t.1.nanos - s.stampNanos))

/-- Both are normalised and exact. -/
structure Exact (s : Registers) : Prop where
  diff : s.diff.m_timediff.Is s.diffNanos
  stamp : s.stamp.m_timestamp.Is s.stampNanos

/-- The condition on it, for results that fit: what is added takes no nanoseconds that would
have to be borrowed, and the seconds of a difference of timestamps are an `int`. -/
def Carries : Event → Prop
  | .add_msec msec =>
      Fits (s.diffNanos + msec.toInt * 1000000) →
        0 ≤ s.diff.m_timediff.tv_nsec + TimeDiff.nsecOf msec
  | .add_nsec nsec =>
      Fits (s.diffNanos + nsec.toInt) → 0 ≤ s.diff.m_timediff.tv_nsec + nsec.toInt
  | .since t =>
      Fits (s.stampNanos - t.1.nanos) → InInt ((s.stampNanos - t.1.nanos) / nanoPerSec)
  | .upTo t =>
      Fits (t.1.nanos - s.stampNanos) → InInt ((t.1.nanos - s.stampNanos) / nanoPerSec)
  | _ => True

/-- Both are valid, of one clock, and meant to fit. -/
structure Kept (clock_id : Int) (s : Registers) : Prop where
  diff : s.diff.m_is_valid = true
  stamp : s.stamp.m_is_valid = true
  clock : s.stamp.m_clock_id = clock_id
  diffFits : Fits s.diffNanos
  stampFits : Fits s.stampNanos

variable {s : Registers} {clock_id : Int}

theorem fits_zero : Fits 0 := by decide

theorem init_kept (clock_id : Int) : (init clock_id).Kept clock_id :=
  ⟨rfl, rfl, rfl, fits_zero, fits_zero⟩

theorem init_exact (clock_id : Int) : (init clock_id).Exact :=
  ⟨is_ofNanos fits_zero, is_ofNanos fits_zero⟩

theorem Kept.setDiff (h : s.Kept clock_id) {diff : TimeDiff} (hvalid : diff.m_is_valid = true)
    (x : Int) : (s.setDiff diff x).Kept clock_id := by
  by_cases hx : Fits x
  · rw [Registers.setDiff, if_pos hx]
    exact ⟨hvalid, h.stamp, h.clock, hx, h.stampFits⟩
  · rwa [Registers.setDiff, if_neg hx]

theorem Kept.setStamp (h : s.Kept clock_id) {stamp : Timestamp}
    (hvalid : stamp.m_is_valid = true) (hclock : stamp.m_clock_id = clock_id) (x : Int) :
    (s.setStamp stamp x).Kept clock_id := by
  by_cases hx : Fits x
  · rw [Registers.setStamp, if_pos hx]
    exact ⟨h.diff, hvalid, hclock, h.diffFits, hx⟩
  · rwa [Registers.setStamp, if_neg hx]

theorem step_kept (s : Registers) (e : Event) (h : s.Kept clock_id) :
    (s.step e).Kept clock_id := by
  have hdiff := h.diff
  have hstamp := h.stamp
  cases e with
  | reset => exact h.setDiff rfl _
  | add_sec sec => exact h.setDiff (by simp [TimeDiff.add_sec, hdiff]) _
  | add_msec msec => exact h.setDiff (by simp [TimeDiff.add_msec, hdiff]) _
  | add_nsec nsec => exact h.setDiff (by simp [TimeDiff.add_nsec, hdiff]) _
  | set t =>
    refine h.setStamp ?_ ?_ _
    · rfl
    · exact h.clock
  | plus =>
    obtain ⟨t, ht⟩ := Timestamp.plusDiff_some hstamp hdiff
    rw [step, ht]
    refine h.setStamp ?_ ?_ _
    · rfl
    · exact h.clock
  | minus =>
    obtain ⟨t, ht⟩ := Timestamp.minusDiff_some hstamp hdiff
    rw [step, ht]
    refine h.setStamp ?_ ?_ _
    · rfl
    · exact h.clock
  | since t =>
    obtain ⟨d, hd⟩ := Timestamp.minus_some (a := s.stamp) (b := s.stampOf t) hstamp rfl rfl
    rw [step, hd]
    exact h.setDiff rfl _
  | upTo t =>
    obtain ⟨d, hd⟩ := Timestamp.minus_some (a := s.stampOf t) (b := s.stamp) rfl hstamp rfl
    rw [step, hd]
    exact h.setDiff rfl _

theorem Exact.setDiff_iff (hP : s.Exact) (diff : TimeDiff) (x : Int) :
    (s.setDiff diff x).Exact ↔ (Fits x → diff.m_timediff.Is x) := by
  by_cases hx : Fits x
  · rw [setDiff, if_pos hx]
    exact ⟨fun h _ => h.diff, fun h => ⟨h hx, hP.stamp⟩⟩
  · rw [setDiff, if_neg hx]
    exact iff_of_true hP fun hx' => absurd hx' hx

theorem Exact.setStamp (hP : s.Exact) {stamp : Timestamp} {x : Int}
    (h : Fits x → stamp.m_timestamp.Is x) : (s.setStamp stamp x).Exact := by
  by_cases hx : Fits x
  · rw [Registers.setStamp, if_pos hx]
    exact ⟨hP.diff, h hx⟩
  · rwa [Registers.setStamp, if_neg hx]

/-- Exact registers in normal form. -/
theorem Kept.eq (h : s.Kept clock_id) (hP : s.Exact) :
    s.diff = ⟨true, ofNanos s.diffNanos⟩ ∧
      s.stamp = ⟨true, clock_id, ofNanos s.stampNanos⟩ := by
  rw [← hP.diff.eq h.diffFits, ← hP.stamp.eq h.stampFits, ← h.clock]
  constructor
  · rw [← h.diff]
  · rw [← h.stamp]

theorem Kept.stampOf (h : s.Kept clock_id) (t : ValidTime) :
    s.stampOf t = ⟨true, clock_id, ofNanos t.1.nanos⟩ := by
  rw [Registers.stampOf, h.clock, ← t.eq]

/-- **One step.** -/
theorem step_exact_iff (s : Registers) (e : Event) (h : s.Kept clock_id) (hP : s.Exact) :
    (s.step e).Exact ↔ s.Carries e := by
  obtain ⟨hdiff, hstamp⟩ := h.eq hP
  have hnsec : s.diff.m_timediff.tv_nsec = s.diffNanos % nanoPerSec := by rw [hdiff]; rfl
  cases e with
  | reset => exact iff_of_true ((hP.setDiff_iff _ _).mpr fun hx => is_ofNanos hx) trivial
  | add_sec sec =>
    refine iff_of_true ((hP.setDiff_iff _ _).mpr fun hx => ?_) trivial
    rw [hdiff, TimeDiff.add_sec_eq]
    exact is_ofNanos hx
  | add_msec msec =>
    refine (hP.setDiff_iff _ _).trans (forall_congr' fun hx => ?_)
    rw [hnsec, hdiff]
    by_cases hborrow : 0 ≤ s.diffNanos % nanoPerSec + TimeDiff.nsecOf msec
    · rw [TimeDiff.add_msec_eq hborrow]
      exact iff_of_true (is_ofNanos hx) hborrow
    · exact iff_of_false (fun hno => TimeDiff.add_msec_neg (by omega) hno.1) hborrow
  | add_nsec nsec =>
    refine (hP.setDiff_iff _ _).trans (forall_congr' fun hx => ?_)
    rw [hnsec, hdiff]
    by_cases hborrow : 0 ≤ s.diffNanos % nanoPerSec + nsec.toInt
    · rw [TimeDiff.add_nsec_eq hborrow]
      exact iff_of_true (is_ofNanos hx) hborrow
    · exact iff_of_false (fun hno => TimeDiff.add_nsec_neg (by omega) hno.1) hborrow
  | set t =>
    refine iff_of_true (hP.setStamp fun _ => ⟨t.2.2, rfl⟩) trivial
  | plus =>
    rw [step, hdiff, hstamp, Timestamp.plusDiff_eq]
    exact iff_of_true (hP.setStamp is_ofNanos) trivial
  | minus =>
    rw [step, hdiff, hstamp, Timestamp.minusDiff_eq]
    exact iff_of_true (hP.setStamp is_ofNanos) trivial
  | since t =>
    rw [step, h.stampOf, hstamp, Timestamp.minus_eq]
    exact (hP.setDiff_iff _ _).trans (forall_congr' fun _ => Timestamp.is_narrowed_iff _)
  | upTo t =>
    rw [step, h.stampOf, hstamp, Timestamp.minus_eq]
    exact (hP.setDiff_iff _ _).trans (forall_congr' fun _ => Timestamp.is_narrowed_iff _)

theorem ValidTime.sec_eq (t : ValidTime) : t.1.nanos / nanoPerSec = t.1.tv_sec := by
  obtain ⟨-, hlo, hhi⟩ := t.2
  unfold nanos nanoPerSec at *
  omega

/-- The difference added again leads to the other timestamp, later or earlier, if and only if
its seconds are an `int`. -/
theorem plusDiff_minus_iff (clock_id : Int) (a b : ValidTime) :
    ((⟨true, clock_id, b.1⟩ : Timestamp).minus ⟨true, clock_id, a.1⟩).bind
        (⟨true, clock_id, a.1⟩ : Timestamp).plusDiff = some ⟨true, clock_id, b.1⟩ ↔
      InInt ((b.1.nanos - a.1.nanos) / nanoPerSec) := by
  have ha : (⟨true, clock_id, a.1⟩ : Timestamp) = ⟨true, clock_id, ofNanos a.1.nanos⟩ := by
    rw [← a.eq]
  have hb : (⟨true, clock_id, b.1⟩ : Timestamp) = ⟨true, clock_id, ofNanos b.1.nanos⟩ := by
    rw [← b.eq]
  rw [ha, hb, Timestamp.minus_eq, Option.bind_some, Timestamp.plusDiff_eq]
  have hasec := ValidTime.sec_eq a
  have hbsec := ValidTime.sec_eq b
  obtain ⟨⟨halo, hahi⟩, -⟩ := a.2
  obtain ⟨⟨hblo, hbhi⟩, -⟩ := b.2
  generalize a.1.nanos = x at *
  generalize b.1.nanos = y at *
  constructor
  · intro heq
    have hsec : toLong ((x + Timestamp.narrowed (y - x)) / nanoPerSec) = toLong (y / nanoPerSec) :=
      congrArg Timespec.tv_sec (Timestamp.mk.inj (Option.some_inj.mp heq)).2.2
    have hint := Timestamp.inInt_bmod ((y - x) / nanoPerSec)
    -- the seconds are off by a multiple of `2 ^ 64`, and by less than that
    have hoff : (x + Timestamp.narrowed (y - x)) / nanoPerSec = y / nanoPerSec +
        (((y - x) / nanoPerSec).bmod (2 ^ 32) - (y - x) / nanoPerSec) := by
      unfold Timestamp.narrowed nanoPerSec
      omega
    have hwrap := Int.bmod_eq_self_sub_bdiv_mul
      (y / nanoPerSec + (((y - x) / nanoPerSec).bmod (2 ^ 32) - (y - x) / nanoPerSec)) (2 ^ 64)
    rw [hoff, toLong_eq (x := y / nanoPerSec) ⟨by omega, by omega⟩, toLong] at hsec
    have hq : ((y - x) / nanoPerSec).bmod (2 ^ 32) = (y - x) / nanoPerSec := by
      obtain ⟨hlo, hhi⟩ := hint
      unfold nanoPerSec at *
      omega
    rwa [hq] at hint
  · intro hint
    rw [(Timestamp.narrowed_eq_iff _).mpr hint, add_sub_cancel]

/-- **Time arithmetic.**  Over every sequence of operations on valid operands the results are
normalised and exact if and only if every step meets `Carries`; and the difference of two
timestamps leads from one to the other if and only if its seconds are an `int`. -/
theorem time_arithmetic_iff (clock_id : Int) :
    (∀ es : List Event, EventRun.Throughout step Exact (init clock_id) es ↔
      EventRun.Meets step Carries (init clock_id) es) ∧
    ∀ a b : ValidTime,
      ((⟨true, clock_id, b.1⟩ : Timestamp).minus ⟨true, clock_id, a.1⟩).bind
          (⟨true, clock_id, a.1⟩ : Timestamp).plusDiff = some ⟨true, clock_id, b.1⟩ ↔
        InInt ((b.1.nanos - a.1.nanos) / nanoPerSec) :=
  ⟨fun _ => EventRun.throughout_iff_meets step_kept step_exact_iff (init_kept clock_id)
    (init_exact clock_id), plusDiff_minus_iff clock_id⟩

/-- **The defect.**  A millisecond less than no time has negative nanoseconds. -/
theorem add_msec_not_normalized :
    ¬ EventRun.Throughout step Exact (init 0) [.add_msec (-1)] := by
  intro h
  have hlast : ((init 0).step (.add_msec (-1))).Exact := h.last
  have hcarries := (step_exact_iff _ _ (init_kept 0) (init_exact 0)).mp hlast
  exact absurd (hcarries (by decide)) (by decide)

end Registers

end LocationStack
