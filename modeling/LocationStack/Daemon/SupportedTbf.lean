import LocationStack.Daemon.Handler
import LocationStack.Lib.Rounding

/-! # The intervals the engine supports

The engine reports every 100, 200 or 500 milliseconds or at whole seconds, so `getSupportedTbf`
rounds the interval of a request: below a second down, with 100 as the least, and from a second on
up.  The highest intervals have no whole second above them that fits in 32 bits; they are given the
last one that does.

`supportedTbf` says this of natural numbers, where nothing wraps, and `getSupportedTbf` is shown to
compute it.
-/
namespace LocationStack.Daemon

open LocHalDaemonClientHandler

/-- An interval the engine supports. -/
def SupportedInterval (tbfMsec : Nat) : Prop :=
  tbfMsec = 100 ∨ tbfMsec = 200 ∨ tbfMsec = 500 ∨ 1000 ∣ tbfMsec

/-- The interval a request is given. -/
def supportedTbf (tbfMsec : Nat) : Nat :=
  if tbfMsec < 200 then 100
  else if tbfMsec < 500 then 200
  else if tbfMsec < 1000 then 500
  else min (roundUp 1000 tbfMsec) 4294967000

/-- The number, where it is one of 32 bits. -/
def fits32 (x : Int) : Option UInt32 :=
  if 0 ≤ x ∧ x < 2 ^ 32 then some (.ofNat x.toNat) else none

/-- `getSupportedTbf` with every sum, difference and product that it computes checked to fit in
32 bits. -/
def getSupportedTbfChecked (tbfMsec : UInt32) : Option UInt32 :=
  if tbfMsec < 200 then some 100
  else if tbfMsec < 500 then some 200
  else if tbfMsec < 1000 then some 500
  else
    (fits32 (0xFFFFFFFF - 999)).bind fun highest =>
      if tbfMsec > highest then fits32 (0xFFFFFFFF / 1000 * 1000)
      else
        (fits32 (tbfMsec.toNat + 999)).bind fun sum => fits32 (sum.toNat / 1000 * 1000)

/-! ## The code computes it -/

theorem fits32_eq_some {x : Int} {y : UInt32} (h : (y.toNat : Int) = x) : fits32 x = some y := by
  have hy := y.toNat_lt
  rw [fits32, if_pos (by omega), ← h, Int.toNat_natCast, UInt32.ofNat_toNat]

/-- The sum does not wrap where it is computed. -/
theorem toNat_roundedUp {tbfMsec : UInt32} (hle : tbfMsec.toNat ≤ 4294966296) :
    ((tbfMsec + 999) / 1000 * 1000).toNat = roundUp 1000 tbfMsec.toNat := by
  have hsum : tbfMsec.toNat + 999 < 2 ^ 32 := by omega
  have hround : (tbfMsec.toNat + 999) / 1000 * 1000 ≤ tbfMsec.toNat + 999 :=
    Nat.div_mul_le_self _ _
  rw [UInt32.toNat_mul, UInt32.toNat_div, UInt32.toNat_add]
  show (tbfMsec.toNat + 999) % 2 ^ 32 / 1000 * 1000 % 2 ^ 32 = (tbfMsec.toNat + 999) / 1000 * 1000
  rw [Nat.mod_eq_of_lt hsum, Nat.mod_eq_of_lt (Nat.lt_of_le_of_lt hround hsum)]

/-- **What the code computes.** -/
theorem toNat_getSupportedTbf (tbfMsec : UInt32) :
    (getSupportedTbf tbfMsec).toNat = supportedTbf tbfMsec.toNat := by
  have hlt := tbfMsec.toNat_lt
  have hup := le_roundUp (show 0 < 1000 by decide) tbfMsec.toNat
  have hdvd := dvd_roundUp (show 0 < 1000 by decide) tbfMsec.toNat
  unfold getSupportedTbf supportedTbf
  by_cases h200 : tbfMsec.toNat < 200
  · rw [if_pos (UInt32.lt_iff_toNat_lt.mpr h200), if_pos h200]
    rfl
  rw [if_neg (mt UInt32.lt_iff_toNat_lt.mp h200), if_neg h200]
  by_cases h500 : tbfMsec.toNat < 500
  · rw [if_pos (UInt32.lt_iff_toNat_lt.mpr h500), if_pos h500]
    rfl
  rw [if_neg (mt UInt32.lt_iff_toNat_lt.mp h500), if_neg h500]
  by_cases h1000 : tbfMsec.toNat < 1000
  · rw [if_pos (UInt32.lt_iff_toNat_lt.mpr h1000), if_pos h1000]
    rfl
  rw [if_neg (mt UInt32.lt_iff_toNat_lt.mp h1000), if_neg h1000]
  have hiff : tbfMsec > 0xFFFFFFFF - 999 ↔ 4294966296 < tbfMsec.toNat := UInt32.lt_iff_toNat_lt
  by_cases hhigh : 4294966296 < tbfMsec.toNat
  · -- the last multiple that fits, and no multiple that is not below the interval is smaller
    rw [if_pos (hiff.mpr hhigh)]
    show 4294967000 = _
    omega
  · rw [if_neg (mt hiff.mp hhigh), toNat_roundedUp (by omega)]
    have hle := roundUp_le (show 0 < 1000 by decide)
      (show 1000 ∣ 4294967000 by decide) (show tbfMsec.toNat ≤ 4294967000 by omega)
    omega

/-- Nothing it computes leaves the 32 bits. -/
theorem getSupportedTbfChecked_eq (tbfMsec : UInt32) :
    getSupportedTbfChecked tbfMsec = some (getSupportedTbf tbfMsec) := by
  unfold getSupportedTbfChecked getSupportedTbf
  by_cases h200 : tbfMsec < 200
  · rw [if_pos h200, if_pos h200]
  rw [if_neg h200, if_neg h200]
  by_cases h500 : tbfMsec < 500
  · rw [if_pos h500, if_pos h500]
  rw [if_neg h500, if_neg h500]
  by_cases h1000 : tbfMsec < 1000
  · rw [if_pos h1000, if_pos h1000]
  rw [if_neg h1000, if_neg h1000]
  have hhighest : fits32 (0xFFFFFFFF - 999) = some (0xFFFFFFFF - 999) := by decide
  rw [hhighest, Option.bind_some]
  by_cases hhigh : tbfMsec > 0xFFFFFFFF - 999
  · rw [if_pos hhigh, if_pos hhigh]
    decide
  · rw [if_neg hhigh, if_neg hhigh]
    have hle : tbfMsec.toNat ≤ 4294966296 := by
      have hnot := UInt32.not_lt.mp hhigh
      exact UInt32.le_iff_toNat_le.mp hnot
    have hsum : (tbfMsec + 999).toNat = tbfMsec.toNat + 999 := by
      rw [UInt32.toNat_add]
      exact Nat.mod_eq_of_lt (by show tbfMsec.toNat + 999 < 2 ^ 32; omega)
    have hproduct := toNat_roundedUp hle
    unfold roundUp at hproduct
    rw [fits32_eq_some (show (((tbfMsec + 999).toNat : Nat) : Int) = _ by omega), Option.bind_some]
    exact fits32_eq_some (by omega)

/-! ## What the rounding does -/

theorem le_supportedTbf (tbfMsec : Nat) : 100 ≤ supportedTbf tbfMsec := by
  have hup := le_roundUp (show 0 < 1000 by decide) tbfMsec
  unfold supportedTbf
  split
  · omega
  · split
    · omega
    · split <;> omega

theorem supportedTbf_supported (tbfMsec : Nat) : SupportedInterval (supportedTbf tbfMsec) := by
  unfold supportedTbf SupportedInterval
  split
  · exact .inl rfl
  · split
    · exact .inr (.inl rfl)
    · split
      · exact .inr (.inr (.inl rfl))
      · have hdvd := dvd_roundUp (show 0 < 1000 by decide) tbfMsec
        refine .inr (.inr (.inr ?_))
        rcases Nat.le_total (roundUp 1000 tbfMsec) 4294967000 with hle | hle
        · rwa [Nat.min_eq_left hle]
        · rw [Nat.min_eq_right hle]
          decide

theorem supportedTbf_monotone : Monotone supportedTbf := by
  intro n m hnm
  have hround := roundUp_monotone (show 0 < 1000 by decide) hnm
  have hn := le_roundUp (show 0 < 1000 by decide) n
  have hm := le_roundUp (show 0 < 1000 by decide) m
  unfold supportedTbf
  split_ifs <;> omega

/-- A supported interval that 32 bits hold is kept. -/
theorem supportedTbf_of_supported {tbfMsec : Nat} (h : SupportedInterval tbfMsec)
    (hpos : 0 < tbfMsec) (hlt : tbfMsec < 2 ^ 32) : supportedTbf tbfMsec = tbfMsec := by
  rcases h with rfl | rfl | rfl | hdvd
  · rfl
  · rfl
  · rfl
  · have hround := roundUp_of_dvd (show 0 < 1000 by decide) hdvd
    unfold supportedTbf
    rw [if_neg (by omega), if_neg (by omega), if_neg (by omega), hround]
    omega

/-- From a second on it is the next whole second, where 32 bits hold that. -/
theorem supportedTbf_eq_of_isLeast {tbfMsec m : Nat} (hsecond : 1000 ≤ tbfMsec)
    (hm : IsLeast {m | 1000 ∣ m ∧ tbfMsec ≤ m} m) (hlt : m < 2 ^ 32) :
    supportedTbf tbfMsec = m := by
  obtain rfl := hm.unique (roundUp_isLeast (by decide) tbfMsec)
  have hdvd := dvd_roundUp (show 0 < 1000 by decide) tbfMsec
  unfold supportedTbf
  rw [if_neg (by omega), if_neg (by omega), if_neg (by omega)]
  omega

/-! ## The rounding of the code -/

/-- What is asked of a rounding of intervals. -/
structure RoundsIntervals (round : UInt32 → UInt32) : Prop where
  supported : ∀ tbfMsec, SupportedInterval (round tbfMsec).toNat
  monotone : ∀ x y, x ≤ y → round x ≤ round y
  idempotent : ∀ tbfMsec, round (round tbfMsec) = round tbfMsec
  nextSecond : ∀ tbfMsec, 1000 ≤ tbfMsec.toNat → ∀ m : Nat,
    IsLeast {m | 1000 ∣ m ∧ tbfMsec.toNat ≤ m} m → m < 2 ^ 32 → (round tbfMsec).toNat = m

/-- **The rounding of an interval.**  It does not overflow, gives an interval the engine supports,
keeps the order, gives the same when done again, and from a second on gives the least multiple of
a second that is not below the interval, where 32 bits hold one. -/
theorem getSupportedTbf_rounds :
    (∀ tbfMsec, getSupportedTbfChecked tbfMsec = some (getSupportedTbf tbfMsec)) ∧
      RoundsIntervals getSupportedTbf := by
  refine ⟨getSupportedTbfChecked_eq, ?_, ?_, ?_, ?_⟩
  · intro tbfMsec
    rw [toNat_getSupportedTbf]
    exact supportedTbf_supported _
  · intro x y hxy
    rw [UInt32.le_iff_toNat_le, toNat_getSupportedTbf, toNat_getSupportedTbf]
    exact supportedTbf_monotone (UInt32.le_iff_toNat_le.mp hxy)
  · intro tbfMsec
    have hlow := le_supportedTbf tbfMsec.toNat
    have hlt := (getSupportedTbf tbfMsec).toNat_lt
    rw [toNat_getSupportedTbf] at hlt
    apply UInt32.toNat_inj.mp
    rw [toNat_getSupportedTbf, toNat_getSupportedTbf]
    exact supportedTbf_of_supported (supportedTbf_supported _) (by omega) hlt
  · intro tbfMsec hsecond m hm hlt
    rw [toNat_getSupportedTbf]
    exact supportedTbf_eq_of_isLeast hsecond hm hlt

end LocationStack.Daemon
