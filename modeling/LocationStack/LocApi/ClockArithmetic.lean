import LocationStack.LocApi.Measurements
import LocationStack.Lib.Int64
import Mathlib.Tactic.Ring

/-! # The arithmetic of the clock

`convertGnssClock` is given the time of the receiver in the weeks of GPS or of BDS, and how far the
clock is off, and tells by how much the nanoseconds of the receiver are ahead of the time of GPS.
It tells it in two parts, whole nanoseconds and what is less than one.  The time of BDS is behind
by its epoch, by 14 leap seconds and by what the two systems differ.

The numbers that the modem gives with a point, and what is computed from them, are rational numbers
here; what is computed in 64 bits with a sign is undefined where it overflows.
-/
namespace LocationStack.LocApi

/-! ## The code -/

/-- `WEEK_MSECS`. -/
def weekMsecs : Int := 604800000
/-- `DAY_MSECS`. -/
def dayMsecs : Int := 86400000
/-- `NSEC_IN_MSEC`. -/
def nsecInMsec : Int := 1000000
/-- `MSEC_IN_ONE_SEC`. -/
def msecInOneSec : Int := 1000
/-- `GPS_BDS_DAYS_DIFF`. -/
def gpsBdsDaysDiff : Int := 9492
/-- `GPS_BDS_LEAP_SECONDS_DIFF`. -/
def gpsBdsLeapSecondsDiff : Int := 14
/-- `C_GPS_WEEK_UNKNOWN`. -/
def gpsWeekUnknown : UInt16 := 65535
/-- `MPS_TO_NSPS`. -/
def mpsToNsps : ℚ := 1 / (299792458 / 1000000000)

/-- `qmiLocGnssTimeStructT_v02`. -/
structure GnssTime where
  system : QmiLocSvSystem
  systemWeek : UInt16
  systemMsec : UInt32
  systemClkTimeBias : ℚ
  systemClkTimeUncMs : ℚ

/-- `qmiLocInterSystemBiasStructT_v02`. -/
structure InterSystemBias where
  timeBias : ℚ
  timeBiasUnc : ℚ

/-- `qmiLocRcvrClockFrequencyInfoStructT_v02`. -/
structure RcvrClockFrequencyInfo where
  clockDrift : ℚ
  clockDriftUnc : ℚ

/-- `qmiLocLeapSecondInfoStructT_v02`. -/
structure LeapSecondInfo where
  leapSec : UInt8
  leapSecUnc : UInt8

/-- The fields of a message that the clock is converted from; one that is not valid is absent. -/
structure ClockInfo where
  systemTime : Option GnssTime
  gpsBdsInterSystemBias : Option InterSystemBias
  rcvrClockFrequencyInfo : Option RcvrClockFrequencyInfo
  leapSecondInfo : Option LeapSecondInfo

/-- `GnssMeasurementsClockFlagsMask`. -/
def clockLeapSecondBit : UInt32 := 0x001
def clockTimeBit : UInt32 := 0x002
def clockTimeUncertaintyBit : UInt32 := 0x004
def clockFullBiasBit : UInt32 := 0x008
def clockBiasBit : UInt32 := 0x010
def clockBiasUncertaintyBit : UInt32 := 0x020
def clockDriftBit : UInt32 := 0x040
def clockDriftUncertaintyBit : UInt32 := 0x080
def clockHwClockDiscontinuityCountBit : UInt32 := 0x100

/-- The fields of `GnssMeasurementsClock` besides the time and the count of discontinuities.  A
field that is computed with an overflow has no value. -/
structure ClockFields where
  flags : UInt32
  leapSecond : UInt8
  timeUncertaintyNs : ℚ
  fullBiasNs : Option Int
  biasNs : Option ℚ
  biasUncertaintyNs : ℚ
  driftNsps : ℚ
  driftUncertaintyNsps : ℚ

/-- What `memset` leaves of it. -/
def ClockFields.zero : ClockFields := ⟨0, 0, 0, some 0, some 0, 0, 0, 0⟩

/-- `GnssSvMeasurementHeader`, the leap seconds if `GNSS_SV_MEAS_HEADER_HAS_LEAP_SECOND` is set. -/
structure ClockHeader where
  leapSec : Option UInt8

/-- `BIAS_GPSL1_VALID`. -/
def biasGpsL1Valid : UInt64 := 1
/-- `BIAS_GPSL1_UNC_VALID`. -/
def biasGpsL1UncValid : UInt64 := 2

/-- `timeBiases`, those of GPS L1. -/
structure TimeBiases where
  flags : UInt64
  gpsL1 : ℚ
  gpsL1Unc : ℚ

/-- What the epochs of GPS and of BDS are apart, in nanoseconds. -/
def bdsEpochNs : Int :=
  gpsBdsDaysDiff * dayMsecs * nsecInMsec + gpsBdsLeapSecondsDiff * msecInOneSec * nsecInMsec

namespace GnssTime

variable (t : GnssTime)

/-- We only support GPS preferred or BDS preferred. -/
def supported : Bool := t.system == .gps || t.system == .bds

/-- The week is known, and `isTimeValid`. -/
def known : Bool := t.systemWeek != gpsWeekUnknown && decide (t.systemClkTimeUncMs ≤ 16)

/-- The biases are computed. -/
def usable : Bool := t.supported && t.known

def totalMs : Int := (t.systemWeek.toNat : Int) * weekMsecs + (t.systemMsec.toNat : Int)

/-- `gpsTimeNs`, with what the two systems differ.  The sum with the epoch of BDS is unsigned, and
the cast of the bias is done before the product. -/
def gpsTimeNs (isb : Option InterSystemBias) : Option Int := do
  let totalNs ← checked (t.totalMs * nsecInMsec)
  let sysClkBiasNs ← toInt64 (t.systemClkTimeBias * nsecInMsec)
  let gpsTimeNs ← checked (totalNs - sysClkBiasNs)
  if t.system = .bds then
    let gpsTimeNs := wrapInt64 (gpsTimeNs + bdsEpochNs)
    match isb with
    | none => return gpsTimeNs
    | some isb =>
      let gpsBdsTimeBiasMs ← toInt64 isb.timeBias
      let gpsBdsTimeBiasNs ← checked (gpsBdsTimeBiasMs * nsecInMsec)
      checked (gpsTimeNs + gpsBdsTimeBiasNs)
  else return gpsTimeNs

def fullBiasNs (isb : Option InterSystemBias) (timeNs : Int) : Option Int := do
  let gpsTimeNs ← t.gpsTimeNs isb
  checked (timeNs - gpsTimeNs)

/-- What the whole nanoseconds leave. -/
def biasNs : Option ℚ := do
  let sysClkBiasNs ← toInt64 (t.systemClkTimeBias * 1000000)
  return t.systemClkTimeBias * 1000000 - sysClkBiasNs

/-- The bias between the systems is looked at. -/
def interSystemBias (isb : Option InterSystemBias) : Option InterSystemBias :=
  if t.system = .bds then isb else none

/-- `sysClkUncMs`, with the one of the bias between the systems. -/
def sysClkUncMs (isb : Option InterSystemBias) : ℚ :=
  match t.interSystemBias isb with
  | none => t.systemClkTimeUncMs
  | some isb => t.systemClkTimeUncMs + isb.timeBiasUnc

/-- The biases of GPS L1, when BDS is preferred. -/
def timeBiases (isb : Option InterSystemBias) (m : TimeBiases) : TimeBiases :=
  match t.interSystemBias isb with
  | none => m
  | some b =>
    { flags := m.flags ||| biasGpsL1Valid ||| biasGpsL1UncValid
      gpsL1 := (t.systemClkTimeBias - b.timeBias) * 1000000
      gpsL1Unc := t.sysClkUncMs isb * 1000000 }

end GnssTime

namespace ClockFields

/-- The biases, and the leap seconds that the header has. -/
def setBiases (clock : ClockFields) (header : ClockHeader) (info : ClockInfo) (t : GnssTime)
    (timeNs : Int) : ClockFields :=
  let clock : ClockFields := { clock with
    flags := clock.flags ||| (clockFullBiasBit ||| clockBiasBit ||| clockBiasUncertaintyBit)
    fullBiasNs := t.fullBiasNs info.gpsBdsInterSystemBias timeNs
    biasNs := t.biasNs
    biasUncertaintyNs := t.sysClkUncMs info.gpsBdsInterSystemBias * 1000000 }
  match header.leapSec with
  | none => clock
  | some leapSec =>
    { clock with flags := clock.flags ||| clockLeapSecondBit, leapSecond := leapSec }

def setDrift (clock : ClockFields) (info : ClockInfo) : ClockFields :=
  match info.rcvrClockFrequencyInfo with
  | none => clock
  | some frequency =>
    { clock with
      flags := clock.flags ||| (clockDriftBit ||| clockDriftUncertaintyBit)
      driftNsps := frequency.clockDrift * mpsToNsps
      driftUncertaintyNsps := frequency.clockDriftUnc * mpsToNsps }

def setLeapSecond (clock : ClockFields) (info : ClockInfo) : ClockFields :=
  match info.leapSecondInfo with
  | none => clock
  | some leap =>
    if leap.leapSecUnc = 0 then
      { clock with flags := clock.flags ||| clockLeapSecondBit, leapSecond := leap.leapSec }
    else clock

end ClockFields

/-- `timeNs`. -/
def refTimeNs {R : Type} (ind : GnssSvMeasInfoInd R) : Int := ind.refFCount.toNat * 1000000

/-- The part of `convertGnssClock` that `MeasState.convertGnssClock` leaves out. -/
def clockFields (m : TimeBiases) (header : ClockHeader) (clock : ClockFields)
    (ind : GnssSvMeasInfoInd ClockInfo) : ClockFields × TimeBiases :=
  let clock : ClockFields := { clock with flags := 0 }
  let timed : ClockFields × TimeBiases :=
    if MeasState.timed ind then
      let clock : ClockFields := { clock with
        flags := clockTimeBit ||| clockTimeUncertaintyBit ||| clockHwClockDiscontinuityCountBit
        timeUncertaintyNs := 0 }
      match ind.rest.systemTime with
      | none => (clock, m)
      | some t =>
        if t.usable then
          (clock.setBiases header ind.rest t (refTimeNs ind),
            t.timeBiases ind.rest.gpsBdsInterSystemBias m)
        else (clock, m)
    else (clock, m)
  ((timed.1.setDrift ind.rest).setLeapSecond ind.rest, timed.2)

/-- Conversions with this one of the clock. -/
def withClock {D G : Type} (conv : Converters ClockInfo D G ClockFields ClockHeader TimeBiases) :
    Converters ClockInfo D G ClockFields ClockHeader TimeBiases :=
  { conv with zeroClock := .zero, clock := clockFields }

/-! ## What it should tell -/

namespace GnssTime

variable (t : GnssTime) (isb : Option InterSystemBias)

/-- What the two systems differ, in milliseconds; nothing if it is not looked at. -/
def isbMs : ℚ :=
  match t.interSystemBias isb with
  | none => 0
  | some isb => isb.timeBias

/-- The time of GPS at the measurement, in nanoseconds. -/
def measuredNs : ℚ :=
  (t.totalMs - t.systemClkTimeBias) * 1000000 +
    if t.system = .bds then bdsEpochNs + t.isbMs isb * 1000000 else 0

/-! ## When it does -/

/-- The time of the system, in whole nanoseconds. -/
def systemNs : Int := t.totalMs * 1000000 - truncate (t.systemClkTimeBias * 1000000)

/-- The epoch, if it is another one. -/
def epochNs : Int := if t.system = .bds then bdsEpochNs else 0

/-- The time of GPS, in whole nanoseconds, with the whole milliseconds that the systems differ. -/
def wholeNs : Int := t.systemNs + t.epochNs + truncate (t.isbMs isb) * 1000000

/-- Nothing that is computed from these numbers is too large for 64 bits. -/
structure Fits (timeNs : Int) : Prop where
  total : InInt64 (t.totalMs * 1000000)
  bias : InInt64 (truncate (t.systemClkTimeBias * 1000000))
  system : InInt64 t.systemNs
  epoch : InInt64 (t.systemNs + t.epochNs)
  interSystem : InInt64 (truncate (t.isbMs isb) * 1000000)
  whole : InInt64 (t.wholeNs isb)
  full : InInt64 (timeNs - t.wholeNs isb)

/-- What is less than a millisecond of the bias between the systems is at most a nanosecond. -/
def WholeIsb : Prop := |t.isbMs isb - truncate (t.isbMs isb)| * 1000000 ≤ 1

theorem isbMs_of_ne_bds (h : t.system ≠ .bds) : t.isbMs isb = 0 := by
  rw [isbMs, interSystemBias, if_neg h]

@[simp] theorem truncate_zero : truncate 0 = 0 := by
  rw [truncate, if_pos le_rfl, Int.floor_zero]

/-- Where the epochs are the same. -/
theorem gpsTimeNs_of_ne_bds (h : t.system ≠ .bds) (g : Int) :
    t.gpsTimeNs isb = some g ↔
      InInt64 (t.totalMs * 1000000) ∧ InInt64 (truncate (t.systemClkTimeBias * 1000000)) ∧
        InInt64 t.systemNs ∧ t.systemNs = g := by
  simp only [gpsTimeNs, if_neg h, Option.bind_eq_bind, Option.bind_eq_some_iff, checked_eq_some,
    toInt64_eq_some, Option.pure_def, Option.some.injEq, nsecInMsec, systemNs]
  constructor
  · rintro ⟨_, ⟨htotal, rfl⟩, _, ⟨hbias, rfl⟩, _, ⟨hsystem, rfl⟩, rfl⟩
    exact ⟨htotal, hbias, hsystem, rfl⟩
  · rintro ⟨htotal, hbias, hsystem, rfl⟩
    exact ⟨_, ⟨htotal, rfl⟩, _, ⟨hbias, rfl⟩, _, ⟨hsystem, rfl⟩, rfl⟩

/-- Where they are not: what the systems differ is added to a sum that is taken modulo. -/
theorem gpsTimeNs_of_bds (h : t.system = .bds) (g : Int) :
    t.gpsTimeNs isb = some g ↔
      InInt64 (t.totalMs * 1000000) ∧ InInt64 (truncate (t.systemClkTimeBias * 1000000)) ∧
        InInt64 t.systemNs ∧ InInt64 (truncate (t.isbMs isb) * 1000000) ∧
        InInt64 (wrapInt64 (t.systemNs + bdsEpochNs) + truncate (t.isbMs isb) * 1000000) ∧
        wrapInt64 (t.systemNs + bdsEpochNs) + truncate (t.isbMs isb) * 1000000 = g := by
  cases isb with
  | none =>
    have hzero : truncate (t.isbMs none) * 1000000 = 0 := by
      simp only [isbMs, interSystemBias, if_pos h, truncate_zero, Int.zero_mul]
    have hwrap := wrapInt64_inInt64 (t.systemNs + bdsEpochNs)
    simp only [gpsTimeNs, if_pos h, Option.bind_eq_bind, Option.bind_eq_some_iff, checked_eq_some,
      toInt64_eq_some, Option.pure_def, Option.some.injEq, nsecInMsec, hzero, Int.add_zero]
    constructor
    · rintro ⟨_, ⟨htotal, rfl⟩, _, ⟨hbias, rfl⟩, _, ⟨hsystem, rfl⟩, rfl⟩
      exact ⟨htotal, hbias, hsystem, by decide, hwrap, rfl⟩
    · rintro ⟨htotal, hbias, hsystem, -, -, rfl⟩
      exact ⟨_, ⟨htotal, rfl⟩, _, ⟨hbias, rfl⟩, _, ⟨hsystem, rfl⟩, rfl⟩
  | some b =>
    have hms : t.isbMs (some b) = b.timeBias := by
      simp only [isbMs, interSystemBias, if_pos h]
    simp only [gpsTimeNs, if_pos h, Option.bind_eq_bind, Option.bind_eq_some_iff, checked_eq_some,
      toInt64_eq_some, nsecInMsec, hms]
    constructor
    · rintro ⟨_, ⟨htotal, rfl⟩, _, ⟨hbias, rfl⟩, _, ⟨hsystem, rfl⟩, _, ⟨-, rfl⟩, _, ⟨hb, rfl⟩, hg⟩
      exact ⟨htotal, hbias, hsystem, hb, hg⟩
    · rintro ⟨htotal, hbias, hsystem, hb, hg⟩
      have hwhole : InInt64 (truncate b.timeBias) := by
        unfold InInt64 at hb ⊢
        omega
      exact ⟨_, ⟨htotal, rfl⟩, _, ⟨hbias, rfl⟩, _, ⟨hsystem, rfl⟩, _, ⟨hwhole, rfl⟩, _, ⟨hb, rfl⟩,
        hg⟩

/-- By how much the time is wrong, whatever is computed for the whole nanoseconds. -/
theorem error_eq (g : Int) :
    (g - (t.systemClkTimeBias * 1000000 - truncate (t.systemClkTimeBias * 1000000))) -
        t.measuredNs isb =
      ((g - (t.systemNs + t.epochNs) : Int) : ℚ) - t.isbMs isb * 1000000 := by
  by_cases h : t.system = .bds
  · rw [measuredNs, if_pos h, epochNs, if_pos h, systemNs]
    push_cast
    ring
  · rw [measuredNs, if_neg h, epochNs, if_neg h, t.isbMs_of_ne_bds isb h, systemNs]
    push_cast
    ring

theorem biasNs_eq_some {x : ℚ} :
    t.biasNs = some x ↔
      InInt64 (truncate (t.systemClkTimeBias * 1000000)) ∧
        t.systemClkTimeBias * 1000000 - truncate (t.systemClkTimeBias * 1000000) = x := by
  simp only [biasNs, Option.bind_eq_bind, Option.bind_eq_some_iff, toInt64_eq_some,
    Option.pure_def, Option.some.injEq]
  constructor
  · rintro ⟨_, ⟨hbias, rfl⟩, rfl⟩
    exact ⟨hbias, rfl⟩
  · rintro ⟨hbias, rfl⟩
    exact ⟨_, ⟨hbias, rfl⟩, rfl⟩

theorem fullBiasNs_eq_some {timeNs f : Int} :
    t.fullBiasNs isb timeNs = some f ↔
      ∃ g, t.gpsTimeNs isb = some g ∧ InInt64 (timeNs - g) ∧ timeNs - g = f := by
  simp only [fullBiasNs, Option.bind_eq_bind, Option.bind_eq_some_iff, checked_eq_some]

/-- If everything fits, whole nanoseconds are computed. -/
theorem gpsTimeNs_of_fits {timeNs : Int} (h : t.Fits isb timeNs) :
    t.gpsTimeNs isb = some (t.wholeNs isb) := by
  by_cases hbds : t.system = .bds
  · have hepoch : t.epochNs = bdsEpochNs := if_pos hbds
    have hwrap : wrapInt64 (t.systemNs + bdsEpochNs) = t.systemNs + bdsEpochNs :=
      wrapInt64_of_inInt64 (hepoch ▸ h.epoch)
    rw [t.gpsTimeNs_of_bds isb hbds, hwrap, ← hepoch]
    exact ⟨h.total, h.bias, h.system, h.interSystem, h.whole, rfl⟩
  · rw [t.gpsTimeNs_of_ne_bds isb hbds, wholeNs, epochNs, if_neg hbds, t.isbMs_of_ne_bds isb hbds,
      truncate_zero]
    exact ⟨h.total, h.bias, h.system, by omega⟩

/-- If the time that is computed is not far off, everything fits. -/
theorem fits_of_near {timeNs g : Int} (hg : t.gpsTimeNs isb = some g)
    (hfull : InInt64 (timeNs - g))
    (hnear : |((g - (t.systemNs + t.epochNs) : Int) : ℚ) - t.isbMs isb * 1000000| ≤ 1) :
    t.Fits isb timeNs := by
  by_cases hbds : t.system = .bds
  · have hepoch : t.epochNs = bdsEpochNs := if_pos hbds
    rw [t.gpsTimeNs_of_bds isb hbds] at hg
    obtain ⟨htotal, hbias, hsystem, hisb, hwhole, rfl⟩ := hg
    -- A sum that wraps is off by more than the bias between the systems can make up for.
    have hfits : InInt64 (t.systemNs + bdsEpochNs) := by
      by_contra hnot
      have hless := abs_lt.mp (abs_sub_truncate_lt (t.isbMs isb))
      rw [hepoch] at hnear
      have hclose := abs_le.mp hnear
      push_cast at hclose
      rcases wrapInt64_off hnot with hoff | hoff
      · have : ((wrapInt64 (t.systemNs + bdsEpochNs) : Int) : ℚ) - (t.systemNs + bdsEpochNs) ≤
            -18446744073709551616 := by exact_mod_cast hoff
        linarith
      · have : (18446744073709551616 : ℚ) ≤
            (wrapInt64 (t.systemNs + bdsEpochNs) : Int) - (t.systemNs + bdsEpochNs) := by
          exact_mod_cast hoff
        linarith
    rw [wrapInt64_of_inInt64 hfits, ← hepoch] at hwhole hfull
    exact ⟨htotal, hbias, hsystem, hepoch ▸ hfits, hisb, hwhole, hfull⟩
  · have hepoch : t.epochNs = 0 := if_neg hbds
    have hisb := t.isbMs_of_ne_bds isb hbds
    rw [t.gpsTimeNs_of_ne_bds isb hbds] at hg
    obtain ⟨htotal, hbias, hsystem, rfl⟩ := hg
    have hwhole : t.wholeNs isb = t.systemNs := by
      rw [wholeNs, hepoch, hisb, truncate_zero]
      omega
    refine ⟨htotal, hbias, hsystem, ?_, ?_, hwhole ▸ hsystem, hwhole ▸ hfull⟩
    · rwa [hepoch, Int.add_zero]
    · rw [hisb, truncate_zero]
      decide

/-- What is left of the bias between the systems. -/
theorem near_wholeNs_iff :
    |((t.wholeNs isb - (t.systemNs + t.epochNs) : Int) : ℚ) - t.isbMs isb * 1000000| ≤ 1 ↔
      t.WholeIsb isb := by
  have herror : ((t.wholeNs isb - (t.systemNs + t.epochNs) : Int) : ℚ) - t.isbMs isb * 1000000 =
      -((t.isbMs isb - truncate (t.isbMs isb)) * 1000000) := by
    rw [wholeNs]
    push_cast
    ring
  rw [herror, abs_neg, abs_mul, WholeIsb, abs_of_pos (show (0 : ℚ) < 1000000 by norm_num)]

/-- **What is computed** is the time of GPS to within a nanosecond, if and only if everything fits
and the bias between the systems is one of whole milliseconds. -/
theorem gpsTimeNs_near_iff (timeNs : Int) :
    (∃ fullBiasNs biasNs, t.fullBiasNs isb timeNs = some fullBiasNs ∧ t.biasNs = some biasNs ∧
        |(timeNs - (fullBiasNs + biasNs)) - t.measuredNs isb| ≤ 1) ↔
      t.Fits isb timeNs ∧ t.WholeIsb isb := by
  have hsum (g : Int) (x : ℚ) : (timeNs - ((timeNs - g : Int) + x) : ℚ) = g - x := by
    push_cast
    ring
  constructor
  · rintro ⟨_, _, hf, hb, hnear⟩
    obtain ⟨g, hg, hfits, rfl⟩ := (t.fullBiasNs_eq_some isb).mp hf
    obtain ⟨-, rfl⟩ := t.biasNs_eq_some.mp hb
    rw [hsum, t.error_eq] at hnear
    have hall := t.fits_of_near isb hg hfits hnear
    obtain rfl := Option.some.inj ((t.gpsTimeNs_of_fits isb hall).symm.trans hg)
    exact ⟨hall, (t.near_wholeNs_iff isb).mp hnear⟩
  · rintro ⟨hall, hisb⟩
    refine ⟨_, _,
      (t.fullBiasNs_eq_some isb).mpr ⟨_, t.gpsTimeNs_of_fits isb hall, hall.full, rfl⟩,
      t.biasNs_eq_some.mpr ⟨hall.bias, rfl⟩, ?_⟩
    rw [hsum, t.error_eq]
    exact (t.near_wholeNs_iff isb).mpr hisb

/-- What a clock that tells the time of GPS to within a nanosecond needs. -/
def Exact (timeNs : Int) : Prop := t.Fits isb timeNs ∧ t.WholeIsb isb

end GnssTime

/-! ## The clock of a message -/

/-- The time of GPS that a clock tells. -/
def tellsNs (clock : GnssMeasurementsClock ClockFields) : Option ℚ := do
  let fullBiasNs ← clock.rest.fullBiasNs
  let biasNs ← clock.rest.biasNs
  return clock.timeNs - (fullBiasNs + biasNs)

theorem tellsNs_eq_some {clock : GnssMeasurementsClock ClockFields} {gpsNs : ℚ} :
    tellsNs clock = some gpsNs ↔
      ∃ f b, clock.rest.fullBiasNs = some f ∧ clock.rest.biasNs = some b ∧
        clock.timeNs - (f + b) = gpsNs := by
  simp only [tellsNs, Option.bind_eq_bind, Option.bind_eq_some_iff, Option.pure_def,
    Option.some.injEq]
  constructor
  · rintro ⟨f, hf, b, hb, rfl⟩
    exact ⟨f, b, hf, hb, rfl⟩
  · rintro ⟨f, b, hf, hb, rfl⟩
    exact ⟨f, hf, b, hb, rfl⟩

/-- A message whose time is converted: it has the reference count, and a time of GPS or of BDS in a
week that is known. -/
structure HasTime (ind : GnssSvMeasInfoInd ClockInfo) (t : GnssTime) : Prop where
  timed : MeasState.timed ind = true
  time : ind.rest.systemTime = some t
  usable : t.usable = true

namespace ClockFields

@[simp] theorem setDrift_fullBiasNs (clock : ClockFields) (info : ClockInfo) :
    (clock.setDrift info).fullBiasNs = clock.fullBiasNs := by
  unfold setDrift
  split <;> rfl

@[simp] theorem setDrift_biasNs (clock : ClockFields) (info : ClockInfo) :
    (clock.setDrift info).biasNs = clock.biasNs := by
  unfold setDrift
  split <;> rfl

@[simp] theorem setLeapSecond_fullBiasNs (clock : ClockFields) (info : ClockInfo) :
    (clock.setLeapSecond info).fullBiasNs = clock.fullBiasNs := by
  unfold setLeapSecond
  split
  · rfl
  · split <;> rfl

@[simp] theorem setLeapSecond_biasNs (clock : ClockFields) (info : ClockInfo) :
    (clock.setLeapSecond info).biasNs = clock.biasNs := by
  unfold setLeapSecond
  split
  · rfl
  · split <;> rfl

variable (clock : ClockFields) (header : ClockHeader) (info : ClockInfo) (t : GnssTime)
  (timeNs : Int)

@[simp] theorem setBiases_fullBiasNs :
    (clock.setBiases header info t timeNs).fullBiasNs =
      t.fullBiasNs info.gpsBdsInterSystemBias timeNs := by
  unfold setBiases
  cases header.leapSec <;> rfl

@[simp] theorem setBiases_biasNs :
    (clock.setBiases header info t timeNs).biasNs = t.biasNs := by
  unfold setBiases
  cases header.leapSec <;> rfl

end ClockFields

section

variable {D G : Type} (conv : Converters ClockInfo D G ClockFields ClockHeader TimeBiases)
  (s : MeasState D G ClockFields ClockHeader TimeBiases) (ind : GnssSvMeasInfoInd ClockInfo)

/-- The clock after a message. -/
def clockAfter : GnssMeasurementsClock ClockFields :=
  (s.convertGnssClock (withClock conv) ind).api.mGnssMeasurements.clock

theorem clockAfter_timeNs (h : MeasState.timed ind = true) :
    (clockAfter conv s ind).timeNs = refTimeNs ind := by
  rw [clockAfter, MeasState.convertGnssClock, if_pos h, MeasState.setClock]
  exact if_pos h

theorem clockAfter_biases {t : GnssTime} (h : HasTime ind t) :
    (clockAfter conv s ind).rest.fullBiasNs =
        t.fullBiasNs ind.rest.gpsBdsInterSystemBias (refTimeNs ind) ∧
      (clockAfter conv s ind).rest.biasNs = t.biasNs := by
  simp only [clockAfter, MeasState.convertGnssClock, if_pos h.timed, MeasState.setClock, withClock,
    clockFields, h.time, if_pos h.usable, ClockFields.setLeapSecond_fullBiasNs,
    ClockFields.setLeapSecond_biasNs, ClockFields.setDrift_fullBiasNs,
    ClockFields.setDrift_biasNs, ClockFields.setBiases_fullBiasNs, ClockFields.setBiases_biasNs,
    and_self]

/-- What the clock after a message should tell. -/
def TellsMeasured (t : GnssTime) : Prop :=
  ∃ gpsNs, tellsNs (clockAfter conv s ind) = some gpsNs ∧
    |gpsNs - t.measuredNs ind.rest.gpsBdsInterSystemBias| ≤ 1

theorem tellsMeasured_iff {t : GnssTime} (h : HasTime ind t) :
    TellsMeasured conv s ind t ↔ t.Exact ind.rest.gpsBdsInterSystemBias (refTimeNs ind) := by
  rw [GnssTime.Exact, ← t.gpsTimeNs_near_iff]
  obtain ⟨hfull, hbias⟩ := clockAfter_biases conv s ind h
  simp only [TellsMeasured, tellsNs_eq_some, hfull, hbias, clockAfter_timeNs conv s ind h.timed]
  constructor
  · rintro ⟨_, ⟨f, b, hf, hb, rfl⟩, hnear⟩
    exact ⟨f, b, hf, hb, hnear⟩
  · rintro ⟨f, b, hf, hb, hnear⟩
    exact ⟨_, ⟨f, b, hf, hb, rfl⟩, hnear⟩

/-- The clock tells the whole nanoseconds, and what is less than one of the bias of the clock. -/
theorem tellsNs_of_fits {t : GnssTime} (h : HasTime ind t)
    (hfits : t.Fits ind.rest.gpsBdsInterSystemBias (refTimeNs ind)) :
    tellsNs (clockAfter conv s ind) = some (t.wholeNs ind.rest.gpsBdsInterSystemBias -
      (t.systemClkTimeBias * 1000000 - truncate (t.systemClkTimeBias * 1000000))) := by
  obtain ⟨hfull, hbias⟩ := clockAfter_biases conv s ind h
  rw [tellsNs_eq_some, hfull, hbias, clockAfter_timeNs conv s ind h.timed]
  refine ⟨_, _, (t.fullBiasNs_eq_some _).mpr ⟨_, t.gpsTimeNs_of_fits _ hfits, hfits.full, rfl⟩,
    t.biasNs_eq_some.mpr ⟨hfits.bias, rfl⟩, ?_⟩
  push_cast
  ring

/-- In the time of GPS the clock is right altogether. -/
theorem tellsNs_of_ne_bds {t : GnssTime} (h : HasTime ind t) (hgps : t.system ≠ .bds)
    (hfits : t.Fits ind.rest.gpsBdsInterSystemBias (refTimeNs ind)) :
    tellsNs (clockAfter conv s ind) = some (t.measuredNs ind.rest.gpsBdsInterSystemBias) := by
  rw [tellsNs_of_fits conv s ind h hfits]
  have herror := t.error_eq ind.rest.gpsBdsInterSystemBias
    (t.wholeNs ind.rest.gpsBdsInterSystemBias)
  rw [GnssTime.wholeNs, t.isbMs_of_ne_bds _ hgps, GnssTime.truncate_zero, Int.zero_mul,
    Int.add_zero, Int.sub_self, Int.cast_zero, zero_mul, sub_zero] at herror
  rw [GnssTime.wholeNs, t.isbMs_of_ne_bds _ hgps, GnssTime.truncate_zero, Int.zero_mul,
    Int.add_zero]
  exact congrArg some (sub_eq_zero.mp herror)

end

/-- Conversions to nothing, except for the clock. -/
def clockConverters : Converters ClockInfo Unit Unit ClockFields ClockHeader TimeBiases where
  zeroClock := .zero
  zeroHeader := ⟨none⟩
  measurement := fun m _ _ _ => ((), m)
  clock := clockFields
  header := fun m h _ => (h, m)
  agc := fun _ => ()
  keep1Hz := fun _ m => m
  last := fun m meas _ => (meas.clock.rest, meas.header, m)
  biases := fun _ _ => ()
  stamp := fun _ h => h
  cycleSlips := fun _ m => m
  reset := fun m => m

def clockStart : MeasState Unit Unit ClockFields ClockHeader TimeBiases :=
  ⟨.init, .new clockConverters 0 false ⟨0, 0, 0⟩⟩

/-- A time without a bias of the clock. -/
def timeAt (system : QmiLocSvSystem) (systemWeek : UInt16) (systemMsec : UInt32) : GnssTime :=
  ⟨system, systemWeek, systemMsec, 0, 1⟩

/-- A message with a time, and with a bias between the systems. -/
def clockInd (t : GnssTime) (timeBias : ℚ) : GnssSvMeasInfoInd ClockInfo :=
  { sampleInd 1 1 1 0 dontUseMeasurement with
    rest := ⟨some t, some ⟨timeBias, 1⟩, none, none⟩ }

end LocationStack.LocApi
