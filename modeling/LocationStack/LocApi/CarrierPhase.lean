import LocationStack.Lib.Decimal
import LocationStack.LocApi.Epochs

/-! # The state of the carrier phase

`convertGnssMeasurements` tells of a carrier phase whether it goes on from the epoch before.  It
looks the signal and the satellite up, by a text of the two, in what was noted of the last epoch of
the rate, and notes what the next epoch will look up.  `reportSvMeasurementInternal` puts the notes
of an epoch in the place of those before.

The reference counts are compared by their difference, which is to be `MAX_REFOUNT_DIFF` at most; a
difference below zero is that, however far below.
-/
namespace LocationStack.LocApi

/-! ## The code -/

/-- `MAX_REFOUNT_DIFF_FOR_1HZ` and `MAX_REFOUNT_DIFF_FOR_NHZ` -/
def maxRefCntDiff (nHz : Bool) : Nat := if nHz then 110 else 1100

/-- `MeasCacheInfo` -/
structure MeasCacheInfo where
  cycleSlipCount : UInt8
  refFCount : UInt32
  deriving Repr, DecidableEq

/-- `CycleSlipCountMap`, by the bytes of a text. -/
abbrev CycleSlipCountMap := List UInt8 → Option MeasCacheInfo

/-- The four maps: those of the last epoch of a rate, and those of the one that is collected. -/
structure CycleSlipMaps where
  mPrev1HzSlipCountMap : CycleSlipCountMap
  mPrevNhzSlipCountMap : CycleSlipCountMap
  mCurrentCycleSlipCountMap1Hz : CycleSlipCountMap
  mCurrentCycleSlipCountMapNHz : CycleSlipCountMap

/-- What the constructor clears. -/
def CycleSlipMaps.init : CycleSlipMaps :=
  ⟨fun _ => none, fun _ => none, fun _ => none, fun _ => none⟩

/-- `qmiLocSVMeasurementStructT_v02`, what is read of it for the carrier phase, whose bits are
those of a `double`. -/
structure CarrierInfo where
  gnssSvId : UInt16
  validMask : UInt64
  carrierPhase : UInt64
  cycleSlipCount : UInt8
  deriving Repr, DecidableEq

/-- `QMI_LOC_SV_CARRIER_PHASE_VALID` -/
def svCarrierPhaseValid : UInt64 := 0x10

/-- `QMI_LOC_SV_CYCLESLIP_COUNT_VALID` -/
def svCycleSlipCountValid : UInt64 := 0x40

/-- `QMI_LOC_MASK_MEAS_STATUS_LP_VALID` -/
def measStatusLpValid : UInt64 := 0x40

/-- A carrier phase that is valid and not zero, of either sign. -/
def CarrierInfo.hasPhase (info : CarrierInfo) : Bool :=
  info.validMask &&& svCarrierPhaseValid != 0 && info.carrierPhase &&& 0x7FFFFFFFFFFFFFFF != 0

def CarrierInfo.hasSlipCount (info : CarrierInfo) : Bool :=
  info.validMask &&& svCycleSlipCountValid != 0

/-- `GNSS_MEASUREMENTS_ACCUMULATED_DELTA_RANGE_STATE_VALID_BIT` -/
def adrStateValid : UInt32 := 1

/-- `GNSS_MEASUREMENTS_ACCUMULATED_DELTA_RANGE_STATE_RESET_BIT` -/
def adrStateReset : UInt32 := 2

/-- `GNSS_MEASUREMENTS_ACCUMULATED_DELTA_RANGE_STATE_CYCLE_SLIP_BIT` -/
def adrStateCycleSlip : UInt32 := 4

/-- `GNSS_MEASUREMENTS_ACCUMULATED_DELTA_RANGE_STATE_HALF_CYCLE_RESOLVED_BIT` -/
def adrStateHalfCycleResolved : UInt32 := 8

/-- The text that a signal and a satellite are noted under: two numbers and a minus sign. -/
def slipKey (gnssSignalType : UInt64) (gnssSvId : UInt16) : List UInt8 :=
  Decimal.ofNat gnssSignalType.toNat ++ 45 :: Decimal.ofNat gnssSvId.toNat

/-- A difference of two counts as an `int32_t`. -/
def refCountDiff (refFCount previous : UInt32) : Int := (refFCount - previous).toBitVec.toInt

/-- A measurement as far as the carrier phase goes: what it was converted from, and
`adrStateMask`. -/
structure Adr where
  gnssSignalType : UInt64
  refFCount : UInt32
  info : CarrierInfo
  adrStateMask : UInt32
  deriving Repr, DecidableEq

namespace CycleSlipMaps

/-- `prevCntMapToUse` -/
def prev (maps : CycleSlipMaps) (nHz : Bool) : CycleSlipCountMap :=
  if nHz then maps.mPrevNhzSlipCountMap else maps.mPrev1HzSlipCountMap

def current (maps : CycleSlipMaps) (nHz : Bool) : CycleSlipCountMap :=
  if nHz then maps.mCurrentCycleSlipCountMapNHz else maps.mCurrentCycleSlipCountMap1Hz

/-- The entry under which a satellite is found, if its count is not too far before. -/
def findSv (map : CycleSlipCountMap) (nHz : Bool) (key : List UInt8) (refFCount : UInt32) :
    Option MeasCacheInfo :=
  match map key with
  | none => none
  | some iter => if refCountDiff refFCount iter.refFCount > maxRefCntDiff nHz then none else some iter

/-- `adrStateMask` of a measurement with a carrier phase, by what is found. -/
def adrState (iter : Option MeasCacheInfo) (info : CarrierInfo) (lockPoint : Bool) : UInt32 :=
  let mask := adrStateValid ||| adrStateReset
  let mask := if iter.isSome then mask &&& ~~~adrStateReset else mask
  let mask :=
    match iter with
    | some iter =>
      if info.hasSlipCount && iter.cycleSlipCount != info.cycleSlipCount then
        mask ||| adrStateCycleSlip
      else mask
    | none => mask ||| adrStateCycleSlip
  if lockPoint then mask ||| adrStateHalfCycleResolved else mask

/-- `operator[]`, and the assignment. -/
def insert (map : CycleSlipCountMap) (key : List UInt8) (measInfo : MeasCacheInfo) :
    CycleSlipCountMap :=
  fun key' => if key' = key then some measInfo else map key'

def note (maps : CycleSlipMaps) (nHz : Bool) (key : List UInt8) (measInfo : MeasCacheInfo) :
    CycleSlipMaps :=
  if nHz then
    { maps with
      mCurrentCycleSlipCountMapNHz := insert maps.mCurrentCycleSlipCountMapNHz key measInfo }
  else
    { maps with
      mCurrentCycleSlipCountMap1Hz := insert maps.mCurrentCycleSlipCountMap1Hz key measInfo }

/-- The part of `convertGnssMeasurements` that sets `adrStateMask`; `nHz` is whether
`nHzMeasurement` is not 0. -/
def convertAdr (maps : CycleSlipMaps) (nHz : Bool) (gnssSignalType : UInt64) (refFCount : UInt32)
    (info : CarrierInfo) (lockPoint : Bool) : Adr × CycleSlipMaps :=
  if info.hasPhase then
    let key := slipKey gnssSignalType info.gnssSvId
    let iter := findSv (maps.prev nHz) nHz key refFCount
    (⟨gnssSignalType, refFCount, info, adrState iter info lockPoint⟩,
      maps.note nHz key ⟨info.cycleSlipCount, refFCount⟩)
  else (⟨gnssSignalType, refFCount, info, 0⟩, maps)

/-- The notes of the epoch that is reported take the place of those before. -/
def rotate (maps : CycleSlipMaps) (isNhz : Bool) : CycleSlipMaps :=
  if isNhz then
    { maps with
      mPrevNhzSlipCountMap := maps.mCurrentCycleSlipCountMapNHz
      mCurrentCycleSlipCountMapNHz := fun _ => none }
  else
    { maps with
      mPrev1HzSlipCountMap := maps.mCurrentCycleSlipCountMap1Hz
      mCurrentCycleSlipCountMap1Hz := fun _ => none }

section

variable (maps : CycleSlipMaps) (nHz nHz' : Bool) (key : List UInt8) (measInfo : MeasCacheInfo)

@[simp] theorem note_prev : (maps.note nHz key measInfo).prev nHz' = maps.prev nHz' := by
  cases nHz <;> rfl

@[simp] theorem note_current :
    (maps.note nHz key measInfo).current nHz = insert (maps.current nHz) key measInfo := by
  cases nHz <;> rfl

@[simp] theorem note_current_other :
    (maps.note nHz key measInfo).current (!nHz) = maps.current (!nHz) := by
  cases nHz <;> rfl

@[simp] theorem rotate_prev : (maps.rotate nHz).prev nHz = maps.current nHz := by
  cases nHz <;> rfl

@[simp] theorem rotate_prev_other : (maps.rotate nHz).prev (!nHz) = maps.prev (!nHz) := by
  cases nHz <;> rfl

@[simp] theorem rotate_current : (maps.rotate nHz).current nHz = fun _ => none := by
  cases nHz <;> rfl

@[simp] theorem rotate_current_other :
    (maps.rotate nHz).current (!nHz) = maps.current (!nHz) := by
  cases nHz <;> rfl

end

end CycleSlipMaps

/-! ## Beside the other conversions -/

section WithAdr

variable {R D G X H M : Type}

/-- A report without what is told of the carrier phases. -/
def GnssMeasurements.withoutAdr (meas : GnssMeasurements (D × Adr) G X H) :
    GnssMeasurements D G X H :=
  { meas with measurements := meas.measurements.map fun m => ⟨m.measured, m.data.1⟩ }

/-- The lock point of a measurement is valid. -/
def SvMeasurement.lockPoint (m : SvMeasurement) : Bool :=
  (m.measurementStatus &&& m.validMeasStatusMask) &&& measStatusLpValid != 0

/-- Any conversions, with that of the carrier phase, whose fields are among the others of a
message. -/
def Converters.withAdr (conv : Converters R D G X H M) (info : R → Bool → Nat → CarrierInfo) :
    Converters R (D × Adr) G X H (M × CycleSlipMaps) where
  zeroClock := conv.zeroClock
  zeroHeader := conv.zeroHeader
  measurement := fun m ind isExt index =>
    let data := conv.measurement m.1 ind isExt index
    let adr := m.2.convertAdr (ind.nHzMeasurement != 0) ind.gnssSignalType ind.refFCount
      (info ind.rest isExt index) (ind.measurement isExt index).lockPoint
    ((data.1, adr.1), data.2, adr.2)
  clock := fun m header clock ind => ((conv.clock m.1 header clock ind).1,
    (conv.clock m.1 header clock ind).2, m.2)
  header := fun m header ind => ((conv.header m.1 header ind).1,
    (conv.header m.1 header ind).2, m.2)
  agc := conv.agc
  keep1Hz := fun meas m => (conv.keep1Hz meas.withoutAdr m.1, m.2)
  last := fun m meas ind =>
    let closed := conv.last m.1 meas.withoutAdr ind
    (closed.1, closed.2.1, closed.2.2, m.2)
  biases := fun m data => (conv.biases m.1 data.1, data.2)
  stamp := conv.stamp
  cycleSlips := fun isNhz m => (conv.cycleSlips isNhz m.1, m.2.rotate isNhz)
  reset := fun m => (conv.reset m.1, m.2)

end WithAdr

/-! ## What the flags are to say -/

namespace Adr

/-- Of the same signal and satellite. -/
def sameSource (m p : Adr) : Bool :=
  p.gnssSignalType == m.gnssSignalType && p.info.gnssSvId == m.info.gnssSvId

/-- The measurement of the signal and satellite that an epoch has a carrier phase of. -/
def predecessor (epoch : List Adr) (m : Adr) : Option Adr :=
  (epoch.filter fun p => p.info.hasPhase && m.sameSource p).getLast?

def isReset (m : Adr) : Bool := m.adrStateMask &&& adrStateReset != 0

def isCycleSlip (m : Adr) : Bool := m.adrStateMask &&& adrStateCycleSlip != 0

/-- The predecessor is close, before or behind. -/
def Continues (nHz : Bool) (m p : Adr) : Prop :=
  (refCountDiff m.refFCount p.refFCount).natAbs ≤ maxRefCntDiff nHz

/-- The flags of a carrier phase after an epoch of its rate. -/
structure RightFlags (previous : List Adr) (nHz : Bool) (m : Adr) : Prop where
  reset : m.isReset = false ↔ ∃ p, predecessor previous m = some p ∧ m.Continues nHz p
  cycleSlip : m.isCycleSlip = true ↔ m.isReset = true ∨ (m.info.hasSlipCount = true ∧
    ∃ p, predecessor previous m = some p ∧ p.info.cycleSlipCount ≠ m.info.cycleSlipCount)

/-- The count of the predecessor is not further behind than it may be before. -/
def NotFarBehind (previous : List Adr) (nHz : Bool) (m : Adr) : Prop :=
  ∀ p, predecessor previous m = some p →
    -(maxRefCntDiff nHz : Int) ≤ refCountDiff m.refFCount p.refFCount

end Adr

/-! ## The notes of an epoch -/

/-- Texts are the same of the same signal and satellite only. -/
theorem slipKey_inj {signal signal' : UInt64} {svId svId' : UInt16} :
    slipKey signal svId = slipKey signal' svId' ↔ signal = signal' ∧ svId = svId' := by
  constructor
  · intro heq
    have hends : ∀ rest : List UInt8, Decimal.Ends (45 :: rest) := by
      intro rest b hb
      cases hb
      decide
    have hscan := congrArg Decimal.scanDigits heq
    rw [slipKey, slipKey, Decimal.scanDigits_ofNat _ (hends _),
      Decimal.scanDigits_ofNat _ (hends _)] at hscan
    obtain ⟨hsignal, hrest⟩ := Prod.mk.inj (Option.some.inj hscan)
    have hvalue := congrArg Decimal.value (List.cons.inj hrest).2
    rw [Decimal.value_ofNat, Decimal.value_ofNat] at hvalue
    exact ⟨UInt64.toNat_inj.mp hsignal, UInt16.toNat_inj.mp hvalue⟩
  · rintro ⟨rfl, rfl⟩
    rfl

namespace Adr

def key (m : Adr) : List UInt8 := slipKey m.gnssSignalType m.info.gnssSvId

def cache (m : Adr) : MeasCacheInfo := ⟨m.info.cycleSlipCount, m.refFCount⟩

/-- What is noted of the measurements of an epoch, one after the other. -/
def notes (epoch : List Adr) : CycleSlipCountMap :=
  epoch.foldl (fun map m =>
    if m.info.hasPhase then CycleSlipMaps.insert map m.key m.cache else map) fun _ => none

theorem notes_concat (epoch : List Adr) (m : Adr) :
    notes (epoch ++ [m]) =
      if m.info.hasPhase then CycleSlipMaps.insert (notes epoch) m.key m.cache
      else notes epoch :=
  List.foldl_append

theorem key_eq_iff {m p : Adr} : m.key = p.key ↔ m.sameSource p = true := by
  rw [key, key, slipKey_inj, sameSource, Bool.and_eq_true, beq_iff_eq, beq_iff_eq, eq_comm,
    @eq_comm _ m.info.gnssSvId]

/-- **What is found under a text** is the last of the epoch with that signal and satellite. -/
theorem notes_key (epoch : List Adr) (m : Adr) :
    notes epoch m.key = (predecessor epoch m).map cache := by
  induction epoch using List.reverseRecOn with
  | nil => rfl
  | append_singleton epoch p ih =>
    rw [notes_concat, predecessor, List.filter_append]
    by_cases hphase : p.info.hasPhase = true
    · rw [if_pos hphase, CycleSlipMaps.insert]
      by_cases hsame : m.sameSource p = true
      · rw [if_pos (key_eq_iff.mpr hsame), List.filter_cons_of_pos (by rw [hphase, hsame]; rfl),
          List.filter_nil, List.getLast?_concat]
        rfl
      · rw [if_neg (mt key_eq_iff.mp hsame), ih,
          List.filter_cons_of_neg (by rw [hphase]; exact hsame), List.filter_nil, List.append_nil]
        rfl
    · rw [if_neg hphase, ih, List.filter_cons_of_neg
          (by rw [Bool.eq_false_iff.mpr hphase]; exact Bool.false_ne_true),
        List.filter_nil, List.append_nil]
      rfl

/-! ## The flags that are set -/

/-- A measurement with a carrier phase has the flags of what is found in the notes of an epoch. -/
def Flagged (previous : List Adr) (nHz : Bool) (m : Adr) : Prop :=
  m.info.hasPhase = true → ∃ lockPoint, m.adrStateMask =
    CycleSlipMaps.adrState (CycleSlipMaps.findSv (notes previous) nHz m.key m.refFCount) m.info
      lockPoint

end Adr

namespace CycleSlipMaps

variable (iter : Option MeasCacheInfo) (info : CarrierInfo) (lockPoint : Bool)

theorem adrState_reset : (adrState iter info lockPoint &&& adrStateReset != 0) = iter.isNone := by
  cases iter with
  | none =>
    simp only [adrState, Option.isSome_none, Option.isNone_none]
    cases lockPoint <;> decide
  | some iter =>
    simp only [adrState, Option.isSome_some, if_true, Option.isNone_some]
    cases info.hasSlipCount && iter.cycleSlipCount != info.cycleSlipCount <;>
      cases lockPoint <;> decide

theorem adrState_cycleSlip :
    (adrState iter info lockPoint &&& adrStateCycleSlip != 0) =
      match iter with
      | none => true
      | some iter => info.hasSlipCount && iter.cycleSlipCount != info.cycleSlipCount := by
  cases iter with
  | none =>
    simp only [adrState, Option.isSome_none]
    cases lockPoint <;> decide
  | some iter =>
    simp only [adrState, Option.isSome_some, if_true]
    cases info.hasSlipCount && iter.cycleSlipCount != info.cycleSlipCount <;>
      cases lockPoint <;> decide

end CycleSlipMaps

namespace Adr

variable {previous : List Adr} {nHz : Bool} {m : Adr}

theorem findSv_notes :
    CycleSlipMaps.findSv (notes previous) nHz m.key m.refFCount =
      match predecessor previous m with
      | none => none
      | some p => if refCountDiff m.refFCount p.refFCount > maxRefCntDiff nHz then none
          else some p.cache := by
  rw [CycleSlipMaps.findSv, notes_key]
  cases predecessor previous m <;> rfl

/-- **The flags are right exactly if the predecessor is not far behind.** -/
theorem rightFlags_iff (hphase : m.info.hasPhase = true) (h : m.Flagged previous nHz) :
    m.RightFlags previous nHz ↔ m.NotFarBehind previous nHz := by
  obtain ⟨lockPoint, hmask⟩ := h hphase
  rw [findSv_notes] at hmask
  have hreset := CycleSlipMaps.adrState_reset
    (match predecessor previous m with
      | none => none
      | some p => if refCountDiff m.refFCount p.refFCount > maxRefCntDiff nHz then none
          else some p.cache) m.info lockPoint
  have hslip := CycleSlipMaps.adrState_cycleSlip
    (match predecessor previous m with
      | none => none
      | some p => if refCountDiff m.refFCount p.refFCount > maxRefCntDiff nHz then none
          else some p.cache) m.info lockPoint
  rw [← hmask] at hreset hslip
  change m.isReset = _ at hreset
  change m.isCycleSlip = _ at hslip
  cases hfound : predecessor previous m with
  | none =>
    -- nothing to go on from: both flags are set
    simp only [hfound, Option.isNone_none] at hreset hslip
    refine iff_of_true ⟨?_, ?_⟩ ?_
    · rw [hreset, hfound]
      exact ⟨nofun, fun ⟨p, hp, _⟩ => nomatch hp⟩
    · rw [hslip, hreset]
      exact ⟨fun _ => .inl rfl, fun _ => rfl⟩
    · intro p hp
      rw [hfound] at hp
      cases hp
  | some p =>
    simp only [hfound] at hreset hslip
    by_cases hafter : refCountDiff m.refFCount p.refFCount > maxRefCntDiff nHz
    · -- too far before: both flags are set, as for a satellite that was not there
      simp only [hafter, if_true, Option.isNone_none] at hreset hslip
      refine iff_of_true ⟨?_, ?_⟩ ?_
      · rw [hreset, hfound]
        refine ⟨nofun, ?_⟩
        rintro ⟨_, hp, hcontinues⟩
        cases hp
        unfold Continues at hcontinues
        omega
      · rw [hslip, hreset]
        exact ⟨fun _ => .inl rfl, fun _ => rfl⟩
      · intro p' hp
        rw [hfound] at hp
        cases hp
        omega
    · simp only [hafter, if_false, Option.isNone_some] at hreset hslip
      have hcontinues : m.Continues nHz p ↔
          -(maxRefCntDiff nHz : Int) ≤ refCountDiff m.refFCount p.refFCount := by
        unfold Continues
        omega
      constructor
      · rintro ⟨hright, -⟩ p' hp
        rw [hfound] at hp
        cases hp
        obtain ⟨_, hp, hclose⟩ := hright.mp hreset
        rw [hfound] at hp
        cases hp
        exact hcontinues.mp hclose
      · intro hbehind
        refine ⟨iff_of_true hreset ⟨p, hfound, hcontinues.mpr (hbehind p hfound)⟩, ?_⟩
        rw [hslip, hreset, Bool.and_eq_true, bne_iff_ne]
        constructor
        · rintro ⟨hcount, hne⟩
          exact .inr ⟨hcount, p, hfound, hne⟩
        · rintro (hno | ⟨hcount, _, hp, hne⟩)
          · cases hno
          · rw [hfound] at hp
            cases hp
            exact ⟨hcount, hne⟩

end Adr

end LocationStack.LocApi
