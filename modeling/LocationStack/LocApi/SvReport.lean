import LocationStack.LocApi.Measurements
import LocationStack.LocApi.SvUsed
import Mathlib.Data.Rat.Defs

/-! # Satellite reports

A report of the modem has a list of satellites, of which there are two kinds, and may have the
signal of each and what is lost before it is received in lists beside it.  `reportSv` leaves out
the satellites whose number is not one of their system, so that the others move up, and looks into
the lists beside by the index that a satellite had.

The numbers of the satellites, the frequencies of the carriers and the sizes of the arrays that
are handed over are defined elsewhere, as is what is lost on the frequencies of GLONASS.  The
numbers with a point are rational numbers here, and a mask is the set of its bits.
-/
namespace LocationStack.LocApi

/-! ## Reports -/

/-- `qmiLocSvInfoStructT_v02`, with the bits of `validMask` and of `svInfoMask`. -/
structure QmiSvInfo where
  systemValid : Bool
  gnssSvIdValid : Bool
  svInfoMaskValid : Bool
  elevationValid : Bool
  azimuthValid : Bool
  snrValid : Bool
  system : QmiLocSvSystem
  gnssSvId : UInt16
  hasEphemeris : Bool
  hasAlmanac : Bool
  elevation : ℚ
  azimuth : ℚ
  snr : ℚ

/-- `qmiLocExpandedSvInfoStructT_v02`. -/
structure QmiExpandedSvInfo where
  svInfo : QmiSvInfo
  gloFrequency : UInt8

/-- `qmiLocEventGnssSvInfoIndMsgT_v02`.  An array has elements behind the length that is told,
too. -/
structure GnssSvInfoInd where
  svList_valid : Bool
  svList_len : Nat
  svList : Nat → QmiSvInfo
  expandedSvList_valid : Bool
  expandedSvList_len : Nat
  expandedSvList : Nat → QmiExpandedSvInfo
  gnssSignalTypeList_valid : Bool
  gnssSignalTypeList_len : UInt32
  gnssSignalTypeList : Nat → BitVec 64
  rfLoss_valid : Bool
  rfLoss_len : Nat
  rfLoss : Nat → ℚ

inductive GnssSvType
  | unknown | gps | sbas | glonass | qzss | beidou | galileo | navic
  deriving Repr, DecidableEq

/-- `GnssSv`, with the bits of `gnssSvOptionsMask`. -/
structure GnssSv where
  svId : UInt16
  type : GnssSvType
  cN0Dbhz : ℚ
  elevation : ℚ
  azimuth : ℚ
  hasElevation : Bool
  hasAzimuth : Bool
  hasEphemer : Bool
  hasAlmanac : Bool
  hasGnssSignalType : Bool
  hasCarrierFrequency : Bool
  hasBasebandCarrierToNoise : Bool
  carrierFrequencyHz : ℚ
  gnssSignalTypeMask : Flags GnssSignal
  basebandCarrierToNoiseDbHz : ℚ
  gloFrequency : UInt8

/-- `memset` -/
def GnssSv.zero : GnssSv :=
  ⟨0, .unknown, 0, 0, 0, false, false, false, false, false, false, false, 0, fun _ => false, 0, 0⟩

/-- `GnssSvNotification`; `count` is the length of the list. -/
structure GnssSvNotification where
  gnssSignalTypeMaskValid : Bool
  gnssSvs : List GnssSv

/-- The places of `rfLossNV`. -/
inductive RfLossConf
  | gps | gpsL5 | gloLeft | gloCenter | gloRight | bds | bdsB2a | gal | galE5 | navic | bdsB2b
  deriving Repr, DecidableEq

/-- What is defined elsewhere: the first and the last number of the satellites of each system, the
carrier frequencies, `rfLossNV` from the configuration, `getGloRfLoss` if there is a
`LocApiProxyBase`, and `GNSS_SV_MAX`. -/
structure SvReportContext where
  prn : GnssSvType → UInt16 × UInt16
  carrierFrequency : GnssSignal → ℚ
  rfLossNV : RfLossConf → ℚ
  gloRfLoss : Option (ℚ → ℚ → ℚ → UInt8 → ℚ)
  gnssSvMax : Nat

/-! ## The code -/

/-- The type that a system is reported as. -/
def svTypeOf : QmiLocSvSystem → GnssSvType
  | .gps => .gps
  | .galileo => .galileo
  | .sbas => .sbas
  | .glonass => .glonass
  | .bds | .compass => .beidou
  | .qzss => .qzss
  | .navic => .navic
  | .other => .unknown

/-- `getDefaultGnssSignalTypeMask` -/
def getDefaultGnssSignalTypeMask : QmiLocSvSystem → Flags GnssSignal
  | .gps => fun s => decide (s = .gpsL1ca)
  | .galileo => fun s => decide (s = .galileoE1)
  | .sbas => fun s => decide (s = .sbasL1)
  | .glonass => fun s => decide (s = .glonassG1)
  | .bds | .compass => fun s => decide (s = .beidouB1i)
  | .qzss => fun s => decide (s = .qzssL1ca)
  | .navic | .other => fun _ => false

/-- `isGloSlotUnknown` -/
def isGloSlotUnknown (gnssSvId : UInt16) : Bool := gnssSvId == 255

/-- The only signal of a mask, if it has one. -/
def onlySignal (mask : Flags GnssSignal) : Option GnssSignal :=
  match qmiSignalTable.rows.filter fun row => mask row.1 with
  | [row] => some row.1
  | _ => none

namespace SvReportContext

variable (ctx : SvReportContext)

/-- `isValInRangeInclusive`, with the numbers of a type. -/
def isInRange (type : GnssSvType) (svId : UInt16) : Bool :=
  decide ((ctx.prn type).1 ≤ svId) && decide (svId ≤ (ctx.prn type).2)

/-- Glonass in SV report comes in range of [1, 32] or 255, convert to [65, 96] or 255. -/
def svIdOf (info : QmiSvInfo) : UInt16 :=
  match info.system with
  | .glonass =>
    if isGloSlotUnknown info.gnssSvId then info.gnssSvId
    else info.gnssSvId + (ctx.prn .glonass).1 - 1
  | _ => info.gnssSvId

/-- `bSvIdIsValid` -/
def svIdIsValid (info : QmiSvInfo) : Bool :=
  match info.system with
  | .other => false
  | .glonass => ctx.isInRange .glonass (ctx.svIdOf info) || isGloSlotUnknown (ctx.svIdOf info)
  | system => ctx.isInRange (svTypeOf system) (ctx.svIdOf info)

/-- The satellites that are not left out. -/
def reportable (info : QmiSvInfo) : Bool :=
  info.systemValid && info.gnssSvIdValid && info.gnssSvId != 0 && ctx.svIdIsValid info

/-- `convertSignalTypeToCarrierFrequency`, the frequencies of GLONASS by their numbers. -/
def convertSignalTypeToCarrierFrequency (signalType : BitVec 64) (gloFrequency : UInt8) : ℚ :=
  match qmiSignalTable.rows.find? fun row => row.2 == signalType with
  | none => 0
  | some row =>
    let channel : ℚ := if 1 ≤ gloFrequency ∧ gloFrequency ≤ 14 then gloFrequency.toNat - 8 else 0
    match row.1 with
    | .glonassG1 => ctx.carrierFrequency .glonassG1 + channel * 562500
    | .glonassG2 => ctx.carrierFrequency .glonassG2 + channel * 437500
    | signal => ctx.carrierFrequency signal

/-- `CarrierFrequencies` -/
def carrierFrequencies : GnssSvType → ℚ
  | .unknown => 0
  | .gps => ctx.carrierFrequency .gpsL1c
  | .sbas => ctx.carrierFrequency .sbasL1
  | .glonass => ctx.carrierFrequency .glonassG1
  | .qzss => ctx.carrierFrequency .qzssL1ca
  | .beidou => ctx.carrierFrequency .beidouB1i
  | .galileo => ctx.carrierFrequency .galileoE1
  | .navic => ctx.carrierFrequency .navicL5

/-- What is lost by the configuration, for a mask of one signal. -/
def configuredRfLoss (gnssSignalTypeMask : Flags GnssSignal) (gloFrequency : UInt8) : Option ℚ :=
  match onlySignal gnssSignalTypeMask with
  | some .gpsL1ca | some .gpsL1c | some .qzssL1ca => some (ctx.rfLossNV .gps / 10)
  | some .gpsL5 | some .qzssL5 => some (ctx.rfLossNV .gpsL5 / 10)
  | some .beidouB1i => some (ctx.rfLossNV .bds / 10)
  | some .beidouB2ai => some (ctx.rfLossNV .bdsB2a / 10)
  | some .beidouB2bi => some (ctx.rfLossNV .bdsB2b / 10)
  | some .glonassG1 | some .glonassG2 =>
    match ctx.gloRfLoss with
    | none => none
    | some getGloRfLoss =>
      if 1 ≤ gloFrequency ∧ gloFrequency ≤ 14 then
        some (getGloRfLoss (ctx.rfLossNV .gloLeft) (ctx.rfLossNV .gloCenter)
          (ctx.rfLossNV .gloRight) gloFrequency)
      else none
  | some .galileoE1 => some (ctx.rfLossNV .gal / 10)
  | some .galileoE5a | some .galileoE5b => some (ctx.rfLossNV .galE5 / 10)
  | some .navicL5 | some .navicL1 => some (ctx.rfLossNV .navic / 10)
  | _ => none

end SvReportContext

namespace GnssSvInfoInd

variable (ind : GnssSvInfoInd)

/-- The length of the list that is used. -/
def len : Nat :=
  if ind.expandedSvList_valid then ind.expandedSvList_len
  else if ind.svList_valid then ind.svList_len
  else 0

/-- The room of its array. -/
def maxLen : Nat :=
  if ind.expandedSvList_valid then expandedSvInfoListMaxSize else maxSvUsedListLength

/-- `num_svs_max` -/
def numSvsMax (ctx : SvReportContext) : Nat := min (min ind.maxLen ind.len) ctx.gnssSvMax

/-- `sv_info_ptr` -/
def svInfo (i : Nat) : QmiSvInfo :=
  if ind.expandedSvList_valid then (ind.expandedSvList i).svInfo else ind.svList i

end GnssSvInfoInd

/-- The part of an entry that is taken from the list itself. -/
def ofSvInfo (ctx : SvReportContext) (ind : GnssSvInfoInd) (i : Nat) : GnssSv :=
  let info := ind.svInfo i
  { GnssSv.zero with
    svId := ctx.svIdOf info
    type := svTypeOf info.system
    gloFrequency := if ind.expandedSvList_valid then (ind.expandedSvList i).gloFrequency else 0
    elevation := if info.elevationValid then info.elevation else 0
    hasElevation := info.elevationValid
    azimuth := if info.azimuthValid then info.azimuth else 0
    hasAzimuth := info.azimuthValid
    hasEphemer := info.svInfoMaskValid && info.hasEphemeris
    hasAlmanac := info.svInfoMaskValid && info.hasAlmanac }

namespace GnssSv

/-- The signal of a list. -/
def setListed (ctx : SvReportContext) (signalType : BitVec 64) (gloFrequency : UInt8)
    (sv : GnssSv) : GnssSv :=
  if signalType ≠ 0 then
    { sv with
      carrierFrequencyHz := ctx.convertSignalTypeToCarrierFrequency signalType gloFrequency
      hasCarrierFrequency := true
      gnssSignalTypeMask := convertQmiGnssSignalType signalType }
  else sv

/-- The signal of a system. -/
def setDefault (ctx : SvReportContext) (system : QmiLocSvSystem) (sv : GnssSv) : GnssSv :=
  { sv with
    gnssSignalTypeMask := getDefaultGnssSignalTypeMask system
    hasCarrierFrequency := true
    carrierFrequencyHz := ctx.carrierFrequencies sv.type }

/-- What is received, and what is left of it. -/
def setBaseband (cN0Dbhz rfLoss : ℚ) (sv : GnssSv) : GnssSv :=
  if rfLoss < cN0Dbhz then
    { sv with
      cN0Dbhz := cN0Dbhz
      hasBasebandCarrierToNoise := true
      basebandCarrierToNoiseDbHz := cN0Dbhz - rfLoss }
  else { sv with cN0Dbhz := cN0Dbhz }

end GnssSv

section

variable (ctx : SvReportContext) (ind : GnssSvInfoInd)

/-- The signal of an entry, and `gloFrequency` after it.  The length of the list is unsigned, and
compared with the number of entries before. -/
def setSignal (count i : Nat) (gloFrequency : UInt8) (sv : GnssSv) : GnssSv × UInt8 :=
  let sv : GnssSv := { sv with hasGnssSignalType := true }
  if ind.gnssSignalTypeList_valid then
    if (ind.gnssSignalTypeList_len - 1).toNat < count then (sv, gloFrequency)
    else
      let gloFrequency :=
        if ind.expandedSvList_valid then (ind.expandedSvList i).gloFrequency else gloFrequency
      (sv.setListed ctx (ind.gnssSignalTypeList i) gloFrequency, gloFrequency)
  else (sv.setDefault ctx (ind.svInfo i).system, gloFrequency)

/-- `rfLoss` -/
def rfLossOf (i : Nat) (gloFrequency : UInt8) (sv : GnssSv) : ℚ :=
  if ind.expandedSvList_valid && ind.rfLoss_valid then ind.rfLoss i
  else (ctx.configuredRfLoss sv.gnssSignalTypeMask gloFrequency).getD (ind.rfLoss i)

/-- An entry, and `gloFrequency` after it. -/
def convertSv (count i : Nat) (gloFrequency : UInt8) : GnssSv × UInt8 :=
  let signal := setSignal ctx ind count i gloFrequency (ofSvInfo ctx ind i)
  if (ind.svInfo i).snrValid then
    (signal.1.setBaseband (ind.svInfo i).snr (rfLossOf ctx ind i signal.2 signal.1), signal.2)
  else signal

/-- The variables of the loop. -/
structure SvLoop where
  gloFrequency : UInt8
  gnssSvs : List GnssSv

/-- The body of the loop. -/
def svStep (s : SvLoop) (i : Nat) : SvLoop :=
  if ctx.reportable (ind.svInfo i) then
    let sv := convertSv ctx ind s.gnssSvs.length i s.gloFrequency
    ⟨sv.2, s.gnssSvs ++ [sv.1]⟩
  else s

/-- `reportSv`, what it hands over. -/
def reportSv : GnssSvNotification where
  gnssSignalTypeMaskValid := ind.gnssSignalTypeList_valid
  gnssSvs := ((List.range (ind.numSvsMax ctx)).foldl (svStep ctx ind) ⟨0, []⟩).gnssSvs

end

/-! ## What a report should have -/

namespace GnssSvInfoInd

variable (ind : GnssSvInfoInd)

/-- The signal of the same index, if there is a list and it is long enough. -/
def signalAt (i : Nat) : Option (BitVec 64) :=
  if ind.gnssSignalTypeList_valid ∧ i < ind.gnssSignalTypeList_len.toNat then
    some (ind.gnssSignalTypeList i)
  else none

/-- What is lost, of the same index, if there is a list and it is long enough. -/
def rfLossAt (i : Nat) : Option ℚ :=
  if ind.rfLoss_valid ∧ i < ind.rfLoss_len then some (ind.rfLoss i) else none

/-- The number of the frequency, if there are signals that it can be of. -/
def gloFrequencyAt (i : Nat) : UInt8 :=
  if ind.gnssSignalTypeList_valid && ind.expandedSvList_valid then
    (ind.expandedSvList i).gloFrequency
  else 0

end GnssSvInfoInd

section

variable (ctx : SvReportContext) (ind : GnssSvInfoInd)

/-- The signal of the entry, from the list if there is one, else from the system.  Where the list
ends before it, nothing is known of the signal. -/
def ownSignal (i : Nat) (sv : GnssSv) : GnssSv :=
  if ind.gnssSignalTypeList_valid then
    match ind.signalAt i with
    | none => sv
    | some signalType =>
      ({ sv with hasGnssSignalType := true } : GnssSv).setListed ctx signalType
        (ind.gloFrequencyAt i)
  else ({ sv with hasGnssSignalType := true } : GnssSv).setDefault ctx (ind.svInfo i).system

/-- What is lost, from the list of the report or by the configuration. -/
def ownRfLoss (i : Nat) (sv : GnssSv) : Option ℚ :=
  if ind.expandedSvList_valid && ind.rfLoss_valid then ind.rfLossAt i
  else
    match ctx.configuredRfLoss sv.gnssSignalTypeMask (ind.gloFrequencyAt i) with
    | some rfLoss => some rfLoss
    | none => ind.rfLossAt i

/-- The entry of a satellite, from what there is at its own index. -/
def ownSv (i : Nat) : GnssSv :=
  let sv := ownSignal ctx ind i (ofSvInfo ctx ind i)
  if (ind.svInfo i).snrValid then
    match ownRfLoss ctx ind i sv with
    | none => { sv with cN0Dbhz := (ind.svInfo i).snr }
    | some rfLoss => sv.setBaseband (ind.svInfo i).snr rfLoss
  else sv

/-- The satellites of the list, each as it is by itself, and not too many. -/
structure SvReportRight (out : GnssSvNotification) : Prop where
  gnssSvs : out.gnssSvs =
    ((List.range ind.len).filter fun i => ctx.reportable (ind.svInfo i)).map (ownSv ctx ind)
  count : out.gnssSvs.length ≤ ctx.gnssSvMax

/-- An entry that has its place in the lists beside. -/
structure Accompanied (i : Nat) : Prop where
  /-- If there is a list of signals, it is long enough. -/
  signal : ind.gnssSignalTypeList_valid = true → i < ind.gnssSignalTypeList_len.toNat
  /-- If it is not known what is lost, the array has so much that nothing is left. -/
  rfLoss : (ind.svInfo i).snrValid = true →
    ownRfLoss ctx ind i (ownSignal ctx ind i (ofSvInfo ctx ind i)) = none →
      (ind.svInfo i).snr ≤ ind.rfLoss i

end

/-! ## One entry -/

namespace GnssSv

variable (ctx : SvReportContext)

@[simp] theorem setListed_hasGnssSignalType (signalType : BitVec 64) (gloFrequency : UInt8)
    (sv : GnssSv) :
    (sv.setListed ctx signalType gloFrequency).hasGnssSignalType = sv.hasGnssSignalType := by
  unfold setListed
  split <;> rfl

@[simp] theorem setDefault_hasGnssSignalType (system : QmiLocSvSystem) (sv : GnssSv) :
    (sv.setDefault ctx system).hasGnssSignalType = sv.hasGnssSignalType := rfl

@[simp] theorem setBaseband_hasGnssSignalType (cN0Dbhz rfLoss : ℚ) (sv : GnssSv) :
    (sv.setBaseband cN0Dbhz rfLoss).hasGnssSignalType = sv.hasGnssSignalType := by
  unfold setBaseband
  split <;> rfl

/-- Nothing is left exactly if as much is lost as is received. -/
theorem setBaseband_eq_iff {cN0Dbhz rfLoss : ℚ} {sv : GnssSv}
    (h : sv.hasBasebandCarrierToNoise = false) :
    sv.setBaseband cN0Dbhz rfLoss = { sv with cN0Dbhz := cN0Dbhz } ↔ cN0Dbhz ≤ rfLoss := by
  unfold setBaseband
  split
  next hlt =>
    refine ⟨fun heq => ?_, fun hle => absurd hlt (Rat.not_lt.mpr hle)⟩
    have hbit := congrArg GnssSv.hasBasebandCarrierToNoise heq
    exact absurd (hbit.trans h) (Ne.symm Bool.false_ne_true)
  next hle => exact ⟨fun _ => Rat.not_lt.mp hle, fun _ => rfl⟩

end GnssSv

section

variable {ctx : SvReportContext} {ind : GnssSvInfoInd}

/-- The bit of the signal is always set. -/
theorem convertSv_hasGnssSignalType (count i : Nat) (gloFrequency : UInt8) :
    (convertSv ctx ind count i gloFrequency).1.hasGnssSignalType = true := by
  have hsignal : (setSignal ctx ind count i gloFrequency (ofSvInfo ctx ind i)).1.hasGnssSignalType =
      true := by
    unfold setSignal
    split
    next =>
      split
      next => rfl
      next => rw [GnssSv.setListed_hasGnssSignalType]
    next => rw [GnssSv.setDefault_hasGnssSignalType]
  unfold convertSv
  split
  next => rw [GnssSv.setBaseband_hasGnssSignalType, hsignal]
  next => exact hsignal

/-- Where the list of signals ends before an entry, the entry should not have the bit. -/
theorem ownSv_hasGnssSignalType {i : Nat} (hvalid : ind.gnssSignalTypeList_valid = true)
    (hend : ind.gnssSignalTypeList_len.toNat ≤ i) :
    (ownSv ctx ind i).hasGnssSignalType = false := by
  have hnone : ind.signalAt i = none := if_neg fun h => Nat.not_lt_of_le hend h.2
  have hsignal : ownSignal ctx ind i (ofSvInfo ctx ind i) = ofSvInfo ctx ind i := by
    rw [ownSignal, if_pos hvalid, hnone]
  unfold ownSv
  rw [hsignal]
  dsimp only
  split
  next =>
    split
    next => rfl
    next => rw [GnssSv.setBaseband_hasGnssSignalType]; rfl
  next => rfl

/-- What the loop keeps: there are not more entries than it has seen, and the number of a frequency
is only taken where there are signals. -/
structure SvLoop.Kept (ind : GnssSvInfoInd) (s : SvLoop) (i : Nat) : Prop where
  count : s.gnssSvs.length ≤ i
  gloFrequency : (ind.gnssSignalTypeList_valid && ind.expandedSvList_valid) = false →
    s.gloFrequency = 0

theorem setSignal_gloFrequency
    (h : (ind.gnssSignalTypeList_valid && ind.expandedSvList_valid) = false) (count i : Nat)
    (gloFrequency : UInt8) (sv : GnssSv) :
    (setSignal ctx ind count i gloFrequency sv).2 = gloFrequency := by
  unfold setSignal
  split
  next hvalid =>
    have hexpanded : ind.expandedSvList_valid = false := by rwa [hvalid, Bool.true_and] at h
    split
    next => rfl
    next => rw [hexpanded]; rfl
  next => rfl

theorem SvLoop.Kept.step {s : SvLoop} {i : Nat} (h : s.Kept ind i) :
    (svStep ctx ind s i).Kept ind (i + 1) := by
  unfold svStep
  split
  next hreportable =>
    refine ⟨?_, fun hfalse => ?_⟩
    · rw [List.length_append, List.length_singleton]
      exact Nat.succ_le_succ h.count
    · have hsame : (convertSv ctx ind s.gnssSvs.length i s.gloFrequency).2 = s.gloFrequency := by
        unfold convertSv
        split <;> exact setSignal_gloFrequency hfalse _ _ _ _
      exact hsame.trans (h.gloFrequency hfalse)
  next => exact ⟨Nat.le_succ_of_le h.count, h.gloFrequency⟩

/-- An entry that the list of signals has a place for gets its own signal. -/
theorem setSignal_eq {s : SvLoop} {i : Nat} (h : s.Kept ind i)
    (hsignal : ind.gnssSignalTypeList_valid = true → i < ind.gnssSignalTypeList_len.toNat)
    (sv : GnssSv) :
    setSignal ctx ind s.gnssSvs.length i s.gloFrequency sv =
      (ownSignal ctx ind i sv, ind.gloFrequencyAt i) := by
  unfold setSignal ownSignal GnssSvInfoInd.gloFrequencyAt
  by_cases hvalid : ind.gnssSignalTypeList_valid = true
  · have hlt := hsignal hvalid
    have hguard : ¬(ind.gnssSignalTypeList_len - 1).toNat < s.gnssSvs.length := by
      have hone : (1 : UInt32) ≤ ind.gnssSignalTypeList_len := by
        rw [UInt32.le_iff_toNat_le]
        exact Nat.lt_of_le_of_lt (Nat.zero_le i) hlt
      have hcount := h.count
      rw [UInt32.toNat_sub_of_le _ _ hone, UInt32.toNat_one]
      omega
    have hat : ind.signalAt i = some (ind.gnssSignalTypeList i) := if_pos ⟨hvalid, hlt⟩
    rw [if_pos hvalid, if_neg hguard, if_pos hvalid, hat, hvalid, Bool.true_and]
    by_cases hexpanded : ind.expandedSvList_valid = true
    · rw [if_pos hexpanded, if_pos hexpanded]
    · have hfalse : (ind.gnssSignalTypeList_valid && ind.expandedSvList_valid) = false := by
        rw [Bool.eq_false_iff.mpr hexpanded, Bool.and_false]
      have hzero := h.gloFrequency hfalse
      rw [if_neg hexpanded, if_neg hexpanded, hzero]
  · have hfalse : (ind.gnssSignalTypeList_valid && ind.expandedSvList_valid) = false := by
      rw [Bool.eq_false_iff.mpr hvalid, Bool.false_and]
    rw [if_neg hvalid, if_neg hvalid, h.gloFrequency hfalse, if_neg (Bool.eq_false_iff.mp hfalse)]

theorem ownSignal_hasBaseband (i : Nat) :
    (ownSignal ctx ind i (ofSvInfo ctx ind i)).hasBasebandCarrierToNoise = false := by
  unfold ownSignal
  split
  next =>
    split
    next => rfl
    next =>
      unfold GnssSv.setListed
      split <;> rfl
  next => rfl

/-- What the code takes for lost is what is known of it, or else what the array has. -/
theorem rfLossOf_eq (i : Nat) (sv : GnssSv) :
    rfLossOf ctx ind i (ind.gloFrequencyAt i) sv = (ownRfLoss ctx ind i sv).getD (ind.rfLoss i) := by
  have hat : (ind.rfLossAt i).getD (ind.rfLoss i) = ind.rfLoss i := by
    unfold GnssSvInfoInd.rfLossAt
    split <;> rfl
  unfold rfLossOf ownRfLoss
  split
  next => exact hat.symm
  next =>
    cases ctx.configuredRfLoss sv.gnssSignalTypeMask (ind.gloFrequencyAt i) with
    | none => exact hat.symm
    | some rfLoss => rfl

/-- **One entry** is what it should be if and only if it has its place in the lists beside. -/
theorem convertSv_eq_ownSv_iff {s : SvLoop} {i : Nat} (h : s.Kept ind i) :
    (convertSv ctx ind s.gnssSvs.length i s.gloFrequency).1 = ownSv ctx ind i ↔
      Accompanied ctx ind i := by
  by_cases hsignal : ind.gnssSignalTypeList_valid = true → i < ind.gnssSignalTypeList_len.toNat
  · have heq := @setSignal_eq ctx ind _ _ h hsignal (ofSvInfo ctx ind i)
    unfold convertSv ownSv
    rw [heq]
    dsimp only
    by_cases hsnr : (ind.svInfo i).snrValid = true
    · rw [if_pos hsnr, if_pos hsnr, rfLossOf_eq]
      cases hown : ownRfLoss ctx ind i (ownSignal ctx ind i (ofSvInfo ctx ind i)) with
      | none =>
        rw [Option.getD_none, GnssSv.setBaseband_eq_iff (ownSignal_hasBaseband i)]
        exact ⟨fun hle => ⟨hsignal, fun _ _ => hle⟩, fun hacc => hacc.rfLoss hsnr hown⟩
      | some rfLoss =>
        rw [Option.getD_some]
        exact ⟨fun _ => ⟨hsignal, fun _ hnone => absurd (hown.symm.trans hnone) nofun⟩,
          fun _ => rfl⟩
    · rw [if_neg hsnr, if_neg hsnr]
      exact ⟨fun _ => ⟨hsignal, fun htrue => absurd htrue hsnr⟩, fun _ => rfl⟩
  · refine ⟨fun heq => ?_, fun hacc => absurd hacc.signal hsignal⟩
    -- The list of signals ends before the entry: the bit of the signal is one too many.
    obtain ⟨hvalid, hend⟩ := Classical.not_imp.mp hsignal
    have hbit := congrArg GnssSv.hasGnssSignalType heq
    rw [convertSv_hasGnssSignalType, ownSv_hasGnssSignalType hvalid (Nat.le_of_not_lt hend)] at hbit
    exact absurd hbit (Ne.symm Bool.false_ne_true)

/-! ## All entries -/

/-- The loop over so many satellites. -/
def svLoop (ctx : SvReportContext) (ind : GnssSvInfoInd) (n : Nat) : SvLoop :=
  (List.range n).foldl (svStep ctx ind) ⟨0, []⟩

theorem svLoop_succ (n : Nat) : svLoop ctx ind (n + 1) = svStep ctx ind (svLoop ctx ind n) n := by
  rw [svLoop, List.range_succ, List.foldl_concat]
  rfl

theorem svLoop_kept (n : Nat) : (svLoop ctx ind n).Kept ind n := by
  induction n with
  | zero => exact ⟨Nat.le_refl 0, fun _ => rfl⟩
  | succ n ih =>
    rw [svLoop_succ]
    exact ih.step

/-- The satellites that are reported, of so many. -/
def reported (ctx : SvReportContext) (ind : GnssSvInfoInd) (n : Nat) : List Nat :=
  (List.range n).filter fun i => ctx.reportable (ind.svInfo i)

theorem reported_succ (n : Nat) :
    reported ctx ind (n + 1) =
      if ctx.reportable (ind.svInfo n) then reported ctx ind n ++ [n]
      else reported ctx ind n := by
  rw [reported, List.range_succ, List.filter_append, List.filter_singleton]
  cases ctx.reportable (ind.svInfo n) with
  | false => exact List.append_nil _
  | true => rfl

/-- The number of entries is the number of satellites that are reported. -/
theorem svLoop_length (n : Nat) :
    (svLoop ctx ind n).gnssSvs.length = (reported ctx ind n).length := by
  induction n with
  | zero => rfl
  | succ n ih =>
    rw [svLoop_succ, svStep, reported_succ]
    split
    next => rw [List.length_append, List.length_append, ih]; rfl
    next => exact ih

/-- The entries are what they should be if and only if each has its place in the lists beside. -/
theorem svLoop_eq_iff (n : Nat) :
    (svLoop ctx ind n).gnssSvs = (reported ctx ind n).map (ownSv ctx ind) ↔
      ∀ i ∈ reported ctx ind n, Accompanied ctx ind i := by
  induction n with
  | zero => exact ⟨nofun, fun _ => rfl⟩
  | succ n ih =>
    rw [svLoop_succ, svStep, reported_succ]
    split
    next =>
      rw [List.map_append, List.map_singleton, List.append_singleton_inj, ih,
        convertSv_eq_ownSv_iff (svLoop_kept n), List.forall_mem_append, List.forall_mem_singleton]
    next => exact ih

/-- More satellites are reported after those before. -/
theorem reported_add (n m : Nat) :
    ∃ rest, reported ctx ind (n + m) = reported ctx ind n ++ rest ∧ ∀ i ∈ rest, n ≤ i := by
  refine ⟨((List.range m).map (n + ·)).filter fun i => ctx.reportable (ind.svInfo i), ?_, ?_⟩
  · rw [reported, List.range_add, List.filter_append]
    rfl
  · intro i hi
    obtain ⟨j, -, rfl⟩ := List.mem_map.mp (List.mem_filter.mp hi).1
    exact Nat.le_add_right n j

theorem mem_reported {n i : Nat} :
    i ∈ reported ctx ind n ↔ i < n ∧ ctx.reportable (ind.svInfo i) = true := by
  rw [reported, List.mem_filter, List.mem_range]

theorem reported_length_le (n : Nat) : (reported ctx ind n).length ≤ n := by
  have hle := List.length_filter_le (fun i => ctx.reportable (ind.svInfo i)) (List.range n)
  rwa [List.length_range] at hle

/-- A loop over a part of the list has all that is reported if nothing is reported behind it. -/
theorem svLoop_part_iff (n m : Nat) :
    (svLoop ctx ind n).gnssSvs = (reported ctx ind (n + m)).map (ownSv ctx ind) ↔
      (∀ i ∈ reported ctx ind (n + m), i < n) ∧
        ∀ i ∈ reported ctx ind (n + m), Accompanied ctx ind i := by
  obtain ⟨rest, hrest, hbehind⟩ := @reported_add ctx ind n m
  constructor
  · intro heq
    have hlength := congrArg List.length heq
    rw [svLoop_length, List.length_map, hrest, List.length_append] at hlength
    obtain rfl : rest = [] := List.eq_nil_of_length_eq_zero (by omega)
    rw [List.append_nil] at hrest
    rw [hrest] at heq ⊢
    exact ⟨fun i hi => (mem_reported.mp hi).1, (svLoop_eq_iff n).mp heq⟩
  · rintro ⟨hpart, haccompanied⟩
    obtain rfl : rest = [] := by
      refine List.eq_nil_iff_forall_not_mem.mpr fun i hi => ?_
      have hlt := hpart i (hrest ▸ List.mem_append_right _ hi)
      exact absurd (hbehind i hi) (Nat.not_le_of_lt hlt)
    rw [List.append_nil] at hrest
    rw [hrest] at haccompanied ⊢
    exact (svLoop_eq_iff n).mpr haccompanied

/-- There are never more entries than there is room for. -/
theorem reportSv_count_le : (reportSv ctx ind).gnssSvs.length ≤ ctx.gnssSvMax := by
  have hle := @reported_length_le ctx ind (ind.numSvsMax ctx)
  rw [← svLoop_length] at hle
  exact Nat.le_trans hle (Nat.min_le_right _ _)

end

/-- What a report needs for its satellites to be told as they are. -/
structure GnssSvInfoInd.Clean (ind : GnssSvInfoInd) (ctx : SvReportContext) : Prop where
  /-- There is room for those that are reported. -/
  room : ∀ i < ind.len, ctx.reportable (ind.svInfo i) = true → i < ctx.gnssSvMax
  /-- Each has its place in the lists beside. -/
  accompanied : ∀ i < ind.len, ctx.reportable (ind.svInfo i) = true → Accompanied ctx ind i

/-- **A satellite report** tells the satellites of the list as each is by itself if and only if
there is room for them and each has its place in the lists beside.  There are never too many.  The
list that is used is not longer than its array. -/
theorem sv_report_right_iff (ctx : SvReportContext) (ind : GnssSvInfoInd)
    (h : ind.len ≤ ind.maxLen) :
    SvReportRight ctx ind (reportSv ctx ind) ↔ ind.Clean ctx := by
  have hmax : ind.numSvsMax ctx = min ind.len ctx.gnssSvMax := by
    rw [GnssSvInfoInd.numSvsMax, Nat.min_eq_right h]
  have hlen : ind.numSvsMax ctx + (ind.len - ind.numSvsMax ctx) = ind.len :=
    Nat.add_sub_cancel' (hmax ▸ Nat.min_le_left _ _)
  have hpart := @svLoop_part_iff ctx ind (ind.numSvsMax ctx)
    (ind.len - ind.numSvsMax ctx)
  rw [hlen] at hpart
  constructor
  · rintro ⟨himage, -⟩
    obtain ⟨hroom, haccompanied⟩ := hpart.mp himage
    refine ⟨fun i hi hreportable => ?_, fun i hi hreportable => ?_⟩
    · have hlt := hroom i (mem_reported.mpr ⟨hi, hreportable⟩)
      exact Nat.lt_of_lt_of_le hlt (hmax ▸ Nat.min_le_right _ _)
    · exact haccompanied i (mem_reported.mpr ⟨hi, hreportable⟩)
  · rintro ⟨hroom, haccompanied⟩
    refine ⟨hpart.mpr ⟨fun i hi => ?_, fun i hi => ?_⟩, reportSv_count_le⟩
    · obtain ⟨hlt, hreportable⟩ := mem_reported.mp hi
      rw [hmax]
      exact Nat.lt_min.mpr ⟨hlt, hroom i hlt hreportable⟩
    · obtain ⟨hlt, hreportable⟩ := mem_reported.mp hi
      exact haccompanied i hlt hreportable

/-! ## One satellite -/

/-- A satellite of GPS, of which nothing else is known. -/
def gpsSv (gnssSvId : UInt16) : QmiSvInfo :=
  ⟨true, true, false, false, false, false, .gps, gnssSvId, false, false, 0, 0, 0⟩

/-- A report of one satellite, with a list of so many signals. -/
def oneSvInd (gnssSignalTypeList_len : UInt32) : GnssSvInfoInd where
  svList_valid := true
  svList_len := 1
  svList := fun _ => gpsSv 1
  expandedSvList_valid := false
  expandedSvList_len := 0
  expandedSvList := fun _ => ⟨gpsSv 0, 0⟩
  gnssSignalTypeList_valid := true
  gnssSignalTypeList_len := gnssSignalTypeList_len
  gnssSignalTypeList := fun _ => 1
  rfLoss_valid := false
  rfLoss_len := 0
  rfLoss := fun _ => 0

/-- One range for all. -/
def sampleSvContext : SvReportContext := ⟨fun _ => (1, 32), fun _ => 0, fun _ => 0, none, 176⟩

/-- Of an empty list of signals the first element is taken. -/
theorem empty_list_read :
    ¬SvReportRight sampleSvContext (oneSvInd 0) (reportSv sampleSvContext (oneSvInd 0)) := by
  rintro ⟨himage, -⟩
  have hbits := congrArg (fun svs : List GnssSv => svs.map GnssSv.hasGnssSignalType) himage
  revert hbits
  decide +kernel

/-- With its signal in the list, the satellite is told as it is. -/
theorem sv_report_right_one :
    SvReportRight sampleSvContext (oneSvInd 1) (reportSv sampleSvContext (oneSvInd 1)) := by
  refine (sv_report_right_iff sampleSvContext (oneSvInd 1) (by decide)).mpr
    ⟨fun i hi _ => ?_, fun i hi _ => ⟨fun _ => hi, fun hsnr => ?_⟩⟩
  · exact Nat.lt_trans hi (by decide)
  · exact absurd hsnr Bool.false_ne_true

end LocationStack.LocApi
