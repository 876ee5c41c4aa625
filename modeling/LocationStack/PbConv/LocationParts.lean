import LocationStack.PbConv.Location

/-! # Parts of a detailed position report

The 64 flags of a report are split over two words of the message; the flags of the body frame, two
masks of the structure, share one.  The decoder of the calibration status sets, for the upper
levels, the bits of the message in the structure.  The system time is a union whose member is that
of the constellation.
-/
namespace LocationStack
namespace PbConv

/-! ## Flags -/

inductive GnssLocationInfoFlag
  | altitudeMeanSeaLevel | dop | magneticDeviation | horReliability | verReliability
  | horAccuracyElipSemiMajor | horAccuracyElipSemiMinor | horAccuracyElipAzimuth | gnssSvUsedData
  | navSolutionMask | posDynamicsData | extDop | northStdDev | eastStdDev | northVel | eastVel
  | upVel | northVelUnc | eastVelUnc | upVelUnc | leapSeconds | numSvUsedInPosition
  | calibrationConfidence | calibrationStatus | outputEngType | outputEngMask | conformityIndex
  | llaVrpBased | enuVelocityVrpBased | drSolutionStatusMask | altitudeAssumed | sessionStatus
  | integrityRiskUsed | protectAlongTrack | protectCrossTrack | protectVertical | dgnssStationId
  | baseLineLength | ageOfCorrection | leapSecondsUnc | reportInterval | extendedData
  deriving Repr, DecidableEq

/-- The bits of `flags`. -/
def gnssLocationInfoFlags : FlagTable GnssLocationInfoFlag 32 where
  rows := [(.altitudeMeanSeaLevel, 1), (.dop, 2), (.magneticDeviation, 8), (.horReliability, 0x10),
    (.verReliability, 0x20), (.horAccuracyElipSemiMajor, 0x40), (.horAccuracyElipSemiMinor, 0x80),
    (.horAccuracyElipAzimuth, 0x100), (.gnssSvUsedData, 0x200), (.navSolutionMask, 0x400),
    (.posDynamicsData, 0x800), (.extDop, 4), (.northStdDev, 0x1000), (.eastStdDev, 0x2000),
    (.northVel, 0x4000), (.eastVel, 0x8000), (.upVel, 0x10000), (.northVelUnc, 0x20000),
    (.eastVelUnc, 0x40000), (.upVelUnc, 0x80000), (.leapSeconds, 0x100000),
    (.numSvUsedInPosition, 0x400000), (.calibrationConfidence, 0x800000),
    (.calibrationStatus, 0x1000000), (.outputEngType, 0x2000000), (.outputEngMask, 0x4000000),
    (.conformityIndex, 0x8000000), (.llaVrpBased, 0x10000000), (.enuVelocityVrpBased, 0x20000000),
    (.drSolutionStatusMask, 0x40000000)]
  nonzero := by decide
  disjoint := by decide

/-- The bits of `extFlags`. -/
def gnssLocationInfoExtFlags : FlagTable GnssLocationInfoFlag 32 where
  rows := [(.altitudeAssumed, 1), (.sessionStatus, 2), (.integrityRiskUsed, 4),
    (.protectAlongTrack, 8), (.protectCrossTrack, 0x10), (.protectVertical, 0x20),
    (.dgnssStationId, 0x40), (.baseLineLength, 0x80), (.ageOfCorrection, 0x100),
    (.leapSecondsUnc, 0x200), (.reportInterval, 0x400), (.extendedData, 0x800)]
  nonzero := by decide
  disjoint := by decide

def getPBMaskForGnssLocationInfoFlagMask : Flags GnssLocationInfoFlag → BitVec 32 :=
  gnssLocationInfoFlags.write

def getPBMaskForGnssLocationInfoExtFlagMask : Flags GnssLocationInfoFlag → BitVec 32 :=
  gnssLocationInfoExtFlags.write

def getGnssLocationInfoFlagMaskFromPB (pbFlags pbExtFlags : BitVec 32) :
    Flags GnssLocationInfoFlag :=
  fun f => gnssLocationInfoFlags.read pbFlags f || gnssLocationInfoExtFlags.read pbExtFlags f

/-- The two words give the flags again: each flag has its bit in one of them. -/
@[simp] theorem getGnssLocationInfoFlagMaskFromPB_getPBMasks (m : Flags GnssLocationInfoFlag) :
    getGnssLocationInfoFlagMaskFromPB (getPBMaskForGnssLocationInfoFlagMask m)
      (getPBMaskForGnssLocationInfoExtFlagMask m) = m := by
  funext f
  have hrow : (gnssLocationInfoFlags.rows.any (fun r => decide (r.1 = f)) ||
      gnssLocationInfoExtFlags.rows.any fun r => decide (r.1 = f)) = true := by
    cases f <;> decide
  rw [getGnssLocationInfoFlagMaskFromPB, getPBMaskForGnssLocationInfoFlagMask,
    getPBMaskForGnssLocationInfoExtFlagMask, FlagTable.read, FlagTable.read,
    FlagTable.readRows_write (fun r hr => hr), FlagTable.readRows_write (fun r hr => hr),
    ← Bool.and_or_distrib_left, hrow, Bool.and_true]

inductive GnssLocationNavSolutionFlag
  | sbasCorrectionIono | sbasCorrectionFast | sbasCorrectionLong | sbasIntegrity
  | navCorrectionDgnss | navCorrectionRtk | navCorrectionPpp | navCorrectionRtkFixed
  | navCorrectionOnlySbasCorrectedSvUsed | navMmfAidedPosition
  deriving Repr, DecidableEq

def gnssLocationNavSolutionFlags : FlagTable GnssLocationNavSolutionFlag 32 where
  rows := [(.sbasCorrectionIono, 1), (.sbasCorrectionFast, 2), (.sbasCorrectionLong, 4),
    (.sbasIntegrity, 8), (.navCorrectionDgnss, 0x10), (.navCorrectionRtk, 0x20),
    (.navCorrectionPpp, 0x40), (.navCorrectionRtkFixed, 0x80),
    (.navCorrectionOnlySbasCorrectedSvUsed, 0x100), (.navMmfAidedPosition, 0x200)]
  nonzero := by decide
  disjoint := by decide

def getPBMaskForGnssLocationNavSolutionMask : Flags GnssLocationNavSolutionFlag → BitVec 32 :=
  gnssLocationNavSolutionFlags.write

def getGnssLocationNavSolutionMaskFromPB : BitVec 32 → Flags GnssLocationNavSolutionFlag :=
  gnssLocationNavSolutionFlags.read

@[simp] theorem getGnssLocationNavSolutionMaskFromPB_getPBMaskForGnssLocationNavSolutionMask
    (m : Flags GnssLocationNavSolutionFlag) :
    getGnssLocationNavSolutionMaskFromPB (getPBMaskForGnssLocationNavSolutionMask m) = m :=
  gnssLocationNavSolutionFlags.read_write (fun f => by cases f <;> decide) m

/-- The message has no bit for the last. -/
inductive PositioningEngineFlag
  | standardPositioning | deadReckoning | precisePositioning | vpPositioning
  deriving Repr, DecidableEq

def positioningEngineFlags : FlagTable PositioningEngineFlag 32 where
  rows := [(.standardPositioning, 1), (.deadReckoning, 2), (.precisePositioning, 4)]
  nonzero := by decide
  disjoint := by decide

def getPBMaskForPositioningEngineMask : Flags PositioningEngineFlag → BitVec 32 :=
  positioningEngineFlags.write

def getEnumForPBPositioningEngineMask : BitVec 32 → Flags PositioningEngineFlag :=
  positioningEngineFlags.read

@[simp] theorem getEnumForPBPositioningEngineMask_getPBMask_iff
    (m : Flags PositioningEngineFlag) :
    getEnumForPBPositioningEngineMask (getPBMaskForPositioningEngineMask m) = m ↔
      m .vpPositioning = false :=
  positioningEngineFlags.read_write_iff_of_lost (by decide)
    (fun f hf => by cases f <;> first | decide | exact absurd rfl hf) m

inductive DrSolutionStatusFlag
  | vehicleSensorSpeedInputDetected | vehicleSensorSpeedInputUsed | dreWarningUncalibrated
  | dreWarningGnssQualityInsufficient | dreWarningFerryDetected | dreError6dofSensorUnavailable
  | dreErrorVehicleSpeedUnavailable | dreErrorGnssEphUnavailable | dreErrorGnssMeasUnavailable
  | dreWarningInitPositionInvalid | dreWarningInitPositionUnreliable | dreWarningPositonUnreliable
  | dreErrorGeneric | dreWarningSensorTempOutOfRange | dreWarningUserDynamicsInsufficient
  | dreWarningFactoryDataInconsistent | dreWarningMmfUnavailable | dreWarningMmfNotUsable
  deriving Repr, DecidableEq

def drSolutionStatusFlags : FlagTable DrSolutionStatusFlag 32 where
  rows := [(.vehicleSensorSpeedInputDetected, 1), (.vehicleSensorSpeedInputUsed, 2),
    (.dreWarningUncalibrated, 4), (.dreWarningGnssQualityInsufficient, 8),
    (.dreWarningFerryDetected, 0x10), (.dreError6dofSensorUnavailable, 0x20),
    (.dreErrorVehicleSpeedUnavailable, 0x40), (.dreErrorGnssEphUnavailable, 0x80),
    (.dreErrorGnssMeasUnavailable, 0x100), (.dreWarningInitPositionInvalid, 0x200),
    (.dreWarningInitPositionUnreliable, 0x400), (.dreWarningPositonUnreliable, 0x800),
    (.dreErrorGeneric, 0x1000), (.dreWarningSensorTempOutOfRange, 0x2000),
    (.dreWarningUserDynamicsInsufficient, 0x4000), (.dreWarningFactoryDataInconsistent, 0x8000),
    (.dreWarningMmfUnavailable, 0x10000), (.dreWarningMmfNotUsable, 0x20000)]
  nonzero := by decide
  disjoint := by decide

def getPBMaskForDrSolutionStatusMask : Flags DrSolutionStatusFlag → BitVec 32 :=
  drSolutionStatusFlags.write

def getDrSolutionStatusMaskFromPB : BitVec 32 → Flags DrSolutionStatusFlag :=
  drSolutionStatusFlags.read

@[simp] theorem getDrSolutionStatusMaskFromPB_getPBMaskForDrSolutionStatusMask
    (m : Flags DrSolutionStatusFlag) :
    getDrSolutionStatusMaskFromPB (getPBMaskForDrSolutionStatusMask m) = m :=
  drSolutionStatusFlags.read_write (fun f => by cases f <;> decide) m

def getPBMaskForDrCalibrationStatusMask : Flags DrCalibrationStatusFlag → BitVec 32 :=
  drCalibrationStatuses.write

/-- The levels that the decoder sets with the number of the message. -/
def setsNumberOfMessage (f : DrCalibrationStatusFlag) : Bool :=
  f ∈ [.turnCalibrationMedium, .turnCalibrationHigh, .linearAccelCalibrationMedium,
    .linearAccelCalibrationHigh, .linearMotionCalibrationMedium, .linearMotionCalibrationHigh,
    .staticCalibrationMedium, .staticCalibrationHigh]

/-- The word that the decoder makes, read with the numbers of the header. -/
def getDrCalibrationStatusMaskFromPB (h : Header) (pbDrCalibStatus : BitVec 32) :
    Flags DrCalibrationStatusFlag :=
  let ofMessage := drCalibrationStatuses.rows.filter fun r => setsNumberOfMessage r.1
  let ofHeader := h.drCalibrationStatuses.rows.filter fun r => !setsNumberOfMessage r.1
  h.drCalibrationStatuses.read
    (FlagTable.writeRows (ofMessage ++ ofHeader) (drCalibrationStatuses.read pbDrCalibStatus))

theorem getDrCalibrationStatusMaskFromPB_getPBMask {h : Header} (hnum : h.SameNumbers)
    (m : Flags DrCalibrationStatusFlag) :
    getDrCalibrationStatusMaskFromPB h (getPBMaskForDrCalibrationStatusMask m) = m := by
  have hread : drCalibrationStatuses.read (getPBMaskForDrCalibrationStatusMask m) = m :=
    drCalibrationStatuses.read_write (fun f => by cases f <;> decide) m
  funext f
  rw [getDrCalibrationStatusMaskFromPB, hnum.drCalibrationStatuses, hread,
    FlagTable.read_writeRows (by decide) (by decide)]
  cases f <;> simp only [Bool.and_eq_left_iff_imp] <;> intro <;> decide

/-! ## Reliability and engines -/

inductive LocationReliability
  | notSet | veryLow | low | medium | high
  deriving Repr, DecidableEq, Inhabited

inductive PBLocationReliability
  | notSet | veryLow | low | medium | high
  | unrecognized (value : BitVec 32)
  deriving Repr, DecidableEq, Inhabited

def getPBEnumForLocationReliability : LocationReliability → PBLocationReliability
  | .notSet => .notSet
  | .veryLow => .veryLow
  | .low => .low
  | .medium => .medium
  | .high => .high

def getEnumForPBLocReliability : PBLocationReliability → LocationReliability
  | .notSet => .notSet
  | .veryLow => .veryLow
  | .low => .low
  | .medium => .medium
  | .high => .high
  | .unrecognized _ => .notSet

@[simp] theorem getEnumForPBLocReliability_getPBEnumForLocationReliability
    (e : LocationReliability) :
    getEnumForPBLocReliability (getPBEnumForLocationReliability e) = e := by
  cases e <;> rfl

/-- The message has no engine `vpe`. -/
inductive LocOutputEngineType
  | fused | spe | ppe | vpe
  deriving Repr, DecidableEq, Inhabited

inductive PBLocApiOutputEngineType
  | fused | spe | ppe
  | unrecognized (value : BitVec 32)
  deriving Repr, DecidableEq, Inhabited

def getPBEnumForLocOutputEngineType : LocOutputEngineType → PBLocApiOutputEngineType
  | .fused => .fused
  | .spe => .spe
  | .ppe => .ppe
  | .vpe => .fused

def getEnumForPBLocOutputEngineType : PBLocApiOutputEngineType → LocOutputEngineType
  | .fused => .fused
  | .spe => .spe
  | .ppe => .ppe
  | .unrecognized _ => .fused

@[simp] theorem getEnumForPBLocOutputEngineType_getPBEnum_iff (e : LocOutputEngineType) :
    getEnumForPBLocOutputEngineType (getPBEnumForLocOutputEngineType e) = e ↔ e ≠ .vpe := by
  cases e <;> decide

/-! ## Parts of a report -/

structure GnssLocationSvUsedInPosition where
  (gpsSvUsedIdsMask gloSvUsedIdsMask galSvUsedIdsMask bdsSvUsedIdsMask qzssSvUsedIdsMask : UInt64)
  navicSvUsedIdsMask : UInt64
  deriving Inhabited

structure PBGnssLocationSvUsedInPosition where
  (gpsSvUsedIdsMask gloSvUsedIdsMask galSvUsedIdsMask bdsSvUsedIdsMask qzssSvUsedIdsMask : UInt64)
  navicSvUsedIdsMask : UInt64
  deriving Inhabited

def convertGnssLocSvUsedInPosToPB (svUsed : GnssLocationSvUsedInPosition) :
    PBGnssLocationSvUsedInPosition where
  gpsSvUsedIdsMask := svUsed.gpsSvUsedIdsMask
  gloSvUsedIdsMask := svUsed.gloSvUsedIdsMask
  galSvUsedIdsMask := svUsed.galSvUsedIdsMask
  bdsSvUsedIdsMask := svUsed.bdsSvUsedIdsMask
  qzssSvUsedIdsMask := svUsed.qzssSvUsedIdsMask
  navicSvUsedIdsMask := svUsed.navicSvUsedIdsMask

def pbConvertToGnssLocationSvUsedInPosition (pb : PBGnssLocationSvUsedInPosition) :
    GnssLocationSvUsedInPosition where
  gpsSvUsedIdsMask := pb.gpsSvUsedIdsMask
  gloSvUsedIdsMask := pb.gloSvUsedIdsMask
  galSvUsedIdsMask := pb.galSvUsedIdsMask
  bdsSvUsedIdsMask := pb.bdsSvUsedIdsMask
  qzssSvUsedIdsMask := pb.qzssSvUsedIdsMask
  navicSvUsedIdsMask := pb.navicSvUsedIdsMask

@[simp] theorem pbConvertToGnssLocationSvUsedInPosition_convertGnssLocSvUsedInPosToPB
    (svUsed : GnssLocationSvUsedInPosition) :
    pbConvertToGnssLocationSvUsedInPosition (convertGnssLocSvUsedInPosToPB svUsed) = svUsed := by
  simp only [pbConvertToGnssLocationSvUsedInPosition, convertGnssLocSvUsedInPosToPB]

structure LLAInfo where
  (latitude longitude : Double)
  altitude : Single
  deriving Inhabited

structure PBLLAInfo where
  (latitude longitude : Double)
  altitude : Single
  deriving Inhabited

def convertLLAInfoToPB (llaInfo : LLAInfo) : PBLLAInfo where
  latitude := llaInfo.latitude
  longitude := llaInfo.longitude
  altitude := llaInfo.altitude

def pbConvertToLLAInfo (pb : PBLLAInfo) : LLAInfo where
  latitude := pb.latitude
  longitude := pb.longitude
  altitude := pb.altitude

@[simp] theorem pbConvertToLLAInfo_convertLLAInfoToPB (llaInfo : LLAInfo) :
    pbConvertToLLAInfo (convertLLAInfoToPB llaInfo) = llaInfo := by
  simp only [pbConvertToLLAInfo, convertLLAInfoToPB]

structure GnssMeasUsageInfo where
  gnssConstellation : GnssLocSvSystemEnumType
  gnssSvId : UInt16
  gnssSignalType : Flags GnssSignalTypeFlag
  deriving Inhabited

structure PBGnssMeasUsageInfo where
  gnssConstellation : PBGnssLocSvSystemEnumType
  gnssSvId : UInt32
  gnssSignalType : BitVec 32
  deriving Inhabited

def convertGnssMeasUsageInfoToPB (usage : GnssMeasUsageInfo) : PBGnssMeasUsageInfo where
  gnssConstellation := getPBEnumForGnssLocSvSystem usage.gnssConstellation
  gnssSvId := usage.gnssSvId.toUInt32
  gnssSignalType := getPBMaskForGnssSignalTypeMask usage.gnssSignalType

def pbConvertToGnssMeasUsageInfo (pb : PBGnssMeasUsageInfo) : GnssMeasUsageInfo where
  gnssConstellation := getEnumForPBGnssLocSvSystem pb.gnssConstellation
  gnssSvId := pb.gnssSvId.toUInt16
  gnssSignalType := getGnssSignalTypeMaskFromPB pb.gnssSignalType

@[simp] theorem pbConvertToGnssMeasUsageInfo_convertGnssMeasUsageInfoToPB
    (usage : GnssMeasUsageInfo) :
    pbConvertToGnssMeasUsageInfo (convertGnssMeasUsageInfoToPB usage) = usage := by
  simp only [pbConvertToGnssMeasUsageInfo, convertGnssMeasUsageInfoToPB,
    getEnumForPBGnssLocSvSystem_getPBEnum, UInt16.toUInt16_toUInt32,
    getGnssSignalTypeMaskFromPB_getPBMaskForGnssSignalTypeMask]

/-! ## Body frame -/

inductive GnssLocationPosDataFlag
  | longAccel | latAccel | vertAccel | yawRate | pitch | longAccelUnc | latAccelUnc | vertAccelUnc
  | yawRateUnc | pitchUnc
  deriving Repr, DecidableEq

inductive GnssLocationPosDataExtFlag
  | pitchRate | pitchRateUnc | roll | rollUnc | rollRate | rollRateUnc | yaw | yawUnc
  deriving Repr, DecidableEq

/-- The two masks share the word of the message. -/
def gnssLocationPosDataFlags :
    FlagTable (GnssLocationPosDataFlag ⊕ GnssLocationPosDataExtFlag) 32 where
  rows := [(.inl .longAccel, 1), (.inl .latAccel, 2), (.inl .vertAccel, 4), (.inl .yawRate, 8),
    (.inl .pitch, 0x80), (.inl .longAccelUnc, 0x800), (.inl .latAccelUnc, 0x1000),
    (.inl .vertAccelUnc, 0x2000), (.inl .yawRateUnc, 0x10), (.inl .pitchUnc, 0x100),
    (.inr .pitchRate, 0x200), (.inr .pitchRateUnc, 0x400), (.inr .roll, 0x4000),
    (.inr .rollUnc, 0x8000), (.inr .rollRate, 0x10000), (.inr .rollRateUnc, 0x20000),
    (.inr .yaw, 0x20), (.inr .yawUnc, 0x40)]
  nonzero := by decide
  disjoint := by decide

def getPBMaskForGnssLocationPosDataMask (m : Flags GnssLocationPosDataFlag)
    (mExt : Flags GnssLocationPosDataExtFlag) : BitVec 32 :=
  gnssLocationPosDataFlags.write (Sum.elim m mExt)

def getGnssLocationPosDataMaskFromPB (pbMask : BitVec 32) : Flags GnssLocationPosDataFlag :=
  fun f => gnssLocationPosDataFlags.read pbMask (.inl f)

def getGnssLocationPosDataMaskExtFromPB (pbMask : BitVec 32) : Flags GnssLocationPosDataExtFlag :=
  fun f => gnssLocationPosDataFlags.read pbMask (.inr f)

theorem gnssLocationPosDataFlags_read_write (m : Flags GnssLocationPosDataFlag)
    (mExt : Flags GnssLocationPosDataExtFlag) :
    gnssLocationPosDataFlags.read (getPBMaskForGnssLocationPosDataMask m mExt) =
      Sum.elim m mExt :=
  gnssLocationPosDataFlags.read_write (fun f => by rcases f with f | f <;> cases f <;> decide) _

structure GnssLocationPositionDynamics where
  bodyFrameDataMask : Flags GnssLocationPosDataFlag
  (longAccel latAccel vertAccel longAccelUnc latAccelUnc vertAccelUnc pitch pitchUnc yawRate
    yawRateUnc : Single)
  deriving Inhabited

structure GnssLocationPositionDynamicsExt where
  bodyFrameDataMask : Flags GnssLocationPosDataExtFlag
  (pitchRate pitchRateUnc roll rollUnc rollRate rollRateUnc yaw yawUnc : Single)
  deriving Inhabited

structure PBLocApiGnssLocationPositionDynamics where
  bodyFrameDataMask : BitVec 32
  (longAccel latAccel vertAccel longAccelUnc latAccelUnc vertAccelUnc pitch pitchUnc pitchRate
    pitchRateUnc roll rollUnc rollRate rollRateUnc yaw yawUnc yawRate yawRateUnc : Single)
  deriving Inhabited

def convertGnssLocationPositionDynamicsToPB (dyn : GnssLocationPositionDynamics)
    (dynExt : GnssLocationPositionDynamicsExt) : PBLocApiGnssLocationPositionDynamics where
  bodyFrameDataMask :=
    getPBMaskForGnssLocationPosDataMask dyn.bodyFrameDataMask dynExt.bodyFrameDataMask
  longAccel := dyn.longAccel
  latAccel := dyn.latAccel
  vertAccel := dyn.vertAccel
  longAccelUnc := dyn.longAccelUnc
  latAccelUnc := dyn.latAccelUnc
  vertAccelUnc := dyn.vertAccelUnc
  pitch := dyn.pitch
  pitchUnc := dyn.pitchUnc
  pitchRate := dynExt.pitchRate
  pitchRateUnc := dynExt.pitchRateUnc
  roll := dynExt.roll
  rollUnc := dynExt.rollUnc
  rollRate := dynExt.rollRate
  rollRateUnc := dynExt.rollRateUnc
  yaw := dynExt.yaw
  yawUnc := dynExt.yawUnc
  yawRate := dyn.yawRate
  yawRateUnc := dyn.yawRateUnc

def pbConvertToGnssLocationPositionDynamics (pb : PBLocApiGnssLocationPositionDynamics) :
    GnssLocationPositionDynamics × GnssLocationPositionDynamicsExt :=
  ({ bodyFrameDataMask := getGnssLocationPosDataMaskFromPB pb.bodyFrameDataMask
     longAccel := pb.longAccel
     latAccel := pb.latAccel
     vertAccel := pb.vertAccel
     longAccelUnc := pb.longAccelUnc
     latAccelUnc := pb.latAccelUnc
     vertAccelUnc := pb.vertAccelUnc
     pitch := pb.pitch
     pitchUnc := pb.pitchUnc
     yawRate := pb.yawRate
     yawRateUnc := pb.yawRateUnc },
   { bodyFrameDataMask := getGnssLocationPosDataMaskExtFromPB pb.bodyFrameDataMask
     pitchRate := pb.pitchRate
     pitchRateUnc := pb.pitchRateUnc
     roll := pb.roll
     rollUnc := pb.rollUnc
     rollRate := pb.rollRate
     rollRateUnc := pb.rollRateUnc
     yaw := pb.yaw
     yawUnc := pb.yawUnc })

@[simp] theorem getGnssLocationPosDataMaskFromPB_getPBMask (m : Flags GnssLocationPosDataFlag)
    (mExt : Flags GnssLocationPosDataExtFlag) :
    getGnssLocationPosDataMaskFromPB (getPBMaskForGnssLocationPosDataMask m mExt) = m :=
  funext fun f => congrFun (gnssLocationPosDataFlags_read_write m mExt) (.inl f)

@[simp] theorem getGnssLocationPosDataMaskExtFromPB_getPBMask (m : Flags GnssLocationPosDataFlag)
    (mExt : Flags GnssLocationPosDataExtFlag) :
    getGnssLocationPosDataMaskExtFromPB (getPBMaskForGnssLocationPosDataMask m mExt) = mExt :=
  funext fun f => congrFun (gnssLocationPosDataFlags_read_write m mExt) (.inr f)

@[simp] theorem pbConvertToGnssLocationPositionDynamics_convertToPB
    (dyn : GnssLocationPositionDynamics) (dynExt : GnssLocationPositionDynamicsExt) :
    pbConvertToGnssLocationPositionDynamics (convertGnssLocationPositionDynamicsToPB dyn dynExt) =
      (dyn, dynExt) := by
  simp only [pbConvertToGnssLocationPositionDynamics, convertGnssLocationPositionDynamicsToPB,
    getGnssLocationPosDataMaskFromPB_getPBMask, getGnssLocationPosDataMaskExtFromPB_getPBMask]

/-! ## System time -/

inductive GnssGloTimeStructTypeFlag
  | cloDaysValid | gloMsecValid | gloClkTimeBiasValid | gloClkTimeBiasUncValid | gloRefFcountValid
  | gloNumClockResetsValid | gloFourYearValid
  deriving Repr, DecidableEq

def gnssGloTimeStructTypeFlags : FlagTable GnssGloTimeStructTypeFlag 32 where
  rows := [(.cloDaysValid, 2), (.gloMsecValid, 4), (.gloClkTimeBiasValid, 8),
    (.gloClkTimeBiasUncValid, 0x10), (.gloRefFcountValid, 0x20), (.gloNumClockResetsValid, 0x40),
    (.gloFourYearValid, 1)]
  nonzero := by decide
  disjoint := by decide

def getPBMaskForGnssGloTimeStructTypeFlags : Flags GnssGloTimeStructTypeFlag → BitVec 32 :=
  gnssGloTimeStructTypeFlags.write

def getGnssGloTimeStructTypeFlagsFromPB : BitVec 32 → Flags GnssGloTimeStructTypeFlag :=
  gnssGloTimeStructTypeFlags.read

@[simp] theorem getGnssGloTimeStructTypeFlagsFromPB_getPBMaskForGnssGloTimeStructTypeFlags
    (m : Flags GnssGloTimeStructTypeFlag) :
    getGnssGloTimeStructTypeFlagsFromPB (getPBMaskForGnssGloTimeStructTypeFlags m) = m :=
  gnssGloTimeStructTypeFlags.read_write (fun f => by cases f <;> decide) m

structure GnssGloTimeStructType where
  validityMask : Flags GnssGloTimeStructTypeFlag
  gloFourYear : UInt8
  gloDays : UInt16
  gloMsec : UInt32
  (gloClkTimeBias gloClkTimeUncMs : Single)
  (refFCount numClockResets : UInt32)
  deriving Inhabited

structure PBLocApiGnssGloTimeStructType where
  validityMask : BitVec 32
  (gloFourYear gloDays gloMsec : UInt32)
  (gloClkTimeBias gloClkTimeUncMs : Single)
  (refFCount numClockResets : UInt32)
  deriving Inhabited

def convertGnssGloTimeStructTypeToPB (t : GnssGloTimeStructType) :
    PBLocApiGnssGloTimeStructType where
  validityMask := getPBMaskForGnssGloTimeStructTypeFlags t.validityMask
  gloFourYear := t.gloFourYear.toUInt32
  gloDays := t.gloDays.toUInt32
  gloMsec := t.gloMsec
  gloClkTimeBias := t.gloClkTimeBias
  gloClkTimeUncMs := t.gloClkTimeUncMs
  refFCount := t.refFCount
  numClockResets := t.numClockResets

def pbConvertToGnssGloTimeStructType (pb : PBLocApiGnssGloTimeStructType) :
    GnssGloTimeStructType where
  validityMask := getGnssGloTimeStructTypeFlagsFromPB pb.validityMask
  gloFourYear := pb.gloFourYear.toUInt8
  gloDays := pb.gloDays.toUInt16
  gloMsec := pb.gloMsec
  gloClkTimeBias := pb.gloClkTimeBias
  gloClkTimeUncMs := pb.gloClkTimeUncMs
  refFCount := pb.refFCount
  numClockResets := pb.numClockResets

@[simp] theorem pbConvertToGnssGloTimeStructType_convertGnssGloTimeStructTypeToPB
    (t : GnssGloTimeStructType) :
    pbConvertToGnssGloTimeStructType (convertGnssGloTimeStructTypeToPB t) = t := by
  simp only [pbConvertToGnssGloTimeStructType, convertGnssGloTimeStructTypeToPB,
    getGnssGloTimeStructTypeFlagsFromPB_getPBMaskForGnssGloTimeStructTypeFlags,
    UInt8.toUInt8_toUInt32, UInt16.toUInt16_toUInt32]

/-- A union; its member is that of the constellation.  The members are kept apart here, since no
other is read. -/
structure SystemTimeStructUnion where
  gpsSystemTime : GnssSystemTimeStructType
  galSystemTime : GnssSystemTimeStructType
  bdsSystemTime : GnssSystemTimeStructType
  qzssSystemTime : GnssSystemTimeStructType
  gloSystemTime : GnssGloTimeStructType
  navicSystemTime : GnssSystemTimeStructType
  deriving Inhabited

inductive PBLocApiSystemTimeStructUnion
  | notSet
  | gpsSystemTime (t : PBGnssSystemTimeStructType)
  | galSystemTime (t : PBGnssSystemTimeStructType)
  | bdsSystemTime (t : PBGnssSystemTimeStructType)
  | qzssSystemTime (t : PBGnssSystemTimeStructType)
  | gloSystemTime (t : PBLocApiGnssGloTimeStructType)
  | navicSystemTime (t : PBGnssSystemTimeStructType)
  deriving Inhabited

namespace PBLocApiSystemTimeStructUnion

/-! A member that is not set reads as an empty message. -/

def getGpsSystemTime : PBLocApiSystemTimeStructUnion → PBGnssSystemTimeStructType
  | gpsSystemTime t => t
  | _ => default

def getGalSystemTime : PBLocApiSystemTimeStructUnion → PBGnssSystemTimeStructType
  | galSystemTime t => t
  | _ => default

def getBdsSystemTime : PBLocApiSystemTimeStructUnion → PBGnssSystemTimeStructType
  | bdsSystemTime t => t
  | _ => default

def getQzssSystemTime : PBLocApiSystemTimeStructUnion → PBGnssSystemTimeStructType
  | qzssSystemTime t => t
  | _ => default

def getGloSystemTime : PBLocApiSystemTimeStructUnion → PBLocApiGnssGloTimeStructType
  | gloSystemTime t => t
  | _ => default

def getNavicSystemTime : PBLocApiSystemTimeStructUnion → PBGnssSystemTimeStructType
  | navicSystemTime t => t
  | _ => default

end PBLocApiSystemTimeStructUnion

structure GnssSystemTime where
  gnssSystemTimeSrc : GnssLocSvSystemEnumType
  u : SystemTimeStructUnion
  deriving Inhabited

structure PBLocApiGnssSystemTime where
  gnssSystemTimeSrc : PBGnssLocSvSystemEnumType
  u : PBLocApiSystemTimeStructUnion
  deriving Inhabited

def convertSystemTimeStructUnionToPB (c : GnssLocSvSystemEnumType) (u : SystemTimeStructUnion) :
    PBLocApiSystemTimeStructUnion :=
  match c with
  | .gps => .gpsSystemTime (convertGnssSystemTimeStructTypeToPB u.gpsSystemTime)
  | .galileo => .galSystemTime (convertGnssSystemTimeStructTypeToPB u.galSystemTime)
  | .bds => .bdsSystemTime (convertGnssSystemTimeStructTypeToPB u.bdsSystemTime)
  | .qzss => .qzssSystemTime (convertGnssSystemTimeStructTypeToPB u.qzssSystemTime)
  | .glonass => .gloSystemTime (convertGnssGloTimeStructTypeToPB u.gloSystemTime)
  | .navic => .navicSystemTime (convertGnssSystemTimeStructTypeToPB u.navicSystemTime)
  | .unknown | .sbas => .notSet

def pbConvertToSystemTimeStructUnion (c : GnssLocSvSystemEnumType)
    (pb : PBLocApiSystemTimeStructUnion) (u : SystemTimeStructUnion) : SystemTimeStructUnion :=
  match c with
  | .gps => { u with gpsSystemTime := pbConvertToSystemTime pb.getGpsSystemTime }
  | .galileo => { u with galSystemTime := pbConvertToSystemTime pb.getGalSystemTime }
  | .bds => { u with bdsSystemTime := pbConvertToSystemTime pb.getBdsSystemTime }
  | .qzss => { u with qzssSystemTime := pbConvertToSystemTime pb.getQzssSystemTime }
  | .glonass => { u with gloSystemTime := pbConvertToGnssGloTimeStructType pb.getGloSystemTime }
  | .navic => { u with navicSystemTime := pbConvertToSystemTime pb.getNavicSystemTime }
  | .unknown | .sbas => u

def convertGnssSystemTimeToPB (t : GnssSystemTime) : PBLocApiGnssSystemTime where
  gnssSystemTimeSrc := getPBEnumForGnssLocSvSystem t.gnssSystemTimeSrc
  u := convertSystemTimeStructUnionToPB t.gnssSystemTimeSrc t.u

def pbConvertToGnssSystemTime (pb : PBLocApiGnssSystemTime) (t : GnssSystemTime) : GnssSystemTime :=
  let gnssSystemTimeSrc := getEnumForPBGnssLocSvSystem pb.gnssSystemTimeSrc
  { gnssSystemTimeSrc, u := pbConvertToSystemTimeStructUnion gnssSystemTimeSrc pb.u t.u }

/-- The same time of the same constellation. -/
structure GnssSystemTime.Same (t t' : GnssSystemTime) : Prop where
  gnssSystemTimeSrc : t'.gnssSystemTimeSrc = t.gnssSystemTimeSrc
  u :
    match t.gnssSystemTimeSrc with
    | .gps => t'.u.gpsSystemTime = t.u.gpsSystemTime
    | .galileo => t'.u.galSystemTime = t.u.galSystemTime
    | .bds => t'.u.bdsSystemTime = t.u.bdsSystemTime
    | .qzss => t'.u.qzssSystemTime = t.u.qzssSystemTime
    | .glonass => t'.u.gloSystemTime = t.u.gloSystemTime
    | .navic => t'.u.navicSystemTime = t.u.navicSystemTime
    | .unknown | .sbas => True

/-- **The union survives**: its member is selected by the constellation on both sides. -/
theorem pbConvertToGnssSystemTime_same (t old : GnssSystemTime) :
    t.Same (pbConvertToGnssSystemTime (convertGnssSystemTimeToPB t) old) := by
  obtain ⟨c, u⟩ := t
  have hc : (pbConvertToGnssSystemTime
      (convertGnssSystemTimeToPB ⟨c, u⟩) old).gnssSystemTimeSrc = c :=
    getEnumForPBGnssLocSvSystem_getPBEnum c
  refine ⟨hc, ?_⟩
  cases c with
  | unknown | sbas => trivial
  | glonass => exact pbConvertToGnssGloTimeStructType_convertGnssGloTimeStructTypeToPB _
  | _ => exact pbConvertToSystemTime_convertToPB _

end PbConv
end LocationStack
