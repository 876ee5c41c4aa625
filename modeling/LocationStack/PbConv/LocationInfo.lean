import LocationStack.PbConv.LocationParts

/-! # Detailed position reports

A detailed report has a position, some fifty fields that are copied one by one, and arrays: the
measurements that were used, the DGNSS stations, a velocity, extended data.  The decoder clamps
the number of measurements to the capacity of their array but not to the number of elements that
the message has; it reads three components of the velocity whatever their number; and it stores
the length of the extended data before it compares it with the capacity.
-/
namespace LocationStack
namespace PbConv

/-! ## The report -/

/-- The fields that are copied one by one. -/
structure GnssLocationInfoFields where
  (altitudeMeanSeaLevel pdop hdop vdop gdop tdop magneticDeviation : Single)
  (horReliability verReliability : LocationReliability)
  (horUncEllipseSemiMajor horUncEllipseSemiMinor horUncEllipseOrientAzimuth : Single)
  (northStdDeviation eastStdDeviation northVelocity eastVelocity upVelocity : Single)
  (northVelocityStdDeviation eastVelocityStdDeviation upVelocityStdDeviation : Single)
  numSvUsedInPosition : UInt16
  svUsedInPosition : GnssLocationSvUsedInPosition
  navSolutionMask : Flags GnssLocationNavSolutionFlag
  (leapSeconds calibrationConfidence : UInt8)
  conformityIndex : Single
  llaVRPBased : LLAInfo
  drSolutionStatusMask : Flags DrSolutionStatusFlag
  altitudeAssumed : Bool
  sessionStatus : LocSessionStatus
  integrityRiskUsed : UInt32
  (protectAlongTrack protectCrossTrack protectVertical : Single)
  baseLineLength : Double
  ageMsecOfCorrections : UInt64
  leapSecondsUnc : UInt8
  posReportingInterval : UInt32
  deriving Inhabited

structure PBGnssLocationInfoFields where
  (altitudeMeanSeaLevel pdop hdop vdop gdop tdop magneticDeviation : Single)
  (horReliability verReliability : PBLocationReliability)
  (horUncEllipseSemiMajor horUncEllipseSemiMinor horUncEllipseOrientAzimuth : Single)
  (northStdDeviation eastStdDeviation northVelocity eastVelocity upVelocity : Single)
  (northVelocityStdDeviation eastVelocityStdDeviation upVelocityStdDeviation : Single)
  numSvUsedInPosition : UInt32
  svUsedInPosition : PBGnssLocationSvUsedInPosition
  navSolutionMask : BitVec 32
  (leapSeconds calibrationConfidence : UInt32)
  conformityIndex : Single
  llaVRPBased : PBLLAInfo
  drSolutionStatusMask : BitVec 32
  altitudeAssumed : Bool
  sessionStatus : PBLocationSessionStatus
  integrityRiskUsed : UInt32
  (protectAlongTrack protectCrossTrack protectVertical : Single)
  baseLineLength : Double
  ageMsecOfCorrections : UInt64
  (leapSecondsUnc posReportingInterval : UInt32)
  deriving Inhabited

def convertGnssLocInfoFieldsToPB (info : GnssLocationInfoFields) : PBGnssLocationInfoFields where
  altitudeMeanSeaLevel := info.altitudeMeanSeaLevel
  pdop := info.pdop
  hdop := info.hdop
  vdop := info.vdop
  gdop := info.gdop
  tdop := info.tdop
  magneticDeviation := info.magneticDeviation
  horReliability := getPBEnumForLocationReliability info.horReliability
  verReliability := getPBEnumForLocationReliability info.verReliability
  horUncEllipseSemiMajor := info.horUncEllipseSemiMajor
  horUncEllipseSemiMinor := info.horUncEllipseSemiMinor
  horUncEllipseOrientAzimuth := info.horUncEllipseOrientAzimuth
  northStdDeviation := info.northStdDeviation
  eastStdDeviation := info.eastStdDeviation
  northVelocity := info.northVelocity
  eastVelocity := info.eastVelocity
  upVelocity := info.upVelocity
  northVelocityStdDeviation := info.northVelocityStdDeviation
  eastVelocityStdDeviation := info.eastVelocityStdDeviation
  upVelocityStdDeviation := info.upVelocityStdDeviation
  numSvUsedInPosition := info.numSvUsedInPosition.toUInt32
  svUsedInPosition := convertGnssLocSvUsedInPosToPB info.svUsedInPosition
  navSolutionMask := getPBMaskForGnssLocationNavSolutionMask info.navSolutionMask
  leapSeconds := info.leapSeconds.toUInt32
  calibrationConfidence := info.calibrationConfidence.toUInt32
  conformityIndex := info.conformityIndex
  llaVRPBased := convertLLAInfoToPB info.llaVRPBased
  drSolutionStatusMask := getPBMaskForDrSolutionStatusMask info.drSolutionStatusMask
  altitudeAssumed := info.altitudeAssumed
  sessionStatus := getPBEnumForLocSessionStatus info.sessionStatus
  integrityRiskUsed := info.integrityRiskUsed
  protectAlongTrack := info.protectAlongTrack
  protectCrossTrack := info.protectCrossTrack
  protectVertical := info.protectVertical
  baseLineLength := info.baseLineLength
  ageMsecOfCorrections := info.ageMsecOfCorrections
  leapSecondsUnc := info.leapSecondsUnc.toUInt32
  posReportingInterval := info.posReportingInterval

def pbConvertToGnssLocInfoFields (pb : PBGnssLocationInfoFields) : GnssLocationInfoFields where
  altitudeMeanSeaLevel := pb.altitudeMeanSeaLevel
  pdop := pb.pdop
  hdop := pb.hdop
  vdop := pb.vdop
  gdop := pb.gdop
  tdop := pb.tdop
  magneticDeviation := pb.magneticDeviation
  horReliability := getEnumForPBLocReliability pb.horReliability
  verReliability := getEnumForPBLocReliability pb.verReliability
  horUncEllipseSemiMajor := pb.horUncEllipseSemiMajor
  horUncEllipseSemiMinor := pb.horUncEllipseSemiMinor
  horUncEllipseOrientAzimuth := pb.horUncEllipseOrientAzimuth
  northStdDeviation := pb.northStdDeviation
  eastStdDeviation := pb.eastStdDeviation
  northVelocity := pb.northVelocity
  eastVelocity := pb.eastVelocity
  upVelocity := pb.upVelocity
  northVelocityStdDeviation := pb.northVelocityStdDeviation
  eastVelocityStdDeviation := pb.eastVelocityStdDeviation
  upVelocityStdDeviation := pb.upVelocityStdDeviation
  numSvUsedInPosition := pb.numSvUsedInPosition.toUInt16
  svUsedInPosition := pbConvertToGnssLocationSvUsedInPosition pb.svUsedInPosition
  navSolutionMask := getGnssLocationNavSolutionMaskFromPB pb.navSolutionMask
  leapSeconds := pb.leapSeconds.toUInt8
  calibrationConfidence := pb.calibrationConfidence.toUInt8
  conformityIndex := pb.conformityIndex
  llaVRPBased := pbConvertToLLAInfo pb.llaVRPBased
  drSolutionStatusMask := getDrSolutionStatusMaskFromPB pb.drSolutionStatusMask
  altitudeAssumed := pb.altitudeAssumed
  sessionStatus := getLocSessionStatusFromPB pb.sessionStatus
  integrityRiskUsed := pb.integrityRiskUsed
  protectAlongTrack := pb.protectAlongTrack
  protectCrossTrack := pb.protectCrossTrack
  protectVertical := pb.protectVertical
  baseLineLength := pb.baseLineLength
  ageMsecOfCorrections := pb.ageMsecOfCorrections
  leapSecondsUnc := pb.leapSecondsUnc.toUInt8
  posReportingInterval := pb.posReportingInterval

@[simp] theorem pbConvertToGnssLocInfoFields_convertGnssLocInfoFieldsToPB
    (info : GnssLocationInfoFields) :
    pbConvertToGnssLocInfoFields (convertGnssLocInfoFieldsToPB info) = info := by
  simp only [pbConvertToGnssLocInfoFields, convertGnssLocInfoFieldsToPB,
    getEnumForPBLocReliability_getPBEnumForLocationReliability, UInt16.toUInt16_toUInt32,
    UInt8.toUInt8_toUInt32, pbConvertToGnssLocationSvUsedInPosition_convertGnssLocSvUsedInPosToPB,
    getGnssLocationNavSolutionMaskFromPB_getPBMaskForGnssLocationNavSolutionMask,
    pbConvertToLLAInfo_convertLLAInfoToPB,
    getDrSolutionStatusMaskFromPB_getPBMaskForDrSolutionStatusMask,
    getLocSessionStatusFromPB_getPBEnumForLocSessionStatus]

structure GnssLocationInfoNotification (h : Header) extends GnssLocationInfoFields where
  location : Location
  flags : Flags GnssLocationInfoFlag
  bodyFrameData : GnssLocationPositionDynamics
  bodyFrameDataExt : GnssLocationPositionDynamicsExt
  gnssSystemTime : GnssSystemTime
  numOfMeasReceived : UInt8
  measUsageInfo : Vector GnssMeasUsageInfo h.gnssSvMax
  calibrationStatus : Flags DrCalibrationStatusFlag
  locOutputEngType : LocOutputEngineType
  locOutputEngMask : Flags PositioningEngineFlag
  enuVelocityVRPBased : Vector Single 3
  numOfDgnssStationId : UInt32
  dgnssStationId : Vector UInt16 h.dgnssStationIdMax
  extendedDataLen : UInt32
  extendedData : Vector UInt8 h.extendedData
  deriving Inhabited

structure PBGnssLocationInfoNotification extends PBGnssLocationInfoFields where
  location : PBLocation
  flags : BitVec 32
  bodyFrameData : PBLocApiGnssLocationPositionDynamics
  gnssSystemTime : PBLocApiGnssSystemTime
  numOfMeasReceived : UInt32
  measUsageInfo : List PBGnssMeasUsageInfo
  timeUncMs : Single
  calibrationStatus : BitVec 32
  locOutputEngType : PBLocApiOutputEngineType
  locOutputEngMask : BitVec 32
  enuVelocityVRPBased : List Single
  extFlags : BitVec 32
  dgnssStationId : List UInt32
  gnssExtendedData : List UInt8
  deriving Inhabited

variable {h : Header}

def convertGnssLocInfoNotifToPB (gnssLocInfoNotif : GnssLocationInfoNotification h) :
    PBGnssLocationInfoNotification where
  toPBGnssLocationInfoFields :=
    convertGnssLocInfoFieldsToPB gnssLocInfoNotif.toGnssLocationInfoFields
  location := convertLocationToPB gnssLocInfoNotif.location
  flags := getPBMaskForGnssLocationInfoFlagMask gnssLocInfoNotif.flags
  bodyFrameData := convertGnssLocationPositionDynamicsToPB gnssLocInfoNotif.bodyFrameData
    gnssLocInfoNotif.bodyFrameDataExt
  gnssSystemTime := convertGnssSystemTimeToPB gnssLocInfoNotif.gnssSystemTime
  numOfMeasReceived := gnssLocInfoNotif.numOfMeasReceived.toUInt32
  measUsageInfo := addAll gnssLocInfoNotif.numOfMeasReceived.toNat gnssLocInfoNotif.measUsageInfo
    convertGnssMeasUsageInfoToPB
  timeUncMs := gnssLocInfoNotif.location.timeUncMs
  calibrationStatus := getPBMaskForDrCalibrationStatusMask gnssLocInfoNotif.calibrationStatus
  locOutputEngType := getPBEnumForLocOutputEngineType gnssLocInfoNotif.locOutputEngType
  locOutputEngMask := getPBMaskForPositioningEngineMask gnssLocInfoNotif.locOutputEngMask
  enuVelocityVRPBased := addAll 3 gnssLocInfoNotif.enuVelocityVRPBased id
  extFlags := getPBMaskForGnssLocationInfoExtFlagMask gnssLocInfoNotif.flags
  dgnssStationId := addAll gnssLocInfoNotif.numOfDgnssStationId.toNat
    gnssLocInfoNotif.dgnssStationId UInt16.toUInt32
  gnssExtendedData :=
    if gnssLocInfoNotif.flags .extendedData then
      addAll gnssLocInfoNotif.extendedDataLen.toNat gnssLocInfoNotif.extendedData id
    else []

/-- The length is stored before it is compared with the capacity. -/
def pbConvertToExtendedData (gnssExtendedData : List UInt8)
    (extendedData : Vector UInt8 h.extendedData) :
    Logged (UInt32 × Vector UInt8 h.extendedData) := do
  let extendedDataLen := UInt32.ofNat gnssExtendedData.length
  Logged.count extendedDataLen.toNat h.extendedData
  if 0 < extendedDataLen ∧ extendedDataLen.toNat ≤ h.extendedData then
    let extendedData ← Logged.fill gnssExtendedData.length gnssExtendedData
      (fun byte _ => pure byte) extendedData
    pure (extendedDataLen, extendedData)
  else pure (extendedDataLen, extendedData)

/-- The extended data are read if their flag is on. -/
def pbConvertToValidExtendedData (valid : Bool) (gnssExtendedData : List UInt8)
    (extended : UInt32 × Vector UInt8 h.extendedData) :
    Logged (UInt32 × Vector UInt8 h.extendedData) :=
  if valid then pbConvertToExtendedData gnssExtendedData extended.2 else pure extended

def pbConvertToGnssLocInfoNotif (pb : PBGnssLocationInfoNotification)
    (gnssLocInfoNotif : GnssLocationInfoNotification h) :
    Logged (GnssLocationInfoNotification h) := do
  let flags := getGnssLocationInfoFlagMaskFromPB pb.flags pb.extFlags
  let dynamics := pbConvertToGnssLocationPositionDynamics pb.bodyFrameData
  let numOfMeasReceived := UInt8.ofNat (min pb.numOfMeasReceived.toNat h.gnssSvMax)
  Logged.count numOfMeasReceived.toNat h.gnssSvMax
  let measUsageInfo ← Logged.fill numOfMeasReceived.toNat pb.measUsageInfo
    (fun pb _ => pure (pbConvertToGnssMeasUsageInfo pb)) gnssLocInfoNotif.measUsageInfo
  let enuVelocityVRPBased ← Logged.fill 3 pb.enuVelocityVRPBased (fun v _ => pure v)
    gnssLocInfoNotif.enuVelocityVRPBased
  let numOfDgnssStationId := min (uint32Size pb.dgnssStationId.length) h.dgnssStationIdMax
  let dgnssStationId ← Logged.fill numOfDgnssStationId pb.dgnssStationId
    (fun stationId _ => pure stationId.toUInt16) gnssLocInfoNotif.dgnssStationId
  Logged.count (UInt32.ofNat numOfDgnssStationId).toNat h.dgnssStationIdMax
  let extended ← pbConvertToValidExtendedData (flags .extendedData) pb.gnssExtendedData
    (gnssLocInfoNotif.extendedDataLen, gnssLocInfoNotif.extendedData)
  pure
    { toGnssLocationInfoFields := pbConvertToGnssLocInfoFields pb.toPBGnssLocationInfoFields
      location := { pbConvertToLocation pb.location with timeUncMs := pb.timeUncMs }
      flags
      bodyFrameData := dynamics.1
      bodyFrameDataExt := dynamics.2
      gnssSystemTime := pbConvertToGnssSystemTime pb.gnssSystemTime gnssLocInfoNotif.gnssSystemTime
      numOfMeasReceived
      measUsageInfo
      calibrationStatus := getDrCalibrationStatusMaskFromPB h pb.calibrationStatus
      locOutputEngType := getEnumForPBLocOutputEngineType pb.locOutputEngType
      locOutputEngMask := getEnumForPBPositioningEngineMask pb.locOutputEngMask
      enuVelocityVRPBased
      numOfDgnssStationId := UInt32.ofNat numOfDgnssStationId
      dgnssStationId
      extendedDataLen := extended.1
      extendedData := extended.2 }

/-! ## Bounds -/

/-- The extended data fit, or their length is nothing to 32 bits. -/
def ExtendedDataFits (h : Header) (gnssExtendedData : List UInt8) : Prop :=
  gnssExtendedData.length ≤ h.extendedData ∨ uint32Size gnssExtendedData.length = 0

/-- There are as many measurements as the message says, or as the structure has room for; there
are three components of the velocity; and the extended data fit. -/
structure PBGnssLocationInfoNotification.Fits (h : Header) (pb : PBGnssLocationInfoNotification) :
    Prop where
  measUsageInfo : min pb.numOfMeasReceived.toNat h.gnssSvMax ≤ pb.measUsageInfo.length
  enuVelocityVRPBased : 3 ≤ pb.enuVelocityVRPBased.length
  gnssExtendedData : getGnssLocationInfoFlagMaskFromPB pb.flags pb.extFlags .extendedData = true →
    ExtendedDataFits h pb.gnssExtendedData

theorem inBounds_pbConvertToExtendedData (gnssExtendedData : List UInt8)
    (extendedData : Vector UInt8 h.extendedData) :
    (pbConvertToExtendedData gnssExtendedData extendedData).InBounds ↔
      ExtendedDataFits h gnssExtendedData := by
  have hconv : ∀ (byte old : UInt8), (pure byte : Logged UInt8).InBounds ↔ True :=
    fun byte _ => iff_true_intro (Logged.inBounds_pure byte)
  have hsize : (UInt32.ofNat gnssExtendedData.length).toNat = uint32Size gnssExtendedData.length :=
    UInt32.toNat_ofNat'
  have hpos :
      0 < UInt32.ofNat gnssExtendedData.length ↔ 0 < uint32Size gnssExtendedData.length := by
    rw [UInt32.lt_iff_toNat_lt, hsize]
    exact Iff.rfl
  have hle := uint32Size_le gnssExtendedData.length
  simp only [pbConvertToExtendedData, ExtendedDataFits, Logged.inBounds_bind,
    Logged.inBounds_count, Logged.inBounds_ite, Logged.inBounds_fill hconv, Logged.inBounds_pure,
    hsize, hpos]
  constructor
  · rintro ⟨hcount, hcopy, -⟩
    by_cases hzero : uint32Size gnssExtendedData.length = 0
    · exact Or.inr hzero
    · exact Or.inl (hcopy ⟨Nat.pos_of_ne_zero hzero, hcount⟩).1.2.1
  · rintro (hfits | hzero)
    · exact ⟨Nat.le_trans hle hfits, fun _ => ⟨⟨Nat.le_refl _, hfits, fun _ _ => trivial⟩, trivial⟩,
        fun _ => trivial⟩
    · rw [hzero]
      exact ⟨Nat.zero_le _, fun hpos => absurd hpos.1 (Nat.lt_irrefl 0), fun _ => trivial⟩

theorem inBounds_pbConvertToGnssLocInfoNotif (pb : PBGnssLocationInfoNotification)
    (gnssLocInfoNotif : GnssLocationInfoNotification h) :
    (pbConvertToGnssLocInfoNotif pb gnssLocInfoNotif).InBounds ↔ pb.Fits h := by
  have husage : ∀ (pb : PBGnssMeasUsageInfo) (old : GnssMeasUsageInfo),
      (pure (pbConvertToGnssMeasUsageInfo pb) : Logged GnssMeasUsageInfo).InBounds ↔ True :=
    fun _ _ => iff_true_intro (Logged.inBounds_pure _)
  have hvelocity : ∀ (v old : Single), (pure v : Logged Single).InBounds ↔ True :=
    fun _ _ => iff_true_intro (Logged.inBounds_pure _)
  have hstation : ∀ (stationId : UInt32) (old : UInt16),
      (pure stationId.toUInt16 : Logged UInt16).InBounds ↔ True :=
    fun _ _ => iff_true_intro (Logged.inBounds_pure _)
  have hmeas : (UInt8.ofNat (min pb.numOfMeasReceived.toNat h.gnssSvMax)).toNat =
      min pb.numOfMeasReceived.toNat h.gnssSvMax :=
    UInt8.toNat_ofNat_of_lt' (Nat.lt_of_le_of_lt (Nat.min_le_right _ _) h.gnssSvMax_lt)
  have hdgnss : (UInt32.ofNat (min (uint32Size pb.dgnssStationId.length)
      h.dgnssStationIdMax)).toNat = min (uint32Size pb.dgnssStationId.length) h.dgnssStationIdMax :=
    UInt32.toNat_ofNat_of_lt' (Nat.lt_of_le_of_lt (Nat.min_le_right _ _)
      (Nat.lt_trans h.dgnssStationIdMax_lt (by decide)))
  have hsize := uint32Size_le pb.dgnssStationId.length
  simp only [pbConvertToGnssLocInfoNotif, pbConvertToValidExtendedData, Logged.inBounds_bind,
    Logged.inBounds_count, Logged.inBounds_ite, Logged.inBounds_pure, Logged.inBounds_fill husage,
    Logged.inBounds_fill hvelocity, Logged.inBounds_fill hstation,
    inBounds_pbConvertToExtendedData, hmeas, hdgnss]
  constructor
  · rintro ⟨-, ⟨husage, -⟩, ⟨hvelocity, -⟩, -, -, hextended, -⟩
    exact ⟨husage, hvelocity, hextended.1⟩
  · rintro ⟨husage, hvelocity, hextended⟩
    exact ⟨by omega, ⟨husage, by omega, fun _ _ => trivial⟩,
      ⟨hvelocity, Nat.le_refl 3, fun _ _ => trivial⟩, ⟨by omega, by omega, fun _ _ => trivial⟩,
      by omega, ⟨hextended, fun _ => trivial⟩, trivial⟩

/-! ## Round trip -/

/-- The numbers of elements are within the capacities. -/
structure GnssLocationInfoNotification.WithinCapacity (r : GnssLocationInfoNotification h) :
    Prop where
  numOfMeasReceived : r.numOfMeasReceived.toNat ≤ h.gnssSvMax
  numOfDgnssStationId : r.numOfDgnssStationId.toNat ≤ h.dgnssStationIdMax
  extendedDataLen : r.flags .extendedData = true → r.extendedDataLen.toNat ≤ h.extendedData

/-- The same report, in every field that is valid: the engine's type, the mask of engines and the
extended data are if their flags say so, the elements of the arrays up to their numbers, the
member of the system time by the constellation.  The other fields are the same whatever the flags
say. -/
structure GnssLocationInfoNotification.Same (r r' : GnssLocationInfoNotification h) : Prop where
  fields : r'.toGnssLocationInfoFields = r.toGnssLocationInfoFields
  location : r'.location = r.location
  flags : r'.flags = r.flags
  bodyFrameData : r'.bodyFrameData = r.bodyFrameData
  bodyFrameDataExt : r'.bodyFrameDataExt = r.bodyFrameDataExt
  gnssSystemTime : r.gnssSystemTime.Same r'.gnssSystemTime
  numOfMeasReceived : r'.numOfMeasReceived = r.numOfMeasReceived
  measUsageInfo : ∀ i (hi : i < h.gnssSvMax), i < r.numOfMeasReceived.toNat →
    r'.measUsageInfo[i] = r.measUsageInfo[i]
  calibrationStatus : r'.calibrationStatus = r.calibrationStatus
  locOutputEngType : r.flags .outputEngType = true → r'.locOutputEngType = r.locOutputEngType
  locOutputEngMask : r.flags .outputEngMask = true → r'.locOutputEngMask = r.locOutputEngMask
  enuVelocityVRPBased : r'.enuVelocityVRPBased = r.enuVelocityVRPBased
  numOfDgnssStationId : r'.numOfDgnssStationId = r.numOfDgnssStationId
  dgnssStationId : ∀ i (hi : i < h.dgnssStationIdMax), i < r.numOfDgnssStationId.toNat →
    r'.dgnssStationId[i] = r.dgnssStationId[i]
  extendedDataLen : r.flags .extendedData = true → r'.extendedDataLen = r.extendedDataLen
  extendedData : r.flags .extendedData = true → ∀ i (hi : i < h.extendedData),
    i < r.extendedDataLen.toNat → r'.extendedData[i] = r.extendedData[i]

/-- What a detailed report has to avoid: the technology, the type and the engine that the message
lacks. -/
structure GnssLocationInfoNotification.Expressible (r : GnssLocationInfoNotification h) :
    Prop where
  techMask : r.location.techMask .hybridAle = false
  locOutputEngType : r.flags .outputEngType = true → r.locOutputEngType ≠ .vpe
  locOutputEngMask : r.flags .outputEngMask = true → r.locOutputEngMask .vpPositioning = false

/-- Data that fit are copied with their length. -/
theorem value_pbConvertToExtendedData {gnssExtendedData : List UInt8} {n : UInt32}
    (hlen : gnssExtendedData.length = n.toNat) (hn : n.toNat ≤ h.extendedData)
    (extendedData : Vector UInt8 h.extendedData) :
    (pbConvertToExtendedData gnssExtendedData extendedData).value =
      (n, (Logged.fill n.toNat gnssExtendedData (fun byte _ => pure byte) extendedData).value) := by
  simp only [pbConvertToExtendedData, hlen, UInt32.ofNat_toNat, Logged.value_bind]
  by_cases hpos : 0 < n
  · rw [if_pos ⟨hpos, hn⟩]
    rfl
  · have hzero : n.toNat = 0 := Nat.eq_zero_of_not_pos fun h => hpos (UInt32.lt_iff_toNat_lt.mpr h)
    rw [if_neg fun h => hpos h.1, hzero]
    rfl

/-- **A detailed report survives**, over whatever the structure held before, exactly if the message
has its technologies and its engines. -/
theorem GnssLocationInfoNotification.same_iff (hnum : h.SameNumbers)
    {r : GnssLocationInfoNotification h} (hr : r.WithinCapacity)
    (old : GnssLocationInfoNotification h) :
    r.Same (pbConvertToGnssLocInfoNotif (convertGnssLocInfoNotifToPB r) old).value ↔
      r.Expressible := by
  have hmeas : UInt8.ofNat (min r.numOfMeasReceived.toUInt32.toNat h.gnssSvMax) =
      r.numOfMeasReceived := by
    rw [UInt8.toNat_toUInt32, Nat.min_eq_left hr.numOfMeasReceived, UInt8.ofNat_toNat]
  have hdgnss : min (uint32Size (convertGnssLocInfoNotifToPB r).dgnssStationId.length)
      h.dgnssStationIdMax = r.numOfDgnssStationId.toNat := by
    rw [convertGnssLocInfoNotifToPB, length_addAll, uint32Size_of_lt r.numOfDgnssStationId.toNat_lt,
      Nat.min_eq_left hr.numOfDgnssStationId]
  have hmask : getGnssLocationInfoFlagMaskFromPB (convertGnssLocInfoNotifToPB r).flags
      (convertGnssLocInfoNotifToPB r).extFlags = r.flags :=
    getGnssLocationInfoFlagMaskFromPB_getPBMasks r.flags
  have hextended : r.flags .extendedData = true →
      ((pbConvertToGnssLocInfoNotif (convertGnssLocInfoNotifToPB r) old).value.extendedDataLen,
        (pbConvertToGnssLocInfoNotif (convertGnssLocInfoNotifToPB r) old).value.extendedData) =
      (r.extendedDataLen, (Logged.fill r.extendedDataLen.toNat
        (addAll r.extendedDataLen.toNat r.extendedData id) (fun byte _ => pure byte)
        old.extendedData).value) := by
    intro hon
    have hdata : (convertGnssLocInfoNotifToPB r).gnssExtendedData =
        addAll r.extendedDataLen.toNat r.extendedData id := if_pos hon
    rw [← value_pbConvertToExtendedData (length_addAll _ _ _) (hr.extendedDataLen hon), ← hdata]
    change (pbConvertToValidExtendedData _ _ _).value = _
    rw [hmask, pbConvertToValidExtendedData, if_pos hon]
  constructor
  · intro hsame
    exact
      { techMask := (pbConvertToLocation_convertLocationToPB_iff r.location).mp hsame.location
        locOutputEngType := fun hon =>
          (getEnumForPBLocOutputEngineType_getPBEnum_iff _).mp (hsame.locOutputEngType hon)
        locOutputEngMask := fun hon =>
          (getEnumForPBPositioningEngineMask_getPBMask_iff _).mp (hsame.locOutputEngMask hon) }
  · intro hexpr
    refine
      { fields := pbConvertToGnssLocInfoFields_convertGnssLocInfoFieldsToPB _
        location := (pbConvertToLocation_convertLocationToPB_iff r.location).mpr hexpr.techMask
        flags := hmask
        bodyFrameData := congrArg Prod.fst
          (pbConvertToGnssLocationPositionDynamics_convertToPB r.bodyFrameData r.bodyFrameDataExt)
        bodyFrameDataExt := congrArg Prod.snd
          (pbConvertToGnssLocationPositionDynamics_convertToPB r.bodyFrameData r.bodyFrameDataExt)
        gnssSystemTime := pbConvertToGnssSystemTime_same r.gnssSystemTime old.gnssSystemTime
        numOfMeasReceived := hmeas
        measUsageInfo := fun i hi hlt => ?_
        calibrationStatus := getDrCalibrationStatusMaskFromPB_getPBMask hnum _
        locOutputEngType := fun hon =>
          (getEnumForPBLocOutputEngineType_getPBEnum_iff _).mpr (hexpr.locOutputEngType hon)
        locOutputEngMask := fun hon =>
          (getEnumForPBPositioningEngineMask_getPBMask_iff _).mpr (hexpr.locOutputEngMask hon)
        enuVelocityVRPBased := ?_
        numOfDgnssStationId := ?_
        dgnssStationId := fun i hi hlt => ?_
        extendedDataLen := fun hon => congrArg Prod.fst (hextended hon)
        extendedData := fun hon i hi hlt => ?_ }
    · change (Logged.fill (UInt8.ofNat (min r.numOfMeasReceived.toUInt32.toNat h.gnssSvMax)).toNat
        (addAll _ _ _) _ _).value[i] = _
      rw [hmeas]
      exact getElem_fill_addAll (fun usage _ =>
        pbConvertToGnssMeasUsageInfo_convertGnssMeasUsageInfoToPB usage) hr.numOfMeasReceived _ _
        hlt hi
    · change (Logged.fill 3 (addAll 3 _ id) (fun v _ => pure v) _).value = _
      exact value_fill_addAll r.enuVelocityVRPBased old.enuVelocityVRPBased
    · change UInt32.ofNat (min _ _) = _
      rw [hdgnss, UInt32.ofNat_toNat]
    · change (Logged.fill (min (uint32Size (convertGnssLocInfoNotifToPB r).dgnssStationId.length)
        h.dgnssStationIdMax) (addAll _ _ _) _ _).value[i] = _
      rw [hdgnss]
      exact getElem_fill_addAll (fun stationId _ => UInt16.toUInt16_toUInt32 stationId)
        hr.numOfDgnssStationId _ _ hlt hi
    · have hdata := congrArg Prod.snd (hextended hon)
      simp only at hdata
      rw [hdata]
      exact getElem_fill_addAll (fun _ _ => rfl) (hr.extendedDataLen hon) _ _ hlt hi

end PbConv
end LocationStack
