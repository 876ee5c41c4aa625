import LocationStack.Fidl.LocReport
import LocationStack.PbConv.LocationInfo

/-! # Position reports in the client API

A position report reaches the application in two steps: the daemon sends it in a message, and
`parseLocationInfo` makes the report of the client API from what was read of the message.  Most
fields are copied whatever the flags say; the words of flags are written anew, flag by flag; and a
few words and enumerations are cast, so that they keep the numbers of the other header.

The constellation 0, which a structure of zeros has, has no name in the client API.  What a report
has of it is noted beside the report.
-/
namespace LocationStack
namespace Client

open Fidl (Carried)

/-! ## What is cast -/

/-- What the header of the structures fixes beside `PbConv.Header`: the numbers that are cast to
those of the client API, or written into its words. -/
structure CastNumbers where
  sessionStatus : PbConv.LocSessionStatus → Fidl.SessionStatus
  locOutputEngType : PbConv.LocOutputEngineType → Fidl.OutputEngine
  /-- `none` is a number without a name. -/
  svSystem : PbConv.GnssLocSvSystemEnumType → Option Fidl.SvSystem
  locOutputEngMask : FlagTable PbConv.PositioningEngineFlag 32
  drSolutionStatusMask : FlagTable PbConv.DrSolutionStatusFlag 32
  /-- `GNSS_SIGNAL_BEIDOU_B1` and `GNSS_SIGNAL_BEIDOU_B2` -/
  (beidouB1 beidouB2 : BitVec 32)

/-! ## What a report marks

Each flag of the client API, as it is tested. -/

def locationMarks (halLocation : PbConv.Location) : Flags Fidl.LocationFlag
  | .timestamp => halLocation.timestamp != 0
  | .timeUnc => halLocation.flags .timeUnc
  | .latLong => halLocation.flags .latLong
  | .altitude => halLocation.flags .altitude
  | .speed => halLocation.flags .speed
  | .bearing => halLocation.flags .bearing
  | .accuracy => halLocation.flags .accuracy
  | .verticalAccuracy => halLocation.flags .verticalAccuracy
  | .speedAccuracy => halLocation.flags .speedAccuracy
  | .bearingAccuracy => halLocation.flags .bearingAccuracy
  | .elapsedRealTime => halLocation.flags .elapsedRealTime
  -- The uncertainty has no flag of its own.
  | .elapsedRealTimeUnc => halLocation.flags .elapsedRealTime
  | .gptpTime => halLocation.flags .gptpTime
  | .gptpTimeUnc => halLocation.flags .gptpTimeUnc
  | .sessionStatus => halLocation.flags .sessionStatus

def technologyMarks (techMask : Flags PbConv.LocationTechnologyFlag) : Flags Fidl.TechnologyFlag
  | .gnss => techMask .gnss
  | .cell => techMask .cell
  | .wifi => techMask .wifi
  | .sensors => techMask .sensors
  | .referenceLocation => techMask .referenceLocation
  | .injectedCoarsePosition => techMask .injectedCoarsePosition
  | .aflt => techMask .aflt
  | .hybrid => techMask .hybrid
  | .ppe => techMask .ppe
  | .veh => techMask .veh
  | .vis => techMask .vis
  | .propagated => techMask .propagated

def navSolutionMarks (mask : Flags PbConv.GnssLocationNavSolutionFlag) :
    Flags Fidl.NavSolutionFlag
  | .sbasCorrectionIono => mask .sbasCorrectionIono
  | .sbasCorrectionFast => mask .sbasCorrectionFast
  | .sbasCorrectionLong => mask .sbasCorrectionLong
  | .sbasIntegrity => mask .sbasIntegrity
  | .navCorrectionDgnss => mask .navCorrectionDgnss
  | .navCorrectionRtk => mask .navCorrectionRtk
  | .navCorrectionRtkFixed => mask .navCorrectionRtkFixed
  | .navCorrectionPpp => mask .navCorrectionPpp
  | .navCorrectionOnlySbasCorrectedSvUsed => mask .navCorrectionOnlySbasCorrectedSvUsed
  | .navMmfAidedPosition => mask .navMmfAidedPosition

/-- The technologies are always there.  The message has no bit for the source of the satellites. -/
def infoMarks {h : PbConv.Header} (halLocationInfo : PbConv.GnssLocationInfoNotification h) :
    Flags Fidl.InfoFlag
  | .altitudeMeanSeaLevel => halLocationInfo.flags .altitudeMeanSeaLevel
  | .dop => halLocationInfo.flags .dop
  | .magneticDeviation => halLocationInfo.flags .magneticDeviation
  | .horReliability => halLocationInfo.flags .horReliability
  | .verReliability => halLocationInfo.flags .verReliability
  | .horAccuracyElipSemiMajor => halLocationInfo.flags .horAccuracyElipSemiMajor
  | .horAccuracyElipSemiMinor => halLocationInfo.flags .horAccuracyElipSemiMinor
  | .horAccuracyElipAzimuth => halLocationInfo.flags .horAccuracyElipAzimuth
  | .gnssSvUsedData => halLocationInfo.flags .gnssSvUsedData
  | .navSolutionMask => halLocationInfo.flags .navSolutionMask
  | .posTechMask => true
  | .svSourceInfo => false
  | .posDynamicsData => halLocationInfo.flags .posDynamicsData
  | .extDop => halLocationInfo.flags .extDop
  | .northStdDev => halLocationInfo.flags .northStdDev
  | .eastStdDev => halLocationInfo.flags .eastStdDev
  | .northVel => halLocationInfo.flags .northVel
  | .northVelUnc => halLocationInfo.flags .northVelUnc
  | .eastVel => halLocationInfo.flags .eastVel
  | .eastVelUnc => halLocationInfo.flags .eastVelUnc
  | .upVel => halLocationInfo.flags .upVel
  | .upVelUnc => halLocationInfo.flags .upVelUnc
  | .leapSeconds => halLocationInfo.flags .leapSeconds
  | .timeUnc => false
  | .numSvUsedInPosition => halLocationInfo.flags .numSvUsedInPosition
  | .calibrationConfidencePercent => halLocationInfo.flags .calibrationConfidence
  | .calibrationStatus => halLocationInfo.flags .calibrationStatus
  | .outputEngType => halLocationInfo.flags .outputEngType
  | .outputEngMask => halLocationInfo.flags .outputEngMask
  | .conformityIndex => halLocationInfo.flags .conformityIndex
  | .llaVrpBased => halLocationInfo.flags .llaVrpBased
  | .enuVelocityVrpBased => halLocationInfo.flags .enuVelocityVrpBased
  | .drSolutionStatusMask => halLocationInfo.flags .drSolutionStatusMask
  | .altitudeAssumed => halLocationInfo.flags .altitudeAssumed
  | .sessionStatus => halLocationInfo.location.flags .sessionStatus
  | .integrityRiskUsed => halLocationInfo.flags .integrityRiskUsed
  | .protectAlongTrack => halLocationInfo.flags .protectAlongTrack
  | .protectCrossTrack => halLocationInfo.flags .protectCrossTrack
  | .protectVertical => halLocationInfo.flags .protectVertical
  | .dgnssStationId => halLocationInfo.flags .dgnssStationId
  | .baseLineLength => halLocationInfo.flags .baseLineLength
  | .ageOfCorrection => halLocationInfo.flags .ageOfCorrection
  | .leapSecondsUnc => halLocationInfo.flags .leapSecondsUnc
  | .reportInterval => halLocationInfo.flags .reportInterval
  | .gptpTime | .gptpTimeUnc => false

def signalMarks (mask : Flags PbConv.GnssSignalTypeFlag) : Flags Fidl.SignalType
  | .gpsL1ca => mask .gpsL1ca
  | .gpsL1c => mask .gpsL1c
  | .gpsL2 => mask .gpsL2
  | .gpsL5 => mask .gpsL5
  | .glonassG1 => mask .glonassG1
  | .glonassG2 => mask .glonassG2
  | .galileoE1 => mask .galileoE1
  | .galileoE5a => mask .galileoE5a
  | .galileoE5b => mask .galileoE5b
  | .beidouB1 => mask .beidouB1
  | .beidouB2 => mask .beidouB2
  | .qzssL1ca => mask .qzssL1ca
  | .qzssL1s => mask .qzssL1s
  | .qzssL2 => mask .qzssL2
  | .qzssL5 => mask .qzssL5
  | .sbasL1 => mask .sbasL1
  | .beidouB1i => mask .beidouB1i
  | .beidouB1c => mask .beidouB1c
  | .beidouB2i => mask .beidouB2i
  | .beidouB2ai => mask .beidouB2ai
  | .navicL5 => mask .navicL5
  | .beidouB2aq => mask .beidouB2aq
  | .beidouB2bi => mask .beidouB2bi
  | .beidouB2bq => mask .beidouB2bq
  | .navicL1 => mask .navicL1

def posDataMarks (halPositionDynamics : PbConv.GnssLocationPositionDynamics)
    (halPositionDynamicsExt : PbConv.GnssLocationPositionDynamicsExt) : Flags Fidl.PosDataFlag
  | .longAccel => halPositionDynamics.bodyFrameDataMask .longAccel
  | .latAccel => halPositionDynamics.bodyFrameDataMask .latAccel
  | .vertAccel => halPositionDynamics.bodyFrameDataMask .vertAccel
  | .longAccelUnc => halPositionDynamics.bodyFrameDataMask .longAccelUnc
  | .latAccelUnc => halPositionDynamics.bodyFrameDataMask .latAccelUnc
  | .vertAccelUnc => halPositionDynamics.bodyFrameDataMask .vertAccelUnc
  | .roll => halPositionDynamicsExt.bodyFrameDataMask .roll
  | .rollUnc => halPositionDynamicsExt.bodyFrameDataMask .rollUnc
  | .rollRate => halPositionDynamicsExt.bodyFrameDataMask .rollRate
  | .rollRateUnc => halPositionDynamicsExt.bodyFrameDataMask .rollRateUnc
  | .pitch => halPositionDynamics.bodyFrameDataMask .pitch
  | .pitchUnc => halPositionDynamics.bodyFrameDataMask .pitchUnc
  | .pitchRate => halPositionDynamicsExt.bodyFrameDataMask .pitchRate
  | .pitchRateUnc => halPositionDynamicsExt.bodyFrameDataMask .pitchRateUnc
  | .yaw => halPositionDynamicsExt.bodyFrameDataMask .yaw
  | .yawUnc => halPositionDynamicsExt.bodyFrameDataMask .yawUnc
  | .yawRate => halPositionDynamics.bodyFrameDataMask .yawRate
  | .yawRateUnc => halPositionDynamics.bodyFrameDataMask .yawRateUnc

/-- The field that a flag of the body frame marks. -/
def posDataField (halPositionDynamics : PbConv.GnssLocationPositionDynamics)
    (halPositionDynamicsExt : PbConv.GnssLocationPositionDynamicsExt) :
    Fidl.PosDataFlag → Fidl.Single
  | .longAccel => halPositionDynamics.longAccel
  | .latAccel => halPositionDynamics.latAccel
  | .vertAccel => halPositionDynamics.vertAccel
  | .longAccelUnc => halPositionDynamics.longAccelUnc
  | .latAccelUnc => halPositionDynamics.latAccelUnc
  | .vertAccelUnc => halPositionDynamics.vertAccelUnc
  | .roll => halPositionDynamicsExt.roll
  | .rollUnc => halPositionDynamicsExt.rollUnc
  | .rollRate => halPositionDynamicsExt.rollRate
  | .rollRateUnc => halPositionDynamicsExt.rollRateUnc
  | .pitch => halPositionDynamics.pitch
  | .pitchUnc => halPositionDynamics.pitchUnc
  | .pitchRate => halPositionDynamicsExt.pitchRate
  | .pitchRateUnc => halPositionDynamicsExt.pitchRateUnc
  | .yaw => halPositionDynamicsExt.yaw
  | .yawUnc => halPositionDynamicsExt.yawUnc
  | .yawRate => halPositionDynamics.yawRate
  | .yawRateUnc => halPositionDynamics.yawRateUnc

def gnssTimeMarks (mask : Flags PbConv.GnssSystemTimeStructTypeFlag) :
    Flags Fidl.SystemTimeFlag
  | .week => mask .weekValid
  | .weekMs => mask .weekMsValid
  | .clkTimeBias => mask .clkTimeBiasValid
  | .clkTimeBiasUnc => mask .clkTimeBiasUncValid
  | .refFcount => mask .refFcountValid
  | .numClockResets => mask .numClockResetsValid

def gloTimeMarks (mask : Flags PbConv.GnssGloTimeStructTypeFlag) : Flags Fidl.GloTimeFlag
  | .days => mask .cloDaysValid
  | .msec => mask .gloMsecValid
  | .clkTimeBias => mask .gloClkTimeBiasValid
  | .clkTimeBiasUnc => mask .gloClkTimeBiasUncValid
  | .refFcount => mask .gloRefFcountValid
  | .numClockResets => mask .gloNumClockResetsValid
  | .fourYear => mask .gloFourYearValid

/-! ## The conversion -/

theorem technologyFlags_length : Fidl.technologyFlags.length ≤ 32 := by decide

def technologyTable : FlagTable Fidl.TechnologyFlag 32 :=
  .inOrder Fidl.technologyFlags technologyFlags_length

theorem navSolutionFlags_length : Fidl.navSolutionFlags.length ≤ 32 := by decide

def navSolutionTable : FlagTable Fidl.NavSolutionFlag 32 :=
  .inOrder Fidl.navSolutionFlags navSolutionFlags_length

/-- The fields of a `Location`, in what is to be a report or a part of one. -/
def parseLocation (n : CastNumbers) (halLocation : PbConv.Location)
    (location : Fidl.GnssLocation) : Fidl.GnssLocation :=
  { location with
    sessionStatus := n.sessionStatus halLocation.sessionStatus
    timestamp := halLocation.timestamp
    timeUncMs := halLocation.timeUncMs
    latitude := halLocation.latitude
    longitude := halLocation.longitude
    altitude := halLocation.altitude
    speed := halLocation.speed
    bearing := halLocation.bearing
    horizontalAccuracy := halLocation.accuracy
    verticalAccuracy := halLocation.verticalAccuracy
    speedAccuracy := halLocation.speedAccuracy
    bearingAccuracy := halLocation.bearingAccuracy
    elapsedRealTimeNs := halLocation.elapsedRealTime
    elapsedRealTimeUncNs := halLocation.elapsedRealTimeUnc
    elapsedgPTPTime :=
      Fidl.given (halLocation.flags .gptpTime) halLocation.elapsedgPTPTime location.elapsedgPTPTime
    elapsedgPTPTimeUnc :=
      Fidl.given (halLocation.flags .gptpTimeUnc) halLocation.elapsedgPTPTimeUnc
        location.elapsedgPTPTimeUnc
    flags := Fidl.lcaLocationFlags.write (locationMarks halLocation)
    techMask := technologyTable.write (technologyMarks halLocation.techMask) }

def parseLocationSvUsedInPosition (halSv : PbConv.GnssLocationSvUsedInPosition) :
    Fidl.SvUsedIds where
  gps := halSv.gpsSvUsedIdsMask
  glo := halSv.gloSvUsedIdsMask
  gal := halSv.galSvUsedIdsMask
  bds := halSv.bdsSvUsedIdsMask
  qzss := halSv.qzssSvUsedIdsMask
  navic := halSv.navicSvUsedIdsMask

/-- The bits that the lines set; two have those of the other header. -/
def signalRows (n : CastNumbers) : List (Fidl.SignalType × BitVec 32) :=
  Fidl.signalTypeFlags.rows.map fun r =>
    if r.1 = .beidouB1 then (r.1, n.beidouB1)
    else if r.1 = .beidouB2 then (r.1, n.beidouB2)
    else r

def parseGnssSignalType (n : CastNumbers)
    (halGnssSignalTypeMask : Flags PbConv.GnssSignalTypeFlag) : BitVec 32 :=
  FlagTable.writeRows (signalRows n) (signalMarks halGnssSignalTypeMask)

/-- A measurement, and whether its constellation has a name. -/
def parseMeasUsage (n : CastNumbers) (usage : PbConv.GnssMeasUsageInfo) :
    Fidl.GnssMeasUsageInfo × Bool :=
  ({ gnssConstellation := (n.svSystem usage.gnssConstellation).getD .gps
     gnssSvId := usage.gnssSvId
     gnssSignalType := parseGnssSignalType n usage.gnssSignalType },
    (n.svSystem usage.gnssConstellation).isSome)

def parseGnssMeasUsageInfo {h : PbConv.Header} (n : CastNumbers)
    (halLocationInfo : PbConv.GnssLocationInfoNotification h) :
    Logged (List (Fidl.GnssMeasUsageInfo × Bool)) :=
  Logged.append halLocationInfo.numOfMeasReceived.toNat halLocationInfo.measUsageInfo.toList
    (fun usage => pure (parseMeasUsage n usage)) []

def parseLocationPositionDynamics (halPositionDynamics : PbConv.GnssLocationPositionDynamics)
    (halPositionDynamicsExt : PbConv.GnssLocationPositionDynamicsExt) :
    Fidl.PositionDynamics where
  bodyFrameDataMask :=
    Fidl.posDataTable.write (posDataMarks halPositionDynamics halPositionDynamicsExt)
  field f := Fidl.given (posDataMarks halPositionDynamics halPositionDynamicsExt f)
    (posDataField halPositionDynamics halPositionDynamicsExt f) 0

def parseLocationReliability : PbConv.LocationReliability → Fidl.LocReliability
  | .veryLow => .veryLow
  | .low => .low
  | .medium => .medium
  | .high => .high
  | .notSet => .notSet

def parseGnssTime (halGnssTime : PbConv.GnssSystemTimeStructType) :
    Fidl.GnssSystemTimeStruct where
  validityMask := Fidl.systemTimeTable.write (gnssTimeMarks halGnssTime.validityMask)
  systemWeek := Fidl.given (halGnssTime.validityMask .weekValid) halGnssTime.systemWeek.toUInt16 0
  systemMsec := Fidl.given (halGnssTime.validityMask .weekMsValid) halGnssTime.systemMsec 0
  systemClkTimeBias :=
    Fidl.given (halGnssTime.validityMask .clkTimeBiasValid) halGnssTime.systemClkTimeBias 0
  systemClkTimeUncMs :=
    Fidl.given (halGnssTime.validityMask .clkTimeBiasUncValid) halGnssTime.systemClkTimeUncMs 0
  refFCount := Fidl.given (halGnssTime.validityMask .refFcountValid) halGnssTime.refFCount 0
  numClockResets :=
    Fidl.given (halGnssTime.validityMask .numClockResetsValid) halGnssTime.numClockResets 0

def parseGloTime (halGloTime : PbConv.GnssGloTimeStructType) : Fidl.GnssGloTimeStruct where
  validityMask := Fidl.gloTimeTable.write (gloTimeMarks halGloTime.validityMask)
  gloDays := Fidl.given (halGloTime.validityMask .cloDaysValid) halGloTime.gloDays 0
  gloMsec := Fidl.given (halGloTime.validityMask .gloMsecValid) halGloTime.gloMsec 0
  gloClkTimeBias :=
    Fidl.given (halGloTime.validityMask .gloClkTimeBiasValid) halGloTime.gloClkTimeBias 0
  gloClkTimeUncMs :=
    Fidl.given (halGloTime.validityMask .gloClkTimeBiasUncValid) halGloTime.gloClkTimeUncMs 0
  refFCount := Fidl.given (halGloTime.validityMask .gloRefFcountValid) halGloTime.refFCount 0
  numClockResets :=
    Fidl.given (halGloTime.validityMask .gloNumClockResetsValid) halGloTime.numClockResets 0
  gloFourYear := Fidl.given (halGloTime.validityMask .gloFourYearValid) halGloTime.gloFourYear 0

/-- `none` is the structure of zeros. -/
def parseSystemTime (halSystemTime : PbConv.GnssSystemTime) : Option Fidl.GnssSystemTime :=
  match halSystemTime.gnssSystemTimeSrc with
  | .gps => some (.gps (parseGnssTime halSystemTime.u.gpsSystemTime))
  | .galileo => some (.galileo (parseGnssTime halSystemTime.u.galSystemTime))
  | .sbas => some .sbas
  | .glonass => some (.glonass (parseGloTime halSystemTime.u.gloSystemTime))
  | .bds => some (.bds (parseGnssTime halSystemTime.u.bdsSystemTime))
  | .qzss => some (.qzss (parseGnssTime halSystemTime.u.qzssSystemTime))
  | .navic => some (.navic (parseGnssTime halSystemTime.u.navicSystemTime))
  | .unknown => none

/-- A report of the client API.  It has some constellation or system time also where that is the
one of number 0, and then the mark of its name is off. -/
structure ClientReport where
  location : Fidl.GnssLocation
  timeNamed : Bool
  usageNamed : List Bool

/-- The report but for its two lists. -/
def locationInfo {h : PbConv.Header} (n : CastNumbers)
    (halLocationInfo : PbConv.GnssLocationInfoNotification h)
    (measUsageInfo : List Fidl.GnssMeasUsageInfo) (dgnssStationId : List UInt16) :
    Fidl.GnssLocation :=
  let location := parseLocation n halLocationInfo.location default
  { location with
    gnssInfoFlags := Fidl.lcaInfoFlags.write (infoMarks halLocationInfo)
    calibrationConfidencePercent :=
      Fidl.given (halLocationInfo.flags .calibrationConfidence)
        halLocationInfo.calibrationConfidence 0
    calibrationStatus := Fidl.given (halLocationInfo.flags .calibrationStatus)
      (h.drCalibrationStatuses.write halLocationInfo.calibrationStatus) 0
    baseLineLength :=
      Fidl.given (halLocationInfo.flags .baseLineLength) halLocationInfo.baseLineLength 0
    ageMsecOfCorrections :=
      Fidl.given (halLocationInfo.flags .ageOfCorrection) halLocationInfo.ageMsecOfCorrections 0
    posReportingInterval :=
      Fidl.given (halLocationInfo.flags .reportInterval) halLocationInfo.posReportingInterval 0
    altitudeMeanSeaLevel := halLocationInfo.altitudeMeanSeaLevel
    pdop := halLocationInfo.pdop
    hdop := halLocationInfo.hdop
    vdop := halLocationInfo.vdop
    gdop := halLocationInfo.gdop
    tdop := halLocationInfo.tdop
    magneticDeviation := halLocationInfo.magneticDeviation
    horReliability := parseLocationReliability halLocationInfo.horReliability
    verReliability := parseLocationReliability halLocationInfo.verReliability
    horUncEllipseSemiMajor := halLocationInfo.horUncEllipseSemiMajor
    horUncEllipseSemiMinor := halLocationInfo.horUncEllipseSemiMinor
    horUncEllipseOrientAzimuth := halLocationInfo.horUncEllipseOrientAzimuth
    northStdDeviation := halLocationInfo.northStdDeviation
    eastStdDeviation := halLocationInfo.eastStdDeviation
    northVelocity := halLocationInfo.northVelocity
    eastVelocity := halLocationInfo.eastVelocity
    upVelocity := halLocationInfo.upVelocity
    northVelocityStdDeviation := halLocationInfo.northVelocityStdDeviation
    eastVelocityStdDeviation := halLocationInfo.eastVelocityStdDeviation
    upVelocityStdDeviation := halLocationInfo.upVelocityStdDeviation
    numSvUsedInPosition := halLocationInfo.numSvUsedInPosition
    svUsedInPosition := parseLocationSvUsedInPosition halLocationInfo.svUsedInPosition
    locOutputEngType := n.locOutputEngType halLocationInfo.locOutputEngType
    locOutputEngMask := n.locOutputEngMask.write halLocationInfo.locOutputEngMask
    conformityIndex := halLocationInfo.conformityIndex
    llaVRPBased := ⟨halLocationInfo.llaVRPBased.latitude, halLocationInfo.llaVRPBased.longitude,
      halLocationInfo.llaVRPBased.altitude⟩
    enuVelocityVRPBased := halLocationInfo.enuVelocityVRPBased
    measUsageInfo
    drSolutionStatusMask := n.drSolutionStatusMask.write halLocationInfo.drSolutionStatusMask
    altitudeAssumed := halLocationInfo.altitudeAssumed
    integrityRiskUsed := halLocationInfo.integrityRiskUsed
    protectAlongTrack := halLocationInfo.protectAlongTrack
    protectCrossTrack := halLocationInfo.protectCrossTrack
    protectVertical := halLocationInfo.protectVertical
    dgnssStationId
    navSolutionMask := navSolutionTable.write (navSolutionMarks halLocationInfo.navSolutionMask)
    posTechMask := location.techMask
    bodyFrameData := parseLocationPositionDynamics halLocationInfo.bodyFrameData
      halLocationInfo.bodyFrameDataExt
    gnssSystemTime := (parseSystemTime halLocationInfo.gnssSystemTime).getD default
    leapSeconds := halLocationInfo.leapSeconds
    leapSecondsUnc := halLocationInfo.leapSecondsUnc }

def parseLocationInfo {h : PbConv.Header} (n : CastNumbers)
    (halLocationInfo : PbConv.GnssLocationInfoNotification h) : Logged ClientReport := do
  let usage ← parseGnssMeasUsageInfo n halLocationInfo
  let dgnssStationId ← Logged.append halLocationInfo.numOfDgnssStationId.toNat
    halLocationInfo.dgnssStationId.toList pure []
  pure
    { location := locationInfo n halLocationInfo (usage.map Prod.fst) dgnssStationId
      timeNamed := (parseSystemTime halLocationInfo.gnssSystemTime).isSome
      usageNamed := usage.map Prod.snd }

end Client
end LocationStack
