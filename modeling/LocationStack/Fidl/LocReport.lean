import LocationStack.Fidl.ReportParts

/-! # Position reports

`parseLocReport` makes the report of the FIDL from one of the client API.  What the client marks
valid stands in two words, of which one also has two flags of the other's fields; the report has
three words.

The report is faithful exactly if the client's one has none of the things that the function gets
wrong (`parseLocReport_faithful_iff`): a line that sets the flag of another velocity, a reliability
without a case, two flags under the guard of one, fields that are copied under another flag than
one of theirs, and the three stations.
-/
namespace LocationStack
namespace Fidl

/-! ## The report of the client -/

/-- The flags of a `Location`, in the order of their bits; the FIDL has the first twelve. -/
inductive LocationFlag
  | latLong | altitude | speed | bearing | accuracy | verticalAccuracy | speedAccuracy
  | bearingAccuracy | timestamp | elapsedRealTime | elapsedRealTimeUnc | timeUnc | gptpTime
  | gptpTimeUnc | sessionStatus
  deriving DecidableEq

def locationFlagNames : List LocationFlag :=
  [.latLong, .altitude, .speed, .bearing, .accuracy, .verticalAccuracy, .speedAccuracy,
    .bearingAccuracy, .timestamp, .elapsedRealTime, .elapsedRealTimeUnc, .timeUnc]

def lcaLocationFlags : FlagTable LocationFlag 32 :=
  .inOrder (locationFlagNames ++ [.gptpTime, .gptpTimeUnc, .sessionStatus]) (by decide)

def idlLocationFlags : FlagTable LocationFlag 32 := .inOrder locationFlagNames (by decide)

/-- The flags of a `GnssLocation`; its own word has no bit for the last two. -/
inductive InfoFlag
  | altitudeMeanSeaLevel | dop | magneticDeviation | horReliability | verReliability
  | horAccuracyElipSemiMajor | horAccuracyElipSemiMinor | horAccuracyElipAzimuth | gnssSvUsedData
  | navSolutionMask | posTechMask | svSourceInfo | posDynamicsData | extDop | northStdDev
  | eastStdDev | northVel | eastVel | upVel | northVelUnc | eastVelUnc | upVelUnc | leapSeconds
  | timeUnc | numSvUsedInPosition | calibrationConfidencePercent | calibrationStatus
  | outputEngType | outputEngMask | conformityIndex | llaVrpBased | enuVelocityVrpBased
  | drSolutionStatusMask | altitudeAssumed | sessionStatus | integrityRiskUsed
  | protectAlongTrack | protectCrossTrack | protectVertical | dgnssStationId | baseLineLength
  | ageOfCorrection | leapSecondsUnc | reportInterval | gptpTime | gptpTimeUnc
  deriving DecidableEq

def lcaInfoFlags : FlagTable InfoFlag 64 :=
  .inOrder [.altitudeMeanSeaLevel, .dop, .magneticDeviation, .horReliability, .verReliability,
    .horAccuracyElipSemiMajor, .horAccuracyElipSemiMinor, .horAccuracyElipAzimuth, .gnssSvUsedData,
    .navSolutionMask, .posTechMask, .svSourceInfo, .posDynamicsData, .extDop, .northStdDev,
    .eastStdDev, .northVel, .eastVel, .upVel, .northVelUnc, .eastVelUnc, .upVelUnc, .leapSeconds,
    .timeUnc, .numSvUsedInPosition, .calibrationConfidencePercent, .calibrationStatus,
    .outputEngType, .outputEngMask, .conformityIndex, .llaVrpBased, .enuVelocityVrpBased,
    .drSolutionStatusMask, .altitudeAssumed, .sessionStatus, .integrityRiskUsed,
    .protectAlongTrack, .protectCrossTrack, .protectVertical, .dgnssStationId, .baseLineLength,
    .ageOfCorrection, .leapSecondsUnc, .reportInterval] (by decide)

structure LLAInfo where
  (latitude longitude : Double)
  altitude : Single
  deriving Inhabited

structure GnssLocation where
  flags : BitVec 32
  sessionStatus : SessionStatus
  timestamp : UInt64
  (latitude longitude altitude : Double)
  (speed bearing horizontalAccuracy verticalAccuracy speedAccuracy bearingAccuracy : Single)
  techMask : BitVec 32
  (elapsedRealTimeNs elapsedRealTimeUncNs : UInt64)
  timeUncMs : Single
  (elapsedgPTPTime elapsedgPTPTimeUnc : UInt64)
  gnssInfoFlags : BitVec 64
  (altitudeMeanSeaLevel pdop hdop vdop gdop tdop magneticDeviation : Single)
  (horReliability verReliability : LocReliability)
  (horUncEllipseSemiMajor horUncEllipseSemiMinor horUncEllipseOrientAzimuth : Single)
  (northStdDeviation eastStdDeviation northVelocity eastVelocity upVelocity : Single)
  (northVelocityStdDeviation eastVelocityStdDeviation upVelocityStdDeviation : Single)
  numSvUsedInPosition : UInt16
  svUsedInPosition : SvUsedIds
  (navSolutionMask posTechMask : BitVec 32)
  bodyFrameData : PositionDynamics
  gnssSystemTime : GnssSystemTime
  measUsageInfo : List GnssMeasUsageInfo
  (leapSeconds calibrationConfidencePercent : UInt8)
  calibrationStatus : BitVec 32
  locOutputEngType : OutputEngine
  locOutputEngMask : BitVec 32
  conformityIndex : Single
  llaVRPBased : LLAInfo
  enuVelocityVRPBased : Vector Single 3
  drSolutionStatusMask : BitVec 32
  altitudeAssumed : Bool
  integrityRiskUsed : UInt32
  (protectAlongTrack protectCrossTrack protectVertical : Single)
  dgnssStationId : List UInt16
  baseLineLength : Double
  ageMsecOfCorrections : UInt64
  leapSecondsUnc : UInt8
  posReportingInterval : UInt32
  deriving Inhabited

namespace GnssLocation

def has (loc : GnssLocation) (f : LocationFlag) : Bool := lcaLocationFlags.read loc.flags f

def hasInfo (loc : GnssLocation) (f : InfoFlag) : Bool := lcaInfoFlags.read loc.gnssInfoFlags f

/-- The fields of a `Location` that are marked valid; one of them is marked in the other word, too,
by a flag that is deprecated. -/
def marked (loc : GnssLocation) : Flags LocationFlag
  | .timeUnc => loc.has .timeUnc || loc.hasInfo .timeUnc
  | f => loc.has f

/-- The other fields that are marked valid. -/
def markedInfo (loc : GnssLocation) : Flags InfoFlag
  | .sessionStatus => loc.hasInfo .sessionStatus || loc.has .sessionStatus
  | .gptpTime => loc.has .gptpTime
  | .gptpTimeUnc => loc.has .gptpTimeUnc
  | f => loc.hasInfo f

/-- The tests of the blocks of `parseLocReport`. -/
def tested (loc : GnssLocation) : Flags InfoFlag
  | .gptpTime => loc.has .gptpTime
  | f => loc.hasInfo f

end GnssLocation

/-! ## The report of the FIDL -/

structure LocationT where
  flags : BitVec 32
  timestamp : UInt64
  (latitude longitude altitude : Double)
  (speed bearing horizontalAccuracy verticalAccuracy speedAccuracy bearingAccuracy : Single)
  techMask : BitVec 32
  (elapsedRealTimeNs elapsedRealTimeUncNs : UInt64)
  timeUncMs : Single

def reportFlagNames : List InfoFlag :=
  [.altitudeMeanSeaLevel, .dop, .magneticDeviation, .horReliability, .verReliability,
    .horAccuracyElipSemiMajor, .horAccuracyElipSemiMinor, .horAccuracyElipAzimuth, .gnssSvUsedData,
    .navSolutionMask, .posTechMask, .posDynamicsData, .extDop, .northStdDev, .eastStdDev,
    .northVel, .eastVel, .upVel, .northVelUnc, .eastVelUnc, .upVelUnc, .leapSeconds,
    .numSvUsedInPosition, .calibrationConfidencePercent, .calibrationStatus, .outputEngType,
    .outputEngMask, .conformityIndex, .llaVrpBased, .enuVelocityVrpBased, .drSolutionStatusMask]

def idlReportFlags : FlagTable InfoFlag 32 := .inOrder reportFlagNames (by decide)

def extendedFlagNames : List InfoFlag :=
  [.altitudeAssumed, .sessionStatus, .integrityRiskUsed, .protectAlongTrack, .protectCrossTrack,
    .protectVertical, .dgnssStationId, .gptpTime, .gptpTimeUnc, .baseLineLength, .ageOfCorrection,
    .reportInterval, .leapSecondsUnc]

def idlExtendedFlags : FlagTable InfoFlag 32 := .inOrder extendedFlagNames (by decide)

/-- The line for `northVelUnc` sets the flag of the upward velocity. -/
def reportLines : List (InfoFlag × InfoFlag) :=
  [(.altitudeMeanSeaLevel, .altitudeMeanSeaLevel), (.dop, .dop), (.extDop, .extDop),
    (.magneticDeviation, .magneticDeviation), (.horReliability, .horReliability),
    (.verReliability, .verReliability), (.horAccuracyElipSemiMajor, .horAccuracyElipSemiMajor),
    (.horAccuracyElipSemiMinor, .horAccuracyElipSemiMinor),
    (.horAccuracyElipAzimuth, .horAccuracyElipAzimuth), (.northStdDev, .northStdDev),
    (.eastStdDev, .eastStdDev), (.northVel, .northVel), (.eastVel, .eastVel), (.upVel, .upVel),
    (.northVelUnc, .upVelUnc), (.eastVelUnc, .eastVelUnc), (.upVelUnc, .upVelUnc),
    (.numSvUsedInPosition, .numSvUsedInPosition), (.gnssSvUsedData, .gnssSvUsedData),
    (.navSolutionMask, .navSolutionMask), (.posTechMask, .posTechMask),
    (.posDynamicsData, .posDynamicsData), (.leapSeconds, .leapSeconds),
    (.calibrationConfidencePercent, .calibrationConfidencePercent),
    (.calibrationStatus, .calibrationStatus), (.outputEngType, .outputEngType),
    (.outputEngMask, .outputEngMask), (.conformityIndex, .conformityIndex),
    (.llaVrpBased, .llaVrpBased), (.enuVelocityVrpBased, .enuVelocityVrpBased),
    (.drSolutionStatusMask, .drSolutionStatusMask)]

/-- The block of the gPTP time sets two flags. -/
def extendedLines : List (InfoFlag × InfoFlag) :=
  [(.altitudeAssumed, .altitudeAssumed), (.sessionStatus, .sessionStatus),
    (.integrityRiskUsed, .integrityRiskUsed), (.protectAlongTrack, .protectAlongTrack),
    (.protectCrossTrack, .protectCrossTrack), (.protectVertical, .protectVertical),
    (.dgnssStationId, .dgnssStationId), (.gptpTime, .gptpTime), (.gptpTime, .gptpTimeUnc),
    (.baseLineLength, .baseLineLength), (.ageOfCorrection, .ageOfCorrection),
    (.leapSecondsUnc, .leapSecondsUnc), (.reportInterval, .reportInterval)]

structure LocationReportT where
  locInfo : LocationT
  (locationInfoFlags locationInfoExtendedFlags : BitVec 32)
  (altitudeMeanSeaLevel pdop hdop vdop gdop tdop magneticDeviation : Single)
  (horReliability verReliability : LocReliability)
  (horUncEllipseSemiMajor horUncEllipseSemiMinor horUncEllipseOrientAzimuth : Single)
  (northStdDeviation eastStdDeviation northVelocity eastVelocity upVelocity : Single)
  (northVelocityStdDeviation eastVelocityStdDeviation upVelocityStdDeviation : Single)
  numSvUsedInPosition : UInt32
  svUsedInPosition : SvUsedIds
  (navSolutionMask posTechMask : BitVec 32)
  bodyFrameData : PositionDynamics
  gnssSystemTime : GnssSystemTimeT
  measUsageInfo : List GnssMeasUsageInfoT
  (leapSeconds calibrationConfidencePercent : UInt32)
  calibrationStatus : BitVec 32
  locOutputEngType : Option OutputEngine
  locOutputEngMask : BitVec 32
  conformityIndex : Single
  llaVrpBased : LLAInfo
  enuVelocityVrpBased : List Single
  drSolutionStatusMask : BitVec 32
  altitudeAssumed : Bool
  sessionStatus : Option SessionStatus
  integrityRiskUsed : UInt32
  (protectAlongTrack protectCrossTrack protectVertical : Single)
  dgnssStationId : List UInt32
  (elapsedgPtpTime elapsedgPtpTimeUnc : UInt64)
  baseLineLength : Double
  ageMsecOfCorrections : UInt64
  (posReportingInterval leapSecondsUnc : UInt32)

/-! ## The conversion -/

def parseBasicLocationInfo (loc : GnssLocation) : LocationT where
  flags := idlLocationFlags.rename (locationFlagNames.map fun f => (f, f)) loc.has
  timestamp := given (loc.has .timestamp) loc.timestamp 0
  latitude := given (loc.has .latLong) loc.latitude 0
  longitude := given (loc.has .latLong) loc.longitude 0
  altitude := given (loc.has .altitude) loc.altitude 0
  speed := given (loc.has .speed) loc.speed 0
  bearing := given (loc.has .bearing) loc.bearing 0
  horizontalAccuracy := given (loc.has .accuracy) loc.horizontalAccuracy 0
  verticalAccuracy := given (loc.has .verticalAccuracy) loc.verticalAccuracy 0
  speedAccuracy := given (loc.has .speedAccuracy) loc.speedAccuracy 0
  bearingAccuracy := given (loc.has .bearingAccuracy) loc.bearingAccuracy 0
  techMask := parseIDLPosTechMask loc.techMask
  elapsedRealTimeNs := given (loc.has .elapsedRealTime) loc.elapsedRealTimeNs 0
  elapsedRealTimeUncNs := given (loc.has .elapsedRealTimeUnc) loc.elapsedRealTimeUncNs 0
  timeUncMs := given (loc.has .timeUnc) loc.timeUncMs 0

def parseIDLLatLongAltInfo (lla : LLAInfo) : LLAInfo where
  latitude := lla.latitude
  longitude := lla.longitude
  altitude := lla.altitude

/-- `dgnssStationId[0]`, `[1]` and `[2]`. -/
def parseDgnssStationIds (ids : List UInt16) : Logged (List UInt32) :=
  Logged.append 3 ids (fun id => pure id.toUInt32) []

/-- A list whose block is entered, or not. -/
def listIf {α : Type} (valid : Bool) (list : Logged (List α)) : Logged (List α) :=
  if valid then list else pure []

/-- The two lists that the report has from others. -/
def parseLocLists (loc : GnssLocation) : Logged (List GnssMeasUsageInfoT × List UInt32) := do
  let measUsageInfo ← listIf (loc.tested .gnssSvUsedData) (parseIDLMeasUsageInfo loc.measUsageInfo)
  let dgnssStationId ← listIf (loc.tested .dgnssStationId) (parseDgnssStationIds loc.dgnssStationId)
  pure (measUsageInfo, dgnssStationId)

/-- The report with these lists. -/
def locReport (loc : GnssLocation) (lists : List GnssMeasUsageInfoT × List UInt32) :
    LocationReportT where
  locInfo := parseBasicLocationInfo loc
  locationInfoFlags := idlReportFlags.rename reportLines loc.tested
  locationInfoExtendedFlags := idlExtendedFlags.rename extendedLines loc.tested
  altitudeMeanSeaLevel := given (loc.tested .altitudeMeanSeaLevel) loc.altitudeMeanSeaLevel 0
  pdop := given (loc.tested .dop) loc.pdop 0
  hdop := given (loc.tested .dop) loc.hdop 0
  vdop := given (loc.tested .dop) loc.vdop 0
  gdop := given (loc.tested .extDop) loc.gdop 0
  tdop := given (loc.tested .extDop) loc.tdop 0
  magneticDeviation := given (loc.tested .magneticDeviation) loc.magneticDeviation 0
  horReliability :=
    given (loc.tested .horReliability) (parseIDLLocReliability loc.horReliability) .notSet
  verReliability :=
    given (loc.tested .verReliability) (parseIDLLocReliability loc.verReliability) .notSet
  horUncEllipseSemiMajor :=
    given (loc.tested .horAccuracyElipSemiMajor) loc.horUncEllipseSemiMajor 0
  horUncEllipseSemiMinor :=
    given (loc.tested .horAccuracyElipSemiMinor) loc.horUncEllipseSemiMinor 0
  horUncEllipseOrientAzimuth :=
    given (loc.tested .horAccuracyElipAzimuth) loc.horUncEllipseOrientAzimuth 0
  northStdDeviation := given (loc.tested .northStdDev) loc.northStdDeviation 0
  eastStdDeviation := given (loc.tested .eastStdDev) loc.eastStdDeviation 0
  northVelocity := given (loc.tested .northVel) loc.northVelocity 0
  eastVelocity := given (loc.tested .eastVel) loc.eastVelocity 0
  upVelocity := given (loc.tested .upVel) loc.upVelocity 0
  northVelocityStdDeviation := given (loc.tested .northVelUnc) loc.northVelocityStdDeviation 0
  eastVelocityStdDeviation := given (loc.tested .eastVelUnc) loc.eastVelocityStdDeviation 0
  upVelocityStdDeviation := given (loc.tested .upVelUnc) loc.upVelocityStdDeviation 0
  numSvUsedInPosition :=
    given (loc.tested .numSvUsedInPosition) loc.numSvUsedInPosition.toUInt32 0
  svUsedInPosition :=
    given (loc.tested .numSvUsedInPosition) (parseIDLSvUsedInPosition loc.svUsedInPosition) .none
  navSolutionMask :=
    given (loc.tested .navSolutionMask) (parseIDLNavSolutionMask loc.navSolutionMask) 0
  posTechMask := given (loc.tested .posTechMask) (parseIDLPosTechMask loc.posTechMask) 0
  bodyFrameData :=
    given (loc.tested .posDynamicsData) (parseIDLBodyFrameData loc.bodyFrameData) .new
  gnssSystemTime := parseGnssSystemTime loc.gnssSystemTime
  measUsageInfo := lists.1
  leapSeconds := given (loc.tested .leapSeconds) loc.leapSeconds.toUInt32 0
  calibrationConfidencePercent :=
    given (loc.tested .calibrationConfidencePercent) loc.calibrationConfidencePercent.toUInt32 0
  calibrationStatus :=
    given (loc.tested .calibrationStatus) (parseIDLCalibrationStatus loc.calibrationStatus) 0
  locOutputEngType :=
    given (loc.tested .outputEngType) (parseIDLOutputEngine loc.locOutputEngType) none
  locOutputEngMask := given (loc.tested .outputEngMask) (parseIDLEngMask loc.locOutputEngMask) 0
  conformityIndex := given (loc.tested .conformityIndex) loc.conformityIndex 0
  llaVrpBased := given (loc.tested .llaVrpBased) (parseIDLLatLongAltInfo loc.llaVRPBased) ⟨0, 0, 0⟩
  enuVelocityVrpBased :=
    given (loc.tested .enuVelocityVrpBased)
      [loc.enuVelocityVRPBased[0], loc.enuVelocityVRPBased[1], loc.enuVelocityVRPBased[2]] []
  drSolutionStatusMask :=
    given (loc.tested .drSolutionStatusMask) (parseIDLDrSolStatusMask loc.drSolutionStatusMask) 0
  altitudeAssumed := given (loc.tested .altitudeAssumed) loc.altitudeAssumed false
  sessionStatus := given (loc.tested .sessionStatus) (parseIDLSessionStatus loc.sessionStatus) none
  integrityRiskUsed := given (loc.tested .integrityRiskUsed) loc.integrityRiskUsed 0
  protectAlongTrack := given (loc.tested .protectAlongTrack) loc.protectAlongTrack 0
  protectCrossTrack := given (loc.tested .protectCrossTrack) loc.protectCrossTrack 0
  protectVertical := given (loc.tested .protectVertical) loc.protectVertical 0
  dgnssStationId := lists.2
  elapsedgPtpTime := given (loc.tested .gptpTime) loc.elapsedgPTPTime 0
  elapsedgPtpTimeUnc := given (loc.tested .gptpTime) loc.elapsedgPTPTimeUnc 0
  baseLineLength := given (loc.tested .baseLineLength) loc.baseLineLength 0
  ageMsecOfCorrections := given (loc.tested .ageOfCorrection) loc.ageMsecOfCorrections 0
  posReportingInterval := given (loc.tested .reportInterval) loc.posReportingInterval 0
  leapSecondsUnc := given (loc.tested .leapSecondsUnc) loc.leapSecondsUnc.toUInt32 0

def parseLocReport (loc : GnssLocation) : Logged LocationReportT := do
  let lists ← parseLocLists loc
  pure (locReport loc lists)

end Fidl
end LocationStack
