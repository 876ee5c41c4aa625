import LocationStack.PbConv.LocationParts

/-! # Sentences, system information, disaster reports and debug reports

These reports have no array of a fixed capacity.  The debug report holds its time by value, and
the decoder of the time is handed a copy of it.
-/
namespace LocationStack
namespace PbConv

/-! ## NMEA sentences -/

structure LocAPINmeaSerializedPayload where
  timestamp : UInt64
  nmea : List UInt8
  locOutputEngType : LocOutputEngineType
  deriving Inhabited

structure PBLocAPINmeaSerializedPayload where
  timestamp : UInt64
  nmea : List UInt8
  locOutputEngType : PBLocApiOutputEngineType
  deriving Inhabited

def convertLocAPINmeaSerializedPayloadToPB (nmea : LocAPINmeaSerializedPayload) :
    PBLocAPINmeaSerializedPayload where
  timestamp := nmea.timestamp
  nmea := nmea.nmea
  locOutputEngType := getPBEnumForLocOutputEngineType nmea.locOutputEngType

def pbConvertToLocAPINmeaSerializedPayload (pb : PBLocAPINmeaSerializedPayload) :
    LocAPINmeaSerializedPayload where
  timestamp := pb.timestamp
  nmea := pb.nmea
  locOutputEngType := getEnumForPBLocOutputEngineType pb.locOutputEngType

/-- A sentence survives exactly if the message has its engine. -/
theorem pbConvertToLocAPINmeaSerializedPayload_iff (nmea : LocAPINmeaSerializedPayload) :
    pbConvertToLocAPINmeaSerializedPayload (convertLocAPINmeaSerializedPayloadToPB nmea) = nmea ↔
      nmea.locOutputEngType ≠ .vpe := by
  obtain ⟨⟩ := nmea
  simp only [pbConvertToLocAPINmeaSerializedPayload, convertLocAPINmeaSerializedPayloadToPB,
    LocAPINmeaSerializedPayload.mk.injEq, getEnumForPBLocOutputEngineType_getPBEnum_iff, true_and]

/-! ## System information -/

inductive LeapSecondSysInfoFlag
  | currentLeapSeconds | leapSecondChange
  deriving Repr, DecidableEq

def leapSecondSysInfoFlags : FlagTable LeapSecondSysInfoFlag 32 where
  rows := [(.currentLeapSeconds, 1), (.leapSecondChange, 2)]
  nonzero := by decide
  disjoint := by decide

def getPBMaskForLeapSecondSysInfoMask : Flags LeapSecondSysInfoFlag → BitVec 32 :=
  leapSecondSysInfoFlags.write

def getLeapSecSysInfoMaskFromPB : BitVec 32 → Flags LeapSecondSysInfoFlag :=
  leapSecondSysInfoFlags.read

@[simp] theorem getLeapSecSysInfoMaskFromPB_getPBMaskForLeapSecondSysInfoMask
    (m : Flags LeapSecondSysInfoFlag) :
    getLeapSecSysInfoMaskFromPB (getPBMaskForLeapSecondSysInfoMask m) = m :=
  leapSecondSysInfoFlags.read_write (fun f => by cases f <;> decide) m

inductive LocationSystemInfoFlag
  | leapSecond
  deriving Repr, DecidableEq

def locationSystemInfoFlags : FlagTable LocationSystemInfoFlag 32 where
  rows := [(.leapSecond, 1)]
  nonzero := by decide
  disjoint := by decide

def getPBMaskForLocSysInfoMask : Flags LocationSystemInfoFlag → BitVec 32 :=
  locationSystemInfoFlags.write

def getLocationSystemInfoMaskFromPB : BitVec 32 → Flags LocationSystemInfoFlag :=
  locationSystemInfoFlags.read

@[simp] theorem getLocationSystemInfoMaskFromPB_getPBMaskForLocSysInfoMask
    (m : Flags LocationSystemInfoFlag) :
    getLocationSystemInfoMaskFromPB (getPBMaskForLocSysInfoMask m) = m :=
  locationSystemInfoFlags.read_write (fun f => by cases f; decide) m

structure LeapSecondChangeInfo where
  gpsTimestampLsChange : GnssSystemTimeStructType
  (leapSecondsBeforeChange leapSecondsAfterChange : UInt8)
  deriving Inhabited

structure PBLeapSecondChangeInfo where
  gpsTimestampLsChange : PBGnssSystemTimeStructType
  (leapSecondsBeforeChange leapSecondsAfterChange : UInt32)
  deriving Inhabited

def convertLeapSecChgInfoToPB (info : LeapSecondChangeInfo) : PBLeapSecondChangeInfo where
  gpsTimestampLsChange := convertGnssSystemTimeStructTypeToPB info.gpsTimestampLsChange
  leapSecondsBeforeChange := info.leapSecondsBeforeChange.toUInt32
  leapSecondsAfterChange := info.leapSecondsAfterChange.toUInt32

def pbConvertToLeapSecChgInfo (pb : PBLeapSecondChangeInfo) : LeapSecondChangeInfo where
  gpsTimestampLsChange := pbConvertToSystemTime pb.gpsTimestampLsChange
  leapSecondsBeforeChange := pb.leapSecondsBeforeChange.toUInt8
  leapSecondsAfterChange := pb.leapSecondsAfterChange.toUInt8

@[simp] theorem pbConvertToLeapSecChgInfo_convertLeapSecChgInfoToPB (info : LeapSecondChangeInfo) :
    pbConvertToLeapSecChgInfo (convertLeapSecChgInfoToPB info) = info := by
  simp only [pbConvertToLeapSecChgInfo, convertLeapSecChgInfoToPB,
    pbConvertToSystemTime_convertToPB, UInt8.toUInt8_toUInt32]

structure LeapSecondSystemInfo where
  leapSecondInfoMask : Flags LeapSecondSysInfoFlag
  leapSecondCurrent : UInt8
  leapSecondChangeInfo : LeapSecondChangeInfo
  deriving Inhabited

structure PBLeapSecondSystemInfo where
  leapSecondInfoMask : BitVec 32
  leapSecondCurrent : UInt32
  leapSecondChangeInfo : PBLeapSecondChangeInfo
  deriving Inhabited

def convertLeapSecondSystemInfoToPB (info : LeapSecondSystemInfo) : PBLeapSecondSystemInfo where
  leapSecondInfoMask := getPBMaskForLeapSecondSysInfoMask info.leapSecondInfoMask
  leapSecondCurrent := info.leapSecondCurrent.toUInt32
  leapSecondChangeInfo := convertLeapSecChgInfoToPB info.leapSecondChangeInfo

def pbConvertToLeapSecSysInfo (pb : PBLeapSecondSystemInfo) : LeapSecondSystemInfo where
  leapSecondInfoMask := getLeapSecSysInfoMaskFromPB pb.leapSecondInfoMask
  leapSecondCurrent := pb.leapSecondCurrent.toUInt8
  leapSecondChangeInfo := pbConvertToLeapSecChgInfo pb.leapSecondChangeInfo

@[simp] theorem pbConvertToLeapSecSysInfo_convertLeapSecondSystemInfoToPB
    (info : LeapSecondSystemInfo) :
    pbConvertToLeapSecSysInfo (convertLeapSecondSystemInfoToPB info) = info := by
  simp only [pbConvertToLeapSecSysInfo, convertLeapSecondSystemInfoToPB,
    getLeapSecSysInfoMaskFromPB_getPBMaskForLeapSecondSysInfoMask, UInt8.toUInt8_toUInt32,
    pbConvertToLeapSecChgInfo_convertLeapSecChgInfoToPB]

structure LocationSystemInfo where
  systemInfoMask : Flags LocationSystemInfoFlag
  leapSecondSysInfo : LeapSecondSystemInfo
  deriving Inhabited

structure PBLocationSystemInfo where
  systemInfoMask : BitVec 32
  leapSecondSysInfo : PBLeapSecondSystemInfo
  deriving Inhabited

def convertLocSysInfoToPB (info : LocationSystemInfo) : PBLocationSystemInfo where
  systemInfoMask := getPBMaskForLocSysInfoMask info.systemInfoMask
  leapSecondSysInfo := convertLeapSecondSystemInfoToPB info.leapSecondSysInfo

def pbConvertToLocationSystemInfo (pb : PBLocationSystemInfo) : LocationSystemInfo where
  systemInfoMask := getLocationSystemInfoMaskFromPB pb.systemInfoMask
  leapSecondSysInfo := pbConvertToLeapSecSysInfo pb.leapSecondSysInfo

@[simp] theorem pbConvertToLocationSystemInfo_convertLocSysInfoToPB (info : LocationSystemInfo) :
    pbConvertToLocationSystemInfo (convertLocSysInfoToPB info) = info := by
  simp only [pbConvertToLocationSystemInfo, convertLocSysInfoToPB,
    getLocationSystemInfoMaskFromPB_getPBMaskForLocSysInfoMask,
    pbConvertToLeapSecSysInfo_convertLeapSecondSystemInfoToPB]

/-! ## Disaster reports -/

inductive GnssDcReportType
  | undefined | jmaDisasterPreventionInfo | nonJmaDisasterPreventionInfo
  deriving Repr, DecidableEq, Inhabited

inductive PBGnssDcReportType
  | undefined | jmaDisasterPreventionInfo | nonJmaDisasterPreventionInfo
  | unrecognized (value : BitVec 32)
  deriving Repr, DecidableEq, Inhabited

def getPBEnumForDcReportType : GnssDcReportType → PBGnssDcReportType
  | .undefined => .undefined
  | .jmaDisasterPreventionInfo => .jmaDisasterPreventionInfo
  | .nonJmaDisasterPreventionInfo => .nonJmaDisasterPreventionInfo

def getDcReportTypeFromPB : PBGnssDcReportType → GnssDcReportType
  | .undefined => .undefined
  | .jmaDisasterPreventionInfo => .jmaDisasterPreventionInfo
  | .nonJmaDisasterPreventionInfo => .nonJmaDisasterPreventionInfo
  | .unrecognized _ => .undefined

@[simp] theorem getDcReportTypeFromPB_getPBEnumForDcReportType (e : GnssDcReportType) :
    getDcReportTypeFromPB (getPBEnumForDcReportType e) = e := by
  cases e <;> rfl

structure GnssDcReportInfo where
  dcReportType : GnssDcReportType
  numValidBits : UInt32
  dcReportData : List UInt8
  prnValid : Bool
  prn : UInt8
  deriving Inhabited

structure PBGnssDcReportInfo where
  dcReportType : PBGnssDcReportType
  numValidBits : UInt32
  dcReportData : List UInt32
  prnValid : Bool
  prn : UInt32
  deriving Inhabited

def convertGnssDcReportToPB (dcReportInfo : GnssDcReportInfo) : PBGnssDcReportInfo where
  dcReportType := getPBEnumForDcReportType dcReportInfo.dcReportType
  numValidBits := dcReportInfo.numValidBits
  dcReportData := dcReportInfo.dcReportData.map UInt8.toUInt32
  prnValid := dcReportInfo.prnValid
  prn := dcReportInfo.prn.toUInt32

/-- The data are appended to those that the structure holds. -/
def pbConvertToDcReport (pb : PBGnssDcReportInfo) (dcReportInfo : GnssDcReportInfo) :
    Logged GnssDcReportInfo := do
  let dcReportData ← Logged.append (uint32Size pb.dcReportData.length) pb.dcReportData
    (fun x => pure x.toUInt8) dcReportInfo.dcReportData
  pure
    { dcReportType := getDcReportTypeFromPB pb.dcReportType
      numValidBits := pb.numValidBits
      dcReportData
      prnValid := pb.prnValid
      prn := pb.prn.toUInt8 }

theorem inBounds_pbConvertToDcReport (pb : PBGnssDcReportInfo) (dcReportInfo : GnssDcReportInfo) :
    (pbConvertToDcReport pb dcReportInfo).InBounds := by
  have hconv : ∀ x : UInt32, (pure x.toUInt8 : Logged UInt8).InBounds ↔ True :=
    fun _ => iff_true_intro (Logged.inBounds_pure _)
  rw [pbConvertToDcReport, Logged.inBounds_bind, Logged.inBounds_append hconv]
  exact ⟨⟨uint32Size_le _, fun _ _ => trivial⟩, Logged.inBounds_pure _⟩

/-- **A disaster report survives.** -/
theorem pbConvertToDcReport_convertGnssDcReportToPB {r : GnssDcReportInfo}
    (hlen : r.dcReportData.length < 2 ^ 31) (old : GnssDcReportInfo)
    (hold : old.dcReportData = []) :
    (pbConvertToDcReport (convertGnssDcReportToPB r) old).value = r := by
  have hcount : uint32Size (convertGnssDcReportToPB r).dcReportData.length =
      r.dcReportData.length := by
    rw [convertGnssDcReportToPB, List.length_map,
      uint32Size_of_lt (Nat.lt_trans hlen (by decide))]
  have hdata : (Logged.append r.dcReportData.length (r.dcReportData.map UInt8.toUInt32)
      (fun x => pure x.toUInt8) []).value = r.dcReportData :=
    (Logged.value_append_map_iff rfl).mpr fun x _ => UInt8.toUInt8_toUInt32 x
  simp only [pbConvertToDcReport, Logged.value_bind, Logged.value_pure, hcount, hold]
  simp only [convertGnssDcReportToPB, hdata, getDcReportTypeFromPB_getPBEnumForDcReportType,
    UInt8.toUInt8_toUInt32]

/-! ## Debug reports -/

inductive GnssEphemerisType
  | unknown | ephemeris | almanac
  deriving Repr, DecidableEq, Inhabited

inductive PBGnssEphemerisType
  | unknown | ephemeris | almanac
  | unrecognized (value : BitVec 32)
  deriving Repr, DecidableEq, Inhabited

def getPBEnumForGnssEphemerisType : GnssEphemerisType → PBGnssEphemerisType
  | .unknown => .unknown
  | .ephemeris => .ephemeris
  | .almanac => .almanac

def getEnumForPBGnssEphemerisType : PBGnssEphemerisType → GnssEphemerisType
  | .unknown => .unknown
  | .ephemeris => .ephemeris
  | .almanac => .almanac
  | .unrecognized _ => .unknown

@[simp] theorem getEnumForPBGnssEphemerisType_getPBEnumForGnssEphemerisType
    (e : GnssEphemerisType) :
    getEnumForPBGnssEphemerisType (getPBEnumForGnssEphemerisType e) = e := by
  cases e <;> rfl

inductive GnssEphemerisSource
  | unknown | demodulated | suplProvided | otherServerProvided | local
  deriving Repr, DecidableEq, Inhabited

inductive PBGnssEphemerisSource
  | unknown | demodulated | suplProvided | otherServerProvided | local
  | unrecognized (value : BitVec 32)
  deriving Repr, DecidableEq, Inhabited

def getPBEnumForGnssEphemerisSource : GnssEphemerisSource → PBGnssEphemerisSource
  | .unknown => .unknown
  | .demodulated => .demodulated
  | .suplProvided => .suplProvided
  | .otherServerProvided => .otherServerProvided
  | .local => .local

def getEnumForPBGnssEphemerisSource : PBGnssEphemerisSource → GnssEphemerisSource
  | .unknown => .unknown
  | .demodulated => .demodulated
  | .suplProvided => .suplProvided
  | .otherServerProvided => .otherServerProvided
  | .local => .local
  | .unrecognized _ => .unknown

@[simp] theorem getEnumForPBGnssEphemerisSource_getPBEnumForGnssEphemerisSource
    (e : GnssEphemerisSource) :
    getEnumForPBGnssEphemerisSource (getPBEnumForGnssEphemerisSource e) = e := by
  cases e <;> rfl

inductive GnssEphemerisHealth
  | unknown | good | bad
  deriving Repr, DecidableEq, Inhabited

inductive PBGnssEphemerisHealth
  | unknown | good | bad
  | unrecognized (value : BitVec 32)
  deriving Repr, DecidableEq, Inhabited

def getPBEnumForGnssEphemerisHealth : GnssEphemerisHealth → PBGnssEphemerisHealth
  | .unknown => .unknown
  | .good => .good
  | .bad => .bad

def getEnumForPBGnssEphemerisHealth : PBGnssEphemerisHealth → GnssEphemerisHealth
  | .unknown => .unknown
  | .good => .good
  | .bad => .bad
  | .unrecognized _ => .unknown

@[simp] theorem getEnumForPBGnssEphemerisHealth_getPBEnumForGnssEphemerisHealth
    (e : GnssEphemerisHealth) :
    getEnumForPBGnssEphemerisHealth (getPBEnumForGnssEphemerisHealth e) = e := by
  cases e <;> rfl

structure Timespec where
  (tv_sec tv_nsec : Int64)
  deriving Inhabited

structure PBTimespec where
  (tv_sec tv_nsec : UInt64)
  deriving Inhabited

def convertTimespecToPB (t : Timespec) : PBTimespec where
  tv_sec := t.tv_sec.toUInt64
  tv_nsec := t.tv_nsec.toUInt64

def pbConvertToGnssTimespec (pb : PBTimespec) : Timespec where
  tv_sec := pb.tv_sec.toInt64
  tv_nsec := pb.tv_nsec.toInt64

@[simp] theorem pbConvertToGnssTimespec_convertTimespecToPB (t : Timespec) :
    pbConvertToGnssTimespec (convertTimespecToPB t) = t := by
  simp only [pbConvertToGnssTimespec, convertTimespecToPB, Int64.toInt64_toUInt64]

structure GnssDebugLocation where
  mValid : Bool
  mLocation : Location
  (verticalAccuracyMeters speedAccuracyMetersPerSecond bearingAccuracyDegrees : Double)
  mUtcReported : Timespec
  deriving Inhabited

structure PBGnssDebugLocation where
  valid : Bool
  location : PBLocation
  (verticalAccuracyMeters speedAccuracyMetersPerSecond bearingAccuracyDegrees : Double)
  utcReported : PBTimespec
  deriving Inhabited

def convertGnssDebugLocationToPB (debugLocation : GnssDebugLocation) : PBGnssDebugLocation where
  valid := debugLocation.mValid
  location := convertLocationToPB debugLocation.mLocation
  verticalAccuracyMeters := debugLocation.verticalAccuracyMeters
  speedAccuracyMetersPerSecond := debugLocation.speedAccuracyMetersPerSecond
  bearingAccuracyDegrees := debugLocation.bearingAccuracyDegrees
  utcReported := convertTimespecToPB debugLocation.mUtcReported

def pbConvertToGnssDebugLocation (pb : PBGnssDebugLocation) : GnssDebugLocation where
  mValid := pb.valid
  mLocation := pbConvertToLocation pb.location
  verticalAccuracyMeters := pb.verticalAccuracyMeters
  speedAccuracyMetersPerSecond := pb.speedAccuracyMetersPerSecond
  bearingAccuracyDegrees := pb.bearingAccuracyDegrees
  mUtcReported := pbConvertToGnssTimespec pb.utcReported

theorem pbConvertToGnssDebugLocation_iff (debugLocation : GnssDebugLocation) :
    pbConvertToGnssDebugLocation (convertGnssDebugLocationToPB debugLocation) = debugLocation ↔
      debugLocation.mLocation.techMask .hybridAle = false := by
  obtain ⟨⟩ := debugLocation
  simp only [pbConvertToGnssDebugLocation, convertGnssDebugLocationToPB,
    GnssDebugLocation.mk.injEq, pbConvertToLocation_convertLocationToPB_iff,
    pbConvertToGnssTimespec_convertTimespecToPB, true_and, and_true]

structure GnssDebugTime where
  mValid : Bool
  timeEstimate : Int64
  (timeUncertaintyNs frequencyUncertaintyNsPerSec : Single)
  deriving Inhabited

structure PBGnssDebugTime where
  valid : Bool
  timeEstimate : Int64
  (timeUncertaintyNs frequencyUncertaintyNsPerSec : Single)
  deriving Inhabited

def convertGnssDebugTimeToPB (t : GnssDebugTime) : PBGnssDebugTime where
  valid := t.mValid
  timeEstimate := t.timeEstimate
  timeUncertaintyNs := t.timeUncertaintyNs
  frequencyUncertaintyNsPerSec := t.frequencyUncertaintyNsPerSec

def pbConvertToGnssDebugTime (pb : PBGnssDebugTime) : GnssDebugTime where
  mValid := pb.valid
  timeEstimate := pb.timeEstimate
  timeUncertaintyNs := pb.timeUncertaintyNs
  frequencyUncertaintyNsPerSec := pb.frequencyUncertaintyNsPerSec

structure GnssDebugSatelliteInfo where
  svid : UInt32
  constellation : GnssSvType
  mEphemerisType : GnssEphemerisType
  mEphemerisSource : GnssEphemerisSource
  mEphemerisHealth : GnssEphemerisHealth
  ephemerisAgeSeconds : Single
  serverPredictionIsAvailable : Bool
  serverPredictionAgeSeconds : Single
  deriving Inhabited

structure PBGnssDebugSatelliteInfo where
  svid : UInt32
  constellation : PBGnssLocSvSystemEnumType
  ephemerisType : PBGnssEphemerisType
  ephemerisSource : PBGnssEphemerisSource
  ephemerisHealth : PBGnssEphemerisHealth
  ephemerisAgeSeconds : Single
  serverPredictionIsAvailable : Bool
  serverPredictionAgeSeconds : Single
  deriving Inhabited

def convertGnssDebugSatelliteInfoToPB (info : GnssDebugSatelliteInfo) :
    PBGnssDebugSatelliteInfo where
  svid := info.svid
  constellation := getPBGnssLocSvSysEnumFromGnssSvType info.constellation
  ephemerisType := getPBEnumForGnssEphemerisType info.mEphemerisType
  ephemerisSource := getPBEnumForGnssEphemerisSource info.mEphemerisSource
  ephemerisHealth := getPBEnumForGnssEphemerisHealth info.mEphemerisHealth
  ephemerisAgeSeconds := info.ephemerisAgeSeconds
  serverPredictionIsAvailable := info.serverPredictionIsAvailable
  serverPredictionAgeSeconds := info.serverPredictionAgeSeconds

def pbConvertToGnssDebugSatelliteInfo (pb : PBGnssDebugSatelliteInfo) : GnssDebugSatelliteInfo where
  svid := pb.svid
  constellation := getGnssSvTypeFromPBGnssLocSvSystemEnumType pb.constellation
  mEphemerisType := getEnumForPBGnssEphemerisType pb.ephemerisType
  mEphemerisSource := getEnumForPBGnssEphemerisSource pb.ephemerisSource
  mEphemerisHealth := getEnumForPBGnssEphemerisHealth pb.ephemerisHealth
  ephemerisAgeSeconds := pb.ephemerisAgeSeconds
  serverPredictionIsAvailable := pb.serverPredictionIsAvailable
  serverPredictionAgeSeconds := pb.serverPredictionAgeSeconds

@[simp] theorem pbConvertToGnssDebugSatelliteInfo_convertGnssDebugSatelliteInfoToPB
    (info : GnssDebugSatelliteInfo) :
    pbConvertToGnssDebugSatelliteInfo (convertGnssDebugSatelliteInfoToPB info) = info := by
  simp only [pbConvertToGnssDebugSatelliteInfo, convertGnssDebugSatelliteInfoToPB,
    getGnssSvTypeFromPBGnssLocSvSystemEnumType_getPBEnum,
    getEnumForPBGnssEphemerisType_getPBEnumForGnssEphemerisType,
    getEnumForPBGnssEphemerisSource_getPBEnumForGnssEphemerisSource,
    getEnumForPBGnssEphemerisHealth_getPBEnumForGnssEphemerisHealth]

structure GnssDebugReport where
  mLocation : GnssDebugLocation
  mTime : GnssDebugTime
  mSatelliteInfo : List GnssDebugSatelliteInfo
  deriving Inhabited

structure PBGnssDebugReport where
  location : PBGnssDebugLocation
  time : PBGnssDebugTime
  satelliteInfo : List PBGnssDebugSatelliteInfo
  deriving Inhabited

def convertGnssDebugReportToPB (gnssDebugReport : GnssDebugReport) : PBGnssDebugReport where
  location := convertGnssDebugLocationToPB gnssDebugReport.mLocation
  time := convertGnssDebugTimeToPB gnssDebugReport.mTime
  satelliteInfo :=
    (gnssDebugReport.mSatelliteInfo.take (intRounds gnssDebugReport.mSatelliteInfo.length)).map
      convertGnssDebugSatelliteInfoToPB

/-- The satellites are appended to those that the structure holds. -/
def pbConvertToGnssDebugReport (pb : PBGnssDebugReport) (gnssDebugReport : GnssDebugReport) :
    Logged GnssDebugReport := do
  -- The time is passed by value: the decoder of the time fills a copy, which is dropped.
  let _debugTime := pbConvertToGnssDebugTime pb.time
  let mSatelliteInfo ← Logged.append (intRounds pb.satelliteInfo.length) pb.satelliteInfo
    (fun pb => pure (pbConvertToGnssDebugSatelliteInfo pb)) gnssDebugReport.mSatelliteInfo
  pure
    { mLocation := pbConvertToGnssDebugLocation pb.location
      mTime := gnssDebugReport.mTime
      mSatelliteInfo }

theorem inBounds_pbConvertToGnssDebugReport (pb : PBGnssDebugReport)
    (gnssDebugReport : GnssDebugReport) :
    (pbConvertToGnssDebugReport pb gnssDebugReport).InBounds := by
  have hconv : ∀ pb : PBGnssDebugSatelliteInfo,
      (pure (pbConvertToGnssDebugSatelliteInfo pb) : Logged GnssDebugSatelliteInfo).InBounds ↔
        True := fun _ => iff_true_intro (Logged.inBounds_pure _)
  rw [pbConvertToGnssDebugReport, Logged.inBounds_bind, Logged.inBounds_append hconv]
  exact ⟨⟨intRounds_le _, fun _ _ => trivial⟩, Logged.inBounds_pure _⟩

/-- **A debug report survives** exactly if its position does and the structure it is decoded into
already holds its time. -/
theorem pbConvertToGnssDebugReport_iff {r : GnssDebugReport}
    (hlen : r.mSatelliteInfo.length < 2 ^ 31) (old : GnssDebugReport)
    (hold : old.mSatelliteInfo = []) :
    (pbConvertToGnssDebugReport (convertGnssDebugReportToPB r) old).value = r ↔
      r.mLocation.mLocation.techMask .hybridAle = false ∧ old.mTime = r.mTime := by
  obtain ⟨mLocation, mTime, mSatelliteInfo⟩ := r
  have hencode : (convertGnssDebugReportToPB ⟨mLocation, mTime, mSatelliteInfo⟩).satelliteInfo =
      mSatelliteInfo.map convertGnssDebugSatelliteInfoToPB := by
    rw [convertGnssDebugReportToPB, intRounds_of_lt hlen, List.take_length]
  have hcount : intRounds (mSatelliteInfo.map convertGnssDebugSatelliteInfoToPB).length =
      mSatelliteInfo.length := by
    rw [List.length_map, intRounds_of_lt hlen]
  have hinfo : (Logged.append mSatelliteInfo.length
      (mSatelliteInfo.map convertGnssDebugSatelliteInfoToPB)
      (fun pb => pure (pbConvertToGnssDebugSatelliteInfo pb)) []).value = mSatelliteInfo :=
    (Logged.value_append_map_iff rfl).mpr fun info _ =>
      pbConvertToGnssDebugSatelliteInfo_convertGnssDebugSatelliteInfoToPB info
  simp only [pbConvertToGnssDebugReport, Logged.value_bind, Logged.value_pure, hencode, hcount,
    hold, hinfo, GnssDebugReport.mk.injEq, and_true]
  exact and_congr_left fun _ => pbConvertToGnssDebugLocation_iff mLocation

end PbConv
end LocationStack
