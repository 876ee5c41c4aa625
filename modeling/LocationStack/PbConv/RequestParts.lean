import LocationStack.PbConv.LocationParts
import LocationStack.PbConv.Geofences

/-! # The parts of requests and answers

What the requests of a client or of the integration library hold, and what they are answered with,
apart from geofences and the parameters of XTRA.

Three masks lack a bit of the structure: the callbacks that of antenna information, the engines of
a request that of the vision engine, and the aiding data of satellites all but that of the
ephemerides.
-/
namespace LocationStack
namespace PbConv

/-! ## Enumerations -/

instance : Inhabited Ipc.ClientType := ⟨.locationClientApi⟩

instance : Inhabited Ipc.GnssSuplMode := ⟨.standalone⟩

instance : Inhabited Ipc.BatchingMode := ⟨.routine⟩

inductive PBClientType
  | invalid | locationClientApi | locationIntegrationApi
  | unrecognized (value : BitVec 32)
  deriving Repr, DecidableEq, Inhabited

def getPBEnumForClientType : Ipc.ClientType → PBClientType
  | .locationClientApi => .locationClientApi
  | .locationIntegrationApi => .locationIntegrationApi

def getEnumForPBClientType : PBClientType → Ipc.ClientType
  | .locationClientApi => .locationClientApi
  | .locationIntegrationApi => .locationIntegrationApi
  | .invalid | .unrecognized _ => .locationClientApi

@[simp] theorem getEnumForPBClientType_getPBEnumForClientType (e : Ipc.ClientType) :
    getEnumForPBClientType (getPBEnumForClientType e) = e := by
  cases e <;> rfl

inductive PBGnssSuplMode
  | standalone | msb | msa
  | unrecognized (value : BitVec 32)
  deriving Repr, DecidableEq, Inhabited

def getPBEnumForGnssSuplMode : Ipc.GnssSuplMode → PBGnssSuplMode
  | .standalone => .standalone
  | .msb => .msb
  | .msa => .msa

def getEnumForPBGnssSuplMode : PBGnssSuplMode → Ipc.GnssSuplMode
  | .standalone => .standalone
  | .msb => .msb
  | .msa => .msa
  | .unrecognized _ => .standalone

@[simp] theorem getEnumForPBGnssSuplMode_getPBEnumForGnssSuplMode (e : Ipc.GnssSuplMode) :
    getEnumForPBGnssSuplMode (getPBEnumForGnssSuplMode e) = e := by
  cases e <;> rfl

inductive PBBatchingMode
  | routine | trip | noAutoReport
  | unrecognized (value : BitVec 32)
  deriving Repr, DecidableEq, Inhabited

def getPBEnumForBatchingMode : Ipc.BatchingMode → PBBatchingMode
  | .routine => .routine
  | .trip => .trip
  | .noAutoReport => .noAutoReport

def getEnumForPBBatchingMode : PBBatchingMode → Ipc.BatchingMode
  | .routine => .routine
  | .trip => .trip
  | .noAutoReport => .noAutoReport
  | .unrecognized _ => .routine

@[simp] theorem getEnumForPBBatchingMode_getPBEnumForBatchingMode (e : Ipc.BatchingMode) :
    getEnumForPBBatchingMode (getPBEnumForBatchingMode e) = e := by
  cases e <;> rfl

inductive FixQualityLevel
  | highAccuFixOnly | anyValidFix | anyOrFailedFix
  deriving Repr, DecidableEq, Inhabited

inductive PBFixQualityLevel
  | highAccuFixOnly | anyValidFix | anyOrFailedFix
  | unrecognized (value : BitVec 32)
  deriving Repr, DecidableEq, Inhabited

def getPBEnumForFixQualityLevel : FixQualityLevel → PBFixQualityLevel
  | .highAccuFixOnly => .highAccuFixOnly
  | .anyValidFix => .anyValidFix
  | .anyOrFailedFix => .anyOrFailedFix

def getEnumForPBFixQualityLevel : PBFixQualityLevel → FixQualityLevel
  | .highAccuFixOnly => .highAccuFixOnly
  | .anyValidFix => .anyValidFix
  | .anyOrFailedFix => .anyOrFailedFix
  | .unrecognized _ => .highAccuFixOnly

@[simp] theorem getEnumForPBFixQualityLevel_getPBEnumForFixQualityLevel (e : FixQualityLevel) :
    getEnumForPBFixQualityLevel (getPBEnumForFixQualityLevel e) = e := by
  cases e <;> rfl

/-- The number zero has no name in the structure. -/
inductive LocEngineRunState
  | none | pause | resume | pauseRetain
  deriving Repr, DecidableEq, Inhabited

inductive PBLocEngineRunState
  | invalid | pause | resume | pauseRetain
  | unrecognized (value : BitVec 32)
  deriving Repr, DecidableEq, Inhabited

def getPBEnumForLocEngineRunState : LocEngineRunState → PBLocEngineRunState
  | .none => .invalid
  | .pause => .pause
  | .resume => .resume
  | .pauseRetain => .pauseRetain

def getEnumForPBLocEngineRunState : PBLocEngineRunState → LocEngineRunState
  | .invalid => .none
  | .pause => .pause
  | .resume => .resume
  | .pauseRetain => .pauseRetain
  | .unrecognized _ => .none

@[simp] theorem getEnumForPBLocEngineRunState_getPBEnumForLocEngineRunState
    (e : LocEngineRunState) :
    getEnumForPBLocEngineRunState (getPBEnumForLocEngineRunState e) = e := by
  cases e <;> rfl

/-- The datum of the sentences; the converters are two conditionals of the message. -/
inductive GeodeticType
  | wgs84 | pz90
  deriving Repr, DecidableEq, Inhabited

inductive PBGeodeticType
  | wgs84 | pz90
  | unrecognized (value : BitVec 32)
  deriving Repr, DecidableEq, Inhabited

def getPBEnumForGeodeticType : GeodeticType → PBGeodeticType
  | .wgs84 => .wgs84
  | .pz90 => .pz90

def getEnumForPBGeodeticType : PBGeodeticType → GeodeticType
  | .wgs84 => .wgs84
  | .pz90 => .pz90
  | .unrecognized _ => .wgs84

@[simp] theorem getEnumForPBGeodeticType_getPBEnumForGeodeticType (e : GeodeticType) :
    getEnumForPBGeodeticType (getPBEnumForGeodeticType e) = e := by
  cases e <;> rfl

/-! ## Masks -/

inductive LocationCapabilitiesFlag
  | timeBasedTracking | timeBasedBatching | distanceBasedTracking | distanceBasedBatching
  | geofence | outdoorTripBatching | gnssMeasurements | constellationEnablement | qwesCarrierPhase
  | qwesSvPolynomial | qwesGnssSingleFrequency | qwesGnssMultiFrequency | qwesVpe
  | qwesCv2xLocationBasic | qwesCv2xLocationPremium | qwesPpe | qwesQdr2 | qwesQdr3 | qwesDgnss
  | antennaInfo | gnssMsb | gnssMsa | debugData | agpm | privacy | measurementsCorrection
  | conformityIndex | edgnss | qwesSvEphemeris | nlosMl20
  deriving Repr, DecidableEq

def locationCapabilitiesFlags : FlagTable LocationCapabilitiesFlag 64 where
  rows := [(.timeBasedTracking, 1), (.timeBasedBatching, 2), (.distanceBasedTracking, 4),
    (.distanceBasedBatching, 8), (.geofence, 0x10), (.outdoorTripBatching, 0x20),
    (.gnssMeasurements, 0x40), (.constellationEnablement, 0x80), (.qwesCarrierPhase, 0x100),
    (.qwesSvPolynomial, 0x200), (.qwesGnssSingleFrequency, 0x400),
    (.qwesGnssMultiFrequency, 0x800), (.qwesVpe, 0x1000), (.qwesCv2xLocationBasic, 0x2000),
    (.qwesCv2xLocationPremium, 0x4000), (.qwesPpe, 0x8000), (.qwesQdr2, 0x10000),
    (.qwesQdr3, 0x20000), (.qwesDgnss, 0x40000), (.antennaInfo, 0x80000), (.gnssMsb, 0x100000),
    (.gnssMsa, 0x200000), (.debugData, 0x400000), (.agpm, 0x800000), (.privacy, 0x1000000),
    (.measurementsCorrection, 0x2000000), (.conformityIndex, 0x4000000), (.edgnss, 0x8000000),
    (.qwesSvEphemeris, 0x10000000), (.nlosMl20, 0x20000000)]
  nonzero := by decide
  disjoint := by decide

def getPBMaskForLocationCapabilitiesMask : Flags LocationCapabilitiesFlag → BitVec 64 :=
  locationCapabilitiesFlags.write

def getLocationCapabilitiesMaskFromPB : BitVec 64 → Flags LocationCapabilitiesFlag :=
  locationCapabilitiesFlags.read

@[simp] theorem getLocationCapabilitiesMaskFromPB_getPBMaskForLocationCapabilitiesMask
    (m : Flags LocationCapabilitiesFlag) :
    getLocationCapabilitiesMaskFromPB (getPBMaskForLocationCapabilitiesMask m) = m :=
  locationCapabilitiesFlags.read_write (fun f => by cases f <;> decide) m

/-- The message has no bit for antenna information. -/
inductive LocationCallbacksFlag
  | tracking | gnssLocationInfo | gnssSv | gnssNmea | gnssData | systemInfo | batching
  | batchingStatus | geofenceBreach | engineLocationsInfo | simpleLocationInfo | gnssMeas
  | gnssNhzMeas | gnssDcReport | antennaInfo | engineNmea | gnssEph
  deriving Repr, DecidableEq

def locationCallbacksFlags : FlagTable LocationCallbacksFlag 32 where
  rows := [(.tracking, 1), (.gnssLocationInfo, 2), (.gnssSv, 4), (.gnssNmea, 8), (.gnssData, 0x10),
    (.systemInfo, 0x20), (.batching, 0x40), (.batchingStatus, 0x80), (.geofenceBreach, 0x100),
    (.engineLocationsInfo, 0x200), (.simpleLocationInfo, 0x400), (.gnssMeas, 0x800),
    (.gnssNhzMeas, 0x1000), (.gnssDcReport, 0x2000), (.engineNmea, 0x4000), (.gnssEph, 0x8000)]
  nonzero := by decide
  disjoint := by decide

def getPBMaskForLocationCallbacksMask : Flags LocationCallbacksFlag → BitVec 32 :=
  locationCallbacksFlags.write

def getLocationCallbacksMaskFromPB : BitVec 32 → Flags LocationCallbacksFlag :=
  locationCallbacksFlags.read

@[simp] theorem getLocationCallbacksMaskFromPB_getPBMask_iff (m : Flags LocationCallbacksFlag) :
    getLocationCallbacksMaskFromPB (getPBMaskForLocationCallbacksMask m) = m ↔
      m .antennaInfo = false :=
  locationCallbacksFlags.read_write_iff_of_lost (by decide)
    (fun f hf => by cases f <;> first | decide | exact absurd rfl hf) m

/-- The message has no bit for the vision engine. -/
inductive LocReqEngineTypeFlag
  | fused | spe | ppe | vpe
  deriving Repr, DecidableEq

def locReqEngineTypeFlags : FlagTable LocReqEngineTypeFlag 32 where
  rows := [(.fused, 1), (.spe, 2), (.ppe, 4)]
  nonzero := by decide
  disjoint := by decide

def getPBMaskForLocReqEngineTypeMask : Flags LocReqEngineTypeFlag → BitVec 32 :=
  locReqEngineTypeFlags.write

def getLocReqEngineTypeMaskFromPB : BitVec 32 → Flags LocReqEngineTypeFlag :=
  locReqEngineTypeFlags.read

@[simp] theorem getLocReqEngineTypeMaskFromPB_getPBMask_iff (m : Flags LocReqEngineTypeFlag) :
    getLocReqEngineTypeMaskFromPB (getPBMaskForLocReqEngineTypeMask m) = m ↔ m .vpe = false :=
  locReqEngineTypeFlags.read_write_iff_of_lost (by decide)
    (fun f hf => by cases f <;> first | decide | exact absurd rfl hf) m

inductive TerrestrialTechFlag
  | gtpWwan
  deriving Repr, DecidableEq

def terrestrialTechFlags : FlagTable TerrestrialTechFlag 32 where
  rows := [(.gtpWwan, 1)]
  nonzero := by decide
  disjoint := by decide

def getPBMaskForTerrestrialTechMask : Flags TerrestrialTechFlag → BitVec 32 :=
  terrestrialTechFlags.write

def getTerrestrialTechMaskFromPB : BitVec 32 → Flags TerrestrialTechFlag :=
  terrestrialTechFlags.read

@[simp] theorem getTerrestrialTechMaskFromPB_getPBMaskForTerrestrialTechMask
    (m : Flags TerrestrialTechFlag) :
    getTerrestrialTechMaskFromPB (getPBMaskForTerrestrialTechMask m) = m :=
  terrestrialTechFlags.read_write (fun f => by cases f; decide) m

inductive NmeaTypesFlag
  | gga | rmc | gsa | vtg | gns | dtm | gpgsv | glgsv | gagsv | gqgsv | gbgsv | gigsv
  deriving Repr, DecidableEq

def nmeaTypesFlags : FlagTable NmeaTypesFlag 32 where
  rows := [(.gga, 1), (.rmc, 2), (.gsa, 4), (.vtg, 8), (.gns, 0x10), (.dtm, 0x20), (.gpgsv, 0x40),
    (.glgsv, 0x80), (.gagsv, 0x100), (.gqgsv, 0x200), (.gbgsv, 0x400), (.gigsv, 0x800)]
  nonzero := by decide
  disjoint := by decide

def getPBMaskForNmeaTypesMask : Flags NmeaTypesFlag → BitVec 32 :=
  nmeaTypesFlags.write

def getNmeaTypesMaskFromPB : BitVec 32 → Flags NmeaTypesFlag :=
  nmeaTypesFlags.read

@[simp] theorem getNmeaTypesMaskFromPB_getPBMaskForNmeaTypesMask (m : Flags NmeaTypesFlag) :
    getNmeaTypesMaskFromPB (getPBMaskForNmeaTypesMask m) = m :=
  nmeaTypesFlags.read_write (fun f => by cases f <;> decide) m

inductive LeverArmTypeFlag
  | gnssToVrp | drImuToGnss | veppImuToGnss
  deriving Repr, DecidableEq

def leverArmTypeFlags : FlagTable LeverArmTypeFlag 32 where
  rows := [(.gnssToVrp, 1), (.drImuToGnss, 2), (.veppImuToGnss, 4)]
  nonzero := by decide
  disjoint := by decide

def getPBMaskForLeverArmTypeMask : Flags LeverArmTypeFlag → BitVec 32 :=
  leverArmTypeFlags.write

def getLeverArmTypeMaskFromPB : BitVec 32 → Flags LeverArmTypeFlag :=
  leverArmTypeFlags.read

@[simp] theorem getLeverArmTypeMaskFromPB_getPBMaskForLeverArmTypeMask
    (m : Flags LeverArmTypeFlag) :
    getLeverArmTypeMaskFromPB (getPBMaskForLeverArmTypeMask m) = m :=
  leverArmTypeFlags.read_write (fun f => by cases f <;> decide) m

inductive DeadReckoningEngineConfigValidFlag
  | bodyToSensorMountParams | vehicleSpeedScaleFactor | vehicleSpeedScaleFactorUnc
  | gyroScaleFactor | gyroScaleFactorUnc
  deriving Repr, DecidableEq

def deadReckoningEngineConfigValidFlags : FlagTable DeadReckoningEngineConfigValidFlag 64 where
  rows := [(.bodyToSensorMountParams, 1), (.vehicleSpeedScaleFactor, 2),
    (.vehicleSpeedScaleFactorUnc, 4), (.gyroScaleFactor, 8), (.gyroScaleFactorUnc, 16)]
  nonzero := by decide
  disjoint := by decide

def getPBMaskForDeadReckoningEngineConfigValidMask :
    Flags DeadReckoningEngineConfigValidFlag → BitVec 64 :=
  deadReckoningEngineConfigValidFlags.write

def getDeadReckoningEngineConfigValidMaskFromPB :
    BitVec 64 → Flags DeadReckoningEngineConfigValidFlag :=
  deadReckoningEngineConfigValidFlags.read

@[simp] theorem getDeadReckoningEngineConfigValidMaskFromPB_getPBMask
    (m : Flags DeadReckoningEngineConfigValidFlag) :
    getDeadReckoningEngineConfigValidMaskFromPB
      (getPBMaskForDeadReckoningEngineConfigValidMask m) = m :=
  deadReckoningEngineConfigValidFlags.read_write (fun f => by cases f <;> decide) m

inductive GnssConfigRobustLocationValidFlag
  | enabled | enabledForE911 | version
  deriving Repr, DecidableEq

def gnssConfigRobustLocationValidFlags : FlagTable GnssConfigRobustLocationValidFlag 32 where
  rows := [(.enabled, 1), (.enabledForE911, 2), (.version, 4)]
  nonzero := by decide
  disjoint := by decide

def getPBMaskForGnssCfgRobustLocValidMask : Flags GnssConfigRobustLocationValidFlag → BitVec 32 :=
  gnssConfigRobustLocationValidFlags.write

def getGnssConfigRobustLocationValidMaskFromPB :
    BitVec 32 → Flags GnssConfigRobustLocationValidFlag :=
  gnssConfigRobustLocationValidFlags.read

@[simp] theorem getGnssConfigRobustLocationValidMaskFromPB_getPBMaskForGnssCfgRobustLocValidMask
    (m : Flags GnssConfigRobustLocationValidFlag) :
    getGnssConfigRobustLocationValidMaskFromPB (getPBMaskForGnssCfgRobustLocValidMask m) = m :=
  gnssConfigRobustLocationValidFlags.read_write (fun f => by cases f <;> decide) m

inductive DrEngineAidingDataFlag
  | calibration
  deriving Repr, DecidableEq

def drEngineAidingDataFlags : FlagTable DrEngineAidingDataFlag 32 where
  rows := [(.calibration, 1)]
  nonzero := by decide
  disjoint := by decide

def getPBMaskForDrEngineAidingDataMask : Flags DrEngineAidingDataFlag → BitVec 32 :=
  drEngineAidingDataFlags.write

def getDrEngineAidingDataMaskFromPB : BitVec 32 → Flags DrEngineAidingDataFlag :=
  drEngineAidingDataFlags.read

@[simp] theorem getDrEngineAidingDataMaskFromPB_getPBMaskForDrEngineAidingDataMask
    (m : Flags DrEngineAidingDataFlag) :
    getDrEngineAidingDataMaskFromPB (getPBMaskForDrEngineAidingDataMask m) = m :=
  drEngineAidingDataFlags.read_write (fun f => by cases f; decide) m

/-- The message has a bit for the first alone. -/
inductive GnssAidingDataSvFlag
  | ephemeris | almanac | health | direction | steer | almanacCorr | blacklist | saData | noExist
  | ionosphere | time | mbData | poly
  deriving Repr, DecidableEq

def gnssAidingDataSvFlags : FlagTable GnssAidingDataSvFlag 32 where
  rows := [(.ephemeris, 1)]
  nonzero := by decide
  disjoint := by decide

def getPBMaskForGnssAidingDataSvMask : Flags GnssAidingDataSvFlag → BitVec 32 :=
  gnssAidingDataSvFlags.write

def getGnssAidingDataSvMaskFromPB : BitVec 32 → Flags GnssAidingDataSvFlag :=
  gnssAidingDataSvFlags.read

/-- An aiding data mask survives exactly if it has no other flag than that of the ephemerides. -/
theorem getGnssAidingDataSvMaskFromPB_getPBMask_iff (m : Flags GnssAidingDataSvFlag) :
    getGnssAidingDataSvMaskFromPB (getPBMaskForGnssAidingDataSvMask m) = m ↔
      ∀ f, f ≠ .ephemeris → m f = false := by
  refine (gnssAidingDataSvFlags.read_write_iff m).trans ?_
  constructor
  · intro hcovers f hf
    refine Bool.eq_false_iff.mpr fun hon => hf ?_
    obtain ⟨r, hr, rfl⟩ := hcovers f hon
    rw [List.mem_singleton.mp hr]
  · intro hoff f hon
    by_cases hf : f = .ephemeris
    · exact ⟨(.ephemeris, 1), List.mem_singleton_self _, hf.symm⟩
    · rw [hoff f hf] at hon
      cases hon

inductive GnssSvTypesFlag
  | glo | bds | qzss | gal | navic | gps
  deriving Repr, DecidableEq

def gnssSvTypesFlags : FlagTable GnssSvTypesFlag 64 where
  rows := [(.glo, 1), (.bds, 2), (.qzss, 4), (.gal, 8), (.navic, 16), (.gps, 32)]
  nonzero := by decide
  disjoint := by decide

def getGnssSvTypesMaskFromPB : BitVec 64 → Flags GnssSvTypesFlag :=
  gnssSvTypesFlags.read

/-- What the header of the structures fixes: the numbers of the two masks whose words are copied as
they are, or converted the same way twice, and a mask that the decoder fills in. -/
structure ConfigNumbers where
  gnssSvTypes : FlagTable GnssSvTypesFlag 64
  gnssSignalTypes : FlagTable GnssSignalTypeFlag 32
  /-- `GNSS_AIDING_DATA_SV_TYPE_MASK_ALL` -/
  gnssAidingDataSvTypeMaskAll : BitVec 32

/-- The numbers of the two masks are those of the message. -/
structure ConfigNumbers.SameAsMessage (numbers : ConfigNumbers) : Prop where
  gnssSvTypes : numbers.gnssSvTypes = gnssSvTypesFlags
  gnssSignalTypes : numbers.gnssSignalTypes = gnssSignalTypeFlags

/-- Numbers that are those of the message. -/
def ConfigNumbers.ofMessage : ConfigNumbers where
  gnssSvTypes := gnssSvTypesFlags
  gnssSignalTypes := gnssSignalTypeFlags
  gnssAidingDataSvTypeMaskAll := 0xffffffff

theorem ConfigNumbers.ofMessage_sameAsMessage : ConfigNumbers.ofMessage.SameAsMessage :=
  ⟨rfl, rfl⟩

/-- The word is that of the structure. -/
def encodeGnssSvTypesMask (numbers : ConfigNumbers) : Flags GnssSvTypesFlag → BitVec 64 :=
  numbers.gnssSvTypes.write

theorem getGnssSvTypesMaskFromPB_encode {numbers : ConfigNumbers} (hnum : numbers.SameAsMessage)
    (m : Flags GnssSvTypesFlag) :
    getGnssSvTypesMaskFromPB (encodeGnssSvTypesMask numbers m) = m := by
  rw [encodeGnssSvTypesMask, hnum.gnssSvTypes]
  exact gnssSvTypesFlags.read_write (fun f => by cases f <;> decide) m

/-- The decoder of the supported signals is the converter to the message: it tests the bits of the
structure in the word of the message, and the word it makes is taken for one of the structure. -/
def decodeSupportedSignalTypes (numbers : ConfigNumbers) (pbMask : BitVec 32) :
    Flags GnssSignalTypeFlag :=
  numbers.gnssSignalTypes.read
    (getPBMaskForGnssSignalTypeMask (numbers.gnssSignalTypes.read pbMask))

theorem decodeSupportedSignalTypes_getPBMask {numbers : ConfigNumbers}
    (hnum : numbers.SameAsMessage) (m : Flags GnssSignalTypeFlag) :
    decodeSupportedSignalTypes numbers (getPBMaskForGnssSignalTypeMask m) = m := by
  have hread : gnssSignalTypeFlags.read = getGnssSignalTypeMaskFromPB := rfl
  rw [decodeSupportedSignalTypes, hnum.gnssSignalTypes, hread,
    getGnssSignalTypeMaskFromPB_getPBMaskForGnssSignalTypeMask,
    getGnssSignalTypeMaskFromPB_getPBMaskForGnssSignalTypeMask]

/-! ## Options of a session -/

structure LocationOptions where
  (minInterval minDistance : UInt32)
  mode : Ipc.GnssSuplMode
  locReqEngTypeMask : Flags LocReqEngineTypeFlag
  qualityLevelAccepted : FixQualityLevel
  deriving Inhabited

structure PBLocationOptions where
  (minInterval minDistance : UInt32)
  mode : PBGnssSuplMode
  locReqEngTypeMask : BitVec 32
  qualityLevelAccepted : PBFixQualityLevel
  deriving Inhabited

def convertLocationOptionsToPB (locOpt : LocationOptions) : PBLocationOptions where
  minInterval := locOpt.minInterval
  minDistance := locOpt.minDistance
  mode := getPBEnumForGnssSuplMode locOpt.mode
  locReqEngTypeMask := getPBMaskForLocReqEngineTypeMask locOpt.locReqEngTypeMask
  qualityLevelAccepted := getPBEnumForFixQualityLevel locOpt.qualityLevelAccepted

def pbConvertToLocationOptions (pb : PBLocationOptions) : LocationOptions where
  minInterval := pb.minInterval
  minDistance := pb.minDistance
  mode := getEnumForPBGnssSuplMode pb.mode
  locReqEngTypeMask := getLocReqEngineTypeMaskFromPB pb.locReqEngTypeMask
  qualityLevelAccepted := getEnumForPBFixQualityLevel pb.qualityLevelAccepted

theorem pbConvertToLocationOptions_iff (locOpt : LocationOptions) :
    pbConvertToLocationOptions (convertLocationOptionsToPB locOpt) = locOpt ↔
      locOpt.locReqEngTypeMask .vpe = false := by
  obtain ⟨⟩ := locOpt
  simp only [pbConvertToLocationOptions, convertLocationOptionsToPB, LocationOptions.mk.injEq,
    getEnumForPBGnssSuplMode_getPBEnumForGnssSuplMode, getLocReqEngineTypeMaskFromPB_getPBMask_iff,
    getEnumForPBFixQualityLevel_getPBEnumForFixQualityLevel, true_and, and_true]

/-- The options of a batching session. -/

structure BatchingOptions where
  (intervalInMs distanceInMeters : UInt32)
  batchingMode : Ipc.BatchingMode
  deriving Inhabited

structure PBBatchingOptions where
  (intervalInMs distanceInMeters : UInt32)
  batchingMode : PBBatchingMode
  deriving Inhabited

def convertBatchingOptionsToPB (options : BatchingOptions) : PBBatchingOptions where
  intervalInMs := options.intervalInMs
  distanceInMeters := options.distanceInMeters
  batchingMode := getPBEnumForBatchingMode options.batchingMode

def pbConvertToBatchingOptions (pb : PBBatchingOptions) : BatchingOptions where
  intervalInMs := pb.intervalInMs
  distanceInMeters := pb.distanceInMeters
  batchingMode := getEnumForPBBatchingMode pb.batchingMode

@[simp] theorem pbConvertToBatchingOptions_convertBatchingOptionsToPB (options : BatchingOptions) :
    pbConvertToBatchingOptions (convertBatchingOptionsToPB options) = options := by
  simp only [pbConvertToBatchingOptions, convertBatchingOptionsToPB,
    getEnumForPBBatchingMode_getPBEnumForBatchingMode]

/-! ## Constellations -/

/-- `size` is zero, or that of the structure. -/
structure GnssSvTypeConfig where
  sizeIsZero : Bool
  (enabledSvTypesMask blacklistedSvTypesMask : Flags GnssSvTypesFlag)
  deriving Inhabited

structure PBGnssSvTypeConfig where
  (enabledSvTypesMask blacklistedSvTypesMask : BitVec 64)
  deriving Inhabited

def convertGnssSvTypeConfigToPB (numbers : ConfigNumbers) (gnssSvTypeCfg : GnssSvTypeConfig) :
    PBGnssSvTypeConfig where
  enabledSvTypesMask := encodeGnssSvTypesMask numbers gnssSvTypeCfg.enabledSvTypesMask
  blacklistedSvTypesMask := encodeGnssSvTypesMask numbers gnssSvTypeCfg.blacklistedSvTypesMask

/-- The size is set. -/
def pbConvertToGnssSvTypeConfig (pb : PBGnssSvTypeConfig) : GnssSvTypeConfig where
  sizeIsZero := false
  enabledSvTypesMask := getGnssSvTypesMaskFromPB pb.enabledSvTypesMask
  blacklistedSvTypesMask := getGnssSvTypesMaskFromPB pb.blacklistedSvTypesMask

/-- Constellations survive apart from the size. -/
theorem pbConvertToGnssSvTypeConfig_convertToPB {numbers : ConfigNumbers}
    (hnum : numbers.SameAsMessage) (gnssSvTypeCfg : GnssSvTypeConfig) :
    pbConvertToGnssSvTypeConfig (convertGnssSvTypeConfigToPB numbers gnssSvTypeCfg) =
      { gnssSvTypeCfg with sizeIsZero := false } := by
  simp only [pbConvertToGnssSvTypeConfig, convertGnssSvTypeConfigToPB,
    getGnssSvTypesMaskFromPB_encode hnum]

theorem pbConvertToGnssSvTypeConfig_iff {numbers : ConfigNumbers} (hnum : numbers.SameAsMessage)
    (gnssSvTypeCfg : GnssSvTypeConfig) :
    pbConvertToGnssSvTypeConfig (convertGnssSvTypeConfigToPB numbers gnssSvTypeCfg) =
      gnssSvTypeCfg ↔ gnssSvTypeCfg.sizeIsZero = false := by
  rw [pbConvertToGnssSvTypeConfig_convertToPB hnum]
  obtain ⟨sizeIsZero, enabled, blacklisted⟩ := gnssSvTypeCfg
  simp only [GnssSvTypeConfig.mk.injEq, and_true]
  exact eq_comm

structure GnssSvIdConfig where
  (gloBlacklistSvMask bdsBlacklistSvMask qzssBlacklistSvMask galBlacklistSvMask : UInt64)
  (sbasBlacklistSvMask navicBlacklistSvMask gpsBlacklistSvMask : UInt64)
  deriving Inhabited

structure PBGnssSvIdConfig where
  (gloBlacklistSvMask bdsBlacklistSvMask qzssBlacklistSvMask galBlacklistSvMask : UInt64)
  (sbasBlacklistSvMask navicBlacklistSvMask gpsBlacklistSvMask : UInt64)
  deriving Inhabited

def convertGnssSvIdConfigToPB (gnssSvIdCfg : GnssSvIdConfig) : PBGnssSvIdConfig where
  gloBlacklistSvMask := gnssSvIdCfg.gloBlacklistSvMask
  bdsBlacklistSvMask := gnssSvIdCfg.bdsBlacklistSvMask
  qzssBlacklistSvMask := gnssSvIdCfg.qzssBlacklistSvMask
  galBlacklistSvMask := gnssSvIdCfg.galBlacklistSvMask
  sbasBlacklistSvMask := gnssSvIdCfg.sbasBlacklistSvMask
  navicBlacklistSvMask := gnssSvIdCfg.navicBlacklistSvMask
  gpsBlacklistSvMask := gnssSvIdCfg.gpsBlacklistSvMask

def pbConvertToGnssSvIdConfig (pb : PBGnssSvIdConfig) : GnssSvIdConfig where
  gloBlacklistSvMask := pb.gloBlacklistSvMask
  bdsBlacklistSvMask := pb.bdsBlacklistSvMask
  qzssBlacklistSvMask := pb.qzssBlacklistSvMask
  galBlacklistSvMask := pb.galBlacklistSvMask
  sbasBlacklistSvMask := pb.sbasBlacklistSvMask
  navicBlacklistSvMask := pb.navicBlacklistSvMask
  gpsBlacklistSvMask := pb.gpsBlacklistSvMask

@[simp] theorem pbConvertToGnssSvIdConfig_convertGnssSvIdConfigToPB (gnssSvIdCfg : GnssSvIdConfig) :
    pbConvertToGnssSvIdConfig (convertGnssSvIdConfigToPB gnssSvIdCfg) = gnssSvIdCfg := by
  simp only [pbConvertToGnssSvIdConfig, convertGnssSvIdConfigToPB]

structure LocConfigSvConstellationReqMsg where
  mConstellationEnablementConfig : GnssSvTypeConfig
  mBlacklistSvConfig : GnssSvIdConfig
  deriving Inhabited

structure PBLocConfigSvConstellationReqMsg where
  mConstellationEnablementConfig : PBGnssSvTypeConfig
  mBlacklistSvConfig : PBGnssSvIdConfig
  mResetToDefault : Bool
  deriving Inhabited

def convertLocConfigSvConstellationReqMsgToPB (numbers : ConfigNumbers)
    (msg : LocConfigSvConstellationReqMsg) : PBLocConfigSvConstellationReqMsg where
  mConstellationEnablementConfig :=
    convertGnssSvTypeConfigToPB numbers msg.mConstellationEnablementConfig
  mBlacklistSvConfig := convertGnssSvIdConfigToPB msg.mBlacklistSvConfig
  mResetToDefault := msg.mConstellationEnablementConfig.sizeIsZero

/-- A size of zero asks for the default of the modem. -/
def pbConvertToLocConfigSvConstellationReqMsg (pb : PBLocConfigSvConstellationReqMsg) :
    LocConfigSvConstellationReqMsg where
  mConstellationEnablementConfig :=
    { pbConvertToGnssSvTypeConfig pb.mConstellationEnablementConfig with
      sizeIsZero := pb.mResetToDefault }
  mBlacklistSvConfig := pbConvertToGnssSvIdConfig pb.mBlacklistSvConfig

theorem pbConvertToLocConfigSvConstellationReqMsg_convertToPB {numbers : ConfigNumbers}
    (hnum : numbers.SameAsMessage) (msg : LocConfigSvConstellationReqMsg) :
    pbConvertToLocConfigSvConstellationReqMsg
      (convertLocConfigSvConstellationReqMsgToPB numbers msg) = msg := by
  simp only [pbConvertToLocConfigSvConstellationReqMsg,
    convertLocConfigSvConstellationReqMsgToPB, pbConvertToGnssSvTypeConfig_convertToPB hnum,
    pbConvertToGnssSvIdConfig_convertGnssSvIdConfigToPB]

/-! ## Aiding data -/

/-- The masks of the satellites' types and of the common data are words. -/
structure GnssAidingData where
  deleteAll : Bool
  svMask : Flags GnssAidingDataSvFlag
  (svTypeMask commonMask : BitVec 32)
  dreAidingDataMask : Flags DrEngineAidingDataFlag
  posEngineMask : Flags PositioningEngineFlag
  deriving Inhabited

structure PBAidingData where
  deleteAll : Bool
  (gnssAidingDataSvMask dreAidingDataMask posEngineMask : BitVec 32)
  deriving Inhabited

def convertGnssAidingDataToPB (gnssAidData : GnssAidingData) : PBAidingData where
  deleteAll := gnssAidData.deleteAll
  gnssAidingDataSvMask := getPBMaskForGnssAidingDataSvMask gnssAidData.svMask
  dreAidingDataMask := getPBMaskForDrEngineAidingDataMask gnssAidData.dreAidingDataMask
  posEngineMask := getPBMaskForPositioningEngineMask gnssAidData.posEngineMask

/-- The types of the satellites are all of them; the common data are left as they are. -/
def pbConvertToGnssAidingData (numbers : ConfigNumbers) (pb : PBAidingData)
    (gnssAidData : GnssAidingData) : GnssAidingData where
  deleteAll := pb.deleteAll
  svMask := getGnssAidingDataSvMaskFromPB pb.gnssAidingDataSvMask
  svTypeMask := numbers.gnssAidingDataSvTypeMaskAll
  commonMask := gnssAidData.commonMask
  dreAidingDataMask := getDrEngineAidingDataMaskFromPB pb.dreAidingDataMask
  posEngineMask := getEnumForPBPositioningEngineMask pb.posEngineMask

/-- What aiding data need: no satellites' data but ephemerides, all types of satellites, the common
data that the structure holds and no vision engine. -/
structure GnssAidingData.Carried (numbers : ConfigNumbers) (r old : GnssAidingData) : Prop where
  svMask : ∀ f, f ≠ .ephemeris → r.svMask f = false
  svTypeMask : r.svTypeMask = numbers.gnssAidingDataSvTypeMaskAll
  commonMask : old.commonMask = r.commonMask
  posEngineMask : r.posEngineMask .vpPositioning = false

theorem pbConvertToGnssAidingData_iff (numbers : ConfigNumbers) (r old : GnssAidingData) :
    pbConvertToGnssAidingData numbers (convertGnssAidingDataToPB r) old = r ↔
      r.Carried numbers old := by
  obtain ⟨deleteAll, svMask, svTypeMask, commonMask, dreAidingDataMask, posEngineMask⟩ := r
  simp only [pbConvertToGnssAidingData, convertGnssAidingDataToPB, GnssAidingData.mk.injEq,
    getGnssAidingDataSvMaskFromPB_getPBMask_iff,
    getDrEngineAidingDataMaskFromPB_getPBMaskForDrEngineAidingDataMask,
    getEnumForPBPositioningEngineMask_getPBMask_iff, true_and]
  constructor
  · rintro ⟨hsv, htype, hcommon, hengine⟩
    exact ⟨hsv, htype.symm, hcommon, hengine⟩
  · rintro ⟨hsv, htype, hcommon, hengine⟩
    exact ⟨hsv, htype.symm, hcommon, hengine⟩

/-! ## Vehicle and engine parameters -/

structure LeverArmParams where
  (forwardOffsetMeters sidewaysOffsetMeters upOffsetMeters : Single)
  deriving Inhabited

structure PBLIALeverArmParams where
  (forwardOffsetMeters sidewaysOffsetMeters upOffsetMeters : Single)
  deriving Inhabited

def convertLeverArmParamsToPB (leverArmParams : LeverArmParams) : PBLIALeverArmParams where
  forwardOffsetMeters := leverArmParams.forwardOffsetMeters
  sidewaysOffsetMeters := leverArmParams.sidewaysOffsetMeters
  upOffsetMeters := leverArmParams.upOffsetMeters

def pbConvertToLeverArmParams (pb : PBLIALeverArmParams) : LeverArmParams where
  forwardOffsetMeters := pb.forwardOffsetMeters
  sidewaysOffsetMeters := pb.sidewaysOffsetMeters
  upOffsetMeters := pb.upOffsetMeters

@[simp] theorem pbConvertToLeverArmParams_convertLeverArmParamsToPB
    (leverArmParams : LeverArmParams) :
    pbConvertToLeverArmParams (convertLeverArmParamsToPB leverArmParams) = leverArmParams := by
  simp only [pbConvertToLeverArmParams, convertLeverArmParamsToPB]

structure LeverArmConfigInfo where
  leverArmValidMask : Flags LeverArmTypeFlag
  (gnssToVRP drImuToGnss veppImuToGnss : LeverArmParams)
  deriving Inhabited

structure PBLIALeverArmConfigInfo where
  leverArmValidMask : BitVec 32
  (gnssToVRP drImuToGnss veppImuToGnss : PBLIALeverArmParams)
  deriving Inhabited

def convertLeverArmConfigInfoToPB (leverArmCfgInfo : LeverArmConfigInfo) :
    PBLIALeverArmConfigInfo where
  leverArmValidMask := getPBMaskForLeverArmTypeMask leverArmCfgInfo.leverArmValidMask
  gnssToVRP := convertLeverArmParamsToPB leverArmCfgInfo.gnssToVRP
  drImuToGnss := convertLeverArmParamsToPB leverArmCfgInfo.drImuToGnss
  veppImuToGnss := convertLeverArmParamsToPB leverArmCfgInfo.veppImuToGnss

def pbConvertToLeverArmConfigInfo (pb : PBLIALeverArmConfigInfo) : LeverArmConfigInfo where
  leverArmValidMask := getLeverArmTypeMaskFromPB pb.leverArmValidMask
  gnssToVRP := pbConvertToLeverArmParams pb.gnssToVRP
  drImuToGnss := pbConvertToLeverArmParams pb.drImuToGnss
  veppImuToGnss := pbConvertToLeverArmParams pb.veppImuToGnss

@[simp] theorem pbConvertToLeverArmConfigInfo_convertLeverArmConfigInfoToPB
    (leverArmCfgInfo : LeverArmConfigInfo) :
    pbConvertToLeverArmConfigInfo (convertLeverArmConfigInfoToPB leverArmCfgInfo) =
      leverArmCfgInfo := by
  simp only [pbConvertToLeverArmConfigInfo, convertLeverArmConfigInfoToPB,
    getLeverArmTypeMaskFromPB_getPBMaskForLeverArmTypeMask,
    pbConvertToLeverArmParams_convertLeverArmParamsToPB]

structure BodyToSensorMountParams where
  (rollOffset yawOffset pitchOffset offsetUnc : Single)
  deriving Inhabited

structure PBLIABodyToSensorMountParams where
  (rollOffset yawOffset pitchOffset offsetUnc : Single)
  deriving Inhabited

def convertBodyToSensorMountParamsToPB (params : BodyToSensorMountParams) :
    PBLIABodyToSensorMountParams where
  rollOffset := params.rollOffset
  yawOffset := params.yawOffset
  pitchOffset := params.pitchOffset
  offsetUnc := params.offsetUnc

def pbConvertToBodyToSensorMountParams (pb : PBLIABodyToSensorMountParams) :
    BodyToSensorMountParams where
  rollOffset := pb.rollOffset
  yawOffset := pb.yawOffset
  pitchOffset := pb.pitchOffset
  offsetUnc := pb.offsetUnc

@[simp] theorem pbConvertToBodyToSensorMountParams_convertBodyToSensorMountParamsToPB
    (params : BodyToSensorMountParams) :
    pbConvertToBodyToSensorMountParams (convertBodyToSensorMountParamsToPB params) = params := by
  simp only [pbConvertToBodyToSensorMountParams, convertBodyToSensorMountParamsToPB]

structure DeadReckoningEngineConfig where
  validMask : Flags DeadReckoningEngineConfigValidFlag
  bodyToSensorMountParams : BodyToSensorMountParams
  (vehicleSpeedScaleFactor vehicleSpeedScaleFactorUnc gyroScaleFactor gyroScaleFactorUnc : Single)
  deriving Inhabited

structure PBDeadReckoningEngineConfig where
  validMask : BitVec 64
  bodyToSensorMountParams : PBLIABodyToSensorMountParams
  (vehicleSpeedScaleFactor vehicleSpeedScaleFactorUnc gyroScaleFactor gyroScaleFactorUnc : Single)
  deriving Inhabited

def convertDeadReckoningEngineConfigToPB (drEngConfig : DeadReckoningEngineConfig) :
    PBDeadReckoningEngineConfig where
  validMask := getPBMaskForDeadReckoningEngineConfigValidMask drEngConfig.validMask
  bodyToSensorMountParams := convertBodyToSensorMountParamsToPB drEngConfig.bodyToSensorMountParams
  vehicleSpeedScaleFactor := drEngConfig.vehicleSpeedScaleFactor
  vehicleSpeedScaleFactorUnc := drEngConfig.vehicleSpeedScaleFactorUnc
  gyroScaleFactor := drEngConfig.gyroScaleFactor
  gyroScaleFactorUnc := drEngConfig.gyroScaleFactorUnc

def pbConvertToDeadReckoningEngineConfig (pb : PBDeadReckoningEngineConfig) :
    DeadReckoningEngineConfig where
  validMask := getDeadReckoningEngineConfigValidMaskFromPB pb.validMask
  bodyToSensorMountParams := pbConvertToBodyToSensorMountParams pb.bodyToSensorMountParams
  vehicleSpeedScaleFactor := pb.vehicleSpeedScaleFactor
  vehicleSpeedScaleFactorUnc := pb.vehicleSpeedScaleFactorUnc
  gyroScaleFactor := pb.gyroScaleFactor
  gyroScaleFactorUnc := pb.gyroScaleFactorUnc

@[simp] theorem pbConvertToDeadReckoningEngineConfig_convertDeadReckoningEngineConfigToPB
    (drEngConfig : DeadReckoningEngineConfig) :
    pbConvertToDeadReckoningEngineConfig (convertDeadReckoningEngineConfigToPB drEngConfig) =
      drEngConfig := by
  simp only [pbConvertToDeadReckoningEngineConfig, convertDeadReckoningEngineConfigToPB,
    getDeadReckoningEngineConfigValidMaskFromPB_getPBMask,
    pbConvertToBodyToSensorMountParams_convertBodyToSensorMountParamsToPB]

/-! ## Robust location -/

/-- The version has a byte and a `uint16_t`. -/

structure GnssConfigRobustLocation where
  validMask : Flags GnssConfigRobustLocationValidFlag
  (enabled enabledForE911 : Bool)
  major : UInt8
  minor : UInt16
  deriving Inhabited

structure PBGnssConfigRobustLocation where
  validMask : BitVec 32
  (enabled enabledForE911 : Bool)
  (major minor : UInt32)
  deriving Inhabited

def convertGnssConfigRobustLocationToPB (gnssCfgRbstLoc : GnssConfigRobustLocation) :
    PBGnssConfigRobustLocation where
  validMask := getPBMaskForGnssCfgRobustLocValidMask gnssCfgRbstLoc.validMask
  enabled := gnssCfgRbstLoc.enabled
  enabledForE911 := gnssCfgRbstLoc.enabledForE911
  major := gnssCfgRbstLoc.major.toUInt32
  minor := gnssCfgRbstLoc.minor.toUInt32

def pbConvertToGnssConfigRobustLocation (pb : PBGnssConfigRobustLocation) :
    GnssConfigRobustLocation where
  validMask := getGnssConfigRobustLocationValidMaskFromPB pb.validMask
  enabled := pb.enabled
  enabledForE911 := pb.enabledForE911
  major := pb.major.toUInt8
  minor := pb.minor.toUInt16

@[simp] theorem pbConvertToGnssConfigRobustLocation_convertGnssConfigRobustLocationToPB
    (gnssCfgRbstLoc : GnssConfigRobustLocation) :
    pbConvertToGnssConfigRobustLocation (convertGnssConfigRobustLocationToPB gnssCfgRbstLoc) =
      gnssCfgRbstLoc := by
  simp only [pbConvertToGnssConfigRobustLocation, convertGnssConfigRobustLocationToPB,
    getGnssConfigRobustLocationValidMaskFromPB_getPBMaskForGnssCfgRobustLocValidMask,
    UInt8.toUInt8_toUInt32, UInt16.toUInt16_toUInt32]

/-! ## Map matched feedback -/

/-- The mask of what is valid is copied as it is. -/

structure GnssMapMatchedData where
  (validityMask utcTimestampMs : UInt64)
  (mapMatchedLatitudeDifference mapMatchedLongitudeDifference : Single)
  isTunnel : Bool
  bearing : Single
  altitude : Double
  (horizontalAccuracy altitudeAccuracy bearingAccuracy : Single)
  deriving Inhabited

structure PBGnssMapMatchedData where
  (validityMask utcTimestampMs : UInt64)
  (mapMatchedLatitudeDifference mapMatchedLongitudeDifference : Single)
  isTunnel : Bool
  bearing : Single
  altitude : Double
  (horizontalAccuracy altitudeAccuracy bearingAccuracy : Single)
  deriving Inhabited

def convertGnssMmfDataToPB (mmfData : GnssMapMatchedData) : PBGnssMapMatchedData where
  validityMask := mmfData.validityMask
  utcTimestampMs := mmfData.utcTimestampMs
  mapMatchedLatitudeDifference := mmfData.mapMatchedLatitudeDifference
  mapMatchedLongitudeDifference := mmfData.mapMatchedLongitudeDifference
  isTunnel := mmfData.isTunnel
  bearing := mmfData.bearing
  altitude := mmfData.altitude
  horizontalAccuracy := mmfData.horizontalAccuracy
  altitudeAccuracy := mmfData.altitudeAccuracy
  bearingAccuracy := mmfData.bearingAccuracy

def pbConvertToGnssMmfData (pb : PBGnssMapMatchedData) : GnssMapMatchedData where
  validityMask := pb.validityMask
  utcTimestampMs := pb.utcTimestampMs
  mapMatchedLatitudeDifference := pb.mapMatchedLatitudeDifference
  mapMatchedLongitudeDifference := pb.mapMatchedLongitudeDifference
  isTunnel := pb.isTunnel
  bearing := pb.bearing
  altitude := pb.altitude
  horizontalAccuracy := pb.horizontalAccuracy
  altitudeAccuracy := pb.altitudeAccuracy
  bearingAccuracy := pb.bearingAccuracy

@[simp] theorem pbConvertToGnssMmfData_convertGnssMmfDataToPB (mmfData : GnssMapMatchedData) :
    pbConvertToGnssMmfData (convertGnssMmfDataToPB mmfData) = mmfData := by
  simp only [pbConvertToGnssMmfData, convertGnssMmfDataToPB]

/-! ## Single fixes -/

structure SingleTerrestrialPosReq where
  mTimeoutMsec : UInt32
  mTechMask : Flags TerrestrialTechFlag
  mHorQoS : Single
  deriving Inhabited

structure PBSingleTerrestrialPosReq where
  timeoutMsec : UInt32
  techMask : BitVec 32
  horQoS : Single
  deriving Inhabited

def convertSingleTerrestrialPosReqToPB (req : SingleTerrestrialPosReq) :
    PBSingleTerrestrialPosReq where
  timeoutMsec := req.mTimeoutMsec
  techMask := getPBMaskForTerrestrialTechMask req.mTechMask
  horQoS := req.mHorQoS

def pbConvertToSingleTerrestrialPosReq (pb : PBSingleTerrestrialPosReq) :
    SingleTerrestrialPosReq where
  mTimeoutMsec := pb.timeoutMsec
  mTechMask := getTerrestrialTechMaskFromPB pb.techMask
  mHorQoS := pb.horQoS

@[simp] theorem pbConvertToSingleTerrestrialPosReq_convertSingleTerrestrialPosReqToPB
    (req : SingleTerrestrialPosReq) :
    pbConvertToSingleTerrestrialPosReq (convertSingleTerrestrialPosReqToPB req) = req := by
  simp only [pbConvertToSingleTerrestrialPosReq, convertSingleTerrestrialPosReqToPB,
    getTerrestrialTechMaskFromPB_getPBMaskForTerrestrialTechMask]

structure SinglePosReq where
  mTimeoutMsec : UInt32
  mHorQoS : Single
  deriving Inhabited

structure PBSinglePosReq where
  timeoutMsec : UInt32
  horQoS : Single
  deriving Inhabited

def convertSinglePosReqToPB (req : SinglePosReq) : PBSinglePosReq where
  timeoutMsec := req.mTimeoutMsec
  horQoS := req.mHorQoS

def pbConvertToSinglePosReq (pb : PBSinglePosReq) : SinglePosReq where
  mTimeoutMsec := pb.timeoutMsec
  mHorQoS := pb.horQoS

@[simp] theorem pbConvertToSinglePosReq_convertSinglePosReqToPB (req : SinglePosReq) :
    pbConvertToSinglePosReq (convertSinglePosReqToPB req) = req := by
  simp only [pbConvertToSinglePosReq, convertSinglePosReqToPB]

/-- Where the message has no location, all of it is zero. -/
def pbConvertToLocationOrZero (location : Option PBLocation) : Location :=
  (location.map pbConvertToLocation).getD default

theorem pbConvertToLocationOrZero_iff (location : Location) :
    pbConvertToLocationOrZero (some (convertLocationToPB location)) = location ↔
      location.techMask .hybridAle = false :=
  pbConvertToLocation_convertLocationToPB_iff location

/-- The answer to a request of either kind. -/
structure SinglePosResp where
  mErrorCode : Ipc.LocationError
  mLocation : Location
  deriving Inhabited

structure PBSinglePosResp where
  errorCode : PBLocationError
  location : Option PBLocation
  deriving Inhabited

def convertSinglePosRespToPB (resp : SinglePosResp) : PBSinglePosResp where
  errorCode := getPBEnumForLocationError resp.mErrorCode
  location := some (convertLocationToPB resp.mLocation)

def pbConvertToSinglePosResp (pb : PBSinglePosResp) : SinglePosResp where
  mErrorCode := getEnumForPBLocationError pb.errorCode
  mLocation := pbConvertToLocationOrZero pb.location

theorem pbConvertToSinglePosResp_iff (resp : SinglePosResp) :
    pbConvertToSinglePosResp (convertSinglePosRespToPB resp) = resp ↔
      LocationErrorCarried resp.mErrorCode ∧ resp.mLocation.techMask .hybridAle = false := by
  obtain ⟨⟩ := resp
  simp only [pbConvertToSinglePosResp, convertSinglePosRespToPB, SinglePosResp.mk.injEq,
    getEnumForPBLocationError_getPBEnum_iff, pbConvertToLocationOrZero_iff]

/-! ## Engines and sentences -/

structure ConstrainedTunc where
  mEnable : Bool
  mTuncConstraint : Single
  mEnergyBudget : UInt32
  deriving Inhabited

structure PBConstrainedTunc where
  mEnable : Bool
  mTuncConstraint : Single
  mEnergyBudget : UInt32
  deriving Inhabited

def convertConstrainedTuncToPB (tunc : ConstrainedTunc) : PBConstrainedTunc where
  mEnable := tunc.mEnable
  mTuncConstraint := tunc.mTuncConstraint
  mEnergyBudget := tunc.mEnergyBudget

def pbConvertToConstrainedTunc (pb : PBConstrainedTunc) : ConstrainedTunc where
  mEnable := pb.mEnable
  mTuncConstraint := pb.mTuncConstraint
  mEnergyBudget := pb.mEnergyBudget

@[simp] theorem pbConvertToConstrainedTunc_convertConstrainedTuncToPB (tunc : ConstrainedTunc) :
    pbConvertToConstrainedTunc (convertConstrainedTuncToPB tunc) = tunc := by
  simp only [pbConvertToConstrainedTunc, convertConstrainedTuncToPB]

structure RobustLocationReq where
  (mEnable mEnableForE911 : Bool)
  deriving Inhabited

structure PBRobustLocationReq where
  (mEnable mEnableForE911 : Bool)
  deriving Inhabited

def convertRobustLocationReqToPB (req : RobustLocationReq) : PBRobustLocationReq where
  mEnable := req.mEnable
  mEnableForE911 := req.mEnableForE911

def pbConvertToRobustLocationReq (pb : PBRobustLocationReq) : RobustLocationReq where
  mEnable := pb.mEnable
  mEnableForE911 := pb.mEnableForE911

@[simp] theorem pbConvertToRobustLocationReq_convertRobustLocationReqToPB
    (req : RobustLocationReq) :
    pbConvertToRobustLocationReq (convertRobustLocationReqToPB req) = req := by
  simp only [pbConvertToRobustLocationReq, convertRobustLocationReqToPB]

structure EngineRunStateReq where
  mEngType : Flags PositioningEngineFlag
  mEngState : LocEngineRunState
  deriving Inhabited

structure PBEngineRunStateReq where
  mEngType : BitVec 32
  mEngState : PBLocEngineRunState
  deriving Inhabited

def convertEngineRunStateReqToPB (req : EngineRunStateReq) : PBEngineRunStateReq where
  mEngType := getPBMaskForPositioningEngineMask req.mEngType
  mEngState := getPBEnumForLocEngineRunState req.mEngState

def pbConvertToEngineRunStateReq (pb : PBEngineRunStateReq) : EngineRunStateReq where
  mEngType := getEnumForPBPositioningEngineMask pb.mEngType
  mEngState := getEnumForPBLocEngineRunState pb.mEngState

theorem pbConvertToEngineRunStateReq_iff (req : EngineRunStateReq) :
    pbConvertToEngineRunStateReq (convertEngineRunStateReqToPB req) = req ↔
      req.mEngType .vpPositioning = false := by
  obtain ⟨⟩ := req
  simp only [pbConvertToEngineRunStateReq, convertEngineRunStateReqToPB, EngineRunStateReq.mk.injEq,
    getEnumForPBPositioningEngineMask_getPBMask_iff,
    getEnumForPBLocEngineRunState_getPBEnumForLocEngineRunState, and_true]

structure EngineIntegrityRiskReq where
  mEngType : Flags PositioningEngineFlag
  mIntegrityRisk : UInt32
  deriving Inhabited

structure PBEngineIntegrityRiskReq where
  engType : BitVec 32
  integrityRisk : UInt32
  deriving Inhabited

def convertEngineIntegrityRiskReqToPB (req : EngineIntegrityRiskReq) :
    PBEngineIntegrityRiskReq where
  engType := getPBMaskForPositioningEngineMask req.mEngType
  integrityRisk := req.mIntegrityRisk

def pbConvertToEngineIntegrityRiskReq (pb : PBEngineIntegrityRiskReq) : EngineIntegrityRiskReq where
  mEngType := getEnumForPBPositioningEngineMask pb.engType
  mIntegrityRisk := pb.integrityRisk

theorem pbConvertToEngineIntegrityRiskReq_iff (req : EngineIntegrityRiskReq) :
    pbConvertToEngineIntegrityRiskReq (convertEngineIntegrityRiskReqToPB req) = req ↔
      req.mEngType .vpPositioning = false := by
  obtain ⟨⟩ := req
  simp only [pbConvertToEngineIntegrityRiskReq, convertEngineIntegrityRiskReqToPB,
    EngineIntegrityRiskReq.mk.injEq, getEnumForPBPositioningEngineMask_getPBMask_iff, and_true]

structure OutputNmeaTypesReq where
  mEnabledNmeaTypes : Flags NmeaTypesFlag
  mNmeaDatumType : GeodeticType
  mNmeaReqEngMask : Flags LocReqEngineTypeFlag
  deriving Inhabited

structure PBOutputNmeaTypesReq where
  nmeaTypesMask : BitVec 32
  nmeaDatumType : PBGeodeticType
  nmeaReqEngMask : BitVec 32
  deriving Inhabited

def convertOutputNmeaTypesReqToPB (req : OutputNmeaTypesReq) : PBOutputNmeaTypesReq where
  nmeaTypesMask := getPBMaskForNmeaTypesMask req.mEnabledNmeaTypes
  nmeaDatumType := getPBEnumForGeodeticType req.mNmeaDatumType
  nmeaReqEngMask := getPBMaskForLocReqEngineTypeMask req.mNmeaReqEngMask

def pbConvertToOutputNmeaTypesReq (pb : PBOutputNmeaTypesReq) : OutputNmeaTypesReq where
  mEnabledNmeaTypes := getNmeaTypesMaskFromPB pb.nmeaTypesMask
  mNmeaDatumType := getEnumForPBGeodeticType pb.nmeaDatumType
  mNmeaReqEngMask := getLocReqEngineTypeMaskFromPB pb.nmeaReqEngMask

theorem pbConvertToOutputNmeaTypesReq_iff (req : OutputNmeaTypesReq) :
    pbConvertToOutputNmeaTypesReq (convertOutputNmeaTypesReqToPB req) = req ↔
      req.mNmeaReqEngMask .vpe = false := by
  obtain ⟨⟩ := req
  simp only [pbConvertToOutputNmeaTypesReq, convertOutputNmeaTypesReqToPB,
    OutputNmeaTypesReq.mk.injEq, getNmeaTypesMaskFromPB_getPBMaskForNmeaTypesMask,
    getEnumForPBGeodeticType_getPBEnumForGeodeticType, getLocReqEngineTypeMaskFromPB_getPBMask_iff,
    true_and]

/-! ## Ping -/

/-- `LOCATION_REMOTE_API_PINGTEST_SIZE` -/
def pingTestSize : Nat := 4

/-- The bytes of a ping; the request and the indication have the same fields. -/
structure PingTest where
  data : Vector UInt8 pingTestSize
  deriving Inhabited

structure PBPingTest where
  numberOfPing : UInt32
  data : List UInt32
  deriving Inhabited

def convertPingTestToPB (pingTest : PingTest) : PBPingTest where
  numberOfPing := UInt32.ofNat pingTestSize
  data := addAll pingTestSize pingTest.data UInt8.toUInt32

/-- The number that the message states decides what is read of its data. -/
def pbConvertToPingTest (pb : PBPingTest) (pingTest : PingTest) : Logged PingTest := do
  let arrLen := min pb.numberOfPing.toNat pingTestSize
  let data ← Logged.fill arrLen pb.data (fun byte _ => pure byte.toUInt8) pingTest.data
  pure { data }

/-- There is as much data as the message says, or as a ping holds. -/
def PBPingTest.Fits (pb : PBPingTest) : Prop :=
  min pb.numberOfPing.toNat pingTestSize ≤ pb.data.length

theorem inBounds_pbConvertToPingTest (pb : PBPingTest) (pingTest : PingTest) :
    (pbConvertToPingTest pb pingTest).InBounds ↔ pb.Fits := by
  have hconv : ∀ (byte : UInt32) (old : UInt8),
      (pure byte.toUInt8 : Logged UInt8).InBounds ↔ True :=
    fun _ _ => iff_true_intro (Logged.inBounds_pure _)
  simp only [pbConvertToPingTest, Logged.inBounds_bind, Logged.inBounds_fill hconv,
    Logged.inBounds_pure, and_true, PBPingTest.Fits]
  constructor
  · exact fun hbounds => hbounds.1
  · exact fun hfits => ⟨hfits, Nat.min_le_right _ _, fun _ _ => trivial⟩

/-- A ping survives. -/
@[simp] theorem pbConvertToPingTest_convertPingTestToPB (pingTest old : PingTest) :
    (pbConvertToPingTest (convertPingTestToPB pingTest) old).value = pingTest := by
  obtain ⟨data⟩ := pingTest
  have hdata : ∀ i (hi : i < pingTestSize), (Logged.fill pingTestSize
      (addAll pingTestSize data UInt8.toUInt32) (fun byte _ => pure byte.toUInt8)
      old.data).value[i] = data[i] := fun i hi =>
    getElem_fill_addAll (fun byte _ => UInt8.toUInt8_toUInt32 byte) (Nat.le_refl _) data old.data
      hi hi
  exact congrArg PingTest.mk (Vector.ext hdata)

end PbConv
end LocationStack
