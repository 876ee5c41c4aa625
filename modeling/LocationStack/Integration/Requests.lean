import LocationStack.PbConv.Requests

/-! # Requests of the integration API

A client of the location integration API changes the configuration of the daemon, or asks for
a part of it.  A request that is accepted becomes a task of the message loop, and the task
sends one message.  The type of the request is what the callback tells the client about it; the
daemon's response tells the message id only, so the type is found from that again.
-/
namespace LocationStack.Integration

open PbConv

/-! ## Types -/

/-- `LocConfigTypeEnum`; `zero` is the value 0, which no request is named by. -/
inductive LocConfigTypeEnum
  | zero
  | configConstellations | configConstrainedTimeUncertainty
  | configPositionAssistedClockEstimator | configAidingDataDeletion | configLeverArm
  | configRobustLocation | configMinGpsWeek | configBodyToSensorMountParams
  | configDeadReckoningEngine | configMinSvElevation | configConstellationSecondaryBand
  | configEngineRunState | configUserConsentTerrestrialPositioning | configOutputNmeaTypes
  | configEngineIntegrityRisk | configXtraParams | configMerkleTree | configOsnmaEnablement
  | configMapMatchedFeedback
  | getRobustLocationConfig | getMinGpsWeek | getMinSvElevation
  | getConstellationSecondaryBandConfig | getXtraStatus | registerXtraStatusUpdate
  | registerSignalTypesUpdate | configXtraUserConsent
  deriving Repr, DecidableEq

namespace LocConfigTypeEnum

/-- `CONFIG_ENUM_MAX` -/
def configEnumMax : Nat := 99

def toNat : LocConfigTypeEnum → Nat
  | zero => 0
  | configConstellations => 1
  | configConstrainedTimeUncertainty => 2
  | configPositionAssistedClockEstimator => 3
  | configAidingDataDeletion => 4
  | configLeverArm => 5
  | configRobustLocation => 6
  | configMinGpsWeek => 7
  | configBodyToSensorMountParams => 8
  | configDeadReckoningEngine => 9
  | configMinSvElevation => 10
  | configConstellationSecondaryBand => 11
  | configEngineRunState => 12
  | configUserConsentTerrestrialPositioning => 13
  | configOutputNmeaTypes => 14
  | configEngineIntegrityRisk => 15
  | configXtraParams => 16
  | configMerkleTree => 17
  | configOsnmaEnablement => 18
  | configMapMatchedFeedback => 19
  | getRobustLocationConfig => 100
  | getMinGpsWeek => 101
  | getMinSvElevation => 102
  | getConstellationSecondaryBandConfig => 103
  | getXtraStatus => 104
  | registerXtraStatusUpdate => 105
  | registerSignalTypesUpdate => 106
  | configXtraUserConsent => 107

/-- The types in the order of their values. -/
def all : List LocConfigTypeEnum :=
  [zero, configConstellations, configConstrainedTimeUncertainty,
    configPositionAssistedClockEstimator, configAidingDataDeletion, configLeverArm,
    configRobustLocation, configMinGpsWeek, configBodyToSensorMountParams,
    configDeadReckoningEngine, configMinSvElevation, configConstellationSecondaryBand,
    configEngineRunState, configUserConsentTerrestrialPositioning, configOutputNmeaTypes,
    configEngineIntegrityRisk, configXtraParams, configMerkleTree, configOsnmaEnablement,
    configMapMatchedFeedback, getRobustLocationConfig, getMinGpsWeek, getMinSvElevation,
    getConstellationSecondaryBandConfig, getXtraStatus, registerXtraStatusUpdate,
    registerSignalTypesUpdate, configXtraUserConsent]

theorem nodup_all : all.Nodup := by decide

theorem mem_all (configType : LocConfigTypeEnum) : configType ∈ all := by
  cases configType <;> decide

end LocConfigTypeEnum

/-- `LocIntegrationResponse` -/
inductive LocIntegrationResponse
  | success | failure | notSupported | paramInvalid
  deriving Repr, DecidableEq

def getLocIntegrationResponse : Ipc.LocationError → LocIntegrationResponse
  | .success => .success
  | .notSupported => .notSupported
  | .invalidParameter => .paramInvalid
  | _ => .failure

/-- A map-matched feedback is not found. -/
def getLocConfigTypeFromMsgId : ELocMsgID → LocConfigTypeEnum
  | .intapiConfigConstraintedTunc => .configConstrainedTimeUncertainty
  | .intapiConfigPositionAssistedClockEstimator => .configPositionAssistedClockEstimator
  | .intapiConfigSvConstellation => .configConstellations
  | .intapiConfigConstellationSecondaryBand => .configConstellationSecondaryBand
  | .intapiConfigAidingDataDeletion => .configAidingDataDeletion
  | .intapiConfigLeverArm => .configLeverArm
  | .intapiConfigRobustLocation => .configRobustLocation
  | .intapiConfigMinGpsWeek => .configMinGpsWeek
  | .intapiConfigDeadReckoningEngine => .configDeadReckoningEngine
  | .intapiConfigMinSvElevation => .configMinSvElevation
  | .intapiConfigEngineRunState => .configEngineRunState
  | .intapiConfigUserConsentTerrestrialPositioning => .configUserConsentTerrestrialPositioning
  | .intapiConfigOutputNmeaTypes => .configOutputNmeaTypes
  | .intapiConfigEngineIntegrityRisk => .configEngineIntegrityRisk
  | .intapiConfigXtraParams => .configXtraParams
  | .intapiConfigMerkleTree => .configMerkleTree
  | .intapiConfigOsnmaEnablement => .configOsnmaEnablement
  | .intapiGetRobustLocationConfigReq => .getRobustLocationConfig
  | .intapiGetRobustLocationConfigResp => .getRobustLocationConfig
  | .intapiGetMinGpsWeekReq => .getMinGpsWeek
  | .intapiGetMinGpsWeekResp => .getMinGpsWeek
  | .intapiGetMinSvElevationReq => .getMinSvElevation
  | .intapiGetMinSvElevationResp => .getMinSvElevation
  | .intapiGetConstellationSecondaryBandConfigReq => .getConstellationSecondaryBandConfig
  | .intapiGetConstellationSecondaryBandConfigResp => .getConstellationSecondaryBandConfig
  | .intapiGetXtraStatusReq => .getXtraStatus
  | .intapiGetXtraStatusResp => .getXtraStatus
  | .intapiRegisterXtraStatusUpdateReq => .registerXtraStatusUpdate
  | .intapiDeregisterXtraStatusUpdateReq => .registerXtraStatusUpdate
  | .intapiRegisterGnssSignalTypesUpdateReq => .registerSignalTypesUpdate
  | .intapiRegisterGnssSignalTypesUpdateResp => .registerSignalTypesUpdate
  | .intapiConfigXtraUserConsent => .configXtraUserConsent
  | _ => .zero

/-! ## Requests -/

/-- The calls of `LocationIntegrationApiImpl`. -/
inductive Request (h : Header)
  | configConstellations (constellationEnablementConfig : GnssSvTypeConfig)
      (blacklistSvConfig : GnssSvIdConfig)
  | configConstellationSecondaryBand (secondaryBandConfig : GnssSvTypeConfig)
  | getConstellationSecondaryBandConfig
  | configConstrainedTimeUncertainty (enable : Bool) (tuncThreshold : Single)
      (energyBudget : UInt32)
  | configPositionAssistedClockEstimator (enable : Bool)
  | gnssDeleteAidingData (aidingData : GnssAidingData)
  | configLeverArm (configInfo : LeverArmConfigInfo)
  | configRobustLocation (enable enableForE911 : Bool)
  | getRobustLocationConfig
  | configMinGpsWeek (minGpsWeek : UInt16)
  | getMinGpsWeek
  | configDeadReckoningEngineParams (dreConfig : DeadReckoningEngineConfig)
  | configMinSvElevation (minSvElevation : UInt8)
  | getMinSvElevation
  | configEngineRunState (engType : Flags PositioningEngineFlag) (engState : LocEngineRunState)
  | setUserConsentForTerrestrialPositioning (userConsent : Bool)
  | configOutputNmeaTypes (enabledNmeaTypes : Flags NmeaTypesFlag) (nmeaDatumType : GeodeticType)
      (locReqEngMask : Flags LocReqEngineTypeFlag)
  | configEngineIntegrityRisk (engType : Flags PositioningEngineFlag) (integrityRisk : UInt32)
  | odcpiInject (location : Location)
  | configXtraParams (enable : Bool) (configParams : XtraConfigParams h)
  | getXtraStatus
  | registerXtraStatusUpdate (registerUpdate : Bool)
  | configMerkleTree (merkleTreeXml : List UInt8)
  | configOsnmaEnablement (isEnabled : Bool)
  | registerGnssSignalTypesUpdate (registerUpdate : Bool)
  | gnssInjectMmfData (mmfData : GnssMapMatchedData)
  | configureUserConsentForXtra (userConsent : Bool)

variable {h : Header}

/-- What a value becomes that has to lie between two others. -/
def limitTo (least most value : UInt32) : UInt32 :=
  if value < least then least else if value > most then most else value

/-- The parameters that `ConfigXtraReq` sends; a test may send any.  An interval of 0 stays. -/
def limitXtraParams (sXtraTestEnabled : UInt32) (mConfigParams : XtraConfigParams h) :
    XtraConfigParams h :=
  if sXtraTestEnabled = 1 then mConfigParams
  else
    { mConfigParams with
      xtraDownloadIntervalMinute :=
        if mConfigParams.xtraDownloadIntervalMinute = 0 then 0
        else limitTo (48 * 60) (168 * 60) mConfigParams.xtraDownloadIntervalMinute
      xtraDownloadTimeoutSec :=
        if mConfigParams.xtraDownloadTimeoutSec = 0 then 0
        else limitTo 3 300 mConfigParams.xtraDownloadTimeoutSec
      xtraDownloadRetryIntervalMinute :=
        if mConfigParams.xtraDownloadRetryIntervalMinute = 0 then 0
        else limitTo 3 (24 * 60) mConfigParams.xtraDownloadRetryIntervalMinute
      xtraDownloadRetryAttempts := limitTo 0 6 mConfigParams.xtraDownloadRetryAttempts
      xtraIntegrityDownloadIntervalMinute :=
        limitTo 360 2880 mConfigParams.xtraIntegrityDownloadIntervalMinute }

namespace Request

/-- The message of a request. -/
def payload (sXtraTestEnabled : UInt32) : Request h → Payload h
  | configConstellations constellationEnablementConfig blacklistSvConfig =>
    .configSvConstellationReq ⟨constellationEnablementConfig, blacklistSvConfig⟩
  | configConstellationSecondaryBand secondaryBandConfig =>
    .configConstellationSecondaryBandReq secondaryBandConfig
  | getConstellationSecondaryBandConfig => .getConstellationSecondaryBandConfigReq
  | configConstrainedTimeUncertainty enable tuncThreshold energyBudget =>
    .configConstrainedTuncReq ⟨enable, tuncThreshold, energyBudget⟩
  | configPositionAssistedClockEstimator enable => .configPositionAssistedClockEstimatorReq enable
  | gnssDeleteAidingData aidingData => .configAidingDataDeletionReq aidingData
  | configLeverArm configInfo => .configLeverArmReq configInfo
  | configRobustLocation enable enableForE911 => .configRobustLocationReq ⟨enable, enableForE911⟩
  | getRobustLocationConfig => .getRobustLocationConfigReq
  | configMinGpsWeek minGpsWeek => .configMinGpsWeekReq minGpsWeek
  | getMinGpsWeek => .getMinGpsWeekReq
  | configDeadReckoningEngineParams dreConfig => .configDrEngineParamsReq dreConfig
  | configMinSvElevation minSvElevation => .configMinSvElevationReq minSvElevation
  | getMinSvElevation => .getMinSvElevationReq
  | configEngineRunState engType engState => .configEngineRunStateReq ⟨engType, engState⟩
  | setUserConsentForTerrestrialPositioning userConsent =>
    .configUserConsentTerrestrialPositioningReq userConsent
  | configOutputNmeaTypes enabledNmeaTypes nmeaDatumType locReqEngMask =>
    .configOutputNmeaTypesReq ⟨enabledNmeaTypes, nmeaDatumType, locReqEngMask⟩
  | configEngineIntegrityRisk engType integrityRisk =>
    .configEngineIntegrityRiskReq ⟨engType, integrityRisk⟩
  | odcpiInject location => .injectLocation location
  | configXtraParams enable configParams =>
    .configXtraReq ⟨enable, limitXtraParams sXtraTestEnabled configParams⟩
  | getXtraStatus => .getXtraStatusReq
  | registerXtraStatusUpdate registerUpdate =>
    if registerUpdate then .registerXtraStatusUpdateReq else .deregisterXtraStatusUpdateReq
  | configMerkleTree merkleTreeXml => .configMerkleTreeReq merkleTreeXml
  | configOsnmaEnablement isEnabled => .configOsnmaEnablementReq isEnabled
  | registerGnssSignalTypesUpdate registerUpdate =>
    .registerGnssSignalTypesUpdateReq registerUpdate
  | gnssInjectMmfData mmfData => .injectMmfDataReq mmfData
  | configureUserConsentForXtra userConsent => .injectXtraUserConsent userConsent

/-- The type that a request is sent under; an injected location expects no response. -/
def configType : Request h → LocConfigTypeEnum
  | configConstellations .. => .configConstellations
  | configConstellationSecondaryBand _ => .configConstellationSecondaryBand
  | getConstellationSecondaryBandConfig => .getConstellationSecondaryBandConfig
  | configConstrainedTimeUncertainty .. => .configConstrainedTimeUncertainty
  | configPositionAssistedClockEstimator _ => .configPositionAssistedClockEstimator
  | gnssDeleteAidingData _ => .configAidingDataDeletion
  | configLeverArm _ => .configLeverArm
  | configRobustLocation .. => .configRobustLocation
  | getRobustLocationConfig => .getRobustLocationConfig
  | configMinGpsWeek _ => .configMinGpsWeek
  | getMinGpsWeek => .getMinGpsWeek
  | configDeadReckoningEngineParams _ => .configDeadReckoningEngine
  | configMinSvElevation _ => .configMinSvElevation
  | getMinSvElevation => .getMinSvElevation
  | configEngineRunState .. => .configEngineRunState
  | setUserConsentForTerrestrialPositioning _ => .configUserConsentTerrestrialPositioning
  | configOutputNmeaTypes .. => .configOutputNmeaTypes
  | configEngineIntegrityRisk .. => .configEngineIntegrityRisk
  | odcpiInject _ => .zero
  | configXtraParams .. => .configXtraParams
  | getXtraStatus => .getXtraStatus
  | registerXtraStatusUpdate _ => .registerXtraStatusUpdate
  | configMerkleTree _ => .configMerkleTree
  | configOsnmaEnablement _ => .configOsnmaEnablement
  | registerGnssSignalTypesUpdate _ => .registerSignalTypesUpdate
  | gnssInjectMmfData _ => .configMapMatchedFeedback
  | configureUserConsentForXtra _ => .configXtraUserConsent

end Request

/-- Which callbacks the client has set. -/
structure LocIntegrationCbs where
  (configCb getRobustLocationConfigCb getMinGpsWeekCb getMinSvElevationCb : Bool)
  (getConstellationSecondaryBandConfigCb getXtraStatusCb : Bool)
  deriving Repr, DecidableEq

/-- Nobody could be told what these requests ask for. -/
def Request.accepted (mIntegrationCbs : LocIntegrationCbs) : Request h → Bool
  | getConstellationSecondaryBandConfig => mIntegrationCbs.getConstellationSecondaryBandConfigCb
  | getRobustLocationConfig => mIntegrationCbs.getRobustLocationConfigCb
  | getMinGpsWeek => mIntegrationCbs.getMinGpsWeekCb
  | getMinSvElevation => mIntegrationCbs.getMinSvElevationCb
  | getXtraStatus | registerXtraStatusUpdate _ => mIntegrationCbs.getXtraStatusCb
  | _ => true

/-- Some lever arm is valid. -/
def LeverArmConfigInfo.anyValid (configInfo : LeverArmConfigInfo) : Bool :=
  configInfo.leverArmValidMask .gnssToVrp || configInfo.leverArmValidMask .drImuToGnss ||
    configInfo.leverArmValidMask .veppImuToGnss

/-- Whether an accepted request becomes a task. -/
def Request.hasTask : Request h → Bool
  | configLeverArm configInfo => LeverArmConfigInfo.anyValid configInfo
  | _ => true

/-- The responses that the receiver of messages knows; that to a consent to XTRA is not among
them. -/
def isConfigResponse : ELocMsgID → Bool
  | .intapiConfigConstraintedTunc | .intapiConfigPositionAssistedClockEstimator
  | .intapiConfigSvConstellation | .intapiConfigConstellationSecondaryBand
  | .intapiConfigAidingDataDeletion | .intapiConfigLeverArm | .intapiConfigRobustLocation
  | .intapiConfigMinGpsWeek | .intapiConfigDeadReckoningEngine | .intapiConfigMinSvElevation
  | .intapiConfigEngineRunState | .intapiConfigUserConsentTerrestrialPositioning
  | .intapiConfigOutputNmeaTypes | .intapiConfigEngineIntegrityRisk | .intapiConfigXtraParams
  | .intapiConfigMerkleTree | .intapiConfigOsnmaEnablement | .intapiGetRobustLocationConfigReq
  | .intapiGetMinGpsWeekReq | .intapiGetMinSvElevationReq
  | .intapiGetConstellationSecondaryBandConfigReq | .intapiGetXtraStatusReq
  | .intapiRegisterXtraStatusUpdateReq | .intapiDeregisterXtraStatusUpdateReq
  | .intapiRegisterGnssSignalTypesUpdateReq | .intapiConfigMapMatchedFeedback => true
  | _ => false

/-- The daemon answers every message but the registration and an injected location. -/
def hasResponse : Payload h → Bool
  | .clientRegisterReq _ | .injectLocation _ => false
  | _ => true

/-- The response to a request is found again under its type. -/
def Request.Recognised : Request h → Prop
  | gnssInjectMmfData _ | configureUserConsentForXtra _ => False
  | _ => True

/-- **The type comes back** with the message id, but for the two requests that are not
recognised. -/
theorem Request.getLocConfigTypeFromMsgId_payload (request : Request h)
    (hrec : request.Recognised) (sXtraTestEnabled : UInt32) :
    getLocConfigTypeFromMsgId (request.payload sXtraTestEnabled).msgId = request.configType := by
  cases request with
  | registerXtraStatusUpdate registerUpdate => cases registerUpdate <;> rfl
  | gnssInjectMmfData _ | configureUserConsentForXtra _ => exact hrec.elim
  | _ => rfl

theorem Request.isConfigResponse_payload (request : Request h) (hrec : request.Recognised)
    (hresp : request.configType ≠ .zero) (sXtraTestEnabled : UInt32) :
    isConfigResponse (request.payload sXtraTestEnabled).msgId = true := by
  cases request with
  | registerXtraStatusUpdate registerUpdate => cases registerUpdate <;> rfl
  | odcpiInject _ => exact (hresp rfl).elim
  | configureUserConsentForXtra _ => exact hrec.elim
  | _ => rfl

theorem Request.hasResponse_payload (request : Request h) (sXtraTestEnabled : UInt32) :
    hasResponse (request.payload sXtraTestEnabled) = true ↔ request.configType ≠ .zero := by
  cases request with
  | registerXtraStatusUpdate registerUpdate =>
    cases registerUpdate <;> exact ⟨fun _ => nofun, fun _ => rfl⟩
  | odcpiInject _ => exact ⟨nofun, fun hresp => (hresp rfl).elim⟩
  | _ => exact ⟨fun _ => nofun, fun _ => rfl⟩

end LocationStack.Integration
