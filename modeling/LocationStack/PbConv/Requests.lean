import LocationStack.PbConv.RequestParts
import LocationStack.PbConv.Xtra

/-! # Requests and answers

A message has a header, with the name of its sender, and a payload.  The constructors of the
messages that are sent fill in the header; those that decode make a new header, from the name in
the message.  So a header survives always, and a payload exactly if the message has what it holds.

What the message lacks: all errors but five; the callback for antenna information; the vision
engine, as an engine of a request and as a positioning engine; all aiding data of the satellites
but ephemerides, the types of satellites and the common data; the status of XTRA while the feature
is off; a size of zero in the secondary bands; and, as in a report, a technology of a location.
-/
namespace LocationStack
namespace PbConv

/-! ## Message ids -/

inductive ELocMsgID
  | locapiUndefined | locapiClientRegister | locapiClientDeregister | locapiCapabililties
  | locapiHalReady | locapiStartTracking | locapiStopTracking | locapiUpdateCallbacks
  | locapiUpdateTrackingOptions | locapiControlUpdateConfig | locapiControlDeleteAidingData
  | locapiControlUpdateNetworkAvailability | locapiLocation | locapiLocationInfo
  | locapiSatelliteVehicle | locapiNmea | locapiData | locapiGetGnssEngeryConsumed
  | locapiLocationSystemInfo | locapiEngineLocationsInfo | locapiStartBatching | locapiStopBatching
  | locapiUpdateBatchingOptions | locapiBatching | locapiAddGeofences | locapiRemoveGeofences
  | locapiModifyGeofences | locapiPauseGeofences | locapiResumeGeofences | locapiGeofenceBreach
  | locapiMeas | locapiGetSingleTerrestrialPosReq | locapiGetSingleTerrestrialPosResp
  | locapiGetDebugReq | locapiGetDebugResp | locapiDcReport | locapiGetAntennaInfo
  | locapiAntennaInfo | locapiGetSinglePosReq | locapiGetSinglePosResp | locapiEph | locapiPingtest
  | intapiConfigConstraintedTunc | intapiConfigPositionAssistedClockEstimator
  | intapiConfigSvConstellation | intapiConfigAidingDataDeletion | intapiConfigLeverArm
  | intapiConfigRobustLocation | intapiConfigMinGpsWeek | intapiConfigDeadReckoningEngine
  | intapiConfigMinSvElevation | intapiConfigConstellationSecondaryBand
  | intapiConfigEngineRunState | intapiConfigUserConsentTerrestrialPositioning
  | intapiConfigOutputNmeaTypes | intapiConfigEngineIntegrityRisk | intapiInjectLocation
  | intapiConfigXtraParams | intapiConfigMerkleTree | intapiConfigOsnmaEnablement
  | intapiConfigMapMatchedFeedback | intapiConfigXtraUserConsent | intapiGetRobustLocationConfigReq
  | intapiGetRobustLocationConfigResp | intapiGetMinGpsWeekReq | intapiGetMinGpsWeekResp
  | intapiGetMinSvElevationReq | intapiGetMinSvElevationResp
  | intapiGetConstellationSecondaryBandConfigReq | intapiGetConstellationSecondaryBandConfigResp
  | intapiGetXtraStatusReq | intapiGetXtraStatusResp | intapiRegisterXtraStatusUpdateReq
  | intapiDeregisterXtraStatusUpdateReq | intapiRegisterGnssSignalTypesUpdateReq
  | intapiRegisterGnssSignalTypesUpdateResp
  deriving Repr, DecidableEq, Inhabited

inductive PBELocMsgID
  | locapiUndefined | locapiClientRegister | locapiClientDeregister | locapiCapabililties
  | locapiHalReady | locapiStartTracking | locapiStopTracking | locapiUpdateCallbacks
  | locapiUpdateTrackingOptions | locapiControlUpdateConfig | locapiControlDeleteAidingData
  | locapiControlUpdateNetworkAvailability | locapiLocation | locapiLocationInfo
  | locapiSatelliteVehicle | locapiNmea | locapiData | locapiGetGnssEngeryConsumed
  | locapiLocationSystemInfo | locapiEngineLocationsInfo | locapiStartBatching | locapiStopBatching
  | locapiUpdateBatchingOptions | locapiBatching | locapiAddGeofences | locapiRemoveGeofences
  | locapiModifyGeofences | locapiPauseGeofences | locapiResumeGeofences | locapiGeofenceBreach
  | locapiMeas | locapiGetSingleTerrestrialPosReq | locapiGetSingleTerrestrialPosResp
  | locapiGetDebugReq | locapiGetDebugResp | locapiDcReport | locapiGetAntennaInfo
  | locapiAntennaInfo | locapiGetSinglePosReq | locapiGetSinglePosResp | locapiEph | locapiPingtest
  | intapiConfigConstraintedTunc | intapiConfigPositionAssistedClockEstimator
  | intapiConfigSvConstellation | intapiConfigAidingDataDeletion | intapiConfigLeverArm
  | intapiConfigRobustLocation | intapiConfigMinGpsWeek | intapiConfigDeadReckoningEngine
  | intapiConfigMinSvElevation | intapiConfigConstellationSecondaryBand
  | intapiConfigEngineRunState | intapiConfigUserConsentTerrestrialPositioning
  | intapiConfigOutputNmeaTypes | intapiConfigEngineIntegrityRisk | intapiInjectLocation
  | intapiConfigXtraParams | intapiConfigMerkleTree | intapiConfigOsnmaEnablement
  | intapiConfigMapMatchedFeedback | intapiConfigXtraUserConsent | intapiGetRobustLocationConfigReq
  | intapiGetRobustLocationConfigResp | intapiGetMinGpsWeekReq | intapiGetMinGpsWeekResp
  | intapiGetMinSvElevationReq | intapiGetMinSvElevationResp
  | intapiGetConstellationSecondaryBandConfigReq | intapiGetConstellationSecondaryBandConfigResp
  | intapiGetXtraStatusReq | intapiGetXtraStatusResp | intapiRegisterXtraStatusUpdateReq
  | intapiDeregisterXtraStatusUpdateReq | intapiRegisterGnssSignalTypesUpdateReq
  | intapiRegisterGnssSignalTypesUpdateResp
  | unrecognized (value : BitVec 32)
  deriving Repr, DecidableEq, Inhabited

def getPBEnumForELocMsgID : ELocMsgID → PBELocMsgID
  | .locapiUndefined => .locapiUndefined
  | .locapiClientRegister => .locapiClientRegister
  | .locapiClientDeregister => .locapiClientDeregister
  | .locapiCapabililties => .locapiCapabililties
  | .locapiHalReady => .locapiHalReady
  | .locapiStartTracking => .locapiStartTracking
  | .locapiStopTracking => .locapiStopTracking
  | .locapiUpdateCallbacks => .locapiUpdateCallbacks
  | .locapiUpdateTrackingOptions => .locapiUpdateTrackingOptions
  | .locapiControlUpdateConfig => .locapiControlUpdateConfig
  | .locapiControlDeleteAidingData => .locapiControlDeleteAidingData
  | .locapiControlUpdateNetworkAvailability => .locapiControlUpdateNetworkAvailability
  | .locapiLocation => .locapiLocation
  | .locapiLocationInfo => .locapiLocationInfo
  | .locapiSatelliteVehicle => .locapiSatelliteVehicle
  | .locapiNmea => .locapiNmea
  | .locapiData => .locapiData
  | .locapiGetGnssEngeryConsumed => .locapiGetGnssEngeryConsumed
  | .locapiLocationSystemInfo => .locapiLocationSystemInfo
  | .locapiEngineLocationsInfo => .locapiEngineLocationsInfo
  | .locapiStartBatching => .locapiStartBatching
  | .locapiStopBatching => .locapiStopBatching
  | .locapiUpdateBatchingOptions => .locapiUpdateBatchingOptions
  | .locapiBatching => .locapiBatching
  | .locapiAddGeofences => .locapiAddGeofences
  | .locapiRemoveGeofences => .locapiRemoveGeofences
  | .locapiModifyGeofences => .locapiModifyGeofences
  | .locapiPauseGeofences => .locapiPauseGeofences
  | .locapiResumeGeofences => .locapiResumeGeofences
  | .locapiGeofenceBreach => .locapiGeofenceBreach
  | .locapiMeas => .locapiMeas
  | .locapiGetSingleTerrestrialPosReq => .locapiGetSingleTerrestrialPosReq
  | .locapiGetSingleTerrestrialPosResp => .locapiGetSingleTerrestrialPosResp
  | .locapiGetDebugReq => .locapiGetDebugReq
  | .locapiGetDebugResp => .locapiGetDebugResp
  | .locapiDcReport => .locapiDcReport
  | .locapiGetAntennaInfo => .locapiGetAntennaInfo
  | .locapiAntennaInfo => .locapiAntennaInfo
  | .locapiGetSinglePosReq => .locapiGetSinglePosReq
  | .locapiGetSinglePosResp => .locapiGetSinglePosResp
  | .locapiEph => .locapiEph
  | .locapiPingtest => .locapiPingtest
  | .intapiConfigConstraintedTunc => .intapiConfigConstraintedTunc
  | .intapiConfigPositionAssistedClockEstimator => .intapiConfigPositionAssistedClockEstimator
  | .intapiConfigSvConstellation => .intapiConfigSvConstellation
  | .intapiConfigAidingDataDeletion => .intapiConfigAidingDataDeletion
  | .intapiConfigLeverArm => .intapiConfigLeverArm
  | .intapiConfigRobustLocation => .intapiConfigRobustLocation
  | .intapiConfigMinGpsWeek => .intapiConfigMinGpsWeek
  | .intapiConfigDeadReckoningEngine => .intapiConfigDeadReckoningEngine
  | .intapiConfigMinSvElevation => .intapiConfigMinSvElevation
  | .intapiConfigConstellationSecondaryBand => .intapiConfigConstellationSecondaryBand
  | .intapiConfigEngineRunState => .intapiConfigEngineRunState
  | .intapiConfigUserConsentTerrestrialPositioning => .intapiConfigUserConsentTerrestrialPositioning
  | .intapiConfigOutputNmeaTypes => .intapiConfigOutputNmeaTypes
  | .intapiConfigEngineIntegrityRisk => .intapiConfigEngineIntegrityRisk
  | .intapiInjectLocation => .intapiInjectLocation
  | .intapiConfigXtraParams => .intapiConfigXtraParams
  | .intapiConfigMerkleTree => .intapiConfigMerkleTree
  | .intapiConfigOsnmaEnablement => .intapiConfigOsnmaEnablement
  | .intapiConfigMapMatchedFeedback => .intapiConfigMapMatchedFeedback
  | .intapiConfigXtraUserConsent => .intapiConfigXtraUserConsent
  | .intapiGetRobustLocationConfigReq => .intapiGetRobustLocationConfigReq
  | .intapiGetRobustLocationConfigResp => .intapiGetRobustLocationConfigResp
  | .intapiGetMinGpsWeekReq => .intapiGetMinGpsWeekReq
  | .intapiGetMinGpsWeekResp => .intapiGetMinGpsWeekResp
  | .intapiGetMinSvElevationReq => .intapiGetMinSvElevationReq
  | .intapiGetMinSvElevationResp => .intapiGetMinSvElevationResp
  | .intapiGetConstellationSecondaryBandConfigReq => .intapiGetConstellationSecondaryBandConfigReq
  | .intapiGetConstellationSecondaryBandConfigResp => .intapiGetConstellationSecondaryBandConfigResp
  | .intapiGetXtraStatusReq => .intapiGetXtraStatusReq
  | .intapiGetXtraStatusResp => .intapiGetXtraStatusResp
  | .intapiRegisterXtraStatusUpdateReq => .intapiRegisterXtraStatusUpdateReq
  | .intapiDeregisterXtraStatusUpdateReq => .intapiDeregisterXtraStatusUpdateReq
  | .intapiRegisterGnssSignalTypesUpdateReq => .intapiRegisterGnssSignalTypesUpdateReq
  | .intapiRegisterGnssSignalTypesUpdateResp => .intapiRegisterGnssSignalTypesUpdateResp

def getEnumForPBELocMsgID : PBELocMsgID → ELocMsgID
  | .locapiUndefined => .locapiUndefined
  | .locapiClientRegister => .locapiClientRegister
  | .locapiClientDeregister => .locapiClientDeregister
  | .locapiCapabililties => .locapiCapabililties
  | .locapiHalReady => .locapiHalReady
  | .locapiStartTracking => .locapiStartTracking
  | .locapiStopTracking => .locapiStopTracking
  | .locapiUpdateCallbacks => .locapiUpdateCallbacks
  | .locapiUpdateTrackingOptions => .locapiUpdateTrackingOptions
  | .locapiControlUpdateConfig => .locapiControlUpdateConfig
  | .locapiControlDeleteAidingData => .locapiControlDeleteAidingData
  | .locapiControlUpdateNetworkAvailability => .locapiControlUpdateNetworkAvailability
  | .locapiLocation => .locapiLocation
  | .locapiLocationInfo => .locapiLocationInfo
  | .locapiSatelliteVehicle => .locapiSatelliteVehicle
  | .locapiNmea => .locapiNmea
  | .locapiData => .locapiData
  | .locapiGetGnssEngeryConsumed => .locapiGetGnssEngeryConsumed
  | .locapiLocationSystemInfo => .locapiLocationSystemInfo
  | .locapiEngineLocationsInfo => .locapiEngineLocationsInfo
  | .locapiStartBatching => .locapiStartBatching
  | .locapiStopBatching => .locapiStopBatching
  | .locapiUpdateBatchingOptions => .locapiUpdateBatchingOptions
  | .locapiBatching => .locapiBatching
  | .locapiAddGeofences => .locapiAddGeofences
  | .locapiRemoveGeofences => .locapiRemoveGeofences
  | .locapiModifyGeofences => .locapiModifyGeofences
  | .locapiPauseGeofences => .locapiPauseGeofences
  | .locapiResumeGeofences => .locapiResumeGeofences
  | .locapiGeofenceBreach => .locapiGeofenceBreach
  | .locapiMeas => .locapiMeas
  | .locapiGetSingleTerrestrialPosReq => .locapiGetSingleTerrestrialPosReq
  | .locapiGetSingleTerrestrialPosResp => .locapiGetSingleTerrestrialPosResp
  | .locapiGetDebugReq => .locapiGetDebugReq
  | .locapiGetDebugResp => .locapiGetDebugResp
  | .locapiDcReport => .locapiDcReport
  | .locapiGetAntennaInfo => .locapiGetAntennaInfo
  | .locapiAntennaInfo => .locapiAntennaInfo
  | .locapiGetSinglePosReq => .locapiGetSinglePosReq
  | .locapiGetSinglePosResp => .locapiGetSinglePosResp
  | .locapiEph => .locapiEph
  | .locapiPingtest => .locapiPingtest
  | .intapiConfigConstraintedTunc => .intapiConfigConstraintedTunc
  | .intapiConfigPositionAssistedClockEstimator => .intapiConfigPositionAssistedClockEstimator
  | .intapiConfigSvConstellation => .intapiConfigSvConstellation
  | .intapiConfigAidingDataDeletion => .intapiConfigAidingDataDeletion
  | .intapiConfigLeverArm => .intapiConfigLeverArm
  | .intapiConfigRobustLocation => .intapiConfigRobustLocation
  | .intapiConfigMinGpsWeek => .intapiConfigMinGpsWeek
  | .intapiConfigDeadReckoningEngine => .intapiConfigDeadReckoningEngine
  | .intapiConfigMinSvElevation => .intapiConfigMinSvElevation
  | .intapiConfigConstellationSecondaryBand => .intapiConfigConstellationSecondaryBand
  | .intapiConfigEngineRunState => .intapiConfigEngineRunState
  | .intapiConfigUserConsentTerrestrialPositioning => .intapiConfigUserConsentTerrestrialPositioning
  | .intapiConfigOutputNmeaTypes => .intapiConfigOutputNmeaTypes
  | .intapiConfigEngineIntegrityRisk => .intapiConfigEngineIntegrityRisk
  | .intapiInjectLocation => .intapiInjectLocation
  | .intapiConfigXtraParams => .intapiConfigXtraParams
  | .intapiConfigMerkleTree => .intapiConfigMerkleTree
  | .intapiConfigOsnmaEnablement => .intapiConfigOsnmaEnablement
  | .intapiConfigMapMatchedFeedback => .intapiConfigMapMatchedFeedback
  | .intapiConfigXtraUserConsent => .intapiConfigXtraUserConsent
  | .intapiGetRobustLocationConfigReq => .intapiGetRobustLocationConfigReq
  | .intapiGetRobustLocationConfigResp => .intapiGetRobustLocationConfigResp
  | .intapiGetMinGpsWeekReq => .intapiGetMinGpsWeekReq
  | .intapiGetMinGpsWeekResp => .intapiGetMinGpsWeekResp
  | .intapiGetMinSvElevationReq => .intapiGetMinSvElevationReq
  | .intapiGetMinSvElevationResp => .intapiGetMinSvElevationResp
  | .intapiGetConstellationSecondaryBandConfigReq => .intapiGetConstellationSecondaryBandConfigReq
  | .intapiGetConstellationSecondaryBandConfigResp => .intapiGetConstellationSecondaryBandConfigResp
  | .intapiGetXtraStatusReq => .intapiGetXtraStatusReq
  | .intapiGetXtraStatusResp => .intapiGetXtraStatusResp
  | .intapiRegisterXtraStatusUpdateReq => .intapiRegisterXtraStatusUpdateReq
  | .intapiDeregisterXtraStatusUpdateReq => .intapiDeregisterXtraStatusUpdateReq
  | .intapiRegisterGnssSignalTypesUpdateReq => .intapiRegisterGnssSignalTypesUpdateReq
  | .intapiRegisterGnssSignalTypesUpdateResp => .intapiRegisterGnssSignalTypesUpdateResp
  | .unrecognized _ => .locapiUndefined

@[simp] theorem getEnumForPBELocMsgID_getPBEnumForELocMsgID (msgId : ELocMsgID) :
    getEnumForPBELocMsgID (getPBEnumForELocMsgID msgId) = msgId := by
  cases msgId <;> rfl

/-! ## Headers -/

/-- `MAX_SOCKET_PATHNAME_LENGTH` -/
def maxSocketPathnameLength : Nat := 128

/-- `LOCATION_REMOTE_API_MSG_VERSION` -/
def locationRemoteApiMsgVersion : UInt32 := 1

/-- A header as its constructor leaves it: the name ends within its array. -/
structure LocAPIMsgHeader where
  mSocketName : Vector UInt8 maxSocketPathnameLength
  terminated : (cString mSocketName.toList).length < maxSocketPathnameLength
  msgId : ELocMsgID
  msgVersion : UInt32

/-- The name is cleared and copied. -/
def LocAPIMsgHeader.new (name : List UInt8) (msgId : ELocMsgID) : LocAPIMsgHeader where
  mSocketName := (strlcpy (Vector.replicate maxSocketPathnameLength 0) name).value
  terminated := length_cString_strlcpy_lt (by decide) name _
  msgId := msgId
  msgVersion := locationRemoteApiMsgVersion

/-- The same name, id and version. -/
structure LocAPIMsgHeader.Same (header header' : LocAPIMsgHeader) : Prop where
  mSocketName : cString header'.mSocketName.toList = cString header.mSocketName.toList
  msgId : header'.msgId = header.msgId
  msgVersion : header'.msgVersion = header.msgVersion

/-- The header that is made of the name in a message is the one that was sent. -/
theorem LocAPIMsgHeader.new_same (header : LocAPIMsgHeader)
    (hversion : header.msgVersion = locationRemoteApiMsgVersion) :
    header.Same (.new (cString header.mSocketName.toList) header.msgId) where
  mSocketName := cString_strlcpy_cString header.terminated _
  msgId := rfl
  msgVersion := hversion.symm

/-! ## Payloads -/

inductive Payload (h : Header)
  | clientRegisterReq (mClientType : Ipc.ClientType)
  | clientDeregisterReq
  | capabilitiesInd (capabilitiesMask : Flags LocationCapabilitiesFlag)
  | halReadyInd
  | genericResp (msgId : ELocMsgID) (err : Ipc.LocationError)
  | collectiveResp (msgId : ELocMsgID) (collectiveRes : CollectiveResPayload)
  | startTrackingReq (locOptions : LocationOptions)
  | updateTrackingOptionsReq (locOptions : LocationOptions)
  | stopTrackingReq (clearSubscriptions : Bool)
  | updateCallbacksReq (locationCallbacks : Flags LocationCallbacksFlag)
  | startBatchingReq (options : BatchingOptions)
  | updateBatchingOptionsReq (options : BatchingOptions)
  | stopBatchingReq
  | addGeofencesReq (geofences : GeofencesAddedReqPayload)
  | modifyGeofencesReq (geofences : GeofencesAddedReqPayload)
  | removeGeofencesReq (gfClientIds : GeofencesReqClientIdPayload)
  | pauseGeofencesReq (gfClientIds : GeofencesReqClientIdPayload)
  | resumeGeofencesReq (gfClientIds : GeofencesReqClientIdPayload)
  | updateNetworkAvailabilityReq (mAvailability : Bool)
  | getGnssEnergyConsumedReq
  | gnssEnergyConsumedInd (totalGnssEnergyConsumedSinceFirstBoot : UInt64)
  | getSingleTerrestrialPosReq (req : SingleTerrestrialPosReq)
  | getSinglePosReq (req : SinglePosReq)
  | getSingleTerrestrialPosResp (resp : SinglePosResp)
  | getSinglePosResp (resp : SinglePosResp)
  | configConstrainedTuncReq (tunc : ConstrainedTunc)
  | configPositionAssistedClockEstimatorReq (mEnable : Bool)
  | configSvConstellationReq (msg : LocConfigSvConstellationReqMsg)
  | configConstellationSecondaryBandReq (mSecondaryBandConfig : GnssSvTypeConfig)
  | configAidingDataDeletionReq (mAidingData : GnssAidingData)
  | configLeverArmReq (mLeverArmConfigInfo : LeverArmConfigInfo)
  | configRobustLocationReq (req : RobustLocationReq)
  | configMinGpsWeekReq (mMinGpsWeek : UInt16)
  | configDrEngineParamsReq (mDreConfig : DeadReckoningEngineConfig)
  | configMinSvElevationReq (mMinSvElevation : UInt8)
  | configEngineRunStateReq (req : EngineRunStateReq)
  | configUserConsentTerrestrialPositioningReq (mUserConsent : Bool)
  | configOutputNmeaTypesReq (req : OutputNmeaTypesReq)
  | configEngineIntegrityRiskReq (req : EngineIntegrityRiskReq)
  | configMerkleTreeReq (mMerkleTreeConfig : List UInt8)
  | configOsnmaEnablementReq (mEnable : Bool)
  | configXtraReq (msg : LocConfigXtraReqMsg h)
  | getXtraStatusReq
  | getXtraStatusResp (msg : LocConfigGetXtraStatusRespMsg)
  | registerXtraStatusUpdateReq
  | deregisterXtraStatusUpdateReq
  | getRobustLocationConfigReq
  | getRobustLocationConfigResp (mRobustLoationConfig : GnssConfigRobustLocation)
  | getMinGpsWeekReq
  | getMinGpsWeekResp (mMinGpsWeek : UInt16)
  | getMinSvElevationReq
  | getMinSvElevationResp (mMinSvElevation : UInt8)
  | getConstellationSecondaryBandConfigReq
  | getConstellationSecondaryBandConfigResp (mSecondaryBandConfig : GnssSvTypeConfig)
  | getDebugReq
  | getAntennaInfoReq
  | injectLocation (mLocation : Location)
  | registerGnssSignalTypesUpdateReq (mRegisterUpdate : Bool)
  | registerGnssSignalTypesUpdateResp (mSignalTypeMask : Flags GnssSignalTypeFlag)
  | injectMmfDataReq (gnssMapData : GnssMapMatchedData)
  | injectXtraUserConsent (xtraUserConsent : Bool)
  | pingTestReq (pingTest : PingTest)
  | pingTestInd (pingTest : PingTest)

inductive PBPayload
  | clientRegisterReq (pb : PBClientType)
  | clientDeregisterReq
  | capabilitiesInd (pb : BitVec 64)
  | halReadyInd
  | genericResp (pb : PBLocationError)
  | collectiveResp (pb : PBCollectiveResPayload)
  | startTrackingReq (pb : PBLocationOptions)
  | updateTrackingOptionsReq (pb : PBLocationOptions)
  | stopTrackingReq (pb : Bool)
  | updateCallbacksReq (pb : BitVec 32)
  | startBatchingReq (pb : PBBatchingOptions)
  | updateBatchingOptionsReq (pb : PBBatchingOptions)
  | stopBatchingReq
  | addGeofencesReq (pb : PBGeofencesAddedReqPayload)
  | modifyGeofencesReq (pb : PBGeofencesAddedReqPayload)
  | removeGeofencesReq (pb : PBGeofencesReqClientIdPayload)
  | pauseGeofencesReq (pb : PBGeofencesReqClientIdPayload)
  | resumeGeofencesReq (pb : PBGeofencesReqClientIdPayload)
  | updateNetworkAvailabilityReq (pb : Bool)
  | getGnssEnergyConsumedReq
  | gnssEnergyConsumedInd (pb : UInt64)
  | getSingleTerrestrialPosReq (pb : PBSingleTerrestrialPosReq)
  | getSinglePosReq (pb : PBSinglePosReq)
  | getSingleTerrestrialPosResp (pb : PBSinglePosResp)
  | getSinglePosResp (pb : PBSinglePosResp)
  | configConstrainedTuncReq (pb : PBConstrainedTunc)
  | configPositionAssistedClockEstimatorReq (pb : Bool)
  | configSvConstellationReq (pb : PBLocConfigSvConstellationReqMsg)
  | configConstellationSecondaryBandReq (pb : PBGnssSvTypeConfig)
  | configAidingDataDeletionReq (pb : PBAidingData)
  | configLeverArmReq (pb : PBLIALeverArmConfigInfo)
  | configRobustLocationReq (pb : PBRobustLocationReq)
  | configMinGpsWeekReq (pb : UInt32)
  | configDrEngineParamsReq (pb : PBDeadReckoningEngineConfig)
  | configMinSvElevationReq (pb : UInt32)
  | configEngineRunStateReq (pb : PBEngineRunStateReq)
  | configUserConsentTerrestrialPositioningReq (pb : Bool)
  | configOutputNmeaTypesReq (pb : PBOutputNmeaTypesReq)
  | configEngineIntegrityRiskReq (pb : PBEngineIntegrityRiskReq)
  | configMerkleTreeReq (pb : List UInt8)
  | configOsnmaEnablementReq (pb : Bool)
  | configXtraReq (pb : PBLocConfigXtraReqMsg)
  | getXtraStatusReq
  | getXtraStatusResp (pb : PBLocConfigGetXtraStatusRespMsg)
  | registerXtraStatusUpdateReq
  | deregisterXtraStatusUpdateReq
  | getRobustLocationConfigReq
  | getRobustLocationConfigResp (pb : PBGnssConfigRobustLocation)
  | getMinGpsWeekReq
  | getMinGpsWeekResp (pb : UInt32)
  | getMinSvElevationReq
  | getMinSvElevationResp (pb : UInt32)
  | getConstellationSecondaryBandConfigReq
  | getConstellationSecondaryBandConfigResp (pb : PBGnssSvTypeConfig)
  | getDebugReq
  | getAntennaInfoReq
  | injectLocation (pb : Option PBLocation)
  | registerGnssSignalTypesUpdateReq (pb : Bool)
  | registerGnssSignalTypesUpdateResp (pb : BitVec 32)
  | injectMmfDataReq (pb : PBGnssMapMatchedData)
  | injectXtraUserConsent (pb : Bool)
  | pingTestReq (pb : PBPingTest)
  | pingTestInd (pb : PBPingTest)

variable {h : Header}

/-- The id that the constructor of the message fills in; for the two kinds of answers to sessions,
the id of the request. -/
def Payload.msgId : Payload h → ELocMsgID
  | .clientRegisterReq _ => .locapiClientRegister
  | .clientDeregisterReq => .locapiClientDeregister
  | .capabilitiesInd _ => .locapiCapabililties
  | .halReadyInd => .locapiHalReady
  | .genericResp msgId _ => msgId
  | .collectiveResp msgId _ => msgId
  | .startTrackingReq _ => .locapiStartTracking
  | .updateTrackingOptionsReq _ => .locapiUpdateTrackingOptions
  | .stopTrackingReq _ => .locapiStopTracking
  | .updateCallbacksReq _ => .locapiUpdateCallbacks
  | .startBatchingReq _ => .locapiStartBatching
  | .updateBatchingOptionsReq _ => .locapiUpdateBatchingOptions
  | .stopBatchingReq => .locapiStopBatching
  | .addGeofencesReq _ => .locapiAddGeofences
  | .modifyGeofencesReq _ => .locapiModifyGeofences
  | .removeGeofencesReq _ => .locapiRemoveGeofences
  | .pauseGeofencesReq _ => .locapiPauseGeofences
  | .resumeGeofencesReq _ => .locapiResumeGeofences
  | .updateNetworkAvailabilityReq _ => .locapiControlUpdateNetworkAvailability
  | .getGnssEnergyConsumedReq => .locapiGetGnssEngeryConsumed
  | .gnssEnergyConsumedInd _ => .locapiGetGnssEngeryConsumed
  | .getSingleTerrestrialPosReq _ => .locapiGetSingleTerrestrialPosReq
  | .getSinglePosReq _ => .locapiGetSinglePosReq
  | .getSingleTerrestrialPosResp _ => .locapiGetSingleTerrestrialPosResp
  | .getSinglePosResp _ => .locapiGetSinglePosResp
  | .configConstrainedTuncReq _ => .intapiConfigConstraintedTunc
  | .configPositionAssistedClockEstimatorReq _ => .intapiConfigPositionAssistedClockEstimator
  | .configSvConstellationReq _ => .intapiConfigSvConstellation
  | .configConstellationSecondaryBandReq _ => .intapiConfigConstellationSecondaryBand
  | .configAidingDataDeletionReq _ => .intapiConfigAidingDataDeletion
  | .configLeverArmReq _ => .intapiConfigLeverArm
  | .configRobustLocationReq _ => .intapiConfigRobustLocation
  | .configMinGpsWeekReq _ => .intapiConfigMinGpsWeek
  | .configDrEngineParamsReq _ => .intapiConfigDeadReckoningEngine
  | .configMinSvElevationReq _ => .intapiConfigMinSvElevation
  | .configEngineRunStateReq _ => .intapiConfigEngineRunState
  | .configUserConsentTerrestrialPositioningReq _ => .intapiConfigUserConsentTerrestrialPositioning
  | .configOutputNmeaTypesReq _ => .intapiConfigOutputNmeaTypes
  | .configEngineIntegrityRiskReq _ => .intapiConfigEngineIntegrityRisk
  | .configMerkleTreeReq _ => .intapiConfigMerkleTree
  | .configOsnmaEnablementReq _ => .intapiConfigOsnmaEnablement
  | .configXtraReq _ => .intapiConfigXtraParams
  | .getXtraStatusReq => .intapiGetXtraStatusReq
  | .getXtraStatusResp _ => .intapiGetXtraStatusResp
  | .registerXtraStatusUpdateReq => .intapiRegisterXtraStatusUpdateReq
  | .deregisterXtraStatusUpdateReq => .intapiDeregisterXtraStatusUpdateReq
  | .getRobustLocationConfigReq => .intapiGetRobustLocationConfigReq
  | .getRobustLocationConfigResp _ => .intapiGetRobustLocationConfigResp
  | .getMinGpsWeekReq => .intapiGetMinGpsWeekReq
  | .getMinGpsWeekResp _ => .intapiGetMinGpsWeekResp
  | .getMinSvElevationReq => .intapiGetMinSvElevationReq
  | .getMinSvElevationResp _ => .intapiGetMinSvElevationResp
  | .getConstellationSecondaryBandConfigReq => .intapiGetConstellationSecondaryBandConfigReq
  | .getConstellationSecondaryBandConfigResp _ => .intapiGetConstellationSecondaryBandConfigResp
  | .getDebugReq => .locapiGetDebugReq
  | .getAntennaInfoReq => .locapiGetAntennaInfo
  | .injectLocation _ => .intapiInjectLocation
  | .registerGnssSignalTypesUpdateReq _ => .intapiRegisterGnssSignalTypesUpdateReq
  | .registerGnssSignalTypesUpdateResp _ => .intapiRegisterGnssSignalTypesUpdateResp
  | .injectMmfDataReq _ => .intapiConfigMapMatchedFeedback
  | .injectXtraUserConsent _ => .intapiConfigXtraUserConsent
  | .pingTestReq _ => .locapiPingtest
  | .pingTestInd _ => .locapiPingtest

def Payload.encode (numbers : ConfigNumbers) : Payload h → PBPayload
  | .clientRegisterReq mClientType => .clientRegisterReq (getPBEnumForClientType mClientType)
  | .clientDeregisterReq => .clientDeregisterReq
  | .capabilitiesInd capabilitiesMask =>
    .capabilitiesInd (getPBMaskForLocationCapabilitiesMask capabilitiesMask)
  | .halReadyInd => .halReadyInd
  | .genericResp _ err => .genericResp (getPBEnumForLocationError err)
  | .collectiveResp _ collectiveRes =>
    .collectiveResp (convertCollectiveResPayloadToPB collectiveRes)
  | .startTrackingReq locOptions => .startTrackingReq (convertLocationOptionsToPB locOptions)
  | .updateTrackingOptionsReq locOptions =>
    .updateTrackingOptionsReq (convertLocationOptionsToPB locOptions)
  | .stopTrackingReq clearSubscriptions => .stopTrackingReq clearSubscriptions
  | .updateCallbacksReq locationCallbacks =>
    .updateCallbacksReq (getPBMaskForLocationCallbacksMask locationCallbacks)
  | .startBatchingReq options => .startBatchingReq (convertBatchingOptionsToPB options)
  | .updateBatchingOptionsReq options =>
    .updateBatchingOptionsReq (convertBatchingOptionsToPB options)
  | .stopBatchingReq => .stopBatchingReq
  | .addGeofencesReq geofences => .addGeofencesReq (convertGfAddedReqPayloadToPB geofences)
  | .modifyGeofencesReq geofences => .modifyGeofencesReq (convertGfAddedReqPayloadToPB geofences)
  | .removeGeofencesReq gfClientIds =>
    .removeGeofencesReq (convertGfReqClientIdPayloadToPB gfClientIds)
  | .pauseGeofencesReq gfClientIds =>
    .pauseGeofencesReq (convertGfReqClientIdPayloadToPB gfClientIds)
  | .resumeGeofencesReq gfClientIds =>
    .resumeGeofencesReq (convertGfReqClientIdPayloadToPB gfClientIds)
  | .updateNetworkAvailabilityReq mAvailability => .updateNetworkAvailabilityReq mAvailability
  | .getGnssEnergyConsumedReq => .getGnssEnergyConsumedReq
  | .gnssEnergyConsumedInd totalGnssEnergyConsumedSinceFirstBoot =>
    .gnssEnergyConsumedInd totalGnssEnergyConsumedSinceFirstBoot
  | .getSingleTerrestrialPosReq req =>
    .getSingleTerrestrialPosReq (convertSingleTerrestrialPosReqToPB req)
  | .getSinglePosReq req => .getSinglePosReq (convertSinglePosReqToPB req)
  | .getSingleTerrestrialPosResp resp =>
    .getSingleTerrestrialPosResp (convertSinglePosRespToPB resp)
  | .getSinglePosResp resp => .getSinglePosResp (convertSinglePosRespToPB resp)
  | .configConstrainedTuncReq tunc => .configConstrainedTuncReq (convertConstrainedTuncToPB tunc)
  | .configPositionAssistedClockEstimatorReq mEnable =>
    .configPositionAssistedClockEstimatorReq mEnable
  | .configSvConstellationReq msg =>
    .configSvConstellationReq (convertLocConfigSvConstellationReqMsgToPB numbers msg)
  | .configConstellationSecondaryBandReq mSecondaryBandConfig =>
    .configConstellationSecondaryBandReq (convertGnssSvTypeConfigToPB numbers mSecondaryBandConfig)
  | .configAidingDataDeletionReq mAidingData =>
    .configAidingDataDeletionReq (convertGnssAidingDataToPB mAidingData)
  | .configLeverArmReq mLeverArmConfigInfo =>
    .configLeverArmReq (convertLeverArmConfigInfoToPB mLeverArmConfigInfo)
  | .configRobustLocationReq req => .configRobustLocationReq (convertRobustLocationReqToPB req)
  | .configMinGpsWeekReq mMinGpsWeek => .configMinGpsWeekReq mMinGpsWeek.toUInt32
  | .configDrEngineParamsReq mDreConfig =>
    .configDrEngineParamsReq (convertDeadReckoningEngineConfigToPB mDreConfig)
  | .configMinSvElevationReq mMinSvElevation => .configMinSvElevationReq mMinSvElevation.toUInt32
  | .configEngineRunStateReq req => .configEngineRunStateReq (convertEngineRunStateReqToPB req)
  | .configUserConsentTerrestrialPositioningReq mUserConsent =>
    .configUserConsentTerrestrialPositioningReq mUserConsent
  | .configOutputNmeaTypesReq req => .configOutputNmeaTypesReq (convertOutputNmeaTypesReqToPB req)
  | .configEngineIntegrityRiskReq req =>
    .configEngineIntegrityRiskReq (convertEngineIntegrityRiskReqToPB req)
  | .configMerkleTreeReq mMerkleTreeConfig => .configMerkleTreeReq mMerkleTreeConfig
  | .configOsnmaEnablementReq mEnable => .configOsnmaEnablementReq mEnable
  | .configXtraReq msg => .configXtraReq (convertLocConfigXtraReqMsgToPB msg)
  | .getXtraStatusReq => .getXtraStatusReq
  | .getXtraStatusResp msg => .getXtraStatusResp (convertLocConfigGetXtraStatusRespMsgToPB msg)
  | .registerXtraStatusUpdateReq => .registerXtraStatusUpdateReq
  | .deregisterXtraStatusUpdateReq => .deregisterXtraStatusUpdateReq
  | .getRobustLocationConfigReq => .getRobustLocationConfigReq
  | .getRobustLocationConfigResp mRobustLoationConfig =>
    .getRobustLocationConfigResp (convertGnssConfigRobustLocationToPB mRobustLoationConfig)
  | .getMinGpsWeekReq => .getMinGpsWeekReq
  | .getMinGpsWeekResp mMinGpsWeek => .getMinGpsWeekResp mMinGpsWeek.toUInt32
  | .getMinSvElevationReq => .getMinSvElevationReq
  | .getMinSvElevationResp mMinSvElevation => .getMinSvElevationResp mMinSvElevation.toUInt32
  | .getConstellationSecondaryBandConfigReq => .getConstellationSecondaryBandConfigReq
  | .getConstellationSecondaryBandConfigResp mSecondaryBandConfig =>
    .getConstellationSecondaryBandConfigResp
      (convertGnssSvTypeConfigToPB numbers mSecondaryBandConfig)
  | .getDebugReq => .getDebugReq
  | .getAntennaInfoReq => .getAntennaInfoReq
  | .injectLocation mLocation => .injectLocation (some (convertLocationToPB mLocation))
  | .registerGnssSignalTypesUpdateReq mRegisterUpdate =>
    .registerGnssSignalTypesUpdateReq mRegisterUpdate
  | .registerGnssSignalTypesUpdateResp mSignalTypeMask =>
    .registerGnssSignalTypesUpdateResp (getPBMaskForGnssSignalTypeMask mSignalTypeMask)
  | .injectMmfDataReq gnssMapData => .injectMmfDataReq (convertGnssMmfDataToPB gnssMapData)
  | .injectXtraUserConsent xtraUserConsent => .injectXtraUserConsent xtraUserConsent
  | .pingTestReq pingTest => .pingTestReq (convertPingTestToPB pingTest)
  | .pingTestInd pingTest => .pingTestInd (convertPingTestToPB pingTest)

/-- The structures of the messages that are decoded into, whatever they hold. -/
structure PayloadDestination where
  geofences : GeofencesAddedReqPayload
  gfClientIds : GeofencesReqClientIdPayload
  mAidingData : GnssAidingData
  xtraStatus : LocConfigGetXtraStatusRespMsg
  pingTest : PingTest
  deriving Inhabited

/-- The id is that in the message; two kinds of answers take it. -/

def PBPayload.decode (numbers : ConfigNumbers) (dst : PayloadDestination) (msgId : ELocMsgID) :
    PBPayload → Logged (Payload h)
  | .clientRegisterReq pb => pure (.clientRegisterReq (getEnumForPBClientType pb))
  | .clientDeregisterReq => pure .clientDeregisterReq
  | .capabilitiesInd pb => pure (.capabilitiesInd (getLocationCapabilitiesMaskFromPB pb))
  | .halReadyInd => pure .halReadyInd
  | .genericResp pb => pure (.genericResp msgId (getEnumForPBLocationError pb))
  | .collectiveResp pb => do
    let collectiveRes ← pbConvertToCollectiveResPayload pb ⟨[]⟩
    pure (.collectiveResp msgId collectiveRes)
  | .startTrackingReq pb => pure (.startTrackingReq (pbConvertToLocationOptions pb))
  | .updateTrackingOptionsReq pb => pure (.updateTrackingOptionsReq (pbConvertToLocationOptions pb))
  | .stopTrackingReq pb => pure (.stopTrackingReq pb)
  | .updateCallbacksReq pb => pure (.updateCallbacksReq (getLocationCallbacksMaskFromPB pb))
  | .startBatchingReq pb => pure (.startBatchingReq (pbConvertToBatchingOptions pb))
  | .updateBatchingOptionsReq pb => pure (.updateBatchingOptionsReq (pbConvertToBatchingOptions pb))
  | .stopBatchingReq => pure .stopBatchingReq
  | .addGeofencesReq pb => do
    let geofences ← pbConvertToGfAddReqPayload pb dst.geofences
    pure (.addGeofencesReq geofences)
  | .modifyGeofencesReq pb => do
    let geofences ← pbConvertToGfAddReqPayload pb dst.geofences
    pure (.modifyGeofencesReq geofences)
  | .removeGeofencesReq pb => do
    let gfClientIds ← pbConvertToGfReqClientIdPayload pb dst.gfClientIds
    pure (.removeGeofencesReq gfClientIds)
  | .pauseGeofencesReq pb => do
    let gfClientIds ← pbConvertToGfReqClientIdPayload pb dst.gfClientIds
    pure (.pauseGeofencesReq gfClientIds)
  | .resumeGeofencesReq pb => do
    let gfClientIds ← pbConvertToGfReqClientIdPayload pb dst.gfClientIds
    pure (.resumeGeofencesReq gfClientIds)
  | .updateNetworkAvailabilityReq pb => pure (.updateNetworkAvailabilityReq pb)
  | .getGnssEnergyConsumedReq => pure .getGnssEnergyConsumedReq
  | .gnssEnergyConsumedInd pb => pure (.gnssEnergyConsumedInd pb)
  | .getSingleTerrestrialPosReq pb =>
    pure (.getSingleTerrestrialPosReq (pbConvertToSingleTerrestrialPosReq pb))
  | .getSinglePosReq pb => pure (.getSinglePosReq (pbConvertToSinglePosReq pb))
  | .getSingleTerrestrialPosResp pb =>
    pure (.getSingleTerrestrialPosResp (pbConvertToSinglePosResp pb))
  | .getSinglePosResp pb => pure (.getSinglePosResp (pbConvertToSinglePosResp pb))
  | .configConstrainedTuncReq pb => pure (.configConstrainedTuncReq (pbConvertToConstrainedTunc pb))
  | .configPositionAssistedClockEstimatorReq pb =>
    pure (.configPositionAssistedClockEstimatorReq pb)
  | .configSvConstellationReq pb =>
    pure (.configSvConstellationReq (pbConvertToLocConfigSvConstellationReqMsg pb))
  | .configConstellationSecondaryBandReq pb =>
    pure (.configConstellationSecondaryBandReq (pbConvertToGnssSvTypeConfig pb))
  | .configAidingDataDeletionReq pb =>
    pure (.configAidingDataDeletionReq (pbConvertToGnssAidingData numbers pb dst.mAidingData))
  | .configLeverArmReq pb => pure (.configLeverArmReq (pbConvertToLeverArmConfigInfo pb))
  | .configRobustLocationReq pb => pure (.configRobustLocationReq (pbConvertToRobustLocationReq pb))
  | .configMinGpsWeekReq pb => pure (.configMinGpsWeekReq pb.toUInt16)
  | .configDrEngineParamsReq pb =>
    pure (.configDrEngineParamsReq (pbConvertToDeadReckoningEngineConfig pb))
  | .configMinSvElevationReq pb => pure (.configMinSvElevationReq pb.toUInt8)
  | .configEngineRunStateReq pb => pure (.configEngineRunStateReq (pbConvertToEngineRunStateReq pb))
  | .configUserConsentTerrestrialPositioningReq pb =>
    pure (.configUserConsentTerrestrialPositioningReq pb)
  | .configOutputNmeaTypesReq pb =>
    pure (.configOutputNmeaTypesReq (pbConvertToOutputNmeaTypesReq pb))
  | .configEngineIntegrityRiskReq pb =>
    pure (.configEngineIntegrityRiskReq (pbConvertToEngineIntegrityRiskReq pb))
  | .configMerkleTreeReq pb => pure (.configMerkleTreeReq pb)
  | .configOsnmaEnablementReq pb => pure (.configOsnmaEnablementReq pb)
  | .configXtraReq pb => do
    let msg ← pbConvertToLocConfigXtraReqMsg pb
    pure (.configXtraReq msg)
  | .getXtraStatusReq => pure .getXtraStatusReq
  | .getXtraStatusResp pb =>
    pure (.getXtraStatusResp (pbConvertToLocConfigGetXtraStatusRespMsg pb dst.xtraStatus))
  | .registerXtraStatusUpdateReq => pure .registerXtraStatusUpdateReq
  | .deregisterXtraStatusUpdateReq => pure .deregisterXtraStatusUpdateReq
  | .getRobustLocationConfigReq => pure .getRobustLocationConfigReq
  | .getRobustLocationConfigResp pb =>
    pure (.getRobustLocationConfigResp (pbConvertToGnssConfigRobustLocation pb))
  | .getMinGpsWeekReq => pure .getMinGpsWeekReq
  | .getMinGpsWeekResp pb => pure (.getMinGpsWeekResp pb.toUInt16)
  | .getMinSvElevationReq => pure .getMinSvElevationReq
  | .getMinSvElevationResp pb => pure (.getMinSvElevationResp pb.toUInt8)
  | .getConstellationSecondaryBandConfigReq => pure .getConstellationSecondaryBandConfigReq
  | .getConstellationSecondaryBandConfigResp pb =>
    pure (.getConstellationSecondaryBandConfigResp (pbConvertToGnssSvTypeConfig pb))
  | .getDebugReq => pure .getDebugReq
  | .getAntennaInfoReq => pure .getAntennaInfoReq
  | .injectLocation pb => pure (.injectLocation (pbConvertToLocationOrZero pb))
  | .registerGnssSignalTypesUpdateReq pb => pure (.registerGnssSignalTypesUpdateReq pb)
  | .registerGnssSignalTypesUpdateResp pb =>
    pure (.registerGnssSignalTypesUpdateResp (decodeSupportedSignalTypes numbers pb))
  | .injectMmfDataReq pb => pure (.injectMmfDataReq (pbConvertToGnssMmfData pb))
  | .injectXtraUserConsent pb => pure (.injectXtraUserConsent pb)
  | .pingTestReq pb => do
    let pingTest ← pbConvertToPingTest pb dst.pingTest
    pure (.pingTestReq pingTest)
  | .pingTestInd pb => do
    let pingTest ← pbConvertToPingTest pb dst.pingTest
    pure (.pingTestInd pingTest)

/-- The arrays are within their capacities; that of a repeated field is the largest `int`. -/
def Payload.WithinCapacity : Payload h → Prop
  | .collectiveResp _ collectiveRes => collectiveRes.resp.length < 2 ^ 31
  | .addGeofencesReq geofences | .modifyGeofencesReq geofences => Counted.WithinCapacity geofences
  | .removeGeofencesReq gfClientIds
  | .pauseGeofencesReq gfClientIds
  | .resumeGeofencesReq gfClientIds =>
    Counted.WithinCapacity gfClientIds
  | .configXtraReq msg => msg.mXtraParams.WithinCapacity
  | _ => True

/-- The same payload. -/
def Payload.Same : Payload h → Payload h → Prop
  | .addGeofencesReq geofences, .addGeofencesReq geofences' => Counted.Same geofences geofences'
  | .modifyGeofencesReq geofences, .modifyGeofencesReq geofences' =>
    Counted.Same geofences geofences'
  | .removeGeofencesReq gfClientIds, .removeGeofencesReq gfClientIds' =>
    Counted.Same gfClientIds gfClientIds'
  | .pauseGeofencesReq gfClientIds, .pauseGeofencesReq gfClientIds' =>
    Counted.Same gfClientIds gfClientIds'
  | .resumeGeofencesReq gfClientIds, .resumeGeofencesReq gfClientIds' =>
    Counted.Same gfClientIds gfClientIds'
  | .configXtraReq msg, .configXtraReq msg' => LocConfigXtraReqMsg.Same msg msg'
  | payload, payload' => payload' = payload

/-- What a payload needs: the message has its errors, its callbacks, its engines and the rest. -/
def Payload.Carried (numbers : ConfigNumbers) (dst : PayloadDestination) : Payload h → Prop
  | .genericResp _ err => LocationErrorCarried err
  | .collectiveResp _ collectiveRes =>
    ∀ gfResp ∈ collectiveRes.resp, LocationErrorCarried gfResp.error
  | .startTrackingReq locOptions | .updateTrackingOptionsReq locOptions =>
    locOptions.locReqEngTypeMask .vpe = false
  | .updateCallbacksReq locationCallbacks => locationCallbacks .antennaInfo = false
  | .getSingleTerrestrialPosResp resp | .getSinglePosResp resp =>
    LocationErrorCarried resp.mErrorCode ∧ resp.mLocation.techMask .hybridAle = false
  | .configConstellationSecondaryBandReq mSecondaryBandConfig
  | .getConstellationSecondaryBandConfigResp mSecondaryBandConfig =>
    mSecondaryBandConfig.sizeIsZero = false
  | .configAidingDataDeletionReq mAidingData => mAidingData.Carried numbers dst.mAidingData
  | .configEngineRunStateReq req | .configEngineIntegrityRiskReq req =>
    req.mEngType .vpPositioning = false
  | .configOutputNmeaTypesReq req => req.mNmeaReqEngMask .vpe = false
  | .getXtraStatusResp msg => msg.mXtraStatus.Carried
  | .injectLocation mLocation => mLocation.techMask .hybridAle = false
  | _ => True

/-- **A payload survives** exactly if the message has what it holds. -/
theorem payload_survives_iff {numbers : ConfigNumbers} (hnum : numbers.SameAsMessage)
    {payload : Payload h} (hcap : payload.WithinCapacity) (dst : PayloadDestination) :
    payload.Same ((payload.encode numbers).decode numbers dst payload.msgId).value ↔
      payload.Carried numbers dst := by
  cases payload with
  | clientRegisterReq mClientType =>
    exact iff_true_intro (congrArg Payload.clientRegisterReq
      (getEnumForPBClientType_getPBEnumForClientType _))
  | clientDeregisterReq => exact iff_true_intro rfl
  | capabilitiesInd capabilitiesMask =>
    exact iff_true_intro (congrArg Payload.capabilitiesInd
      (getLocationCapabilitiesMaskFromPB_getPBMaskForLocationCapabilitiesMask _))
  | halReadyInd => exact iff_true_intro rfl
  | genericResp msgId err =>
    exact (Iff.of_eq (Payload.genericResp.injEq ..)).trans <|
      (and_iff_right rfl).trans (getEnumForPBLocationError_getPBEnum_iff _)
  | collectiveResp msgId collectiveRes =>
    exact (Iff.of_eq (Payload.collectiveResp.injEq ..)).trans <|
      (and_iff_right rfl).trans (pbConvertToCollectiveResPayload_iff hcap)
  | startTrackingReq locOptions =>
    exact (Iff.of_eq (Payload.startTrackingReq.injEq ..)).trans <|
      pbConvertToLocationOptions_iff _
  | updateTrackingOptionsReq locOptions =>
    exact (Iff.of_eq (Payload.updateTrackingOptionsReq.injEq ..)).trans <|
      pbConvertToLocationOptions_iff _
  | stopTrackingReq clearSubscriptions => exact iff_true_intro rfl
  | updateCallbacksReq locationCallbacks =>
    exact (Iff.of_eq (Payload.updateCallbacksReq.injEq ..)).trans <|
      getLocationCallbacksMaskFromPB_getPBMask_iff _
  | startBatchingReq options =>
    exact iff_true_intro (congrArg Payload.startBatchingReq
      (pbConvertToBatchingOptions_convertBatchingOptionsToPB _))
  | updateBatchingOptionsReq options =>
    exact iff_true_intro (congrArg Payload.updateBatchingOptionsReq
      (pbConvertToBatchingOptions_convertBatchingOptionsToPB _))
  | stopBatchingReq => exact iff_true_intro rfl
  | addGeofencesReq geofences => exact iff_true_intro (pbConvertToGfAddReqPayload_same hcap _)
  | modifyGeofencesReq geofences => exact iff_true_intro (pbConvertToGfAddReqPayload_same hcap _)
  | removeGeofencesReq gfClientIds =>
    exact iff_true_intro (pbConvertToGfReqClientIdPayload_same hcap _)
  | pauseGeofencesReq gfClientIds =>
    exact iff_true_intro (pbConvertToGfReqClientIdPayload_same hcap _)
  | resumeGeofencesReq gfClientIds =>
    exact iff_true_intro (pbConvertToGfReqClientIdPayload_same hcap _)
  | updateNetworkAvailabilityReq mAvailability => exact iff_true_intro rfl
  | getGnssEnergyConsumedReq => exact iff_true_intro rfl
  | gnssEnergyConsumedInd totalGnssEnergyConsumedSinceFirstBoot => exact iff_true_intro rfl
  | getSingleTerrestrialPosReq req =>
    exact iff_true_intro (congrArg Payload.getSingleTerrestrialPosReq
      (pbConvertToSingleTerrestrialPosReq_convertSingleTerrestrialPosReqToPB _))
  | getSinglePosReq req =>
    exact iff_true_intro (congrArg Payload.getSinglePosReq
      (pbConvertToSinglePosReq_convertSinglePosReqToPB _))
  | getSingleTerrestrialPosResp resp =>
    exact (Iff.of_eq (Payload.getSingleTerrestrialPosResp.injEq ..)).trans <|
      pbConvertToSinglePosResp_iff _
  | getSinglePosResp resp =>
    exact (Iff.of_eq (Payload.getSinglePosResp.injEq ..)).trans <|
      pbConvertToSinglePosResp_iff _
  | configConstrainedTuncReq tunc =>
    exact iff_true_intro (congrArg Payload.configConstrainedTuncReq
      (pbConvertToConstrainedTunc_convertConstrainedTuncToPB _))
  | configPositionAssistedClockEstimatorReq mEnable => exact iff_true_intro rfl
  | configSvConstellationReq msg =>
    exact iff_true_intro (congrArg Payload.configSvConstellationReq
      (pbConvertToLocConfigSvConstellationReqMsg_convertToPB hnum _))
  | configConstellationSecondaryBandReq mSecondaryBandConfig =>
    exact (Iff.of_eq (Payload.configConstellationSecondaryBandReq.injEq ..)).trans <|
      pbConvertToGnssSvTypeConfig_iff hnum _
  | configAidingDataDeletionReq mAidingData =>
    exact (Iff.of_eq (Payload.configAidingDataDeletionReq.injEq ..)).trans <|
      pbConvertToGnssAidingData_iff numbers _ _
  | configLeverArmReq mLeverArmConfigInfo =>
    exact iff_true_intro (congrArg Payload.configLeverArmReq
      (pbConvertToLeverArmConfigInfo_convertLeverArmConfigInfoToPB _))
  | configRobustLocationReq req =>
    exact iff_true_intro (congrArg Payload.configRobustLocationReq
      (pbConvertToRobustLocationReq_convertRobustLocationReqToPB _))
  | configMinGpsWeekReq mMinGpsWeek =>
    exact iff_true_intro (congrArg Payload.configMinGpsWeekReq (UInt16.toUInt16_toUInt32 _))
  | configDrEngineParamsReq mDreConfig =>
    exact iff_true_intro (congrArg Payload.configDrEngineParamsReq
      (pbConvertToDeadReckoningEngineConfig_convertDeadReckoningEngineConfigToPB _))
  | configMinSvElevationReq mMinSvElevation =>
    exact iff_true_intro (congrArg Payload.configMinSvElevationReq (UInt8.toUInt8_toUInt32 _))
  | configEngineRunStateReq req =>
    exact (Iff.of_eq (Payload.configEngineRunStateReq.injEq ..)).trans <|
      pbConvertToEngineRunStateReq_iff _
  | configUserConsentTerrestrialPositioningReq mUserConsent => exact iff_true_intro rfl
  | configOutputNmeaTypesReq req =>
    exact (Iff.of_eq (Payload.configOutputNmeaTypesReq.injEq ..)).trans <|
      pbConvertToOutputNmeaTypesReq_iff _
  | configEngineIntegrityRiskReq req =>
    exact (Iff.of_eq (Payload.configEngineIntegrityRiskReq.injEq ..)).trans <|
      pbConvertToEngineIntegrityRiskReq_iff _
  | configMerkleTreeReq mMerkleTreeConfig => exact iff_true_intro rfl
  | configOsnmaEnablementReq mEnable => exact iff_true_intro rfl
  | configXtraReq msg => exact iff_true_intro (pbConvertToLocConfigXtraReqMsg_same hcap)
  | getXtraStatusReq => exact iff_true_intro rfl
  | getXtraStatusResp msg =>
    exact (Iff.of_eq (Payload.getXtraStatusResp.injEq ..)).trans <|
      pbConvertToLocConfigGetXtraStatusRespMsg_iff _ _
  | registerXtraStatusUpdateReq => exact iff_true_intro rfl
  | deregisterXtraStatusUpdateReq => exact iff_true_intro rfl
  | getRobustLocationConfigReq => exact iff_true_intro rfl
  | getRobustLocationConfigResp mRobustLoationConfig =>
    exact iff_true_intro (congrArg Payload.getRobustLocationConfigResp
      (pbConvertToGnssConfigRobustLocation_convertGnssConfigRobustLocationToPB _))
  | getMinGpsWeekReq => exact iff_true_intro rfl
  | getMinGpsWeekResp mMinGpsWeek =>
    exact iff_true_intro (congrArg Payload.getMinGpsWeekResp (UInt16.toUInt16_toUInt32 _))
  | getMinSvElevationReq => exact iff_true_intro rfl
  | getMinSvElevationResp mMinSvElevation =>
    exact iff_true_intro (congrArg Payload.getMinSvElevationResp (UInt8.toUInt8_toUInt32 _))
  | getConstellationSecondaryBandConfigReq => exact iff_true_intro rfl
  | getConstellationSecondaryBandConfigResp mSecondaryBandConfig =>
    exact (Iff.of_eq (Payload.getConstellationSecondaryBandConfigResp.injEq ..)).trans <|
      pbConvertToGnssSvTypeConfig_iff hnum _
  | getDebugReq => exact iff_true_intro rfl
  | getAntennaInfoReq => exact iff_true_intro rfl
  | injectLocation mLocation =>
    exact (Iff.of_eq (Payload.injectLocation.injEq ..)).trans <|
      pbConvertToLocationOrZero_iff _
  | registerGnssSignalTypesUpdateReq mRegisterUpdate => exact iff_true_intro rfl
  | registerGnssSignalTypesUpdateResp mSignalTypeMask =>
    exact iff_true_intro (congrArg Payload.registerGnssSignalTypesUpdateResp
      (decodeSupportedSignalTypes_getPBMask hnum _))
  | injectMmfDataReq gnssMapData =>
    exact iff_true_intro (congrArg Payload.injectMmfDataReq
      (pbConvertToGnssMmfData_convertGnssMmfDataToPB _))
  | injectXtraUserConsent xtraUserConsent => exact iff_true_intro rfl
  | pingTestReq pingTest =>
    exact iff_true_intro (congrArg Payload.pingTestReq
      (pbConvertToPingTest_convertPingTestToPB _ _))
  | pingTestInd pingTest =>
    exact iff_true_intro (congrArg Payload.pingTestInd
      (pbConvertToPingTest_convertPingTestToPB _ _))

/-! ## Messages -/

theorem msgId_decode_encode (numbers : ConfigNumbers) (payload : Payload h)
    (dst : PayloadDestination) :
    ((payload.encode numbers).decode numbers dst payload.msgId : Logged (Payload h)).value.msgId =
      payload.msgId := by
  cases payload <;> rfl

/-- A message as its constructor leaves it. -/
structure LocAPIMsg (h : Header) where
  header : LocAPIMsgHeader
  payload : Payload h
  msgId : header.msgId = payload.msgId
  msgVersion : header.msgVersion = locationRemoteApiMsgVersion

structure PBLocAPIMsgHeader where
  mSocketName : List UInt8
  msgId : PBELocMsgID
  msgVersion : UInt32
  payload : PBPayload

def LocAPIMsg.new (name : List UInt8) (payload : Payload h) : LocAPIMsg h where
  header := .new name payload.msgId
  payload := payload
  msgId := rfl
  msgVersion := rfl

def LocAPIMsg.serializeToProtobuf (numbers : ConfigNumbers) (msg : LocAPIMsg h) :
    PBLocAPIMsgHeader where
  mSocketName := cString msg.header.mSocketName.toList
  msgId := getPBEnumForELocMsgID msg.header.msgId
  msgVersion := msg.header.msgVersion
  payload := msg.payload.encode numbers

/-- The constructor that decodes is given the name in the message. -/
def PBLocAPIMsgHeader.decode (numbers : ConfigNumbers) (dst : PayloadDestination)
    (pb : PBLocAPIMsgHeader) : Logged (LocAPIMsg h) := do
  let payload ← pb.payload.decode numbers dst (getEnumForPBELocMsgID pb.msgId)
  pure (.new pb.mSocketName payload)

/-- The same header and the same payload. -/
structure LocAPIMsg.Same (msg msg' : LocAPIMsg h) : Prop where
  header : msg.header.Same msg'.header
  payload : msg.payload.Same msg'.payload

end PbConv
end LocationStack
