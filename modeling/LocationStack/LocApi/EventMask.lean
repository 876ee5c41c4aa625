import LocationStack.Lib.FlagTable

/-! # The events that the modem reports

The adapters ask for some reports, a set of bits.  Each bit stands for one or two events of the
modem.  Which of these events are registered depends on more: outside of a session most of them
are not, a suspended device must not be woken up, and while requests wait for the engine the
client has to be told when the engine is off.
-/
namespace LocationStack.LocApi

/-- The reports that the adapters ask for, `LOC_API_ADAPTER_BIT_…`. -/
inductive LocApiAdapterBit
  | parsedPositionReport | parsedUnpropagatedPositionReport | satelliteReport
  | nmeaPositionReport | nmea1HzReport | niNotifyVerifyRequest | assistanceDataRequest
  | assistanceTimeRequest | positionInjectionRequest | statusReport | locationServerRequest
  | requestWifi | sensorStatus | requestTimeSync | reportSpi | reportNiGeofence
  | geofenceGenAlert | reportGenfenceBreach | batchedGenfenceBreachReport | pedometerCtrl
  | reportGenfenceDwell | motionCtrl | requestWifiApData | batchFull | batchStatus
  | batchedPositionReport | gnssMeasurementReport | gnssSvPolynomialReport
  | gnssSvEphemerisReport | gdtUploadBeginReq | gdtUploadEndReq | gnssMeasurement
  | requestTimezone | fdclServiceReq | bsObsDataServiceReq | locSystemInfo | eventReportInfo
  | gnssNhzMeasurement | latencyInformation | engineDebugDataReport | disasterCrisisReport
  | engineLockStateDataReport | featureStatusUpdate | gnssBandsSupported | ntnConfigUpdate
  deriving Repr, DecidableEq

/-- The events of the modem, `QMI_LOC_EVENT_MASK_…`. -/
inductive QmiLocEvent
  | positionReport | unpropagatedPositionReport | gnssSvInfo | nmea | niNotifyVerifyReq
  | injectPredictedOrbitsReq | queryXtraInfo | injectTimeReq | injectPositionReq | engineState
  | locationServerConnectionReq | wifiReq | sensorStreamingReadyStatus | timeSyncReq
  | setSpiStreamingReport | niGeofenceNotification | geofenceGenAlert
  | geofenceBreachNotification | geofenceBatchBreachNotification | pedometerControl
  | geofenceBatchDwellNotification | motionDataControl | injectWifiApDataReq
  | batchFullNotification | batchingStatus | liveBatchedPositionReport | gnssMeasurementReport
  | gnssSvPolynomialReport | ephemerisReport | gdtUploadBeginReq | gdtUploadEndReq
  | getTimeZoneReq | fdclServiceReq | bsObsDataServiceReq | nextLsInfoReport
  | dwellTimeAlignmentInfo | gnssEventReport | gnssNhzMeasurementReport
  | latencyInformationReport | engineDebugDataReport | dcReport | engineLockState
  | featureStatus | gnssBandsSupported | ntnConfigUpdate | platformPowerStateChanged
  deriving Repr, DecidableEq

def QmiLocEvent.all : List QmiLocEvent :=
  [.positionReport, .unpropagatedPositionReport, .gnssSvInfo, .nmea, .niNotifyVerifyReq,
    .injectPredictedOrbitsReq, .queryXtraInfo, .injectTimeReq, .injectPositionReq, .engineState,
    .locationServerConnectionReq, .wifiReq, .sensorStreamingReadyStatus, .timeSyncReq,
    .setSpiStreamingReport, .niGeofenceNotification, .geofenceGenAlert,
    .geofenceBreachNotification, .geofenceBatchBreachNotification, .pedometerControl,
    .geofenceBatchDwellNotification, .motionDataControl, .injectWifiApDataReq,
    .batchFullNotification, .batchingStatus, .liveBatchedPositionReport, .gnssMeasurementReport,
    .gnssSvPolynomialReport, .ephemerisReport, .gdtUploadBeginReq, .gdtUploadEndReq,
    .getTimeZoneReq, .fdclServiceReq, .bsObsDataServiceReq, .nextLsInfoReport,
    .dwellTimeAlignmentInfo, .gnssEventReport, .gnssNhzMeasurementReport,
    .latencyInformationReport, .engineDebugDataReport, .dcReport, .engineLockState,
    .featureStatus, .gnssBandsSupported, .ntnConfigUpdate, .platformPowerStateChanged]

theorem QmiLocEvent.mem_all (event : QmiLocEvent) : event ∈ all := by
  cases event <;> decide

abbrev LocClientEventMaskType := Flags QmiLocEvent

instance : DecidableEq LocClientEventMaskType := fun m m' =>
  decidable_of_iff (∀ event ∈ QmiLocEvent.all, m event = m' event)
    ⟨fun h => funext fun event => h event event.mem_all, fun h _ _ => h ▸ rfl⟩

/-- `qmiLocPlatformPowerStateEnumT_v02` -/
inductive PlatformPowerState
  | unknown | suspended | resume | shutdown | deepSleepEntry | deepSleepExit
  deriving Repr, DecidableEq

namespace PlatformPowerState

/-- The device must not be woken up. -/
def isSuspended : PlatformPowerState → Bool
  | suspended | shutdown | deepSleepEntry => true
  | unknown | resume | deepSleepExit => false

def isResumed : PlatformPowerState → Bool
  | resume | deepSleepExit => true
  | unknown | suspended | shutdown | deepSleepEntry => false

end PlatformPowerState

/-- The build, and the kind of the client. -/
structure Platform where
  android : Bool
  isMaster : Bool
  deriving Repr, DecidableEq

/-- What is known of the modem. -/
structure Capabilities where
  batchedGenfenceBreach : Bool
  dynamicFeatureStatus : Bool
  gnssConstellationConfig : Bool
  deriving Repr, DecidableEq

def convertLocClientEventMask (capabilities : Capabilities) (mask : Flags LocApiAdapterBit) :
    LocClientEventMaskType
  | .positionReport => mask .parsedPositionReport
  | .unpropagatedPositionReport => mask .parsedUnpropagatedPositionReport
  | .gnssSvInfo => mask .satelliteReport
  | .nmea => mask .nmeaPositionReport || mask .nmea1HzReport
  | .niNotifyVerifyReq => mask .niNotifyVerifyRequest
  | .injectPredictedOrbitsReq => mask .assistanceDataRequest
  | .queryXtraInfo => mask .assistanceDataRequest || mask .assistanceTimeRequest
  | .injectTimeReq => mask .assistanceTimeRequest
  | .injectPositionReq => mask .positionInjectionRequest
  | .engineState => mask .statusReport
  | .locationServerConnectionReq => mask .locationServerRequest
  | .wifiReq => mask .requestWifi
  | .sensorStreamingReadyStatus => mask .sensorStatus
  | .timeSyncReq => mask .requestTimeSync
  | .setSpiStreamingReport => mask .reportSpi
  | .niGeofenceNotification => mask .reportNiGeofence
  | .geofenceGenAlert => mask .geofenceGenAlert
  | .geofenceBreachNotification =>
    mask .reportGenfenceBreach ||
      mask .batchedGenfenceBreachReport && !capabilities.batchedGenfenceBreach
  | .geofenceBatchBreachNotification =>
    mask .batchedGenfenceBreachReport && capabilities.batchedGenfenceBreach
  | .pedometerControl => mask .pedometerCtrl
  | .geofenceBatchDwellNotification => mask .reportGenfenceDwell
  | .motionDataControl => mask .motionCtrl
  | .injectWifiApDataReq => mask .requestWifiApData
  | .batchFullNotification => mask .batchFull
  | .batchingStatus => mask .batchStatus
  | .liveBatchedPositionReport => mask .batchedPositionReport
  | .gnssMeasurementReport => mask .gnssMeasurementReport || mask .gnssMeasurement
  | .gnssSvPolynomialReport => mask .gnssSvPolynomialReport
  | .ephemerisReport => mask .gnssSvEphemerisReport
  | .gdtUploadBeginReq => mask .gdtUploadBeginReq
  | .gdtUploadEndReq => mask .gdtUploadEndReq
  | .getTimeZoneReq => mask .requestTimezone
  | .fdclServiceReq => mask .fdclServiceReq
  | .bsObsDataServiceReq => mask .bsObsDataServiceReq
  | .nextLsInfoReport => mask .locSystemInfo
  | .dwellTimeAlignmentInfo => mask .locSystemInfo
  | .gnssEventReport => mask .eventReportInfo
  | .gnssNhzMeasurementReport => mask .gnssNhzMeasurement
  | .latencyInformationReport => mask .latencyInformation
  | .engineDebugDataReport => mask .engineDebugDataReport
  | .dcReport => mask .disasterCrisisReport
  | .engineLockState => mask .engineLockStateDataReport
  | .featureStatus => mask .featureStatusUpdate
  | .gnssBandsSupported => mask .gnssBandsSupported
  | .ntnConfigUpdate => mask .ntnConfigUpdate
  | .platformPowerStateChanged => false

/-- Events that are not registered outside of a session. -/
def clearMask (platform : Platform) (capabilities : Capabilities) : LocClientEventMaskType
  | .positionReport | .unpropagatedPositionReport | .gnssSvInfo | .nmea | .engineState
  | .gnssMeasurementReport | .gnssNhzMeasurementReport | .gnssSvPolynomialReport
  | .ephemerisReport | .latencyInformationReport | .engineDebugDataReport => true
  | .nextLsInfoReport => platform.android
  | .gnssEventReport => capabilities.dynamicFeatureStatus
  | _ => false

/-- What the registered events depend on besides the mask. -/
structure MaskState where
  mInSession : Bool
  mEngineOn : Bool
  mPlatformPowerState : PlatformPowerState
  /-- Whether requests wait for the engine. -/
  waiting : Bool
  deriving Repr, DecidableEq

def adjustLocClientEventMask (platform : Platform) (capabilities : Capabilities)
    (state : MaskState) (qmiMask : LocClientEventMaskType) : LocClientEventMaskType := fun event =>
  let inSession := qmiMask event && (state.mInSession || !clearMask platform capabilities event)
  let power := state.mPlatformPowerState
  match event with
  | .engineState =>
    !power.isSuspended &&
      (inSession || platform.android && (state.mInSession || state.mEngineOn) || state.waiting)
  | .featureStatus => inSession || platform.isMaster
  | .platformPowerStateChanged => true
  | .nextLsInfoReport | .dwellTimeAlignmentInfo => inSession && !power.isSuspended
  | _ => inSession

end LocationStack.LocApi
