import Mathlib.Data.List.Basic

/-! # The messages between a location client and the daemon

`LocationApiMsg.h` as far as sessions, subscriptions and geofences go: the message
ids, the bits of a subscription mask, the options a request carries, and the two
message types, `ReqMsg` from the client to the daemon and `IndMsg` back.

A message stands for the structure that is serialised, not for its protobuf bytes.
The `size` fields, always `sizeof` of their own structure, and the accepted quality
level, which nothing here reads, are left out.
-/
namespace LocationStack.Ipc

/-! ## Identifiers, masks and options -/

/-- The members of `ELocMsgID` that a response may carry. -/
inductive ELocMsgID
  | undefinedMsgId
  | startTracking
  | stopTracking
  | updateTrackingOptions
  | startBatching
  | stopBatching
  | updateBatchingOptions
  | addGeofences
  | removeGeofences
  | modifyGeofences
  | pauseGeofences
  | resumeGeofences
  deriving DecidableEq, Repr

/-- `LocationError`. -/
inductive LocationError
  | success
  | generalFailure
  | callbackMissing
  | invalidParameter
  | idExists
  | idUnknown
  | alreadyStarted
  | geofencesAtMax
  | notSupported
  | timeout
  | systemNotReady
  | exclusiveSessionInProgress
  | tzLocked
  deriving DecidableEq, Repr

/-- `LocationCallbacksMask`. -/
abbrev LocationCallbacksMask := BitVec 32

def eLocCbTrackingBit : LocationCallbacksMask := 1 <<< 0
def eLocCbGnssLocationInfoBit : LocationCallbacksMask := 1 <<< 1
def eLocCbGnssSvBit : LocationCallbacksMask := 1 <<< 2
def eLocCbGnssNmeaBit : LocationCallbacksMask := 1 <<< 3
def eLocCbGnssDataBit : LocationCallbacksMask := 1 <<< 4
def eLocCbSystemInfoBit : LocationCallbacksMask := 1 <<< 5
def eLocCbBatchingBit : LocationCallbacksMask := 1 <<< 6
def eLocCbBatchingStatusBit : LocationCallbacksMask := 1 <<< 7
def eLocCbGeofenceBreachBit : LocationCallbacksMask := 1 <<< 8
def eLocCbEngineLocationsInfoBit : LocationCallbacksMask := 1 <<< 9
def eLocCbSimpleLocationInfoBit : LocationCallbacksMask := 1 <<< 10
def eLocCbGnssMeasBit : LocationCallbacksMask := 1 <<< 11
def eLocCbGnssNhzMeasBit : LocationCallbacksMask := 1 <<< 12
def eLocCbGnssDcReportBit : LocationCallbacksMask := 1 <<< 13
def eLocCbEngineNmeaBit : LocationCallbacksMask := 1 <<< 15
def eLocCbGnssEphBit : LocationCallbacksMask := 1 <<< 16

/-- `LOCATION_SESSON_ALL_INFO_MASK`: what a position session reports, unsubscribed
when the session is stopped. -/
def locationSessonAllInfoMask : LocationCallbacksMask :=
  eLocCbTrackingBit ||| eLocCbGnssLocationInfoBit ||| eLocCbGnssSvBit |||
    eLocCbGnssNmeaBit ||| eLocCbGnssDataBit ||| eLocCbGnssMeasBit |||
    eLocCbGnssNhzMeasBit ||| eLocCbEngineLocationsInfoBit |||
    eLocCbSimpleLocationInfoBit ||| eLocCbGnssDcReportBit |||
    eLocCbEngineNmeaBit ||| eLocCbGnssEphBit

/-- `LOCATION_BATCHING_SESSION_MASK`. -/
def locationBatchingSessionMask : LocationCallbacksMask :=
  eLocCbBatchingBit ||| eLocCbBatchingStatusBit

/-- `LOCATION_GEOFENCE_SESSION_MASK`. -/
def locationGeofenceSessionMask : LocationCallbacksMask := eLocCbGeofenceBreachBit

/-- `GnssSuplMode`. -/
inductive GnssSuplMode
  | standalone
  | msb
  | msa
  deriving DecidableEq, Repr

/-- `BatchingMode`. -/
inductive BatchingMode
  | routine
  | trip
  | noAutoReport
  deriving DecidableEq, Repr

/-- `LocationOptions`; a zero interval and distance ask for passive listening. -/
structure LocationOptions where
  minInterval : UInt32
  minDistance : UInt32
  mode : GnssSuplMode
  locReqEngTypeMask : UInt32
  deriving DecidableEq, Repr

/-- `TrackingOptions`. -/
abbrev TrackingOptions := LocationOptions

/-- `TrackingOptions` and `LocationOptions` as their constructors leave them. -/
def LocationOptions.zero : LocationOptions :=
  { minInterval := 0, minDistance := 0, mode := .standalone, locReqEngTypeMask := 0 }

/-- The session asks for reports of its own, it does not only listen. -/
def LocationOptions.active (o : LocationOptions) : Bool :=
  o.minInterval != 0 || o.minDistance != 0

/-- `BatchingOptions`. -/
structure BatchingOptions extends LocationOptions where
  batchingMode : BatchingMode
  deriving DecidableEq, Repr

/-- `BatchingOptions` as its constructor leaves it. -/
def BatchingOptions.zero : BatchingOptions :=
  { LocationOptions.zero with batchingMode := .routine }

/-- `GeofenceOption`. -/
structure GeofenceOption where
  breachTypeMask : UInt32
  responsiveness : UInt32
  dwellTime : UInt32
  deriving DecidableEq, Repr

/-- `GeofenceInfo`; a double is carried as its 64 bits, nothing computes with it. -/
structure GeofenceInfo where
  latitude : UInt64
  longitude : UInt64
  radius : UInt64
  deriving DecidableEq, Repr

/-- `GeofencePayload`. -/
structure GeofencePayload where
  gfClientId : UInt32
  gfOption : GeofenceOption
  gfInfo : GeofenceInfo
  deriving DecidableEq, Repr

/-- `GeofenceResponse`. -/
structure GeofenceResponse where
  clientId : UInt32
  error : LocationError
  deriving DecidableEq, Repr

/-- `ClientType`. -/
inductive ClientType
  | locationClientApi
  | locationIntegrationApi
  deriving DecidableEq, Repr

/-! ## Messages -/

/-- What a client sends to the daemon. -/
inductive ReqMsg
  | clientRegister (clientType : ClientType)
  | clientDeregister
  | updateCallbacks (locationCallbacks : LocationCallbacksMask)
  | startTracking (locOptions : LocationOptions)
  | stopTracking (clearSubscriptions : Bool)
  | updateTrackingOptions (locOptions : LocationOptions)
  | startBatching (intervalInMs distanceInMeters : UInt32) (batchingMode : BatchingMode)
  | stopBatching
  | updateBatchingOptions (intervalInMs distanceInMeters : UInt32)
      (batchingMode : BatchingMode)
  | addGeofences (geofences : List GeofencePayload)
  | removeGeofences (gfClientIds : List UInt32)
  | modifyGeofences (geofences : List GeofencePayload)
  | pauseGeofences (gfClientIds : List UInt32)
  | resumeGeofences (gfClientIds : List UInt32)
  deriving DecidableEq, Repr

/-- What the daemon sends to a client. -/
inductive IndMsg
  | capabilities (capabilitiesMask : UInt64)
  | halReady
  | genericResp (msgId : ELocMsgID) (err : LocationError)
  | collectiveResp (msgId : ELocMsgID) (resp : List GeofenceResponse)
  | geofenceBreach (id : List UInt32)
  deriving DecidableEq, Repr

end LocationStack.Ipc
