import LocationStack.Ipc.Messages
import LocationStack.Lib.IdMap

/-! # The daemon's handler of one client

`LocHalDaemonClientHandler` stands between one client and its own instance of the
external `LocationAPI`: it remembers which sessions the client has, what the client
subscribed to, which geofence of the client is which geofence of `LocationAPI`, and,
in two queues, the message ids of the requests whose responses are still to come.

A method returns the handler after it and what it did on the way, the calls on
`LocationAPI` and the messages sent, in order.  What a call on `LocationAPI` returns
is an argument of the method that makes it, and so is the success of a send.
-/
namespace LocationStack.Daemon

open Ipc

/-- Calls on `ILocationAPI` with their arguments; an `addGeofences` with its result. -/
inductive HalCall
  | updateCallbacks (mask : LocationCallbacksMask)
  | startTracking (options : TrackingOptions)
  | stopTracking (id : UInt32)
  | updateTrackingOptions (id : UInt32) (options : TrackingOptions)
  | startBatching (options : BatchingOptions)
  | stopBatching (id : UInt32)
  | updateBatchingOptions (id : UInt32) (options : BatchingOptions)
  | addGeofences (options : List GeofenceOption) (info : List GeofenceInfo)
      (ids : Option (List UInt32))
  | removeGeofences (ids : List UInt32)
  | modifyGeofences (ids : List UInt32) (options : List GeofenceOption)
  | pauseGeofences (ids : List UInt32)
  | resumeGeofences (ids : List UInt32)
  | destroy
  deriving DecidableEq, Repr

/-- Something a method does outside its own fields. -/
inductive Action
  | hal (call : HalCall)
  | send (msg : IndMsg)
  deriving DecidableEq, Repr

/-- The optional members of `LocationCallbacks` that `updateSubscription` sets or
clears; the mandatory ones are always set. -/
structure LocationCallbacks where
  trackingCb : Bool
  batchingCb : Bool
  batchingStatusCb : Bool
  geofenceBreachCb : Bool
  gnssLocationInfoCb : Bool
  engineLocationsInfoCb : Bool
  gnssSvCb : Bool
  gnssNmeaCb : Bool
  engineNmeaCb : Bool
  gnssDataCb : Bool
  gnssMeasurementsCb : Bool
  gnssNHzMeasurementsCb : Bool
  locationSystemInfoCb : Bool
  gnssDcReportCb : Bool
  svEphemerisCb : Bool
  deriving DecidableEq, Repr

/-- Some bit of `bits` is set in `mask`. -/
def maskHas (mask bits : LocationCallbacksMask) : Bool := mask &&& bits != 0

/-- The callbacks `updateSubscription` leaves in `mCallbacks`. -/
def LocationCallbacks.ofMask (mask : LocationCallbacksMask) : LocationCallbacks :=
  { trackingCb := maskHas mask (eLocCbTrackingBit ||| eLocCbSimpleLocationInfoBit)
    batchingCb := maskHas mask eLocCbBatchingBit
    batchingStatusCb := maskHas mask eLocCbBatchingStatusBit
    geofenceBreachCb := maskHas mask eLocCbGeofenceBreachBit
    gnssLocationInfoCb := maskHas mask eLocCbGnssLocationInfoBit
    engineLocationsInfoCb := maskHas mask eLocCbEngineLocationsInfoBit
    gnssSvCb := maskHas mask eLocCbGnssSvBit
    gnssNmeaCb := maskHas mask eLocCbGnssNmeaBit
    engineNmeaCb := maskHas mask eLocCbEngineNmeaBit
    gnssDataCb := maskHas mask eLocCbGnssDataBit
    gnssMeasurementsCb := maskHas mask eLocCbGnssMeasBit
    gnssNHzMeasurementsCb := maskHas mask eLocCbGnssNhzMeasBit
    locationSystemInfoCb := maskHas mask eLocCbSystemInfoBit
    gnssDcReportCb := maskHas mask eLocCbGnssDcReportBit
    svEphemerisCb := maskHas mask eLocCbGnssEphBit }

/-- `mGfIdsMap`, an `unordered_map` from client ids to session ids; the order of the
entries stands for the iteration order. -/
abbrev GfIdsMap := IdMap.Map UInt32 UInt32

/-- `LocHalDaemonClientHandler`.  `mLocationApi` and `mIpcSender` say whether the
pointer is set, and `mGeofenceIds` is the array it points to. -/
structure LocHalDaemonClientHandler where
  mCapabilityMask : UInt64
  mTracking : Bool
  mBatching : Bool
  mSessionId : UInt32
  mBatchingId : UInt32
  mBatchingMode : BatchingMode
  mLocationApi : Bool
  mCallbacks : LocationCallbacks
  mOptions : TrackingOptions
  mBatchOptions : BatchingOptions
  mPendingMessages : List ELocMsgID
  mGfPendingMessages : List ELocMsgID
  mSubscriptionMask : LocationCallbacksMask
  mGeofenceIds : Option (List UInt32)
  mIpcSender : Bool
  mGfIdsMap : GfIdsMap
  deriving DecidableEq

namespace LocHalDaemonClientHandler

/-- The constructor.  Only a client of the location client API gets an instance of
`LocationAPI`; the callbacks it is made with report locations, the mask is empty. -/
def new (mClientType : ClientType) (mIpcSender : Bool) : LocHalDaemonClientHandler :=
  { mCapabilityMask := 0
    mTracking := false
    mBatching := false
    mSessionId := 0
    mBatchingId := 0
    mBatchingMode := .noAutoReport
    mLocationApi := mClientType == .locationClientApi
    mCallbacks := .ofMask
      (if mClientType == .locationClientApi then eLocCbGnssLocationInfoBit else 0)
    mOptions := .zero
    mBatchOptions := .zero
    mPendingMessages := []
    mGfPendingMessages := []
    mSubscriptionMask := 0
    mGeofenceIds := none
    mIpcSender := mIpcSender
    mGfIdsMap := ∅ }

/-- The interval rounded to one the engine supports; one that cannot be rounded up
becomes `UINT32_MAX / 1000 * 1000`. -/
def getSupportedTbf (tbfMsec : UInt32) : UInt32 :=
  if tbfMsec < 200 then 100
  else if tbfMsec < 500 then 200
  else if tbfMsec < 1000 then 500
  else if tbfMsec > 0xFFFFFFFF - 999 then 0xFFFFFFFF / 1000 * 1000
  else (tbfMsec + 999) / 1000 * 1000

variable (h : LocHalDaemonClientHandler)

/-! ## Subscriptions -/

def updateSubscription (mask : LocationCallbacksMask) :
    LocHalDaemonClientHandler × List Action :=
  ({ h with mSubscriptionMask := mask, mCallbacks := .ofMask mask },
    if h.mLocationApi then [.hal (.updateCallbacks mask)] else [])

def unsubscribeLocationSessionCb : LocHalDaemonClientHandler × List Action :=
  h.updateSubscription (h.mSubscriptionMask &&& ~~~locationSessonAllInfoMask)

/-! ## Tracking -/

/-- The session id `startTracking` returns is the one the handler has afterwards. -/
def startTracking (locOptions : LocationOptions) (ret : UInt32) :
    LocHalDaemonClientHandler × List Action :=
  if h.mSessionId == 0 && h.mLocationApi then
    let options := { locOptions with minInterval := getSupportedTbf locOptions.minInterval }
    ({ h with
        mOptions := options
        mSessionId := ret
        mPendingMessages := h.mPendingMessages ++ [.startTracking]
        mTracking := true },
      [.hal (.startTracking options)])
  else (h, [])

def stopTracking (clientExpectingResp : Bool) : LocHalDaemonClientHandler × List Action :=
  if h.mSessionId != 0 && h.mLocationApi then
    ({ h with
        mSessionId := 0
        mPendingMessages :=
          if clientExpectingResp then h.mPendingMessages ++ [.stopTracking]
          else h.mPendingMessages
        mTracking := false },
      [.hal (.stopTracking h.mSessionId)])
  else ({ h with mTracking := false }, [])

def updateTrackingOptions (locOptions : LocationOptions) :
    LocHalDaemonClientHandler × List Action :=
  if h.mSessionId != 0 && h.mLocationApi then
    let options := { locOptions with minInterval := getSupportedTbf locOptions.minInterval }
    ({ h with mOptions := options },
      [.hal (.updateTrackingOptions h.mSessionId options)])
  else (h, [])

/-! ## Batching -/

/-- The options `startBatching` and `updateBatchingOptions` give to `LocationAPI`. -/
def batchOptions (minInterval minDistance : UInt32) (batchMode : BatchingMode) :
    BatchingOptions :=
  { LocationOptions.zero with
    minInterval := minInterval
    minDistance := minDistance
    mode := .standalone
    batchingMode := batchMode }

/-- The id `startBatching` returns is the one the handler has afterwards. -/
def startBatching (minInterval minDistance : UInt32) (batchMode : BatchingMode)
    (ret : UInt32) : LocHalDaemonClientHandler × List Action :=
  if h.mBatchingId == 0 && h.mLocationApi then
    let options := batchOptions minInterval minDistance batchMode
    ({ h with mBatchOptions := options, mBatchingId := ret },
      [.hal (.startBatching options)])
  else (h, [])

def stopBatching : LocHalDaemonClientHandler × List Action :=
  if h.mBatchingId != 0 && h.mLocationApi then
    ({ h with mBatchingId := 0 }, [.hal (.stopBatching h.mBatchingId)])
  else (h, [])

def updateBatchingOptions (minInterval minDistance : UInt32) (batchMode : BatchingMode) :
    LocHalDaemonClientHandler × List Action :=
  if h.mBatchingId != 0 && h.mLocationApi then
    let options := batchOptions minInterval minDistance batchMode
    ({ h with mBatchOptions := options },
      [.hal (.updateBatchingOptions h.mBatchingId options)])
  else (h, [])

/-! ## Geofences -/

/-- `mGfIdsMap[clientIds[i]] = sessionIds[i]`, for each of the client ids. -/
def setGeofenceIds (clientIds sessionIds : List UInt32) : LocHalDaemonClientHandler :=
  { h with mGfIdsMap := IdMap.insertAll h.mGfIdsMap (clientIds.zip sessionIds) }

def eraseGeofenceIds (clientIds : List UInt32) : LocHalDaemonClientHandler :=
  { h with mGfIdsMap := IdMap.eraseAll h.mGfIdsMap clientIds }

/-- `mGfIdsMap[id]` read for each id in turn: `operator[]` puts an entry with value
0 where there is none. -/
def readGfIds : GfIdsMap → List UInt32 → List UInt32 × GfIdsMap
  | m, [] => ([], m)
  | m, id :: ids =>
    match m.lookup id with
    | some session => ((session :: (readGfIds m ids).1), (readGfIds m ids).2)
    | none =>
      let m' := m.insert id 0
      ((0 :: (readGfIds m' ids).1), (readGfIds m' ids).2)

/-- The session ids, a null pointer for no ids, and the handler with what the
lookups left in the map. -/
def getSessionIds (clientIds : List UInt32) :
    Option (List UInt32) × LocHalDaemonClientHandler :=
  if clientIds.isEmpty then (none, h)
  else
    let (sessions, m) := readGfIds h.mGfIdsMap clientIds
    (some sessions, { h with mGfIdsMap := m })

/-- The client ids, 0 for a session that is not in the map; a null pointer for no
ids. -/
def getClientIds (sessionIds : List UInt32) : Option (List UInt32) :=
  if sessionIds.isEmpty then none
  else some (sessionIds.map fun session => IdMap.keyOf h.mGfIdsMap session 0)

/-- The array `addGeofences` returns is the `mGeofenceIds` the handler has
afterwards: for no geofences, whatever an earlier call left there. -/
def addGeofences (options : List GeofenceOption) (info : List GeofenceInfo)
    (ret : Option (List UInt32)) : LocHalDaemonClientHandler × List Action :=
  if !options.isEmpty && h.mLocationApi then
    ({ h with mGeofenceIds := ret }, [.hal (.addGeofences options info ret)])
  else (h, [])

/-- `removeGeofences`, `pauseGeofences`, `resumeGeofences` and `modifyGeofences`: the
call, if there are ids and an instance of `LocationAPI`. -/
def callGeofences (ids : List UInt32) (call : HalCall) : List Action :=
  if !ids.isEmpty && h.mLocationApi then [.hal call] else []

def removeGeofences (ids : List UInt32) : List Action :=
  h.callGeofences ids (.removeGeofences ids)

def modifyGeofences (ids : List UInt32) (options : List GeofenceOption) : List Action :=
  h.callGeofences ids (.modifyGeofences ids options)

def pauseGeofences (ids : List UInt32) : List Action :=
  h.callGeofences ids (.pauseGeofences ids)

def resumeGeofences (ids : List UInt32) : List Action :=
  h.callGeofences ids (.resumeGeofences ids)

/-! ## Sending to the client

A handler that could not send is purged: `deleteClientbyName` takes it out of the
client table and calls `cleanup`.  `none` is a client without a handler. -/

/-- `cleanup`: the handler is done, its instance of `LocationAPI` is destroyed. -/
def cleanup : List Action := if h.mLocationApi then [.hal .destroy] else []

/-- `sendMessage`, which returns `rc`, and the purge after a failure. -/
def sendMessage (msg : IndMsg) (rc : Bool) :
    Option LocHalDaemonClientHandler × List Action :=
  if rc then (some h, [.send msg]) else (none, h.cleanup)

def sendCapabilitiesMsg (rc : Bool) : Option LocHalDaemonClientHandler × List Action :=
  if h.mIpcSender && h.mCapabilityMask != 0 then
    h.sendMessage (.capabilities h.mCapabilityMask) rc
  else (some h, [])

/-! ## Callbacks of LocationAPI -/

def onCapabilitiesCallback (mask : UInt64) (rc : Bool) :
    Option LocHalDaemonClientHandler × List Action :=
  if mask != h.mCapabilityMask then
    { h with mCapabilityMask := mask }.sendCapabilitiesMsg rc
  else (some h, [])

/-- The message ids `onResponseCb` answers; the others are not pending messages of a
session. -/
def respondsTo : ELocMsgID → Bool
  | .startTracking | .stopTracking | .updateTrackingOptions
  | .startBatching | .stopBatching | .updateBatchingOptions => true
  | _ => false

def onResponseCb (err : LocationError) (rc : Bool) :
    Option LocHalDaemonClientHandler × List Action :=
  if h.mIpcSender then
    let pendingMsgId := h.mPendingMessages.head?.getD .undefinedMsgId
    let h := { h with mPendingMessages := h.mPendingMessages.tail }
    if respondsTo pendingMsgId then h.sendMessage (.genericResp pendingMsgId err) rc
    else (some h, [])
  else (some h, [])

/-- The message ids `onCollectiveResponseCallback` answers. -/
def collectiveRespondsTo : ELocMsgID → Bool
  | .addGeofences | .removeGeofences | .modifyGeofences | .pauseGeofences
  | .resumeGeofences => true
  | _ => false

/-- `ids` and `errs` come as the pairs of one session id and its error. -/
def onCollectiveResponseCallback (resp : List (UInt32 × LocationError)) (rc : Bool) :
    Option LocHalDaemonClientHandler × List Action :=
  if h.mIpcSender then
    let pendingMsgId := h.mGfPendingMessages.head?.getD .undefinedMsgId
    let h := { h with mGfPendingMessages := h.mGfPendingMessages.tail }
    match h.getClientIds (resp.map Prod.fst) with
    | none => (some h, [])
    | some clientIds =>
      if collectiveRespondsTo pendingMsgId then
        let h :=
          if pendingMsgId == .removeGeofences then h.eraseGeofenceIds clientIds else h
        let gfResp := clientIds.zipWith GeofenceResponse.mk (resp.map Prod.snd)
        let failed := gfResp.filter fun r => r.error != .success
        let h := h.eraseGeofenceIds (failed.map GeofenceResponse.clientId)
        h.sendMessage (.collectiveResp pendingMsgId gfResp) rc
      else (some h, [])
  else (some h, [])

def onGeofenceBreachCb (ids : List UInt32) (rc : Bool) :
    Option LocHalDaemonClientHandler × List Action :=
  if h.mIpcSender && maskHas h.mSubscriptionMask eLocCbGeofenceBreachBit then
    match h.getClientIds ids with
    | none => (some h, [])
    | some clientIds => h.sendMessage (.geofenceBreach clientIds) rc
  else (some h, [])

end LocHalDaemonClientHandler
end LocationStack.Daemon
