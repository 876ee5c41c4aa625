import LocationStack.Ipc.Messages
import LocationStack.Lib.IdMap

/-! # The client library

`LocationClientApiImpl`, the object behind one location client.  Its methods post work
to one message loop, and so do the messages of the daemon; each definition here is one
piece of that work.  It returns the object afterwards and what was done on the way, in
order: messages sent to the daemon and callbacks of the application called.

The result of a send is only logged, so a message that cannot be sent is a matter of
the channel.  An application's `responseCb` is known by a number, so that it can be
told which one was called.
-/
namespace LocationStack.Client

open Ipc

/-- `MAX_GEOFENCE_ENTRY`. -/
def maxGeofenceEntry : Nat := 20

/-- The members of `LocationCallbacks` that a client session sets: which are given, and
which `responseCb` it is. -/
structure LocationCallbacks where
  responseCb : Option Nat
  collectiveResponseCb : Bool
  trackingCb : Bool
  gnssLocationInfoCb : Bool
  engineLocationsInfoCb : Bool
  gnssSvCb : Bool
  gnssNmeaCb : Bool
  gnssDataCb : Bool
  gnssMeasurementsCb : Bool
  gnssNHzMeasurementsCb : Bool
  gnssDcReportCb : Bool
  engineNmeaCb : Bool
  batchingCb : Bool
  batchingStatusCb : Bool
  geofenceBreachCb : Bool
  svEphemerisCb : Bool
  deriving DecidableEq, Repr

/-- `LocationCallbacks callbacksOption = {}`. -/
def LocationCallbacks.zero : LocationCallbacks :=
  { responseCb := none
    collectiveResponseCb := false
    trackingCb := false
    gnssLocationInfoCb := false
    engineLocationsInfoCb := false
    gnssSvCb := false
    gnssNmeaCb := false
    gnssDataCb := false
    gnssMeasurementsCb := false
    gnssNHzMeasurementsCb := false
    gnssDcReportCb := false
    engineNmeaCb := false
    batchingCb := false
    batchingStatusCb := false
    geofenceBreachCb := false
    svEphemerisCb := false }

/-- Something done outside the object.  A `responseCb` or `collectiveResponseCb` that
is called without being set throws `std::bad_function_call`, and `getMappedGeofence` of
an id that is not in the map throws `std::out_of_range`. -/
inductive Out
  | send (msg : ReqMsg)
  | responseCb (cb : Option Nat) (err : LocationError)
  | collectiveResponseCb (set : Bool) (resp : List (UInt32 × LocationError))
  | geofenceBreachCb (ids : List UInt32)
  | outOfRange (id : UInt32)
  deriving DecidableEq, Repr

/-- `mGeofenceMap`, from client ids to geofences. -/
abbrev GeofenceMap := IdMap.Map UInt32 GeofencePayload

/-- `LocationClientApiImpl`.  `mClientId` is from 1 to 32, and 0, which is
`LOCATION_CLIENT_SESSION_ID_INVALID`, stands for no session. -/
structure LocationClientApiImpl where
  mClientId : { id : UInt32 // id ≠ 0 }
  mSessionId : UInt32
  mBatchingId : UInt32
  mHalRegistered : Bool
  mCallbacksMask : LocationCallbacksMask
  mLocationOptions : LocationOptions
  mBatchingOptions : BatchingOptions
  mPositionSessionResponseCbPending : Bool
  mLocationCbs : LocationCallbacks
  mLocationSysInfoCb : Bool
  mLastAddedClientIds : List UInt32
  mGeofenceMap : GeofenceMap
  deriving DecidableEq

/-- The object after a piece of work and what the work did. -/
abbrev Result := LocationClientApiImpl × List Out

/-- First the work that led to `r`, then `f`. -/
def Result.andThen (r : Result) (f : LocationClientApiImpl → Result) : Result :=
  ((f r.1).1, r.2 ++ (f r.1).2)

namespace LocationClientApiImpl

/-- The constructor. -/
def new (mClientId : { id : UInt32 // id ≠ 0 }) : LocationClientApiImpl :=
  { mClientId := mClientId
    mSessionId := 0
    mBatchingId := 0
    mHalRegistered := false
    mCallbacksMask := 0
    mLocationOptions := .zero
    mBatchingOptions := .zero
    mPositionSessionResponseCbPending := false
    mLocationCbs := .zero
    mLocationSysInfoCb := false
    mLastAddedClientIds := []
    mGeofenceMap := ∅ }

variable (c : LocationClientApiImpl)

def isInTracking : Bool := c.mSessionId != 0

def isInBatching : Bool := c.mBatchingId != 0

/-- A call of `mLocationCbs.responseCb`. -/
def callResponseCb (err : LocationError) : Out := .responseCb c.mLocationCbs.responseCb err

def invokePositionSessionResponseCb (errCode : LocationError) : Result :=
  if c.mPositionSessionResponseCbPending then
    ({ c with mPositionSessionResponseCbPending := false },
      if c.mLocationCbs.responseCb.isSome then [c.callResponseCb errCode] else [])
  else (c, [])

/-! ## Subscriptions -/

/-- The bit where the callback is given. -/
def bitIf (cb : Bool) (bit : LocationCallbacksMask) : LocationCallbacksMask :=
  if cb then bit else 0

/-- The mask `updateCallbacksSync` converts the callbacks to. -/
def callBacksMask (callbacks : LocationCallbacks) : LocationCallbacksMask :=
  bitIf callbacks.trackingCb eLocCbTrackingBit |||
    bitIf callbacks.gnssLocationInfoCb eLocCbGnssLocationInfoBit |||
    bitIf callbacks.engineLocationsInfoCb eLocCbEngineLocationsInfoBit |||
    bitIf callbacks.gnssSvCb eLocCbGnssSvBit |||
    bitIf callbacks.gnssNmeaCb eLocCbGnssNmeaBit |||
    bitIf callbacks.gnssDataCb eLocCbGnssDataBit |||
    bitIf callbacks.gnssMeasurementsCb eLocCbGnssMeasBit |||
    bitIf callbacks.gnssNHzMeasurementsCb eLocCbGnssNhzMeasBit |||
    bitIf callbacks.gnssDcReportCb eLocCbGnssDcReportBit |||
    bitIf callbacks.engineNmeaCb eLocCbEngineNmeaBit |||
    bitIf c.mLocationSysInfoCb eLocCbSystemInfoBit |||
    bitIf callbacks.batchingCb eLocCbBatchingBit |||
    bitIf callbacks.batchingStatusCb eLocCbBatchingStatusBit |||
    bitIf callbacks.geofenceBreachCb eLocCbGeofenceBreachBit |||
    bitIf callbacks.svEphemerisCb eLocCbGnssEphBit

/-- The callbacks after those given replaced the ones there were. -/
def mergeCallbacks (old callbacks : LocationCallbacks) : LocationCallbacks :=
  { responseCb := callbacks.responseCb <|> old.responseCb
    collectiveResponseCb := old.collectiveResponseCb || callbacks.collectiveResponseCb
    trackingCb := old.trackingCb || callbacks.trackingCb
    gnssLocationInfoCb := old.gnssLocationInfoCb || callbacks.gnssLocationInfoCb
    engineLocationsInfoCb := old.engineLocationsInfoCb || callbacks.engineLocationsInfoCb
    gnssSvCb := old.gnssSvCb || callbacks.gnssSvCb
    gnssNmeaCb := old.gnssNmeaCb || callbacks.gnssNmeaCb
    gnssDataCb := old.gnssDataCb || callbacks.gnssDataCb
    gnssMeasurementsCb := old.gnssMeasurementsCb || callbacks.gnssMeasurementsCb
    gnssNHzMeasurementsCb := old.gnssNHzMeasurementsCb || callbacks.gnssNHzMeasurementsCb
    gnssDcReportCb := old.gnssDcReportCb || callbacks.gnssDcReportCb
    engineNmeaCb := old.engineNmeaCb || callbacks.engineNmeaCb
    batchingCb := old.batchingCb || callbacks.batchingCb
    batchingStatusCb := old.batchingStatusCb || callbacks.batchingStatusCb
    geofenceBreachCb := old.geofenceBreachCb || callbacks.geofenceBreachCb
    svEphemerisCb := old.svEphemerisCb || callbacks.svEphemerisCb }

/-- The mask is ORed with the bits of the callbacks; a registered client reports it to
the daemon when it has grown. -/
def updateCallbacksSync (callbacks : LocationCallbacks) : Result :=
  let mask := c.callBacksMask callbacks
  let c := { c with mLocationCbs := mergeCallbacks c.mLocationCbs callbacks }
  if c.mCallbacksMask &&& mask ≠ mask then
    let c := { c with mCallbacksMask := c.mCallbacksMask ||| mask }
    (c, if c.mHalRegistered then [.send (.updateCallbacks c.mCallbacksMask)] else [])
  else (c, [])

/-- `clearSubscriptions(TRACKING_CBS)`; the disaster report and engine NMEA callbacks
are not set back. -/
def clearTrackingSubscriptions : LocationClientApiImpl :=
  { c with
    mCallbacksMask := c.mCallbacksMask &&& ~~~locationSessonAllInfoMask
    mLocationCbs := { c.mLocationCbs with
      trackingCb := false
      gnssLocationInfoCb := false
      gnssSvCb := false
      gnssNmeaCb := false
      gnssDataCb := false
      gnssMeasurementsCb := false
      gnssNHzMeasurementsCb := false
      engineLocationsInfoCb := false
      svEphemerisCb := false } }

/-- `clearSubscriptions(GEOFENCE_CBS)`. -/
def clearGeofenceSubscriptions : LocationClientApiImpl :=
  { c with
    mCallbacksMask := c.mCallbacksMask &&& ~~~locationGeofenceSessionMask
    mLocationCbs := { c.mLocationCbs with geofenceBreachCb := false } }

/-! ## Tracking -/

/-- An option of tracking sessions that are told apart differs. -/
def isOptionUpdated (option : TrackingOptions) : Bool :=
  c.mLocationOptions.minInterval != option.minInterval ||
    c.mLocationOptions.minDistance != option.minDistance ||
    c.mLocationOptions.locReqEngTypeMask != option.locReqEngTypeMask

/-- The message an update of the options leads to: a stop where the session becomes
passive, a start where it no longer is, else an update. -/
def trackingUpdate (option : TrackingOptions) (clearSubscriptions : Bool) : ReqMsg :=
  if !option.active && c.mLocationOptions.active then .stopTracking clearSubscriptions
  else if option.active && !c.mLocationOptions.active then .startTracking option
  else .updateTrackingOptions option

def updateTrackingOptionsSync (option : TrackingOptions) (clearSubscriptions : Bool) :
    Result :=
  ({ c with mLocationOptions := option },
    [.send (c.trackingUpdate option clearSubscriptions)])

def startTrackingSync (option : TrackingOptions) : Result :=
  if !c.mHalRegistered then
    ({ c with mLocationOptions := option, mSessionId := c.mClientId }, [])
  else if !c.isInTracking then
    ({ c with mLocationOptions := option, mSessionId := c.mClientId },
      if option.active then [.send (.startTracking option)] else [])
  else if c.isOptionUpdated option then c.updateTrackingOptionsSync option true
  else c.invokePositionSessionResponseCb .success

def stopTrackingSync (clearSubscriptions : Bool) : Result :=
  ({ c with
      mLocationOptions := { c.mLocationOptions with minInterval := 0, minDistance := 0 }
      mSessionId := 0
      mPositionSessionResponseCbPending := false },
    if c.isInTracking && c.mHalRegistered && c.mLocationOptions.active then
      [.send (.stopTracking clearSubscriptions)]
    else [])

def startPositionSession (callbacksOption : LocationCallbacks)
    (trackingOptions : TrackingOptions) : Result :=
  if c.mPositionSessionResponseCbPending then (c, [c.callResponseCb .alreadyStarted])
  else if c.isInBatching then (c, [c.callResponseCb .exclusiveSessionInProgress])
  else
    (({ c with mPositionSessionResponseCbPending := true }.clearTrackingSubscriptions
      ).updateCallbacksSync callbacksOption).andThen
        fun c => c.startTrackingSync trackingOptions

def stopTrackingAndClearSubscriptions : Result :=
  let (c, outs) := c.stopTrackingSync true
  (c.clearTrackingSubscriptions, outs)

/-! ## Batching -/

/-- An option of batching sessions that are told apart differs. -/
def isBatchingUpdated (batchOptions : BatchingOptions) : Bool :=
  c.mBatchingOptions.minInterval != batchOptions.minInterval ||
    c.mBatchingOptions.minDistance != batchOptions.minDistance ||
    c.mBatchingOptions.batchingMode != batchOptions.batchingMode

def updateBatchingOptions (batchOptions : BatchingOptions) : Result :=
  if c.isBatchingUpdated batchOptions then
    ({ c with mBatchingOptions := batchOptions },
      [.send (.updateBatchingOptions batchOptions.minInterval batchOptions.minDistance
        batchOptions.batchingMode)])
  else c.invokePositionSessionResponseCb .success

/-- A client that is not registered says so to the application and keeps no session;
whether there is one to update is read off the tracking session. -/
def startBatchingSync (batchOptions : BatchingOptions) : Result :=
  if !c.mHalRegistered then
    ({ c with mBatchingOptions := batchOptions },
      if c.mLocationCbs.responseCb.isSome then [c.callResponseCb .systemNotReady] else [])
  else if !c.isInTracking then
    ({ c with mBatchingOptions := batchOptions, mBatchingId := c.mClientId },
      [.send (.startBatching batchOptions.minInterval batchOptions.minDistance
        batchOptions.batchingMode)])
  else c.updateBatchingOptions batchOptions

def startBatchingSession (callbacksOption : LocationCallbacks)
    (batchingOptions : BatchingOptions) : Result :=
  if c.mPositionSessionResponseCbPending then (c, [c.callResponseCb .alreadyStarted])
  else if c.isInTracking then (c, [c.callResponseCb .exclusiveSessionInProgress])
  else
    ({ c with mPositionSessionResponseCbPending := true }.updateCallbacksSync
      callbacksOption).andThen fun c => c.startBatchingSync batchingOptions

def stopBatching : Result :=
  if c.mBatchingId == c.mClientId then
    ({ c with mBatchingOptions := .zero, mBatchingId := 0 }, [.send .stopBatching])
  else ({ c with mBatchingId := 0 }, [])

/-! ## Geofences -/

def checkGeofenceMap (ids : List UInt32) : Bool := ids.all fun id => decide (id ∈ c.mGeofenceMap)

/-- `unordered_map::insert`, which does not overwrite. -/
def addGeofenceMap (geofence : GeofencePayload) : LocationClientApiImpl :=
  if geofence.gfClientId ∈ c.mGeofenceMap then c
  else { c with mGeofenceMap := c.mGeofenceMap.insert geofence.gfClientId geofence }

def eraseGeofenceMap (ids : List UInt32) : LocationClientApiImpl :=
  { c with mGeofenceMap := IdMap.eraseAll c.mGeofenceMap ids }

def isGeofenceMapEmpty : Bool := c.mGeofenceMap.keys.isEmpty

/-- The first of the two `addGeofences`: option and area of each geofence, under the
client ids in `mLastAddedClientIds`.  (A place past the end of that vector is read as 0,
and geofences past the end of the payload are not sent; the source runs over the end of
the vector and of the payload.) -/
def sendGeofences (geofences : List GeofencePayload) : Result :=
  if !c.mHalRegistered then
    (c, [.collectiveResponseCb c.mLocationCbs.collectiveResponseCb
      (geofences.zipIdx.map fun g => (c.mLastAddedClientIds.getD g.2 0, .systemNotReady))])
  else
    (c, [.send (.addGeofences
      ((geofences.zipIdx.map fun g =>
        { g.1 with gfClientId := c.mLastAddedClientIds.getD g.2 0 }).take maxGeofenceEntry))])

/-- The second of the two `addGeofences`, which the application's call leads to; each
geofence comes with the id it was given.  A refused add also enters the geofences. -/
def addGeofences (callbacksOption : LocationCallbacks) (geofences : List GeofencePayload) :
    Result :=
  if c.mPositionSessionResponseCbPending then
    (geofences.foldl addGeofenceMap c,
      [.collectiveResponseCb c.mLocationCbs.collectiveResponseCb
        (geofences.map fun g => (g.gfClientId, .alreadyStarted))])
  else
    ({ c with mPositionSessionResponseCbPending := true }.updateCallbacksSync
      callbacksOption).andThen fun c =>
        (geofences.foldl addGeofenceMap
          { c with mLastAddedClientIds := geofences.map GeofencePayload.gfClientId }
          ).sendGeofences geofences

/-- `removeGeofences`, `pauseGeofences` and `resumeGeofences`: a registered client
sends what it knows, at most `MAX_GEOFENCE_ENTRY` ids. -/
def requestGeofences (ids : List UInt32) (msg : List UInt32 → ReqMsg) : Result :=
  if !c.checkGeofenceMap ids then (c, [])
  else if !c.mHalRegistered then (c, [])
  else if ids.isEmpty then (c, [])
  else (c, [.send (msg (ids.take maxGeofenceEntry))])

def removeGeofences (ids : List UInt32) : Result := c.requestGeofences ids .removeGeofences

def pauseGeofences (ids : List UInt32) : Result := c.requestGeofences ids .pauseGeofences

def resumeGeofences (ids : List UInt32) : Result := c.requestGeofences ids .resumeGeofences

/-- The geofence of an id with a new option. -/
def setGeofenceOption (geofence : UInt32 × GeofenceOption) : LocationClientApiImpl :=
  match c.mGeofenceMap.lookup geofence.1 with
  | some g =>
    { c with
      mGeofenceMap := c.mGeofenceMap.replace geofence.1 { g with gfOption := geofence.2 } }
  | none => c

/-- The options sent are entered in the map; the areas of the payload are not set. -/
def modifyGeofences (geofences : List (UInt32 × GeofenceOption)) : Result :=
  if !c.checkGeofenceMap (geofences.map Prod.fst) then (c, [])
  else if !c.mHalRegistered then (c, [])
  else if geofences.isEmpty then (c, [])
  else
    ((geofences.take maxGeofenceEntry).foldl setGeofenceOption c,
      [.send (.modifyGeofences ((geofences.take maxGeofenceEntry).map
        fun g => ⟨g.1, g.2, ⟨0, 0, 0⟩⟩))])

/-! ## Messages of the daemon -/

/-- What a client that becomes registered sends again: its tracking session or else its
batching session. -/
def resumeSession : Result :=
  if c.isInTracking then { c with mSessionId := 0 }.startTrackingSync c.mLocationOptions
  else if c.isInBatching then { c with mBatchingId := 0 }.startBatchingSync c.mBatchingOptions
  else (c, [])

/-- The geofences it sends again, those of the map in the order of its entries. -/
def resumeGeofenceMap : Result :=
  if c.isGeofenceMapEmpty then (c, [])
  else c.sendGeofences (c.mGeofenceMap.entries.map Sigma.snd)

/-- What the application is told about capabilities is left out. -/
def capabilitesCallback : Result :=
  let oldHalRegistered := c.mHalRegistered
  let c := { c with mHalRegistered := true }
  let r : Result :=
    (c, if c.mCallbacksMask ≠ 0 then [.send (.updateCallbacks c.mCallbacksMask)] else [])
  if oldHalRegistered then r
  else (r.andThen resumeSession).andThen resumeGeofenceMap

/-- The daemon has restarted.  The registration is posted to the message loop behind
what is already there. -/
def onHalReady : LocationClientApiImpl := { c with mHalRegistered := false }

/-- The work `onListenerReady` posts. -/
def clientRegister : Result := (c, [.send (.clientRegister .locationClientApi)])

def onGenericResponse (msgId : ELocMsgID) (err : LocationError) : Result :=
  if msgId ≠ .stopTracking then c.invokePositionSessionResponseCb err else (c, [])

/-- The ids a collective response to `msgId` takes out of the map: all of a removal,
and those that failed. -/
def respondedIds (msgId : ELocMsgID) (resp : List GeofenceResponse) : List UInt32 :=
  (resp.filter fun r => r.error != .success || msgId == .removeGeofences).map
    GeofenceResponse.clientId

/-- The map is checked for being empty before the answered ids are taken out, and only
where there is a callback. -/
def onCollectiveResponse (msgId : ELocMsgID) (resp : List GeofenceResponse) : Result :=
  if c.mLocationCbs.collectiveResponseCb then
    let c := if c.isGeofenceMapEmpty then c.clearGeofenceSubscriptions else c
    ({ c.eraseGeofenceMap (respondedIds msgId resp) with
        mPositionSessionResponseCbPending := false },
      [.collectiveResponseCb true (resp.map fun r => (r.clientId, r.error))])
  else ({ c with mPositionSessionResponseCbPending := false }, [])

/-- `getMappedGeofence` of each id; the first that is not in the map throws. -/
def onGeofenceBreach (ids : List UInt32) : Result :=
  if c.mCallbacksMask &&& eLocCbGeofenceBreachBit ≠ 0 ∧ c.mLocationCbs.geofenceBreachCb then
    match ids.find? fun id => decide (id ∉ c.mGeofenceMap) with
    | some id => (c, [.outOfRange id])
    | none => (c, [.geofenceBreachCb ids])
  else (c, [])

/-- `IpcListener::onReceive`. -/
def onReceive : IndMsg → Result
  | .capabilities _ => c.capabilitesCallback
  | .halReady => (c.onHalReady, [])
  | .genericResp msgId err => c.onGenericResponse msgId err
  | .collectiveResp msgId resp => c.onCollectiveResponse msgId resp
  | .geofenceBreach ids => c.onGeofenceBreach ids

end LocationClientApiImpl
end LocationStack.Client
