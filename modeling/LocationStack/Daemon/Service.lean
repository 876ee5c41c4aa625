import LocationStack.Daemon.Handler

/-! # The daemon's side of a request

`LocationApiService` finds the handler of the client a message comes from and calls
it.  Handlers of different clients share nothing, so one client's entry of `mClients`
is the whole state here: `none` where the client is not registered.

Which pending message id is pushed, and when, is decided partly here and partly in
the handler, which is why both are modelled call by call.
-/
namespace LocationStack.Daemon

open Ipc

/-- `MAX_GEOFENCE_COUNT`. -/
def maxGeofenceCount : Nat := 20

/-- What the calls on `LocationAPI` that a request may lead to return. -/
structure HalReturns where
  startTracking : UInt32
  startBatching : UInt32
  addGeofences : Option (List UInt32)
  deriving DecidableEq, Repr

/-- One client's entry of `mClients`. -/
abbrev Entry := Option LocHalDaemonClientHandler

namespace LocHalDaemonClientHandler

variable (h : LocHalDaemonClientHandler)

/-- `mPendingMessages.push`. -/
def pushPending (id : ELocMsgID) : LocHalDaemonClientHandler :=
  { h with mPendingMessages := h.mPendingMessages ++ [id] }

/-- `mGfPendingMessages.push`. -/
def pushGfPending (id : ELocMsgID) : LocHalDaemonClientHandler :=
  { h with mGfPendingMessages := h.mGfPendingMessages ++ [id] }

end LocHalDaemonClientHandler

namespace LocationApiService

open LocHalDaemonClientHandler

/-! ## Registration -/

/-- A name that is already registered gets its capabilities again; `mIpcSender` says
whether a sender to a new client could be made. -/
def newClient (pClient : Entry) (mClientType : ClientType) (mIpcSender rc : Bool) :
    Entry × List Action :=
  match pClient with
  | some h => h.sendCapabilitiesMsg rc
  | none => (some (.new mClientType mIpcSender), [])

def deleteClient (pClient : Entry) : Entry × List Action :=
  match pClient with
  | some h => (none, h.cleanup)
  | none => (none, [])

/-- A request of a registered client; one of an unknown client is ignored. -/
def withClient (pClient : Entry)
    (f : LocHalDaemonClientHandler → LocHalDaemonClientHandler × List Action) :
    Entry × List Action :=
  match pClient with
  | some h => (some (f h).1, (f h).2)
  | none => (none, [])

/-! ## Tracking and subscriptions -/

/-- The mode of a tracking session is the master position mode. -/
def startTracking (mPositionMode : GnssSuplMode) (locOptions : LocationOptions)
    (ret : UInt32) (h : LocHalDaemonClientHandler) :
    LocHalDaemonClientHandler × List Action :=
  h.startTracking { locOptions with mode := mPositionMode } ret

def stopTracking (clearSubscriptions : Bool) (h : LocHalDaemonClientHandler) :
    LocHalDaemonClientHandler × List Action :=
  let (h, unsubscribed) :=
    if clearSubscriptions then h.unsubscribeLocationSessionCb else (h, [])
  let (h, stopped) := h.stopTracking (!clearSubscriptions)
  (h, unsubscribed ++ stopped)

def updateSubscription (locationCallbacks : LocationCallbacksMask)
    (h : LocHalDaemonClientHandler) : LocHalDaemonClientHandler × List Action :=
  h.updateSubscription locationCallbacks

def updateTrackingOptions (mPositionMode : GnssSuplMode) (locOptions : LocationOptions)
    (h : LocHalDaemonClientHandler) : LocHalDaemonClientHandler × List Action :=
  let (h, calls) := h.updateTrackingOptions { locOptions with mode := mPositionMode }
  (h.pushPending .updateTrackingOptions, calls)

/-! ## Batching -/

def startBatching (intervalInMs distanceInMeters : UInt32) (batchingMode : BatchingMode)
    (ret : UInt32) (h : LocHalDaemonClientHandler) :
    LocHalDaemonClientHandler × List Action :=
  let (h, calls) := h.startBatching intervalInMs distanceInMeters batchingMode ret
  if h.mBatchingId == 0 then (h, calls)
  else
    ({ h with mBatching := true, mBatchingMode := batchingMode }.pushPending .startBatching,
      calls)

def stopBatching (h : LocHalDaemonClientHandler) :
    LocHalDaemonClientHandler × List Action :=
  let (h, calls) :=
    { h with mBatching := false, mBatchingMode := .noAutoReport }.stopBatching
  (h.pushPending .stopBatching, calls)

def updateBatchingOptions (intervalInMs distanceInMeters : UInt32)
    (batchingMode : BatchingMode) (h : LocHalDaemonClientHandler) :
    LocHalDaemonClientHandler × List Action :=
  let (h, calls) := h.updateBatchingOptions intervalInMs distanceInMeters batchingMode
  (h.pushPending .updateBatchingOptions, calls)

/-! ## Geofences -/

def addGeofences (geofences : List GeofencePayload) (ret : Option (List UInt32))
    (h : LocHalDaemonClientHandler) : LocHalDaemonClientHandler × List Action :=
  if geofences.length > maxGeofenceCount then (h, [])
  else
    let (h, calls) := h.addGeofences (geofences.map GeofencePayload.gfOption)
      (geofences.map GeofencePayload.gfInfo) ret
    match h.mGeofenceIds with
    | none => (h, calls)
    | some sessions =>
      ((h.setGeofenceIds (geofences.map GeofencePayload.gfClientId) sessions).pushGfPending
        .addGeofences, calls)

/-- `removeGeofences`, `modifyGeofences`, `pauseGeofences` and `resumeGeofences` after
their checks: translate the ids, call, push the pending id. -/
def onGeofences (gfClientIds : List UInt32) (id : ELocMsgID)
    (call : LocHalDaemonClientHandler → List UInt32 → List Action)
    (h : LocHalDaemonClientHandler) : LocHalDaemonClientHandler × List Action :=
  match h.getSessionIds gfClientIds with
  | (none, h) => (h, [])
  | (some sessions, h) => (h.pushGfPending id, call h sessions)

def removeGeofences (gfClientIds : List UInt32) :
    LocHalDaemonClientHandler → LocHalDaemonClientHandler × List Action :=
  onGeofences gfClientIds .removeGeofences LocHalDaemonClientHandler.removeGeofences

def modifyGeofences (geofences : List GeofencePayload) (h : LocHalDaemonClientHandler) :
    LocHalDaemonClientHandler × List Action :=
  if geofences.length > maxGeofenceCount then (h, [])
  else
    onGeofences (geofences.map GeofencePayload.gfClientId) .modifyGeofences
      (fun h sessions => h.modifyGeofences sessions (geofences.map GeofencePayload.gfOption))
      h

def pauseGeofences (gfClientIds : List UInt32) :
    LocHalDaemonClientHandler → LocHalDaemonClientHandler × List Action :=
  onGeofences gfClientIds .pauseGeofences LocHalDaemonClientHandler.pauseGeofences

def resumeGeofences (gfClientIds : List UInt32) :
    LocHalDaemonClientHandler → LocHalDaemonClientHandler × List Action :=
  onGeofences gfClientIds .resumeGeofences LocHalDaemonClientHandler.resumeGeofences

/-! ## All messages -/

/-- `processClientMsg`.  `ret` is what `LocationAPI` returns to the calls made, `rc`
the success of a send, `mIpcSender` whether a sender can be made for a new client. -/
def processClientMsg (mPositionMode : GnssSuplMode) (pClient : Entry) (msg : ReqMsg)
    (ret : HalReturns) (mIpcSender rc : Bool) : Entry × List Action :=
  match msg with
  | .clientRegister clientType => newClient pClient clientType mIpcSender rc
  | .clientDeregister => deleteClient pClient
  | .updateCallbacks mask => withClient pClient (updateSubscription mask)
  | .startTracking options =>
    withClient pClient (startTracking mPositionMode options ret.startTracking)
  | .stopTracking clearSubscriptions => withClient pClient (stopTracking clearSubscriptions)
  | .updateTrackingOptions options =>
    withClient pClient (updateTrackingOptions mPositionMode options)
  | .startBatching interval distance mode =>
    withClient pClient (startBatching interval distance mode ret.startBatching)
  | .stopBatching => withClient pClient stopBatching
  | .updateBatchingOptions interval distance mode =>
    withClient pClient (updateBatchingOptions interval distance mode)
  | .addGeofences geofences => withClient pClient (addGeofences geofences ret.addGeofences)
  | .removeGeofences ids => withClient pClient (removeGeofences ids)
  | .modifyGeofences geofences => withClient pClient (modifyGeofences geofences)
  | .pauseGeofences ids => withClient pClient (pauseGeofences ids)
  | .resumeGeofences ids => withClient pClient (resumeGeofences ids)

/-- The part of the constructor that makes the default client when
`mAutoStartGnss` is set: it subscribes, starts a session, and pushes the pending id
of the start after `startTracking` has pushed it. -/
def autoStart (mPositionMode : GnssSuplMode) (gnssSessionTbfMs ret : UInt32)
    (mIpcSender : Bool) : LocHalDaemonClientHandler × List Action :=
  let h := LocHalDaemonClientHandler.new .locationClientApi mIpcSender
  let (h, subscribed) :=
    h.updateSubscription (eLocCbGnssLocationInfoBit ||| eLocCbGnssSvBit)
  let (h, started) := h.startTracking
    { LocationOptions.zero with minInterval := gnssSessionTbfMs, mode := mPositionMode } ret
  (h.pushPending .startTracking, subscribed ++ started)

end LocationApiService
end LocationStack.Daemon
