import LocationStack.Service.Clients
import LocationStack.Lib.EventRun

/-! # What happens to the service

The requests of the clients, the callbacks of `LocationAPI`, of the location control
interface and of the GNSS interface, the timers and the messages they post.  Each is handled
under one lock, from its beginning to its end, and so is one event.  Whether a message can be
sent is an argument of the event, for each client it goes to.
-/
namespace LocationStack.Service

open Ipc

namespace State

variable (s : State)

/-! ## Configuration requests -/

def addConfigRequestToMap (sessionId : UInt32) (clientName : String) (msgId : ConfigMsgID)
    (rc : Bool) : State :=
  if sessionId ≠ 0 then
    { s with
      mConfigReqs :=
        if sessionId ∈ s.mConfigReqs then s.mConfigReqs
        else s.mConfigReqs.insert sessionId ⟨clientName, msgId⟩
      configRequests :=
        s.configRequests ++
          [⟨sessionId, clientName, (s.getClient clientName).map Client.id, msgId⟩] }
  else
    match s.getClient clientName with
    | some pClient => s.onControlResponseCb clientName pClient .generalFailure msgId 0 rc
    | none => s

/-- `configConstrainedTunc` and the others that pass their arguments on, and map the session id
they get; two of them ask the GNSS interface.  The rest have a definition of their own. -/
def configRequest (clientName : String) (msgId : ConfigMsgID) (sessionId : UInt32) (rc : Bool) :
    State :=
  match msgId with
  | .getConstellationSecondaryBandConfigReq | .getXtraStatusReq =>
    if s.gnssInterface then s.addConfigRequestToMap sessionId clientName msgId rc else s
  | .configUserConsentTerrestrialPositioning | .registerXtraStatusUpdateReq
  | .deregisterXtraStatusUpdateReq | .registerGnssSignalTypesUpdateReq => s
  | _ => s.addConfigRequestToMap sessionId clientName msgId rc

/-- The name is put into `mClientsRegForXtraStatus`. -/
def addXtraClient (clientName : String) : State :=
  { s with
    mClientsRegForXtraStatus := s.mClientsRegForXtraStatus.insert clientName
    xtraClients := ((s.getClient clientName).map Client.id).toList ++ s.xtraClients }

/-- The name is erased from `mClientsRegForXtraStatus`. -/
def eraseXtraClient (clientName : String) : State :=
  { s with
    mClientsRegForXtraStatus := s.mClientsRegForXtraStatus.erase clientName
    xtraClients :=
      s.xtraClients.filter fun id => (s.getClient clientName).all fun c : Client => c.id != id }

def gnssRegisterXtraStatusUpdate (registerUpdate : Bool) : State :=
  { s with xtraStatusUpdate := registerUpdate }

def registerXtraStatusUpdate (clientName : String) (sessionId : UInt32) (rc : Bool) : State :=
  if s.gnssInterface then
    ((s.addXtraClient clientName).gnssRegisterXtraStatusUpdate true).addConfigRequestToMap
      sessionId clientName .registerXtraStatusUpdateReq rc
  else s.addXtraClient clientName

def deregisterXtraStatusUpdate (clientName : String) (sessionId : UInt32) (rc : Bool) : State :=
  let s := s.eraseXtraClient clientName
  if s.mClientsRegForXtraStatus = [] then
    if s.gnssInterface then
      (s.gnssRegisterXtraStatusUpdate false).addConfigRequestToMap sessionId clientName
        .deregisterXtraStatusUpdateReq rc
    else s
  else
    match s.getClient clientName with
    | some pClient =>
      s.onControlResponseCb clientName pClient .success .deregisterXtraStatusUpdateReq 0 rc
    | none => s

/-- The callbacks that it sets decide what is reported, not what is done with a report. -/
def registerGnssSignalTypesUpdate (clientName : String) (rc : Bool) : State :=
  match s.getClient clientName with
  | some pClient =>
    s.onControlResponseCb clientName pClient .success .registerGnssSignalTypesUpdateReq 0 rc
  | none => s

/-- The consent, and the `LocationAPI` for it; `created` tells whether `createInstance` returned
one. -/
def setOptIn (userConsent : Int) (created : Bool) : State :=
  { s with
    mOptInTerrestrialService := userConsent
    mGtpWwanSsLocationApi :=
      if userConsent = 1 ∧ s.mGtpWwanSsLocationApi = false then created
      else s.mGtpWwanSsLocationApi }

def configUserConsentTerrestrialPositioning (clientName : String) (userConsent : Int)
    (created : Bool) (sessionId : UInt32) (rc : Bool) : State :=
  (s.setOptIn userConsent created).addConfigRequestToMap sessionId clientName
    .configUserConsentTerrestrialPositioning rc

/-- Whether the GNSS interface is asked, or was already, is left out. -/
def getGnssEnergyConsumed (clientName : String) : State :=
  if s.gnssInterface then
    match s.getClient clientName with
    | some pClient => s.setClient clientName { pClient with mEngineInfoRequestMask := true }
    | none => s
  else s

/-! ## Control responses -/

def eraseConfigReq (sessionId : UInt32) : State :=
  { s with mConfigReqs := s.mConfigReqs.erase sessionId }

def onControlResponseCallback (err : LocationError) (sessionId : UInt32) (rc : Bool) : State :=
  match s.mConfigReqs.lookup sessionId with
  | none => s
  | some data =>
    match s.getClient data.clientName with
    | some pClient =>
      (s.onControlResponseCb data.clientName pClient err data.configMsgId sessionId.toNat
        rc).eraseConfigReq sessionId
    | none => s.eraseConfigReq sessionId

def onControlCollectiveResponseCallback (resp : List (LocationError × UInt32)) (rc : Bool) :
    State :=
  match resp with
  | [(err, sessionId)] => s.onControlResponseCallback err sessionId rc
  | _ => s

/-- A client is sent an XTRA status update, perhaps without having registered for it. -/
def noteXtra (c : Client) : State :=
  if c.id ∈ s.xtraClients then s else { s with unaskedXtra := c.id :: s.unaskedXtra }

/-- The loop over a copy of each name in `mClientsRegForXtraStatus`. -/
def xtraStatusUpdates (status : XtraStatus) (rcs : String → Bool) : List String → State → State
  | [], s => s
  | xtraClient :: rest, s =>
    let s := { s with visited := s.visited ++ [xtraClient] }
    match s.getClient xtraClient with
    | some pClient =>
      xtraStatusUpdates status rcs rest
        ((s.noteXtra pClient).onXtraStatusUpdateCb xtraClient pClient status (rcs xtraClient))
    | none => xtraStatusUpdates status rcs rest s

/-- The response and the configuration are two messages, sent with `rc` and `rc'`. -/
def onGnssConfigCallback (sessionId : UInt32) (config : GnssConfig) (rc rc' : Bool)
    (rcs : String → Bool) : State :=
  if sessionId = 0 then
    match config.xtraStatus with
    | some status => xtraStatusUpdates status rcs s.mClientsRegForXtraStatus s
    | none => s
  else
    match s.mConfigReqs.lookup sessionId with
    | none => s
    | some data =>
      match s.getClient data.clientName with
      | some pClient =>
        ((s.onControlResponseCb data.clientName pClient .success data.configMsgId
          sessionId.toNat rc).onGnssConfigCb data.clientName pClient data.configMsgId config
          rc').eraseConfigReq sessionId
      | none => s.eraseConfigReq sessionId

/-! ## Broadcasts -/

/-- `for (auto each : mClients)`, at the element with the first of the names: the iterator is
advanced after the visit. -/
def broadcast (visit : String → Client → State → State) : List String → State → State
  | [], s => s
  | name :: rest, s =>
    match s.getClient name with
    | none => s.fault .erasedIterator
    | some each =>
      let s := visit name each { s with visited := s.visited ++ [name] }
      if name ∈ s.mClients then broadcast visit rest s else s.fault .erasedIterator

def onGnssSignalTypes (signalType : UInt32) (rcs : String → Bool) : State :=
  broadcast (fun name each s => s.onGnssSignalTypesCb signalType (rcs name) name each)
    s.mClients.keys s

def onGnssEnergyConsumedCb (total : UInt64) (rcs : String → Bool) : State :=
  broadcast (fun name each s => s.onGnssEnergyConsumedInfoAvailable total (rcs name) name each)
    s.mClients.keys s

/-- The loop over `clientsToCheck`, a copy of names and senders.  The name of a client on this
processor begins with `socketDir`. -/
def pings (socketDir : String) (rcs : String → Bool) :
    List (Sigma fun _ : String => Client) → State → State
  | [], s => s
  | ⟨name, client⟩ :: rest, s =>
    let s := { s with visited := s.visited ++ [name] }
    if socketDir.toList.isPrefixOf name.toList then
      pings socketDir rcs rest
        (if rcs name then s.deliver client .pingTest 0 true else s.deleteClientbyName name)
    else pings socketDir rcs rest s

/-- `AUTO_START_CLIENT_NAME`. -/
def autoStartClientName : String := "default"

def performMaintenance (socketDir : String) (rcs : String → Bool) : State :=
  pings socketDir rcs (s.mClients.entries.filter fun e => e.1 != autoStartClientName) s

/-! ## Terrestrial fixes -/

/-- The request gets the next number. -/
def countReq : State := { s with nextReq := s.nextReq + 1 }

/-- A request of the same client that is pending is replaced, its timer is gone. -/
def addTerrestrialFix (clientName : String) : State :=
  { s with
    mTerrestrialFixTimeoutMap :=
      (s.mTerrestrialFixTimeoutMap.erase clientName).insert clientName ⟨s.nextReq, true⟩ }

def getSingleTerrestrialPos (clientName : String) (rc : Bool) : State :=
  if s.mOptInTerrestrialService ≠ 1 then
    match s.getClient clientName with
    | some pClient =>
      (s.sendTerrestrialFix pClient .notSupported .zero s.nextReq rc).countReq
    | none => s.countReq
  else if s.mTerrestrialFixTimeoutMap.keys ≠ [] then (s.addTerrestrialFix clientName).countReq
  else (s.addTerrestrialFix clientName).countReq.startNetworkLocation

/-- The timeout of the request `fired` ends the request `ended`. -/
def noteTimeout (fired ended : Nat) : State :=
  { s with timedOut := s.timedOut ++ [(fired, ended)] }

def gtpFixRequestTimeout (clientName : String) (fired : Nat) (rc : Bool) : State :=
  match s.mTerrestrialFixTimeoutMap.lookup clientName with
  | none => s
  | some timer =>
    let s := s.noteTimeout fired timer.req
    match s.getClient clientName with
    | some pClient =>
      (s.sendTerrestrialFix pClient .timeout .zero timer.req rc).eraseTerrestrialFix clientName
    | none => s.eraseTerrestrialFix clientName

/-- The loop over the requests for a terrestrial fix. -/
def terrestrialFixes (location : Location) (rcs : String → Bool) :
    List (Sigma fun _ : String => SingleFixTimer) → State → State
  | [], s => s
  | ⟨name, timer⟩ :: rest, s =>
    match s.getClient name with
    | some pClient =>
      terrestrialFixes location rcs rest
        (s.sendTerrestrialFix pClient .success location timer.req (rcs name))
    | none => terrestrialFixes location rcs rest s

def clearTerrestrialFixes : State := { s with mTerrestrialFixTimeoutMap := ∅ }

def onGtpWwanTrackingCallback (location : Location) (rcs : String → Bool) : State :=
  if s.mTerrestrialFixTimeoutMap.keys ≠ [] ∧ location.hasLatLong = true ∧
      s.mOptInTerrestrialService = 1 then
    (terrestrialFixes location rcs s.mTerrestrialFixTimeoutMap.entries
      s).clearTerrestrialFixes.stopNetworkLocation
  else s

/-! ## Single fixes -/

/-- The request is added, and the tracking session started if there is none; `trackingId` is
what `startTracking` returns. -/
def addSingleFix (clientName : String) (horQoS : CFloat) (trackingId : UInt32) : State :=
  { s with
    mSingleFixReqMap := s.mSingleFixReqMap.insert clientName ⟨horQoS, ⟨s.nextReq, true⟩⟩
    mSingleFixTrackingSessionId :=
      if s.mSingleFixTrackingSessionId = 0 then trackingId else s.mSingleFixTrackingSessionId }

/-- `created` tells whether `createInstance` returned a `LocationAPI`. -/
def getSinglePos (clientName : String) (horQoS : CFloat) (timeoutMsec : UInt32) (created : Bool)
    (trackingId : UInt32) : State :=
  if s.mSingleFixLocationApi = false ∧ created = false then s
  else
    let s := { s with mSingleFixLocationApi := true }.eraseSingleFix clientName
    if horQoS.nonzero ∧ timeoutMsec ≠ 0 then (s.addSingleFix clientName horQoS trackingId).countReq
    else s.stopTrackingSessionForSingleFixes

/-- `sendSingleFusedFix` to the client of this name, if it is there. -/
def sendSingleFix (clientName : String) (err : LocationError) (location : Location)
    (answers : Nat) (rc : Bool) : State :=
  match s.getClient clientName with
  | some pClient => s.sendSingleFusedFix pClient err location answers rc
  | none => s

def singleFixRequestTimeout (clientName : String) (fired : Nat) (rc : Bool) : State :=
  match s.mSingleFixReqMap.lookup clientName with
  | none => s
  | some info =>
    (((s.noteTimeout fired info.timeoutTimer.req).sendSingleFix clientName .timeout
      s.mSingleFixLastLocation info.timeoutTimer.req rc).eraseSingleFix
        clientName).stopTrackingSessionForSingleFixes

/-- The loop over the requests for a single fix. -/
def singleFixes (location : Location) (rcs : String → Bool) :
    List (Sigma fun _ : String => SingleFixReqInfo) → State → State
  | [], s => s
  | ⟨name, info⟩ :: rest, s =>
    if CFloat.lt location.accuracy info.horQoS then
      singleFixes location rcs rest
        ((s.sendSingleFix name .success location info.timeoutTimer.req (rcs name)).eraseSingleFix
          name)
    else singleFixes location rcs rest s

def onGnssLocationInfoCb (location : Location) (rcs : String → Bool) : State :=
  let s := { s with mSingleFixLastLocation := location }
  let s :=
    if location.timestamp ≠ 0 ∧ location.hasLatLong = true ∧ location.hasAccuracy = true then
      singleFixes location rcs s.mSingleFixReqMap.entries s
    else s
  s.stopTrackingSessionForSingleFixes

/-! ## Timers -/

/-- `timeOutCallback` of the timer of a request that is still there; it is not periodic. -/
def timeOutCallback (clientName : String) (timerType : SingleShotTimerType) : State :=
  match timerType with
  | .terrestrial =>
    match s.mTerrestrialFixTimeoutMap.lookup clientName with
    | some ⟨req, true⟩ =>
      { s with
        mTerrestrialFixTimeoutMap :=
          s.mTerrestrialFixTimeoutMap.insert clientName ⟨req, false⟩
        mMsgTask := s.mMsgTask ++ [⟨clientName, .terrestrial, req⟩]
        fired := req :: s.fired }
    | _ => s
  | .fused =>
    match s.mSingleFixReqMap.lookup clientName with
    | some ⟨horQoS, ⟨req, true⟩⟩ =>
      { s with
        mSingleFixReqMap := s.mSingleFixReqMap.insert clientName ⟨horQoS, ⟨req, false⟩⟩
        mMsgTask := s.mMsgTask ++ [⟨clientName, .fused, req⟩]
        fired := req :: s.fired }
    | _ => s

/-- `proc` of the first message that waits for the task. -/
def procMsg (rc : Bool) : State :=
  match s.mMsgTask with
  | [] => s
  | msg :: rest =>
    let s := { s with mMsgTask := rest }
    match msg.mTimerType with
    | .terrestrial => s.gtpFixRequestTimeout msg.mClientName msg.req rc
    | .fused => s.singleFixRequestTimeout msg.mClientName msg.req rc

end State

/-! ## Events -/

inductive Event
  | newClient (clientName : String) (mClientType : ClientType) (ids : Int × Int) (rc : Bool)
  | deleteClient (clientName : String)
  | deleteEapClientByIds (serviceId instanceId : Int)
  /-- `LocationAPI` reports its capabilities to a client. -/
  | capabilitiesCb (clientName : String) (mask : UInt64) (rc : Bool)
  /-- A message of a client's own sessions cannot be sent. -/
  | purge (clientName : String)
  | configRequest (clientName : String) (msgId : ConfigMsgID) (sessionId : UInt32) (rc : Bool)
  | registerXtraStatusUpdate (clientName : String) (sessionId : UInt32) (rc : Bool)
  | deregisterXtraStatusUpdate (clientName : String) (sessionId : UInt32) (rc : Bool)
  | registerGnssSignalTypesUpdate (clientName : String) (rc : Bool)
  | configUserConsent (clientName : String) (userConsent : Int) (created : Bool)
      (sessionId : UInt32) (rc : Bool)
  | getGnssEnergyConsumed (clientName : String)
  | controlResponse (err : LocationError) (sessionId : UInt32) (rc : Bool)
  | controlCollectiveResponse (resp : List (LocationError × UInt32)) (rc : Bool)
  | gnssConfig (sessionId : UInt32) (config : GnssConfig) (rc rc' : Bool) (rcs : String → Bool)
  | gnssSignalTypes (signalType : UInt32) (rcs : String → Bool)
  | gnssEnergyConsumed (total : UInt64) (rcs : String → Bool)
  | performMaintenance (socketDir : String) (rcs : String → Bool)
  | getSingleTerrestrialPos (clientName : String) (rc : Bool)
  | getSinglePos (clientName : String) (horQoS : CFloat) (timeoutMsec : UInt32) (created : Bool)
      (trackingId : UInt32)
  | gtpWwanTracking (location : Location) (rcs : String → Bool)
  | gnssLocationInfo (location : Location) (rcs : String → Bool)
  | timeOut (clientName : String) (timerType : SingleShotTimerType)
  | procMsg (rc : Bool)

/-- The session ids for which an event is a control response. -/
def Event.reports : Event → List UInt32
  | .controlResponse _ sessionId _ => [sessionId]
  | .controlCollectiveResponse resp _ => resp.map Prod.snd
  | .gnssConfig sessionId _ _ _ _ => if sessionId = 0 then [] else [sessionId]
  | _ => []

/-- The state after an event, if the daemon is still there. -/
def next (s : State) : Event → State
  | .newClient clientName mClientType ids rc => s.newClient clientName mClientType ids rc
  | .deleteClient clientName => s.deleteClient clientName
  | .deleteEapClientByIds serviceId instanceId => s.deleteEapClientByIds serviceId instanceId
  | .capabilitiesCb clientName mask rc =>
    match s.getClient clientName with
    | some pClient => s.onCapabilitiesCallback clientName pClient mask rc
    | none => s
  | .purge clientName => s.deleteClientbyName clientName
  | .configRequest clientName msgId sessionId rc => s.configRequest clientName msgId sessionId rc
  | .registerXtraStatusUpdate clientName sessionId rc =>
    s.registerXtraStatusUpdate clientName sessionId rc
  | .deregisterXtraStatusUpdate clientName sessionId rc =>
    s.deregisterXtraStatusUpdate clientName sessionId rc
  | .registerGnssSignalTypesUpdate clientName rc => s.registerGnssSignalTypesUpdate clientName rc
  | .configUserConsent clientName userConsent created sessionId rc =>
    s.configUserConsentTerrestrialPositioning clientName userConsent created sessionId rc
  | .getGnssEnergyConsumed clientName => s.getGnssEnergyConsumed clientName
  | .controlResponse err sessionId rc => s.onControlResponseCallback err sessionId rc
  | .controlCollectiveResponse resp rc => s.onControlCollectiveResponseCallback resp rc
  | .gnssConfig sessionId config rc rc' rcs => s.onGnssConfigCallback sessionId config rc rc' rcs
  | .gnssSignalTypes signalType rcs => s.onGnssSignalTypes signalType rcs
  | .gnssEnergyConsumed total rcs => s.onGnssEnergyConsumedCb total rcs
  | .performMaintenance socketDir rcs => s.performMaintenance socketDir rcs
  | .getSingleTerrestrialPos clientName rc => s.getSingleTerrestrialPos clientName rc
  | .getSinglePos clientName horQoS timeoutMsec created trackingId =>
    s.getSinglePos clientName horQoS timeoutMsec created trackingId
  | .gtpWwanTracking location rcs => s.onGtpWwanTrackingCallback location rcs
  | .gnssLocationInfo location rcs => s.onGnssLocationInfoCb location rcs
  | .timeOut clientName timerType => s.timeOutCallback clientName timerType
  | .procMsg rc => s.procMsg rc

/-- An event begins: it visited no client yet, and is a control response for these ids. -/
def State.noteReports (s : State) (sessionIds : List UInt32) : State :=
  { s with visited := [], reported := s.reported ++ sessionIds }

/-- After undefined behaviour nothing happens any more. -/
def step (s : State) (e : Event) : State :=
  if s.faults = [] then next (s.noteReports e.reports) e else s

end LocationStack.Service
