import LocationStack.Ipc.Messages
import LocationStack.Lib.IdMap

/-! # The daemon and all of its clients

`LocationApiService` keeps the handlers of its clients by name, and beside them what the
clients share: the configuration requests that are under way, the names registered for XTRA
status updates, the single fixes that clients wait for, and the sessions of `LocationAPI`
that serve them.  Clients come and go, also from inside a handler: a client that a message
cannot be sent to is deleted by the method that fails to send it.

An object that is deleted while something still refers to it is undefined behaviour.  It is
recorded (`Fault`), and the daemon does nothing from then on.  What a message carries only
for its receiver is kept as it is; the ghost fields of the state say what happened outside
the daemon and which objects and requests it was about.
-/
namespace LocationStack.Service

open Ipc

/-! ## Data -/

/-- A `float`, as its bits. -/
abbrev CFloat := UInt32

namespace CFloat

def isNaN (x : CFloat) : Bool := x &&& 0x7FFFFFFF > 0x7F800000

/-- A number ordered as the value of `x`, if that is one; both zeros are 0. -/
def rank (x : CFloat) : Int :=
  if x < 0x80000000 then x.toNat else -((x &&& 0x7FFFFFFF).toNat : Int)

/-- `x < y`. -/
def lt (x y : CFloat) : Bool := !isNaN x && !isNaN y && rank x < rank y

/-- `x != 0.0`. -/
def nonzero (x : CFloat) : Bool := rank x ≠ 0

end CFloat

/-- `Location`: two bits of its flags, the time, and the values that they tell about. -/
structure Location where
  hasLatLong : Bool
  hasAccuracy : Bool
  timestamp : UInt64
  latitude : UInt64
  longitude : UInt64
  accuracy : CFloat
  deriving DecidableEq

/-- `Location location = {}`. -/
def Location.zero : Location := ⟨false, false, 0, 0, 0, 0⟩

/-- The members of `ELocMsgID` that a client of the location integration API asks with. -/
inductive ConfigMsgID
  | configConstrainedTunc
  | configPositionAssistedClockEstimator
  | configSvConstellation
  | configAidingDataDeletion
  | configLeverArm
  | configRobustLocation
  | configMinGpsWeek
  | configDeadReckoningEngine
  | configMinSvElevation
  | configConstellationSecondaryBand
  | configEngineRunState
  | configUserConsentTerrestrialPositioning
  | configOutputNmeaTypes
  | configEngineIntegrityRisk
  | configXtraParams
  | configMerkleTree
  | configOsnmaEnablement
  | configMapMatchedFeedback
  | configXtraUserConsent
  | getRobustLocationConfigReq
  | getMinGpsWeekReq
  | getMinSvElevationReq
  | getConstellationSecondaryBandConfigReq
  | getXtraStatusReq
  | registerXtraStatusUpdateReq
  | deregisterXtraStatusUpdateReq
  | registerGnssSignalTypesUpdateReq
  deriving DecidableEq

/-- `XtraStatus`. -/
structure XtraStatus where
  featureEnabled : Bool
  xtraDataStatus : UInt32
  xtraValidForHours : UInt32
  userConsentStatus : Bool
  deriving DecidableEq

/-- `XtraStatusUpdateType`. -/
inductive XtraStatusUpdateType
  | uponQuery
  | uponRegistration
  | uponStatusChange
  deriving DecidableEq

/-- `GnssConfig`: the values whose bit of `flags` is set. -/
structure GnssConfig where
  robustLocationConfig : Option UInt64
  minGpsWeek : Option UInt16
  minSvElevation : Option UInt8
  secondaryBandConfig : Option UInt64
  xtraStatus : Option XtraStatus
  deriving DecidableEq

/-- What the daemon sends to its clients here. -/
inductive Msg
  | capabilities (mask : UInt64)
  | genericResp (msgId : ConfigMsgID) (err : LocationError)
  | robustLocationConfig (config : UInt64)
  | minGpsWeek (week : UInt16)
  | minSvElevation (elevation : UInt8)
  | secondaryBandConfig (config : UInt64)
  | xtraStatus (updateType : XtraStatusUpdateType) (status : XtraStatus)
  | gnssSignalTypes (mask : UInt32)
  | gnssEnergyConsumed (total : UInt64)
  | pingTest
  | singlePos (err : LocationError) (location : Location)
  | singleTerrestrialPos (err : LocationError) (location : Location)
  deriving DecidableEq

/-! ## The state -/

/-- `LocHalDaemonClientHandler`, as far as it matters to the other clients.  `id` numbers
the objects: a client that registers again under an old name is a new one. -/
structure Client where
  id : Nat
  mServiceId : Int
  mInstanceId : Int
  /-- `mLocationApi` is not null. -/
  mLocationApi : Bool
  mCapabilityMask : UInt64
  /-- `E_ENGINE_INFO_CB_GNSS_ENERGY_CONSUMED_BIT` of `mEngineInfoRequestMask`. -/
  mEngineInfoRequestMask : Bool
  deriving DecidableEq

/-- `ConfigReqClientData`. -/
structure ConfigReqClientData where
  clientName : String
  configMsgId : ConfigMsgID
  deriving DecidableEq

/-- `SingleShotTimerType`. -/
inductive SingleShotTimerType
  | terrestrial
  | fused
  deriving DecidableEq

/-- `SingleFixTimer`: the request it was started for, and whether it still runs. -/
structure SingleFixTimer where
  req : Nat
  running : Bool
  deriving DecidableEq

/-- `SingleFixReqInfo`. -/
structure SingleFixReqInfo where
  horQoS : CFloat
  timeoutTimer : SingleFixTimer
  deriving DecidableEq

/-- `SingleFixTimeoutReq`, with the request whose timer made it, which it does not carry. -/
structure SingleFixTimeoutReq where
  mClientName : String
  mTimerType : SingleShotTimerType
  req : Nat
  deriving DecidableEq

/-- Undefined behaviour. -/
inductive Fault
  /-- An iterator is advanced after its element was erased. -/
  | erasedIterator
  /-- A method is invoked on a handler that was freed. -/
  | freedHandler
  /-- A method is invoked on a null `ILocationAPI`. -/
  | nullLocationApi
  deriving DecidableEq

/-- A message that reached a client: which object of the daemon sent it, and the session id
or the request that it answers. -/
structure Sent where
  client : Nat
  msg : Msg
  answers : Nat
  deriving DecidableEq

/-- An accepted configuration request: its session id, the name that made it and the client
behind it if there was one, and its message id. -/
structure ConfigRequest where
  sessionId : UInt32
  clientName : String
  client : Option Nat
  msgId : ConfigMsgID
  deriving DecidableEq

structure State where
  mClients : IdMap.Map String Client
  mConfigReqs : IdMap.Map UInt32 ConfigReqClientData
  mClientsRegForXtraStatus : List String
  mOptInTerrestrialService : Int
  /-- `mGtpWwanSsLocationApi` is not null. -/
  mGtpWwanSsLocationApi : Bool
  mTerrestrialFixTimeoutMap : IdMap.Map String SingleFixTimer
  /-- `mSingleFixLocationApi` is not null. -/
  mSingleFixLocationApi : Bool
  mSingleFixTrackingSessionId : UInt32
  mSingleFixReqMap : IdMap.Map String SingleFixReqInfo
  mSingleFixLastLocation : Location
  /-- The messages of `mMsgTask` that wait. -/
  mMsgTask : List SingleFixTimeoutReq
  /-- `getGnssInterface` does not return null. -/
  gnssInterface : Bool
  /-- Network location was started, and not stopped. -/
  networkLocation : Bool
  /-- The last value given to `gnssRegisterXtraStatusUpdate`, `false` before the first. -/
  xtraStatusUpdate : Bool
  /-- The number of the next client, and of the next single fix. -/
  nextClient : Nat
  nextReq : Nat
  /-- The clients whose handlers were freed. -/
  freed : List Nat
  faults : List Fault
  /-- The names whose clients the last callback visited. -/
  visited : List String
  sent : List Sent
  configRequests : List ConfigRequest
  /-- The session ids that a control response was reported for. -/
  reported : List UInt32
  /-- The clients that registered for XTRA status updates, and did not deregister. -/
  xtraClients : List Nat
  /-- The clients that were sent an XTRA status update without that. -/
  unaskedXtra : List Nat
  /-- The single fixes whose timer fired. -/
  fired : List Nat
  /-- For a timeout that ended a request: the request whose timer fired, and the one that
  ended. -/
  timedOut : List (Nat × Nat)

/-- The daemon has no clients yet. -/
def State.init (gnssInterface : Bool) : State :=
  { mClients := ∅
    mConfigReqs := ∅
    mClientsRegForXtraStatus := []
    mOptInTerrestrialService := -1
    mGtpWwanSsLocationApi := false
    mTerrestrialFixTimeoutMap := ∅
    mSingleFixLocationApi := false
    mSingleFixTrackingSessionId := 0
    mSingleFixReqMap := ∅
    mSingleFixLastLocation := .zero
    mMsgTask := []
    gnssInterface := gnssInterface
    networkLocation := false
    xtraStatusUpdate := false
    nextClient := 0
    nextReq := 0
    freed := []
    faults := []
    visited := []
    sent := []
    configRequests := []
    reported := []
    xtraClients := []
    unaskedXtra := []
    fired := []
    timedOut := [] }

namespace State

variable (s : State)

/-- `getClient`. -/
def getClient (name : String) : Option Client := s.mClients.lookup name

def fault (f : Fault) : State := { s with faults := s.faults ++ [f] }

/-! ## Deleting a client -/

/-- `stopTrackingSessionForSingleFixes`. -/
def stopTrackingSessionForSingleFixes : State :=
  if s.mSingleFixReqMap.keys = [] then
    { s with
      mSingleFixLastLocation := .zero
      mSingleFixTrackingSessionId :=
        if s.mSingleFixLocationApi && s.mSingleFixTrackingSessionId != 0 then 0
        else s.mSingleFixTrackingSessionId }
  else s

/-- `mSingleFixReqMap.erase`. -/
def eraseSingleFix (name : String) : State :=
  { s with mSingleFixReqMap := s.mSingleFixReqMap.erase name }

/-- `mGtpWwanSsLocationApi->startNetworkLocation`. -/
def startNetworkLocation : State :=
  if s.mGtpWwanSsLocationApi then { s with networkLocation := true }
  else s.fault .nullLocationApi

/-- `mGtpWwanSsLocationApi->stopNetworkLocation`. -/
def stopNetworkLocation : State :=
  if s.mGtpWwanSsLocationApi then { s with networkLocation := false }
  else s.fault .nullLocationApi

/-- `mTerrestrialFixTimeoutMap.erase`, and `stopNetworkLocation` if that erased the last. -/
def eraseTerrestrialFix (name : String) : State :=
  if name ∈ s.mTerrestrialFixTimeoutMap then
    let s := { s with mTerrestrialFixTimeoutMap := s.mTerrestrialFixTimeoutMap.erase name }
    if s.mTerrestrialFixTimeoutMap.keys = [] then s.stopNetworkLocation else s
  else s

/-- `cleanup`: without a `LocationAPI` to destroy first, the handler is freed at once. -/
def cleanup (c : Client) : State :=
  if c.mLocationApi then s else { s with freed := c.id :: s.freed }

def deleteClientbyName (clientname : String) : State :=
  match s.getClient clientname with
  | none => s
  | some pClient =>
    (({ s with mClients := s.mClients.erase clientname }.eraseTerrestrialFix
      clientname).eraseSingleFix clientname).stopTrackingSessionForSingleFixes.cleanup pClient

/-! ## Methods of a handler -/

/-- `sendMessage` without an answer to its failure. -/
def deliver (c : Client) (msg : Msg) (answers : Nat) (rc : Bool) : State :=
  if rc then { s with sent := s.sent ++ [⟨c.id, msg, answers⟩] } else s

/-- `sendMessage`, and the purge of the client if it failed. -/
def sendOrPurge (name : String) (c : Client) (msg : Msg) (answers : Nat) (rc : Bool) : State :=
  if rc then s.deliver c msg answers true else s.deleteClientbyName name

/-- `mIpcSender` of the handler is not null: `cleanup` clears it. -/
def hasSender (name : String) (c : Client) : Bool := (s.getClient name).any (·.id == c.id)

/-- A method of a handler that has a message to send, if there is one and its sender is not
null. -/
def method (name : String) (c : Client) (msg : Option Msg) (answers : Nat) (rc : Bool) : State :=
  if c.id ∈ s.freed then s.fault .freedHandler
  else
    match msg with
    | none => s
    | some msg => if s.hasSender name c then s.sendOrPurge name c msg answers rc else s

def onControlResponseCb (name : String) (c : Client) (err : LocationError)
    (msgId : ConfigMsgID) (answers : Nat) (rc : Bool) : State :=
  s.method name c (some (.genericResp msgId err)) answers rc

/-- The message that answers a request for a configuration value. -/
def configMsg (configMsgId : ConfigMsgID) (gnssConfig : GnssConfig) : Option Msg :=
  match configMsgId with
  | .getRobustLocationConfigReq => gnssConfig.robustLocationConfig.map .robustLocationConfig
  | .getMinGpsWeekReq => gnssConfig.minGpsWeek.map .minGpsWeek
  | .getMinSvElevationReq => gnssConfig.minSvElevation.map .minSvElevation
  | .getConstellationSecondaryBandConfigReq =>
    gnssConfig.secondaryBandConfig.map .secondaryBandConfig
  | .getXtraStatusReq => gnssConfig.xtraStatus.map (.xtraStatus .uponQuery)
  | .registerXtraStatusUpdateReq => gnssConfig.xtraStatus.map (.xtraStatus .uponRegistration)
  | _ => none

def onGnssConfigCb (name : String) (c : Client) (configMsgId : ConfigMsgID)
    (gnssConfig : GnssConfig) (rc : Bool) : State :=
  s.method name c (configMsg configMsgId gnssConfig) 0 rc

def onXtraStatusUpdateCb (name : String) (c : Client) (status : XtraStatus) (rc : Bool) : State :=
  s.method name c (some (.xtraStatus .uponStatusChange status)) 0 rc

def onGnssSignalTypesCb (signalType : UInt32) (rc : Bool) (name : String) (c : Client) : State :=
  s.method name c (some (.gnssSignalTypes signalType)) 0 rc

/-- The handler with this name is written back after one of its fields has changed. -/
def setClient (name : String) (c : Client) : State :=
  { s with mClients := s.mClients.insert name c }

/-- The bit of the request is cleared between the send and the purge. -/
def onGnssEnergyConsumedInfoAvailable (total : UInt64) (rc : Bool) (name : String)
    (c : Client) : State :=
  if c.id ∈ s.freed then s.fault .freedHandler
  else if s.hasSender name c && c.mEngineInfoRequestMask then
    (s.setClient name { c with mEngineInfoRequestMask := false }).sendOrPurge name c
      (.gnssEnergyConsumed total) 0 rc
  else s

def sendCapabilitiesMsg (name : String) (c : Client) (rc : Bool) : State :=
  s.method name c (if c.mCapabilityMask = 0 then none else some (.capabilities c.mCapabilityMask))
    0 rc

/-- A callback of `LocationAPI`, which is not gone before its `destroy`. -/
def onCapabilitiesCallback (name : String) (c : Client) (mask : UInt64) (rc : Bool) : State :=
  if mask = c.mCapabilityMask then s
  else
    let c := { c with mCapabilityMask := mask }
    (s.setClient name c).sendCapabilitiesMsg name c rc

/-- `sendTerrestrialFix` and `sendSingleFusedFix` do not purge. -/
def sendTerrestrialFix (c : Client) (err : LocationError) (location : Location) (answers : Nat)
    (rc : Bool) : State :=
  if c.id ∈ s.freed then s.fault .freedHandler
  else s.deliver c (.singleTerrestrialPos err location) answers rc

def sendSingleFusedFix (c : Client) (err : LocationError) (location : Location) (answers : Nat)
    (rc : Bool) : State :=
  if c.id ∈ s.freed then s.fault .freedHandler
  else s.deliver c (.singlePos err location) answers rc

/-! ## Registration -/

/-- A name that is registered gets its capabilities again.  `ids` is what the name of a client
on another processor tells. -/
def newClient (clientname : String) (mClientType : ClientType) (ids : Int × Int) (rc : Bool) :
    State :=
  match s.getClient clientname with
  | some pClient => s.sendCapabilitiesMsg clientname pClient rc
  | none =>
    { s.setClient clientname
        { id := s.nextClient
          mServiceId := ids.1
          mInstanceId := ids.2
          mLocationApi := mClientType == .locationClientApi
          mCapabilityMask := 0
          mEngineInfoRequestMask := false } with
      nextClient := s.nextClient + 1 }

def deleteClient (clientname : String) : State := s.deleteClientbyName clientname

/-- `getClientNameByIds`. -/
def getClientNameByIds (id1 id2 : Int) : Option String :=
  (s.mClients.entries.find? fun e => e.2.mServiceId == id1 && e.2.mInstanceId == id2).map (·.1)

def deleteEapClientByIds (serviceId instanceId : Int) : State :=
  match s.getClientNameByIds serviceId instanceId with
  | some clientName => s.deleteClientbyName clientName
  | none => s

end State
end LocationStack.Service
