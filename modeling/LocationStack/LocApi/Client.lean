import LocationStack.LocApi.EventMask
import LocationStack.Lib.EventRun

/-! # The client of the modem

`LocApiV02` registers with the modem the events that it wants to be told of, and sends it requests.
The modem may answer a request that the engine is busy; the request then waits, and is sent again
when the engine is off.  Everything is done by one thread, an event at a time.

`answers n` is the modem's answer to the `n`-th message that it is sent.  Some of the state is
beside the object: the events that the modem has registered, whether a registration failed since
the mask changed last, the requests that the modem accepted, those that it did not refuse, those
that it put off, and those of them that it accepted later.
-/
namespace LocationStack.LocApi

open EventRun

/-! ## State -/

inductive GnssSuplMode
  | standalone | msb | msa
  deriving Repr, DecidableEq

/-- What `locSyncSendReq` is called with; those that are named are sent while the mask is
registered, or a client opened, or a session started. -/
inductive Request
  | registerMasterClient
  | setGnssConstRepConfig (measReportConfig svPolyReportConfig : Bool)
  | notifyWifiStatus
  | queryAonConfig
  | getSupportedFeature
  | getEngineLock
  | setOperationMode (operationMode : GnssSuplMode)
  | other (reqId : Nat) (payload : List UInt8)
  deriving Repr, DecidableEq

/-- The modem's answer to a message. -/
inductive Answer
  | accepted | engineBusy | unsupported | failed
  deriving Repr, DecidableEq

/-- `LocApiV02`, with whether the client handle is valid. -/
structure LocApiV02 where
  clientHandle : Bool
  mExcludedMask : Flags LocApiAdapterBit
  mMask : Flags LocApiAdapterBit
  mQmiMask : LocClientEventMaskType
  mInSession : Bool
  mEngineOn : Bool
  mPlatformPowerState : PlatformPowerState
  mResenders : List Request
  mMasterRegisterNotSupported : Bool

/-- The constructor. -/
def LocApiV02.new (mExcludedMask : Flags LocApiAdapterBit) : LocApiV02 where
  clientHandle := false
  mExcludedMask := mExcludedMask
  mMask := fun _ => false
  mQmiMask := fun _ => false
  mInSession := false
  mEngineOn := false
  mPlatformPowerState := .unknown
  mResenders := []
  mMasterRegisterNotSupported := false

/-- The object and the modem. -/
structure Sys where
  api : LocApiV02
  capabilities : Capabilities
  /-- How many messages the modem was sent. -/
  sent : Nat
  registered : LocClientEventMaskType
  regFailed : Bool
  accepted : List Request
  issued : List Request
  deferred : List Request
  replayed : List Request

def Sys.init (mExcludedMask : Flags LocApiAdapterBit) (capabilities : Capabilities) : Sys where
  api := .new mExcludedMask
  capabilities := capabilities
  sent := 0
  registered := fun _ => false
  regFailed := false
  accepted := []
  issued := []
  deferred := []
  replayed := []

inductive Event
  /-- The client is opened with a mask, or gets another; what the modem supports is found out by a
  client that was not open. -/
  | openMask (mask : Flags LocApiAdapterBit) (batching : Bool) (capabilities : Capabilities)
  | close
  | startTimeBasedTracking (mode : GnssSuplMode)
  | stopTimeBasedTracking
  | engineState (engineOn : Bool)
  | powerState (newPowerState : PlatformPowerState)
  /-- Any other call that sends a request. -/
  | request (r : Request)

namespace Sys

variable (platform : Platform) (answers : Nat → Answer)

/-! ## Messages -/

/-- A message is sent; one without a valid handle fails. -/
def send (s : Sys) : Answer × Sys :=
  (if s.api.clientHandle then answers s.sent else .failed, { s with sent := s.sent + 1 })

def locClientSendReq (s : Sys) : Bool × Sys :=
  let (answer, s) := s.send answers
  (answer == .accepted, s)

def locClientRegisterEventMask (s : Sys) (eventRegMask : LocClientEventMaskType) : Bool × Sys :=
  let (ok, s) := s.locClientSendReq answers
  (ok, { s with
    registered := if ok then eventRegMask else s.registered
    regFailed := s.regFailed || !ok })

/-- `loc_sync_send_req` -/
def syncSendReq (s : Sys) (r : Request) : Answer × Sys :=
  let (answer, s) := s.send answers
  (answer, { s with accepted := if answer = .accepted then s.accepted ++ [r] else s.accepted })

/-- One more event, besides those of a mask. -/
def addEvent (event : QmiLocEvent) (mask : LocClientEventMaskType) : LocClientEventMaskType :=
  fun e => e == event || mask e

/-- Nothing waits yet, and the engine's state is not registered. -/
def needsEngineState (s : Sys) : Bool :=
  s.api.mPlatformPowerState.isResumed && s.api.mResenders.isEmpty &&
    !s.api.mQmiMask .engineState

/-- A request that the engine is too busy for waits.  The first one that waits registers the
engine's state by itself, and `mQmiMask` does not tell. -/
def locSyncSendReq (s : Sys) (r : Request) : Answer × Sys :=
  let (answer, s) := s.syncSendReq answers r
  match answer with
  | .engineBusy =>
    let s := if s.needsEngineState then
      (s.locClientRegisterEventMask answers (addEvent .engineState s.api.mQmiMask)).2 else s
    (answer, { s with
      api := { s.api with mResenders := s.api.mResenders ++ [r] }
      issued := s.issued ++ [r]
      deferred := s.deferred ++ [r] })
  | .accepted => (answer, { s with issued := s.issued ++ [r] })
  | .unsupported | .failed => (answer, s)

/-! ## Registration -/

def maskState (s : Sys) : MaskState where
  mInSession := s.api.mInSession
  mEngineOn := s.api.mEngineOn
  mPlatformPowerState := s.api.mPlatformPowerState
  waiting := !s.api.mResenders.isEmpty

/-- The mask that should be registered. -/
def qmiMask (s : Sys) : LocClientEventMaskType :=
  adjustLocClientEventMask platform s.capabilities s.maskState
    (convertLocClientEventMask s.capabilities s.api.mMask)

def setSvMeasurementConstellation (s : Sys) (mask : LocClientEventMaskType) : Sys :=
  (s.locSyncSendReq answers (.setGnssConstRepConfig
    (mask .gnssMeasurementReport || mask .gnssNhzMeasurementReport ||
      s.api.mMasterRegisterNotSupported)
    (mask .gnssSvPolynomialReport))).2

def wifiStatusInformSync (s : Sys) : Sys := (s.locSyncSendReq answers .notifyWifiStatus).2

/-- The requests that go with a mask that was registered. -/
def informModem (s : Sys) (qmiMask : LocClientEventMaskType) : Sys :=
  let mQmiMask := s.api.mQmiMask
  let s := if qmiMask .wifiReq && !mQmiMask .wifiReq then s.wifiStatusInformSync answers else s
  if platform.isMaster && qmiMask .gnssSvPolynomialReport != mQmiMask .gnssSvPolynomialReport then
    s.setSvMeasurementConstellation answers fun event =>
      match event with
      | .gnssMeasurementReport | .gnssNhzMeasurementReport =>
        s.capabilities.gnssConstellationConfig
      | event => qmiMask event
  else s

def registerEventMask (s : Sys) : Sys :=
  let qmiMask := s.qmiMask platform
  if qmiMask = s.api.mQmiMask then s
  else
    let (ok, s) := s.locClientRegisterEventMask answers qmiMask
    if ok then
      let s := s.informModem platform answers qmiMask
      { s with api := { s.api with mQmiMask := qmiMask } }
    else s

/-! ## Calls and events -/

/-- A client without a handle connects, and registers no event. -/
def locClientOpen (s : Sys) : Bool × Sys :=
  let connected := answers s.sent == .accepted
  let s := { s with sent := s.sent + 1 }
  if connected then
    let opened : Sys := { s with api := { s.api with clientHandle := true } }
    let (ok, opened) := opened.locClientRegisterEventMask answers fun _ => false
    (ok, { opened with api := { opened.api with clientHandle := ok } })
  else (false, s)

def registerMasterClient (s : Sys) : Sys :=
  let (answer, s) := s.locSyncSendReq answers .registerMasterClient
  if answer = .accepted then s
  else { s with api := { s.api with mMasterRegisterNotSupported := answer == .unsupported } }

def cacheGnssMeasurementSupport (s : Sys) : Sys :=
  s.setSvMeasurementConstellation answers fun event =>
    event == .gnssMeasurementReport || event == .gnssNhzMeasurementReport

/-- What a client asks the modem when it is opened, and whether the check of the supported
messages succeeded. -/
def exploreModem (s : Sys) (batching : Bool) (capabilities : Capabilities) : Bool × Sys :=
  let s := if platform.isMaster then
    (s.registerMasterClient answers).cacheGnssMeasurementSupport answers else s
  let (checked, s) := s.locClientSendReq answers
  let s := if checked && batching then (s.locSyncSendReq answers .queryAonConfig).2 else s
  let s := (s.locSyncSendReq answers .getSupportedFeature).2
  let s := { s with capabilities := capabilities }
  (checked, (s.locSyncSendReq answers .getEngineLock).2)

/-- `open`, up to the registration of the mask, and whether it comes to that. -/
def beforeRegister (s : Sys) (batching : Bool) (capabilities : Capabilities) : Bool × Sys :=
  if s.api.clientHandle then (true, s)
  else
    let (opened, s) := s.locClientOpen answers
    if opened then s.exploreModem platform answers batching capabilities
    else (false, { s with
      api := { s.api with mMask := fun _ => false, mQmiMask := fun _ => false } })

def setMask (s : Sys) (mask : Flags LocApiAdapterBit) : Sys :=
  { s with api := { s.api with mMask := fun bit => mask bit && !s.api.mExcludedMask bit } }

def openMask (s : Sys) (mask : Flags LocApiAdapterBit) (batching : Bool)
    (capabilities : Capabilities) : Sys :=
  let (ok, s) := s.beforeRegister platform answers batching capabilities
  if ok then (s.setMask mask).registerEventMask platform answers else s

def close (s : Sys) : Sys :=
  { s with
    api := { s.api with
      clientHandle := false
      mMask := fun _ => false
      mQmiMask := fun _ => false
      mInSession := false } }

def setInSession (s : Sys) (mInSession : Bool) : Sys :=
  { s with api := { s.api with mInSession := mInSession } }

def startTimeBasedTracking (s : Sys) (mode : GnssSuplMode) : Sys :=
  let s := (s.setInSession true).registerEventMask platform answers
  let s := (s.locSyncSendReq answers (.setOperationMode mode)).2
  (s.locClientSendReq answers).2

def stopTimeBasedTracking (s : Sys) : Sys :=
  let (ok, s) := s.locClientSendReq answers
  if ok then (s.setInSession false).registerEventMask platform answers else s

/-- What waits is sent again, each request once; the answers are ignored. -/
def resend (s : Sys) : List Request → Sys
  | [] => s
  | r :: rest =>
    let (answer, s) := s.syncSendReq answers r
    resend { s with
      replayed := if answer = .accepted then s.replayed ++ [r] else s.replayed } rest

/-- The engine is off: what waits is sent again. -/
def flushed (s : Sys) : Sys :=
  let s := s.resend answers s.api.mResenders
  { s with api := { s.api with mResenders := [], mEngineOn := false } }

def reportEngineState (s : Sys) (engineOn : Bool) : Sys :=
  if engineOn then { s with api := { s.api with mEngineOn := true } }
  else (s.flushed answers).registerEventMask platform answers

def setPowerState (s : Sys) (newPowerState : PlatformPowerState) : Sys :=
  { s with api := { s.api with mPlatformPowerState := newPowerState } }

def act (s : Sys) : Event → Sys
  | .openMask mask batching capabilities =>
    s.openMask platform answers mask batching capabilities
  | .close => s.close
  | .startTimeBasedTracking mode => s.startTimeBasedTracking platform answers mode
  | .stopTimeBasedTracking => s.stopTimeBasedTracking platform answers
  | .engineState engineOn => s.reportEngineState platform answers engineOn
  | .powerState newPowerState =>
    (s.setPowerState newPowerState).registerEventMask platform answers
  | .request r => (s.locSyncSendReq answers r).2

/-- An event.  A registration that failed before does not matter any more once the mask has
changed. -/
def step (s : Sys) (e : Event) : Sys :=
  let s' := ({ s with regFailed := false } : Sys).act platform answers e
  { s' with
    regFailed := s'.regFailed || s.regFailed && s'.qmiMask platform = s.qmiMask platform }

end Sys
end LocationStack.LocApi
