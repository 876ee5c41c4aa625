import LocationStack.Integration.Requests
import LocationStack.Lib.IdMap

/-! # The client object of the integration API

Before the client is registered with the daemon its messages are queued; afterwards they are
sent at once.  How many requests of a type still expect a response is counted.  What was asked
for last is kept, to be sent again when the daemon says that it is ready once more.

A task of the message loop sends some messages, and each of them may fail: `sends n` tells
whether the `n`-th message of the task is sent.  A message is marked with the request that it
is for.  The object does not read the mark.
-/
namespace LocationStack.Integration

open PbConv

variable {h : Header}

/-! ## Messages -/

/-- A request that expects a response, with its number. -/
structure Ticket (h : Header) where
  id : Nat
  request : Request h
  sXtraTestEnabled : UInt32
  expects : request.configType ≠ .zero

def Ticket.configType (t : Ticket h) : LocConfigTypeEnum := t.request.configType

def Ticket.payload (t : Ticket h) : Payload h := t.request.payload t.sXtraTestEnabled

/-- A message to the daemon; only that of a request is marked. -/
structure Message (h : Header) where
  payload : Payload h
  ticket : Option (Ticket h)
  same : ∀ t ∈ ticket, payload = t.payload

/-- A message that is for no request. -/
def Message.unmarked (payload : Payload h) : Message h := ⟨payload, none, nofun⟩

/-- The message of a request. -/
def Message.ofTicket (t : Ticket h) : Message h :=
  ⟨t.payload, some t, fun _ ht => Option.some.inj ht ▸ rfl⟩

structure ProtoMsgInfo (h : Header) where
  configType : LocConfigTypeEnum
  proto : Message h

/-- A call of `configCb`. -/
structure ConfigCb where
  configType : LocConfigTypeEnum
  response : LocIntegrationResponse
  deriving Repr, DecidableEq

/-! ## What is kept -/

/-- One flag says that the constellations or the secondary bands were configured. -/
structure SvConfigInfo where
  isValid : Bool
  constellationEnablementConfig : GnssSvTypeConfig
  blacklistSvConfig : GnssSvIdConfig
  secondaryBandConfig : GnssSvTypeConfig

def GnssSvTypeConfig.zero : GnssSvTypeConfig := ⟨true, fun _ => false, fun _ => false⟩

def SvConfigInfo.zero : SvConfigInfo :=
  ⟨false, GnssSvTypeConfig.zero, ⟨0, 0, 0, 0, 0, 0, 0⟩, GnssSvTypeConfig.zero⟩

def LeverArmConfigInfo.zero : LeverArmConfigInfo :=
  ⟨fun _ => false, ⟨0, 0, 0⟩, ⟨0, 0, 0⟩, ⟨0, 0, 0⟩⟩

/-- Engine masks are keys of maps. -/
instance : DecidableEq (Flags PositioningEngineFlag) := fun m m' =>
  decidable_of_iff (m .standardPositioning = m' .standardPositioning ∧
      m .deadReckoning = m' .deadReckoning ∧ m .precisePositioning = m' .precisePositioning ∧
        m .vpPositioning = m' .vpPositioning)
    ⟨fun ⟨hspe, hdre, hppe, hvpe⟩ => funext fun f => by cases f <;> assumption,
      fun heq => heq ▸ ⟨rfl, rfl, rfl, rfl⟩⟩

/-- `LocationIntegrationApiImpl`.  A record with a flag that only says whether it is valid is an
option here. -/
structure LocationIntegrationApiImpl (h : Header) where
  mHalRegistered : Bool
  mTuncConfigInfo : Option ConstrainedTunc
  mPaceConfigInfo : Option Bool
  mSvConfigInfo : SvConfigInfo
  mLeverArmConfigInfo : LeverArmConfigInfo
  mRobustLocationConfigInfo : Option RobustLocationReq
  mDreConfigInfo : Option DeadReckoningEngineConfig
  mEngRunStateConfigMap : IdMap.Map (Flags PositioningEngineFlag) LocEngineRunState
  mEngIntegrityRiskConfigMap : IdMap.Map (Flags PositioningEngineFlag) UInt32
  mGtpUserConsentConfigInfo : Option Bool
  mNmeaConfigInfo : Option OutputNmeaTypesReq
  mRegisterXtraUpdate : Bool
  /-- The map from types to 32-bit counts. -/
  mConfigReqCntMap : LocConfigTypeEnum → Option Int
  mIntegrationCbs : LocIntegrationCbs
  mQueuedMsg : List (ProtoMsgInfo h)
  sXtraTestEnabled : UInt32

namespace LocationIntegrationApiImpl

/-- The constructor. -/
def new (mIntegrationCbs : LocIntegrationCbs) (sXtraTestEnabled : UInt32) :
    LocationIntegrationApiImpl h where
  mHalRegistered := false
  mTuncConfigInfo := none
  mPaceConfigInfo := none
  mSvConfigInfo := .zero
  mLeverArmConfigInfo := LeverArmConfigInfo.zero
  mRobustLocationConfigInfo := none
  mDreConfigInfo := none
  mEngRunStateConfigMap := ∅
  mEngIntegrityRiskConfigMap := ∅
  mGtpUserConsentConfigInfo := none
  mNmeaConfigInfo := none
  mRegisterXtraUpdate := false
  mConfigReqCntMap := fun _ => none
  mIntegrationCbs := mIntegrationCbs
  mQueuedMsg := []
  sXtraTestEnabled := sXtraTestEnabled

/-- What the task of a request keeps, once its message was sent or queued. -/
def cache (impl : LocationIntegrationApiImpl h) : Request h → LocationIntegrationApiImpl h
  | .configConstellations constellationEnablementConfig blacklistSvConfig =>
    { impl with
      mSvConfigInfo :=
        { impl.mSvConfigInfo with
          isValid := true
          constellationEnablementConfig := constellationEnablementConfig
          blacklistSvConfig := blacklistSvConfig } }
  | .configConstellationSecondaryBand secondaryBandConfig =>
    { impl with
      mSvConfigInfo :=
        { impl.mSvConfigInfo with isValid := true, secondaryBandConfig := secondaryBandConfig } }
  | .configConstrainedTimeUncertainty enable tuncThreshold energyBudget =>
    { impl with mTuncConfigInfo := some ⟨enable, tuncThreshold, energyBudget⟩ }
  | .configPositionAssistedClockEstimator enable => { impl with mPaceConfigInfo := some enable }
  | .configLeverArm configInfo => { impl with mLeverArmConfigInfo := configInfo }
  | .configRobustLocation enable enableForE911 =>
    { impl with mRobustLocationConfigInfo := some ⟨enable, enableForE911⟩ }
  | .configDeadReckoningEngineParams dreConfig => { impl with mDreConfigInfo := some dreConfig }
  | .configEngineRunState engType engState =>
    { impl with mEngRunStateConfigMap := impl.mEngRunStateConfigMap.insert engType engState }
  | .setUserConsentForTerrestrialPositioning userConsent =>
    { impl with mGtpUserConsentConfigInfo := some userConsent }
  | .configOutputNmeaTypes enabledNmeaTypes nmeaDatumType locReqEngMask =>
    { impl with mNmeaConfigInfo := some ⟨enabledNmeaTypes, nmeaDatumType, locReqEngMask⟩ }
  | .configEngineIntegrityRisk engType integrityRisk =>
    { impl with
      mEngIntegrityRiskConfigMap := impl.mEngIntegrityRiskConfigMap.insert engType integrityRisk }
  | .registerXtraStatusUpdate registerUpdate => { impl with mRegisterXtraUpdate := registerUpdate }
  | _ => impl

/-- A 32-bit count. -/
def int32 (n : Int) : Int := n.bmod (2 ^ 32)

def addConfigReq (impl : LocationIntegrationApiImpl h) (configType : LocConfigTypeEnum) :
    LocationIntegrationApiImpl h :=
  { impl with
    mConfigReqCntMap := Function.update impl.mConfigReqCntMap configType
      (match impl.mConfigReqCntMap configType with
        | none => some 1
        | some reqCnt => some (int32 (reqCnt + 1))) }

/-- The messages for what is kept, the kinds in the order in which they are sent again. -/
def cachedMessages (impl : LocationIntegrationApiImpl h) :
    List (List (LocConfigTypeEnum × Payload h)) :=
  [if impl.mSvConfigInfo.isValid then
    [(.configConstellations, .configSvConstellationReq
      ⟨impl.mSvConfigInfo.constellationEnablementConfig, impl.mSvConfigInfo.blacklistSvConfig⟩)]
    else [],
  if impl.mSvConfigInfo.secondaryBandConfig.sizeIsZero = false then
    [(.configConstellationSecondaryBand,
      .configConstellationSecondaryBandReq impl.mSvConfigInfo.secondaryBandConfig)]
    else [],
  impl.mTuncConfigInfo.toList.map fun tunc =>
    (.configConstrainedTimeUncertainty, .configConstrainedTuncReq tunc),
  impl.mPaceConfigInfo.toList.map fun enable =>
    (.configPositionAssistedClockEstimator, .configPositionAssistedClockEstimatorReq enable),
  if LeverArmConfigInfo.anyValid impl.mLeverArmConfigInfo then
    [(.configLeverArm, .configLeverArmReq impl.mLeverArmConfigInfo)]
    else [],
  impl.mRobustLocationConfigInfo.toList.map fun req =>
    (.configRobustLocation, .configRobustLocationReq req),
  impl.mDreConfigInfo.toList.map fun dreConfig =>
    (.configDeadReckoningEngine, .configDrEngineParamsReq dreConfig),
  impl.mGtpUserConsentConfigInfo.toList.map fun userConsent =>
    (.configUserConsentTerrestrialPositioning,
      .configUserConsentTerrestrialPositioningReq userConsent),
  impl.mNmeaConfigInfo.toList.map fun req =>
    (.configOutputNmeaTypes, .configOutputNmeaTypesReq req),
  impl.mEngRunStateConfigMap.entries.map fun it =>
    (.configEngineRunState, .configEngineRunStateReq ⟨it.1, it.2⟩),
  impl.mEngIntegrityRiskConfigMap.entries.map fun it =>
    (.configEngineIntegrityRisk, .configEngineIntegrityRiskReq ⟨it.1, it.2⟩),
  if impl.mRegisterXtraUpdate then [(.registerXtraStatusUpdate, .registerXtraStatusUpdateReq)]
    else []]

/-- What is sent again to a daemon that restarted. -/
def cachedConfig (impl : LocationIntegrationApiImpl h) : List (LocConfigTypeEnum × Payload h) :=
  impl.cachedMessages.flatten

/-- The callbacks for the requests that wait when the daemon restarts: success for the types up to
`CONFIG_ENUM_MAX`. -/
def flushed (mConfigReqCntMap : LocConfigTypeEnum → Option Int) : List ConfigCb :=
  LocConfigTypeEnum.all.flatMap fun configType =>
    List.replicate ((mConfigReqCntMap configType).getD 0).toNat
      ⟨configType, if configType.toNat ≤ LocConfigTypeEnum.configEnumMax then .success
        else .failure⟩

end LocationIntegrationApiImpl

/-! ## Tasks -/

/-- A task under way: the object, the messages that it tried to send and whether they were sent,
and the callbacks it made. -/
structure Task (h : Header) where
  impl : LocationIntegrationApiImpl h
  attempts : List (Message h × Bool)
  callbacks : List ConfigCb

/-- A task that starts. -/
def Task.start (impl : LocationIntegrationApiImpl h) : Task h := ⟨impl, [], []⟩

namespace Task

variable (sends : Nat → Bool)

/-- Whether the next message is sent. -/
def nextSent (t : Task h) : Bool := sends t.attempts.length

def sendMessage (t : Task h) (m : Message h) : Task h :=
  { t with attempts := t.attempts ++ [(m, t.nextSent sends)] }

def configCb (t : Task h) (configType : LocConfigTypeEnum) (response : LocIntegrationResponse) :
    Task h :=
  { t with callbacks := t.callbacks ++ [⟨configType, response⟩] }

def addConfigReq (t : Task h) (configType : LocConfigTypeEnum) : Task h :=
  { t with impl := t.impl.addConfigReq configType }

/-- The result, and the task after it. -/
def sendConfigMsgToHalDaemon (t : Task h) (configType : LocConfigTypeEnum) (m : Message h)
    (invokeResponseCb : Bool) : Bool × Task h :=
  if t.impl.mHalRegistered = false then
    (true, { t with
      impl := { t.impl with mQueuedMsg := t.impl.mQueuedMsg ++ [⟨configType, m⟩] } })
  else
    let rc := t.nextSent sends
    let t := t.sendMessage sends m
    if invokeResponseCb && t.impl.mIntegrationCbs.configCb then
      if rc then (rc, t.addConfigReq configType) else (rc, t.configCb configType .failure)
    else (rc, t)

def sendClientRegMsgToHalDaemon (t : Task h) : Bool × Task h :=
  let rc := t.nextSent sends
  let t := t.sendMessage sends (.unmarked (.clientRegisterReq .locationIntegrationApi))
  if rc then (true, { t with impl := { t.impl with mHalRegistered := true } }) else (false, t)

/-- The loop that empties the queue. -/
def sendQueued (t : Task h) : List (ProtoMsgInfo h) → Task h
  | [] => t
  | msg :: queue =>
    let popped : Task h := { t with impl := { t.impl with mQueuedMsg := queue } }
    sendQueued (popped.sendConfigMsgToHalDaemon sends msg.configType msg.proto true).2 queue

/-- The result tells whether there was something in the queue. -/
def processQueuedReqs (t : Task h) : Bool × Task h :=
  (!t.impl.mQueuedMsg.isEmpty, t.sendQueued sends t.impl.mQueuedMsg)

def flushConfigReqs (t : Task h) : Task h :=
  { t with
    impl := { t.impl with mConfigReqCntMap := fun _ => none }
    callbacks :=
      t.callbacks ++ LocationIntegrationApiImpl.flushed t.impl.mConfigReqCntMap }

/-- Messages that are sent again expect no response. -/
def resend (t : Task h) (config : List (LocConfigTypeEnum × Payload h)) : Task h :=
  config.foldl
    (fun t c => (t.sendConfigMsgToHalDaemon sends c.1 (.unmarked c.2) false).2) t

def processHalReadyMsg (t : Task h) : Task h :=
  let (registered, t) := t.sendClientRegMsgToHalDaemon sends
  if registered = false then t
  else
    let (queueNotEmpty, t) := t.processQueuedReqs sends
    if queueNotEmpty then t
    else t.flushConfigReqs.resend sends t.impl.cachedConfig

/-- `ClientRegisterReq` -/
def onListenerReady (t : Task h) : Task h :=
  let (registered, t) := t.sendClientRegMsgToHalDaemon sends
  if registered then (t.processQueuedReqs sends).2 else t

/-- The work of a request whose message is `m`. -/
def proc (t : Task h) (request : Request h) (m : Message h) : Task h :=
  let (rc, t) := t.sendConfigMsgToHalDaemon sends request.configType m true
  if rc then { t with impl := t.impl.cache request } else t

def processConfigRespCb (t : Task h) (msgId : ELocMsgID) (err : Ipc.LocationError) : Task h :=
  let configType := getLocConfigTypeFromMsgId msgId
  if t.impl.mIntegrationCbs.configCb then
    match t.impl.mConfigReqCntMap configType with
    | none => t
    | some reqCnt =>
      let t := if reqCnt > 0 then t.configCb configType (getLocIntegrationResponse err) else t
      { t with
        impl := { t.impl with
          mConfigReqCntMap := Function.update t.impl.mConfigReqCntMap configType
            (if reqCnt - 1 > 0 then some (reqCnt - 1) else none) } }
  else t

/-- Responses that the receiver does not know are dropped. -/
def onResponse (t : Task h) (msgId : ELocMsgID) (err : Ipc.LocationError) : Task h :=
  if isConfigResponse msgId then t.processConfigRespCb msgId err else t

end Task
end LocationStack.Integration
