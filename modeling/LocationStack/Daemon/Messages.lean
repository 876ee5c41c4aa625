import LocationStack.Daemon.System

/-! # What the daemon sends

Where every send succeeds no handler is purged: a request leaves a registered client
registered and is answered by nothing, except that a repeated registration is told the
capabilities again, and a callback of `LocationAPI` changes the handler's queues, its
geofence map and its capability mask at most.
-/
namespace LocationStack.Daemon

open Ipc

@[simp] theorem sentMsgs_nil : sentMsgs [] = [] := rfl

@[simp] theorem sentMsgs_send (msg : IndMsg) (acts : List Action) :
    sentMsgs (.send msg :: acts) = msg :: sentMsgs acts := rfl

@[simp] theorem sentMsgs_hal (call : HalCall) (acts : List Action) :
    sentMsgs (.hal call :: acts) = sentMsgs acts := rfl

@[simp] theorem sentMsgs_append (acts acts' : List Action) :
    sentMsgs (acts ++ acts') = sentMsgs acts ++ sentMsgs acts' := List.filterMap_append

@[simp] theorem State.settle_client (client : Entry) (hal : HalState)
    (answered : List (ELocMsgID × Option ELocMsgID)) :
    (State.settle client hal answered).client = client := rfl

@[simp] theorem State.settle_hal (h : LocHalDaemonClientHandler) (hal : HalState)
    (answered : List (ELocMsgID × Option ELocMsgID)) :
    (State.settle (some h) hal answered).hal = hal := rfl

/-- A request that `LocationAPI` may answer so is processed. -/
theorem stepActs_request (mPositionMode : GnssSuplMode) {s : State} {msg : ReqMsg}
    {ret : HalReturns} (hret : s.hal.MayAnswer ret msg) (mIpcSender rc : Bool) :
    stepActs mPositionMode s (.request msg ret mIpcSender rc) =
      let r := LocationApiService.processClientMsg mPositionMode s.client msg ret mIpcSender rc
      (.settle r.1 (s.hal.record (addedIds msg) r.2) s.answered, r.2) := by
  rw [stepActs, if_pos hret]

/-! ## Callbacks -/

/-- The event is a callback of `LocationAPI`. -/
def isCallback : Event → Bool
  | .capabilitiesCb _ _ | .responseCb _ _ | .collectiveResponseCb _ _
  | .geofenceBreachCb _ _ => true
  | .request _ _ _ _ | .autoStart _ _ _ => false

/-- The message of a callback, if it sends one, is taken. -/
def callbackSent : Event → Bool
  | .capabilitiesCb _ rc | .responseCb _ rc | .collectiveResponseCb _ rc
  | .geofenceBreachCb _ rc => rc
  | .request _ _ _ _ | .autoStart _ _ _ => true

namespace LocHalDaemonClientHandler

variable (h : LocHalDaemonClientHandler)

/-- The handler is the one it was but for what callbacks change. -/
def KeptBy (h' : LocHalDaemonClientHandler) : Prop :=
  h' = { h with
    mCapabilityMask := h'.mCapabilityMask
    mPendingMessages := h'.mPendingMessages
    mGfPendingMessages := h'.mGfPendingMessages
    mGfIdsMap := h'.mGfIdsMap }

theorem KeptBy.refl : h.KeptBy h := rfl

/-- A send that succeeds purges nothing. -/
@[simp] theorem sendMessage_true (msg : IndMsg) :
    h.sendMessage msg true = (some h, [.send msg]) := rfl

theorem sendCapabilitiesMsg_true :
    (h.sendCapabilitiesMsg true).1 = some h ∧
      sentMsgs (h.sendCapabilitiesMsg true).2 =
        if h.mIpcSender && h.mCapabilityMask != 0 then [.capabilities h.mCapabilityMask]
        else [] := by
  unfold sendCapabilitiesMsg
  split <;> exact ⟨rfl, rfl⟩

theorem onCapabilitiesCallback_true (mask : UInt64) :
    (h.onCapabilitiesCallback mask true).1 = some { h with mCapabilityMask := mask } ∧
      sentMsgs (h.onCapabilitiesCallback mask true).2 =
        if mask != h.mCapabilityMask && h.mIpcSender && mask != 0 then [.capabilities mask]
        else [] := by
  unfold onCapabilitiesCallback
  split
  · obtain ⟨hfst, hsent⟩ := sendCapabilitiesMsg_true { h with mCapabilityMask := mask }
    rw [hfst, hsent]
    simp [*]
  · have hmask : mask = h.mCapabilityMask := by
      simpa using ‹¬(mask != h.mCapabilityMask) = true›
    subst hmask
    simp

/-- With a sender the front id is taken, and the answer to it is sent under this id. -/
theorem onResponseCb_true (err : LocationError) (hs : h.mIpcSender) :
    (h.onResponseCb err true).1 =
        some { h with mPendingMessages := h.mPendingMessages.tail } ∧
      sentMsgs (h.onResponseCb err true).2 =
        if respondsTo (h.mPendingMessages.head?.getD .undefinedMsgId) then
          [.genericResp (h.mPendingMessages.head?.getD .undefinedMsgId) err]
        else [] := by
  unfold onResponseCb
  rw [if_pos hs]
  dsimp only
  split <;> exact ⟨rfl, rfl⟩

theorem onResponseCb_kept (err : LocationError) :
    ∃ h', (h.onResponseCb err true).1 = some h' ∧ h.KeptBy h' := by
  cases hs : h.mIpcSender with
  | true => exact ⟨_, (h.onResponseCb_true err hs).1, rfl⟩
  | false => exact ⟨h, by simp [onResponseCb, hs], .refl h⟩

theorem onCollectiveResponseCallback_kept (resp : List (UInt32 × LocationError)) :
    ∃ h', (h.onCollectiveResponseCallback resp true).1 = some h' ∧ h.KeptBy h' := by
  unfold onCollectiveResponseCallback
  split
  · dsimp only
    split
    · exact ⟨_, rfl, rfl⟩
    · split
      · refine ⟨_, rfl, ?_⟩
        split <;> rfl
      · exact ⟨_, rfl, rfl⟩
  · exact ⟨h, rfl, .refl h⟩

/-- With a sender and a geofence request at the front, the response goes out under this
id, with the client id of each session. -/
theorem onCollectiveResponseCallback_true {label : ELocMsgID}
    {resp : List (UInt32 × LocationError)} (hne : resp ≠ []) (hs : h.mIpcSender)
    (hfront : h.mGfPendingMessages.head? = some label)
    (hlabel : collectiveRespondsTo label) :
    sentMsgs (h.onCollectiveResponseCallback resp true).2 =
      [.collectiveResp label (h.gfResponse resp)] := by
  have hids := getClientIds_eq { h with mGfPendingMessages := h.mGfPendingMessages.tail }
    (show resp.map Prod.fst ≠ [] by simpa using hne)
  unfold onCollectiveResponseCallback
  rw [if_pos hs, hfront]
  dsimp only [Option.getD_some]
  rw [hids]
  dsimp only
  rw [if_pos hlabel, sendMessage_true, sentMsgs_send, sentMsgs_nil, ← zipWith_response]

theorem onGeofenceBreachCb_true (ids : List UInt32) :
    (h.onGeofenceBreachCb ids true).1 = some h := by
  unfold onGeofenceBreachCb
  split
  · split <;> rfl
  · rfl

end LocHalDaemonClientHandler

/-- **Callbacks.**  A callback whose message is taken leaves the client registered and
changes its handler in what callbacks change. -/
theorem callback_kept (mPositionMode : GnssSuplMode) {s : State} {h : LocHalDaemonClientHandler}
    (hc : s.client = some h) {e : Event} (he : isCallback e) (hsent : callbackSent e) :
    ∃ h', (stepActs mPositionMode s e).1.client = some h' ∧ h.KeptBy h' := by
  obtain ⟨client, hal, answered⟩ := s
  cases (hc : client = some h)
  cases e with
  | request msg ret mIpcSender rc => exact absurd he (by simp [isCallback])
  | autoStart tbf ret mIpcSender => exact absurd he (by simp [isCallback])
  | capabilitiesCb mask rc =>
    cases (hsent : rc = true)
    exact ⟨_, (h.onCapabilitiesCallback_true mask).1, rfl⟩
  | responseCb err rc =>
    cases (hsent : rc = true)
    cases hcalls : hal.sessionCalls with
    | nil => simpa only [stepActs, hcalls] using ⟨h, rfl, .refl h⟩
    | cons call calls =>
      simpa only [stepActs, hcalls, State.settle_client] using h.onResponseCb_kept err
  | collectiveResponseCb errs rc =>
    cases (hsent : rc = true)
    cases hcalls : hal.collectiveCalls with
    | nil => simpa only [stepActs, hcalls] using ⟨h, rfl, .refl h⟩
    | cons call calls =>
      simp only [stepActs, hcalls]
      split
      · exact h.onCollectiveResponseCallback_kept _
      · exact ⟨h, rfl, .refl h⟩
  | geofenceBreachCb ids rc =>
    cases (hsent : rc = true)
    simp only [stepActs]
    split
    · exact ⟨h, h.onGeofenceBreachCb_true ids, .refl h⟩
    · exact ⟨h, rfl, .refl h⟩

/-- A callback of a client that is gone does nothing. -/
theorem callback_none (mPositionMode : GnssSuplMode) {s : State} (hc : s.client = none)
    {e : Event} (he : isCallback e) : stepActs mPositionMode s e = (s, []) := by
  cases e with
  | request msg ret mIpcSender rc => exact absurd he (by simp [isCallback])
  | autoStart tbf ret mIpcSender => exact absurd he (by simp [isCallback])
  | _ => simp only [stepActs, hc]

/-! ## Requests -/

namespace LocHalDaemonClientHandler

variable (h : LocHalDaemonClientHandler)

@[simp] theorem sent_updateSubscription (mask : LocationCallbacksMask) :
    sentMsgs (h.updateSubscription mask).2 = [] := by
  unfold updateSubscription
  split <;> rfl

@[simp] theorem sent_startTracking (locOptions : LocationOptions) (ret : UInt32) :
    sentMsgs (h.startTracking locOptions ret).2 = [] := by
  unfold startTracking
  split <;> rfl

@[simp] theorem sent_stopTracking (clientExpectingResp : Bool) :
    sentMsgs (h.stopTracking clientExpectingResp).2 = [] := by
  unfold stopTracking
  split <;> rfl

@[simp] theorem sent_updateTrackingOptions (locOptions : LocationOptions) :
    sentMsgs (h.updateTrackingOptions locOptions).2 = [] := by
  unfold updateTrackingOptions
  split <;> rfl

@[simp] theorem sent_startBatching (minInterval minDistance : UInt32)
    (batchMode : BatchingMode) (ret : UInt32) :
    sentMsgs (h.startBatching minInterval minDistance batchMode ret).2 = [] := by
  unfold startBatching
  split <;> rfl

@[simp] theorem sent_stopBatching : sentMsgs h.stopBatching.2 = [] := by
  unfold stopBatching
  split <;> rfl

@[simp] theorem sent_updateBatchingOptions (minInterval minDistance : UInt32)
    (batchMode : BatchingMode) :
    sentMsgs (h.updateBatchingOptions minInterval minDistance batchMode).2 = [] := by
  unfold updateBatchingOptions
  split <;> rfl

@[simp] theorem sent_addGeofences (options : List GeofenceOption) (info : List GeofenceInfo)
    (ret : Option (List UInt32)) : sentMsgs (h.addGeofences options info ret).2 = [] := by
  unfold addGeofences
  split <;> rfl

@[simp] theorem sent_callGeofences (ids : List UInt32) (call : HalCall) :
    sentMsgs (h.callGeofences ids call) = [] := by
  unfold callGeofences
  split <;> rfl

end LocHalDaemonClientHandler

namespace LocationApiService

theorem sent_onGeofences (ids : List UInt32) (id : ELocMsgID)
    {call : LocHalDaemonClientHandler → List UInt32 → List Action}
    (hcall : ∀ h sessions, sentMsgs (call h sessions) = []) (h : LocHalDaemonClientHandler) :
    sentMsgs (onGeofences ids id call h).2 = [] := by
  unfold onGeofences
  split
  · rfl
  · exact hcall _ _

/-- A request other than a registration is processed without a message. -/
theorem sent_processClientMsg (mPositionMode : GnssSuplMode) (pClient : Entry) {msg : ReqMsg}
    (hmsg : ∀ clientType, msg ≠ .clientRegister clientType) (ret : HalReturns)
    (mIpcSender rc : Bool) :
    sentMsgs (processClientMsg mPositionMode pClient msg ret mIpcSender rc).2 = [] := by
  cases pClient with
  | none => cases msg <;> rfl
  | some h =>
    cases msg with
    | clientRegister clientType => exact absurd rfl (hmsg clientType)
    | clientDeregister =>
      rw [processClientMsg, deleteClient, LocHalDaemonClientHandler.cleanup]
      split <;> rfl
    | updateCallbacks mask => exact h.sent_updateSubscription mask
    | startTracking options => exact h.sent_startTracking _ _
    | stopTracking clear =>
      cases clear <;>
        simp [processClientMsg, withClient, stopTracking,
          LocHalDaemonClientHandler.unsubscribeLocationSessionCb]
    | updateTrackingOptions options => exact h.sent_updateTrackingOptions _
    | startBatching interval distance mode =>
      simp only [processClientMsg, withClient, startBatching]
      split <;> exact h.sent_startBatching interval distance mode _
    | stopBatching => exact LocHalDaemonClientHandler.sent_stopBatching _
    | updateBatchingOptions interval distance mode =>
      exact h.sent_updateBatchingOptions interval distance mode
    | addGeofences geofences =>
      simp only [processClientMsg, withClient, addGeofences]
      split
      · rfl
      · split <;> exact h.sent_addGeofences _ _ _
    | removeGeofences ids =>
      exact sent_onGeofences ids _ (fun h sessions => h.sent_callGeofences sessions _) h
    | modifyGeofences geofences =>
      simp only [processClientMsg, withClient, modifyGeofences]
      split
      · rfl
      · exact sent_onGeofences _ _ (fun h sessions => h.sent_callGeofences sessions _) h
    | pauseGeofences ids =>
      exact sent_onGeofences ids _ (fun h sessions => h.sent_callGeofences sessions _) h
    | resumeGeofences ids =>
      exact sent_onGeofences ids _ (fun h sessions => h.sent_callGeofences sessions _) h

/-- A client that is not registered sends nothing but its registration to any effect. -/
theorem processClientMsg_none (mPositionMode : GnssSuplMode) {msg : ReqMsg}
    (hmsg : ∀ clientType, msg ≠ .clientRegister clientType) (ret : HalReturns)
    (mIpcSender rc : Bool) :
    processClientMsg mPositionMode none msg ret mIpcSender rc = (none, []) := by
  cases msg with
  | clientRegister clientType => exact absurd rfl (hmsg clientType)
  | _ => rfl

theorem sent_none (mPositionMode : GnssSuplMode) (msg : ReqMsg) (ret : HalReturns)
    (mIpcSender rc : Bool) :
    sentMsgs (processClientMsg mPositionMode none msg ret mIpcSender rc).2 = [] := by
  cases msg <;> rfl

/-- What a request leaves of a registered client: its handler, one way or another. -/
theorem processClientMsg_isSome (mPositionMode : GnssSuplMode) (h : LocHalDaemonClientHandler)
    {msg : ReqMsg} (hmsg : msg ≠ .clientDeregister) (ret : HalReturns) (mIpcSender : Bool) :
    (processClientMsg mPositionMode (some h) msg ret mIpcSender true).1.isSome := by
  cases msg with
  | clientDeregister => exact absurd rfl hmsg
  | clientRegister clientType =>
    rw [processClientMsg, newClient, h.sendCapabilitiesMsg_true.1]
    rfl
  | _ => rfl

end LocationApiService

/-! ## Which messages there are -/

theorem sent_sendMessage (h : LocHalDaemonClientHandler) (msg : IndMsg) (rc : Bool) :
    sentMsgs (h.sendMessage msg rc).2 = if rc then [msg] else [] := by
  cases rc with
  | true => rfl
  | false =>
    rw [LocHalDaemonClientHandler.sendMessage, if_neg (by simp),
      LocHalDaemonClientHandler.cleanup]
    split <;> rfl

theorem eq_of_mem_sendMessage {h : LocHalDaemonClientHandler} {msg m : IndMsg} {rc : Bool}
    (hm : m ∈ sentMsgs (h.sendMessage msg rc).2) : m = msg := by
  rw [sent_sendMessage] at hm
  split at hm
  · exact List.mem_singleton.mp hm
  · exact absurd hm List.not_mem_nil

theorem rc_of_mem_sendMessage {h : LocHalDaemonClientHandler} {msg m : IndMsg} {rc : Bool}
    (hm : m ∈ sentMsgs (h.sendMessage msg rc).2) : rc = true := by
  by_contra hrc
  rw [sent_sendMessage, if_neg hrc] at hm
  exact absurd hm List.not_mem_nil

theorem sent_sendCapabilitiesMsg (h : LocHalDaemonClientHandler) (rc : Bool) :
    ∀ msg ∈ sentMsgs (h.sendCapabilitiesMsg rc).2, msg = .capabilities h.mCapabilityMask := by
  intro msg hmsg
  unfold LocHalDaemonClientHandler.sendCapabilitiesMsg at hmsg
  split at hmsg
  · exact eq_of_mem_sendMessage hmsg
  · exact absurd hmsg List.not_mem_nil

theorem sent_onCapabilitiesCallback (h : LocHalDaemonClientHandler) (mask : UInt64)
    (rc : Bool) :
    ∀ msg ∈ sentMsgs (h.onCapabilitiesCallback mask rc).2, msg = .capabilities mask := by
  intro msg hmsg
  unfold LocHalDaemonClientHandler.onCapabilitiesCallback at hmsg
  split at hmsg
  · exact sent_sendCapabilitiesMsg _ rc msg hmsg
  · exact absurd hmsg List.not_mem_nil

theorem sent_onResponseCb (h : LocHalDaemonClientHandler) (err : LocationError) (rc : Bool) :
    ∀ msg ∈ sentMsgs (h.onResponseCb err rc).2,
      msg = .genericResp (h.mPendingMessages.head?.getD .undefinedMsgId) err := by
  intro msg hmsg
  unfold LocHalDaemonClientHandler.onResponseCb at hmsg
  split at hmsg
  · dsimp only at hmsg
    split at hmsg
    · exact eq_of_mem_sendMessage hmsg
    · exact absurd hmsg List.not_mem_nil
  · exact absurd hmsg List.not_mem_nil

/-- A collective response goes out under the front id of the queue. -/
theorem sent_onCollectiveResponseCallback (h : LocHalDaemonClientHandler)
    (resp : List (UInt32 × LocationError)) (rc : Bool) :
    ∀ msg ∈ sentMsgs (h.onCollectiveResponseCallback resp rc).2,
      (msg = .collectiveResp (h.mGfPendingMessages.head?.getD .undefinedMsgId)
        (h.gfResponse resp)) ∧ h.mIpcSender = true ∧ rc = true := by
  intro msg hmsg
  unfold LocHalDaemonClientHandler.onCollectiveResponseCallback at hmsg
  split at hmsg
  · rename_i hsender
    dsimp only at hmsg
    split at hmsg
    · exact absurd hmsg List.not_mem_nil
    · rename_i clientIds hids
      split at hmsg
      · have hclient : clientIds =
            (resp.map Prod.fst).map fun session => IdMap.keyOf h.mGfIdsMap session 0 := by
          rw [LocHalDaemonClientHandler.getClientIds] at hids
          split at hids
          · exact absurd hids (by simp)
          · exact (Option.some.inj hids).symm
        refine ⟨?_, hsender, rc_of_mem_sendMessage hmsg⟩
        rw [eq_of_mem_sendMessage hmsg, hclient, LocHalDaemonClientHandler.zipWith_response]
      · exact absurd hmsg List.not_mem_nil
  · exact absurd hmsg List.not_mem_nil

/-- A breach names each session by the id the map has for it. -/
theorem sent_onGeofenceBreachCb (h : LocHalDaemonClientHandler) (ids : List UInt32)
    (rc : Bool) :
    ∀ msg ∈ sentMsgs (h.onGeofenceBreachCb ids rc).2,
      (msg = .geofenceBreach (ids.map fun session => IdMap.keyOf h.mGfIdsMap session 0)) ∧
        h.mIpcSender = true ∧ rc = true := by
  intro msg hmsg
  unfold LocHalDaemonClientHandler.onGeofenceBreachCb at hmsg
  split at hmsg
  · rename_i hsubscribed
    split at hmsg
    · exact absurd hmsg List.not_mem_nil
    · rename_i clientIds hids
      rw [LocHalDaemonClientHandler.getClientIds] at hids
      split at hids
      · exact absurd hids (by simp)
      · refine ⟨?_, (Bool.and_eq_true_iff.mp hsubscribed).1, rc_of_mem_sendMessage hmsg⟩
        rw [eq_of_mem_sendMessage hmsg, Option.some.inj hids]
  · exact absurd hmsg List.not_mem_nil

/-- What a request leads to: the capabilities, told to a client that registers again. -/
theorem sent_request (mPositionMode : GnssSuplMode) (s : State) (msg : ReqMsg)
    (ret : HalReturns) (mIpcSender rc : Bool) :
    ∀ m ∈ sentMsgs (stepActs mPositionMode s (.request msg ret mIpcSender rc)).2,
      ∃ mask, m = .capabilities mask := by
  intro m hm
  simp only [stepActs] at hm
  split at hm
  · by_cases hreg : ∃ clientType, msg = .clientRegister clientType
    · obtain ⟨clientType, rfl⟩ := hreg
      cases hc : s.client with
      | none =>
        rw [hc] at hm
        exact absurd hm List.not_mem_nil
      | some h =>
        rw [hc] at hm
        exact ⟨h.mCapabilityMask, sent_sendCapabilitiesMsg h rc m hm⟩
    · have hnot : ∀ clientType, msg ≠ .clientRegister clientType :=
        fun clientType heq => hreg ⟨clientType, heq⟩
      rw [LocationApiService.sent_processClientMsg _ _ hnot] at hm
      exact absurd hm List.not_mem_nil
  · exact absurd hm List.not_mem_nil

/-- What the daemon tells a client while it runs is never that it is ready. -/
theorem halReady_notMem_sent (mPositionMode : GnssSuplMode) (s : State) (e : Event) :
    .halReady ∉ sentMsgs (stepActs mPositionMode s e).2 := by
  intro hmem
  cases e with
  | request msg ret mIpcSender rc =>
    obtain ⟨mask, heq⟩ := sent_request mPositionMode s msg ret mIpcSender rc _ hmem
    exact absurd heq (by simp)
  | autoStart tbf ret mIpcSender =>
    simp only [stepActs] at hmem
    split at hmem
    · exact absurd hmem List.not_mem_nil
    · simp [LocationApiService.autoStart] at hmem
  | capabilitiesCb mask rc =>
    simp only [stepActs] at hmem
    split at hmem
    · exact absurd hmem List.not_mem_nil
    · exact absurd (sent_onCapabilitiesCallback _ mask rc _ hmem) (by simp)
  | responseCb err rc =>
    simp only [stepActs] at hmem
    split at hmem
    · exact absurd (sent_onResponseCb _ err rc _ hmem) (by simp)
    · exact absurd hmem List.not_mem_nil
  | collectiveResponseCb errs rc =>
    simp only [stepActs] at hmem
    split at hmem
    · split at hmem
      · exact absurd (sent_onCollectiveResponseCallback _ _ rc _ hmem).1 (by simp)
      · exact absurd hmem List.not_mem_nil
    · exact absurd hmem List.not_mem_nil
  | geofenceBreachCb ids rc =>
    simp only [stepActs] at hmem
    split at hmem
    · exact absurd hmem List.not_mem_nil
    · split at hmem
      · exact absurd (sent_onGeofenceBreachCb _ ids rc _ hmem).1 (by simp)
      · exact absurd hmem List.not_mem_nil

end LocationStack.Daemon
