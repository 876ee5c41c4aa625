import LocationStack.Daemon.System

/-! # Which request a session response is attributed to

The handler labels a `responseCb` with the front of `mPendingMessages`.  That is the
request it answers as long as the queue is the list of the calls still to be answered,
and the queue is that list as long as every request that pushes an id makes a call and
every request that makes a call pushes an id.  The six session requests do not all do
so; this module says exactly which steps of a run break the pairing.
-/
namespace LocationStack.Daemon

open Ipc EventRun

/-- The pending ids are the unanswered calls, and every generic response that was sent
carried the id of the call it answered. -/
structure Paired (s : State) : Prop where
  pending : ∀ h ∈ s.client, h.mPendingMessages = s.hal.sessionCalls
  attributed : ∀ a ∈ s.answered, ∀ id ∈ a.2, id = a.1

/-- A request of a registered client that makes as many calls as it pushes ids: a stop
with `clearSubscriptions` finds no session, an update of tracking options finds one, a
batching session is started where there is none and its start succeeds, and one is
stopped or updated where there is one. -/
def PairsRequest (h : LocHalDaemonClientHandler) (ret : HalReturns) : ReqMsg → Prop
  | .stopTracking clearSubscriptions =>
    clearSubscriptions → ¬(h.mSessionId ≠ 0 ∧ h.mLocationApi)
  | .updateTrackingOptions _ => h.mSessionId ≠ 0 ∧ h.mLocationApi
  | .startBatching _ _ _ =>
    h.mBatchingId = 0 ∧ (h.mLocationApi → ret.startBatching ≠ 0)
  | .stopBatching => h.mBatchingId ≠ 0 ∧ h.mLocationApi
  | .updateBatchingOptions _ _ _ => h.mBatchingId ≠ 0 ∧ h.mLocationApi
  | _ => True

/-- A step that keeps ids and calls paired: its request does, it does not make the
default client, and a response comes to a handler that has a sender. -/
def PairsStep (s : State) : Event → Prop
  | .request msg ret _ _ => s.hal.MayAnswer ret msg → ∀ h ∈ s.client, PairsRequest h ret msg
  | .autoStart _ _ _ => s.client ≠ none
  | .responseCb _ _ => s.hal.sessionCalls ≠ [] → ∀ h ∈ s.client, h.mIpcSender
  | _ => True

/-! ## Requests -/

/-- The session calls of a list of actions, by the requests their responses answer. -/
def sessionCallsOf (acts : List Action) : List ELocMsgID :=
  (HalState.calls acts).filterMap HalCall.responseTo

@[simp] theorem sessionCallsOf_nil : sessionCallsOf [] = [] := rfl

@[simp] theorem sessionCallsOf_hal (call : HalCall) (acts : List Action) :
    sessionCallsOf (.hal call :: acts) = call.responseTo.toList ++ sessionCallsOf acts := by
  cases h : call.responseTo <;> simp [sessionCallsOf, HalState.calls, h]

@[simp] theorem sessionCallsOf_send (msg : IndMsg) (acts : List Action) :
    sessionCallsOf (.send msg :: acts) = sessionCallsOf acts := rfl

/-- What a request does to the pairing: the ids it pushes are the session calls it
makes. -/
def Pairs (h : LocHalDaemonClientHandler) (r : LocHalDaemonClientHandler × List Action) :
    Prop :=
  r.1.mPendingMessages = h.mPendingMessages ++ sessionCallsOf r.2

namespace LocHalDaemonClientHandler

variable (h : LocHalDaemonClientHandler)

theorem updateSubscription_quiet (mask : LocationCallbacksMask) :
    (h.updateSubscription mask).1.mPendingMessages = h.mPendingMessages ∧
      sessionCallsOf (h.updateSubscription mask).2 = [] := by
  refine ⟨rfl, ?_⟩
  unfold updateSubscription
  cases h.mLocationApi <;> rfl

theorem callGeofences_quiet (ids : List UInt32) {call : HalCall}
    (hcall : call.responseTo = none) : sessionCallsOf (h.callGeofences ids call) = [] := by
  unfold callGeofences
  split
  · rw [sessionCallsOf_hal, hcall]
    rfl
  · rfl

/-- Looking up session ids touches nothing but the geofence map. -/
theorem getSessionIds_pending (ids : List UInt32) :
    (h.getSessionIds ids).2.mPendingMessages = h.mPendingMessages := by
  unfold getSessionIds
  split <;> rfl

end LocHalDaemonClientHandler

namespace LocationApiService

variable (h : LocHalDaemonClientHandler)

theorem updateSubscription_pairs (mask : LocationCallbacksMask) :
    Pairs h (updateSubscription mask h) := by
  obtain ⟨hpend, hcalls⟩ := h.updateSubscription_quiet mask
  rw [Pairs, updateSubscription, hpend, hcalls, List.append_nil]

/-- A start pushes where it calls. -/
theorem startTracking_pairs (mPositionMode : GnssSuplMode) (locOptions : LocationOptions)
    (ret : UInt32) : Pairs h (startTracking mPositionMode locOptions ret h) := by
  unfold Pairs startTracking LocHalDaemonClientHandler.startTracking
  split <;> simp [HalCall.responseTo]

/-- A stop that clears the subscriptions calls without pushing. -/
theorem stopTracking_pairs (clearSubscriptions : Bool) :
    Pairs h (stopTracking clearSubscriptions h) ↔
      (clearSubscriptions → ¬(h.mSessionId ≠ 0 ∧ h.mLocationApi)) := by
  by_cases hsess : h.mSessionId = 0 <;> cases hapi : h.mLocationApi <;>
    cases clearSubscriptions <;>
    simp [Pairs, stopTracking, LocHalDaemonClientHandler.stopTracking,
      LocHalDaemonClientHandler.unsubscribeLocationSessionCb,
      LocHalDaemonClientHandler.updateSubscription, HalCall.responseTo, hsess, hapi]

theorem updateTrackingOptions_pairs (mPositionMode : GnssSuplMode)
    (locOptions : LocationOptions) :
    Pairs h (updateTrackingOptions mPositionMode locOptions h) ↔
      (h.mSessionId ≠ 0 ∧ h.mLocationApi) := by
  by_cases hid : h.mSessionId = 0 <;> cases hapi : h.mLocationApi <;>
    simp [Pairs, updateTrackingOptions, LocHalDaemonClientHandler.updateTrackingOptions,
      LocHalDaemonClientHandler.pushPending, HalCall.responseTo,
      hid, hapi]

theorem startBatching_pairs (intervalInMs distanceInMeters : UInt32)
    (batchingMode : BatchingMode) (ret : UInt32) :
    Pairs h (startBatching intervalInMs distanceInMeters batchingMode ret h) ↔
      (h.mBatchingId = 0 ∧ (h.mLocationApi → ret ≠ 0)) := by
  by_cases hid : h.mBatchingId = 0 <;> cases hapi : h.mLocationApi <;>
    by_cases hret : ret = 0 <;>
    simp [Pairs, startBatching, LocHalDaemonClientHandler.startBatching,
      LocHalDaemonClientHandler.pushPending, HalCall.responseTo,
      hid, hapi, hret]

theorem stopBatching_pairs :
    Pairs h (stopBatching h) ↔ (h.mBatchingId ≠ 0 ∧ h.mLocationApi) := by
  by_cases hid : h.mBatchingId = 0 <;> cases hapi : h.mLocationApi <;>
    simp [Pairs, stopBatching, LocHalDaemonClientHandler.stopBatching,
      LocHalDaemonClientHandler.pushPending, HalCall.responseTo,
      hid, hapi]

theorem updateBatchingOptions_pairs (intervalInMs distanceInMeters : UInt32)
    (batchingMode : BatchingMode) :
    Pairs h (updateBatchingOptions intervalInMs distanceInMeters batchingMode h) ↔
      (h.mBatchingId ≠ 0 ∧ h.mLocationApi) := by
  by_cases hid : h.mBatchingId = 0 <;> cases hapi : h.mLocationApi <;>
    simp [Pairs, updateBatchingOptions, LocHalDaemonClientHandler.updateBatchingOptions,
      LocHalDaemonClientHandler.pushPending, HalCall.responseTo,
      hid, hapi]

theorem addGeofences_pairs (geofences : List GeofencePayload)
    (ret : Option (List UInt32)) : Pairs h (addGeofences geofences ret h) := by
  have hresp : ∀ options info, (HalCall.addGeofences options info ret).responseTo = none :=
    fun _ _ => rfl
  unfold Pairs addGeofences LocHalDaemonClientHandler.addGeofences
  split
  · simp
  · dsimp only
    split <;> split <;>
      simp_all [LocHalDaemonClientHandler.pushGfPending,
        LocHalDaemonClientHandler.setGeofenceIds]

theorem onGeofences_pairs (ids : List UInt32) (id : ELocMsgID)
    {call : LocHalDaemonClientHandler → List UInt32 → List Action}
    (hcall : ∀ h sessions, sessionCallsOf (call h sessions) = []) :
    Pairs h (onGeofences ids id call h) := by
  have hpend := h.getSessionIds_pending ids
  unfold Pairs onGeofences
  cases hg : h.getSessionIds ids with
  | mk sessions h₁ =>
    rw [hg] at hpend
    cases sessions with
    | none => simpa using hpend
    | some sessions => simpa [LocHalDaemonClientHandler.pushGfPending, hcall] using hpend

/-- **Which requests keep ids and calls paired.** -/
theorem processClientMsg_pairs (mPositionMode : GnssSuplMode) (msg : ReqMsg)
    (ret : HalReturns) (mIpcSender rc : Bool) :
    (∀ h' ∈ (processClientMsg mPositionMode (some h) msg ret mIpcSender rc).1,
      Pairs h (h', (processClientMsg mPositionMode (some h) msg ret mIpcSender rc).2)) ↔
      PairsRequest h ret msg := by
  have hcall : ∀ {f : LocHalDaemonClientHandler → LocHalDaemonClientHandler × List Action},
      (∀ h' ∈ (withClient (some h) f).1, Pairs h (h', (withClient (some h) f).2)) ↔
        Pairs h (f h) := by
    intro f
    simp [withClient]
  cases msg with
  | clientRegister clientType =>
    simp only [processClientMsg, newClient, PairsRequest, iff_true]
    intro h' hh'
    obtain ⟨rfl, hcalls⟩ := h.sendCapabilitiesMsg_some rc hh'
    rw [Pairs, sessionCallsOf, hcalls]
    simp
  | clientDeregister => simp [processClientMsg, deleteClient, PairsRequest]
  | updateCallbacks mask => exact hcall.trans (by simp [updateSubscription_pairs, PairsRequest])
  | startTracking options => exact hcall.trans (by simp [startTracking_pairs, PairsRequest])
  | stopTracking clear => exact hcall.trans (stopTracking_pairs h clear)
  | updateTrackingOptions options => exact hcall.trans (updateTrackingOptions_pairs h _ _)
  | startBatching interval distance mode =>
    exact hcall.trans (startBatching_pairs h interval distance mode _)
  | stopBatching => exact hcall.trans (stopBatching_pairs h)
  | updateBatchingOptions interval distance mode =>
    exact hcall.trans (updateBatchingOptions_pairs h interval distance mode)
  | addGeofences geofences => exact hcall.trans (by simp [addGeofences_pairs, PairsRequest])
  | removeGeofences ids =>
    exact hcall.trans (iff_of_true
      (onGeofences_pairs h ids _ fun h _ => h.callGeofences_quiet _ rfl) trivial)
  | modifyGeofences geofences =>
    refine hcall.trans (iff_of_true ?_ trivial)
    unfold modifyGeofences
    split
    · simp [Pairs]
    · exact onGeofences_pairs h _ _ fun h _ => h.callGeofences_quiet _ rfl
  | pauseGeofences ids =>
    exact hcall.trans (iff_of_true
      (onGeofences_pairs h ids _ fun h _ => h.callGeofences_quiet _ rfl) trivial)
  | resumeGeofences ids =>
    exact hcall.trans (iff_of_true
      (onGeofences_pairs h ids _ fun h _ => h.callGeofences_quiet _ rfl) trivial)

end LocationApiService

/-! ## Callbacks -/

namespace LocHalDaemonClientHandler

variable (h : LocHalDaemonClientHandler)

/-- Without a sender it takes nothing. -/
theorem onResponseCb_no_sender (err : LocationError) (rc : Bool) (hs : h.mIpcSender = false) :
    h.onResponseCb err rc = (some h, []) := by
  simp [onResponseCb, hs]

/-- The message sent for a response carries the front id. -/
theorem onResponseCb_respondedWith (err : LocationError) (rc : Bool) :
    ∀ id ∈ respondedWith (h.onResponseCb err rc).2, h.mPendingMessages.head? = some id := by
  intro id hid
  unfold onResponseCb at hid
  split at hid
  · cases hq : h.mPendingMessages with
    | nil => simp [hq, respondsTo, respondedWith] at hid
    | cons front rest =>
      cases rc <;> cases happ : h.mLocationApi <;> cases hfront : respondsTo front <;>
        simp_all [sendMessage, cleanup, respondedWith]
  · simp [respondedWith] at hid

end LocHalDaemonClientHandler

/-! ## Runs -/

theorem Paired.settle {client : Entry} {hal : HalState}
    {answered : List (ELocMsgID × Option ELocMsgID)}
    (hattr : ∀ a ∈ answered, ∀ id ∈ a.2, id = a.1) :
    Paired (.settle client hal answered) ↔
      ∀ h ∈ client, h.mPendingMessages = hal.sessionCalls := by
  constructor
  · intro hp h hh
    have hpend := hp.pending h hh
    rw [show client = some h from hh] at hpend
    exact hpend
  · intro hpend
    refine ⟨?_, hattr⟩
    rintro h (hh : client = some h)
    rw [hpend h hh, hh]
    rfl

/-- **One step.**  From a paired state exactly the steps of `PairsStep` lead to a
paired state. -/
theorem step_paired (mPositionMode : GnssSuplMode) (s : State) (e : Event)
    (hs : Settled s) (hp : Paired s) :
    Paired (step mPositionMode s e) ↔ PairsStep s e := by
  obtain ⟨client, hal, answered⟩ := s
  obtain ⟨hpend, hattr⟩ := hp
  cases e with
  | request msg ret mIpcSender rc =>
    by_cases hret : hal.MayAnswer ret msg
    · simp only [step, stepActs, PairsStep, hret, if_true, forall_const]
      rw [Paired.settle hattr]
      cases client with
      | none =>
        have hhal : hal = .empty := hs rfl
        refine iff_of_true ?_ (by simp)
        cases msg <;>
          simp [LocationApiService.processClientMsg, LocationApiService.newClient,
            LocationApiService.deleteClient, LocationApiService.withClient, hhal,
            HalState.record, HalState.empty, HalState.calls, LocHalDaemonClientHandler.new]
      | some h =>
        have hq : h.mPendingMessages = hal.sessionCalls := hpend h rfl
        have hpairs := LocationApiService.processClientMsg_pairs h mPositionMode msg ret
          mIpcSender rc
        simpa [Pairs, hq, HalState.record, sessionCallsOf] using hpairs
    · simp only [step, stepActs, PairsStep, hret, if_false, false_implies, iff_true]
      exact ⟨hpend, hattr⟩
  | autoStart tbf ret mIpcSender =>
    cases client with
    | some h => simpa [step, stepActs, PairsStep] using Paired.mk hpend hattr
    | none =>
      have hhal : hal = .empty := hs rfl
      simp only [step, stepActs, PairsStep]
      rw [Paired.settle hattr]
      simp [LocationApiService.autoStart, LocHalDaemonClientHandler.new,
        LocHalDaemonClientHandler.updateSubscription,
        LocHalDaemonClientHandler.startTracking, LocHalDaemonClientHandler.pushPending,
        hhal, HalState.record, HalState.empty, HalState.calls, HalCall.responseTo,
        List.filterMap_cons]
  | capabilitiesCb mask rc =>
    cases client with
    | none => simpa [step, stepActs, PairsStep] using Paired.mk hpend hattr
    | some h =>
      simp only [step, stepActs, PairsStep, iff_true]
      rw [Paired.settle hattr]
      intro h' hh'
      rw [h.onCapabilitiesCallback_some mask rc hh']
      exact hpend h rfl
  | responseCb err rc =>
    cases client with
    | none => simpa [step, stepActs, PairsStep] using Paired.mk hpend hattr
    | some h =>
      have hq : h.mPendingMessages = hal.sessionCalls := hpend h rfl
      cases hcalls : hal.sessionCalls with
      | nil => simpa [step, stepActs, PairsStep, hcalls] using Paired.mk hpend hattr
      | cons call calls =>
        have hattr' : ∀ a ∈ answered ++ [(call, respondedWith (h.onResponseCb err rc).2)],
            ∀ id ∈ a.2, id = a.1 := by
          intro a ha id hid
          rcases List.mem_append.mp ha with ha | ha
          · exact hattr a ha id hid
          · obtain rfl := List.mem_singleton.mp ha
            have hfront := h.onResponseCb_respondedWith err rc id hid
            rw [hq, hcalls, List.head?_cons] at hfront
            exact (Option.some.inj hfront).symm
        simp only [step, stepActs, PairsStep, hcalls]
        rw [Paired.settle hattr']
        cases hsend : h.mIpcSender with
        | true =>
          refine iff_of_true ?_ (by simp [hsend])
          intro h' hh'
          rw [h.onResponseCb_some err rc hsend hh']
          simp [hq, hcalls]
        | false =>
          -- nothing is taken off the queue, which is now one longer than the calls
          refine iff_of_false ?_ (by simp [hsend])
          intro hpend'
          rw [h.onResponseCb_no_sender err rc hsend] at hpend'
          have hlen := congrArg List.length ((hpend' h rfl).symm.trans (hq.trans hcalls))
          simp at hlen
  | collectiveResponseCb errs rc =>
    refine iff_of_true ?_ trivial
    simp only [step, stepActs]
    split
    · split
      · rw [Paired.settle hattr]
        intro h' hh'
        rw [LocHalDaemonClientHandler.onCollectiveResponseCallback_pending _ _ rc hh']
        exact hpend _ rfl
      · exact ⟨hpend, hattr⟩
    · exact ⟨hpend, hattr⟩
  | geofenceBreachCb ids rc =>
    refine iff_of_true ?_ trivial
    simp only [step, stepActs]
    split
    · exact ⟨hpend, hattr⟩
    · split
      · rw [Paired.settle hattr]
        intro h' hh'
        rw [LocHalDaemonClientHandler.onGeofenceBreachCb_some _ ids rc hh']
        exact hpend _ rfl
      · exact ⟨hpend, hattr⟩

theorem init_paired : Paired .init :=
  ⟨fun _ hh => absurd hh (by simp [State.init]), fun _ ha => absurd ha List.not_mem_nil⟩

/-- **Response pairing.**  In a run of one client of the daemon the pending ids are
the unanswered calls, and every response is attributed to the request whose call it
answers, in every state, exactly when no step breaks the pairing. -/
theorem response_pairing (mPositionMode : GnssSuplMode) (es : List Event) :
    Throughout (step mPositionMode) Paired .init es ↔
      Meets (step mPositionMode) PairsStep .init es :=
  throughout_iff_meets (step_settled mPositionMode) (step_paired mPositionMode)
    init_settled init_paired

/-- A client starts a session and stops it with `clearSubscriptions`, as the client
library's stop does, then starts another; the three calls are answered. -/
def stopThenStart : List Event :=
  let options := { LocationOptions.zero with minInterval := 1000 }
  let start := fun id : UInt32 =>
    Event.request (.startTracking options) ⟨id, 0, none⟩ true true
  [.request (.clientRegister .locationClientApi) ⟨0, 0, none⟩ true true,
    start 1, .responseCb .success true,
    .request (.stopTracking true) ⟨0, 0, none⟩ true true,
    start 2, .responseCb .success true, .responseCb .timeout true]

/-- The response to the stop goes out as the response to the second start, and the
response to the second start is dropped. -/
theorem response_pairing_fails :
    ¬Throughout (step .standalone) Paired .init stopThenStart ∧
      (run (step .standalone) .init stopThenStart).answered =
        [(.startTracking, some .startTracking), (.stopTracking, some .startTracking),
          (.startTracking, none)] := by
  have hrun : (run (step .standalone) .init stopThenStart).answered =
      [(.startTracking, some .startTracking), (.stopTracking, some .startTracking),
        (.startTracking, none)] := by decide
  refine ⟨fun hall => ?_, hrun⟩
  have hwrong := hall.last.attributed (.stopTracking, some .startTracking)
    (by rw [hrun]; simp) .startTracking rfl
  exact absurd hwrong (by decide)

end LocationStack.Daemon
