import LocationStack.Link.System

/-! # Batching with new options

A client in batching that starts a batching session again asks for new options.  Whether this is
an update is decided in the client, on the id of its tracking session, and then again in the
daemon, on the id of its batching session.

`Exchange` is what follows the request when nothing else happens and `LocationAPI` does what it
is asked: the daemon processes the client's messages, `LocationAPI` answers the session calls,
the client processes the daemon's messages, in any order that the channels allow.
-/
namespace LocationStack.Link

open Ipc Client EventRun

/-- The batching session of a client in `LocationAPI`, after a call. -/
def batchingAfter (session : Option BatchingOptions) : Daemon.HalCall → Option BatchingOptions
  | .startBatching options => some options
  | .updateBatchingOptions _ options => some options
  | .stopBatching _ => none
  | _ => session

/-- The calls of the application's `responseCb`. -/
def responsesOf (outs : List Out) : List LocationError :=
  outs.filterMap fun
    | .responseCb _ err => some err
    | _ => none

/-- The system, the batching session `LocationAPI` runs, and what the application has been
answered since its request. -/
structure Traced where
  sys : Sys
  session : Option BatchingOptions
  responses : List LocationError

inductive Exchange
  /-- The daemon processes a message; `LocationAPI` gives a session the id. -/
  | process (id : { id : UInt32 // id ≠ 0 })
  /-- `LocationAPI` answers its oldest session call. -/
  | respond
  /-- The client processes a message of the daemon. -/
  | deliver

namespace Traced

variable (mPositionMode : GnssSuplMode)

/-- The client does the work of `startBatchingSession`. -/
def request (s : Sys) (session : Option BatchingOptions)
    (callbacksOption : Client.LocationCallbacks) (batchingOptions : BatchingOptions) : Traced :=
  let r := s.client.startBatchingSession callbacksOption batchingOptions
  ⟨s.clientWork r true, session, responsesOf r.2⟩

/-- A step of the exchange is one of the system, with the calls made and the answers given. -/
def step (t : Traced) : Exchange → Traced
  | .process id =>
    let ret : Daemon.HalReturns := ⟨id, id, none⟩
    match t.sys.toDaemon with
    | [] => t
    | msg :: _ =>
      let acts := (Daemon.stepActs mPositionMode t.sys.daemon (.request msg ret true true)).2
      ⟨Link.step mPositionMode t.sys (.processClientMsg ret true true),
        (Daemon.HalState.calls acts).foldl batchingAfter t.session, t.responses⟩
  | .respond =>
    ⟨Link.step mPositionMode t.sys (.callback (.responseCb .success true)), t.session,
      t.responses⟩
  | .deliver =>
    match t.sys.toClient with
    | [] => t
    | msg :: _ =>
      ⟨Link.step mPositionMode t.sys (.onReceive true), t.session,
        t.responses ++ responsesOf (t.sys.client.onReceive msg).2⟩

/-- Nothing is on its way and `LocationAPI` has nothing to answer. -/
structure Quiescent (s : Sys) : Prop where
  toDaemon : s.toDaemon = []
  toClient : s.toClient = []
  calls : s.daemon.hal.sessionCalls = []

/-- A registered client that is in batching, with everything it has asked for answered, so that
it accepts a request; `h` is the daemon's handler of it. -/
structure InBatching (s : Sys) (h : Daemon.LocHalDaemonClientHandler) : Prop where
  quiescent : Quiescent s
  registered : s.client.mHalRegistered = true
  batching : s.client.mBatchingId ≠ 0
  notTracking : s.client.mSessionId = 0
  notPending : s.client.mPositionSessionResponseCbPending = false
  handler : s.daemon.client = some h
  sender : h.mIpcSender = true
  locationApi : h.mLocationApi = true
  pending : h.mPendingMessages = []

/-- The session runs with the options asked for, and the request was answered once. -/
structure Updated (t : Traced) (batchingOptions : BatchingOptions) : Prop where
  session : t.session = some (Daemon.LocHalDaemonClientHandler.batchOptions
    batchingOptions.minInterval batchingOptions.minDistance batchingOptions.batchingMode)
  responses : t.responses = [.success]

/-! ## What is sent and what it does -/

theorem responsesOf_append (outs outs' : List Out) :
    responsesOf (outs ++ outs') = responsesOf outs ++ responsesOf outs' := List.filterMap_append

theorem responsesOf_updateCallbacksSync (c : LocationClientApiImpl)
    (callbacks : Client.LocationCallbacks) :
    responsesOf (c.updateCallbacksSync callbacks).2 = [] := by
  unfold LocationClientApiImpl.updateCallbacksSync
  dsimp only
  split
  · cases c.mHalRegistered <;> rfl
  · rfl

def startMsg (batchingOptions : BatchingOptions) : ReqMsg :=
  .startBatching batchingOptions.minInterval batchingOptions.minDistance
    batchingOptions.batchingMode

/-- What an accepted request sends: its subscriptions, if they are new, and a start. -/
def Requested (batchingOptions : BatchingOptions) (msgs : List ReqMsg) : Prop :=
  msgs = [startMsg batchingOptions] ∨
    ∃ mask, msgs = [.updateCallbacks mask, startMsg batchingOptions]

/-- A registered client that is not tracking sends a start, in batching or not. -/
theorem startBatchingSync_not_tracking {c : LocationClientApiImpl} (hreg : c.mHalRegistered = true)
    (htracking : c.mSessionId = 0) (batchingOptions : BatchingOptions) :
    c.startBatchingSync batchingOptions =
      ({ c with mBatchingOptions := batchingOptions, mBatchingId := c.mClientId },
        [.send (startMsg batchingOptions)]) := by
  have hno : c.isInTracking = false :=
    LocationClientApiImpl.isInTracking_eq_false _ |>.mpr htracking
  unfold LocationClientApiImpl.startBatchingSync
  rw [if_neg (by simp [hreg]), if_pos (by simp [hno])]
  rfl

/-- The client once its subscriptions are made for a request. -/
def subscribed (c : LocationClientApiImpl) (callbacksOption : Client.LocationCallbacks) :
    Client.Result :=
  { c with mPositionSessionResponseCbPending := true }.updateCallbacksSync callbacksOption

theorem subscribed_fst (c : LocationClientApiImpl) (callbacksOption : Client.LocationCallbacks) :
    (subscribed c callbacksOption).1.mHalRegistered = c.mHalRegistered ∧
      (subscribed c callbacksOption).1.mSessionId = c.mSessionId ∧
      (subscribed c callbacksOption).1.mPositionSessionResponseCbPending = true ∧
      (subscribed c callbacksOption).1.mLocationCbs =
        LocationClientApiImpl.mergeCallbacks c.mLocationCbs callbacksOption := by
  unfold subscribed
  rw [LocationClientApiImpl.updateCallbacksSync_fst]
  exact ⟨rfl, rfl, rfl, rfl⟩

theorem sent_subscribed (c : LocationClientApiImpl)
    (callbacksOption : Client.LocationCallbacks) :
    sentReqs (subscribed c callbacksOption).2 = [] ∨
      ∃ mask, sentReqs (subscribed c callbacksOption).2 = [.updateCallbacks mask] := by
  unfold subscribed
  rw [LocationClientApiImpl.sent_updateCallbacksSync]
  split
  · exact .inr ⟨_, rfl⟩
  · exact .inl rfl

variable {s : Sys} {h : Daemon.LocHalDaemonClientHandler} {session : Option BatchingOptions}
  {callbacksOption : Client.LocationCallbacks} {batchingOptions : BatchingOptions}

/-- **The slip.**  A request that is accepted finds no tracking session, and so never takes the
way of an update: a client in batching sends another start. -/
theorem startBatchingSession_starts (hs : InBatching s h) :
    s.client.startBatchingSession callbacksOption batchingOptions =
      ({ (subscribed s.client callbacksOption).1 with
          mBatchingOptions := batchingOptions
          mBatchingId := (subscribed s.client callbacksOption).1.mClientId },
        (subscribed s.client callbacksOption).2 ++ [.send (startMsg batchingOptions)]) := by
  obtain ⟨hreg, htracking, -, -⟩ := subscribed_fst s.client callbacksOption
  have hsync := startBatchingSync_not_tracking (hreg.trans hs.registered)
    (htracking.trans hs.notTracking) batchingOptions
  rw [LocationClientApiImpl.startBatchingSession_accepted _ _ _ hs.notPending hs.notTracking]
  show (subscribed s.client callbacksOption).andThen _ = _
  rw [Result.andThen, hsync]

theorem request_requested (session : Option BatchingOptions)
    (callbacksOption : Client.LocationCallbacks) (batchingOptions : BatchingOptions)
    (hs : InBatching s h) : Requested batchingOptions
    (request s session callbacksOption batchingOptions).sys.toDaemon := by
  have hsent : (request s session callbacksOption batchingOptions).sys.toDaemon =
      sentReqs (subscribed s.client callbacksOption).2 ++ [startMsg batchingOptions] := by
    show s.toDaemon ++ sentReqs
      (s.client.startBatchingSession callbacksOption batchingOptions).2 = _
    rw [hs.quiescent.toDaemon, startBatchingSession_starts hs, sentReqs_append]
    rfl
  rw [hsent]
  rcases sent_subscribed s.client callbacksOption with hnone | ⟨mask, hmask⟩
  · rw [hnone]
    exact .inl rfl
  · rw [hmask]
    exact .inr ⟨mask, rfl⟩

theorem request_responses (hs : InBatching s h) :
    (request s session callbacksOption batchingOptions).responses = [] := by
  show responsesOf (s.client.startBatchingSession callbacksOption batchingOptions).2 = []
  rw [startBatchingSession_starts hs, responsesOf_append, subscribed,
    responsesOf_updateCallbacksSync]
  rfl

/-! ## The exchange -/

/-- Where the exchange stands: the daemon's handler, what is on its way, and the calls that
`LocationAPI` has to answer. -/
structure Holds (t : Traced) (h : Daemon.LocHalDaemonClientHandler) (toDaemon : List ReqMsg)
    (calls : List ELocMsgID) (toClient : List IndMsg) : Prop where
  handler : t.sys.daemon.client = some h
  toDaemon : t.sys.toDaemon = toDaemon
  calls : t.sys.daemon.hal.sessionCalls = calls
  toClient : t.sys.toClient = toClient

variable {mPositionMode : GnssSuplMode} {t : Traced} {rest : List ReqMsg} {calls : List ELocMsgID}
  {toClient : List IndMsg}

variable (mPositionMode) in
/-- What the processing of a message makes of the exchange. -/
theorem step_process {msg : ReqMsg} (ht : Holds t h (msg :: rest) calls toClient)
    (id : { id : UInt32 // id ≠ 0 })
    (hmay : t.sys.daemon.hal.MayAnswer ⟨id, id, none⟩ msg)
    {h' : Daemon.LocHalDaemonClientHandler} {acts : List Daemon.Action}
    (hproc : Daemon.LocationApiService.processClientMsg mPositionMode (some h) msg ⟨id, id, none⟩
      true true = (some h', acts)) :
    Holds (step mPositionMode t (.process id)) h' rest
        (calls ++ (Daemon.HalState.calls acts).filterMap Daemon.HalCall.responseTo)
        (toClient ++ Daemon.sentMsgs acts) ∧
      (step mPositionMode t (.process id)).session =
        (Daemon.HalState.calls acts).foldl batchingAfter t.session ∧
      (step mPositionMode t (.process id)).responses = t.responses ∧
      (step mPositionMode t (.process id)).sys.client = t.sys.client := by
  have hacts := Daemon.stepActs_request mPositionMode hmay true true
  rw [ht.handler, hproc] at hacts
  have hstep : step mPositionMode t (.process id) =
      ⟨{ t.sys with toDaemon := rest }.daemonWork mPositionMode
        (.request msg ⟨id, id, none⟩ true true),
        (Daemon.HalState.calls acts).foldl batchingAfter t.session, t.responses⟩ := by
    simp only [step, ht.toDaemon, Link.step, if_pos hmay, hacts]
  rw [hstep]
  refine ⟨⟨?_, ?_, ?_, ?_⟩, rfl, rfl, rfl⟩
  · simp only [Sys.daemonWork, hacts, Daemon.State.settle_client]
  · rfl
  · simp only [Sys.daemonWork, hacts, Daemon.State.settle_hal, Daemon.HalState.record, ht.calls]
  · simp only [Sys.daemonWork, hacts, ht.toClient]

theorem step_process_nil (hmsgs : t.sys.toDaemon = []) (id : { id : UInt32 // id ≠ 0 }) :
    step mPositionMode t (.process id) = t := by
  simp only [step, hmsgs]

theorem step_respond_nil (ht : Holds t h rest [] toClient) :
    step mPositionMode t .respond = t := by
  have hacts : Daemon.stepActs mPositionMode t.sys.daemon (.responseCb .success true) =
      (t.sys.daemon, []) := by
    simp only [Daemon.stepActs, ht.handler, ht.calls]
  simp only [step, Link.step, Daemon.isCallback, if_true, Sys.daemonWork, hacts,
    Daemon.sentMsgs_nil, List.append_nil]

theorem step_deliver_nil (hmsgs : t.sys.toClient = []) : step mPositionMode t .deliver = t := by
  simp only [step, hmsgs]

/-- A subscription asks nothing of `LocationAPI` that is answered. -/
theorem updateSubscription_calls (h : Daemon.LocHalDaemonClientHandler)
    (mask : LocationCallbacksMask) (session : Option BatchingOptions) :
    (Daemon.HalState.calls (h.updateSubscription mask).2).filterMap Daemon.HalCall.responseTo = [] ∧
      Daemon.sentMsgs (h.updateSubscription mask).2 = [] ∧
      (Daemon.HalState.calls (h.updateSubscription mask).2).foldl batchingAfter session =
        session := by
  unfold Daemon.LocHalDaemonClientHandler.updateSubscription
  by_cases hapi : h.mLocationApi = true
  · rw [if_pos hapi]
    exact ⟨rfl, rfl, rfl⟩
  · rw [if_neg hapi]
    exact ⟨rfl, rfl, rfl⟩

variable (mPositionMode) in
/-- A subscription changes the handler's mask and callbacks, and nothing else of the exchange. -/
theorem step_updateCallbacks {mask : LocationCallbacksMask}
    (ht : Holds t h (.updateCallbacks mask :: rest) calls toClient)
    (id : { id : UInt32 // id ≠ 0 }) :
    Holds (step mPositionMode t (.process id)) (h.updateSubscription mask).1 rest calls toClient ∧
      (step mPositionMode t (.process id)).session = t.session ∧
      (step mPositionMode t (.process id)).responses = t.responses ∧
      (step mPositionMode t (.process id)).sys.client = t.sys.client := by
  obtain ⟨hcalls, hsent, hfold⟩ := updateSubscription_calls h mask t.session
  obtain ⟨hholds, hsession, hrest⟩ := step_process mPositionMode ht id trivial
    (rfl : _ = (some (h.updateSubscription mask).1, (h.updateSubscription mask).2))
  rw [hcalls, hsent, List.append_nil, List.append_nil] at hholds
  exact ⟨hholds, hsession.trans hfold, hrest⟩

/-! ### A handler in batching -/

/-- The messages a request sends. -/
def OfRequest (msg : ReqMsg) : Prop :=
  (∃ mask, msg = .updateCallbacks mask) ∨ ∃ batchingOptions, msg = startMsg batchingOptions

/-- The exchange with a handler that has a batching session: nothing comes of it. -/
structure Ignored (t : Traced) : Prop where
  holds : ∃ h msgs, Holds t h msgs [] [] ∧ h.mBatchingId ≠ 0 ∧ ∀ msg ∈ msgs, OfRequest msg
  responses : t.responses = []

/-- A second start does not reach `LocationAPI`. -/
theorem startBatching_ignored (batchingOptions : BatchingOptions) (hid : h.mBatchingId ≠ 0)
    (ret : UInt32) :
    Daemon.LocationApiService.startBatching batchingOptions.minInterval
      batchingOptions.minDistance batchingOptions.batchingMode ret h =
      (({ h with mBatching := true, mBatchingMode := batchingOptions.batchingMode } :
        Daemon.LocHalDaemonClientHandler).pushPending .startBatching, []) := by
  have hcalls : h.startBatching batchingOptions.minInterval batchingOptions.minDistance
      batchingOptions.batchingMode ret = (h, []) := by
    unfold Daemon.LocHalDaemonClientHandler.startBatching
    rw [if_neg (by simp [hid])]
  unfold Daemon.LocationApiService.startBatching
  rw [hcalls]
  exact if_neg (by simpa using hid)

theorem Ignored.step (ht : Ignored t) (e : Exchange) : Ignored (step mPositionMode t e) := by
  obtain ⟨⟨h, msgs, hholds, hid, hmsgs⟩, hresponses⟩ := ht
  have hsame : Ignored t := ⟨⟨h, msgs, hholds, hid, hmsgs⟩, hresponses⟩
  cases e with
  | respond => rwa [step_respond_nil hholds]
  | deliver => rwa [step_deliver_nil hholds.toClient]
  | process id =>
    cases msgs with
    | nil => rwa [step_process_nil hholds.toDaemon]
    | cons msg rest =>
      have hrest : ∀ msg ∈ rest, OfRequest msg :=
        fun msg hmem => hmsgs msg (List.mem_cons_of_mem _ hmem)
      rcases hmsgs msg List.mem_cons_self with ⟨mask, rfl⟩ | ⟨batchingOptions, rfl⟩
      · obtain ⟨hholds', _, hresp, _⟩ := step_updateCallbacks mPositionMode hholds id
        exact ⟨⟨_, rest, hholds', hid, hrest⟩, hresp.trans hresponses⟩
      · have hproc := startBatching_ignored batchingOptions hid id
        obtain ⟨hholds', _, hresp, _⟩ := step_process mPositionMode hholds id trivial
          (congrArg (fun r => (some r.1, r.2)) hproc)
        exact ⟨⟨_, rest, hholds', hid, hrest⟩, hresp.trans hresponses⟩

theorem request_ignored (session : Option BatchingOptions)
    (callbacksOption : Client.LocationCallbacks) (batchingOptions : BatchingOptions)
    (hs : InBatching s h) (hid : h.mBatchingId ≠ 0) :
    Ignored (request s session callbacksOption batchingOptions) where
  holds := by
    refine ⟨h, _, ⟨hs.handler, rfl, hs.quiescent.calls, hs.quiescent.toClient⟩, hid, ?_⟩
    rcases request_requested session callbacksOption batchingOptions hs with hone | ⟨mask, htwo⟩
    · rw [hone]
      rintro msg hmem
      exact .inr ⟨_, List.mem_singleton.mp hmem⟩
    · rw [htwo]
      rintro msg hmem
      rcases List.mem_cons.mp hmem with rfl | hmem
      · exact .inl ⟨mask, rfl⟩
      · exact .inr ⟨_, List.mem_singleton.mp hmem⟩
  responses := request_responses hs

/-! ### A handler that is not in batching -/

/-- What the start makes of a handler without a batching session. -/
theorem startBatching_started (batchingOptions : BatchingOptions) (hid : h.mBatchingId = 0)
    (hapi : h.mLocationApi = true)
    (id : { id : UInt32 // id ≠ 0 }) :
    ∃ h', Daemon.LocationApiService.startBatching batchingOptions.minInterval
        batchingOptions.minDistance batchingOptions.batchingMode id h =
        (h', [.hal (.startBatching (Daemon.LocHalDaemonClientHandler.batchOptions
          batchingOptions.minInterval batchingOptions.minDistance
          batchingOptions.batchingMode))]) ∧
      h'.mPendingMessages = h.mPendingMessages ++ [.startBatching] ∧
      h'.mIpcSender = h.mIpcSender := by
  unfold Daemon.LocationApiService.startBatching Daemon.LocHalDaemonClientHandler.startBatching
  rw [if_pos (by simp [hid, hapi])]
  dsimp only
  rw [if_neg (by simpa using id.2)]
  exact ⟨_, rfl, rfl, rfl⟩

/-- The application waits for an answer. -/
def Waits (t : Traced) : Prop :=
  t.sys.client.mPositionSessionResponseCbPending = true ∧
    t.sys.client.mLocationCbs.responseCb.isSome = true

/-- The stages of the exchange with a handler that has no batching session. -/
inductive Progress (batchingOptions : BatchingOptions) (t : Traced) : Prop
  | requested (h : Daemon.LocHalDaemonClientHandler) (msgs : List ReqMsg)
      (holds : Holds t h msgs [] []) (msgs : Requested batchingOptions msgs)
      (idle : h.mBatchingId = 0) (api : h.mLocationApi = true) (sender : h.mIpcSender = true)
      (pending : h.mPendingMessages = []) (waits : Waits t) (responses : t.responses = [])
  | called (h : Daemon.LocHalDaemonClientHandler) (holds : Holds t h [] [.startBatching] [])
      (sender : h.mIpcSender = true) (pending : h.mPendingMessages = [.startBatching])
      (session : t.session = some (Daemon.LocHalDaemonClientHandler.batchOptions
        batchingOptions.minInterval batchingOptions.minDistance batchingOptions.batchingMode))
      (waits : Waits t) (responses : t.responses = [])
  | answered (h : Daemon.LocHalDaemonClientHandler)
      (holds : Holds t h [] [] [.genericResp .startBatching .success])
      (session : t.session = some (Daemon.LocHalDaemonClientHandler.batchOptions
        batchingOptions.minInterval batchingOptions.minDistance batchingOptions.batchingMode))
      (waits : Waits t) (responses : t.responses = [])
  | done (h : Daemon.LocHalDaemonClientHandler) (holds : Holds t h [] [] [])
      (updated : Updated t batchingOptions)

variable (mPositionMode) in
theorem step_respond {call : ELocMsgID} (ht : Holds t h rest [call] toClient)
    (hsender : h.mIpcSender = true) (hpending : h.mPendingMessages = [.startBatching]) :
    ∃ h', Holds (step mPositionMode t .respond) h' rest []
        (toClient ++ [.genericResp .startBatching .success]) ∧
      (step mPositionMode t .respond).session = t.session ∧
      (step mPositionMode t .respond).responses = t.responses ∧
      (step mPositionMode t .respond).sys.client = t.sys.client := by
  obtain ⟨hfst, hsent⟩ := h.onResponseCb_true .success hsender
  rw [hpending] at hfst hsent
  have hacts : Daemon.stepActs mPositionMode t.sys.daemon (.responseCb .success true) =
      (.settle (h.onResponseCb .success true).1 { t.sys.daemon.hal with sessionCalls := [] }
        (t.sys.daemon.answered ++
          [(call, Daemon.respondedWith (h.onResponseCb .success true).2)]),
        (h.onResponseCb .success true).2) := by
    simp only [Daemon.stepActs, ht.handler, ht.calls]
  have hstep : step mPositionMode t .respond =
      ⟨t.sys.daemonWork mPositionMode (.responseCb .success true), t.session, t.responses⟩ := rfl
  rw [hstep]
  refine ⟨{ h with mPendingMessages := [] }, ⟨?_, ht.toDaemon, ?_, ?_⟩, rfl, rfl, rfl⟩
  · simp only [Sys.daemonWork, hacts, Daemon.State.settle_client, hfst]
    rfl
  · simp only [Sys.daemonWork, hacts, hfst, Daemon.State.settle_hal]
  · simp only [Sys.daemonWork, hacts, hsent, ht.toClient]
    rfl

variable (mPositionMode) in
theorem step_deliver {err : LocationError}
    (ht : Holds t h rest calls [.genericResp .startBatching err]) (hwaits : Waits t) :
    Holds (step mPositionMode t .deliver) h rest calls [] ∧
      (step mPositionMode t .deliver).session = t.session ∧
      (step mPositionMode t .deliver).responses = t.responses ++ [err] := by
  obtain ⟨hpending, hcb⟩ := hwaits
  have houts : t.sys.client.onReceive (.genericResp .startBatching err) =
      ({ t.sys.client with mPositionSessionResponseCbPending := false },
        [t.sys.client.callResponseCb err]) := by
    show t.sys.client.onGenericResponse .startBatching err = _
    unfold LocationClientApiImpl.onGenericResponse
      LocationClientApiImpl.invokePositionSessionResponseCb
    rw [if_pos (by decide), if_pos hpending, if_pos hcb]
  have hstep : step mPositionMode t .deliver =
      ⟨{ t.sys with toClient := [] }.clientWork
        (t.sys.client.onReceive (.genericResp .startBatching err)) true, t.session,
        t.responses ++ responsesOf
          (t.sys.client.onReceive (.genericResp .startBatching err)).2⟩ := by
    simp only [step, ht.toClient, Link.step]
  rw [hstep, houts]
  refine ⟨⟨ht.handler, ?_, ht.calls, rfl⟩, rfl, rfl⟩
  exact (List.append_nil _).trans ht.toDaemon

theorem Progress.step (ht : Progress batchingOptions t) (e : Exchange) :
    Progress batchingOptions (step mPositionMode t e) := by
  have hsame := ht
  cases ht with
  | requested h msgs hholds hmsgs hid hapi hsender hpending hwaits hresponses =>
    cases e with
    | respond => rwa [step_respond_nil hholds]
    | deliver => rwa [step_deliver_nil hholds.toClient]
    | process id =>
      rcases hmsgs with rfl | ⟨mask, rfl⟩
      · obtain ⟨h', hproc, hpending', hsender'⟩ := startBatching_started batchingOptions hid hapi id
        obtain ⟨hholds', hsession, hresp, hclient⟩ := step_process mPositionMode hholds id trivial
          (congrArg (fun r => (some r.1, r.2)) hproc)
        rw [hpending, List.nil_append] at hpending'
        refine .called h' hholds' (hsender'.trans hsender) hpending' hsession ?_
          (hresp.trans hresponses)
        rwa [Waits, hclient]
      · obtain ⟨hholds', _, hresp, hclient⟩ := step_updateCallbacks mPositionMode hholds id
        refine .requested _ _ hholds' (.inl rfl) hid hapi hsender hpending ?_
          (hresp.trans hresponses)
        rwa [Waits, hclient]
  | called h hholds hsender hpending hsession hwaits hresponses =>
    cases e with
    | process id => rwa [step_process_nil hholds.toDaemon]
    | deliver => rwa [step_deliver_nil hholds.toClient]
    | respond =>
      obtain ⟨h', hholds', hsession', hresp, hclient⟩ :=
        step_respond mPositionMode hholds hsender hpending
      refine .answered h' hholds' (hsession'.trans hsession) ?_ (hresp.trans hresponses)
      rwa [Waits, hclient]
  | answered h hholds hsession hwaits hresponses =>
    cases e with
    | process id => rwa [step_process_nil hholds.toDaemon]
    | respond => rwa [step_respond_nil hholds]
    | deliver =>
      obtain ⟨hholds', hsession', hresp⟩ := step_deliver mPositionMode hholds
        hwaits
      refine .done h hholds' ⟨hsession'.trans hsession, ?_⟩
      rw [hresp, hresponses]
      rfl
  | done h hholds hupdated =>
    cases e with
    | process id => rwa [step_process_nil hholds.toDaemon]
    | respond => rwa [step_respond_nil hholds]
    | deliver => rwa [step_deliver_nil hholds.toClient]

/-- The exchange comes to rest only when it is done. -/
theorem Progress.updated (ht : Progress batchingOptions t) (hquiet : Quiescent t.sys) :
    Updated t batchingOptions := by
  cases ht with
  | requested h msgs hholds hmsgs =>
    have hnil : msgs = [] := hholds.toDaemon.symm.trans hquiet.toDaemon
    rcases hmsgs with rfl | ⟨mask, rfl⟩ <;> cases hnil
  | called h hholds => cases hholds.calls.symm.trans hquiet.calls
  | answered h hholds => cases hholds.toClient.symm.trans hquiet.toClient
  | done h hholds hupdated => exact hupdated

theorem request_progress (hs : InBatching s h) (hid : h.mBatchingId = 0)
    (hcb : callbacksOption.responseCb.isSome = true) :
    Progress batchingOptions (request s session callbacksOption batchingOptions) := by
  refine .requested h _ ⟨hs.handler, rfl, hs.quiescent.calls, hs.quiescent.toClient⟩
    (request_requested _ _ _ hs) hid hs.locationApi hs.sender hs.pending ?_ (request_responses hs)
  obtain ⟨-, -, hpending, hcbs⟩ := subscribed_fst s.client callbacksOption
  have hclient : (request s session callbacksOption batchingOptions).sys.client =
      { (subscribed s.client callbacksOption).1 with
          mBatchingOptions := batchingOptions
          mBatchingId := (subscribed s.client callbacksOption).1.mClientId } :=
    congrArg Prod.fst (startBatchingSession_starts hs)
  rw [Waits, hclient]
  refine ⟨hpending, ?_⟩
  show (subscribed s.client callbacksOption).1.mLocationCbs.responseCb.isSome = true
  rw [hcbs]
  show (callbacksOption.responseCb <|> s.client.mLocationCbs.responseCb).isSome = true
  cases hcb' : callbacksOption.responseCb with
  | none => simp [hcb'] at hcb
  | some cb => rfl

/-! ## New options -/

/-- **New options for a batching session** take effect and are answered, when the exchange has
come to rest, exactly if the daemon has no batching session of the client. -/
theorem update_takes_effect_iff (mPositionMode : GnssSuplMode) (hs : InBatching s h)
    (hcb : callbacksOption.responseCb.isSome = true) (es : List Exchange)
    (hquiet : Quiescent
      (run (step mPositionMode) (request s session callbacksOption batchingOptions) es).sys) :
    Updated (run (step mPositionMode) (request s session callbacksOption batchingOptions) es)
      batchingOptions ↔ h.mBatchingId = 0 := by
  constructor
  · intro hupdated
    by_contra hid
    have hstep : ∀ t e, Ignored t → Ignored (step mPositionMode t e) := fun _ e ht => ht.step e
    have hignored := invariant hstep
      (request_ignored session callbacksOption batchingOptions hs hid) es
    exact List.cons_ne_nil _ _ (hupdated.responses.symm.trans hignored.responses)
  · intro hid
    have hstep : ∀ t e, Progress batchingOptions t →
        Progress batchingOptions (step mPositionMode t e) := fun _ e ht => ht.step e
    exact (invariant hstep (request_progress hs hid hcb) es).updated hquiet

/-- Batches of fixes a minute or ten minutes apart. -/
def everyMinute : BatchingOptions := { BatchingOptions.zero with minInterval := 60000 }

def everyTenMinutes : BatchingOptions := { BatchingOptions.zero with minInterval := 600000 }

def wantsBatches : Client.LocationCallbacks :=
  { LocationCallbacks.zero with responseCb := some 0, batchingCb := true }

/-- The handler of a client that batches. -/
def batchingHandler : Daemon.LocHalDaemonClientHandler :=
  { Daemon.LocHalDaemonClientHandler.new .locationClientApi true with
    mBatchingId := 1
    mBatching := true
    mBatchOptions := Daemon.LocHalDaemonClientHandler.batchOptions 60000 0 .routine
    mSubscriptionMask := eLocCbBatchingBit }

/-- A client that registered, started batching every minute and was answered. -/
def batchingEveryMinute : Sys :=
  { client :=
      { LocationClientApiImpl.new ⟨1, by decide⟩ with
        mHalRegistered := true
        mBatchingId := 1
        mBatchingOptions := everyMinute
        mLocationCbs := wantsBatches
        mCallbacksMask := eLocCbBatchingBit }
    toDaemon := []
    daemon := { client := some batchingHandler, hal := .empty, answered := [] }
    toClient := [] }

theorem inBatching_everyMinute : InBatching batchingEveryMinute batchingHandler where
  quiescent := ⟨rfl, rfl, rfl⟩
  registered := rfl
  batching := by decide
  notTracking := rfl
  notPending := rfl
  handler := rfl
  sender := rfl
  locationApi := rfl
  pending := rfl

/-- The request for ten minutes, and the exchange that follows. -/
def slowedDown : Traced :=
  run (step .standalone)
    (request batchingEveryMinute
      (some (Daemon.LocHalDaemonClientHandler.batchOptions 60000 0 .routine)) wantsBatches
      everyTenMinutes)
    [.process ⟨2, by decide⟩, .respond, .deliver]

theorem update_takes_effect_sample :
    Updated slowedDown everyTenMinutes ↔ batchingHandler.mBatchingId = 0 :=
  update_takes_effect_iff .standalone inBatching_everyMinute rfl
    [.process ⟨2, by decide⟩, .respond, .deliver] ⟨rfl, rfl, rfl⟩

/-- The batches still come every minute, and the request is not answered. -/
theorem update_ignored : Quiescent slowedDown.sys ∧ slowedDown.responses = [] ∧
    slowedDown.session = some (Daemon.LocHalDaemonClientHandler.batchOptions 60000 0 .routine) ∧
    ¬ Updated slowedDown everyTenMinutes := by
  refine ⟨⟨rfl, rfl, rfl⟩, rfl, rfl, fun hupdated => ?_⟩
  exact absurd hupdated.responses (by decide)

end Traced

end LocationStack.Link
